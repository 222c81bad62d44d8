import Keywarden.Identity.Store
import Keywarden.Proofs.Disk.Beside
import Keywarden.Proofs.Encoding.Hex

/-!
# Identities and the other files

The file of an identity is named by the digits of its public key, so that saving one makes
no file of any other kind.  Loading passes over all that is named in another way.
-/

namespace Keywarden

namespace Hex

private theorem digit_ne_slash (value : UInt8) (low : value < 16) :
    Char.ofNat (digit value).toNat ≠ '/' := by
  revert low
  exact Bytes.forall_byte (fun value => value < 16 → Char.ofNat (digit value).toNat ≠ '/')
    (by decide +kernel) value

private theorem slash_not_mem_encode (bytes : Bytes) : '/' ∉ (encode bytes).toList := by
  rw [toList_encode, List.mem_map]
  rintro ⟨byte, member, same⟩
  obtain ⟨value, small, rfl⟩ := exists_value_of_mem_digits member
  exact digit_ne_slash value small same

end Hex

namespace Identity

open Keywarden.Action

def fileName (identity : Identity) : String :=
  identity.recipientId ++ ".json"

theorem length_fileName (identity : Identity) : identity.fileName.toList.length = 69 := by
  have digits := Hex.length_digits identity.publicKey.bytes
  rw [identity.publicKey.length_eq] at digits
  simp [fileName, recipientId, PublicKey.recipientId, Hex.encode, Bytes.ascii, digits]

theorem ne_fileName {name : String} (other : name.toList.length ≠ 69) (identity : Identity) :
    identity.fileName ≠ name := by
  rintro rfl
  exact other identity.length_fileName

theorem plain_fileName (identity : Identity) : Path.Plain identity.fileName where
  noSlash := by
    have hex := Hex.slash_not_mem_encode identity.publicKey.bytes
    have suffix : '/' ∉ ".json".toList := by decide
    rw [fileName, String.toList_append, List.mem_append, not_or]
    exact ⟨hex, suffix⟩
  visible := identity.ne_fileName (by decide)
  notHere := identity.ne_fileName (by decide)
  notOuter := identity.ne_fileName (by decide)

theorem extension?_fileName (identity : Identity) :
    Path.extension? identity.fileName = some "json" := by
  have reversed : identity.fileName.toList.reverse =
      ['n', 'o', 's', 'j'] ++ '.' :: identity.recipientId.toList.reverse := by
    simp [fileName]
  have nonempty : identity.recipientId.toList ≠ [] := by
    intro empty
    have length := identity.length_fileName
    simp [fileName, empty] at length
  unfold Path.extension?
  rw [reversed, List.span_eq_takeWhile_dropWhile]
  simp [nonempty]

/-- What holds of writing a file holds of filling it. -/
theorem holds_fill {Holds : ∀ {α : Type}, Action Volume α → Prop} (inherited : Inherited Holds)
    {place : String} (writes : ∀ content, Holds (Volume.take (.write place content)))
    (content : Bytes) (broken : Option Break) : Holds (fill place content broken) := by
  cases broken with
  | none => exact writes content
  | some broken =>
    unfold fill
    dsimp only
    split
    · exact inherited.bind (writes _) fun _ => inherited.fail _
    · exact writes content

theorem keeps_save {name : String} (other : name.toList.length ≠ 69) (working directory : String)
    (broken : Option Break) (identity : Identity) :
    (identity.save working directory broken).Keeps (Volume.filesNamed name) := by
  have created : (Step.create (Path.join working (identity.pathIn directory)) []).Spares name := by
    have path := Path.steps_join_join identity.plain_fileName working directory
    exact ⟨_, identity.fileName, identity.plain_fileName, identity.ne_fileName other, path⟩
  have written (content : Bytes) :
      (Step.write (Path.join working (identity.pathIn directory)) content).Spares name := by
    have path := Path.names_join_join identity.plain_fileName working directory
    exact ⟨_, identity.fileName, identity.plain_fileName, identity.ne_fileName other, path⟩
  have fills := holds_fill (inherited_keeps (Volume.filesNamed name))
    (fun content => Volume.keeps_take (written content)) identity.encode broken
  refine ((Volume.keeps_makeDirectories name _).mapFailure _).bind fun _ => ?_
  refine ((Volume.keeps_take created).mapFailure _).bind fun _ => ?_
  exact (fills.mapFailure _).bind fun _ => keeps_pure _ _

theorem holds_loadAll {Holds : ∀ {α : Type}, Action Volume α → Prop}
    (looking : Volume.Looking Holds) (working directory : String) :
    Holds (loadAll working directory) := by
  refine looking.bind looking.get fun volume => ?_
  dsimp only
  split
  · exact looking.bind (looking.examine _) fun names => looking.pure _
  · exact looking.pure []

theorem keeps_loadAll {γ : Type} (view : Volume → γ) (working directory : String) :
    (loadAll working directory).Keeps view :=
  holds_loadAll (Volume.looking_keeps view) working directory

/-! ### Beside other places -/

/-- The identities in a directory; one that is missing holds none. -/
def loaded (path : String) (disk : Disk) : Except FileFault (List Identity) :=
  if disk.holds path then
    (disk.listNames path).map fun names =>
      (candidates names).filterMap fun name => (load disk path name).toOption
  else
    .ok []

theorem loadAll_eq (working directory : String) :
    loadAll working directory = Volume.examine (loaded (Path.join working directory)) := by
  funext volume
  let path := Path.join working directory
  change (if volume.disk.holds path then
      Volume.examine (·.listNames path) >>= fun names =>
        pure ((candidates names).filterMap fun name => (load volume.disk path name).toOption)
    else pure [] : Action Volume (List Identity)) volume = Volume.examine (loaded path) volume
  rw [Volume.examine_map]
  unfold Volume.examine loaded
  cases volume.disk.holds path with
  | false =>
    simp only [Bool.false_eq_true, if_false]
    rfl
  | true => simp only [if_true]

def Unidentified (places : List Location) : Prop :=
  ∀ place ∈ places, ∀ name, place.getLast? = some name → Path.extension? name ≠ some "json"

section Beside

variable {places : List Location} (other : Unidentified places)
include other

omit other in
theorem mem_candidates {names : List String} {name : String} :
    name ∈ candidates names ↔ name ∈ names ∧ Path.extension? name = some "json" := by
  rw [candidates, List.mem_filter, decide_eq_true_eq]

/-- The directory cannot be listed, or the same files in it may hold identities and are read
alike. -/
theorem candidates_alike {path : String} (avoids : Path.Avoids places [] (Path.names path))
    {first second : Disk} (beside : Disk.Beside places first second) :
    (∃ fault, first.listNames path = .error fault ∧ second.listNames path = .error fault) ∨
      ∃ left right, first.listNames path = .ok left ∧ second.listNames path = .ok right ∧
        candidates left = candidates right ∧
        ∀ name ∈ candidates right, load first path name = load second path name := by
  rcases beside.listNames_cases avoids with refused | ⟨directory, outside, left, right⟩
  · exact .inl refused
  · have past (name : String) (counts : Path.extension? name = some "json") :
        ¬ Path.Covered places (directory ++ [name]) := by
      rintro ⟨place, member, leads⟩
      rcases List.prefix_concat_iff.mp leads with same | inside
      · exact other place member name (by rw [same, List.getLast?_concat]) counts
      · exact outside ⟨place, member, inside⟩
    have listed : candidates (first.namesIn directory) = candidates (second.namesIn directory) :=
      Disk.filter_namesIn_eq (fun name => decide (Path.extension? name = some "json"))
        fun name counts => beside.same _ (past name (of_decide_eq_true counts))
    refine .inr ⟨_, _, left, right, listed, fun name member => ?_⟩
    obtain ⟨member, counts⟩ := mem_candidates.mp member
    have standing := Disk.mem_namesIn.mp member
    rw [← beside.same _ (past name counts)] at standing
    have plain := beside.plain _ (past name counts) standing name (by simp)
    have different : ∀ place ∈ places, place.getLast? ≠ some name := fun place member named =>
      other place member name named counts
    have along : Path.Avoids places [] (Path.names (Path.join path name)) := by
      rw [Path.names_join _ _ plain.noSlash plain.visible]
      exact avoids.concat_of_ne plain different
    unfold load
    rw [beside.readFile_eq along]

private theorem loaded_eq {path : String} (avoids : Path.Avoids places [] (Path.names path))
    {first second : Disk} (beside : Disk.Beside places first second) :
    loaded path first = loaded path second := by
  unfold loaded
  rw [beside.holds_eq avoids]
  split
  · rcases candidates_alike other avoids beside with
      ⟨fault, left, right⟩ | ⟨_, _, left, right, same, alike⟩
    · rw [left, right]
      rfl
    · rw [left, right]
      refine congrArg Except.ok ?_
      dsimp only
      rw [same]
      exact List.filterMap_congr fun name member => by rw [alike name member]
  · rfl

theorem skipped_eq {working directory : String}
    (avoids : Path.Avoids places [] (Path.names (Path.join working directory)))
    {first second : Disk} (beside : Disk.Beside places first second) :
    skipped working directory first = skipped working directory second := by
  unfold skipped
  dsimp only
  rcases candidates_alike other avoids beside with
    ⟨fault, leftFails, rightFails⟩ | ⟨_, right, leftListed, rightListed, same, alike⟩
  · rw [leftFails, rightFails]
  · have reported : ∀ name ∈ candidates right,
        skipped? first (Path.join working directory) name =
          skipped? second (Path.join working directory) name := by
      intro name member
      unfold skipped?
      rw [alike name member]
    rw [leftListed, rightListed]
    dsimp only
    rw [same]
    exact List.filterMap_congr reported

theorem respects_loadAll {working directory : String}
    (avoids : Path.Avoids places [] (Path.names (Path.join working directory))) :
    (loadAll working directory).Respects (Volume.Beside places) := by
  rw [loadAll_eq]
  exact Volume.respects_examine fun _ _ => loaded_eq other avoids

theorem respects_save {working directory : String}
    (avoids : Path.Avoids places [] (Path.names (Path.join working directory)))
    (broken : Option Break) (identity : Identity) :
    (identity.save working directory broken).Respects (Volume.Beside places) := by
  have different : ∀ place ∈ places, place.getLast? ≠ some identity.fileName :=
    fun place member named =>
      other place member identity.fileName named identity.extension?_fileName
  have along : Path.Avoids places []
      (Path.names (Path.join working (identity.pathIn directory))) := by
    have path := Path.names_join_join identity.plain_fileName working directory
    change Path.names (Path.join working (identity.pathIn directory)) = _ at path
    rw [path]
    exact avoids.concat_of_ne identity.plain_fileName different
  have makes : (Volume.makeDirectories (Path.join working directory)).Respects
      (Volume.Beside places) := Volume.respects_makeDirectories avoids
  have creates : (Volume.take (.create (Path.join working (identity.pathIn directory))
      [])).Respects (Volume.Beside places) := Volume.respects_take along
  have inherited := inherited_respects (Volume.Beside places)
  have writes (content : Bytes) : (Volume.take (.write (Path.join working
      (identity.pathIn directory)) content)).Respects (Volume.Beside places) :=
    Volume.respects_take along
  have fills := holds_fill inherited writes identity.encode broken
  exact inherited.bind (makes.mapFailure _) fun _ => inherited.bind (creates.mapFailure _) fun _ =>
    inherited.bind (fills.mapFailure _) fun _ => inherited.pure _

end Beside

end Identity

end Keywarden
