import Keywarden.Proofs.Disk.Direct
import Keywarden.Proofs.Disk.Within
import Keywarden.Proofs.Encoding.Base64
import Keywarden.Proofs.Identity.SealedBox
import Keywarden.Proofs.Identity.Store
import Keywarden.Proofs.Json.Document

/-!
# What is loaded after a save

A directory yields the identities of its files, in the order of their names.  A file is passed
over when it has another extension, when it cannot be read, or when it holds no identity; it
changes nothing about the files beside it.

Saving an identity makes one private file where nothing stood, and directories on the way to it.
If the directory can be listed, it then yields the identities that it yielded before and the one
that was saved.  This takes for granted that the directory was there before, or that nothing was
where its path leads now: a path through a missing directory and back leads nowhere until a save
makes that directory.
-/

namespace Keywarden

open Keywarden.Action Disk

namespace Identity

/-! ### Files that hold identities -/

/-- The texts in the file of an identity: the recipient and the secret. -/
def texts (content : Bytes) : Except Json.Refusal (List String) :=
  Json.readAs (Json.askRecord "struct IdentityFile" ["recipient_id", "secret_key"]) content

/-- The file of a directory holds the identity. -/
def Stores (disk : Disk) (path name : String) (identity : Identity) : Prop :=
  Path.extension? name = some "json" ∧ ∃ content recipient secret,
    disk.readFile (Path.join path name) = .ok content ∧
      texts content = .ok [recipient, secret] ∧
      Base64.decode (Bytes.ofString secret) = .ok identity.secret

/-- Why a file of a directory holds no identity. -/
inductive PassedOver (disk : Disk) (path name : String) : Prop
  | extension (other : Path.extension? name ≠ some "json")
  | unreadable {fault : FileFault} (refused : disk.readFile (Path.join path name) = .error fault)
  | malformed {content : Bytes} {refusal : Json.Refusal}
      (read : disk.readFile (Path.join path name) = .ok content)
      (refused : texts content = .error refusal)
  | encoding {content : Bytes} {recipient secret : String} {fault : Base64.Fault}
      (read : disk.readFile (Path.join path name) = .ok content)
      (given : texts content = .ok [recipient, secret])
      (refused : Base64.decode (Bytes.ofString secret) = .error fault)
  | size {content bytes : Bytes} {recipient secret : String}
      (read : disk.readFile (Path.join path name) = .ok content)
      (given : texts content = .ok [recipient, secret])
      (decoded : Base64.decode (Bytes.ofString secret) = .ok bytes) (other : bytes.length ≠ 32)

/-- Some of the files in a row are passed over, and the others hold the identities in turn. -/
inductive Yields (disk : Disk) (path : String) : List String → List Identity → Prop
  | nil : Yields disk path [] []
  | passed {name : String} {names : List String} {identities : List Identity}
      (passed : PassedOver disk path name) (rest : Yields disk path names identities) :
      Yields disk path (name :: names) identities
  | stored {name : String} {names : List String} {identity : Identity}
      {identities : List Identity} (stores : Stores disk path name identity)
      (rest : Yields disk path names identities) :
      Yields disk path (name :: names) (identity :: identities)

private theorem length_of_mapM {α β : Type} {fault : Type} {read : α → Except fault β}
    {items : List α}
    {results : List β} (found : items.mapM read = .ok results) : results.length = items.length := by
  induction items generalizing results with
  | nil =>
    cases found
    rfl
  | cons item rest ih =>
    rw [List.mapM_cons] at found
    obtain ⟨result, -, found⟩ := bind_eq_ok.mp found
    obtain ⟨others, restFound, found⟩ := bind_eq_ok.mp found
    cases found
    rw [List.length_cons, List.length_cons, ih restFound]

private theorem length_of_askRecord {expected : String} {names : List String} {value : Json.Value}
    {found : List String} (asked : Json.askRecord expected names value = .ok found) :
    found.length = names.length := by
  cases value with
  | object members =>
    obtain ⟨filled, -, asked⟩ := bind_eq_ok.mp asked
    exact length_of_mapM asked
  | array items =>
    obtain ⟨read, each, asked⟩ := bind_eq_ok.mp asked
    have length := length_of_mapM each
    rw [List.length_range] at length
    split at asked
    · cases asked
    · cases asked
      exact length
  | null | bool | number | string => obtain ⟨_, -, ⟨⟩⟩ := bind_eq_ok.mp asked

/-- A text that is read as the file of an identity holds a recipient and a secret. -/
theorem exists_of_texts {content : Bytes} {found : List String} (given : texts content = .ok found) :
    ∃ recipient secret, found = [recipient, secret] := by
  unfold texts Json.readAs at given
  split at given
  · cases given
  · split at given
    · rename_i asked
      cases given
      exact List.length_eq_two.mp (length_of_askRecord asked)
    · cases given

theorem decode_of_texts {content : Bytes} {recipient secret : String}
    (given : texts content = .ok [recipient, secret]) :
    (decode content).toOption = match Base64.decode (Bytes.ofString secret) with
      | .ok secret => ofSecret? secret
      | .error _ => none := by
  unfold texts at given
  simp only [decode, given, List.getLastD_cons, List.getLastD_nil]
  cases Base64.decode (Bytes.ofString secret) with
  | error fault => rfl
  | ok bytes =>
    dsimp only
    cases ofSecret? bytes <;> rfl

def load? (disk : Disk) (directory name : String) : Option Identity :=
  if Path.extension? name = some "json" then (load disk directory name).toOption else none

theorem filterMap_candidates (disk : Disk) (path : String) (names : List String) :
    (candidates names).filterMap (fun name => (load disk path name).toOption) =
      names.filterMap (load? disk path) := by
  unfold candidates
  rw [List.filterMap_filter]
  congr 1
  funext name
  simp only [load?, decide_eq_true_eq]

/-- A file is passed over, or it holds an identity. -/
theorem load?_cases (disk : Disk) (path name : String) :
    (load? disk path name = none ∧ PassedOver disk path name) ∨
      ∃ identity, load? disk path name = some identity ∧ Stores disk path name identity := by
  unfold load?
  by_cases extension : Path.extension? name = some "json"
  · rw [if_pos extension]
    unfold load
    cases read : disk.readFile (Path.join path name) with
    | error fault => exact .inl ⟨rfl, .unreadable read⟩
    | ok content =>
      change ((decode content).toOption = none ∧ _) ∨
        ∃ identity, (decode content).toOption = some identity ∧ _
      cases given : texts content with
      | error refusal =>
        refine .inl ⟨?_, .malformed read given⟩
        unfold texts at given
        simp only [decode, given]
        rfl
      | ok found =>
        obtain ⟨recipient, secret, rfl⟩ := exists_of_texts given
        rw [decode_of_texts given]
        cases decoded : Base64.decode (Bytes.ofString secret) with
        | error fault => exact .inl ⟨rfl, .encoding read given decoded⟩
        | ok bytes =>
          by_cases size : bytes.length = 32
          · exact .inr ⟨⟨bytes, size⟩, ofSecret?_secret ⟨bytes, size⟩, extension, content,
              recipient, secret, read, given, decoded⟩
          · exact .inl ⟨dif_neg size, .size read given decoded size⟩
  · rw [if_neg extension]
    exact .inl ⟨rfl, .extension extension⟩

private theorem yields_filterMap (disk : Disk) (path : String) (names : List String) :
    Yields disk path names (names.filterMap (load? disk path)) := by
  induction names with
  | nil => exact .nil
  | cons name names ih =>
    rcases load?_cases disk path name with ⟨nothing, passed⟩ | ⟨identity, found, stores⟩
    · rw [List.filterMap_cons_none nothing]
      exact .passed passed ih
    · rw [List.filterMap_cons_some found]
      exact .stored stores ih

/-- What a file holds, and nothing else, decides what is loaded from it. -/
theorem load?_congr {first second : Disk} {path name : String}
    (same : ∀ content, first.readFile (Path.join path name) = .ok content ↔
      second.readFile (Path.join path name) = .ok content) :
    load? first path name = load? second path name := by
  unfold load? load
  split
  · cases read : first.readFile (Path.join path name) with
    | ok content => rw [(same content).mp read]
    | error fault =>
      cases other : second.readFile (Path.join path name) with
      | ok content =>
        rw [(same content).mpr other] at read
        cases read
      | error fault => rfl
  · rfl

/-! ### The file of an identity -/

private theorem texts_encode (identity : Identity) :
    texts identity.encode = .ok [identity.recipientId, Base64.encode identity.secret] := by
  have legible : (Json.Value.ofMembers [("recipient_id", .ofText identity.recipientId),
      ("secret_key", .ofText (Base64.encode identity.secret))]).Legible := by
    refine .object fun member listed => ?_
    simp only [List.mem_cons, List.not_mem_nil, or_false] at listed
    rcases listed with rfl | rfl <;> exact .text _
  unfold texts encode Json.readAs
  rw [Json.read?_pretty legible]
  simp [Json.Value.ofMembers, Json.askRecord, Json.askTexts, Json.fill, Json.require,
    Json.wantText, bind, Except.bind, Except.map, pure, Except.pure, List.mapM_cons, List.lookup_cons]

private theorem decode_encode (identity : Identity) :
    (decode identity.encode).toOption = some identity := by
  rw [decode_of_texts identity.texts_encode, Base64.decode_encode]
  exact identity.ofSecret?_secret

/-! ### Directories -/

section Directories

variable {disk : Disk} {path : String} {place : Location}

theorem loaded_of_locate (located : disk.locate path = .ok place)
    (standing : disk.node? place = some .directory) :
    loaded path disk = if place ∈ disk.shut then .error .accessDenied
      else .ok ((disk.namesIn place).filterMap (load? disk path)) := by
  have holds : disk.holds path = true := by
    rw [holds_of_locate located, standing]
    rfl
  rw [loaded, if_pos holds, listNames_eq located standing]
  split
  · rfl
  · exact congrArg Except.ok (filterMap_candidates disk path _)

theorem plain_of_mem_namesIn
    (plain : ∀ location, disk.node? location ≠ none → ∀ name ∈ location, Path.Plain name)
    {name : String} (member : name ∈ disk.namesIn place) : Path.Plain name :=
  plain _ (mem_namesIn.mp member) name (by simp)

section New

variable {identity : Identity}

/-- The disk with the file of an identity in a directory. -/
def withFile (place : Location) (identity : Identity) (disk : Disk) : Disk :=
  disk.put (place ++ [identity.fileName]) (.file true identity.encode)

variable (located : disk.locate path = .ok place) (standing : disk.node? place = some .directory)
  (nothing : disk.node? (place ++ [identity.fileName]) = none)

include nothing in
private theorem directories_withFile :
    (withFile place identity disk).directories = disk.directories := by
  have free : disk.node? (place ++ [identity.fileName]) ≠ some .directory := by simp [nothing]
  exact directories_put free true identity.encode

include located standing nothing in
private theorem leads_withFile : (withFile place identity disk).locate path = .ok place ∧
    (withFile place identity disk).node? place = some .directory := by
  have same := directories_withFile nothing
  exact ⟨(locate_congr same path place).mpr located,
    (iff_of_eq (congrFun same place)).mpr standing⟩

include nothing in
private theorem load?_own
    (fileLocated : disk.locate (Path.join path identity.fileName) =
      .ok (place ++ [identity.fileName])) :
    load? (withFile place identity disk) path identity.fileName = some identity := by
  have content : (withFile place identity disk).content? (place ++ [identity.fileName]) =
      some identity.encode := content?_put_file (by simp) disk true identity.encode
  have leads := (locate_congr (directories_withFile nothing) _ _).mpr fileLocated
  have read : (withFile place identity disk).readFile (Path.join path identity.fileName) =
      .ok identity.encode := readFile_eq_ok.mpr ⟨_, leads, content⟩
  rw [load?, if_pos identity.extension?_fileName]
  unfold load
  rw [read]
  exact identity.decode_encode

include located standing nothing in
private theorem load?_other {name : String} (plain : Path.Plain name)
    (other : name ≠ identity.fileName) :
    load? (withFile place identity disk) path name = load? disk path name := by
  obtain ⟨afterLocated, afterStanding⟩ := leads_withFile located standing nothing
  have elsewhere : (withFile place identity disk).node? (place ++ [name]) =
      disk.node? (place ++ [name]) := node?_put_of_ne (by simpa using other) _ disk
  exact load?_congr (readFile_join_congr plain located standing afterLocated afterStanding
    (content?_congr elsewhere))

include located standing nothing in
/-- A new file of an identity is found beside the other files, which it leaves alone. -/
theorem perm_withFile
    (plain : ∀ location, disk.node? location ≠ none → ∀ name ∈ location, Path.Plain name)
    (fileLocated : disk.locate (Path.join path identity.fileName) =
      .ok (place ++ [identity.fileName])) :
    ∃ later, (loaded path (withFile place identity disk) =
        if place ∈ disk.shut then .error .accessDenied else .ok later) ∧
      later.Perm ((disk.namesIn place).filterMap (load? disk path) ++ [identity]) := by
  obtain ⟨afterLocated, afterStanding⟩ := leads_withFile located standing nothing
  have fresh : identity.fileName ∉ disk.namesIn place := by
    rw [mem_namesIn]
    exact fun other => other nothing
  have others : ∀ name ∈ disk.namesIn place,
      load? (withFile place identity disk) path name = load? disk path name := fun name member =>
    load?_other located standing nothing (plain_of_mem_namesIn plain member)
      fun here => fresh (here ▸ member)
  have listed : ((withFile place identity disk).namesIn place).Perm
      (disk.namesIn place ++ [identity.fileName]) := perm_namesIn_put _ nothing
  have unchanged : place ∈ (withFile place identity disk).shut ↔ place ∈ disk.shut := by
    rw [withFile, mem_shut_put, and_iff_left]
    simp
  refine ⟨((withFile place identity disk).namesIn place).filterMap
    (load? (withFile place identity disk) path), ?_, ?_⟩
  · rw [loaded_of_locate afterLocated afterStanding]
    simp only [unchanged]
  · have yielded := listed.filterMap (load? (withFile place identity disk) path)
    rwa [List.filterMap_append, List.filterMap_congr others,
      List.filterMap_cons_some (load?_own nothing fileLocated), List.filterMap_nil] at yielded

end New

end Directories

section Grown

variable {before after : Disk} {path : String} {place : Location} (proper : before.Proper)
  (grown : before.Grown after) (located : after.locate path = .ok place)
  (standing : after.node? place = some .directory)
include proper grown located standing

/-- New directories hold no identities. -/
theorem filterMap_grown : (after.namesIn place).filterMap (load? after path) =
    (before.namesIn place).filterMap (load? after path) := by
  let counts (name : String) : Bool :=
    decide (Path.Plain name) && (load? after path name).isSome
  have found {disk : Disk} (plain : ∀ name ∈ disk.namesIn place, Path.Plain name) :
      (disk.namesIn place).filterMap (load? after path) =
        ((disk.namesIn place).filter counts).filterMap (load? after path) := by
    rw [List.filterMap_filter]
    refine List.filterMap_congr fun name member => ?_
    cases loads : load? after path name <;> simp [counts, plain name member, loads]
  have same (name : String) (counted : counts name = true) :
      after.node? (place ++ [name]) = before.node? (place ++ [name]) := by
    simp only [counts, Bool.and_eq_true, decide_eq_true_eq] at counted
    obtain ⟨plain, isSome⟩ := counted
    rcases load?_cases after path name with ⟨nothing, -⟩ | ⟨-, -, -, content, -, -, read, -⟩
    · rw [nothing] at isSome
      cases isSome
    · obtain ⟨location, fileLocated, content⟩ := readFile_eq_ok.mp read
      obtain ⟨-, -, rfl⟩ := (locate_join plain located standing location).mp fileLocated
      rcases grown (place ++ [name]) with same | made
      · exact same.node
      · rw [Disk.content?, made.made] at content
        cases content
  rw [found fun name => plain_of_mem_namesIn (proper.grown grown),
    found fun name => plain_of_mem_namesIn proper.plain, filter_namesIn_eq counts same]

/-- A directory that was there, or that is new, yields what it yielded. -/
theorem loaded_before {held : List Identity} (yielded : loaded path before = .ok held)
    (direct : before.holds path = true ∨ before.node? place = none) :
    place ∉ after.shut ∧ (after.namesIn place).filterMap (load? after path) = held := by
  rw [filterMap_grown proper grown located standing]
  have reached {location : Location} (there : before.locate path = .ok location) :
      location = place := by
    have again := grown.locate there
    rw [located] at again
    cases again
    rfl
  cases holds : before.holds path with
  | true =>
    obtain ⟨location, there⟩ := exists_locate_of_holds holds
    obtain rfl := reached there
    rw [holds_of_locate there, Option.isSome_iff_exists] at holds
    obtain ⟨node, stood⟩ := holds
    have same := grown.node? stood
    rw [standing] at same
    cases same
    rw [loaded_of_locate there stood] at yielded
    split at yielded
    · cases yielded
    rename_i unshut
    cases yielded
    have still : location ∉ after.shut := by
      rcases grown location with same | made
      · exact mt same.shut.mp unshut
      · exact made.unshut
    refine ⟨still, List.filterMap_congr fun name member => ?_⟩
    exact load?_congr (readFile_join_congr (plain_of_mem_namesIn proper.plain member) there stood
      located standing (grown.content? _))
  | false =>
    have nothing : before.node? place = none := by
      rcases direct with there | nothing
      · rw [holds] at there
        cases there
      · exact nothing
    rw [loaded, if_neg (by simp [holds])] at yielded
    cases yielded
    have fresh : place ∉ after.shut := by
      rcases grown place with same | made
      · rw [same.node, nothing] at standing
        cases standing
      · exact made.unshut
    exact ⟨fresh, by rw [namesIn_eq_nil proper.tree nothing, List.filterMap_nil]⟩

end Grown

/-! ### Before and after a save -/

section Save

variable {working directory : String} {broken : Option Break} {identity : Identity}
  {before after : Volume}

theorem pathIn_eq (working directory : String) (identity : Identity) :
    Path.join working (identity.pathIn directory) =
      Path.join (Path.join working directory) identity.fileName :=
  Path.join_join identity.plain_fileName working directory

/-- A file that is filled without a failure holds all of the content. -/
theorem of_returns_fill {place : String} {content : Bytes}
    (filled : (fill place content broken).Returns before () after) :
    before.disk.write place content = .ok after.disk := by
  have wrote {taken : Volume}
      (written : (Volume.take (.write place content)).Returns before () taken) :
      before.disk.write place content = .ok taken.disk := by
    obtain ⟨disk, applied, rfl⟩ := Volume.returns_take.mp written
    exact applied
  cases broken with
  | none => exact wrote filled
  | some broken =>
    unfold fill at filled
    dsimp only at filled
    split at filled
    · obtain ⟨_, _, -, failed⟩ := returns_bind.mp filled
      exact (not_returns_fail failed).elim
    · exact wrote filled

/-- Up to its file, a save makes directories: where it gets, the file is new and empty. -/
theorem of_returns_create {made created : Volume}
    (making : (Volume.makeDirectories (Path.join working directory)).Returns before () made)
    (creating : (Volume.take (.create (Path.join working (identity.pathIn directory)) [])).Returns
      made () created) :
    let path := Path.join working directory
    ∃ place : Location, before.disk.Grown made.disk ∧ made.disk.locate path = .ok place ∧
      made.disk.node? place = some .directory ∧
      made.disk.locate (Path.join path identity.fileName) = .ok (place ++ [identity.fileName]) ∧
      made.disk.node? (place ++ [identity.fileName]) = none ∧
      created.disk = made.disk.put (place ++ [identity.fileName]) (.file true []) := by
  intro path
  obtain ⟨disk, applied, rfl⟩ := Volume.returns_take.mp creating
  obtain ⟨location, located, nothing, rfl⟩ := of_create applied
  rw [pathIn_eq] at located
  obtain ⟨checkedFile, walked⟩ := locate_eq_ok.mp located
  rw [Path.steps_join identity.plain_fileName] at walked
  obtain ⟨place, front, standing, rfl⟩ := walk_concat walked
  have last : Path.follow place identity.fileName = place ++ [identity.fileName] :=
    Path.follow_plain identity.plain_fileName place
  rw [last] at located nothing
  obtain ⟨_, _, checking, -⟩ := returns_bind.mp making
  have checked : checkPath path = .ok () := Volume.of_returns_examine checking
  exact ⟨place, (Volume.grows_makeDirectories path).of_returns making,
    locate_of_directory checked front standing, standing, located, nothing, by rw [last]⟩

/-- The steps of a save that succeeds: the directories are made, and then the file in the last of
them. -/
theorem of_returns_save {file : String}
    (saved : (identity.save working directory broken).Returns before file after) :
    let path := Path.join working directory
    ∃ (grown : Disk) (place : Location),
      before.disk.Grown grown ∧ grown.locate path = .ok place ∧
        grown.node? place = some .directory ∧
        grown.locate (Path.join path identity.fileName) = .ok (place ++ [identity.fileName]) ∧
        grown.node? (place ++ [identity.fileName]) = none ∧
        after.disk = withFile place identity grown := by
  intro path
  obtain ⟨_, made, making, saved⟩ := returns_bind.mp saved
  obtain ⟨_, created, creating, saved⟩ := returns_bind.mp saved
  obtain ⟨_, filled, filling, saved⟩ := returns_bind.mp saved
  obtain ⟨-, rfl⟩ := returns_pure.mp saved
  obtain ⟨place, grown, located, standing, fileLocated, nothing, new⟩ :=
    of_returns_create (returns_mapFailure.mp making) (returns_mapFailure.mp creating)
  have written := of_returns_fill (returns_mapFailure.mp filling)
  refine ⟨made.disk, place, grown, located, standing, fileLocated, nothing, ?_⟩
  have free : made.disk.node? (place ++ [identity.fileName]) ≠ some .directory := by simp [nothing]
  have newLocated : created.disk.locate (Path.join working (identity.pathIn directory)) =
      .ok (place ++ [identity.fileName]) := by
    rw [pathIn_eq, new]
    exact (locate_congr (directories_put free true []) _ _).mpr fileLocated
  have slashless : Path.endsInSlash (Path.join working (identity.pathIn directory)) = false := by
    rw [pathIn_eq]
    obtain ⟨front, joined⟩ := Path.join_eq_append (Path.join working directory) identity.fileName
    rw [joined]
    exact Path.endsInSlash_append identity.plain_fileName front
  have newStanding : created.disk.node? (place ++ [identity.fileName]) = some (.file true []) := by
    rw [new]
    exact node?_put_self (by simp) _ _
  rw [write_of_file newLocated slashless newStanding, new, put_put] at written
  exact (Except.ok.inj written).symm

/-- A file that was there is not made. -/
theorem absent_of_create {made created : Volume}
    (there : before.disk.holds (Path.join working (identity.pathIn directory)) = true)
    (making : (Volume.makeDirectories (Path.join working directory)).Returns before () made)
    (creating : (Volume.take (.create (Path.join working (identity.pathIn directory)) [])).Returns
      made () created) : False := by
  obtain ⟨place, grown, -, -, located, nothing, -⟩ := of_returns_create making creating
  obtain ⟨location, found⟩ := exists_locate_of_holds there
  rw [holds_of_locate found, Option.isSome_iff_exists] at there
  obtain ⟨node, standing⟩ := there
  rw [pathIn_eq] at found
  have again := grown.locate found
  rw [located] at again
  cases again
  rw [grown.node? standing] at nothing
  cases nothing

/-- A save whose file was there already makes directories at most. -/
theorem grows_of_stops_save {stop : Stop}
    (there : before.disk.holds (Path.join working (identity.pathIn directory)) = true)
    (stopped : (identity.save working directory broken).Stops before stop after) :
    before.disk.Grown after.disk := by
  have makes := (Volume.grows_makeDirectories (Path.join working directory)).mapFailure
    directoryFailure
  rcases stops_bind.mp stopped with failed | ⟨_, made, making, stopped⟩
  · exact makes.of_stops failed
  · have grown := makes.of_returns making
    rcases stops_bind.mp stopped with failed | ⟨_, created, creating, stopped⟩
    · obtain ⟨cause, failed, -⟩ := of_stops_mapFailure failed
      rwa [Volume.keeps_of_stops_take failed]
    · exact (absent_of_create there (returns_mapFailure.mp making)
        (returns_mapFailure.mp creating)).elim

private theorem reports_save (working directory : String) (broken : Option Break)
    (identity : Identity) :
    (identity.save working directory broken).Reports := by
  have writes (content : Bytes) : (Volume.take (.write (Path.join working
      (identity.pathIn directory)) content)).Reports := Volume.reports_take _
  have fills := holds_fill inherited_reports writes identity.encode broken
  refine ((Volume.reports_makeDirectories _).mapFailure _).bind fun _ => ?_
  refine ((Volume.reports_take _).mapFailure _).bind fun _ => ?_
  exact (fills.mapFailure _).bind fun _ => (unfailing_pure _).reports

/-- An identity whose file is there already is not saved, and no file is changed. -/
theorem stops_save_of_holds
    (there : before.disk.holds (Path.join working (identity.pathIn directory)) = true) :
    ∃ failure after, (identity.save working directory broken).Stops before (.failed failure) after ∧
      before.disk.Grown after.disk := by
  rcases returns_or_stops (identity.save working directory broken) before with
    ⟨file, after, saved⟩ | ⟨stop, after, stopped⟩
  · obtain ⟨_, made, making, saved⟩ := returns_bind.mp saved
    obtain ⟨_, created, creating, -⟩ := returns_bind.mp saved
    exact (absent_of_create there (returns_mapFailure.mp making)
      (returns_mapFailure.mp creating)).elim
  · obtain ⟨failure, rfl⟩ := reports_save working directory broken identity before stop after stopped
    exact ⟨failure, after, stopped, grows_of_stops_save there stopped⟩

/-- The file of the identity is new and holds it; some directories may be new as well, and all else
is as it was. -/
structure Saved (identity : Identity) (place : Location) (before after : Disk) : Prop where
  free : before.node? (place ++ [identity.fileName]) = none
  file : after.node? (place ++ [identity.fileName]) = some (.file true identity.encode)
  others : ∀ location, location ≠ place ++ [identity.fileName] →
    Same location before after ∨ Made location before after

private theorem saved_withFile {place : Location} {disk grown : Disk} (grows : disk.Grown grown)
    (nothing : grown.node? (place ++ [identity.fileName]) = none) :
    Saved identity place disk (withFile place identity grown) where
  free := by
    rcases grows (place ++ [identity.fileName]) with same | made
    · rw [← same.node, nothing]
    · exact made.free
  file := node?_put_self (by simp) _ grown
  others location other := by
    have last := same_put other (.file true identity.encode) grown
    rcases grows location with same | made
    · exact .inl (same.trans last)
    · exact .inr
        { made with
          made := last.node.trans made.made
          unshut := mt last.shut.mp made.unshut }

theorem returns_loadAll {held : List Identity} :
    (loadAll working directory).Returns before held after ↔
      loaded (Path.join working directory) before.disk = .ok held ∧ before = after := by
  rw [loadAll_eq, Returns, Volume.examine]
  cases loaded (Path.join working directory) before.disk with
  | error fault =>
    constructor
    · intro returned
      cases returned
    · rintro ⟨found, -⟩
      cases found
  | ok found =>
    constructor
    · intro returned
      cases returned
      exact ⟨rfl, rfl⟩
    · rintro ⟨same, rfl⟩
      cases same
      rfl

/-- Only a directory that cannot be listed keeps its identities from being loaded. -/
theorem of_stops_loadAll {stop : Stop}
    (stopped : (loadAll working directory).Stops before stop after) :
    before.disk.holds (Path.join working directory) = true ∧ ∃ fault,
      before.disk.listNames (Path.join working directory) = .error fault := by
  rw [loadAll_eq, Stops, Volume.examine] at stopped
  cases found : loaded (Path.join working directory) before.disk with
  | ok held =>
    rw [found] at stopped
    cases stopped
  | error fault =>
    unfold loaded at found
    split at found
    · rename_i there
      refine ⟨there, fault, ?_⟩
      cases listed : before.disk.listNames (Path.join working directory) with
      | ok names =>
        rw [listed] at found
        cases found
      | error other =>
        rw [listed] at found
        cases found
        rfl
    · cases found

private theorem of_returns_loadAll {held : List Identity}
    (returned : (loadAll working directory).Returns before held after) :
    let path := Path.join working directory
    before.disk.holds path = false ∧ held = [] ∨
      ∃ names, before.disk.listNames path = .ok names ∧ Yields before.disk path names held := by
  obtain ⟨found, -⟩ := returns_loadAll.mp returned
  unfold loaded at found
  split at found
  · cases listed : before.disk.listNames (Path.join working directory) with
    | error fault =>
      rw [listed] at found
      cases found
    | ok names =>
      rw [listed] at found
      cases found
      refine .inr ⟨names, listed, ?_⟩
      dsimp only
      rw [filterMap_candidates]
      exact yields_filterMap _ _ names
  · rename_i missing
    cases found
    exact .inl ⟨by simpa using missing, rfl⟩

end Save

/-- Saving never replaces a file, and if it succeeds it changes nothing but one new file and
directories on the way to it.  A directory that could be listed then yields the saved identity
beside those that it yielded before, unless its path led nowhere although the directory was there;
then it yields those of its older files. -/
theorem saved_is_loaded {before : Volume} (proper : before.disk.Proper)
    (working directory : String) (broken : Option Break) (identity : Identity) :
    let path := Path.join working directory
    (before.disk.holds (Path.join working (identity.pathIn directory)) = true →
      ∃ failure after,
        (identity.save working directory broken).Stops before (.failed failure) after ∧
          before.disk.Grown after.disk) ∧
    (∀ file after, (identity.save working directory broken).Returns before file after →
      ∃ place : Location, after.disk.locate path = .ok place ∧
        Saved identity place before.disk after.disk ∧
        (∀ held, (loadAll working directory).Returns before held before →
          (before.disk.holds path = true ∨ before.disk.node? place = none) →
          ∃ later, (loadAll working directory).Returns after later after ∧
            later.Perm (held ++ [identity])) ∧
        ∀ later, (loadAll working directory).Returns after later after →
          ∃ older, later.Perm (older ++ [identity])) ∧
    (∀ stop after, (loadAll working directory).Stops before stop after →
      before.disk.holds path = true ∧ ∃ fault, before.disk.listNames path = .error fault) ∧
    (∀ held after, (loadAll working directory).Returns before held after →
      before.disk.holds path = false ∧ held = [] ∨
        ∃ names, before.disk.listNames path = .ok names ∧
          Yields before.disk path names held) := by
  intro path
  refine ⟨stops_save_of_holds, fun file after saved => ?_,
    fun stop after => of_stops_loadAll, fun held after => of_returns_loadAll⟩
  obtain ⟨grown, place, grows, located, standing, fileLocated, nothing, made⟩ :=
    of_returns_save saved
  obtain ⟨afterLocated, -⟩ := leads_withFile located standing nothing
  obtain ⟨later, yielded, perm⟩ := perm_withFile located standing nothing (proper.grown grows)
    fileLocated
  rw [← made] at afterLocated yielded
  refine ⟨place, afterLocated, made ▸ saved_withFile grows nothing,
    fun held returned direct => ?_, fun found returned => ?_⟩
  · obtain ⟨unshut, older⟩ := loaded_before proper grows located standing
      (returns_loadAll.mp returned).1 direct
    rw [if_neg unshut] at yielded
    rw [older] at perm
    exact ⟨later, returns_loadAll.mpr ⟨yielded, rfl⟩, perm⟩
  · obtain ⟨listed, -⟩ := returns_loadAll.mp returned
    rw [yielded] at listed
    split at listed
    · cases listed
    · cases listed
      exact ⟨_, perm⟩

/-! ### A directory that is reached in two ways -/

def repeated (byte : UInt8) : Identity :=
  ⟨List.replicate 32 byte, rfl⟩

/-- A disk with one identity in its directory, in a file of another name. -/
def shelved : Disk where
  entries :=
    [(["w"], .directory), (["w", "ids"], .directory),
      (["w", "ids", "old.json"], .file true (Bytes.ofString
        "[\"\",\"AAAAAAAAAAAAAAAAAAAAAAAAAAAAAAAAAAAAAAAAAAA=\"]"))]
  distinct := by decide
  shut := []

/-- A second identity is saved and loaded beside the first one. -/
theorem loaded_beside :
    let saved := ((repeated 1).save "/w" "ids" none) (.ofDisk shelved)
    shelved.Proper ∧ (loadAll "/w" "ids").Returns (.ofDisk shelved) [repeated 0] (.ofDisk shelved) ∧
      ∃ later, (loadAll "/w" "ids").Returns saved.2 later saved.2 ∧
        later.Perm [repeated 0, repeated 1] := by
  intro saved
  have proper : (Volume.ofDisk shelved).disk.Proper := proper_of_entries (by decide +kernel)
  have yielded : loaded "/w/ids" shelved = .ok [repeated 0] := by decide +kernel
  have held : (loadAll "/w" "ids").Returns (.ofDisk shelved) [repeated 0] (.ofDisk shelved) :=
    returns_loadAll.mpr ⟨yielded, rfl⟩
  have ends : saved.1 = .ok ((repeated 1).pathIn "ids") := by decide +kernel
  obtain ⟨-, loads, -, -⟩ := saved_is_loaded proper "/w" "ids" none (repeated 1)
  obtain ⟨place, -, -, beside, -⟩ := loads _ saved.2 (Prod.ext ends rfl)
  obtain ⟨later, returned, perm⟩ := beside [repeated 0] held (.inl (by decide +kernel))
  exact ⟨proper, held, later, returned, perm⟩

/-- Before the save the path goes through a directory that is missing, and nothing is loaded; then
the save makes that directory, and the path leads to what was there all the time. -/
theorem older_loaded_after_save :
    let before := Volume.ofDisk shelved
    let saved := ((repeated 1).save "/w" "a/../ids" none) before
    (loadAll "/w" "a/../ids").Returns before [] before ∧
      saved.1 = .ok ((repeated 1).pathIn "a/../ids") ∧
      ∃ later, (loadAll "/w" "a/../ids").Returns saved.2 later saved.2 ∧
        ¬ later.Perm ([] ++ [repeated 1]) := by
  intro before saved
  have nothing : loaded "/w/a/../ids" before.disk = .ok [] := by decide +kernel
  obtain ⟨ends, located, standing, unshut, there, old⟩ :
      saved.1 = .ok ((repeated 1).pathIn "a/../ids") ∧
        saved.2.disk.locate "/w/a/../ids" = .ok ["w", "ids"] ∧
        saved.2.disk.node? ["w", "ids"] = some .directory ∧
        ["w", "ids"] ∉ saved.2.disk.shut ∧
        saved.2.disk.node? (["w", "ids"] ++ ["old.json"]) ≠ none ∧
        load? saved.2.disk "/w/a/../ids" "old.json" = some (repeated 0) := by
    decide +kernel
  have yielded := loaded_of_locate located standing
  rw [if_neg unshut] at yielded
  refine ⟨returns_loadAll.mpr ⟨nothing, rfl⟩, ends, _,
    returns_loadAll.mpr ⟨yielded, rfl⟩, fun perm => ?_⟩
  have member := perm.subset (List.mem_filterMap.mpr ⟨"old.json", mem_namesIn.mpr there, old⟩)
  exact absurd member (by decide)

end Identity

end Keywarden
