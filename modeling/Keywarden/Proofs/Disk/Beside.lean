import Keywarden.Proofs.Disk.Lead
import Keywarden.Proofs.Disk.Named
import Mathlib.Data.List.Nodup

/-!
# Disks that differ at some places

Two disks hold the same everywhere but at some places and below them.  A path that leads past
the places is followed in the same way on both of them, and a step along such paths fails alike
or leaves disks that differ at most there again.
-/

namespace Keywarden

namespace Disk

/-- The disks hold the same, under plain names, outside of some places. -/
structure Beside (places : List Location) (first second : Disk) : Prop where
  same : ∀ location, ¬ Path.Covered places location → first.node? location = second.node? location
  shut : ∀ location, ¬ Path.Covered places location →
    (location ∈ first.shut ↔ location ∈ second.shut)
  plain : ∀ location, ¬ Path.Covered places location → first.node? location ≠ none →
    ∀ name ∈ location, Path.Plain name

namespace Beside

variable {places : List Location} {first second : Disk}

/-! ### Looking -/

theorem walk_eq (beside : Beside places first second) {here : Location} {listed : List String}
    (avoids : Path.Avoids places here listed) :
    first.walk here listed = second.walk here listed := by
  induction listed generalizing here with
  | nil => rfl
  | cons name rest ih =>
    rw [walk, walk, beside.same here avoids.start, ih avoids.tail]

variable {path : String} (beside : Beside places first second)
  (avoids : Path.Avoids places [] (Path.names path))

include beside avoids

theorem locate_eq : first.locate path = second.locate path := by
  rw [locate, locate, beside.walk_eq avoids.steps]

theorem lookUp_eq : first.lookUp path = second.lookUp path := by
  rw [lookUp, lookUp, ← beside.locate_eq avoids]
  cases located : first.locate path with
  | error fault => rfl
  | ok location =>
    have outside : ¬ Path.Covered places location := by
      rw [eq_lead_of_locate located]
      exact avoids.outside
    simp only [bind, Except.bind]
    rw [beside.same location outside]

theorem holds_eq : first.holds path = second.holds path := by
  rw [holds, holds, beside.lookUp_eq avoids]

private theorem isDirectory_eq : first.isDirectory path = second.isDirectory path := by
  rw [isDirectory, isDirectory, beside.lookUp_eq avoids]

theorem readFile_eq : first.readFile path = second.readFile path := by
  rw [readFile, readFile, beside.lookUp_eq avoids]

end Beside

/-! ### Changing nothing outside -/

/-- What stands outside of some places, and whether it may be listed. -/
def outside (places : List Location) (disk : Disk) (location : Location) : Option Node × Prop :=
  if Path.Covered places location then (none, False)
  else (disk.node? location, location ∈ disk.shut)

section Outside

variable {places : List Location} {disk other : Disk}

theorem outside_congr
    (same : ∀ location, ¬ Path.Covered places location →
      other.node? location = disk.node? location)
    (shut : ∀ location, ¬ Path.Covered places location →
      (location ∈ other.shut ↔ location ∈ disk.shut)) :
    other.outside places = disk.outside places := by
  funext location
  unfold outside
  split
  · rfl
  · rename_i outside
    exact Prod.ext (same location outside) (propext (shut location outside))

theorem eq_of_outside (same : other.outside places = disk.outside places) {location : Location}
    (outside : ¬ Path.Covered places location) :
    other.node? location = disk.node? location ∧ (location ∈ other.shut ↔ location ∈ disk.shut) := by
  have here := congrFun same location
  simp only [Disk.outside, if_neg outside] at here
  exact ⟨congrArg Prod.fst here, iff_of_eq (congrArg Prod.snd here)⟩

theorem outside_put {place : Location} (covered : Path.Covered places place) (node : Node)
    (disk : Disk) : (disk.put place node).outside places = disk.outside places := by
  refine outside_congr (fun location outside => ?_) fun location outside => ?_
  · apply node?_put_of_ne
    rintro rfl
    exact outside covered
  · rw [mem_shut_put, and_iff_left]
    rintro rfl
    exact outside covered

private theorem outside_remove {place : Location} (covered : Path.Covered places place)
    (disk : Disk) :
    (disk.remove place).outside places = disk.outside places := by
  refine outside_congr (fun location outside => ?_) fun location outside => ?_
  · apply node?_remove_of_ne
    rintro rfl
    exact outside covered
  · rw [mem_shut_remove, and_iff_left]
    rintro rfl
    exact outside covered

theorem Beside.of_outside {first second firstAfter secondAfter : Disk}
    (beside : Beside places first second)
    (firstSame : firstAfter.outside places = first.outside places)
    (secondSame : secondAfter.outside places = second.outside places) :
    Beside places firstAfter secondAfter where
  same location outside := by
    rw [(eq_of_outside firstSame outside).1, (eq_of_outside secondSame outside).1,
      beside.same location outside]
  shut location outside := by
    rw [(eq_of_outside firstSame outside).2, (eq_of_outside secondSame outside).2,
      beside.shut location outside]
  plain location outside standing := by
    rw [(eq_of_outside firstSame outside).1] at standing
    exact beside.plain location outside standing

theorem beside_put (plain : ∀ entry ∈ disk.entries, ∀ name ∈ entry.1, Path.Plain name)
    {place : Location} (covered : Path.Covered places place) (node : Node) :
    Beside places disk (disk.put place node) where
  same location outside := (eq_of_outside (outside_put covered node disk) outside).1.symm
  shut location outside := (eq_of_outside (outside_put covered node disk) outside).2.symm
  plain location _ standing := by
    by_cases root : location = []
    · simp [root]
    · rw [node?, if_neg root, Ne, List.lookup_eq_none_iff] at standing
      simp only [bne_iff_ne, ne_eq, not_forall, not_not] at standing
      obtain ⟨entry, member, here⟩ := standing
      rw [here]
      exact plain entry member

theorem outside_replace {place : Location} (covered : Path.Covered places place)
    (content : Option Bytes) (disk : Disk) :
    (disk.replace place content).outside places = disk.outside places := by
  rcases replace_cases place content disk with same | ⟨isPrivate, held, -, -, -, written⟩ |
    ⟨-, -, -, removed⟩
  · rw [same]
  · rw [written]
    exact outside_put covered _ disk
  · rw [removed]
    exact outside_remove covered disk

/-- A file that is protected at one of the places changes nothing outside of them. -/
theorem outside_of_restrict {path : String}
    (leads : Path.Covered places (Path.lead [] (Path.names path)))
    (restricted : disk.restrict path = .ok other) :
    other.outside places = disk.outside places := by
  rcases of_restrict restricted with rfl | ⟨location, isPrivate, content, located, -, rfl⟩
  · rfl
  · rw [eq_lead_of_locate located]
    exact outside_put leads _ disk

end Outside

/-! ### Listing -/

theorem nameIn?_eq_some {directory location : Location} {name : String} :
    nameIn? directory location = some name ↔ location = directory ++ [name] := by
  unfold nameIn?
  constructor
  · intro found
    split at found
    · rename_i within
      obtain ⟨front, rfl⟩ := List.getLast?_eq_some_iff.mp found
      rw [← within, List.dropLast_concat]
    · cases found
  · rintro rfl
    simp

/-- The names of what stands in a directory, in their order. -/
def namesIn (disk : Disk) (directory : Location) : List String :=
  (disk.entries.filterMap fun entry => nameIn? directory entry.1).mergeSort

theorem mem_namesIn {disk : Disk} {directory : Location} {name : String} :
    name ∈ disk.namesIn directory ↔ disk.node? (directory ++ [name]) ≠ none := by
  have below : directory ++ [name] ≠ [] := by simp
  rw [namesIn, List.mem_mergeSort, List.mem_filterMap, node?, if_neg below, Ne,
    List.lookup_eq_none_iff]
  simp only [nameIn?_eq_some, bne_iff_ne, ne_eq, not_forall, not_not]
  constructor
  · rintro ⟨entry, member, here⟩
    exact ⟨entry, member, here.symm⟩
  · rintro ⟨entry, member, here⟩
    exact ⟨entry, member, here.symm⟩

theorem nodup_namesIn (disk : Disk) (directory : Location) : (disk.namesIn directory).Nodup := by
  have names : (disk.entries.filterMap fun entry => nameIn? directory entry.1) =
      (disk.entries.map Prod.fst).filterMap (nameIn? directory) := by
    rw [List.filterMap_map]
    rfl
  have injective (left right : Location) (name : String) (leftNamed : name ∈ nameIn? directory left)
      (rightNamed : name ∈ nameIn? directory right) : left = right := by
    rw [nameIn?_eq_some.mp leftNamed, nameIn?_eq_some.mp rightNamed]
  rw [namesIn, (List.mergeSort_perm _ _).nodup_iff, names]
  exact List.Nodup.filterMap injective disk.distinct

private theorem sorted_namesIn (disk : Disk) (directory : Location) :
    (disk.namesIn directory).Pairwise (· ≤ ·) := by
  have transitive (left middle right : String) (first : decide (left ≤ middle) = true)
      (second : decide (middle ≤ right) = true) : decide (left ≤ right) = true :=
    decide_eq_true (String.le_trans (of_decide_eq_true first) (of_decide_eq_true second))
  have total (left right : String) : (decide (left ≤ right) || decide (right ≤ left)) = true := by
    simpa using String.le_total left right
  have sorted := List.pairwise_mergeSort transitive total
    (disk.entries.filterMap fun entry => nameIn? directory entry.1)
  unfold namesIn
  simpa only [decide_eq_true_eq] using sorted

/-- Directories that hold the same under all names that count list the same of them. -/
theorem filter_namesIn_eq {first second : Disk} {directory : Location} (counts : String → Bool)
    (same : ∀ name, counts name = true →
      first.node? (directory ++ [name]) = second.node? (directory ++ [name])) :
    (first.namesIn directory).filter counts = (second.namesIn directory).filter counts := by
  have members (name : String) : name ∈ (first.namesIn directory).filter counts ↔
      name ∈ (second.namesIn directory).filter counts := by
    rw [List.mem_filter, List.mem_filter, mem_namesIn, mem_namesIn]
    refine and_congr_left fun counted => ?_
    rw [same name counted]
  have permuted := (List.perm_ext_iff_of_nodup ((nodup_namesIn first directory).filter _)
    ((nodup_namesIn second directory).filter _)).mpr members
  exact permuted.eq_of_pairwise (fun _ _ _ _ => String.le_antisymm)
    ((sorted_namesIn first directory).filter _) ((sorted_namesIn second directory).filter _)

/-- A directory outside of the places can be listed on both disks or on none. -/
theorem Beside.listNames_cases {places : List Location} {first second : Disk} {path : String}
    (beside : Beside places first second) (avoids : Path.Avoids places [] (Path.names path)) :
    (∃ fault, first.listNames path = .error fault ∧ second.listNames path = .error fault) ∨
      ∃ directory, ¬ Path.Covered places directory ∧
        first.listNames path = .ok (first.namesIn directory) ∧
        second.listNames path = .ok (second.namesIn directory) := by
  unfold listNames
  rw [← beside.locate_eq avoids]
  cases located : first.locate path with
  | error fault => exact .inl ⟨fault, rfl, rfl⟩
  | ok directory =>
    have outside : ¬ Path.Covered places directory := by
      rw [eq_lead_of_locate located]
      exact avoids.outside
    have same := beside.same directory outside
    simp only [bind, Except.bind]
    rw [← same]
    cases first.node? directory with
    | none => exact .inl ⟨_, rfl, rfl⟩
    | some node =>
      cases node with
      | file isPrivate content => exact .inl ⟨_, rfl, rfl⟩
      | directory =>
        have shut := beside.shut directory outside
        by_cases closed : directory ∈ first.shut
        · simp only [if_pos closed, if_pos (shut.mp closed)]
          exact .inl ⟨_, rfl, rfl⟩
        · simp only [if_neg closed, if_neg (mt shut.mpr closed)]
          exact .inr ⟨directory, outside, rfl, rfl⟩

/-! ### Steps -/

section Steps

variable {places : List Location} {first second : Disk}

theorem Beside.put (beside : Beside places first second) {location : Location}
    (plain : ∀ name ∈ location, Path.Plain name) (node : Node) :
    Beside places (first.put location node) (second.put location node) where
  same other outside := by
    by_cases here : other = location
    · by_cases root : other = []
      · rw [root, node?_nil, node?_nil]
      · rw [here] at root ⊢
        rw [node?_put_self root, node?_put_self root]
    · rw [node?_put_of_ne here, node?_put_of_ne here, beside.same other outside]
  shut other outside := by
    rw [mem_shut_put, mem_shut_put, beside.shut other outside]
  plain other outside standing := by
    by_cases here : other = location
    · rw [here]
      exact plain
    · rw [node?_put_of_ne here] at standing
      exact beside.plain other outside standing

theorem Beside.remove (beside : Beside places first second) (location : Location) :
    Beside places (first.remove location) (second.remove location) where
  same other outside := by
    by_cases here : other = location
    · by_cases root : other = []
      · rw [root, node?_nil, node?_nil]
      · rw [here] at root ⊢
        rw [node?_remove_self root, node?_remove_self root]
    · rw [node?_remove_of_ne here, node?_remove_of_ne here, beside.same other outside]
  shut other outside := by
    rw [mem_shut_remove, mem_shut_remove, beside.shut other outside]
  plain other outside standing := by
    by_cases root : other = []
    · simp [root]
    · by_cases here : other = location
      · rw [here] at root standing
        exact absurd (node?_remove_self root first) standing
      · rw [node?_remove_of_ne here] at standing
        exact beside.plain other outside standing

/-- A change fails with one fault on both disks, or it leaves disks that differ at most at the
places again. -/
inductive Matched (places : List Location) : Except FileFault Disk → Except FileFault Disk → Prop
  | changed {first second : Disk} (beside : Beside places first second) :
      Matched places (.ok first) (.ok second)
  | refused (fault : FileFault) : Matched places (.error fault) (.error fault)

theorem Matched.bind {α : Type} {found : Except FileFault α}
    {next other : α → Except FileFault Disk}
    (rest : ∀ value, found = .ok value → Matched places (next value) (other value)) :
    Matched places (found >>= next) (found >>= other) := by
  cases found with
  | error fault => exact .refused fault
  | ok value => exact rest value rfl

section Paths

variable (beside : Beside places first second) {path : String}
  (avoids : Path.Avoids places [] (Path.names path))

include beside avoids

/-- Where the path leads, the disks hold the same, and under plain names. -/
theorem Beside.reached {location : Location}
    (walked : first.walk [] (Path.names path) = .ok location) :
    first.node? location = second.node? location ∧ ∀ name ∈ location, Path.Plain name := by
  have outside : ¬ Path.Covered places location := by
    rw [eq_lead_of_walk walked]
    exact avoids.outside
  exact ⟨beside.same location outside, plain_of_walk walked⟩

theorem Beside.located {location : Location} (located : first.locate path = .ok location) :
    first.node? location = second.node? location ∧ ∀ name ∈ location, Path.Plain name := by
  have outside : ¬ Path.Covered places location := by
    rw [eq_lead_of_locate located]
    exact avoids.outside
  exact ⟨beside.same location outside, plain_of_locate located⟩

theorem Beside.write (content : Bytes) :
    Matched places (first.write path content) (second.write path content) := by
  unfold Disk.write
  rw [← beside.walk_eq avoids]
  refine .bind fun _ _ => .bind fun location walked => ?_
  obtain ⟨same, plain⟩ := beside.reached avoids walked
  dsimp only
  rw [same]
  cases Path.endsInSlash path with
  | true => exact .refused _
  | false =>
    simp only [Bool.false_eq_true, if_false]
    split
    · exact .refused _
    · exact .changed (beside.put plain _)
    · exact .changed (beside.put plain _)

theorem Beside.create (content : Bytes) :
    Matched places (first.create path content) (second.create path content) := by
  unfold Disk.create
  rw [← beside.locate_eq avoids]
  refine .bind fun location located => ?_
  obtain ⟨same, plain⟩ := beside.located avoids located
  rw [same]
  split
  · exact .refused _
  · exact .changed (beside.put plain _)

theorem Beside.makeDirectory :
    Matched places (first.makeDirectory path) (second.makeDirectory path) := by
  unfold Disk.makeDirectory
  rw [← beside.walk_eq avoids]
  refine .bind fun _ _ => .bind fun location walked => ?_
  obtain ⟨same, plain⟩ := beside.reached avoids walked
  rw [same]
  split
  · exact .refused _
  · exact .changed (beside.put plain _)

theorem Beside.restrict : Matched places (first.restrict path) (second.restrict path) := by
  unfold Disk.restrict
  rw [← beside.locate_eq avoids]
  refine .bind fun location located => ?_
  obtain ⟨same, plain⟩ := beside.located avoids located
  rw [same]
  split
  · exact .changed (beside.put plain _)
  · exact .changed beside
  · exact .refused _

theorem Beside.rename {target : String}
    (targetAvoids : Path.Avoids places [] (Path.names target)) :
    Matched places (first.rename path target) (second.rename path target) := by
  unfold Disk.rename
  rw [← beside.locate_eq avoids, ← beside.lookUp_eq avoids, ← beside.walk_eq targetAvoids]
  refine .bind fun _ _ => .bind fun origin _ => .bind fun node _ =>
    .bind fun location walked => ?_
  obtain ⟨same, plain⟩ := beside.reached targetAvoids walked
  dsimp only
  rw [same]
  cases Path.endsInName target with
  | false => exact .refused _
  | true =>
    cases Path.endsInSlash target with
    | true => exact .refused _
    | false =>
      simp only [Bool.not_true, Bool.false_eq_true, if_false]
      split
      · exact .refused _
      · exact .changed ((beside.remove origin).put plain node)

end Paths

theorem Beside.replace (beside : Beside places first second) {location : Location}
    (plain : ∀ name ∈ location, Path.Plain name) (outside : ¬ Path.Covered places location)
    (content : Option Bytes) :
    Beside places (first.replace location content) (second.replace location content) := by
  have around : ¬ Path.Covered places location.dropLast := fun covered =>
    outside (covered.below (List.dropLast_prefix location))
  unfold Disk.replace
  rw [beside.same location outside, beside.same location.dropLast around]
  split
  · split
    · exact beside
    · exact beside.put plain _
    · exact beside.remove location
    · exact beside.put plain _
    · exact beside
  · exact beside

end Steps

end Disk

def Step.Avoids (places : List Location) : Step → Prop
  | .write path _ | .create path _ | .makeDirectory path | .restrict path =>
    Path.Avoids places [] (Path.names path)
  | .rename source target =>
    Path.Avoids places [] (Path.names source) ∧ Path.Avoids places [] (Path.names target)
  | .replace location _ =>
    (∀ name ∈ location, Path.Plain name) ∧ ¬ Path.Covered places location

theorem Step.Avoids.matched {places : List Location} {step : Step} (avoids : step.Avoids places)
    {first second : Disk} (beside : Disk.Beside places first second) :
    Disk.Matched places (step.apply first) (step.apply second) := by
  cases step with
  | write path content => exact beside.write avoids content
  | create path content => exact beside.create avoids content
  | makeDirectory path => exact beside.makeDirectory avoids
  | rename source target => exact beside.rename avoids.1 avoids.2
  | restrict path => exact beside.restrict avoids
  | replace location content => exact .changed (beside.replace avoids.1 avoids.2 content)

/-! ### Actions on volumes -/

namespace Volume

open Keywarden.Action

/-- The disks of the volumes differ at most at some places and below them. -/
def Beside (places : List Location) (first second : Volume) : Prop :=
  Disk.Beside places first.disk second.disk

variable {places : List Location} {α : Type}

theorem respects_examine {look : Disk → Except FileFault α}
    (same : ∀ first second, Disk.Beside places first second → look first = look second) :
    (examine look).Respects (Beside places) := by
  intro first second beside
  unfold examine
  rw [same _ _ beside]
  cases look second.disk with
  | error fault => exact ⟨rfl, beside⟩
  | ok value => exact ⟨rfl, beside⟩

theorem examine_map {β : Type} (look : Disk → Except FileFault α) (change : α → β) :
    (examine look >>= fun value => pure (change value)) =
      examine fun disk => (look disk).map change := by
  funext volume
  cases found : look volume.disk with
  | error fault =>
    have stopped : (examine look).Stops volume (.failed (.io fault)) volume := by
      simp only [Stops, examine, found]
    have whole : (examine look >>= fun value => pure (change value)).Stops volume
        (.failed (.io fault)) volume := stops_bind.mpr (.inl stopped)
    rw [whole]
    simp only [examine, found, Except.map]
  | ok value =>
    have returned : (examine look).Returns volume value volume := by
      simp only [Returns, examine, found]
    rw [returned.bind_eq]
    simp only [examine, found, Except.map]
    rfl

/-- What is looked up on the way must not tell the volumes apart. -/
theorem respects_get {next : Volume → Action Volume α}
    (same : ∀ first second, Beside places first second → next first = next second)
    (respects : ∀ volume, (next volume).Respects (Beside places)) :
    (get >>= next : Action Volume α).Respects (Beside places) := by
  intro first second beside
  change (next first first).1 = (next second second).1 ∧
    Beside places (next first first).2 (next second second).2
  rw [same first second beside]
  exact respects second first second beside

theorem respects_take {step : Step} (avoids : step.Avoids places) :
    (take step).Respects (Beside places) := by
  intro first second beside
  have matched := avoids.matched beside
  unfold take
  generalize step.apply first.disk = left, step.apply second.disk = right at matched ⊢
  cases matched with
  | changed after => exact ⟨rfl, after⟩
  | refused fault => exact ⟨rfl, beside⟩

theorem respects_takeAll {steps : List Step} (avoid : ∀ step ∈ steps, step.Avoids places) :
    (takeAll steps).Respects (Beside places) := by
  induction steps with
  | nil => exact (inherited_respects _).pure ()
  | cons step rest ih =>
    have restAvoids := ih fun other member => avoid other (List.mem_cons_of_mem _ member)
    exact (inherited_respects _).bind (respects_take (avoid step (by simp))) fun _ => restAvoids

private theorem respects_unlessDirectory {path : String}
    (avoids : Path.Avoids places [] (Path.names path)) (made : Except Failure Unit) :
    (unlessDirectory path made).Respects (Beside places) := by
  cases made with
  | ok _ => exact (inherited_respects _).pure ()
  | error failure =>
    refine respects_get (fun first second beside => ?_) fun volume => ?_
    · rw [beside.isDirectory_eq avoids]
    · split
      · exact (inherited_respects _).pure ()
      · exact (inherited_respects _).fail failure

private theorem respects_makeAlong {listed : List String} (avoids : Path.Avoids places [] listed)
    (whole : ∀ name ∈ listed, Path.Whole name) :
    (makeAlong listed).Respects (Beside places) := by
  have spelled : Path.Avoids places [] (Path.names (Path.ofNames listed)) := by
    rwa [Path.names_ofNames_whole whole]
  have make : (attempt (take (.makeDirectory (Path.ofNames listed)))).Respects (Beside places) :=
    (inherited_respects _).attempt (respects_take spelled)
  rw [makeAlong]
  refine (inherited_respects _).bind make fun made => ?_
  split
  · split
    · exact (inherited_respects _).fail _
    · rename_i named
      have before := Path.parentNames_prefix listed
      have outer := respects_makeAlong (avoids.of_prefix before) fun name member =>
        whole name (before.subset member)
      exact (inherited_respects _).bind outer fun _ => (inherited_respects _).bind make fun again =>
        respects_unlessDirectory spelled again
  · exact respects_unlessDirectory spelled made
termination_by listed.length
decreasing_by exact Path.length_parentNames_lt ‹_›

theorem respects_makeDirectories {path : String}
    (avoids : Path.Avoids places [] (Path.names path)) :
    (makeDirectories path).Respects (Beside places) :=
  (inherited_respects _).bind (respects_examine fun _ _ _ => rfl) fun _ =>
    respects_makeAlong avoids fun _ => Path.whole_of_mem_names

end Volume

end Keywarden
