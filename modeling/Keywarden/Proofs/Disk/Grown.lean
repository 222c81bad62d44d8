import Keywarden.Proofs.Disk.Lead
import Keywarden.Proofs.Disk.Named

/-!
# Disks that grow by directories

Making the directories along a path makes directories where nothing stood and changes nothing
else: no content is different afterwards, and every path still leads where it led.
-/

namespace Keywarden

namespace Disk

/-- The same stands at a location, and may be listed or not. -/
structure Same (location : Location) (before after : Disk) : Prop where
  node : after.node? location = before.node? location
  shut : location ∈ after.shut ↔ location ∈ before.shut

theorem same_put {location other : Location} (different : other ≠ location) (node : Node)
    (disk : Disk) : Same other disk (disk.put location node) where
  node := node?_put_of_ne different node disk
  shut := by rw [mem_shut_put, and_iff_left different]

theorem Same.trans {location : Location} {before between after : Disk}
    (first : Same location before between) (second : Same location between after) :
    Same location before after where
  node := second.node.trans first.node
  shut := second.shut.trans first.shut

/-- A directory was made that may be listed. -/
structure Made (location : Location) (before after : Disk) : Prop where
  free : before.node? location = none
  made : after.node? location = some .directory
  unshut : location ∉ after.shut
  plain : ∀ name ∈ location, Path.Plain name

/-- Directories with plain names were made where nothing stood, and nothing else changed. -/
def Grown (before after : Disk) : Prop :=
  ∀ location, Same location before after ∨ Made location before after

theorem grown_refl (disk : Disk) : disk.Grown disk :=
  fun _ => .inl ⟨rfl, .rfl⟩

namespace Grown

variable {before after : Disk} {location here : Location}

theorem node? (grown : before.Grown after) {node : Node}
    (standing : before.node? location = some node) : after.node? location = some node := by
  rcases grown location with same | made
  · rw [same.node, standing]
  · rw [made.free] at standing
    cases standing

theorem trans {between : Disk} (first : before.Grown between)
    (second : between.Grown after) :
    before.Grown after := by
  intro location
  rcases first location with same | made
  · rcases second location with again | made
    · exact .inl (same.trans again)
    · exact .inr { made with free := same.node.symm.trans made.free }
  · rcases second location with again | other
    · exact .inr
        { made with
          made := again.node.trans made.made
          unshut := mt again.shut.mp made.unshut }
    · have standing := other.free
      rw [made.made] at standing
      cases standing

/-- What was made holds nothing to be read. -/
theorem content? (grown : before.Grown after) (location : Location) :
    after.content? location = before.content? location := by
  rcases grown location with same | made
  · exact content?_congr same.node
  · rw [Disk.content?, Disk.content?, made.made, made.free]

private theorem walk (grown : before.Grown after) {listed : List String}
    (walked : before.walk here listed = .ok location) : after.walk here listed = .ok location := by
  induction listed generalizing here with
  | nil => exact walked
  | cons name rest ih =>
    rw [Disk.walk] at walked ⊢
    split at walked
    · cases walked
    · cases walked
    · rename_i standing
      rw [grown.node? standing]
      split at walked
      · cases walked
      · rename_i short
        simp only [if_neg short]
        exact ih walked

theorem locate (grown : before.Grown after) {path : String}
    (located : before.locate path = .ok location) : after.locate path = .ok location := by
  obtain ⟨checked, walked⟩ := locate_eq_ok.mp located
  exact locate_eq_ok.mpr ⟨checked, grown.walk walked⟩

end Grown

private theorem grown_makeDirectory {disk after : Disk} {path : String}
    (made : disk.makeDirectory path = .ok after) : disk.Grown after := by
  obtain ⟨_, -, made⟩ := bind_eq_ok.mp made
  obtain ⟨location, walked, made⟩ := bind_eq_ok.mp made
  split at made
  · cases made
  · rename_i nothing
    cases made
    intro other
    by_cases here : other = location
    · have below : location ≠ [] := by
        rintro rfl
        cases nothing
      rw [here]
      have unshut : location ∉ (disk.put location .directory).shut := by simp [mem_shut_put]
      exact .inr ⟨nothing, node?_put_self below _ disk, unshut, plain_of_walk walked⟩
    · exact .inl (same_put here _ disk)

end Disk

namespace Volume

open Keywarden.Action

variable {α : Type}

/-- The disk grows by directories at most, whatever happens. -/
def Grows (action : Action Volume α) : Prop :=
  ∀ before : Volume, before.disk.Grown (action before).2.disk

theorem Grows.of_returns {action : Action Volume α} (grows : Grows action)
    {before after : Volume} {value : α} (returned : action.Returns before value after) :
    before.disk.Grown after.disk := by
  have grown := grows before
  rwa [returned] at grown

theorem Grows.of_stops {action : Action Volume α} (grows : Grows action)
    {before after : Volume} {stop : Stop} (stopped : action.Stops before stop after) :
    before.disk.Grown after.disk := by
  have grown := grows before
  rwa [stopped] at grown

private theorem grows_of_keeps {action : Action Volume α} (keeps : action.Keeps id) :
    Grows action := by
  intro before
  rw [show (action before).2 = before from keeps before]
  exact Disk.grown_refl before.disk

theorem Grows.bind {β : Type} {action : Action Volume α} {next : α → Action Volume β}
    (front : Grows action) (rest : ∀ value, Grows (next value)) : Grows (action >>= next) := by
  intro before
  rcases returns_or_stops action before with ⟨value, between, returned⟩ | ⟨stop, after, stopped⟩
  · rw [returned.bind_eq]
    exact (front.of_returns returned).trans (rest value between)
  · have whole : (action >>= next).Stops before stop after := stops_bind.mpr (.inl stopped)
    rw [whole]
    exact front.of_stops stopped

theorem Grows.mapFailure {action : Action Volume α} (grows : Grows action)
    (change : Failure → Failure) : Grows (Action.mapFailure change action) := by
  intro before
  rw [state_mapFailure]
  exact grows before

private theorem looking_grows : Looking fun action => Grows action where
  pure value := grows_of_keeps (keeps_pure id value)
  fail failure := grows_of_keeps (keeps_fail id failure)
  bind := Grows.bind
  attempt {_ action} grows := by
    intro before
    rw [state_attempt]
    exact grows before
  get := grows_of_keeps (keeps_get id)
  examine look := grows_of_keeps (keeps_examine id look)

theorem grows_makeDirectories (path : String) : Grows (makeDirectories path) := by
  refine holds_makeDirectories looking_grows (fun path => ?_) path
  intro before
  rcases returns_or_stops (take (.makeDirectory path)) before with
    ⟨value, after, returned⟩ | ⟨stop, after, stopped⟩
  · obtain ⟨disk, made, rfl⟩ := returns_take.mp returned
    rw [returned]
    exact Disk.grown_makeDirectory made
  · rw [stopped, keeps_of_stops_take stopped]
    exact Disk.grown_refl before.disk

theorem reports_makeDirectories (path : String) : (makeDirectories path).Reports :=
  holds_makeDirectories looking_reports (fun path => reports_take (.makeDirectory path)) path

end Volume

end Keywarden
