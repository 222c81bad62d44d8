import Keywarden.Proofs.Audit.Store
import Keywarden.Proofs.Disk.Beside

/-!
# A note and the rest of the disk

The files of a trail belong in one directory, and all that a note does happens to them.  A note
therefore changes nothing else; and what stands where the trail of another repository belongs,
which the path of the repository does not lead through, tells it nothing.
-/

namespace Keywarden.Audit

open Keywarden.Action

/-! ### The trail alone is changed -/

theorem covered_placeIn (home : Location) (part : Part) :
    Path.Covered (placesIn home) (part.placeIn home) :=
  ⟨_, mem_placesIn.mpr ⟨part, rfl⟩, List.prefix_rfl⟩

private theorem keeps_note_outside (database : Database) (directory : String) (time : Instant)
    (event : Event) : (note database directory time event).Keeps fun volume =>
      volume.disk.outside (placesIn (homeOf directory)) := by
  refine holds_note (tending_keeps (fun part content volume => ?_) fun volume => ?_) time event
  · exact Disk.outside_replace (covered_placeIn _ part) content volume.disk
  · unfold Volume.take
    cases applied : (Step.restrict (pathIn directory)).apply volume.disk with
    | error fault => rfl
    | ok after =>
      have leads : Path.Covered (placesIn (homeOf directory))
          (Path.lead [] (Path.names (pathIn directory))) := by
        rw [lead_pathIn]
        exact covered_placeIn _ .main
      exact Disk.outside_of_restrict leads applied

/-! ### The trail of another repository -/

section Elsewhere

variable {home : Location} {directory : String}
  (avoids : Path.Avoids (placesIn home) [] (Path.names directory))
include avoids

theorem not_covered_placeIn (elsewhere : home ≠ homeOf directory) (part : Part) :
    ¬ Path.Covered (placesIn home) (part.placeIn (homeOf directory)) := by
  rintro ⟨place, member, leads⟩
  rcases List.prefix_concat_iff.mp leads with same | inside
  · obtain ⟨other, rfl⟩ := mem_placesIn.mp member
    exact elsewhere (Part.placeIn_injective same).1
  · exact avoids.outside ⟨place, member, inside⟩

private theorem wayTo_eq {first second : Disk} (beside : Disk.Beside (placesIn home) first second) :
    wayTo directory first = wayTo directory second := by
  refine List.map_congr_left fun place member => beside.lookUp_eq ?_
  obtain ⟨front, within, rfl⟩ := Path.exists_of_mem_along member
  have plain : ∀ name ∈ Path.lead [] front, Path.Plain name :=
    Path.plain_of_mem_lead (by simp) fun name member =>
      Path.whole_of_mem_names (within.subset member)
  rw [Path.names_ofNames_whole fun name member => (plain name member).whole]
  exact Path.avoids_of_outside plain (avoids front within)

private theorem within_eq (elsewhere : home ≠ homeOf directory) {first second : Disk}
    (beside : Disk.Beside (placesIn home) first second) :
    Files.within (homeOf directory) first = Files.within (homeOf directory) second := by
  funext part
  rw [Files.within, Files.within,
    beside.same _ (not_covered_placeIn avoids elsewhere part)]

private theorem tending_beside (elsewhere : home ≠ homeOf directory) :
    Tending (fun action => action.Respects (Volume.Beside (placesIn home))) directory where
  toSelective := selective_respects _
  describes := Volume.respects_get (fun _ _ beside => by rw [wayTo_eq avoids beside])
    fun _ => (inherited_respects _).pure _
  asks := by
    have looks : (look (homeOf directory)).Respects (Volume.Beside (placesIn home)) :=
      Volume.respects_get (fun _ _ beside => by rw [within_eq avoids elsewhere beside])
        fun _ => (inherited_respects _).pure _
    intro α request
    refine holds_ask (inherited_respects _) looks (fun files => ?_) request
    refine Volume.respects_takeAll fun step member => ?_
    obtain ⟨part, -, rfl⟩ := List.mem_map.mp member
    exact ⟨part.plain_placeIn (plain_homeOf directory), not_covered_placeIn avoids elsewhere part⟩
  restricts := by
    have along : Path.Avoids (placesIn home) [] (Path.names (pathIn directory)) := by
      rw [names_pathIn]
      refine avoids.concat_plain Part.main.plain_fileName fun member => ?_
      exact not_covered_placeIn avoids elsewhere .main ⟨_, member, List.prefix_rfl⟩
    exact Volume.respects_take along

/-- Whatever stands where the trail of a repository belongs, a note for a repository that is
reached past it is taken alike: either the trail is the same, and nothing else is changed, or it is
another one. -/
theorem respects_note (database : Database) (time : Instant) (event : Event) :
    (note database directory time event).Respects (Volume.Beside (placesIn home)) := by
  by_cases here : home = homeOf directory
  · subst here
    intro first second beside
    obtain ⟨_, left⟩ := returns_note database directory time event first
    obtain ⟨_, right⟩ := returns_note database directory time event second
    have keeps := keeps_note_outside database directory time event
    refine ⟨by rw [left, right], beside.of_outside (keeps first) (keeps second)⟩
  · exact holds_note (tending_beside avoids here) time event

end Elsewhere

end Keywarden.Audit
