import Keywarden.Audit.Store
import Keywarden.InfoFile.Store
import Keywarden.Proofs.Disk.Lead
import Keywarden.Proofs.Disk.Named

/-!
# The audit trail and the other files

The files of a trail have names of their own, however the path of the repository is written.
Whatever the database does, keeping a trail therefore changes no file of another name and makes
no directory, and a note is taken without a failure.
-/

namespace Keywarden.Audit

open Keywarden.Action

/-! ### The files of a trail -/

namespace Part

theorem plain_fileName (part : Part) : Path.Plain part.fileName := by
  cases part <;> exact ⟨by decide, by decide, by decide, by decide⟩

private theorem fileName_injective {part other : Part} (same : part.fileName = other.fileName) :
    part = other := by
  cases part <;> cases other <;> simp_all [fileName]

theorem fileName_ne_info (part : Part) : part.fileName ≠ InfoFile.fileName := by
  cases part <;> decide

theorem mem_all (part : Part) : part ∈ all := by
  cases part <;> decide

theorem getLast?_placeIn (home : Location) (part : Part) :
    (part.placeIn home).getLast? = some part.fileName :=
  List.getLast?_concat

theorem dropLast_placeIn (home : Location) (part : Part) :
    (part.placeIn home).dropLast = home :=
  List.dropLast_concat

theorem placeIn_injective {home other : Location} {part second : Part}
    (same : part.placeIn home = second.placeIn other) : home = other ∧ part = second := by
  obtain ⟨front, last⟩ := List.append_inj' same rfl
  exact ⟨front, fileName_injective (List.singleton_inj.mp last)⟩

end Part

/-- Where the files of a trail belong, if its directory is at a location. -/
def placesIn (home : Location) : List Location :=
  Part.all.map fun part => part.placeIn home

theorem mem_placesIn {home place : Location} :
    place ∈ placesIn home ↔ ∃ part : Part, place = part.placeIn home := by
  rw [placesIn, List.mem_map]
  constructor
  · rintro ⟨part, -, rfl⟩
    exact ⟨part, rfl⟩
  · rintro ⟨part, rfl⟩
    exact ⟨part, part.mem_all, rfl⟩

theorem names_pathIn (directory : String) :
    Path.names (pathIn directory) = Path.names directory ++ [Part.main.fileName] :=
  Path.names_join directory _ Part.main.plain_fileName.noSlash Part.main.plain_fileName.visible

theorem lead_pathIn (directory : String) :
    Path.lead [] (Path.names (pathIn directory)) = Part.main.placeIn (homeOf directory) := by
  rw [names_pathIn, Path.lead_concat Part.main.plain_fileName]
  rfl

theorem plain_homeOf (directory : String) : ∀ name ∈ homeOf directory, Path.Plain name :=
  Path.plain_of_mem_lead (by simp) fun _ => Path.whole_of_mem_names

theorem Part.plain_placeIn {home : Location} (plain : ∀ name ∈ home, Path.Plain name)
    (part : Part) : ∀ name ∈ part.placeIn home, Path.Plain name := by
  intro name member
  rcases List.mem_append.mp member with inside | last
  · exact plain name inside
  · rw [List.mem_singleton.mp last]
    exact part.plain_fileName

/-! ### What a note inherits -/

/-- Tells what stands on the way to the trail. -/
def describe (directory : String) : Action Volume (List (Except FileFault Node)) := do
  return wayTo directory (← get).disk

/-- Tells what stands where the files of a trail belong. -/
def look (home : Location) : Action Volume Files := do
  return .within home (← get).disk

variable {database : Database} {directory : String}

theorem openTrail_eq (database : Database) (directory : String) :
    openTrail database directory = (do
      let way ← describe directory
      match ← ask (homeOf directory) (database.connect (pathIn directory) way) with
      | .error _ => return none
      | .ok () =>
        let _ ← attempt (Volume.take (.restrict (pathIn directory)))
        match ← ask (homeOf directory) database.createTable with
        | .error _ => return none
        | .ok () => return some (homeOf directory)) :=
  rfl

/-- A trail is open where the names of its directory lead. -/
theorem home_of_openTrail {home : Location}
    (yields : (openTrail database directory).Yields (some home)) : home = homeOf directory := by
  rw [openTrail_eq] at yields
  obtain ⟨before, after, returned⟩ := yields
  obtain ⟨way, _, -, returned⟩ := returns_bind.mp returned
  obtain ⟨connected, _, -, returned⟩ := returns_bind.mp returned
  cases connected with
  | error reason => cases (returns_pure.mp returned).1
  | ok =>
    obtain ⟨attempted, _, -, returned⟩ := returns_bind.mp returned
    obtain ⟨created, _, -, returned⟩ := returns_bind.mp returned
    cases created with
    | error reason => cases (returns_pure.mp returned).1
    | ok => exact Option.some.inj (returns_pure.mp returned).1.symm

/-- The property is inherited, and it holds of all that is done to keep the trail of the
repository in a directory. -/
structure Tending (Holds : ∀ {α : Type}, Action Volume α → Prop) (directory : String) : Prop
    extends Selective Holds where
  describes : Holds (describe directory)
  asks : ∀ {α : Type} (request : Request α), Holds (ask (homeOf directory) request)
  restricts : Holds (Volume.take (.restrict (pathIn directory)))

section Tending

variable {Holds : ∀ {α : Type}, Action Volume α → Prop} (tending : Tending Holds directory)
include tending

theorem holds_openTrail : Holds (openTrail database directory) := by
  rw [openTrail_eq]
  refine tending.bind tending.describes fun way => tending.bind (tending.asks _) fun connected => ?_
  cases connected with
  | error reason => exact tending.pure none
  | ok =>
    refine tending.bind (tending.attempt tending.restricts) fun _ => ?_
    refine tending.bind (tending.asks _) fun created => ?_
    cases created with
    | error reason => exact tending.pure none
    | ok => exact tending.pure _

theorem holds_note (time : Instant) (event : Event) :
    Holds (note database directory time event) := by
  refine tending.bind_yields (holds_openTrail tending) fun opened yields => ?_
  cases opened with
  | none => exact tending.pure ()
  | some home =>
    obtain rfl := home_of_openTrail yields
    exact tending.bind (tending.asks _) fun _ => tending.pure ()

theorem holds_query (limit : Nat) : Holds (query database (homeOf directory) limit) := by
  refine tending.bind (tending.asks _) fun prepared => ?_
  cases prepared with
  | error reason => exact tending.fail _
  | ok =>
    refine tending.bind (tending.asks _) fun selected => ?_
    cases selected with
    | error reason => exact tending.fail _
    | ok records => exact tending.pure records

end Tending

/-! ### Keeping a trail -/

theorem holds_ask {Holds : ∀ {α : Type}, Action Volume α → Prop} (inherited : Inherited Holds)
    {home : Location} (looks : Holds (look home)) (leaves : ∀ files, Holds (leave home files))
    {α : Type} (request : Request α) : Holds (ask home request) := by
  change Holds (look home >>= fun files =>
    leave home (request files).2 >>= fun _ => pure (request files).1)
  exact inherited.bind looks fun _ => inherited.bind (leaves _) fun _ => inherited.pure _

private theorem keeps_takeAll {γ : Type} {view : Volume → γ} {steps : List Step}
    (each : ∀ step ∈ steps, (Volume.take step).Keeps view) : (Volume.takeAll steps).Keeps view := by
  induction steps with
  | nil => exact keeps_pure view ()
  | cons step rest ih =>
    rw [List.forall_mem_cons] at each
    exact each.1.bind fun _ => ih each.2

/-- A view that the steps keep which are taken for a trail. -/
theorem tending_keeps {γ : Type} {view : Volume → γ}
    (replaces : ∀ (part : Part) content,
      (Volume.take (.replace (part.placeIn (homeOf directory)) content)).Keeps view)
    (restricts : (Volume.take (.restrict (pathIn directory))).Keeps view) :
    Tending (fun action => action.Keeps view) directory where
  toSelective := selective_keeps view
  describes := (keeps_get view).bind fun _ => keeps_pure view _
  asks request := by
    have looks : (look (homeOf directory)).Keeps view :=
      (keeps_get view).bind fun _ => keeps_pure view _
    refine holds_ask (inherited_keeps view) looks (fun files => ?_) request
    refine keeps_takeAll fun step member => ?_
    obtain ⟨part, -, rfl⟩ := List.mem_map.mp member
    exact replaces part _
  restricts := restricts

theorem tending_outline {name : String} (other : ∀ part : Part, part.fileName ≠ name)
    (directory : String) :
    Tending (fun action => action.Keeps (Volume.outline name)) directory := by
  refine tending_keeps (fun part content => ?_) (Volume.keeps_outline_take trivial fun _ => nofun)
  have spares : (Step.replace (part.placeIn (homeOf directory)) content).Spares name := by
    rw [Step.Spares, part.getLast?_placeIn]
    exact fun same => other part (Option.some.inj same)
  exact Volume.keeps_outline_take spares fun _ => nofun

section Keeps

variable {name : String} (other : ∀ part : Part, part.fileName ≠ name)
include other

theorem keeps_note (database : Database) (directory : String) (time : Instant) (event : Event) :
    (note database directory time event).Keeps (Volume.outline name) :=
  holds_note (tending_outline other directory) time event

end Keeps

/-! ### Failures -/

private theorem unfailing_replace (location : Location) (content : Option Bytes) :
    (Volume.take (.replace location content)).Unfailing := by
  intro before stop after stopped
  cases stopped

theorem unfailing_leave (home : Location) (files : Files) : (leave home files).Unfailing := by
  unfold leave
  induction Part.all with
  | nil => exact unfailing_pure ()
  | cons part rest ih => exact (unfailing_replace _ _).bind fun _ => ih

theorem unfailing_ask {α : Type} (home : Location) (request : Request α) :
    (ask home request).Unfailing :=
  unfailing_get.bind fun _ => (unfailing_leave home _).bind fun _ => unfailing_pure _

private theorem unfailing_openTrail (database : Database) (directory : String) :
    (openTrail database directory).Unfailing := by
  refine unfailing_get.bind fun _ => (unfailing_ask _ _).bind fun connected => ?_
  cases connected with
  | error reason => exact unfailing_pure none
  | ok =>
    refine (Volume.reports_take _).unfailing_attempt.bind fun _ => ?_
    refine (unfailing_ask _ _).bind fun created => ?_
    cases created with
    | error reason => exact unfailing_pure none
    | ok => exact unfailing_pure _

/-- A note never fails: what cannot be recorded is passed over. -/
theorem unfailing_note (database : Database) (directory : String) (time : Instant) (event : Event) :
    (note database directory time event).Unfailing := by
  refine (unfailing_openTrail database directory).bind fun opened => ?_
  cases opened with
  | none => exact unfailing_pure ()
  | some home => exact (unfailing_ask _ _).bind fun _ => unfailing_pure ()

/-! ### Notes that differ in a factor -/

/-- The volumes are the same, or they came from one volume when the same event was noted in one
trail, up to the factor that it names. -/
inductive Apart (left right : Volume) : Prop
  | same (same : left = right)
  | noted {base : Volume} {database : Database} {directory operation : String} {time : Instant}
      {leftFactor rightFactor details : Option String}
      (left : (note database directory time ⟨operation, leftFactor, details⟩).Returns base () left)
      (right : (note database directory time ⟨operation, rightFactor, details⟩).Returns base ()
        right)

theorem returns_note (database : Database) (directory : String) (time : Instant) (event : Event)
    (before : Volume) : ∃ after, (note database directory time event).Returns before () after := by
  rcases returns_or_stops (note database directory time event) before with
    ⟨_, after, returned⟩ | ⟨stop, after, stopped⟩
  · exact ⟨after, returned⟩
  · exact (unfailing_note database directory time event before stop after stopped).elim

end Keywarden.Audit
