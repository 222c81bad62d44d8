import Keywarden.Json.Shape
import Keywarden.Proofs.Action
import Mathlib.Data.List.Forall2
import Mathlib.Data.List.Perm.Basic

/-!
# Members in any order

The reader of a record fills one field after another while it passes the members.  Whether it
succeeds, and what a field holds in the end, does not depend on the order of the members: the
members of one name fill one field, and a second one is refused wherever it stands.
-/

namespace Keywarden.Json

section Checks

variable {α ν : Type} {name : String}

theorem fill_eq_ok {field filled : Option α} {value : Asked α} :
    fill name field value = .ok filled ↔
      field = none ∧ ∃ found, value = .ok found ∧ filled = some found := by
  cases field with
  | some present => simp [fill]
  | none =>
    cases value with
    | error mismatch => simp [fill, Except.map]
    | ok found => simp [fill, Except.map, eq_comm]

theorem require_eq_ok {field : Option α} {found : α} :
    require name field = .ok found ↔ field = some found := by
  cases field <;> simp [require]

theorem map_eq_ok {β : Type} {value : Asked α} {change : α → β} {result : β} :
    value.map change = .ok result ↔ ∃ found, value = .ok found ∧ change found = result := by
  cases value with
  | error mismatch => simp [Except.map]
  | ok found => simp [Except.map]

def Named (member : Bytes × ν) (named : String × ν) : Prop :=
  askText member.1 = .ok named.1 ∧ member.2 = named.2

theorem exists_named {members : List (Bytes × ν)} {named : List (String × ν)}
    (names : List.Forall₂ Named members named) :
    (∃ member ∈ members, askText member.1 = .ok name) ↔ ∃ member ∈ named, member.1 = name := by
  induction names with
  | nil => simp
  | cons isNamed names ih =>
    simp only [List.mem_cons, exists_eq_or_imp, ih, isNamed.1, Except.ok.injEq]

end Checks

/-! ### Fields -/

/-- The slot of a field in a record under construction: the name of its member, how a value is
read, and where it is kept. -/
structure Slot (δ ν : Type) where
  {α : Type}
  name : String
  read : ν → Asked α
  get : δ → Option α
  set : δ → Option α → δ

namespace Slot

variable {δ ν : Type}

/-- One member: it fills the field of its name, or it is passed over. -/
def add (fields : List (Slot δ ν)) (draft : δ) (member : String × ν) : Asked δ :=
  match fields.find? (·.name == member.1) with
  | some field => do
    return field.set draft (← fill field.name (field.get draft) (field.read member.2))
  | none => .ok draft

def addAll (fields : List (Slot δ ν)) (draft : δ) (members : List (String × ν)) : Asked δ :=
  members.foldlM (add fields) draft

/-- Every field has a name and a place of its own. -/
structure Apart (fields : List (Slot δ ν)) : Prop where
  unique : ∀ first ∈ fields, ∀ second ∈ fields, first.name = second.name → first = second
  get_set : ∀ field ∈ fields, ∀ draft value, field.get (field.set draft value) = value
  set_get : ∀ field ∈ fields, ∀ draft, field.set draft (field.get draft) = draft
  set_set : ∀ field ∈ fields, ∀ draft value other,
    field.set (field.set draft value) other = field.set draft other
  get_other : ∀ first ∈ fields, ∀ second ∈ fields, first.name ≠ second.name →
    ∀ draft value, first.get (second.set draft value) = first.get draft
  set_comm : ∀ first ∈ fields, ∀ second ∈ fields, first.name ≠ second.name →
    ∀ draft value other,
      second.set (first.set draft value) other = first.set (second.set draft other) value

variable {fields : List (Slot δ ν)}

theorem add_unknown {member : String × ν} (unknown : ∀ field ∈ fields, member.1 ≠ field.name)
    (draft : δ) : add fields draft member = .ok draft := by
  have none : fields.find? (·.name == member.1) = none :=
    List.find?_eq_none.mpr fun field listed same => unknown field listed (beq_iff_eq.mp same).symm
  rw [add, none]

/-- Which field a member fills depends on its name alone. -/
theorem add_cases (fields : List (Slot δ ν)) (member : String × ν) :
    ((∀ field ∈ fields, member.1 ≠ field.name) ∧ ∀ draft, add fields draft member = .ok draft) ∨
      ∃ field ∈ fields, member.1 = field.name ∧ ∀ draft next, add fields draft member = .ok next ↔
        field.get draft = none ∧
          ∃ found, field.read member.2 = .ok found ∧ next = field.set draft (some found) := by
  cases lookup : fields.find? (·.name == member.1) with
  | none =>
    have unknown : ∀ field ∈ fields, member.1 ≠ field.name := fun field listed same =>
      List.find?_eq_none.mp lookup field listed (beq_iff_eq.mpr same.symm)
    exact .inl ⟨unknown, add_unknown unknown⟩
  | some field =>
    have named : field.name = member.1 := by simpa using List.find?_some lookup
    refine .inr ⟨field, List.mem_of_find?_eq_some lookup, named.symm, fun draft next => ?_⟩
    simp only [add, lookup, bind_eq_ok, fill_eq_ok]
    constructor
    · rintro ⟨filled, ⟨unread, found, asked, rfl⟩, built⟩
      cases built
      exact ⟨unread, found, asked, rfl⟩
    · rintro ⟨unread, found, asked, rfl⟩
      exact ⟨some found, ⟨unread, found, asked, rfl⟩, rfl⟩

theorem addAll_cons {draft done : δ} {member : String × ν} {members : List (String × ν)} :
    addAll fields draft (member :: members) = .ok done ↔
      ∃ next, add fields draft member = .ok next ∧ addAll fields next members = .ok done := by
  rw [addAll, List.foldlM_cons, bind_eq_ok]
  rfl

section Apart

variable (apart : Apart fields)
include apart

theorem Apart.exchange {draft between done : δ} {first second : String × ν}
    (addFirst : add fields draft first = .ok between)
    (addSecond : add fields between second = .ok done) :
    ∃ other, add fields draft second = .ok other ∧ add fields other first = .ok done := by
  rcases add_cases fields first with ⟨-, passed⟩ | ⟨field, listed, -, filled⟩
  · cases (passed draft).symm.trans addFirst
    exact ⟨done, addSecond, passed done⟩
  rcases add_cases fields second with ⟨-, passed⟩ | ⟨later, laterListed, -, laterFilled⟩
  · cases (passed between).symm.trans addSecond
    exact ⟨draft, passed draft, addFirst⟩
  obtain ⟨unread, found, asked, rfl⟩ := (filled _ _).mp addFirst
  obtain ⟨laterUnread, laterFound, laterAsked, rfl⟩ := (laterFilled _ _).mp addSecond
  by_cases same : later.name = field.name
  · obtain rfl := apart.unique later laterListed field listed same
    rw [apart.get_set later listed] at laterUnread
    cases laterUnread
  · rw [apart.get_other later laterListed field listed same] at laterUnread
    have stillUnread := apart.get_other field listed later laterListed (Ne.symm same) draft
      (some laterFound)
    exact ⟨later.set draft (some laterFound),
      (laterFilled _ _).mpr ⟨laterUnread, laterFound, laterAsked, rfl⟩,
      (filled _ _).mpr ⟨stillUnread.trans unread, found, asked,
        apart.set_comm field listed later laterListed (Ne.symm same) _ _ _⟩⟩

/-- The order of the members does not matter. -/
theorem Apart.addAll_perm {members others : List (String × ν)} (same : members.Perm others)
    {draft done : δ} (added : addAll fields draft members = .ok done) :
    addAll fields draft others = .ok done := by
  induction same generalizing draft with
  | nil => exact added
  | cons member _ ih =>
    obtain ⟨next, front, added⟩ := addAll_cons.mp added
    exact addAll_cons.mpr ⟨next, front, ih added⟩
  | swap first second members =>
    obtain ⟨between, front, added⟩ := addAll_cons.mp added
    obtain ⟨next, later, added⟩ := addAll_cons.mp added
    obtain ⟨other, later, front⟩ := apart.exchange front later
    exact addAll_cons.mpr ⟨other, later, addAll_cons.mpr ⟨next, front, added⟩⟩
  | trans _ _ ihFirst ihSecond => exact ihSecond (ihFirst added)

variable {field : Slot δ ν} (listed : field ∈ fields)
include listed

theorem Apart.add_named {draft next : δ} {member : String × ν} (named : member.1 = field.name) :
    add fields draft member = .ok next ↔ field.get draft = none ∧
      ∃ found, field.read member.2 = .ok found ∧ next = field.set draft (some found) := by
  rcases add_cases fields member with ⟨unknown, -⟩ | ⟨filling, fillingListed, same, filled⟩
  · exact absurd named (unknown field listed)
  · obtain rfl := apart.unique filling fillingListed field listed (same.symm.trans named)
    exact filled draft next

/-- A member of another name leaves the field alone, and does not depend on it. -/
theorem Apart.add_other {draft next : δ} {member : String × ν} (other : member.1 ≠ field.name)
    (added : add fields draft member = .ok next) :
    field.get next = field.get draft ∧
      ∀ value, add fields (field.set draft value) member = .ok (field.set next value) := by
  rcases add_cases fields member with ⟨-, passed⟩ | ⟨filling, fillingListed, named, filled⟩
  · cases (passed draft).symm.trans added
    exact ⟨rfl, fun value => passed _⟩
  · rw [named] at other
    obtain ⟨unread, found, asked, rfl⟩ := (filled _ _).mp added
    refine ⟨apart.get_other field listed filling fillingListed (Ne.symm other) _ _, fun value => ?_⟩
    refine (filled _ _).mpr ⟨?_, found, asked,
      (apart.set_comm field listed filling fillingListed (Ne.symm other) _ _ _).symm⟩
    rw [apart.get_other filling fillingListed field listed other, unread]

/-- A field that is filled stays as it is, and no further member may have its name. -/
theorem Apart.addAll_filled {draft done : δ} {found : field.α}
    (filled : field.get draft = some found) {members : List (String × ν)}
    (added : addAll fields draft members = .ok done) :
    field.get done = some found ∧ ∀ member ∈ members, member.1 ≠ field.name := by
  induction members generalizing draft with
  | nil =>
    cases added
    exact ⟨filled, by simp⟩
  | cons member members ih =>
    obtain ⟨next, front, added⟩ := addAll_cons.mp added
    have other : member.1 ≠ field.name := by
      intro named
      cases filled.symm.trans ((apart.add_named listed named).mp front).1
    obtain ⟨kept, absent⟩ := ih ((apart.add_other listed other front).1.trans filled) added
    exact ⟨kept, List.forall_mem_cons.mpr ⟨other, absent⟩⟩

theorem Apart.addAll_absent {draft done : δ} {members : List (String × ν)}
    (absent : ∀ member ∈ members, member.1 ≠ field.name)
    (added : addAll fields draft members = .ok done) :
    field.get done = field.get draft ∧
      ∀ value, addAll fields (field.set draft value) members = .ok (field.set done value) := by
  induction members generalizing draft with
  | nil =>
    cases added
    exact ⟨rfl, fun value => rfl⟩
  | cons member members ih =>
    obtain ⟨next, front, added⟩ := addAll_cons.mp added
    obtain ⟨other, absent⟩ := List.forall_mem_cons.mp absent
    obtain ⟨kept, without⟩ := apart.add_other listed other front
    obtain ⟨keptLater, withoutLater⟩ := ih absent added
    exact ⟨keptLater.trans kept, fun value =>
      addAll_cons.mpr ⟨_, without value, withoutLater value⟩⟩

/-- A member that fills a field is the only one of its name. -/
theorem Apart.addAll_front {draft done : δ} {member : String × ν} (named : member.1 = field.name)
    {members : List (String × ν)} (added : addAll fields draft (member :: members) = .ok done) :
    ∀ other ∈ members, other.1 ≠ field.name := by
  obtain ⟨next, front, added⟩ := addAll_cons.mp added
  obtain ⟨-, found, -, rfl⟩ := (apart.add_named listed named).mp front
  exact (apart.addAll_filled listed (apart.get_set field listed draft (some found)) added).2

end Apart

end Slot

/-! ### Records -/

/-- A kind of record: its fields, the record with nothing read, what comes of it in the end, and
the members that it needs. -/
structure Form (δ ν ρ : Type) where
  fields : List (Slot δ ν)
  empty : δ
  finish : δ → Asked ρ
  required : List String
  apart : Slot.Apart fields
  unread : ∀ field ∈ fields, field.get empty = none
  known : ∀ name ∈ required, ∃ field ∈ fields, name = field.name
  needs : ∀ done result, finish done = .ok result →
    ∀ field ∈ fields, field.name ∈ required → field.get done ≠ none

namespace Form

variable {δ ν ρ : Type} (form : Form δ ν ρ) {member : String × ν} {members : List (String × ν)}
  {result : ρ}

def read (members : List (String × ν)) : Asked ρ :=
  Slot.addAll form.fields form.empty members >>= form.finish

theorem read_eq_ok : form.read members = .ok result ↔ ∃ done,
    Slot.addAll form.fields form.empty members = .ok done ∧ form.finish done = .ok result :=
  bind_eq_ok

/-- The order of the members does not matter. -/
theorem read_perm {others : List (String × ν)} (same : members.Perm others)
    (read : form.read members = .ok result) : form.read others = .ok result := by
  obtain ⟨done, added, finished⟩ := form.read_eq_ok.mp read
  exact form.read_eq_ok.mpr ⟨done, form.apart.addAll_perm same added, finished⟩

/-- A member with a field is the only one of its name. -/
theorem read_front {field : Slot δ ν} (listed : field ∈ form.fields)
    (named : member.1 = field.name) (read : form.read (member :: members) = .ok result) :
    ∀ other ∈ members, other.1 ≠ member.1 := by
  obtain ⟨done, added, -⟩ := form.read_eq_ok.mp read
  rw [named]
  exact form.apart.addAll_front listed named added

theorem read_present {name : String} (required : name ∈ form.required)
    (read : form.read members = .ok result) : ∃ member ∈ members, member.1 = name := by
  obtain ⟨field, listed, rfl⟩ := form.known name required
  obtain ⟨done, added, finished⟩ := form.read_eq_ok.mp read
  by_contra! absent
  refine form.needs done result finished field listed required ?_
  exact (form.apart.addAll_absent listed absent added).1.trans (form.unread field listed)

/-- Without a required member the record is refused. -/
theorem read_required (required : member.1 ∈ form.required)
    (read : form.read (member :: members) = .ok result) (other : ρ) :
    form.read members ≠ .ok other := by
  intro readOther
  obtain ⟨field, listed, named⟩ := form.known _ required
  obtain ⟨twin, twinListed, same⟩ := form.read_present required readOther
  exact form.read_front listed named read twin twinListed same

/-- A member that brings what a missing one stands for may be missing. -/
theorem read_default {field : Slot δ ν} (listed : field ∈ form.fields)
    (named : member.1 = field.name) {found : field.α} (asked : field.read member.2 = .ok found)
    (same : ∀ done, field.get done = none →
      form.finish (field.set done (some found)) = form.finish done)
    (read : form.read (member :: members) = .ok result) : form.read members = .ok result := by
  obtain ⟨done, added, finished⟩ := form.read_eq_ok.mp read
  obtain ⟨next, front, added⟩ := Slot.addAll_cons.mp added
  obtain ⟨unread, value, read, rfl⟩ := (form.apart.add_named listed named).mp front
  cases asked.symm.trans read
  have filled := form.apart.get_set field listed form.empty (some found)
  obtain ⟨kept, absent⟩ := form.apart.addAll_filled listed filled added
  -- the same run without the member: its field is emptied again before and after
  have without := (form.apart.addAll_absent listed absent added).2 none
  rw [form.apart.set_set field listed, ← unread, form.apart.set_get field listed] at without
  refine form.read_eq_ok.mpr ⟨_, without, ?_⟩
  rw [unread, ← same _ (form.apart.get_set field listed done none), form.apart.set_set field listed,
    ← kept, form.apart.set_get field listed]
  exact finished

end Form

end Keywarden.Json
