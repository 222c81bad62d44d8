import Keywarden.Proofs.InfoFile.Entry

/-!
# The fields of info files

An info file is read member by member, as its entries are.  It is read when every field is filled
at most once and every required field is filled, in whatever order and with whatever members
between them that nobody knows.
-/

namespace Keywarden

open Json

namespace InfoDraft

def knownNames : List String :=
  ["app", "version", "keys", "salt", "confirmation_hash", "argon2"]

def requiredNames : List String :=
  ["app", "version"]

theorem requiredNames_subset : requiredNames ⊆ knownNames := by
  simp [requiredNames, knownNames]

def fields : List (Slot InfoDraft Value) :=
  [⟨"app", fun value => value.head >>= wantText, app, fun draft app => { draft with app }⟩,
    ⟨"version", fun value => value.head >>= wantInt32, version,
      fun draft version => { draft with version }⟩,
    ⟨"keys", KeyEntry.listOfValue, keys, fun draft keys => { draft with keys }⟩,
    ⟨"salt", fun value => value.head >>= wantOptionalBytes, salt,
      fun draft salt => { draft with salt }⟩,
    ⟨"confirmation_hash", fun value => value.head >>= wantOptionalBytes, confirmationHash,
      fun draft confirmationHash => { draft with confirmationHash }⟩,
    ⟨"argon2", CostDraft.ofOptionalValue, cost, fun draft cost => { draft with cost }⟩]

theorem known_iff {name : String} : name ∈ knownNames ↔ ∃ field ∈ fields, name = field.name := by
  simp [knownNames, fields]

private theorem finish_needs (done : InfoDraft) (info : InfoFile)
    (finished : done.finish = .ok info) :
    ∀ field ∈ fields, field.name ∈ requiredNames → field.get done ≠ none := by
  obtain ⟨app, hasApp, finished⟩ := bind_eq_ok.mp finished
  obtain ⟨version, hasVersion, -⟩ := bind_eq_ok.mp finished
  simp [fields, requiredNames, require_eq_ok.mp hasApp, require_eq_ok.mp hasVersion]

def form : Form InfoDraft Value InfoFile where
  fields := fields
  empty := empty
  finish := finish
  required := requiredNames
  apart := by constructor <;> simp [fields]
  unread := by simp [fields, empty]
  known := fun _ required => known_iff.mp (requiredNames_subset required)
  needs := finish_needs

theorem add_eq (draft : InfoDraft) (name : String) (value : Value) :
    draft.add name value = Slot.add fields draft (name, value) := by
  unfold InfoDraft.add
  split
  · rfl
  · rfl
  · rfl
  · rfl
  · rfl
  · rfl
  · rename_i notApp notVersion notKeys notSalt notHash notCost
    refine (Slot.add_unknown ?_ draft).symm
    simp only [fields, List.forall_mem_cons]
    exact ⟨notApp, notVersion, notKeys, notSalt, notHash, notCost, by simp⟩

private theorem ofMembers_eq_ok {draft : InfoDraft} {members : List (Bytes × Value)}
    {info : InfoFile} :
    draft.ofMembers members = .ok info ↔ ∃ named, List.Forall₂ Named members named ∧
      (Slot.addAll fields draft named >>= finish) = .ok info := by
  induction members generalizing draft with
  | nil =>
    constructor
    · exact fun finished => ⟨[], .nil, finished⟩
    · rintro ⟨_, ⟨⟩, finished⟩
      exact finished
  | cons member members ih =>
    obtain ⟨raw, value⟩ := member
    constructor
    · intro read
      obtain ⟨name, asked, read⟩ := bind_eq_ok.mp read
      obtain ⟨next, added, read⟩ := bind_eq_ok.mp read
      obtain ⟨named, names, read⟩ := ih.mp read
      obtain ⟨done, addedAll, finished⟩ := bind_eq_ok.mp read
      rw [add_eq] at added
      exact ⟨(name, value) :: named, .cons ⟨asked, rfl⟩ names,
        bind_eq_ok.mpr ⟨done, Slot.addAll_cons.mpr ⟨next, added, addedAll⟩, finished⟩⟩
    · rintro ⟨_, names, read⟩
      cases names with
      | @cons _ member _ named isNamed names =>
        obtain ⟨name, value⟩ := member
        obtain ⟨asked, rfl⟩ := isNamed
        obtain ⟨done, addedAll, finished⟩ := bind_eq_ok.mp read
        obtain ⟨next, added, addedAll⟩ := Slot.addAll_cons.mp addedAll
        rw [← add_eq] at added
        exact bind_eq_ok.mpr ⟨name, asked, bind_eq_ok.mpr
          ⟨next, added, ih.mpr ⟨named, names, bind_eq_ok.mpr ⟨done, addedAll, finished⟩⟩⟩⟩

/-- An info file is read from its members once their names are texts. -/
theorem read_eq_ok {members : List (Bytes × Value)} {info : InfoFile} :
    empty.ofMembers members = .ok info ↔
      ∃ named, List.Forall₂ Named members named ∧ form.read named = .ok info :=
  ofMembers_eq_ok

theorem ofMembers_perm {members others : List (Bytes × Value)} (same : members.Perm others)
    {info : InfoFile} (read : empty.ofMembers members = .ok info) :
    empty.ofMembers others = .ok info := by
  obtain ⟨named, names, read⟩ := read_eq_ok.mp read
  obtain ⟨moved, names, movedSame⟩ := List.perm_comp_forall₂ same.symm names
  exact read_eq_ok.mpr ⟨moved, names, form.read_perm movedSame.symm read⟩

/-- An unknown member is passed over. -/
theorem ofMembers_unknown {raw : Bytes} {name : String} (asked : askText raw = .ok name)
    (unknown : name ∉ knownNames) (draft : InfoDraft) (value : Value)
    (members : List (Bytes × Value)) :
    draft.ofMembers ((raw, value) :: members) = draft.ofMembers members := by
  have passed : draft.add name value = .ok draft := by
    rw [add_eq]
    exact Slot.add_unknown (fun field listed same => unknown (known_iff.mpr ⟨field, listed, same⟩))
      draft
  rw [InfoDraft.ofMembers, asked, ok_bind, passed, ok_bind]

/-- A known member is the only one of its name. -/
theorem ofMembers_front {raw : Bytes} {name : String} (asked : askText raw = .ok name)
    (known : name ∈ knownNames) {value : Value} {members : List (Bytes × Value)} {info : InfoFile}
    (read : empty.ofMembers ((raw, value) :: members) = .ok info) :
    ¬ ∃ member ∈ members, askText member.1 = .ok name := by
  obtain ⟨_, names, read⟩ := read_eq_ok.mp read
  cases names with
  | @cons _ member _ named isNamed names =>
    obtain rfl : name = member.1 := Except.ok.inj (asked.symm.trans isNamed.1)
    obtain ⟨field, listed, isField⟩ := known_iff.mp known
    rw [exists_named names]
    rintro ⟨other, otherListed, same⟩
    exact form.read_front listed isField read other otherListed same

theorem ofMembers_required {members : List (Bytes × Value)} {info : InfoFile}
    (read : empty.ofMembers members = .ok info) {name : String} (required : name ∈ requiredNames) :
    ∃ member ∈ members, askText member.1 = .ok name := by
  obtain ⟨named, names, read⟩ := read_eq_ok.mp read
  exact (exists_named names).mpr (form.read_present required read)

/-- The entries are read from the member `keys`. -/
theorem ofMembers_keys {raw : Bytes} (asked : askText raw = .ok "keys") {draft : InfoDraft}
    {value : Value} {members : List (Bytes × Value)} {info : InfoFile}
    (read : draft.ofMembers ((raw, value) :: members) = .ok info) :
    ∃ keys, KeyEntry.listOfValue value = .ok keys := by
  obtain ⟨name, named, read⟩ := bind_eq_ok.mp read
  cases asked.symm.trans named
  obtain ⟨next, added, -⟩ := bind_eq_ok.mp read
  obtain ⟨filled, filling, -⟩ := bind_eq_ok.mp added
  obtain ⟨-, keys, readKeys, -⟩ := fill_eq_ok.mp filling
  exact ⟨keys, readKeys⟩

theorem ofMembers_keys_congr {raw : Bytes} (asked : askText raw = .ok "keys") {value other : Value}
    (same : KeyEntry.listOfValue value = KeyEntry.listOfValue other) (draft : InfoDraft)
    (members : List (Bytes × Value)) :
    draft.ofMembers ((raw, value) :: members) = draft.ofMembers ((raw, other) :: members) := by
  simp only [InfoDraft.ofMembers, asked, ok_bind, InfoDraft.add, same]

end InfoDraft

end Keywarden
