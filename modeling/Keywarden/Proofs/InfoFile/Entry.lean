import Keywarden.Proofs.InfoFile.Shapes
import Keywarden.Proofs.Json.Tagged

/-!
# The fields of entries

An entry is read member by member, each of which fills a field: the order of the members does not
matter, a standard cost need not be written, and without a required member the entry is refused.
-/

namespace Keywarden

open Json

/-! ### The two kinds -/

namespace PassphraseDraft

def fields : List (Slot PassphraseDraft Content) :=
  [⟨"salt", (wantBytes ·.head), salt, fun draft salt => { draft with salt }⟩,
    ⟨"confirmation_hash", (wantBytes ·.head), confirmationHash,
      fun draft confirmationHash => { draft with confirmationHash }⟩,
    ⟨"wrapped_key", (wantBytes ·.head), wrappedKey,
      fun draft wrappedKey => { draft with wrappedKey }⟩,
    ⟨"argon2", CostDraft.ofContent, cost, fun draft cost => { draft with cost }⟩]

/-- The names that a passphrase entry needs beside its kind. -/
def requiredNames : List String :=
  ["salt", "confirmation_hash", "wrapped_key"]

theorem apart : Slot.Apart fields := by
  constructor <;> simp [fields]

theorem finish_needs (done : PassphraseDraft) (entry : PassphraseEntry)
    (finished : done.finish = .ok entry) :
    ∀ field ∈ fields, field.name ∈ requiredNames → field.get done ≠ none := by
  obtain ⟨salt, hasSalt, finished⟩ := bind_eq_ok.mp finished
  obtain ⟨hash, hasHash, finished⟩ := bind_eq_ok.mp finished
  obtain ⟨key, hasKey, -⟩ := bind_eq_ok.mp finished
  simp [fields, requiredNames, require_eq_ok.mp hasSalt, require_eq_ok.mp hasHash,
    require_eq_ok.mp hasKey]

def form : Form PassphraseDraft Content PassphraseEntry where
  fields := fields
  empty := empty
  finish := finish
  required := requiredNames
  apart := apart
  unread := by simp [fields, empty]
  known := by simp [fields, requiredNames]
  needs := finish_needs

private theorem add_eq (draft : PassphraseDraft) (name : String) (content : Content) :
    draft.add name content = Slot.add fields draft (name, content) := by
  unfold PassphraseDraft.add
  split
  · rfl
  · rfl
  · rfl
  · rfl
  · rename_i notSalt notHash notKey notCost
    refine (Slot.add_unknown ?_ draft).symm
    simp only [fields, List.forall_mem_cons]
    exact ⟨notSalt, notHash, notKey, notCost, by simp⟩

private theorem ofMembers_eq (draft : PassphraseDraft) (members : List (String × Content)) :
    draft.ofMembers members = Slot.addAll fields draft members >>= finish := by
  induction members generalizing draft with
  | nil => rfl
  | cons member members ih =>
    simp only [PassphraseDraft.ofMembers, add_eq, ih, Slot.addAll, List.foldlM_cons, bind_assoc]

private theorem read_eq (members : List (String × Content)) :
    empty.ofMembers members = form.read members :=
  ofMembers_eq empty members

/-- A standard cost need not be written. -/
theorem read_standard {content : Content} (standard : CostDraft.ofContent content = .ok .standard)
    {members : List (String × Content)} {entry : PassphraseEntry}
    (read : form.read (("argon2", content) :: members) = .ok entry) :
    form.read members = .ok entry := by
  have listed : ⟨"argon2", CostDraft.ofContent, cost, fun draft cost => { draft with cost }⟩ ∈
      fields := by simp [fields]
  refine form.read_default listed rfl standard ?_ read
  intro done unread
  change done.cost = none at unread
  simp [form, finish, unread]

end PassphraseDraft

namespace AsymmetricDraft

def fields : List (Slot AsymmetricDraft Content) :=
  [⟨"recipient_id", (wantText ·.head), recipientId,
      fun draft recipientId => { draft with recipientId }⟩,
    ⟨"wrapped_key", (wantBytes ·.head), wrappedKey,
      fun draft wrappedKey => { draft with wrappedKey }⟩]

/-- The names that an asymmetric entry needs beside its kind. -/
def requiredNames : List String :=
  ["recipient_id", "wrapped_key"]

private theorem finish_needs (done : AsymmetricDraft) (entry : AsymmetricEntry)
    (finished : done.finish = .ok entry) :
    ∀ field ∈ fields, field.name ∈ requiredNames → field.get done ≠ none := by
  obtain ⟨recipient, hasRecipient, finished⟩ := bind_eq_ok.mp finished
  obtain ⟨key, hasKey, -⟩ := bind_eq_ok.mp finished
  simp [fields, requiredNames, require_eq_ok.mp hasRecipient, require_eq_ok.mp hasKey]

def form : Form AsymmetricDraft Content AsymmetricEntry where
  fields := fields
  empty := empty
  finish := finish
  required := requiredNames
  apart := by constructor <;> simp [fields]
  unread := by simp [fields, empty]
  known := by simp [fields, requiredNames]
  needs := finish_needs

private theorem add_eq (draft : AsymmetricDraft) (name : String) (content : Content) :
    draft.add name content = Slot.add fields draft (name, content) := by
  unfold AsymmetricDraft.add
  split
  · rfl
  · rfl
  · rename_i notRecipient notKey
    refine (Slot.add_unknown ?_ draft).symm
    simp only [fields, List.forall_mem_cons]
    exact ⟨notRecipient, notKey, by simp⟩

private theorem ofMembers_eq (draft : AsymmetricDraft) (members : List (String × Content)) :
    draft.ofMembers members = Slot.addAll fields draft members >>= finish := by
  induction members generalizing draft with
  | nil => rfl
  | cons member members ih =>
    simp only [AsymmetricDraft.ofMembers, add_eq, ih, Slot.addAll, List.foldlM_cons, bind_assoc]

private theorem read_eq (members : List (String × Content)) :
    empty.ofMembers members = form.read members :=
  ofMembers_eq empty members

end AsymmetricDraft

/-! ### Entries -/

namespace KeyEntry

def requiredNames : KeyEntry → List String
  | .passphrase _ => "type" :: PassphraseDraft.requiredNames
  | .asymmetric _ => "type" :: AsymmetricDraft.requiredNames

theorem ofContent_passphrase (members : List (String × Content)) :
    ofContent .passphrase (.object members) =
      (PassphraseDraft.form.read members).map .passphrase := by
  rw [ofContent, PassphraseDraft.read_eq]

theorem ofContent_asymmetric (members : List (String × Content)) :
    ofContent .asymmetric (.object members) =
      (AsymmetricDraft.form.read members).map .asymmetric := by
  rw [ofContent, AsymmetricDraft.read_eq]

private theorem ofContent_perm {kind : Kind} {members others : List (String × Content)}
    (same : members.Perm others) {entry : KeyEntry}
    (read : ofContent kind (.object members) = .ok entry) :
    ofContent kind (.object others) = .ok entry := by
  cases kind with
  | passphrase =>
    rw [ofContent_passphrase, map_eq_ok] at read ⊢
    obtain ⟨found, read, built⟩ := read
    exact ⟨found, PassphraseDraft.form.read_perm same read, built⟩
  | asymmetric =>
    rw [ofContent_asymmetric, map_eq_ok] at read ⊢
    obtain ⟨found, read, built⟩ := read
    exact ⟨found, AsymmetricDraft.form.read_perm same read, built⟩

private theorem ofContent_standard {kind : Kind} {content : Content}
    (standard : CostDraft.ofContent content = .ok .standard) {members : List (String × Content)}
    {entry : KeyEntry}
    (read : ofContent kind (.object (("argon2", content) :: members)) = .ok entry) :
    ofContent kind (.object members) = .ok entry := by
  cases kind with
  | passphrase =>
    rw [ofContent_passphrase, map_eq_ok] at read ⊢
    obtain ⟨found, read, built⟩ := read
    exact ⟨found, PassphraseDraft.read_standard standard read, built⟩
  | asymmetric => exact read

private theorem ofContent_required {kind : Kind} {member : String × Content}
    {members : List (String × Content)} {entry : KeyEntry}
    (read : ofContent kind (.object (member :: members)) = .ok entry)
    (required : member.1 ∈ entry.requiredNames) (notTag : member.1 ≠ "type") (other : KeyEntry) :
    ofContent kind (.object members) ≠ .ok other := by
  intro readOther
  cases kind with
  | passphrase =>
    rw [ofContent_passphrase, map_eq_ok] at read readOther
    obtain ⟨found, read, rfl⟩ := read
    obtain ⟨otherFound, readOther, -⟩ := readOther
    have required := (List.mem_cons.mp required).resolve_left notTag
    exact PassphraseDraft.form.read_required required read otherFound readOther
  | asymmetric =>
    rw [ofContent_asymmetric, map_eq_ok] at read readOther
    obtain ⟨found, read, rfl⟩ := read
    obtain ⟨otherFound, readOther, -⟩ := readOther
    have required := (List.mem_cons.mp required).resolve_left notTag
    exact AsymmetricDraft.form.read_required required read otherFound readOther

theorem ofValue_object {members : List (Bytes × Value)} {entry : KeyEntry} :
    ofValue (.object members) = .ok entry ↔
      ∃ kind others, Tagged kinds 124 kind none members others ∧
        ofContent kind (.object others) = .ok entry := by
  constructor
  · intro read
    obtain ⟨⟨kind, content⟩, asked, read⟩ := bind_eq_ok.mp read
    obtain ⟨⟨kind, others⟩, tagged, built⟩ := bind_eq_ok.mp asked
    cases built
    exact ⟨_, others, askTaggedMembers_eq_ok.mp tagged, read⟩
  · rintro ⟨kind, others, tagged, read⟩
    exact bind_eq_ok.mpr ⟨(kind, .object others),
      bind_eq_ok.mpr ⟨_, askTaggedMembers_eq_ok.mpr tagged, rfl⟩, read⟩

/-- The order of the members does not matter, nor where the kind stands among them. -/
theorem ofValue_perm {members others : List (Bytes × Value)} (same : members.Perm others)
    {entry : KeyEntry} (read : ofValue (.object members) = .ok entry) :
    ofValue (.object others) = .ok entry := by
  obtain ⟨kind, contents, tagged, read⟩ := ofValue_object.mp read
  obtain ⟨moved, tagged, same⟩ := tagged.perm same
  exact ofValue_object.mpr ⟨kind, moved, tagged, ofContent_perm same read⟩

theorem ofValue_standard {raw : Bytes} (asked : askText raw = .ok "argon2") {value : Value}
    (standard : (value.takeIn 124 >>= CostDraft.ofContent) = .ok .standard)
    {members : List (Bytes × Value)} {entry : KeyEntry}
    (read : ofValue (.object ((raw, value) :: members)) = .ok entry) :
    ofValue (.object members) = .ok entry := by
  obtain ⟨kind, contents, tagged, read⟩ := ofValue_object.mp read
  obtain ⟨content, taken, standard⟩ := bind_eq_ok.mp standard
  cases tagged with
  | tag named => exact absurd (Except.ok.inj (asked.symm.trans named)) (by decide)
  | other named notTag takenIn more =>
    cases asked.symm.trans named
    cases taken.symm.trans takenIn
    exact ofValue_object.mpr ⟨kind, _, more, ofContent_standard standard read⟩

/-- Without a required member an entry is refused. -/
theorem ofValue_required {raw : Bytes} {name : String} (asked : askText raw = .ok name)
    {value : Value} {members : List (Bytes × Value)} {entry other : KeyEntry}
    (read : ofValue (.object ((raw, value) :: members)) = .ok entry)
    (required : name ∈ entry.requiredNames) : ofValue (.object members) ≠ .ok other := by
  intro readOther
  obtain ⟨kind, contents, tagged, read⟩ := ofValue_object.mp read
  obtain ⟨otherKind, others, taggedOther, readOther⟩ := ofValue_object.mp readOther
  cases tagged with
  | tag named _ more => cases more.named_iff.mp (taggedOther.named_iff.mpr rfl)
  | other named notTag taken more =>
    cases asked.symm.trans named
    cases (askTaggedMembers_eq_ok.mpr more).symm.trans (askTaggedMembers_eq_ok.mpr taggedOther)
    exact ofContent_required read required notTag other readOther

theorem listOfValue_congr {before after : List Value} {item other : Value}
    (same : ofValue item = ofValue other) :
    listOfValue (.array (before ++ item :: after)) =
      listOfValue (.array (before ++ other :: after)) := by
  change ofValues (before ++ item :: after) = ofValues (before ++ other :: after)
  induction before with
  | nil => simp only [List.nil_append, ofValues, same]
  | cons first before ih => simp only [List.cons_append, ofValues, ih]

theorem ofValue_of_ofValues {values : List Value} {entries : List KeyEntry}
    (read : ofValues values = .ok entries) :
    ∀ value ∈ values, ∃ entry, ofValue value = .ok entry := by
  induction values generalizing entries with
  | nil => simp
  | cons value values ih =>
    obtain ⟨entry, readEntry, read⟩ := bind_eq_ok.mp read
    obtain ⟨others, readOthers, -⟩ := bind_eq_ok.mp read
    exact List.forall_mem_cons.mpr ⟨⟨entry, readEntry⟩, ih readOthers⟩

end KeyEntry

end Keywarden
