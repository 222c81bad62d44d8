import Keywarden.Proofs.InfoFile.Fields
import Keywarden.Proofs.InfoFile.RoundTrip
import Mathlib.Logic.Relation

/-!
# Info files in other words

An info file and its entries may be written with their members in any order, with members that
nobody knows, and without a cost that is the standard one: the same info file is read.  A known
member that stands there twice, or a required one that is missing, makes the file invalid.
-/

namespace Keywarden

open Json

/-! ### Entries -/

/-- The members of an entry in another order, or without a cost that is the standard one. -/
inductive KeyEntry.Rearranged : List (Bytes × Value) → List (Bytes × Value) → Prop
  | permuted {members others : List (Bytes × Value)} (same : members.Perm others) :
      Rearranged members others
  | dropped {raw : Bytes} {value : Value} {members others : List (Bytes × Value)}
      (named : askText raw = .ok "argon2")
      (standard : (value.takeIn 124 >>= CostDraft.ofContent) = .ok .standard)
      (placed : members.Perm ((raw, value) :: others)) : Rearranged members others

theorem KeyEntry.Rearranged.ofValue {members others : List (Bytes × Value)}
    (rearranged : Rearranged members others) {entry : KeyEntry}
    (read : KeyEntry.ofValue (.object members) = .ok entry) :
    KeyEntry.ofValue (.object others) = .ok entry := by
  cases rearranged with
  | permuted same => exact ofValue_perm same read
  | dropped named standard placed =>
    exact ofValue_standard named standard (ofValue_perm placed read)

theorem KeyEntry.Rearranged.subset {members others : List (Bytes × Value)}
    (rearranged : Rearranged members others) : others ⊆ members := by
  cases rearranged with
  | permuted same => exact same.symm.subset
  | dropped named standard placed =>
    exact List.Subset.trans (List.subset_cons_self _ _) placed.symm.subset

namespace InfoFile

/-! ### Info files -/

/-- A document in other words: the members of the info file in another order, one more member
with a name that nobody knows, or an entry rearranged. -/
inductive Rearranged : Value → Value → Prop
  | permuted {members others : List (Bytes × Value)} (same : members.Perm others) :
      Rearranged (.object members) (.object others)
  | inserted {members others : List (Bytes × Value)} {raw : Bytes} {name : String} {value : Value}
      (inscription : Inscription raw) (named : askText raw = .ok name)
      (unknown : name ∉ InfoDraft.knownNames) (valid : value.Valid)
      (placed : others.Perm ((raw, value) :: members)) :
      Rearranged (.object members) (.object others)
  | entry {members others front back : List (Bytes × Value)} {before after : List Value}
      {raw : Bytes} (named : askText raw = .ok "keys")
      (rearranged : KeyEntry.Rearranged members others) :
      Rearranged (.object (front ++ (raw, .array (before ++ .object members :: after)) :: back))
        (.object (front ++ (raw, .array (before ++ .object others :: after)) :: back))

/-- A document spoiled: a known member stands there once more, whatever it holds, or a member is
removed that the info file or one of its entries needs. -/
inductive Spoiled : Value → Value → Prop
  | duplicated {members others : List (Bytes × Value)} {raw : Bytes} {name : String}
      {value : Value} (inscription : Inscription raw) (named : askText raw = .ok name)
      (known : name ∈ InfoDraft.knownNames) (valid : value.Valid)
      (present : ∃ member ∈ members, askText member.1 = .ok name)
      (placed : others.Perm ((raw, value) :: members)) : Spoiled (.object members) (.object others)
  | removed {members others : List (Bytes × Value)} {raw : Bytes} {name : String} {value : Value}
      (named : askText raw = .ok name) (required : name ∈ InfoDraft.requiredNames)
      (placed : members.Perm ((raw, value) :: others)) : Spoiled (.object members) (.object others)
  | entry {members others front back : List (Bytes × Value)} {before after : List Value}
      {keys raw : Bytes} {name : String} {value : Value} {entry : KeyEntry}
      (named : askText keys = .ok "keys") (read : KeyEntry.ofValue (.object members) = .ok entry)
      (asked : askText raw = .ok name) (required : name ∈ entry.requiredNames)
      (placed : members.Perm ((raw, value) :: others)) :
      Spoiled (.object (front ++ (keys, .array (before ++ .object members :: after)) :: back))
        (.object (front ++ (keys, .array (before ++ .object others :: after)) :: back))

theorem Rearranged.ofValue {document other : Value} (rearranged : Rearranged document other)
    {info : InfoFile} (read : InfoDraft.ofValue document = .ok info) :
    InfoDraft.ofValue other = .ok info := by
  cases rearranged with
  | permuted same => exact InfoDraft.ofMembers_perm same read
  | @inserted members others raw name value inscription named unknown valid placed =>
    have inserted : InfoDraft.empty.ofMembers ((raw, value) :: members) = .ok info := by
      rw [InfoDraft.ofMembers_unknown named unknown]
      exact read
    exact InfoDraft.ofMembers_perm placed.symm inserted
  | entry named rearranged =>
    have first := InfoDraft.ofMembers_perm List.perm_middle read
    obtain ⟨keys, readKeys⟩ := InfoDraft.ofMembers_keys named first
    obtain ⟨entry, readEntry⟩ := KeyEntry.ofValue_of_ofValues readKeys _ List.mem_append_cons_self
    have same := readEntry.trans (rearranged.ofValue readEntry).symm
    rw [InfoDraft.ofMembers_keys_congr named (KeyEntry.listOfValue_congr same)] at first
    exact InfoDraft.ofMembers_perm List.perm_middle.symm first

theorem Spoiled.ofValue {document other : Value} (spoiled : Spoiled document other)
    {info : InfoFile} (read : InfoDraft.ofValue document = .ok info) (found : InfoFile) :
    InfoDraft.ofValue other ≠ .ok found := by
  intro readOther
  cases spoiled with
  | duplicated inscription named known valid present placed =>
    exact InfoDraft.ofMembers_front named known (InfoDraft.ofMembers_perm placed readOther) present
  | removed named required placed =>
    have known := InfoDraft.requiredNames_subset required
    exact InfoDraft.ofMembers_front named known (InfoDraft.ofMembers_perm placed read)
      (InfoDraft.ofMembers_required readOther required)
  | entry named readEntry asked required placed =>
    have first := InfoDraft.ofMembers_perm List.perm_middle readOther
    obtain ⟨keys, readKeys⟩ := InfoDraft.ofMembers_keys named first
    obtain ⟨entry, readSpoiled⟩ := KeyEntry.ofValue_of_ofValues readKeys _ List.mem_append_cons_self
    exact KeyEntry.ofValue_required asked (KeyEntry.ofValue_perm placed readEntry) required
      readSpoiled

/-! ### Their texts -/

theorem valid_fewer {members others : List (Bytes × Value)} (fewer : others ⊆ members)
    (valid : (Value.object members).Valid) : (Value.object others).Valid :=
  valid_object.mpr fun member listed => valid_object.mp valid member (fewer listed)

theorem valid_more {members others : List (Bytes × Value)} {raw : Bytes} {value : Value}
    (placed : others.Perm ((raw, value) :: members)) (inscription : Inscription raw)
    (inserted : value.Valid) (valid : (Value.object members).Valid) :
    (Value.object others).Valid := by
  refine valid_fewer placed.subset (valid_object.mpr ?_)
  exact List.forall_mem_cons.mpr ⟨⟨inscription, inserted⟩, valid_object.mp valid⟩

/-- Where an entry with fewer members has a text, so has the document around it. -/
theorem valid_entry {members others front back : List (Bytes × Value)} {before after : List Value}
    {keys : Bytes} (fewer : others ⊆ members)
    (valid : (Value.object
      (front ++ (keys, .array (before ++ .object members :: after)) :: back)).Valid) :
    (Value.object
      (front ++ (keys, .array (before ++ .object others :: after)) :: back)).Valid := by
  simp only [valid_object, valid_array, List.forall_mem_append, List.forall_mem_cons] at valid ⊢
  obtain ⟨inFront, ⟨inscription, inBefore, entry, inAfter⟩, inBack⟩ := valid
  exact ⟨inFront, ⟨inscription, inBefore, fun member listed => entry member (fewer listed),
    inAfter⟩, inBack⟩

theorem Rearranged.valid {document other : Value} (rearranged : Rearranged document other)
    (valid : document.Valid) : other.Valid := by
  cases rearranged with
  | permuted same => exact valid_fewer same.symm.subset valid
  | inserted inscription named unknown inserted placed =>
    exact valid_more placed inscription inserted valid
  | entry named rearranged => exact valid_entry rearranged.subset valid

theorem Spoiled.valid {document other : Value} (spoiled : Spoiled document other)
    (valid : document.Valid) : other.Valid := by
  cases spoiled with
  | duplicated inscription named known inserted present placed =>
    exact valid_more placed inscription inserted valid
  | removed named required placed =>
    exact valid_fewer (List.Subset.trans (List.subset_cons_self _ _) placed.symm.subset) valid
  | entry named read asked required placed =>
    exact valid_entry (List.Subset.trans (List.subset_cons_self _ _) placed.symm.subset) valid

/-! ### Reading -/

theorem decode_eq_ok {document : Value} {text : Bytes} (spells : Spells document text)
    {info : InfoFile} :
    decode text = .ok info ↔ InfoDraft.ofValue document = .ok info ∧ info.app = appName := by
  cases asked : InfoDraft.ofValue document with
  | error mismatch => simp [decode, Json.readAs, read?_eq_some.mpr spells, asked]
  | ok found =>
    simp only [decode, Json.readAs, read?_eq_some.mpr spells, asked, Except.ok.injEq]
    by_cases marked : found.app = appName
    · rw [if_pos marked]
      constructor
      · rintro ⟨⟩
        exact ⟨rfl, marked⟩
      · rintro ⟨rfl, -⟩
        rfl
    · rw [if_neg marked]
      constructor
      · rintro ⟨⟩
      · rintro ⟨rfl, isMarked⟩
        exact absurd isMarked marked

private theorem decode_refused {text : Bytes} (refused : ∀ info, decode text ≠ .ok info) :
    ∃ reason, decode text = .error (.invalidInfoFile reason) := by
  cases asked : Json.readAs InfoDraft.ofValue text with
  | error refusal =>
    simp only [decode, asked]
    exact ⟨_, rfl⟩
  | ok found =>
    by_cases marked : found.app = appName
    · exact absurd (by simp only [decode, asked, if_pos marked]) (refused found)
    · simp only [decode, asked, if_neg marked]
      exact ⟨_, rfl⟩

def ReadsAs (document : Value) (info : InfoFile) : Prop :=
  (∃ text, Spells document text) ∧ ∀ text, Spells document text → decode text = .ok info

def Refused (document : Value) : Prop :=
  (∃ text, Spells document text) ∧
    ∀ text, Spells document text → ∃ reason, decode text = .error (.invalidInfoFile reason)

theorem Rearranged.readsAs {document other : Value} (rearranged : Rearranged document other)
    {info : InfoFile} (reads : ReadsAs document info) : ReadsAs other info := by
  obtain ⟨⟨text, spells⟩, read⟩ := reads
  obtain ⟨asked, marked⟩ := (decode_eq_ok spells).mp (read text spells)
  exact ⟨Value.valid_iff.mp (rearranged.valid (Value.valid_iff.mpr ⟨text, spells⟩)),
    fun other spelled => (decode_eq_ok spelled).mpr ⟨rearranged.ofValue asked, marked⟩⟩

theorem Spoiled.refused {document other : Value} (spoiled : Spoiled document other)
    {info : InfoFile} (reads : ReadsAs document info) : Refused other := by
  obtain ⟨⟨text, spells⟩, read⟩ := reads
  obtain ⟨asked, -⟩ := (decode_eq_ok spells).mp (read text spells)
  refine ⟨Value.valid_iff.mp (spoiled.valid (Value.valid_iff.mpr ⟨text, spells⟩)), ?_⟩
  intro other spelled
  apply decode_refused
  intro found readOther
  exact spoiled.ofValue asked found ((decode_eq_ok spelled).mp readOther).1

/-- Whatever is read from a text is read from every text in other words too, and is read no more
once such a text is spoiled. -/
theorem decode_in_other_words {text : Bytes} {info : InfoFile} (read : decode text = .ok info) :
    (∃ document, Spells document text) ∧
      ∀ document other, Spells document text → Relation.ReflTransGen Rearranged document other →
        ReadsAs other info ∧ ∀ spoiled, Spoiled other spoiled → Refused spoiled := by
  constructor
  · cases found : Reader.read? text with
    | none => simp [decode, Json.readAs, found] at read
    | some document => exact ⟨document, read?_eq_some.mp found⟩
  · intro document other spells rearranged
    have reads : ReadsAs other info := by
      induction rearranged with
      | refl =>
        exact ⟨⟨text, spells⟩, fun other spelled =>
          (decode_eq_ok spelled).mpr ((decode_eq_ok spells).mp read)⟩
      | tail _ step ih => exact step.readsAs ih
    exact ⟨reads, fun spoiled step => step.refused reads⟩

def sample : InfoFile :=
  ⟨appName, currentVersion, [.passphrase ⟨[1], [2], [3], .standard⟩], none, none, none⟩

/-- The members of its entry, with the salt in front of the kind and without the cost. -/
def sampleEntry : List (String × Value) :=
  [("salt", bytesValue [1]), ("type", .ofText "passphrase"), ("confirmation_hash", bytesValue [2]),
    ("wrapped_key", bytesValue [3])]

/-- The members of the info file around it; nobody knows the first one. -/
def sampleMembers : List (String × Value) :=
  [("comment", .array [.array [.null]]), ("version", .ofInt 3),
    ("keys", .array [.ofMembers sampleEntry])]

private theorem sample_rearranged : Relation.ReflTransGen Rearranged sample.toValue
    (.ofMembers (("app", .ofText appName) :: sampleMembers)) := by
  have cost : (DerivationCost.standard.toValue.takeIn 124 >>= CostDraft.ofContent) =
      .ok .standard := bind_eq_ok.mpr (costOfContent_takeIn 123 .standard)
  have last : (sampleEntry ++ [("argon2", DerivationCost.standard.toValue)]).Perm
      (("argon2", DerivationCost.standard.toValue) :: sampleEntry) := List.perm_append_comm
  have entry : KeyEntry.Rearranged
      (rawMembers [("type", .ofText "passphrase"), ("salt", bytesValue [1]),
        ("confirmation_hash", bytesValue [2]), ("wrapped_key", bytesValue [3]),
        ("argon2", DerivationCost.standard.toValue)])
      (rawMembers sampleEntry) :=
    .dropped (askText_encode "argon2") cost (((List.Perm.swap _ _ _).trans last).map _)
  have shorter : Rearranged sample.toValue
      (.ofMembers [("app", .ofText appName), ("version", .ofInt 3),
        ("keys", .array [.ofMembers sampleEntry])]) :=
    @Rearranged.entry _ _ (rawMembers [("app", .ofText appName), ("version", .ofInt 3)]) [] [] []
      _ (askText_encode "keys") entry
  have comment : Value.Legible (.array [.array [.null]]) := by
    refine .array fun item listed => ?_
    cases List.mem_singleton.mp listed
    refine .array fun item listed => ?_
    cases List.mem_singleton.mp listed
    exact .null
  have longer : Rearranged
      (.ofMembers [("app", .ofText appName), ("version", .ofInt 3),
        ("keys", .array [.ofMembers sampleEntry])])
      (.ofMembers (("app", .ofText appName) :: sampleMembers)) :=
    .inserted (Text.inscription_encode "comment") (askText_encode "comment") (by decide)
      comment.valid (.swap _ _ _)
  exact .tail (.single shorter) longer

/-- The sample is read from its own text and from the other one, and not without its marker. -/
theorem decode_sample_in_other_words :
    decode sample.encode = .ok sample ∧
      decode (Value.ofMembers (("app", .ofText appName) :: sampleMembers)).pretty = .ok sample ∧
      ∃ reason,
        decode (Value.ofMembers sampleMembers).pretty = .error (.invalidInfoFile reason) := by
  have read : decode sample.encode = .ok sample := decode_encode rfl nofun nofun
  obtain ⟨⟨⟨_, spells⟩, reads⟩, refused⟩ := (decode_in_other_words read).2 sample.toValue _
    sample.legible.valid.spells_pretty sample_rearranged
  have unmarked : Spoiled (.ofMembers (("app", .ofText appName) :: sampleMembers))
      (.ofMembers sampleMembers) :=
    .removed (askText_encode "app") (by decide) (.refl _)
  obtain ⟨⟨_, unmarkedSpells⟩, unmarkedRefused⟩ := refused _ unmarked
  exact ⟨read, reads _ (Value.valid_iff.mpr ⟨_, spells⟩).spells_pretty,
    unmarkedRefused _ (Value.valid_iff.mpr ⟨_, unmarkedSpells⟩).spells_pretty⟩

end InfoFile

end Keywarden
