import Keywarden.InfoFile.Reading
import Keywarden.InfoFile.Writing
import Keywarden.Proofs.Encoding.Base64
import Keywarden.Proofs.Json.Document

/-!
# The documents of info files

Every record of an info file is read back from its document field by field.  The reader
takes the empty text of a legacy field for an absent one, so a legacy field has to hold
something.
-/

namespace Keywarden

open Json

/-! ### Fields -/

section Fields

variable {α β : Type}

theorem ok_bind (value : α) (next : α → Asked β) : (Except.ok value >>= next) = next value :=
  rfl

theorem pure_asked (value : α) : (pure value : Asked α) = .ok value :=
  rfl

private theorem map_ok (change : α → β) (value : α) :
    (Except.ok value : Asked α).map change = .ok (change value) :=
  rfl

theorem fill_none (name : String) (value : α) : fill name none (.ok value) = .ok (some value) :=
  rfl

theorem require_some (name : String) (value : α) : require name (some value) = .ok value :=
  rfl

end Fields

@[simp] theorem wantBytes_encode (bytes : Bytes) :
    wantBytes (.string (Base64.encode bytes)) = .ok bytes := by
  simp only [wantBytes, wantText, bind, Except.bind, Base64.decode_encode]

private theorem encode_ne_empty {bytes : Bytes} (nonempty : bytes ≠ []) :
    Base64.encode bytes ≠ "" := by
  intro empty
  have read := Base64.decode_encode bytes
  rw [empty] at read
  have nothing : Base64.decode (Bytes.ofString "") = .ok [] := by decide
  rw [nothing] at read
  exact nonempty (Except.ok.inj read).symm

theorem wantOptionalBytes_encode {bytes : Bytes} (nonempty : bytes ≠ []) :
    wantOptionalBytes (.string (Base64.encode bytes)) = .ok (some bytes) := by
  have shown := encode_ne_empty nonempty
  rw [wantOptionalBytes]
  · rw [wantBytes_encode, Except.map]
  · intro isNull
    cases isNull
  · intro isEmpty
    exact shown (Head.string.inj isEmpty)

/-! ### Costs -/

/-- The three numbers of a cost, however they are read. -/
theorem costOfMembers {cost : DerivationCost} {memoryKib iterations parallelism : Asked Head}
    (first : memoryKib >>= wantUInt32 = .ok cost.memoryKib)
    (second : iterations >>= wantUInt32 = .ok cost.iterations)
    (third : parallelism >>= wantUInt32 = .ok cost.parallelism) :
    CostDraft.ofMembers .empty [(.ok "memory_kib", memoryKib), (.ok "iterations", iterations),
      (.ok "parallelism", parallelism)] = .ok cost := by
  simp only [CostDraft.ofMembers, CostDraft.add, CostDraft.empty, CostDraft.finish, first,
    second, third, ok_bind, pure_asked, fill_none, require_some]

private theorem costOfValue_toValue (cost : DerivationCost) :
    CostDraft.ofValue cost.toValue = .ok cost := by
  simp only [CostDraft.ofValue, DerivationCost.toValue, Value.ofMembers, List.map_cons,
    List.map_nil, askText_encode]
  exact costOfMembers (wantUInt32_ofInt _) (wantUInt32_ofInt _) (wantUInt32_ofInt _)

/-- A number of 32 bits that was taken in whole. -/
theorem takeIn_ofUInt32 (room : Nat) (value : UInt32) :
    ∃ head, (Value.ofInt value.toNat).takeIn room = .ok (.plain head) ∧
      wantUInt32 head = .ok value := by
  have read := wantUInt32_ofInt value
  have taken : (Value.ofInt value.toNat).takeIn room =
      (Value.ofInt value.toNat).head.map .plain := by
    simp only [Value.ofInt, Value.takeIn, Value.head]
    cases askNumber _ <;> rfl
  cases asked : (Value.ofInt value.toNat).head with
  | error mismatch =>
    rw [asked] at read
    cases read
  | ok head =>
    rw [asked] at read taken
    exact ⟨head, taken, read⟩

theorem costOfContent_takeIn (room : Nat) (cost : DerivationCost) :
    ∃ content, cost.toValue.takeIn (room + 1) = .ok content ∧
      CostDraft.ofContent content = .ok cost := by
  obtain ⟨first, firstTaken, firstRead⟩ := takeIn_ofUInt32 room cost.memoryKib
  obtain ⟨second, secondTaken, secondRead⟩ := takeIn_ofUInt32 room cost.iterations
  obtain ⟨third, thirdTaken, thirdRead⟩ := takeIn_ofUInt32 room cost.parallelism
  refine ⟨.object [("memory_kib", .plain first), ("iterations", .plain second),
    ("parallelism", .plain third)], ?_, costOfMembers firstRead secondRead thirdRead⟩
  simp only [DerivationCost.toValue, Value.ofMembers, List.map_cons, List.map_nil, Value.takeIn,
    Value.takeInMembers, askText_encode, firstTaken, secondTaken, thirdTaken, bind, Except.bind,
    pure, Except.pure]

/-! ### Entries -/

private theorem askKind_passphrase :
    askKind KeyEntry.kinds (.string "passphrase") = .ok .passphrase := by
  decide

private theorem askKind_asymmetric :
    askKind KeyEntry.kinds (.string "asymmetric") = .ok .asymmetric := by
  decide

private theorem entryOfValue_toValue (entry : KeyEntry) :
    KeyEntry.ofValue entry.toValue = .ok entry := by
  cases entry with
  | passphrase entry =>
    obtain ⟨cost, taken, read⟩ := costOfContent_takeIn 123 entry.cost
    have tagged : askTagged "internally tagged enum KeyEntry" KeyEntry.kinds 124
        (KeyEntry.passphrase entry).toValue = .ok (.passphrase, .object
          [("salt", .plain (.string (Base64.encode entry.salt))),
            ("confirmation_hash", .plain (.string (Base64.encode entry.confirmationHash))),
            ("wrapped_key", .plain (.string (Base64.encode entry.wrappedKey))),
            ("argon2", cost)]) := by
      simp [KeyEntry.toValue, bytesValue, Value.ofMembers, askTagged, askTaggedMembers,
        askKind_passphrase, ok_bind, pure_asked, fill_none, require_some, taken]
    rw [KeyEntry.ofValue, tagged]
    simp only [ok_bind, KeyEntry.ofContent, PassphraseDraft.ofMembers, PassphraseDraft.add,
      PassphraseDraft.empty, Content.head, wantBytes_encode, fill_none, pure_asked,
      PassphraseDraft.finish, require_some, read, map_ok, Option.getD_some]
  | asymmetric entry =>
    have tagged : askTagged "internally tagged enum KeyEntry" KeyEntry.kinds 124
        (KeyEntry.asymmetric entry).toValue = .ok (.asymmetric, .object
          [("recipient_id", .plain (.string entry.recipientId)),
            ("wrapped_key", .plain (.string (Base64.encode entry.wrappedKey)))]) := by
      simp [KeyEntry.toValue, bytesValue, Value.ofMembers, askTagged, askTaggedMembers,
        askKind_asymmetric, ok_bind, pure_asked, fill_none, require_some]
    rw [KeyEntry.ofValue, tagged]
    simp only [ok_bind, KeyEntry.ofContent, AsymmetricDraft.ofMembers, AsymmetricDraft.add,
      AsymmetricDraft.empty, Content.head, wantText, wantBytes_encode, fill_none, pure_asked,
      AsymmetricDraft.finish, require_some, map_ok]

private theorem entriesOfValues_toValue (entries : List KeyEntry) :
    KeyEntry.ofValues (entries.map KeyEntry.toValue) = .ok entries := by
  induction entries with
  | nil => rfl
  | cons entry entries ih =>
    simp only [List.map_cons, KeyEntry.ofValues, entryOfValue_toValue, ih, ok_bind, pure_asked]

/-! ### Info files -/

namespace InfoDraft

private theorem ofMembers_salt {draft : InfoDraft} (unread : draft.salt = none)
    {salt : Option Bytes} (shown : salt ≠ some []) (rest : List (Bytes × Value)) :
    draft.ofMembers (rawMembers (InfoFile.optionalMember "salt" (salt.map bytesValue)) ++ rest) =
      InfoDraft.ofMembers { draft with salt := salt.map some } rest := by
  cases salt with
  | none =>
    cases draft
    cases unread
    rfl
  | some bytes =>
    have read : wantOptionalBytes (.string (Base64.encode bytes)) = .ok (some bytes) :=
      wantOptionalBytes_encode fun empty => shown (congrArg some empty)
    simp [InfoFile.optionalMember, rawMembers, InfoDraft.ofMembers, InfoDraft.add, bytesValue,
      unread, read, ok_bind, pure_asked, fill_none]

private theorem ofMembers_confirmationHash {draft : InfoDraft}
    (unread : draft.confirmationHash = none)
    {hash : Option Bytes} (shown : hash ≠ some []) (rest : List (Bytes × Value)) :
    draft.ofMembers
        (rawMembers (InfoFile.optionalMember "confirmation_hash" (hash.map bytesValue)) ++ rest) =
      InfoDraft.ofMembers { draft with confirmationHash := hash.map some } rest := by
  cases hash with
  | none =>
    cases draft
    cases unread
    rfl
  | some bytes =>
    have read : wantOptionalBytes (.string (Base64.encode bytes)) = .ok (some bytes) :=
      wantOptionalBytes_encode fun empty => shown (congrArg some empty)
    simp [InfoFile.optionalMember, rawMembers, InfoDraft.ofMembers, InfoDraft.add, bytesValue,
      unread, read, ok_bind, pure_asked, fill_none]

private theorem ofMembers_cost {draft : InfoDraft} (unread : draft.cost = none)
    (cost : Option DerivationCost) (rest : List (Bytes × Value)) :
    draft.ofMembers (rawMembers (InfoFile.optionalMember "argon2"
        (cost.map DerivationCost.toValue)) ++ rest) =
      InfoDraft.ofMembers { draft with cost := cost.map some } rest := by
  cases cost with
  | none =>
    cases draft
    cases unread
    rfl
  | some cost =>
    have read : CostDraft.ofOptionalValue cost.toValue = .ok (some cost) := by
      have whole := costOfValue_toValue cost
      have notNull : cost.toValue ≠ .null := by simp [DerivationCost.toValue, Value.ofMembers]
      rw [CostDraft.ofOptionalValue, whole, map_ok]
      exact notNull
    simp [InfoFile.optionalMember, rawMembers, InfoDraft.ofMembers, InfoDraft.add,
      unread, read, ok_bind, pure_asked, fill_none]

end InfoDraft

namespace InfoFile

theorem ofValue_toValue {info : InfoFile} (saltShown : info.legacySalt ≠ some [])
    (hashShown : info.legacyHash ≠ some []) :
    InfoDraft.ofValue info.toValue = .ok info := by
  have members : info.toValue = .object (
      (Text.encode "app", Value.ofText info.app) ::
      (Text.encode "version", Value.ofInt info.version.toInt) ::
      (Text.encode "keys", Value.array (info.keys.map KeyEntry.toValue)) ::
      (rawMembers (optionalMember "salt" (info.legacySalt.map bytesValue)) ++
        (rawMembers (optionalMember "confirmation_hash" (info.legacyHash.map bytesValue)) ++
          (rawMembers (optionalMember "argon2"
            (info.legacyCost.map DerivationCost.toValue)) ++ [])))) := by
    simp [toValue, Value.ofMembers, rawMembers]
  have start : ∀ rest, InfoDraft.ofMembers .empty (
      (Text.encode "app", Value.ofText info.app) ::
      (Text.encode "version", Value.ofInt info.version.toInt) ::
      (Text.encode "keys", Value.array (info.keys.map KeyEntry.toValue)) :: rest) =
      InfoDraft.ofMembers ⟨some info.app, some info.version, some info.keys, none, none, none⟩
        rest := by
    intro rest
    simp [InfoDraft.ofMembers, InfoDraft.add, InfoDraft.empty, wantText, wantInt32_ofInt,
      KeyEntry.listOfValue, entriesOfValues_toValue, ok_bind, pure_asked, fill_none]
  rw [members, InfoDraft.ofValue, start, InfoDraft.ofMembers_salt rfl saltShown,
    InfoDraft.ofMembers_confirmationHash rfl hashShown, InfoDraft.ofMembers_cost rfl]
  have absent {α : Type} (field : Option α) : (field.map some).getD none = field := by
    cases field <;> rfl
  simp only [InfoDraft.ofMembers, InfoDraft.finish, ok_bind, pure_asked, require_some,
    Option.getD_some, absent]

end InfoFile

/-! ### Legible documents -/

theorem legible_bytesValue (bytes : Bytes) : (bytesValue bytes).Legible :=
  .text _

theorem DerivationCost.legible (cost : DerivationCost) : cost.toValue.Legible := by
  apply Value.Legible.object
  simp [legible_ofInt]

theorem KeyEntry.legible (entry : KeyEntry) : entry.toValue.Legible := by
  cases entry with
  | passphrase entry =>
    apply Value.Legible.object
    simp [Value.Legible.text, legible_bytesValue, DerivationCost.legible]
  | asymmetric entry =>
    apply Value.Legible.object
    simp [Value.Legible.text, legible_bytesValue]

namespace InfoFile

private theorem legible_optionalMember {name : String} {value : Option Value}
    (legible : ∀ present ∈ value, present.Legible) :
    ∀ member ∈ optionalMember name value, member.2.Legible := by
  intro member written
  obtain ⟨present, holds, rfl⟩ := List.mem_map.mp written
  exact legible present (Option.mem_toList.mp holds)

theorem legible (info : InfoFile) : info.toValue.Legible := by
  apply Value.Legible.object
  intro member written
  rcases List.mem_append.mp written with written | cost
  · rcases List.mem_append.mp written with written | hash
    · rcases List.mem_append.mp written with fixed | salt
      · have keys : (Value.array (info.keys.map KeyEntry.toValue)).Legible := by
          apply Value.Legible.array
          simp [KeyEntry.legible]
        simp only [List.mem_cons, List.not_mem_nil, or_false] at fixed
        rcases fixed with rfl | rfl | rfl
        · exact .text _
        · exact legible_ofInt _
        · exact keys
      · exact legible_optionalMember (by simp [legible_bytesValue]) member salt
    · exact legible_optionalMember (by simp [legible_bytesValue]) member hash
  · exact legible_optionalMember (by simp [DerivationCost.legible]) member cost

end InfoFile

end Keywarden
