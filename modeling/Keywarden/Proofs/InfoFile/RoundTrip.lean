import Keywarden.Proofs.InfoFile.Shapes
import Keywarden.Proofs.Json.Record
import Mathlib.Logic.Function.Iterate

/-!
# Info files survive their file

The encoding of an info file is read back as the same info file, except where a legacy
field is present but empty, which no file that was read shows.
-/

namespace Keywarden

open Json

/-! ### Absent fields -/

/-- An optional byte string is absent or not empty. -/
theorem wantOptionalBytes_ne_empty {head : Head} {field : Option Bytes}
    (read : wantOptionalBytes head = .ok field) : field ≠ some [] := by
  rintro rfl
  unfold wantOptionalBytes at read
  split at read
  · cases read
  · cases read
  · rename_i notNull notEmpty
    cases head with
    | string text =>
      simp only [wantBytes, wantText, ok_bind] at read
      cases decoded : Base64.decode (Bytes.ofString text) with
      | error fault =>
        rw [decoded] at read
        cases read
      | ok bytes =>
        rw [decoded] at read
        cases read
        have textEmpty : text = "" := Base64.decode_eq_ok.mp decoded
        exact notEmpty (congrArg Head.string textEmpty)
    | null => exact notNull rfl
    | bool | number | array | object => cases read

/-- No legacy field read so far is present but empty. -/
structure InfoDraft.Shown (draft : InfoDraft) : Prop where
  salt : draft.salt ≠ some (some [])
  confirmationHash : draft.confirmationHash ≠ some (some [])

namespace InfoDraft

theorem Shown.add {draft next : InfoDraft} (shown : draft.Shown) {name : String} {value : Value}
    (read : draft.add name value = .ok next) : next.Shown := by
  have field {name : String} {present filled : Option (Option Bytes)}
      (read : fill name present (value.head >>= wantOptionalBytes) = .ok filled) :
      filled ≠ some (some []) := by
    rintro rfl
    obtain ⟨-, bytes, asked, same⟩ := fill_eq_ok.mp read
    obtain ⟨head, -, wanted⟩ := bind_eq_ok.mp asked
    exact wantOptionalBytes_ne_empty wanted (Option.some.inj same).symm
  unfold InfoDraft.add at read
  split at read
  · obtain ⟨app, -, built⟩ := bind_eq_ok.mp read
    cases built
    exact ⟨shown.salt, shown.confirmationHash⟩
  · obtain ⟨version, -, built⟩ := bind_eq_ok.mp read
    cases built
    exact ⟨shown.salt, shown.confirmationHash⟩
  · obtain ⟨keys, -, built⟩ := bind_eq_ok.mp read
    cases built
    exact ⟨shown.salt, shown.confirmationHash⟩
  · obtain ⟨salt, filled, built⟩ := bind_eq_ok.mp read
    cases built
    exact ⟨field filled, shown.confirmationHash⟩
  · obtain ⟨hash, filled, built⟩ := bind_eq_ok.mp read
    cases built
    exact ⟨shown.salt, field filled⟩
  · obtain ⟨cost, -, built⟩ := bind_eq_ok.mp read
    cases built
    exact ⟨shown.salt, shown.confirmationHash⟩
  · cases read
    exact shown

theorem Shown.finish {draft : InfoDraft} (shown : draft.Shown) {info : InfoFile}
    (read : draft.finish = .ok info) :
    info.legacySalt ≠ some [] ∧ info.legacyHash ≠ some [] := by
  obtain ⟨app, -, read⟩ := bind_eq_ok.mp read
  obtain ⟨version, -, built⟩ := bind_eq_ok.mp read
  cases built
  have absent {field : Option (Option Bytes)} (shown : field ≠ some (some [])) :
      field.getD none ≠ some [] := by
    cases field with
    | none => simp
    | some field => simpa using shown
  exact ⟨absent shown.salt, absent shown.confirmationHash⟩

theorem Shown.ofMembers {draft : InfoDraft} (shown : draft.Shown)
    {members : List (Bytes × Value)} {info : InfoFile}
    (read : draft.ofMembers members = .ok info) :
    info.legacySalt ≠ some [] ∧ info.legacyHash ≠ some [] := by
  induction members generalizing draft with
  | nil => exact shown.finish read
  | cons member members ih =>
    obtain ⟨name, value⟩ := member
    obtain ⟨name, -, read⟩ := bind_eq_ok.mp read
    obtain ⟨next, added, read⟩ := bind_eq_ok.mp read
    exact ih (shown.add added) read

private theorem legacy_ne_of_ofItems {items : List Value} {info : InfoFile}
    (read : ofItems items = .ok info) :
    info.legacySalt ≠ some [] ∧ info.legacyHash ≠ some [] := by
  have field {index : Nat} {filled : Option Bytes}
      (read : optionalItem items index none (fun value => value.head >>= wantOptionalBytes) =
        .ok filled) : filled ≠ some [] := by
    unfold optionalItem at read
    split at read
    · obtain ⟨head, -, wanted⟩ := bind_eq_ok.mp read
      exact wantOptionalBytes_ne_empty wanted
    · cases read
      simp
  unfold ofItems at read
  obtain ⟨appItem, -, read⟩ := bind_eq_ok.mp read
  obtain ⟨app, -, read⟩ := bind_eq_ok.mp read
  obtain ⟨versionItem, -, read⟩ := bind_eq_ok.mp read
  obtain ⟨version, -, read⟩ := bind_eq_ok.mp read
  obtain ⟨keys, -, read⟩ := bind_eq_ok.mp read
  obtain ⟨salt, saltRead, read⟩ := bind_eq_ok.mp read
  obtain ⟨hash, hashRead, read⟩ := bind_eq_ok.mp read
  obtain ⟨cost, -, read⟩ := bind_eq_ok.mp read
  split at read
  · cases read
  · cases read
    exact ⟨field saltRead, field hashRead⟩

/-- An info file that was read has no legacy field that is present but empty. -/
theorem legacy_ne_of_ofValue {value : Value} {info : InfoFile}
    (read : InfoDraft.ofValue value = .ok info) :
    info.legacySalt ≠ some [] ∧ info.legacyHash ≠ some [] := by
  cases value with
  | object members =>
    have unread : InfoDraft.empty.Shown := ⟨by simp [InfoDraft.empty], by simp [InfoDraft.empty]⟩
    exact unread.ofMembers read
  | array items => exact legacy_ne_of_ofItems read
  | null | bool | number | string =>
    obtain ⟨head, -, refused⟩ := bind_eq_ok.mp read
    cases refused

end InfoDraft

/-! ### The codec -/

namespace InfoFile

private theorem readAs_encode {info : InfoFile} (saltShown : info.legacySalt ≠ some [])
    (hashShown : info.legacyHash ≠ some []) :
    Json.readAs InfoDraft.ofValue info.encode = .ok info := by
  rw [Json.readAs, encode, read?_pretty info.legible]
  simp only [ofValue_toValue saltShown hashShown]

theorem decode_encode {info : InfoFile} (marked : info.app = appName)
    (saltShown : info.legacySalt ≠ some []) (hashShown : info.legacyHash ≠ some []) :
    decode info.encode = .ok info := by
  rw [decode, readAs_encode saltShown hashShown]
  simp only [if_pos marked]

/-- What every file that is read satisfies. -/
theorem of_decode {data : Bytes} {info : InfoFile} (read : decode data = .ok info) :
    info.app = appName ∧ info.legacySalt ≠ some [] ∧ info.legacyHash ≠ some [] := by
  unfold decode at read
  cases asked : Json.readAs InfoDraft.ofValue data with
  | error refusal =>
    rw [asked] at read
    cases read
  | ok found =>
    simp only [asked] at read
    split at read
    · rename_i marked
      cases read
      refine ⟨marked, ?_⟩
      unfold Json.readAs at asked
      split at asked
      · cases asked
      · split at asked
        · cases asked
          exact InfoDraft.legacy_ne_of_ofValue ‹_›
        · cases asked
    · cases read

/-- A file after it was read and written again; a file that is not read stays as it is. -/
def rewrite (data : Bytes) : Bytes :=
  match decode data with
  | .ok info => info.encode
  | .error _ => data

private theorem decode_rewrite {data : Bytes} {info : InfoFile} (read : decode data = .ok info) :
    decode (rewrite data) = .ok info := by
  obtain ⟨marked, saltShown, hashShown⟩ := of_decode read
  simp only [rewrite, read]
  exact decode_encode marked saltShown hashShown

private theorem decode_iterate_rewrite {data : Bytes} {info : InfoFile}
    (read : decode data = .ok info) (rounds : Nat) :
    decode (rewrite^[rounds] data) = .ok info := by
  induction rounds generalizing data with
  | zero => exact read
  | succ rounds ih => exact ih (decode_rewrite read)

/-- An info file is read back from its encoding exactly when it carries the marker and no
legacy field that is present but empty.  Every file that is read at all keeps its meaning
however often it is written and read again. -/
theorem codec_round_trip :
    (∀ info : InfoFile, decode info.encode = .ok info ↔
      info.app = appName ∧ info.legacySalt ≠ some [] ∧ info.legacyHash ≠ some []) ∧
    ∀ (data : Bytes) (info : InfoFile), decode data = .ok info →
      decode info.encode = .ok info ∧
        ∀ rounds, decode (rewrite^[rounds] data) = .ok info := by
  constructor
  · intro info
    constructor
    · exact of_decode
    · rintro ⟨marked, saltShown, hashShown⟩
      exact decode_encode marked saltShown hashShown
  · intro data info read
    obtain ⟨marked, saltShown, hashShown⟩ := of_decode read
    exact ⟨decode_encode marked saltShown hashShown, decode_iterate_rewrite read⟩

/-- A file in the form of an array, without factors. -/
def bareFile : Bytes :=
  Bytes.ofString "[\x22repokey\x22, 3]"

/-- A bare file is read, and so is what is written for it; with an empty legacy salt the
codec loses the field. -/
theorem codec_bareFile :
    decode bareFile = .ok .empty ∧ decode (encode .empty) = .ok .empty ∧
      decode (rewrite^[2] bareFile) = .ok .empty ∧
      decode (encode { InfoFile.empty with legacySalt := some [] }) ≠
        .ok { InfoFile.empty with legacySalt := some [] } := by
  have read : decode bareFile = .ok .empty := by decide +kernel
  obtain ⟨written, again⟩ := codec_round_trip.2 bareFile .empty read
  refine ⟨read, written, again 2, ?_⟩
  intro same
  exact ((codec_round_trip.1 _).mp same).2.1 rfl

end InfoFile

end Keywarden
