import Keywarden.Proofs.Json.Grammar
import Keywarden.Proofs.Json.Number
import Keywarden.Proofs.Json.Text

/-!
# Documents as they stand in files

Whatever a document holds that can be written at all, the printer writes it in one of its
spellings.  What is written is therefore read back, whatever the depth of the document and the
number of its members.
-/

namespace Keywarden.Json

/-- Every number, string and name can be written. -/
inductive Value.Valid : Value → Prop
  | null : Valid .null
  | bool (value : Bool) : Valid (.bool value)
  | number {text : NumberText} {bytes : Bytes} (numeral : Numeral text bytes) :
      Valid (.number text)
  | string {raw : Bytes} (inscription : Inscription raw) : Valid (.string raw)
  | array {items : List Value} (each : ∀ item ∈ items, Valid item) : Valid (.array items)
  | object {members : List (Bytes × Value)} (names : ∀ member ∈ members, Inscription member.1)
      (each : ∀ member ∈ members, Valid member.2) : Valid (.object members)

theorem valid_object {members : List (Bytes × Value)} :
    (Value.object members).Valid ↔ ∀ member ∈ members, Inscription member.1 ∧ member.2.Valid := by
  constructor
  · rintro ⟨⟩
    rename_i names each
    exact fun member listed => ⟨names member listed, each member listed⟩
  · intro each
    exact .object (fun member listed => (each member listed).1) fun member listed =>
      (each member listed).2

theorem valid_array {items : List Value} :
    (Value.array items).Valid ↔ ∀ item ∈ items, item.Valid := by
  constructor
  · rintro ⟨⟩
    assumption
  · exact .array

/-- The documents that are written: their numbers are whole, their texts and names are
escaped. -/
inductive Value.Legible : Value → Prop
  | null : Legible .null
  | bool (value : Bool) : Legible (.bool value)
  | number (isNegative : Bool) (magnitude : Nat) :
      Legible (.number ⟨isNegative, natDigits magnitude, none, none⟩)
  | text (text : String) : Legible (.ofText text)
  | array {items : List Value} (each : ∀ item ∈ items, Legible item) : Legible (.array items)
  | object {members : List (String × Value)} (each : ∀ member ∈ members, Legible member.2) :
      Legible (.ofMembers members)

theorem legible_ofInt (value : Int) : (Value.ofInt value).Legible :=
  .number _ _

/-- The members of an object with their names in escaped form. -/
def rawMembers (members : List (String × Value)) : List (Bytes × Value) :=
  members.map fun (name, value) => (Text.encode name, value)

theorem Value.Legible.valid {value : Value} (legible : value.Legible) : value.Valid := by
  induction legible with
  | null => exact .null
  | bool value => exact .bool value
  | number isNegative magnitude => exact .number (numeral_natDigits isNegative magnitude)
  | text text => exact .string (Text.inscription_encode text)
  | array _ ih => exact .array ih
  | object _ ih =>
    refine .object ?_ ?_
    · intro member written
      obtain ⟨source, -, rfl⟩ := List.mem_map.mp written
      exact Text.inscription_encode source.1
    · intro member written
      obtain ⟨source, listed, rfl⟩ := List.mem_map.mp written
      exact ih source listed

/-! ### The printer -/

theorem gap_newLine (level : Nat) (rest : Bytes) : Gap (newLine level ++ rest) rest := by
  have spaces (count : Nat) : Gap (List.replicate count 32 ++ rest) rest := by
    induction count with
    | zero => exact .nil
    | succ count ih => exact .cons rfl ih
  exact .cons rfl (spaces _)

/-- The printer writes a value in one of its spellings, whatever comes after it. -/
def Value.Written (value : Value) : Prop :=
  ∀ level rest, (Part.value value).Leads (value.write level ++ rest) rest

private theorem leads_writeItems (level below : Nat) (rest : Bytes) {items : List Value}
    (each : ∀ item ∈ items, item.Written) {item : Value} (first : item.Written) :
    (Part.items (item :: items)).Leads
      (item.write level ++ (Value.writeItems level items ++ (newLine below ++ 93 :: rest)))
      rest := by
  induction items generalizing item with
  | nil => exact .lastItem (first level _) (gap_newLine below _)
  | cons next items ih =>
    have others := ih (fun other listed => each other (by simp [listed])) (each next (by simp))
    have gap := gap_newLine level (next.write level ++
      (Value.writeItems level items ++ (newLine below ++ 93 :: rest)))
    have leads := Part.Leads.nextItem (first level _) .nil gap others
    simpa only [Value.writeItems, List.cons_append, List.append_assoc] using leads

private theorem label_inQuotes {raw : Bytes} (inscription : Inscription raw) (rest : Bytes) :
    Label raw (inQuotes raw ++ 58 :: 32 :: rest) rest := by
  have space : Gap (32 :: rest) rest := .cons rfl .nil
  have label := Label.mk inscription .nil space
  simpa only [inQuotes, List.cons_append, List.append_assoc, List.nil_append] using label

private theorem leads_writeMembers (level below : Nat) (rest : Bytes)
    {members : List (Bytes × Value)} (names : ∀ member ∈ members, Inscription member.1)
    (each : ∀ member ∈ members, member.2.Written) {raw : Bytes} (name : Inscription raw)
    {value : Value} (first : value.Written) :
    (Part.members ((raw, value) :: members)).Leads
      (inQuotes raw ++ 58 :: 32 :: (value.write level ++
        (Value.writeMembers level members ++ (newLine below ++ 125 :: rest)))) rest := by
  induction members generalizing raw value with
  | nil => exact .lastMember (label_inQuotes name _) (first level _) (gap_newLine below _)
  | cons next members ih =>
    have others := ih (fun other member => names other (by simp [member]))
      (fun other member => each other (by simp [member])) (names next (by simp))
      (each next (by simp))
    have gap := gap_newLine level (inQuotes next.1 ++ 58 :: 32 :: (next.2.write level ++
      (Value.writeMembers level members ++ (newLine below ++ 125 :: rest))))
    have leads := Part.Leads.nextMember (label_inQuotes name _) (first level _) .nil gap others
    simpa only [Value.writeMembers, List.cons_append, List.append_assoc, List.nil_append]
      using leads

/-- Every document that can be written is. -/
theorem Value.Valid.written {value : Value} (valid : value.Valid) : value.Written := by
  induction valid with
  | null => exact fun level rest => .null
  | bool value =>
    cases value with
    | true => exact fun level rest => .yes
    | false => exact fun level rest => .no
  | number numeral => exact fun level rest => .number numeral.toBytes
  | @string raw inscription =>
    intro level rest
    have leads : (Part.value (.string raw)).Leads (34 :: (raw ++ 34 :: rest)) rest :=
      .string inscription
    simpa only [Value.write, inQuotes, List.cons_append, List.append_assoc, List.nil_append]
      using leads
  | @array items each ih =>
    intro level rest
    cases items with
    | nil => exact .emptyArray .nil
    | cons item items =>
      have inside := leads_writeItems (level + 1) level rest
        (fun other listed => ih other (List.mem_cons_of_mem item listed)) (ih item (by simp))
      have leads := Part.Leads.array (gap_newLine (level + 1) _) inside
      simpa only [Value.write, List.cons_append, List.append_assoc, List.nil_append] using leads
  | @object members names each ih =>
    intro level rest
    cases members with
    | nil => exact .emptyObject .nil
    | cons member members =>
      have inside := leads_writeMembers (level + 1) level rest
        (fun other listed => names other (List.mem_cons_of_mem member listed))
        (fun other listed => ih other (List.mem_cons_of_mem member listed)) (names member (by simp))
        (ih member (by simp))
      have leads := Part.Leads.object (gap_newLine (level + 1) _) inside
      simpa only [Value.write, List.cons_append, List.append_assoc, List.nil_append] using leads

theorem Value.Valid.spells_pretty {value : Value} (valid : value.Valid) :
    Spells value value.pretty := by
  have leads := valid.written 0 []
  rw [List.append_nil] at leads
  exact ⟨_, [], .nil, leads, .nil⟩

def Part.Valid : Part → Prop
  | .value found => found.Valid
  | .items found => ∀ item ∈ found, item.Valid
  | .members found => ∀ member ∈ found, Inscription member.1 ∧ member.2.Valid

theorem Part.Leads.valid {part : Part} {input rest : Bytes} (leads : part.Leads input rest) :
    part.Valid := by
  induction leads with
  | null => exact .null
  | yes | no => exact .bool _
  | number numeral => exact .number numeral
  | string inscription => exact .string inscription
  | emptyArray => exact .array (by simp)
  | array gap inside ih => exact .array ih
  | emptyObject => exact .object (by simp) (by simp)
  | object gap inside ih => exact valid_object.mpr ih
  | lastItem inner close ih => exact List.forall_mem_singleton.mpr ih
  | nextItem inner comma gap others ih ihOthers => exact List.forall_mem_cons.mpr ⟨ih, ihOthers⟩
  | lastMember label inner close ih => exact List.forall_mem_singleton.mpr ⟨label.inscription, ih⟩
  | nextMember label inner comma gap others ih ihOthers =>
    exact List.forall_mem_cons.mpr ⟨⟨label.inscription, ih⟩, ihOthers⟩

/-- The documents that have a text. -/
theorem Value.valid_iff {value : Value} : value.Valid ↔ ∃ text, Spells value text := by
  constructor
  · exact fun valid => ⟨_, valid.spells_pretty⟩
  · rintro ⟨text, input, rest, -, leads, -⟩
    exact leads.valid

/-- A file that holds a written document and nothing else. -/
theorem read?_pretty {value : Value} (legible : value.Legible) :
    Reader.read? value.pretty = some value :=
  read?_eq_some.mpr legible.valid.spells_pretty

/-! ### Texts in documents -/

@[simp] theorem askText_encode (text : String) : askText (Text.encode text) = .ok text := by
  rw [askText, Text.decode_encode]

@[simp] theorem head_ofText (text : String) : (Value.ofText text).head = .ok (.string text) := by
  simp [Value.ofText, Value.head, Except.map]

@[simp] theorem takeIn_ofText (room : Nat) (text : String) :
    (Value.ofText text).takeIn room = .ok (.plain (.string text)) := by
  simp [Value.ofText, Value.takeIn, Except.map]

end Keywarden.Json
