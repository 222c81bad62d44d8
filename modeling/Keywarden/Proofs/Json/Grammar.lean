import Keywarden.Proofs.Json.Token

/-!
# The grammar of documents

What is a text of a document, said without a reader.  The reader accepts the texts of this
grammar and no others, however deep the values in them are nested.

A part of a document stands at the front of an input, and something follows it.
-/

namespace Keywarden.Json

open Reader (isBlank isDigit skipBlank readWord readValue readItems readMembers)

/-! ### Parts of documents -/

/-- What the reader looks for. -/
inductive Part
  | value (value : Value)
  /-- The items of an array from the first one on, up to its end. -/
  | items (items : List Value)
  /-- The members of an object from the first one on, up to its end. -/
  | members (members : List (Bytes × Value))

/-- A name with its colon. -/
inductive Label : Bytes → Bytes → Bytes → Prop
  | mk {raw input before rest : Bytes} (inscription : Inscription raw)
      (colon : Gap input (58 :: before)) (gap : Gap before rest) :
      Label raw (34 :: (raw ++ 34 :: input)) rest

/-- The part stands at the front of the input, and the rest follows it. -/
inductive Part.Leads : Part → Bytes → Bytes → Prop
  | null {rest : Bytes} : Leads (.value .null) (110 :: 117 :: 108 :: 108 :: rest) rest
  | yes {rest : Bytes} : Leads (.value (.bool true)) (116 :: 114 :: 117 :: 101 :: rest) rest
  | no {rest : Bytes} :
      Leads (.value (.bool false)) (102 :: 97 :: 108 :: 115 :: 101 :: rest) rest
  | number {text : NumberText} {bytes rest : Bytes} (numeral : Numeral text bytes) :
      Leads (.value (.number text)) (bytes ++ rest) rest
  | string {raw rest : Bytes} (inscription : Inscription raw) :
      Leads (.value (.string raw)) (34 :: (raw ++ 34 :: rest)) rest
  | emptyArray {input rest : Bytes} (gap : Gap input (93 :: rest)) :
      Leads (.value (.array [])) (91 :: input) rest
  | array {items : List Value} {input start rest : Bytes} (gap : Gap input start)
      (inside : Leads (.items items) start rest) :
      Leads (.value (.array items)) (91 :: input) rest
  | emptyObject {input rest : Bytes} (gap : Gap input (125 :: rest)) :
      Leads (.value (.object [])) (123 :: input) rest
  | object {members : List (Bytes × Value)} {input start rest : Bytes} (gap : Gap input start)
      (inside : Leads (.members members) start rest) :
      Leads (.value (.object members)) (123 :: input) rest
  | lastItem {item : Value} {input after rest : Bytes} (inner : Leads (.value item) input after)
      (close : Gap after (93 :: rest)) : Leads (.items [item]) input rest
  | nextItem {item : Value} {items : List Value} {input after before start rest : Bytes}
      (inner : Leads (.value item) input after) (comma : Gap after (44 :: before))
      (gap : Gap before start) (others : Leads (.items items) start rest) :
      Leads (.items (item :: items)) input rest
  | lastMember {raw : Bytes} {value : Value} {input inside after rest : Bytes}
      (label : Label raw input inside) (inner : Leads (.value value) inside after)
      (close : Gap after (125 :: rest)) : Leads (.members [(raw, value)]) input rest
  | nextMember {raw : Bytes} {value : Value} {members : List (Bytes × Value)}
      {input inside after before start rest : Bytes} (label : Label raw input inside)
      (inner : Leads (.value value) inside after) (comma : Gap after (44 :: before))
      (gap : Gap before start) (others : Leads (.members members) start rest) :
      Leads (.members ((raw, value) :: members)) input rest

theorem Part.Leads.opens {part : Part} {input rest : Bytes} (leads : part.Leads input rest) :
    ∃ first others, input = first :: others ∧ isBlank first = false ∧ first ≠ 93 ∧
      first ≠ 125 := by
  induction leads with
  | number numeral =>
    have visible : ∀ byte : UInt8, byte = 45 ∨ isDigit byte = true →
        isBlank byte = false ∧ byte ≠ 93 ∧ byte ≠ 125 :=
      Bytes.forall_byte _ (by decide +kernel)
    obtain ⟨first, others, rfl, known⟩ := numeral.cons
    exact ⟨first, _, rfl, visible first known⟩
  | lastItem inner close ih => exact ih
  | nextItem inner comma gap others ih => exact ih
  | lastMember label | nextMember label =>
    cases label
    exact ⟨_, _, rfl, rfl, by decide, by decide⟩
  | _ => exact ⟨_, _, rfl, rfl, by decide, by decide⟩

/-- White space before a part ends where the part begins. -/
theorem Part.Leads.skip {part : Part} {input start rest : Bytes} (leads : part.Leads start rest)
    (gap : Gap input start) : skipBlank input = start := by
  obtain ⟨first, others, rfl, visible, -⟩ := leads.opens
  exact gap.skip visible

theorem Label.inscription {raw input rest : Bytes} (label : Label raw input rest) :
    Inscription raw := by
  obtain ⟨inscription, -, -⟩ := label
  exact inscription

theorem Label.length_lt {raw input rest : Bytes} (label : Label raw input rest) :
    rest.length < input.length := by
  obtain ⟨-, colon, gap⟩ := label
  have colonLength := colon.length_lt
  have gapLength := gap.length_le
  simp only [List.length_cons, List.length_append]
  omega

theorem Part.Leads.length_lt {part : Part} {input rest : Bytes}
    (leads : part.Leads input rest) : rest.length < input.length := by
  induction leads with
  | null | yes | no => simp only [List.length_cons]; omega
  | number numeral =>
    obtain ⟨first, others, rfl, -⟩ := numeral.cons
    simp only [List.length_append, List.length_cons]
    omega
  | string => simp only [List.length_append, List.length_cons]; omega
  | emptyArray gap | emptyObject gap => exact Nat.lt_succ_of_lt gap.length_lt
  | array gap inside ih | object gap inside ih =>
    exact Nat.lt_succ_of_lt (ih.trans_le gap.length_le)
  | lastItem inner close ih => exact close.length_lt.trans ih
  | nextItem inner comma gap others ih ihOthers =>
    exact ihOthers.trans_le (gap.length_le.trans (comma.length_lt.trans ih).le)
  | lastMember named inner close ih => exact close.length_lt.trans (ih.trans named.length_lt)
  | nextMember named inner comma gap others ih ihOthers =>
    exact ihOthers.trans_le
      (gap.length_le.trans (comma.length_lt.trans (ih.trans named.length_lt)).le)

/-! ### The reader -/

def Part.Found (fuel : Nat) (input rest : Bytes) : Part → Prop
  | .value found => readValue fuel input = some (found, rest)
  | .items found => readItems fuel input = some (found, rest)
  | .members found => readMembers fuel input = some (found, rest)

/-- How much fuel is too little. -/
def Part.weight (input : Bytes) : Part → Nat
  | .value _ => 2 * input.length
  | .items _ | .members _ => 2 * input.length + 1

/-- The reader finds what is there: it takes no part for less than it is, and its fuel lasts. -/
theorem Part.Leads.found {part : Part} {input rest : Bytes} (leads : part.Leads input rest)
    (ends : Ends rest ∨ ∀ value, part ≠ .value value) {fuel : Nat}
    (enough : part.weight input ≤ fuel) : part.Found (fuel + 1) input rest := by
  -- over the grammar: a list of items costs one step more than its first item, and every other
  -- step leaves a shorter input
  induction leads generalizing fuel with
  | null | yes | no => rfl
  | number numeral =>
    have apart : ∀ byte : UInt8, byte = 45 ∨ Reader.isDigit byte = true →
        byte ≠ 123 ∧ byte ≠ 91 ∧ byte ≠ 34 ∧ byte ≠ 110 ∧ byte ≠ 116 ∧ byte ≠ 102 :=
      Bytes.forall_byte _ (by decide +kernel)
    have read := numeral.read (ends.resolve_right fun other => other _ rfl)
    obtain ⟨first, others, rfl, known⟩ := numeral.cons
    obtain ⟨brace, bracket, quote, nullSign, trueSign, falseSign⟩ := apart first known
    rw [List.cons_append] at read ⊢
    simp [Found, readValue, brace, bracket, quote, nullSign, trueSign, falseSign, read]
  | string inscription =>
    simp only [Found, readValue, inscription.read, Option.map_some]
  | emptyArray gap => simp only [Found, readValue, gap.skip rfl]
  | emptyObject gap => simp only [Found, readValue, gap.skip rfl]
  | @array items input start rest gap inside ih =>
    have shorter := gap.length_le
    simp only [weight, List.length_cons] at enough ih
    obtain ⟨fuel, rfl⟩ : ∃ less, fuel = less + 1 := ⟨fuel - 1, by omega⟩
    have read : readItems (fuel + 1) start = some (items, rest) :=
      ih (.inr (by simp)) (by omega)
    obtain ⟨first, others, rfl, visible, notEnd, -⟩ := inside.opens
    simp [Found, readValue, gap.skip visible, notEnd, read]
  | @object members input start rest gap inside ih =>
    have shorter := gap.length_le
    simp only [weight, List.length_cons] at enough ih
    obtain ⟨fuel, rfl⟩ : ∃ less, fuel = less + 1 := ⟨fuel - 1, by omega⟩
    have read : readMembers (fuel + 1) start = some (members, rest) :=
      ih (.inr (by simp)) (by omega)
    obtain ⟨first, others, rfl, visible, -, notEnd⟩ := inside.opens
    simp [Found, readValue, gap.skip visible, notEnd, read]
  | @lastItem item input after rest inner close ih =>
    simp only [weight] at enough ih
    obtain ⟨fuel, rfl⟩ : ∃ less, fuel = less + 1 := ⟨fuel - 1, by omega⟩
    have read : readValue (fuel + 1) input = some (item, after) :=
      ih (.inl (close.ends (ends_cons (by simp) _))) (by omega)
    rw [Found, readItems]
    simp only [read, close.skip rfl]
  | @nextItem item items input after before start rest inner comma gap others ih ihOthers =>
    have shorter := inner.length_lt
    have commaLength := comma.length_lt
    have gapLength := gap.length_le
    simp only [weight] at enough ih ihOthers
    obtain ⟨fuel, rfl⟩ : ∃ less, fuel = less + 1 := ⟨fuel - 1, by omega⟩
    have read : readValue (fuel + 1) input = some (item, after) :=
      ih (.inl (comma.ends (ends_cons (by simp) _))) (by omega)
    have readOthers : readItems (fuel + 1) start = some (items, rest) :=
      ihOthers (.inr (by simp)) (by omega)
    rw [Found, readItems]
    simp only [read, comma.skip rfl, others.skip gap, readOthers, Option.map_some]
  | @lastMember raw value input inside after rest named inner close ih =>
    have shorter := named.length_lt
    simp only [weight] at enough ih
    obtain ⟨fuel, rfl⟩ : ∃ less, fuel = less + 1 := ⟨fuel - 1, by omega⟩
    have read : readValue (fuel + 1) inside = some (value, after) :=
      ih (.inl (close.ends (ends_cons (by simp) _))) (by omega)
    obtain ⟨inscription, colon, space⟩ := named
    rw [Found, readMembers]
    simp only [inscription.read, colon.skip rfl, inner.skip space, read, close.skip rfl]
  | @nextMember raw value members input inside after before start rest named inner comma gap
      others ih ihOthers =>
    have labelLength := named.length_lt
    have shorter := inner.length_lt
    have commaLength := comma.length_lt
    have gapLength := gap.length_le
    simp only [weight] at enough ih ihOthers
    obtain ⟨fuel, rfl⟩ : ∃ less, fuel = less + 1 := ⟨fuel - 1, by omega⟩
    have read : readValue (fuel + 1) inside = some (value, after) :=
      ih (.inl (comma.ends (ends_cons (by simp) _))) (by omega)
    have readOthers : readMembers (fuel + 1) start = some (members, rest) :=
      ihOthers (.inr (by simp)) (by omega)
    obtain ⟨inscription, colon, space⟩ := named
    rw [Found, readMembers]
    simp only [inscription.read, colon.skip rfl, inner.skip space, read, comma.skip rfl,
      others.skip gap, readOthers, Option.map_some]

private theorem eq_of_readWord {word input rest : Bytes} (read : readWord word input = some rest) :
    input = word ++ rest := by
  induction word generalizing input with
  | nil => exact Option.some.inj read
  | cons expected word ih =>
    cases input with
    | nil => cases read
    | cons byte input =>
      rw [readWord] at read
      split at read
      · rename_i same
        rw [same, ih read, List.cons_append]
      · cases read

section Sound

variable {fuel : Nat} {input rest : Bytes}
  (inner : ∀ {part : Part} {input rest : Bytes}, part.Found fuel input rest → part.Leads input rest)
include inner

private theorem leads_of_readValue {value : Value}
    (read : readValue (fuel + 1) input = some (value, rest)) :
    (Part.value value).Leads input rest := by
  unfold readValue at read
  split at read
  · rename_i inside
    have gap := gap_skipBlank inside
    split at read
    · rename_i closed
      cases read
      rw [closed] at gap
      exact .emptyObject gap
    · obtain ⟨⟨members, after⟩, found, same⟩ := Option.map_eq_some_iff.mp read
      cases same
      exact .object gap (inner found)
  · rename_i inside
    have gap := gap_skipBlank inside
    split at read
    · rename_i closed
      cases read
      rw [closed] at gap
      exact .emptyArray gap
    · obtain ⟨⟨items, after⟩, found, same⟩ := Option.map_eq_some_iff.mp read
      cases same
      exact .array gap (inner found)
  · obtain ⟨⟨raw, after⟩, found, same⟩ := Option.map_eq_some_iff.mp read
    cases same
    obtain ⟨inscription, rfl⟩ := inscription_of_readString found
    exact .string inscription
  · obtain ⟨after, found, same⟩ := Option.map_eq_some_iff.mp read
    cases same
    rw [eq_of_readWord found]
    exact .null
  · obtain ⟨after, found, same⟩ := Option.map_eq_some_iff.mp read
    cases same
    rw [eq_of_readWord found]
    exact .yes
  · obtain ⟨after, found, same⟩ := Option.map_eq_some_iff.mp read
    cases same
    rw [eq_of_readWord found]
    exact .no
  · obtain ⟨⟨text, after⟩, found, same⟩ := Option.map_eq_some_iff.mp read
    cases same
    obtain ⟨bytes, numeral, rfl⟩ := numeral_of_readNumber found
    exact .number numeral

private theorem leads_of_readItems {items : List Value}
    (read : readItems (fuel + 1) input = some (items, rest)) :
    (Part.items items).Leads input rest := by
  unfold readItems at read
  split at read
  · cases read
  · rename_i item after found
    have first : (Part.value item).Leads input after := inner found
    have gap := gap_skipBlank after
    split at read
    · rename_i closed
      cases read
      rw [closed] at gap
      exact .lastItem first gap
    · rename_i before comma
      obtain ⟨⟨others, after⟩, found, same⟩ := Option.map_eq_some_iff.mp read
      cases same
      rw [comma] at gap
      exact .nextItem first gap (gap_skipBlank before) (inner found)
    · cases read

private theorem leads_of_readMembers {members : List (Bytes × Value)}
    (read : readMembers (fuel + 1) input = some (members, rest)) :
    (Part.members members).Leads input rest := by
  unfold readMembers at read
  split at read
  · split at read
    · cases read
    · rename_i raw named name
      obtain ⟨inscription, rfl⟩ := inscription_of_readString name
      have toColon := gap_skipBlank named
      split at read
      · rename_i before colon
        rw [colon] at toColon
        have label := Label.mk inscription toColon (gap_skipBlank before)
        split at read
        · cases read
        · rename_i value after found
          have first : (Part.value value).Leads (skipBlank before) after := inner found
          have gap := gap_skipBlank after
          split at read
          · rename_i closed
            cases read
            rw [closed] at gap
            exact .lastMember label first gap
          · rename_i next comma
            obtain ⟨⟨others, after⟩, found, same⟩ := Option.map_eq_some_iff.mp read
            cases same
            rw [comma] at gap
            exact .nextMember label first gap (gap_skipBlank next) (inner found)
          · cases read
      · cases read
  · cases read

end Sound

/-- The reader finds nothing but what is there. -/
theorem Part.leads_of_found {fuel : Nat} {part : Part} {input rest : Bytes}
    (found : part.Found fuel input rest) : part.Leads input rest := by
  -- over the fuel, for all parts at once: each reader calls the others with less
  induction fuel generalizing part input rest with
  | zero => cases part <;> cases found
  | succ fuel ih =>
    cases part with
    | value value => exact leads_of_readValue ih found
    | items items => exact leads_of_readItems ih found
    | members members => exact leads_of_readMembers ih found

/-- The text is the document, with white space around it. -/
def Spells (document : Value) (text : Bytes) : Prop :=
  ∃ input rest, Gap text input ∧ (Part.value document).Leads input rest ∧ Gap rest []

/-- The reader accepts the texts of the grammar and no others. -/
theorem read?_eq_some {text : Bytes} {document : Value} :
    Reader.read? text = some document ↔ Spells document text := by
  constructor
  · intro read
    unfold Reader.read? at read
    dsimp only at read
    split at read
    · rename_i found rest leads
      split at read
      · rename_i empty
        cases read
        have gap := gap_skipBlank rest
        rw [List.isEmpty_iff.mp empty] at gap
        have inner : (Part.value document).Leads (skipBlank text) rest := Part.leads_of_found leads
        exact ⟨_, rest, gap_skipBlank text, inner, gap⟩
      · cases read
    · cases read
  · rintro ⟨input, rest, gap, leads, after⟩
    have found : readValue (2 * input.length + 1) input = some (document, rest) :=
      leads.found (.inl (after.ends ends_nil)) (Nat.le_refl _)
    have nothing : skipBlank rest = [] := after.skipBlank_eq
    simp only [Reader.read?, leads.skip gap, found, nothing, List.isEmpty_nil, if_true]

end Keywarden.Json
