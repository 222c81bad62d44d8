import Keywarden.Json.Tagged
import Keywarden.Proofs.Json.Record

/-!
# Records that name their kind

The member that names the kind may stand anywhere: the others are taken in until it is met, and
are the same members wherever it is.
-/

namespace Keywarden.Json

variable {κ : Type} {known : List (String × κ)} {room : Nat}

/-- The members name a kind, unless it is known already, and the others are taken in. -/
inductive Tagged (known : List (String × κ)) (room : Nat) (kind : κ) :
    Option κ → List (Bytes × Value) → List (String × Content) → Prop
  | nil : Tagged known room kind (some kind) [] []
  | tag {raw : Bytes} {value : Value} {members : List (Bytes × Value)}
      {others : List (String × Content)} (named : askText raw = .ok "type")
      (asked : (value.head >>= askKind known) = .ok kind)
      (more : Tagged known room kind (some kind) members others) :
      Tagged known room kind none ((raw, value) :: members) others
  | other {field : Option κ} {raw : Bytes} {name : String} {value : Value} {content : Content}
      {members : List (Bytes × Value)} {others : List (String × Content)}
      (named : askText raw = .ok name) (notTag : name ≠ "type")
      (taken : value.takeIn room = .ok content)
      (more : Tagged known room kind field members others) :
      Tagged known room kind field ((raw, value) :: members) ((name, content) :: others)

private theorem tagged_known {field : Option κ} {kind : κ} {members : List (Bytes × Value)}
    {others : List (String × Content)} (tagged : Tagged known room kind field members others) :
    ∀ before ∈ field, before = kind := by
  induction tagged with
  | nil => simp
  | tag => simp
  | other named notTag taken more ih => exact ih

theorem askTaggedMembers_eq_ok {field : Option κ} {kind : κ} {members : List (Bytes × Value)}
    {others : List (String × Content)} :
    askTaggedMembers known room field members = .ok (kind, others) ↔
      Tagged known room kind field members others := by
  constructor
  · intro read
    induction members generalizing field others with
    | nil =>
      obtain ⟨found, required, built⟩ := bind_eq_ok.mp read
      cases built
      cases field with
      | none => cases required
      | some before =>
        cases required
        exact .nil
    | cons member members ih =>
      obtain ⟨raw, value⟩ := member
      obtain ⟨name, named, read⟩ := bind_eq_ok.mp read
      split at read
      · rename_i isTag
        subst isTag
        obtain ⟨filled, fill, read⟩ := bind_eq_ok.mp read
        obtain ⟨rfl, found, asked, rfl⟩ := fill_eq_ok.mp fill
        have more := ih read
        cases tagged_known more found rfl
        exact .tag named asked more
      · rename_i notTag
        obtain ⟨content, taken, read⟩ := bind_eq_ok.mp read
        obtain ⟨⟨found, rest⟩, more, built⟩ := bind_eq_ok.mp read
        cases built
        exact .other named notTag taken (ih more)
  · intro tagged
    induction tagged with
    | nil => rfl
    | tag named asked more ih =>
      refine bind_eq_ok.mpr ⟨_, named, ?_⟩
      rw [if_pos rfl]
      exact bind_eq_ok.mpr ⟨_, fill_eq_ok.mpr ⟨rfl, _, asked, rfl⟩, ih⟩
    | other named notTag taken more ih =>
      refine bind_eq_ok.mpr ⟨_, named, ?_⟩
      rw [if_neg notTag]
      exact bind_eq_ok.mpr ⟨_, taken, bind_eq_ok.mpr ⟨_, ih, rfl⟩⟩

theorem Tagged.perm {field : Option κ} {kind : κ} {members rearranged : List (Bytes × Value)}
    (same : members.Perm rearranged) {others : List (String × Content)}
    (tagged : Tagged known room kind field members others) :
    ∃ moved, Tagged known room kind field rearranged moved ∧ others.Perm moved := by
  induction same generalizing field others with
  | nil => exact ⟨others, tagged, .refl _⟩
  | cons member _ ih =>
    cases tagged with
    | tag named asked more =>
      obtain ⟨moved, tagged, same⟩ := ih more
      exact ⟨moved, .tag named asked tagged, same⟩
    | other named notTag taken more =>
      obtain ⟨moved, tagged, same⟩ := ih more
      exact ⟨_, .other named notTag taken tagged, same.cons _⟩
  | swap first second members =>
    cases tagged with
    | tag named asked more =>
      cases more with
      | other otherNamed notTag taken more =>
        exact ⟨_, .other otherNamed notTag taken (.tag named asked more), .refl _⟩
    | other named notTag taken more =>
      cases more with
      | tag tagNamed asked more =>
        exact ⟨_, .tag tagNamed asked (.other named notTag taken more), .refl _⟩
      | other otherNamed otherNotTag otherTaken more =>
        exact ⟨_, .other otherNamed otherNotTag otherTaken (.other named notTag taken more),
          .swap _ _ _⟩
  | trans _ _ ihFirst ihSecond =>
    obtain ⟨between, tagged, first⟩ := ihFirst tagged
    obtain ⟨moved, tagged, second⟩ := ihSecond tagged
    exact ⟨moved, tagged, first.trans second⟩

/-- A kind that is known is not named once more; one that is not known is named. -/
theorem Tagged.named_iff {field : Option κ} {kind : κ} {members : List (Bytes × Value)}
    {others : List (String × Content)} (tagged : Tagged known room kind field members others) :
    (∃ member ∈ members, askText member.1 = .ok "type") ↔ field = none := by
  induction tagged with
  | nil => simp
  | tag named asked more ih => simp [named]
  | other named notTag taken more ih => simp [named, notTag, ih]

end Keywarden.Json
