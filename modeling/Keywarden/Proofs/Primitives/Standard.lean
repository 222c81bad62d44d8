import Keywarden.Primitives.Standard
import Keywarden.Proofs.Repository.Inherited
import Keywarden.Proofs.Unlocking.Refusal

/-!
# Unlocking with the standard building blocks

To derive, to unwrap and to open, the standard building blocks draw nothing and change
nothing: what they answer is a function of the arguments and of the identities.  Whether a
derivation succeeds depends on the cost, on the salt and on the length of the passphrase.
-/

namespace Keywarden

open Keywarden.Action

namespace DerivationCost

variable {cost : DerivationCost} {passphrase salt : Bytes}

theorem fault?_eq_none : cost.fault? passphrase salt = none ↔
    cost.floorFault? = none ∧ cost.shapeFault? = none ∧ inputFault? passphrase salt = none := by
  simp [fault?]

private theorem inputFault?_eq_none : inputFault? passphrase salt = none ↔
    passphrase.length ≤ 0xffffffff ∧ 8 ≤ salt.length ∧ salt.length ≤ 0xffffffff := by
  unfold inputFault?
  grind

/-- Of the passphrase, only the length is looked at. -/
theorem fault?_eq_none_of_short {other : Bytes} (accepted : cost.fault? other salt = none)
    (short : passphrase.length ≤ 0xffffffff) : cost.fault? passphrase salt = none := by
  obtain ⟨floor, shape, input⟩ := fault?_eq_none.mp accepted
  obtain ⟨-, salted⟩ := inputFault?_eq_none.mp input
  exact fault?_eq_none.mpr ⟨floor, shape, inputFault?_eq_none.mpr ⟨short, salted⟩⟩

end DerivationCost

namespace Key

variable {passphrase salt : Bytes} {cost : DerivationCost}

theorem derive_eq_ok {pair : WrappingKey × ConfirmationHash} :
    derive passphrase salt cost = .ok pair ↔
      cost.fault? passphrase salt = none ∧ pairOfRoot (root cost passphrase salt) = pair := by
  unfold derive
  cases cost.fault? passphrase salt with
  | none => simp
  | some fault => simp

theorem length_of_derived {pair : WrappingKey × ConfirmationHash}
    (derived : derive passphrase salt cost = .ok pair) : pair.2.bytes.length = 32 := by
  obtain ⟨-, rfl⟩ := derive_eq_ok.mp derived
  exact length_expand _ _

/-- A salt and a cost that served once serve every passphrase that is not too long. -/
theorem derives_of_derived {other : Bytes} {pair : WrappingKey × ConfirmationHash}
    (derived : derive other salt cost = .ok pair) (short : passphrase.length ≤ 0xffffffff) :
    derive passphrase salt cost = .ok (pairOfRoot (root cost passphrase salt)) := by
  obtain ⟨accepted, -⟩ := derive_eq_ok.mp derived
  exact derive_eq_ok.mpr ⟨DerivationCost.fault?_eq_none_of_short accepted short, rfl⟩

end Key

variable {σ : Type} {entropy : Entropy σ} {configured : DerivationCost}
  {identities : List Identity}

/-- What unlocking uses of the standard building blocks are values and failures, so that an
inherited property holds of all searches. -/
theorem Primitives.searching_standard {Holds : ∀ {α : Type}, Action σ α → Prop}
    (inherited : Inherited Holds) :
    (standard entropy configured identities).Searching Holds where
  toInherited := inherited
  deriveKey _ _ _ := inherited.ofExcept _
  unwrap _ _ := inherited.ofExcept _
  asymmetricUnwrap blob := by
    simp only [standard]
    cases openWith? identities blob with
    | some opened => exact inherited.pure opened
    | none => exact inherited.fail noIdentity

section Working

variable {Holds : ∀ {α : Type}, Action σ α → Prop} {HoldsEdit : ∀ {α : Type}, Edit σ α → Prop}

theorem Identity.holds_generate (inherited : Inherited Holds)
    (draws : ∀ count refusal, Holds (random entropy count refusal))
    (aborts : Holds (throw .aborted : Action σ Identity)) : Holds (generate entropy) := by
  refine inherited.bind (draws 32 _) fun secret => ?_
  split
  · exact inherited.pure _
  · exact aborts

/-- An inherited property that draws have, and breaking off, holds of all that the standard
building blocks do. -/
theorem Primitives.working_standard (inherited : Inherited Holds)
    (edits : Edit.Inherited Holds HoldsEdit)
    (draws : ∀ count refusal, Holds (random entropy count refusal))
    (aborts : Holds (throw .aborted : Action σ Identity)) :
    (standard entropy configured identities).Working Holds HoldsEdit where
  toSearching := searching_standard inherited
  edits := edits
  generateMasterKey := inherited.bind (draws 32 _) fun _ => inherited.ofExcept _
  generateSalt := draws 32 _
  cost := by
    change HoldsEdit (Edit.info >>= fun _ => pure configured : Edit σ DerivationCost)
    exact edits.bind edits.info fun _ => edits.pure configured
  wrap key payload := by
    change Holds (Key.wrap entropy key.bytes payload)
    unfold Key.wrap
    split
    · exact inherited.bind (draws 12 _) fun nonce => inherited.pure _
    · exact inherited.fail _
  asymmetricWrap _ _ :=
    inherited.bind (inherited.ofExcept _) fun _ =>
      inherited.bind (Identity.holds_generate inherited draws aborts) fun _ =>
        inherited.bind (draws 24 _) fun _ => inherited.pure _

end Working

theorem Primitives.returns_deriveKey {passphrase salt : Bytes} {cost : DerivationCost}
    {pair : WrappingKey × ConfirmationHash} {before after : σ} :
    ((standard entropy configured identities).deriveKey passphrase salt cost).Returns before pair
      after ↔ Key.derive passphrase salt cost = .ok pair ∧ before = after :=
  returns_ofExcept

theorem Primitives.answers_deriveKey {passphrase salt : Bytes} {cost : DerivationCost}
    {pair : WrappingKey × ConfirmationHash} (derived : Key.derive passphrase salt cost = .ok pair) :
    ((standard entropy configured identities).deriveKey passphrase salt cost).Answers
      (.ok pair) := by
  intro state
  change (ofExcept (Key.derive passphrase salt cost) state).1 = _
  rw [derived]
  rfl

namespace Unlocking

theorem unmet_standard {passphrase salt stored : Bytes} {cost : DerivationCost}
    {pair : WrappingKey × ConfirmationHash} (derived : Key.derive passphrase salt cost = .ok pair)
    (other : pair.2.bytes ≠ stored) :
    Unmet (.standard entropy configured identities) passphrase salt cost stored :=
  fun before =>
    ⟨pair.1, pair.2, before, Primitives.returns_deriveKey.mpr ⟨derived, rfl⟩, other⟩

end Unlocking

end Keywarden
