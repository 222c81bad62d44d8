import Keywarden.Proofs.Action.Inherited
import Keywarden.Repository

/-!
# What operations inherit from the building blocks

Unlocking and the operations on factors reach the state only through the building blocks and
the source of passphrases.  A property of actions that sequences and attempts inherit holds of
an operation when it holds of these.
-/

namespace Keywarden

open Keywarden.Action

variable {σ : Type} {Holds : ∀ {α : Type}, Action σ α → Prop}
  {HoldsEdit : ∀ {α : Type}, Edit σ α → Prop} {primitives : Primitives σ}
  {source : PassphraseSource σ}

/-- The property is inherited, and it holds of what unlocking uses of the building blocks. -/
structure Primitives.Searching (Holds : ∀ {α : Type}, Action σ α → Prop)
    (primitives : Primitives σ) : Prop extends Inherited Holds where
  deriveKey : ∀ passphrase salt cost, Holds (primitives.deriveKey passphrase salt cost)
  unwrap : ∀ key blob, Holds (primitives.unwrap key blob)
  asymmetricUnwrap : ∀ blob, Holds (primitives.asymmetricUnwrap blob)

namespace Edit

structure Inherited (Holds : ∀ {α : Type}, Action σ α → Prop)
    (HoldsEdit : ∀ {α : Type}, Edit σ α → Prop) : Prop extends Action.Inherited HoldsEdit where
  lift : ∀ {α : Type} {action : Action σ α}, Holds action → HoldsEdit (Edit.lift action)
  info : HoldsEdit (Edit.info : Edit σ InfoFile)
  setInfo : ∀ info, HoldsEdit (Edit.setInfo info : Edit σ Unit)
  onFile : ∀ {α : Type} {edit : Edit σ α}, HoldsEdit edit → ∀ info, Holds (Edit.onFile info edit)

def cost (primitives : Primitives σ) : Edit σ DerivationCost := do
  return primitives.cost (← get).host

/-- The info files are the same, and the states beside them are related. -/
def Alongside (related : σ → σ → Prop) (first second : Session σ) : Prop :=
  first.info = second.info ∧ related first.host second.host

private theorem respects_lift {α : Type} {related : σ → σ → Prop} {action : Action σ α}
    (respects : action.Respects related) : (lift action).Respects (Alongside related) := by
  rintro ⟨info, first⟩ ⟨_, second⟩ ⟨rfl, states⟩
  obtain ⟨outcome, after⟩ := respects first second states
  exact ⟨outcome, rfl, after⟩

theorem respects_onFile {α : Type} {related : σ → σ → Prop} {edit : Edit σ α}
    (respects : edit.Respects (Alongside related)) (info : InfoFile) :
    (onFile info edit).Respects related := by
  intro first second states
  obtain ⟨outcome, same, after⟩ := respects ⟨info, first⟩ ⟨info, second⟩ ⟨rfl, states⟩
  unfold onFile
  rcases leftRun : edit ⟨info, first⟩ with ⟨found, left⟩
  rcases rightRun : edit ⟨info, second⟩ with ⟨other, right⟩
  rw [leftRun, rightRun] at outcome same after
  cases outcome
  rcases found with stop | value
  · exact ⟨rfl, after⟩
  · dsimp only at same ⊢
    rw [same]
    exact ⟨rfl, after⟩

theorem inherited_respects (related : σ → σ → Prop) :
    Edit.Inherited (fun action => action.Respects related)
      (fun edit => edit.Respects (Alongside related)) where
  toInherited := Action.inherited_respects (Alongside related)
  lift := respects_lift
  info := by
    rintro ⟨info, first⟩ ⟨_, second⟩ ⟨rfl, states⟩
    exact ⟨rfl, rfl, states⟩
  setInfo info first second states := ⟨rfl, rfl, states.2⟩
  onFile := respects_onFile

end Edit

/-- The properties hold of all that the building blocks do. -/
structure Primitives.Working (Holds : ∀ {α : Type}, Action σ α → Prop)
    (HoldsEdit : ∀ {α : Type}, Edit σ α → Prop) (primitives : Primitives σ) : Prop
    extends Searching Holds primitives where
  edits : Edit.Inherited Holds HoldsEdit
  generateMasterKey : Holds primitives.generateMasterKey
  generateSalt : Holds primitives.generateSalt
  cost : HoldsEdit (Edit.cost primitives)
  wrap : ∀ key payload, Holds (primitives.wrap key payload)
  asymmetricWrap : ∀ payload id, Holds (primitives.asymmetricWrap payload id)

namespace Unlocking

theorem holds_tryAsymmetric (searching : primitives.Searching Holds)
    (entries : List AsymmetricEntry) : Holds (tryAsymmetric primitives entries) := by
  induction entries with
  | nil => exact searching.pure none
  | cons entry rest ih =>
    refine searching.bind (searching.attempt (searching.asymmetricUnwrap _)) fun attempted => ?_
    cases attempted with
    | error failure => exact ih
    | ok opened =>
      dsimp only
      split
      · exact searching.pure _
      · exact ih

private theorem holds_tryPassphrases (searching : primitives.Searching Holds) (passphrase : Bytes)
    (entries : List (Nat × PassphraseEntry)) :
    Holds (tryPassphrases primitives passphrase entries) := by
  induction entries with
  | nil => exact searching.pure none
  | cons entry rest ih =>
    refine searching.bind (searching.deriveKey passphrase entry.2.salt entry.2.cost)
      fun derived => ?_
    dsimp only
    split
    · exact searching.bind (searching.unwrap derived.1 entry.2.wrappedKey) fun payload =>
        searching.bind (searching.ofExcept _) fun masterKey => searching.pure _
    · exact ih

theorem holds_legacyMasterKey (searching : primitives.Searching Holds) (info : InfoFile)
    (passphrase : Bytes) : Holds (legacyMasterKey info passphrase primitives) := by
  unfold legacyMasterKey
  split
  · exact searching.pure none
  · refine searching.bind (searching.deriveKey passphrase _ _) fun derived => ?_
    dsimp only
    split
    · exact searching.pure _
    · exact searching.pure _

theorem holds_withPassphrase (searching : primitives.Searching Holds) (info : InfoFile)
    (passphrase : String) : Holds (withPassphrase info passphrase primitives) := by
  refine searching.bind (holds_tryPassphrases searching _ _) fun found => ?_
  cases found with
  | some unlocked => exact searching.pure unlocked
  | none =>
    refine searching.bind (holds_legacyMasterKey searching info _) fun legacy => ?_
    cases legacy with
    | some masterKey => exact searching.pure _
    | none => exact searching.fail noMatch

theorem holds_unlock (searching : primitives.Searching Holds) (asks : Holds source.acquire)
    (info : InfoFile) : Holds (unlock info primitives source) := by
  refine searching.bind (holds_tryAsymmetric searching _) fun found => ?_
  cases found with
  | some unlocked => exact searching.pure unlocked
  | none => exact searching.bind asks fun passphrase => holds_withPassphrase searching info passphrase

end Unlocking

namespace Repository

theorem holds_addRecipient (working : primitives.Working Holds HoldsEdit) (masterKey : MasterKey)
    (recipientId : String) : HoldsEdit (addRecipient masterKey recipientId primitives) := by
  have edits := working.edits
  refine edits.bind edits.info fun info => ?_
  split
  · exact edits.fail _
  · exact edits.bind (edits.lift (working.asymmetricWrap _ _)) fun blob =>
      edits.bind edits.info fun info => edits.bind (edits.ofExcept _) fun edited =>
        edits.setInfo edited

/-- Wraps a master key for a passphrase and adds the entry, once there is a salt. -/
def appendSalted (masterKey : MasterKey) (passphrase salt : Bytes) (primitives : Primitives σ) :
    Edit σ Unit := do
  let cost ← Edit.cost primitives
  let (wrappingKey, hash) ← Edit.lift (primitives.deriveKey passphrase salt cost)
  let wrappedKey ← Edit.lift (primitives.wrap wrappingKey masterKey.bytes)
  Edit.setInfo (← Action.ofExcept
    ((← Edit.info).addPassphrase ⟨salt, hash.bytes, wrappedKey, cost⟩))

theorem appendPassphrase_eq (masterKey : MasterKey) (passphrase : Bytes)
    (primitives : Primitives σ) :
    appendPassphrase masterKey passphrase primitives = (do
      let salt ← Edit.lift primitives.generateSalt
      appendSalted masterKey passphrase salt primitives) :=
  rfl

theorem holds_appendSalted (working : primitives.Working Holds HoldsEdit)
    (masterKey : MasterKey) (passphrase salt : Bytes) :
    HoldsEdit (appendSalted masterKey passphrase salt primitives) := by
  have edits := working.edits
  refine edits.bind working.cost fun cost => ?_
  refine edits.bind (edits.lift (working.deriveKey _ _ _)) fun derived => ?_
  refine edits.bind (edits.lift (working.wrap _ _)) fun blob => ?_
  exact edits.bind edits.info fun info => edits.bind (edits.ofExcept _) fun edited =>
    edits.setInfo edited

theorem holds_appendPassphrase (working : primitives.Working Holds HoldsEdit)
    (masterKey : MasterKey) (passphrase : Bytes) :
    HoldsEdit (appendPassphrase masterKey passphrase primitives) :=
  working.edits.bind (working.edits.lift working.generateSalt) fun salt =>
    holds_appendSalted working masterKey passphrase salt

private theorem holds_addPassphrase (working : primitives.Working Holds HoldsEdit)
    (masterKey : MasterKey) (passphrase : String) :
    HoldsEdit (addPassphrase masterKey passphrase primitives) := by
  have edits := working.edits
  refine edits.bind edits.info fun info => ?_
  refine edits.bind (edits.attempt (edits.lift
    (Unlocking.holds_withPassphrase working.toSearching info passphrase))) fun attempted => ?_
  split
  · exact edits.fail _
  · exact holds_appendPassphrase working masterKey _
  · exact edits.fail _

theorem holds_addFactor (working : primitives.Working Holds HoldsEdit)
    (asks : Holds source.acquire) (masterKey : MasterKey) (factor : FactorSpec) :
    HoldsEdit (addFactor masterKey factor primitives source) := by
  cases factor with
  | recipient id => exact holds_addRecipient working masterKey id
  | passphrase =>
    exact working.edits.bind (working.edits.lift asks) fun passphrase =>
      holds_addPassphrase working masterKey passphrase

theorem holds_create (working : primitives.Working Holds HoldsEdit) (asks : Holds source.acquire)
    (first : FactorSpec) : Holds (create first primitives source) := by
  refine working.bind working.generateMasterKey fun masterKey => ?_
  exact working.bind (working.edits.onFile (holds_addFactor working asks masterKey first) _)
    fun added => working.pure _

theorem holds_removeFactor (edits : Edit.Inherited Holds HoldsEdit) (target : FactorId) :
    HoldsEdit (removeFactor target : Edit σ KeyEntry) := by
  refine edits.bind edits.info fun info => ?_
  split
  · exact edits.fail _
  · split
    · exact edits.fail _
    · split
      · exact edits.fail _
      · exact edits.bind (edits.setInfo _) fun _ => edits.pure _

private theorem holds_rotateLegacy (working : primitives.Working Holds HoldsEdit)
    (asks : Holds source.acquire) : HoldsEdit (rotateLegacy primitives source) := by
  have edits := working.edits
  refine edits.bind edits.info fun info => ?_
  split
  · refine edits.bind (edits.lift asks) fun acquired => edits.bind edits.info fun info => ?_
    refine edits.bind (edits.lift
      (Unlocking.holds_legacyMasterKey working.toSearching info _)) fun found => ?_
    split
    · exact edits.fail _
    · exact edits.bind (holds_appendPassphrase working _ _) fun _ => edits.bind edits.info
        fun info => edits.bind (edits.setInfo _) fun _ => edits.pure _
  · exact edits.pure _

theorem holds_upgrade (working : primitives.Working Holds HoldsEdit)
    (asks : Holds source.acquire) : HoldsEdit (upgrade primitives source) := by
  have edits := working.edits
  have renumbered (report : UpgradeReport) :
      HoldsEdit (do
        Edit.setInfo { ← Edit.info with version := InfoFile.currentVersion }
        return report : Edit σ UpgradeReport) :=
    edits.bind edits.info fun info => edits.bind (edits.setInfo _) fun _ => edits.pure _
  refine edits.bind edits.info fun info => ?_
  dsimp only
  split
  · exact edits.pure _
  · split
    · exact edits.bind (holds_rotateLegacy working asks) fun rotated => renumbered _
    · split
      · exact renumbered _
      · exact edits.fail _

end Repository

end Keywarden
