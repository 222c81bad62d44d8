import Keywarden.Proofs.Repository.Inherited

/-!
# Operations and the state beside the info file

Whatever the building blocks and the source of passphrases keep of the state beside the info
file, the operations keep.
-/

namespace Keywarden

open Keywarden.Action

variable {σ γ : Type} {view : σ → γ} {primitives : Primitives σ} {source : PassphraseSource σ}

/-- No building block changes the view. -/
structure Primitives.Keep (view : σ → γ) (primitives : Primitives σ) : Prop where
  generateMasterKey : primitives.generateMasterKey.Keeps view
  generateSalt : primitives.generateSalt.Keeps view
  deriveKey : ∀ passphrase salt cost, (primitives.deriveKey passphrase salt cost).Keeps view
  wrap : ∀ key payload, (primitives.wrap key payload).Keeps view
  unwrap : ∀ key blob, (primitives.unwrap key blob).Keeps view
  asymmetricWrap : ∀ payload id, (primitives.asymmetricWrap payload id).Keeps view
  asymmetricUnwrap : ∀ blob, (primitives.asymmetricUnwrap blob).Keeps view

namespace Edit

/-- What is seen of the state beside the info file. -/
def seen (view : σ → γ) (session : Session σ) : γ :=
  view session.host

private theorem keeps_lift {α : Type} {action : Action σ α} (keeps : action.Keeps view) :
    (lift action).Keeps (seen view) :=
  keeps.focus fun _ _ => rfl

/-- An edit of a file keeps what it keeps of the state beside the file. -/
theorem keeps_onFile {α : Type} {edit : Edit σ α} (keeps : edit.Keeps (seen view))
    (info : InfoFile) : (onFile info edit).Keeps view := by
  intro host
  have same := keeps ⟨info, host⟩
  unfold onFile
  generalize edit ⟨info, host⟩ = outcome at same ⊢
  rcases outcome with ⟨_ | _, after⟩ <;> exact same

theorem inherited_keeps (view : σ → γ) :
    Edit.Inherited (fun action => action.Keeps view) (fun edit => edit.Keeps (seen view)) where
  toInherited := Action.inherited_keeps (seen view)
  lift := keeps_lift
  info _ := rfl
  setInfo _ _ := rfl
  onFile := keeps_onFile

end Edit

theorem Primitives.Keep.working (keep : primitives.Keep view) :
    primitives.Working (fun action => action.Keeps view)
      (fun edit => edit.Keeps (Edit.seen view)) where
  toInherited := inherited_keeps view
  deriveKey := keep.deriveKey
  unwrap := keep.unwrap
  asymmetricUnwrap := keep.asymmetricUnwrap
  edits := Edit.inherited_keeps view
  generateMasterKey := keep.generateMasterKey
  generateSalt := keep.generateSalt
  cost _ := rfl
  wrap := keep.wrap
  asymmetricWrap := keep.asymmetricWrap

theorem Primitives.Keep.of_working
    (working : primitives.Working (fun action => action.Keeps view)
      (fun edit => edit.Keeps (Edit.seen view))) : primitives.Keep view where
  generateMasterKey := working.generateMasterKey
  generateSalt := working.generateSalt
  deriveKey := working.deriveKey
  wrap := working.wrap
  unwrap := working.unwrap
  asymmetricWrap := working.asymmetricWrap
  asymmetricUnwrap := working.asymmetricUnwrap

namespace Unlocking

theorem keeps_withPassphrase (keep : primitives.Keep view) (info : InfoFile)
    (passphrase : String) : (withPassphrase info passphrase primitives).Keeps view :=
  holds_withPassphrase keep.working.toSearching info passphrase

theorem keeps_unlock (keep : primitives.Keep view) (asks : source.acquire.Keeps view)
    (info : InfoFile) : (unlock info primitives source).Keeps view :=
  holds_unlock keep.working.toSearching asks info

end Unlocking

namespace Repository

open Edit

theorem keeps_addFactor (keep : primitives.Keep view) (asks : source.acquire.Keeps view)
    (masterKey : MasterKey) (factor : FactorSpec) :
    (addFactor masterKey factor primitives source).Keeps (seen view) :=
  holds_addFactor keep.working asks masterKey factor

theorem keeps_create (keep : primitives.Keep view) (asks : source.acquire.Keeps view)
    (first : FactorSpec) : (create first primitives source).Keeps view :=
  holds_create keep.working asks first

theorem keeps_removeFactor (target : FactorId) :
    (removeFactor target : Edit σ KeyEntry).Keeps (seen view) :=
  holds_removeFactor (Edit.inherited_keeps view) target

theorem keeps_upgrade (keep : primitives.Keep view) (asks : source.acquire.Keeps view) :
    (upgrade primitives source).Keeps (seen view) :=
  holds_upgrade keep.working asks

end Repository

end Keywarden
