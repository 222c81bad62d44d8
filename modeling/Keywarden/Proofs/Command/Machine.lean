import Keywarden.Command.Machine
import Keywarden.Proofs.InfoFile.Store
import Keywarden.Proofs.Primitives.Standard
import Keywarden.Proofs.Repository.Keeps

/-!
# The machine and its files

Asking, printing and all cryptography leave the disk of a machine alone, so that the files
change through the actions on the volume and through nothing else.
-/

namespace Keywarden

open Keywarden.Action

/-! ### Prompts -/

namespace Prompt

variable {prompt : Prompt} {console : Console}

end Prompt

/-! ### The disk of a machine -/

namespace Machine

variable {σ α γ : Type}

/-- What the files of a name on the disk of a machine hold, wherever they stand. -/
def filesNamed (name : String) (machine : Machine σ) : Location → Option Bytes :=
  machine.volume.filesNamed name

/-- What the info files of a machine hold, wherever they stand. -/
def infoFiles (machine : Machine σ) : Location → Option Bytes :=
  machine.volume.filesNamed InfoFile.fileName

theorem keeps_onVolume {view : Volume → γ} {action : Action Volume α} (keeps : action.Keeps view) :
    (onVolume action : Action (Machine σ) α).Keeps fun machine => view machine.volume :=
  keeps.focus fun _ _ => rfl

theorem keepsOnStop_onVolume {view : Volume → γ} {action : Action Volume α}
    (keeps : action.KeepsOnStop view) :
    (onVolume action : Action (Machine σ) α).KeepsOnStop fun machine => view machine.volume :=
  keeps.focus fun _ _ => rfl

theorem unfailing_onVolume {action : Action Volume α} (unfailing : action.Unfailing) :
    (onVolume action : Action (Machine σ) α).Unfailing :=
  unfailing_focus unfailing

theorem returns_onVolume {action : Action Volume α} {before after : Machine σ} {value : α} :
    (onVolume action).Returns before value after ↔
      ∃ volume, action.Returns before.volume value volume ∧ after = { before with volume } :=
  run_focus

theorem yields_of_onVolume {action : Action Volume α} {value : α}
    (yields : (onVolume action : Action (Machine σ) α).Yields value) : action.Yields value := by
  obtain ⟨before, after, returned⟩ := yields
  obtain ⟨volume, returned, -⟩ := returns_onVolume.mp returned
  exact returned.yields

/-- An action that keeps the whole volume changes nothing through it. -/
theorem returns_onVolume_of_keeps {action : Action Volume α} (keeps : action.Keeps id)
    {before after : Machine σ} {value : α} (returned : (onVolume action).Returns before value after) :
    action.Returns before.volume value before.volume ∧ before = after := by
  obtain ⟨volume, run, rfl⟩ := returns_onVolume.mp returned
  have same : volume = before.volume := keeps.of_returns run
  rw [same] at run ⊢
  exact ⟨run, rfl⟩

theorem keeps_filesNamed {action : Action (Machine σ) α} (keeps : action.Keeps Machine.volume)
    (name : String) : action.Keeps (filesNamed name) :=
  keeps.coarser (Volume.filesNamed name)

theorem keeps_infoFiles {action : Action (Machine σ) α} (keeps : action.Keeps Machine.volume) :
    action.Keeps infoFiles :=
  keeps_filesNamed keeps InfoFile.fileName

theorem keeps_printAll (texts : List Printed) :
    (printAll texts : Action (Machine σ) Unit).Keeps Machine.volume :=
  keeps_modify fun _ => rfl

theorem keeps_print (printed : Printed) :
    (print printed : Action (Machine σ) Unit).Keeps Machine.volume :=
  keeps_printAll [printed]

theorem keeps_holds (path : String) :
    (holds path : Action (Machine σ) Bool).Keeps Machine.volume :=
  (keeps_get _).bind fun _ => keeps_pure _ _

theorem unfailing_print (printed : Printed) :
    (print printed : Action (Machine σ) Unit).Unfailing :=
  unfailing_modify _

theorem returns_printAll {texts : List Printed} {before after : Machine σ} {value : Unit} :
    (printAll texts).Returns before value after ↔
      { before with printed := before.printed ++ texts } = after := by
  constructor
  · intro returned
    cases returned
    rfl
  · rintro rfl
    rfl

theorem returns_print {printed : Printed} {before after : Machine σ} {value : Unit} :
    (print printed).Returns before value after ↔
      { before with printed := before.printed ++ [printed] } = after :=
  returns_printAll

theorem returns_holds {path : String} {before after : Machine σ} {value : Bool} :
    (holds path).Returns before value after ↔
      before.volume.disk.holds path = value ∧ before = after := by
  change (Except.ok _, before) = (Except.ok value, after) ↔ _
  simp

theorem keeps_source (prompt : Prompt) :
    ((source prompt).acquire : Action (Machine σ) String).Keeps Machine.volume := by
  refine keeps_focus ?_ prompt.acquire
  intro machine console
  rfl

private theorem keeps_entropy (host : Entropy σ) (count : Nat) (machine : Machine σ) :
    ((entropy host).draw count machine).2.volume = machine.volume :=
  rfl

theorem keeps_draw (host : Entropy σ) (count : Nat) (refusal : String → Stop) :
    (random (entropy host) count refusal : Action (Machine σ) Bytes).Keeps Machine.volume :=
  keeps_random (keeps_entropy host) count refusal

theorem keeps_generate (host : Entropy σ) :
    (Identity.generate (entropy host) : Action (Machine σ) Identity).Keeps Machine.volume :=
  Identity.holds_generate (inherited_keeps Machine.volume) (keeps_draw host) (keeps_throw _ _)

/-- No building block touches the disk. -/
theorem keep_standard (host : Entropy σ) (cost : DerivationCost) (identities : List Identity) :
    (Primitives.standard (entropy host) cost identities).Keep Machine.volume :=
  .of_working (Primitives.working_standard (inherited_keeps Machine.volume)
    (Edit.inherited_keeps Machine.volume) (keeps_draw host) (keeps_throw _ _))

end Machine

end Keywarden
