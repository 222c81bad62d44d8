import Keywarden.Command.Run
import Keywarden.Proofs.Command.Machine

/-!
# Machines that draw and print alike

Many relations of machines say that the machines have one source of random bytes, and go on
saying it while both draw and print the same.  All cryptography respects such a relation, and so
does the end of a run.
-/

namespace Keywarden

open Keywarden.Action Machine

variable {σ : Type} {around : Surroundings σ}

/-- Related machines have the same source of random bytes, and stay related when both go on
with another one or print the same. -/
structure Machine.Coupled (related : Machine σ → Machine σ → Prop) : Prop where
  host : ∀ {first second}, related first second → first.host = second.host
  drawn : ∀ {first second} (host : σ), related first second →
    related { first with host } { second with host }
  print : ∀ {first second} (texts : List Printed), related first second →
    related { first with printed := first.printed ++ texts }
      { second with printed := second.printed ++ texts }

namespace Machine.Coupled

variable {related : Machine σ → Machine σ → Prop} (coupled : Coupled related)
include coupled

private theorem respects_printAll (texts : List Printed) :
    (Machine.printAll texts : Action (Machine σ) Unit).Respects related :=
  fun _ _ states => ⟨rfl, coupled.print texts states⟩

theorem respects_print (printed : Printed) :
    (Machine.print printed : Action (Machine σ) Unit).Respects related :=
  coupled.respects_printAll [printed]

theorem respects_draw (host : Entropy σ) (count : Nat) (refusal : String → Stop) :
    (random (entropy host) count refusal : Action (Machine σ) Bytes).Respects related := by
  intro first second states
  have after := coupled.drawn (host.draw count second.host).2 states
  unfold random entropy
  dsimp only
  rw [coupled.host states]
  cases (host.draw count second.host).1 with
  | error reason => exact ⟨rfl, after⟩
  | ok bytes => exact ⟨rfl, after⟩

theorem working_standard (host : Entropy σ) (cost : DerivationCost) (identities : List Identity) :
    (Primitives.standard (entropy host) cost identities).Working
      (fun action => action.Respects related)
      (fun edit => edit.Respects (Edit.Alongside related)) :=
  Primitives.working_standard (inherited_respects _) (Edit.inherited_respects _)
    (coupled.respects_draw host) fun _ _ states => ⟨rfl, states⟩

/-- A run of a command shows its outcome and nothing else. -/
theorem run {arguments : List Bytes} {invocation : Invocation}
    (written : CommandLine.read arguments = .ok invocation) {first second : Machine σ}
    (outcome : (invocation.run around first).1 = (invocation.run around second).1)
    (states : related (invocation.run around first).2 (invocation.run around second).2) :
    (CommandLine.run around arguments first).1 = (CommandLine.run around arguments second).1 ∧
      related (CommandLine.run around arguments first).2
        (CommandLine.run around arguments second).2 := by
  simp only [CommandLine.run, written]
  rcases leftRun : invocation.run around first with ⟨found, left⟩
  rcases rightRun : invocation.run around second with ⟨other, right⟩
  rw [leftRun, rightRun] at outcome states
  cases outcome
  rcases found with (failure | _ | _) | _
  · exact ⟨rfl, coupled.print _ states⟩
  · exact ⟨rfl, states⟩
  · exact ⟨rfl, states⟩
  · exact ⟨rfl, states⟩

theorem refuse (refusal : CommandLine.Refusal) {first second : Machine σ}
    (states : related first second) :
    (CommandLine.refuse refusal first).1 = (CommandLine.refuse refusal second).1 ∧
      related (CommandLine.refuse refusal first).2 (CommandLine.refuse refusal second).2 := by
  cases refusal <;> exact ⟨rfl, coupled.print _ states⟩

end Machine.Coupled

end Keywarden
