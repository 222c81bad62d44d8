import Keywarden.Proofs.Repository

/-!
# Histories of a repository

A history is a sequence of operations on one info file.  Every operation of it may
run with other building blocks out of one family, say with another configured cost
or other local identities, and in any state of theirs.  What a single operation
can do is said once, as a relation with a case for each kind of success; an
invariant of all histories is a property that each of these cases keeps.
-/

namespace Keywarden

open Keywarden.Action Edit Repository

variable {ι σ : Type}

/-- An operation on a repository's factors, with what its caller supplies. -/
inductive Operation (σ : Type)
  | addFactor (masterKey : MasterKey) (factor : FactorSpec) (source : PassphraseSource σ)
  | removeFactor (target : FactorId)
  | upgrade (source : PassphraseSource σ)
  | unlock (source : PassphraseSource σ)
  | unlockWith (passphrase : String)

/-- What a successful operation returns. -/
inductive Answer
  | added
  | removed (entry : KeyEntry)
  | upgraded (report : UpgradeReport)
  | unlocked (unlocked : Unlocked)

def Operation.perform (primitives : Primitives σ) : Operation σ → Edit σ Answer
  | .addFactor masterKey factor source => do
    Repository.addFactor masterKey factor primitives source
    return .added
  | .removeFactor target => do
    return .removed (← Repository.removeFactor target)
  | .upgrade source => do
    return .upgraded (← Repository.upgrade primitives source)
  | .unlock source => do
    return .unlocked (← Edit.lift (Unlocking.unlock (← Edit.info) primitives source))
  | .unlockWith passphrase => do
    return .unlocked
      (← Edit.lift (Unlocking.withPassphrase (← Edit.info) passphrase primitives))

def Operation.addedKey? : Operation σ → Option MasterKey
  | .addFactor masterKey _ _ => some masterKey
  | _ => none

/-- All that an operation can do: it stops and leaves the file alone, or it succeeds
in the way of its kind. -/
inductive Operation.Step (primitives : Primitives σ) (before : Session σ) :
    Operation σ → Except Stop Answer → InfoFile → Prop
  | stopped {operation : Operation σ} {stop : Stop} :
      Step primitives before operation (.error stop) before.info
  | added {masterKey : MasterKey} {factor : FactorSpec} {source : PassphraseSource σ}
      {entry : KeyEntry} (added : Added primitives source masterKey before factor entry) :
      Step primitives before (.addFactor masterKey factor source) (.ok .added)
        (before.info.append entry)
  | removed {target : FactorId} {index : Nat} {entry : KeyEntry}
      (found : position? before.info.keys target = some index)
      (stored : before.info.keys[index]? = some entry)
      (several : 1 < before.info.factorCount) :
      Step primitives before (.removeFactor target) (.ok (.removed entry))
        { before.info with keys := before.info.keys.eraseIdx index }
  | upgraded {source : PassphraseSource σ} {report : UpgradeReport} {edited : InfoFile}
      (upgraded : Upgraded primitives source before report edited) :
      Step primitives before (.upgrade source) (.ok (.upgraded report)) edited
  | unlocked {source : PassphraseSource σ} {unlocked : Unlocked}
      (opened : (Unlocking.unlock before.info primitives source).Yields unlocked) :
      Step primitives before (.unlock source) (.ok (.unlocked unlocked)) before.info
  | unlockedWith {passphrase : String} {unlocked : Unlocked}
      (opened : (Unlocking.withPassphrase before.info passphrase primitives).Yields
        unlocked) :
      Step primitives before (.unlockWith passphrase) (.ok (.unlocked unlocked)) before.info

namespace Operation

/-- Every operation is atomic. -/
theorem atomic_perform (primitives : Primitives σ) (operation : Operation σ) :
    (operation.perform primitives).Atomic := by
  cases operation with
  | addFactor masterKey factor source =>
    exact (atomic_addFactor primitives source masterKey factor).bind_total
      fun _ => total_pure _
  | removeFactor target =>
    exact (atomic_removeFactor target).bind_total fun _ => total_pure _
  | upgrade source =>
    exact (atomic_upgrade primitives source).bind_total fun _ => total_pure _
  | unlock source =>
    exact quiet_info.bind_atomic fun info =>
      (quiet_lift _).bind_atomic fun unlocked => (total_pure _).atomic
  | unlockWith passphrase =>
    exact quiet_info.bind_atomic fun info =>
      (quiet_lift _).bind_atomic fun unlocked => (total_pure _).atomic

private theorem step_of_returns {primitives : Primitives σ} {operation : Operation σ}
    {before after : Session σ} {answer : Answer}
    (returned : (operation.perform primitives).Returns before answer after) :
    Step primitives before operation (.ok answer) after.info := by
  cases operation with
  | addFactor masterKey factor source =>
    obtain ⟨_, added, adding, returned⟩ := returns_bind.mp returned
    obtain ⟨rfl, rfl⟩ := returns_pure.mp returned
    obtain ⟨entry, made, edited⟩ := of_returns_addFactor adding
    rw [edited]
    exact .added made
  | removeFactor target =>
    obtain ⟨entry, removed, removing, returned⟩ := returns_bind.mp returned
    obtain ⟨rfl, rfl⟩ := returns_pure.mp returned
    obtain ⟨index, found, stored, several, rfl⟩ := returns_removeFactor.mp removing
    exact .removed found stored several
  | upgrade source =>
    obtain ⟨report, upgraded, upgrading, returned⟩ := returns_bind.mp returned
    obtain ⟨rfl, rfl⟩ := returns_pure.mp returned
    exact .upgraded (of_returns_upgrade upgrading)
  | unlock source =>
    simp only [perform, returns_bind, returns_info, returns_lift, returns_pure] at returned
    obtain ⟨_, _, ⟨rfl, rfl⟩, unlocked, _, ⟨host, unlocking, rfl⟩, rfl, rfl⟩ := returned
    exact .unlocked unlocking.yields
  | unlockWith passphrase =>
    simp only [perform, returns_bind, returns_info, returns_lift, returns_pure] at returned
    obtain ⟨_, _, ⟨rfl, rfl⟩, unlocked, _, ⟨host, unlocking, rfl⟩, rfl, rfl⟩ := returned
    exact .unlockedWith unlocking.yields

end Operation

/-- One operation of a history: the setting that picks the building blocks, and the
state in which they are when it begins. -/
structure Move (ι σ : Type) where
  setting : ι
  operation : Operation σ
  host : σ

namespace Move

variable (blocks : ι → Primitives σ)

def answer (move : Move ι σ) (info : InfoFile) : Except Stop Answer :=
  (move.operation.perform (blocks move.setting) ⟨info, move.host⟩).1

/-- The info file after the operation, whether it succeeds or stops. -/
def after (move : Move ι σ) (info : InfoFile) : InfoFile :=
  (move.operation.perform (blocks move.setting) ⟨info, move.host⟩).2.info

/-- Every move does one of the things that its operation can do. -/
theorem step (move : Move ι σ) (info : InfoFile) :
    Operation.Step (blocks move.setting) ⟨info, move.host⟩ move.operation
      (move.answer blocks info) (move.after blocks info) := by
  unfold answer after
  rcases returns_or_stops (move.operation.perform (blocks move.setting))
    ⟨info, move.host⟩ with ⟨answer, after, returned⟩ | ⟨stop, after, stopped⟩
  · have step := Operation.step_of_returns returned
    rw [returned]
    exact step
  · have unchanged := Operation.atomic_perform _ _ _ _ _ stopped
    rw [stopped]
    simp only [unchanged]
    exact .stopped

end Move

/-- The info file after a history, which may hold failed operations. -/
def historyEnd (blocks : ι → Primitives σ) (moves : List (Move ι σ)) (info : InfoFile) :
    InfoFile :=
  moves.foldl (fun info move => move.after blocks info) info

/-- What a factor was added with. -/
inductive Credential
  | passphrase (passphrase : String)
  | recipient (id : String)
deriving DecidableEq

/-- The credentials of a repository: one for each entry in order, and the legacy
passphrase where there is one. -/
structure Credentials where
  entries : List Credential
  legacy : Option String

/-- The credential of a factor to be added: its recipient, or the passphrase that the
source gives in some state. -/
def Credential.given? (source : PassphraseSource σ) (host : σ) :
    FactorSpec → Option Credential
  | .recipient id => some (.recipient id)
  | .passphrase =>
    match (source.acquire host).1 with
    | .ok acquired => some (.passphrase acquired)
    | .error _ => none

/-- How the history of a master key begins: the key material is created with a first
factor, or a file of version 1 has a legacy passphrase and no entries. -/
inductive Begins (blocks : ι → Primitives σ) (masterKey : MasterKey) :
    InfoFile → Credentials → Prop
  | created {setting : ι} {first : FactorSpec} {source : PassphraseSource σ} {host final : σ}
      {info : InfoFile}
      (created : (create first (blocks setting) source).Returns host (masterKey, info)
        final) :
      Begins blocks masterKey info
        ⟨(Credential.given? source ((blocks setting).generateMasterKey host).2
          first).toList, none⟩
  | legacy {setting : ι} {passphrase : String} {info : InfoFile} {legacy : LegacyPassphrase}
      (oldest : info.version = 1) (noEntries : info.keys = [])
      (stored : info.legacyPassphrase? = some legacy)
      (derived : Unlocking.Derives (blocks setting) (Bytes.ofString passphrase) legacy
        masterKey) :
      Begins blocks masterKey info ⟨[], some passphrase⟩

/-- What every operation keeps holds after every history. -/
theorem historyEnd_induction {blocks : ι → Primitives σ} {Holds : InfoFile → Prop}
    (keeps : ∀ (move : Move ι σ) info, Holds info → Holds (move.after blocks info))
    (moves : List (Move ι σ)) {info : InfoFile} (start : Holds info) :
    Holds (historyEnd blocks moves info) := by
  induction moves generalizing info with
  | nil => exact start
  | cons move rest ih => exact ih (keeps move info start)

end Keywarden
