import Keywarden.Proofs.Encoding.Base64
import Keywarden.Proofs.Unlocking
import Keywarden.Sandbox.Shelf

/-!
# Calls that reach the content

A call reaches the content engine exactly when it names an entry point, brings a master key of
32 bytes in base64 and, for a file, the text that names it.  Every other call is refused at the
first check that it does not pass, with the engine as it was.  What the host is told about a
failure does not depend on the particulars of the failure.
-/

namespace Keywarden

open Json (Content)

/-- The failure without the texts and numbers that tell its particulars. -/
def Failure.outline : Failure → Failure
  | .primitive context _ => .primitive context ""
  | .invalidCredentials context => .invalidCredentials context
  | .duplicateFactor _ => .duplicateFactor ""
  | .unsupportedVersion _ => .unsupportedVersion 0
  | .factorNotFound _ => .factorNotFound ""
  | .lastFactor => .lastFactor
  | .repositoryNotFound _ => .repositoryNotFound ""
  | .repositoryExists _ => .repositoryExists ""
  | .invalidInfoFile _ => .invalidInfoFile ""
  | .identity _ => .identity ""
  | .configuration _ => .configuration ""
  | .io _ => .io (.other "")
  | .serialization _ => .serialization ""
  | .command _ => .command ""
  | .cancelled => .cancelled
  | .audit _ => .audit ""

namespace Sandbox

variable {σ : Type} {entryPoint : String} {args : Content}

/-- What a call asks of the content engine. -/
inductive Request
  | file (masterKey : MasterKey) (fileId : String)
  | index (masterKey : MasterKey)

/-- The arguments hold the master key in its one spelling. -/
def BringsKey (args : Content) (masterKey : MasterKey) : Prop :=
  member? "masterKey" args = some (textValue (Base64.encode masterKey.bytes))

/-- The call is well formed and asks for something. -/
inductive Requests (entryPoint : String) (args : Content) : Request → Prop
  | file {masterKey : MasterKey} {fileId : String} (named : entryPoint = decryptRequest)
      (keyed : BringsKey args masterKey)
      (given : member? "fileId" args = some (textValue fileId)) :
      Requests entryPoint args (.file masterKey fileId)
  | index {masterKey : MasterKey} (named : entryPoint = getIndex)
      (keyed : BringsKey args masterKey) : Requests entryPoint args (.index masterKey)

/-- What is wrong with the master key among the arguments: it is no text, no base64, or the
base64 of a wrong number of bytes. -/
inductive KeyRefused (args : Content) : Failure → Prop
  | missing (absent : ∀ text, member? "masterKey" args ≠ some (textValue text)) :
      KeyRefused args (.command "missing string argument 'masterKey'")
  | garbled {text : String} (given : member? "masterKey" args = some (textValue text))
      (foreign : ∀ bytes, text ≠ Base64.encode bytes) :
      KeyRefused args (.command "masterKey is not base64")
  | misSized {bytes : Bytes}
      (given : member? "masterKey" args = some (textValue (Base64.encode bytes)))
      (size : bytes.length ≠ 32) :
      KeyRefused args (.primitive "Error unwrapping the master key"
        ("expected 32 bytes, got " ++ toString bytes.length))

/-- The first check that a call does not pass: the entry point, then the master key, then the
name of the file. -/
inductive Refused (entryPoint : String) (args : Content) : Failure → Prop
  | unknown (other : entryPoint ∉ entryPoints) :
      Refused entryPoint args (.command ("unknown entry point 'Repokey." ++ entryPoint ++ "'"))
  | key {failure : Failure} (known : entryPoint ∈ entryPoints) (refused : KeyRefused args failure) :
      Refused entryPoint args failure
  | file {masterKey : MasterKey} (named : entryPoint = decryptRequest)
      (keyed : BringsKey args masterKey)
      (absent : ∀ text, member? "fileId" args ≠ some (textValue text)) :
      Refused entryPoint args (.command "missing string argument 'fileId'")

/-- The call is refused because its master key has a wrong number of bytes. -/
def MisSized (entryPoint : String) (args : Content) : Prop :=
  entryPoint ∈ entryPoints ∧ ∃ bytes,
    member? "masterKey" args = some (textValue (Base64.encode bytes)) ∧ bytes.length ≠ 32

/-- What the engine does for a request, and what the host gets of it. -/
inductive Served (engine : Engine σ) (before : σ) :
    Request → Except HostError Content → σ → Prop
  | content {masterKey : MasterKey} {fileId text : String} {bytes : Bytes} {after : σ}
      (ran : engine.decryptFile masterKey fileId before = (.ok bytes, after))
      (decodes : Base64.decode (Bytes.ofString text) = .ok bytes) :
      Served engine before (.file masterKey fileId) (.ok (.object [("data", textValue text)])) after
  | handle {masterKey : MasterKey} {handle : UInt64} {after : σ}
      (ran : engine.openIndex masterKey before = (.ok handle, after)) :
      Served engine before (.index masterKey)
        (.ok (.object [("handle", .plain (.number (.unsigned handle.toNat)))])) after
  | noContent {masterKey : MasterKey} {fileId : String} {failure : Failure} {after : σ}
      (ran : engine.decryptFile masterKey fileId before = (.error failure, after)) :
      Served engine before (.file masterKey fileId) (.error (.of failure)) after
  | noHandle {masterKey : MasterKey} {failure : Failure} {after : σ}
      (ran : engine.openIndex masterKey before = (.error failure, after)) :
      Served engine before (.index masterKey) (.error (.of failure)) after

/-! ### The engine under observation -/

namespace Engine

def observed (engine : Engine σ) : Engine (σ × List Request) where
  decryptFile masterKey fileId := fun (engineState, requests) =>
    let (outcome, engineState) := engine.decryptFile masterKey fileId engineState
    (outcome, engineState, requests ++ [.file masterKey fileId])
  openIndex masterKey := fun (engineState, requests) =>
    let (outcome, engineState) := engine.openIndex masterKey engineState
    (outcome, engineState, requests ++ [.index masterKey])

def run (engine : Engine σ) : Request → EngineAction σ Content
  | .file masterKey fileId => answerWith dataAnswer (engine.decryptFile masterKey fileId)
  | .index masterKey => answerWith handleAnswer (engine.openIndex masterKey)

private theorem run_observed (engine : Engine σ) (request : Request) (before : σ)
    (requests : List Request) :
    engine.observed.run request (before, requests) =
      ((engine.run request before).1, (engine.run request before).2, requests ++ [request]) := by
  cases request <;> rfl

end Engine

/-! ### The arguments -/

theorem textArgument_eq_ok {name text : String} :
    textArgument args name = .ok text ↔ member? name args = some (textValue text) := by
  unfold textArgument textValue
  split
  · rename_i found
    rw [found]
    simp
  · rename_i other
    exact iff_of_false nofun fun found => other _ found

theorem textArgument_cases (args : Content) (name : String) :
    (∃ text, textArgument args name = .ok text) ∨
      (∀ text, member? name args ≠ some (textValue text)) ∧
        textArgument args name = .error (.command ("missing string argument '" ++ name ++ "'")) := by
  unfold textArgument
  split
  · exact .inl ⟨_, rfl⟩
  · rename_i other
    exact .inr ⟨fun text => other text, rfl⟩

private theorem keyArgument_eq_ok {masterKey : MasterKey} (keyed : BringsKey args masterKey) :
    keyArgument args = .ok masterKey := by
  have text := textArgument_eq_ok.mpr keyed
  simp only [keyArgument, text, bind, Except.bind, Base64.decode_encode,
    MasterKey.ofPayload_bytes]

/-- Either the arguments bring the master key that is read, or the key is refused. -/
theorem keyArgument_cases (args : Content) :
    (∃ masterKey, keyArgument args = .ok masterKey ∧ BringsKey args masterKey) ∨
      ∃ failure, keyArgument args = .error failure ∧ KeyRefused args failure := by
  rcases textArgument_cases args "masterKey" with ⟨text, found⟩ | ⟨absent, refused⟩
  · have given := textArgument_eq_ok.mp found
    cases decoded : Base64.decode (Bytes.ofString text) with
    | error fault =>
      refine .inr ⟨_, ?_, .garbled given ?_⟩
      · simp only [keyArgument, found, bind, Except.bind, decoded]
      · rintro bytes rfl
        rw [Base64.decode_encode] at decoded
        cases decoded
    | ok bytes =>
      obtain rfl := Base64.decode_eq_ok.mp decoded
      by_cases size : bytes.length = 32
      · exact .inl ⟨⟨bytes, size⟩, keyArgument_eq_ok given, given⟩
      · refine .inr ⟨_, ?_, .misSized given size⟩
        simp only [keyArgument, found, bind, Except.bind, decoded, MasterKey.ofPayload, dif_neg size]
  · refine .inr ⟨_, ?_, .missing absent⟩
    simp only [keyArgument, refused, bind, Except.bind]
    rfl

/-! ### Dispatch -/

/-- A call runs its request, or it is refused and leaves the engine as it was. -/
theorem dispatch_cases (entryPoint : String) (args : Content) :
    (∃ request, Requests entryPoint args request ∧
      ∀ {τ : Type} (engine : Engine τ), dispatch engine entryPoint args = engine.run request) ∨
    ∃ failure, Refused entryPoint args failure ∧
      ∀ {τ : Type} (engine : Engine τ) (before : τ),
        dispatch engine entryPoint args before = (.error failure, before) := by
  by_cases isFile : entryPoint = decryptRequest
  · subst isFile
    rcases keyArgument_cases args with ⟨masterKey, found, keyed⟩ | ⟨failure, refused, why⟩
    · rcases textArgument_cases args "fileId" with ⟨fileId, named⟩ | ⟨absent, refused⟩
      · refine .inl ⟨_, .file rfl keyed (textArgument_eq_ok.mp named), fun engine => ?_⟩
        funext before
        simp only [dispatch, decryptArguments, found, named, bind, Except.bind, pure, Except.pure]
        rfl
      · refine .inr ⟨_, .file rfl keyed absent, fun engine before => ?_⟩
        simp only [dispatch, decryptArguments, found, refused, bind, Except.bind]
        rfl
    · refine .inr ⟨failure, .key (by decide) why, fun engine before => ?_⟩
      simp only [dispatch, decryptArguments, refused, bind, Except.bind]
      rfl
  by_cases isIndex : entryPoint = getIndex
  · subst isIndex
    rcases keyArgument_cases args with ⟨masterKey, found, keyed⟩ | ⟨failure, refused, why⟩
    · refine .inl ⟨_, .index rfl keyed, fun engine => ?_⟩
      funext before
      simp only [dispatch, found, isFile, if_false]
      rfl
    · refine .inr ⟨failure, .key (by decide) why, fun engine before => ?_⟩
      simp only [dispatch, refused, isFile, if_false]
      rfl
  · have other : entryPoint ∉ entryPoints := by simp [entryPoints, isFile, isIndex]
    refine .inr ⟨_, .unknown other, fun engine before => ?_⟩
    simp only [dispatch, isFile, isIndex, if_false]
    rfl

/-! ### Which calls are refused -/

theorem textValue_inj {left right : String} :
    some (textValue left) = some (textValue right) ↔ left = right := by
  simp [textValue]

/-- A master key has 32 bytes, and no other byte string has its spelling. -/
theorem length_of_bringsKey {masterKey : MasterKey} {bytes : Bytes}
    (keyed : BringsKey args masterKey)
    (given : member? "masterKey" args = some (textValue (Base64.encode bytes))) :
    bytes.length = 32 := by
  have same := Base64.encode_injective (textValue_inj.mp (given.symm.trans keyed))
  rw [same, masterKey.length_eq]

theorem KeyRefused.not_bringsKey {failure : Failure} (refused : KeyRefused args failure)
    (masterKey : MasterKey) : ¬ BringsKey args masterKey := by
  intro keyed
  cases refused with
  | missing absent => exact absent _ keyed
  | garbled given foreign => exact foreign _ (textValue_inj.mp (given.symm.trans keyed))
  | misSized given size => exact size (length_of_bringsKey keyed given)

theorem Refused.not_requests {failure : Failure} (refused : Refused entryPoint args failure)
    (request : Request) : ¬ Requests entryPoint args request := by
  intro requests
  cases refused with
  | unknown other =>
    cases requests with
    | file named | index named => exact other (by simp [named, entryPoints])
  | key known refused =>
    cases requests with
    | file _ keyed | index _ keyed => exact refused.not_bringsKey _ keyed
  | file named keyed absent =>
    cases requests with
    | file _ _ given => exact absent _ given
    | index other _ => exact absurd (named.symm.trans other) (by decide)

theorem Refused.kind_eq {failure : Failure} (refused : Refused entryPoint args failure) :
    (MisSized entryPoint args → failure.kind = .primitiveFailure) ∧
      (¬ MisSized entryPoint args → failure.kind = .invalidInput) := by
  cases refused with
  | unknown other => exact ⟨fun ⟨known, _⟩ => absurd known other, fun _ => rfl⟩
  | key known refused =>
    cases refused with
    | missing absent => exact ⟨fun ⟨_, _, given, _⟩ => absurd given (absent _), fun _ => rfl⟩
    | garbled given foreign =>
      refine ⟨fun ⟨_, bytes, spelled, _⟩ => ?_, fun _ => rfl⟩
      exact absurd (textValue_inj.mp (given.symm.trans spelled)) (foreign bytes)
    | misSized given size => exact ⟨fun _ => rfl, fun other => absurd ⟨known, _, given, size⟩ other⟩
  | file named keyed absent =>
    refine ⟨fun ⟨_, bytes, given, size⟩ => ?_, fun _ => rfl⟩
    exact absurd (length_of_bringsKey keyed given) size

/-! ### Calls -/

private theorem served_run (engine : Engine σ) (request : Request) (before : σ) :
    Served engine before request ((engine.run request before).1.mapError HostError.of)
      (engine.run request before).2 := by
  cases request with
  | file masterKey fileId =>
    rcases ran : engine.decryptFile masterKey fileId before with ⟨failure | bytes, after⟩
    · simp only [Engine.run, answerWith, ran]
      exact .noContent ran
    · simp only [Engine.run, answerWith, ran]
      exact .content ran (Base64.decode_encode bytes)
  | index masterKey =>
    rcases ran : engine.openIndex masterKey before with ⟨failure | handle, after⟩
    · simp only [Engine.run, answerWith, ran]
      exact .noHandle ran
    · simp only [Engine.run, answerWith, ran]
      exact .handle ran

/-- The host is told the same of failures that differ in their particulars alone. -/
theorem HostError.of_outline (failure : Failure) : HostError.of failure.outline = .of failure := by
  cases failure <;> rfl

/-- A call that is well formed asks the engine once, for what it names, and the host gets what
the engine gave.  Every other call leaves the engine alone and is refused at the first check that
it does not pass; the kind of the refusal tells a master key of a wrong size from all else.  What
the host is told of a failure does not depend on its particulars. -/
theorem call_reaches_content (engine : Engine σ) (entryPoint : String) (args : Content)
    (before : σ) (earlier : List Request) :
    (let (result, after, requests) := call engine.observed entryPoint args (before, earlier)
    call engine entryPoint args before = (result, after) ∧
      ((∃ request, Requests entryPoint args request ∧ requests = earlier ++ [request] ∧
          Served engine before request result after) ∨
        (∀ request, ¬ Requests entryPoint args request) ∧ requests = earlier ∧ after = before ∧
          ∃ failure, Refused entryPoint args failure ∧ result = .error (.of failure) ∧
            (MisSized entryPoint args → (HostError.of failure).kind = "primitive_failure") ∧
            (¬ MisSized entryPoint args → (HostError.of failure).kind = "invalid_input"))) ∧
    ∀ first second : Failure, first.outline = second.outline →
      HostError.of first = HostError.of second := by
  refine ⟨?_, fun first second same => ?_⟩
  · obtain ⟨request, requests, runs⟩ | ⟨failure, refused, fails⟩ := dispatch_cases entryPoint args
    · have ran : call engine.observed entryPoint args (before, earlier) =
          ((engine.run request before).1.mapError HostError.of, (engine.run request before).2,
            earlier ++ [request]) := by simp only [call, runs, Engine.run_observed]
      rw [ran]
      refine ⟨?_, .inl ⟨request, requests, rfl, served_run engine request before⟩⟩
      simp only [call, runs]
    · have ran : call engine.observed entryPoint args (before, earlier) =
          (.error (.of failure), before, earlier) := by
        simp only [call, fails]
        rfl
      obtain ⟨sized, other⟩ := refused.kind_eq
      rw [ran]
      refine ⟨?_, .inr ⟨refused.not_requests, rfl, rfl, failure, refused, rfl, ?_, ?_⟩⟩
      · simp only [call, fails]
        rfl
      · exact fun misSized => congrArg FailureKind.name (sized misSized)
      · exact fun others => congrArg FailureKind.name (other others)
  · rw [← HostError.of_outline first, same, HostError.of_outline second]

/-- A shelf gives out a file for the right key; a key of eight bytes does not reach it, and no
host learns which of two wrong keys it was. -/
theorem call_reaches_shelf :
    let shelf := Shelf.engine ⟨some (Bytes.zeros 32), [("a", .ok [1, 2, 3])], none⟩
    let args (key : Bytes) : Content := .object
      [("fileId", textValue "a"), ("masterKey", textValue (Base64.encode key))]
    call shelf.observed decryptRequest (args (Bytes.zeros 32)) (5, []) =
        (.ok (.object [("data", textValue "AQID")]), 5,
          [.file ⟨Bytes.zeros 32, rfl⟩ "a"]) ∧
      call shelf.observed decryptRequest (args (Bytes.zeros 8)) (5, []) =
        (.error ⟨"primitive_failure", "Error unwrapping the master key"⟩, 5, []) ∧
      (∀ request, ¬ Requests decryptRequest (args (Bytes.zeros 8)) request) ∧
      HostError.of (.primitive "Error opening index" "wrong master key") =
        .of (.primitive "Error opening index" "no index") := by
  intro shelf args
  have served : call shelf.observed decryptRequest (args (Bytes.zeros 32)) (5, []) =
      (.ok (.object [("data", textValue "AQID")]), 5, [.file ⟨Bytes.zeros 32, rfl⟩ "a"]) := rfl
  have refused : call shelf.observed decryptRequest (args (Bytes.zeros 8)) (5, []) =
      (.error ⟨"primitive_failure", "Error unwrapping the master key"⟩, 5, []) := rfl
  obtain ⟨reached, alike⟩ := call_reaches_content shelf decryptRequest (args (Bytes.zeros 8)) 5 []
  rw [refused] at reached
  refine ⟨served, refused, ?_, alike _ _ rfl⟩
  obtain ⟨-, ⟨request, -, asked, -⟩ | ⟨none, -⟩⟩ := reached
  · cases asked
  · exact none

end Sandbox

end Keywarden
