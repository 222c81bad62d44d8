import Keywarden.Encoding.Base64
import Keywarden.Json.Shape
import Keywarden.Key.Material

/-!
# Entry points for a sandbox host

A host reaches a repository's content through two named entry points.  Arguments and
answers are JSON values; a master key travels in base64 with every call.
-/

namespace Keywarden.Sandbox

open Json (Content Head)

/-- The name under which the entry points are exposed. -/
def namespaceName : String := "Repokey"

def decryptRequest : String := "decryptRequest"

def getIndex : String := "getIndex"

def entryPoints : List String :=
  [decryptRequest, getIndex]

/-- An action of the content engine; it fails or yields a value. -/
abbrev EngineAction (σ α : Type) := σ → Except Failure α × σ

/-- The engine that holds the content. -/
structure Engine (σ : Type) where
  /-- The plain bytes of a file. -/
  decryptFile : MasterKey → (fileId : String) → EngineAction σ Bytes
  /-- A handle to the opened index. -/
  openIndex : MasterKey → EngineAction σ UInt64

/-- What a host is told about a failure: no diagnostic detail. -/
structure HostError where
  kind : String
  message : String
deriving DecidableEq

def HostError.of (failure : Failure) : HostError :=
  ⟨failure.kind.name, failure.userMessage⟩

/-- A member of an object; the last one of a name counts. -/
def member? (name : String) : Content → Option Content
  | .object members => members.reverse.lookup name
  | _ => none

def textArgument (args : Content) (name : String) : Except Failure String :=
  match member? name args with
  | some (.plain (.string text)) => .ok text
  | _ => .error (.command ("missing string argument '" ++ name ++ "'"))

def keyArgument (args : Content) : Except Failure MasterKey := do
  let encoded ← textArgument args "masterKey"
  match Base64.decode (Bytes.ofString encoded) with
  | .ok bytes => MasterKey.ofPayload bytes
  | .error _ => .error (.command "masterKey is not base64")

def textValue (text : String) : Content :=
  .plain (.string text)

def dataAnswer (bytes : Bytes) : Content :=
  .object [("data", textValue (Base64.encode bytes))]

def handleAnswer (handle : UInt64) : Content :=
  .object [("handle", .plain (.number (.unsigned handle.toNat)))]

variable {σ : Type}

def withEngine {α : Type} (checked : Except Failure α) (run : α → EngineAction σ Content) :
    EngineAction σ Content := fun engineState =>
  match checked with
  | .ok value => run value engineState
  | .error failure => (.error failure, engineState)

def answerWith {α : Type} (answer : α → Content) (action : EngineAction σ α) :
    EngineAction σ Content := fun engineState =>
  let (outcome, engineState) := action engineState
  (outcome.map answer, engineState)

/-- The arguments of the first entry point. -/
def decryptArguments (args : Content) : Except Failure (MasterKey × String) := do
  let masterKey ← keyArgument args
  let fileId ← textArgument args "fileId"
  return (masterKey, fileId)

def dispatch (engine : Engine σ) (entryPoint : String) (args : Content) :
    EngineAction σ Content :=
  if entryPoint = decryptRequest then
    withEngine (decryptArguments args) fun (masterKey, fileId) =>
      answerWith dataAnswer (engine.decryptFile masterKey fileId)
  else if entryPoint = getIndex then
    withEngine (keyArgument args) fun masterKey =>
      answerWith handleAnswer (engine.openIndex masterKey)
  else
    fun engineState =>
      (.error (.command ("unknown entry point '" ++ namespaceName ++ "." ++ entryPoint ++ "'")),
        engineState)

def call (engine : Engine σ) (entryPoint : String) (args : Content) (engineState : σ) :
    Except HostError Content × σ :=
  let (outcome, engineState) := dispatch engine entryPoint args engineState
  (outcome.mapError HostError.of, engineState)

end Keywarden.Sandbox
