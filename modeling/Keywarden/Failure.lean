/-!
# Failures

Everything that an operation on a repository's keys can report.  A failure is a
cause; its classification, its diagnostic text and the short line shown to
people are functions of the cause, and none of them holds key material.
-/

namespace Keywarden

/-- How callers classify failures when they choose between retrying and giving
up. -/
inductive FailureKind
  | primitiveFailure
  | invalidCredentials
  | duplicateFactor
  | unsupportedVersion
  | cancelled
  | invalidInput
  | storage
deriving DecidableEq, Repr

/-- The name of a classification in records handed to a host. -/
def FailureKind.name : FailureKind → String
  | .primitiveFailure => "primitive_failure"
  | .invalidCredentials => "invalid_credentials"
  | .duplicateFactor => "duplicate_factor"
  | .unsupportedVersion => "unsupported_version"
  | .cancelled => "cancelled"
  | .invalidInput => "invalid_input"
  | .storage => "storage"

/-- Why the file system refused a request. -/
inductive FileFault
  | notFound
  | alreadyExists
  | notADirectory
  | isADirectory
  /-- The place has to stay what it is. -/
  | busy
  /-- A name or a path is longer than any can be. -/
  | nameTooLong
  /-- A path holds the character that ends texts. -/
  | unusablePath
  | accessDenied
  | invalidData
  | other (text : String)
deriving DecidableEq, Repr

namespace FileFault

/-- The fault in words, with the system's error number where it has one. -/
def text : FileFault → String
  | .notFound => "No such file or directory (os error 2)"
  | .alreadyExists => "File exists (os error 17)"
  | .notADirectory => "Not a directory (os error 20)"
  | .isADirectory => "Is a directory (os error 21)"
  | .busy => "Device or resource busy (os error 16)"
  | .nameTooLong => "File name too long (os error 36)"
  | .unusablePath => "file name contained an unexpected NUL byte"
  | .accessDenied => "Permission denied (os error 13)"
  | .invalidData => "stream did not contain valid UTF-8"
  | .other text => text

end FileFault

/-- A failed operation, by cause. -/
inductive Failure
  /-- A cryptographic building block failed. -/
  | primitive (context detail : String)
  /-- Nothing that was supplied unlocks the repository. -/
  | invalidCredentials (context : String)
  /-- The factor to be added unlocks the repository already. -/
  | duplicateFactor (text : String)
  /-- There is no way forward from this format version. -/
  | unsupportedVersion (version : Int32)
  /-- No factor answers to the name. -/
  | factorNotFound (name : String)
  /-- The only factor was to be removed. -/
  | lastFactor
  | repositoryNotFound (path : String)
  | repositoryExists (path : String)
  | invalidInfoFile (reason : String)
  | identity (reason : String)
  | configuration (reason : String)
  | io (fault : FileFault)
  | serialization (reason : String)
  | command (reason : String)
  /-- Interactive input was broken off. -/
  | cancelled
  | audit (reason : String)
deriving DecidableEq, Repr

namespace Failure

def kind : Failure → FailureKind
  | .primitive .. => .primitiveFailure
  | .invalidCredentials _ => .invalidCredentials
  | .duplicateFactor _ => .duplicateFactor
  | .unsupportedVersion _ => .unsupportedVersion
  | .cancelled => .cancelled
  | .factorNotFound _ | .lastFactor | .invalidInfoFile _ | .configuration _ | .command _
  | .identity _ => .invalidInput
  | .repositoryNotFound _ | .repositoryExists _ | .io _ | .serialization _ | .audit _ =>
    .storage

def message : Failure → String
  | .primitive context detail => context ++ ": " ++ detail
  | .invalidCredentials context => context ++ ": no unlock factor matched"
  | .duplicateFactor text => text
  | .unsupportedVersion version =>
    "repository version " ++ toString version.toInt ++ " cannot be upgraded"
  | .factorNotFound name => "No unlock factor matches '" ++ name ++ "'"
  | .lastFactor => "Refusing to remove the only unlock factor of the repository"
  | .repositoryNotFound path => "Repository not found at " ++ path
  | .repositoryExists path => "Repository already exists at " ++ path
  | .invalidInfoFile reason => "Invalid info file: " ++ reason
  | .identity reason => "Identity error: " ++ reason
  | .configuration reason => "Config file error: " ++ reason
  | .io fault => "IO error: " ++ fault.text
  | .serialization reason => "Serialization error: " ++ reason
  | .command reason => "Command failed: " ++ reason
  | .cancelled => "User cancelled operation"
  | .audit reason => "Audit error: " ++ reason

/-- The short line shown to people, free of diagnostic detail. -/
def userMessage : Failure → String
  | .primitive context _ => context
  | .invalidCredentials context => context
  | .duplicateFactor _ => "Key already added"
  | .unsupportedVersion _ => "Unsupported repository version"
  | .cancelled => "Operation cancelled"
  | .factorNotFound _ => "Key not found"
  | .lastFactor => "Cannot remove the last key"
  | .repositoryNotFound _ => "Repository not found"
  | .repositoryExists _ => "Repository already exists"
  | .invalidInfoFile _ => "Repository metadata is invalid"
  | .identity _ => "Identity error"
  | .configuration _ => "Configuration error"
  | .io _ => "I/O error"
  | .serialization _ => "Error serializing repository metadata"
  | .command _ => "Command failed"
  | .audit _ => "Audit log error"

end Failure

end Keywarden
