import WorkerSettings.Variables

/-!
# Faults

What can be wrong with a configuration, by cause. Every fault is final: nothing here is
worth a second try. The wording is one function of the cause, and a fault of the
environment file names a position or a kind and never quotes the file.
-/

namespace WorkerSettings

inductive IdentityField
  | name
  | version
  deriving DecidableEq

def IdentityField.label : IdentityField → String
  | .name => "workerName"
  | .version => "workerVersion"

/-- Why a file that may be there cannot be looked at or read. That nothing is there is no
failure. -/
inductive FileFailure
  | permissionDenied
  | notADirectory
  | isADirectory
  | filesystemLoop
  | invalidFilename
  | invalidInput
  | interrupted
  | timedOut
  | outOfMemory
  | staleHandle
  | invalidData
  | uncategorized
  deriving DecidableEq

def FileFailure.text : FileFailure → String
  | .permissionDenied => "permission denied"
  | .notADirectory => "not a directory"
  | .isADirectory => "is a directory"
  | .filesystemLoop => "filesystem loop or indirection limit (e.g. symlink loop)"
  | .invalidFilename => "invalid filename"
  | .invalidInput => "invalid input parameter"
  | .interrupted => "operation interrupted"
  | .timedOut => "timed out"
  | .outOfMemory => "out of memory"
  | .staleHandle => "stale network file handle"
  | .invalidData => "invalid data"
  | .uncategorized => "uncategorized error"

inductive Fault
  /-- A text of the identity is blank or still holds a placeholder. -/
  | missingDefault (field : IdentityField)
  /-- The value of a variable is no count of the width that it needs. -/
  | invalidNumber (variableName : String) (value : String)
  /-- The output queue is the empty text. -/
  | emptyOutputQueue
  /-- The number of threads is out of range. -/
  | invalidThreads (threads : UInt32)
  /-- The environment file is malformed at a position. -/
  | envFileMalformed (position : Nat)
  /-- The environment file cannot be looked at or read, or a line of it is not UTF-8. -/
  | envFileUnreadable (failure : FileFailure)
  /-- No configuration object of a kind is registered. -/
  | notFound (kind : String)
  /-- A configuration object of a kind is registered already. -/
  | duplicate (kind : String)
  deriving DecidableEq

def Fault.message : Fault → String
  | .missingDefault field =>
    "Missing required default for " ++ field.label ++
      ": the value was not substituted at build time"
  | .invalidNumber variableName value =>
    "Invalid value for " ++ variableName ++ ": '" ++ value ++
      "' is not a valid non-negative integer"
  | .emptyOutputQueue => "Output queue must not be empty"
  | .invalidThreads threads =>
    "Invalid value for " ++ Variables.threads ++ ": must be between " ++
      Nat.repr Defaults.minThreads.toNat ++ " and " ++ Nat.repr Defaults.maxThreads.toNat ++
      " (got " ++ Nat.repr threads.toNat ++ ")"
  | .envFileMalformed position =>
    "Failed to parse .env file at position " ++ Nat.repr position ++
      ". Hint: set DOTENV_DISABLED=1 to skip .env loading"
  | .envFileUnreadable failure => "Failed to read .env file: " ++ failure.text
  | .notFound kind => "Could not find configuration of type " ++ kind
  | .duplicate kind => "Configuration for " ++ kind ++ " already set"

end WorkerSettings
