import WorkerSettings.CommandLine.Run

/-!
# The command line tool

Answers the arguments with the environment of the process and a search on the disk, and writes
what the answer leaves behind. A search that fails is part of what is answered, as is one that
finds nothing.
-/

namespace WorkerSettings.CommandLine

def processEnvironment : IO Environment := do
  return .ofBlock (← IO.FS.readBinFile "/proc/self/environ")

/-- What an error has as the number of an error of the operating system; zero if nothing. -/
def osCode : IO.Error → UInt32
  | .alreadyExists _ code _ | .otherError code _ | .resourceBusy code _
  | .resourceVanished code _ | .unsupportedOperation code _ | .hardwareFault code _
  | .unsatisfiedConstraints code _ | .illegalOperation code _ | .protocolError code _
  | .timeExpired code _ | .interrupted _ code _ | .noFileOrDirectory _ code _
  | .invalidArgument _ code _ | .permissionDenied _ code _ | .resourceExhausted _ code _
  | .inappropriateType _ code _ | .noSuchThing _ code _ => code
  | .unexpectedEof | .userError _ => 0

/-- The number itself: some accesses give it with the sign turned. -/
def errorNumber (error : IO.Error) : UInt32 :=
  if osCode error < 0x80000000 then osCode error else 0 - osCode error

/-- The kind of an error, by its number on Linux; none if nothing is there. -/
def failure? (error : IO.Error) : Option FileFailure :=
  match errorNumber error with
  | 2 => none
  | 1 | 13 => some .permissionDenied
  | 4 => some .interrupted
  | 12 => some .outOfMemory
  | 20 => some .notADirectory
  | 21 => some .isADirectory
  | 22 => some .invalidInput
  | 36 => some .invalidFilename
  | 40 => some .filesystemLoop
  | 110 => some .timedOut
  | 116 => some .staleHandle
  | _ => some .uncategorized

/-- What an access that has failed ends a look with: no file, if nothing is there. -/
def failed (error : IO.Error) : EnvFile.Search :=
  match failure? error with
  | some failure => .error failure
  | none => .ok none

/-- Look for the regular file `.env` in a directory and read it. -/
def lookOnDisk (directory : Path) : ExceptT FileFailure BaseIO (Option ByteArray) :=
  let entry : IO.FS.DirEntry := {
    root := "/" ++ "/".intercalate directory
    fileName := EnvFile.fileName }
  let access : IO (Option ByteArray) := do
    if (← entry.path.metadata).type == .file then
      some <$> IO.FS.readBinFile entry.path
    else
      return none
  ExceptT.mk do
    match ← access.toBaseIO with
    | .ok contents? => return .ok contents?
    | .error error => return failed error

/-- Search for the environment file from the working directory upward. -/
def searchOnDisk : BaseIO EnvFile.Search := do
  match ← IO.currentDir.toBaseIO with
  | .ok directory =>
    (EnvFile.search lookOnDisk (directory.components.filter (· != ""))).run
  -- That the working directory has been removed is an error without a number.
  | .error (.userError _) => return .ok none
  | .error error => return failed error

def execute (arguments : List String) : IO UInt32 := do
  let outcome ← answerWith arguments (← processEnvironment) (searchOnDisk : IO EnvFile.Search)
  IO.print outcome.output
  IO.eprint outcome.errors
  return outcome.exitStatus

end WorkerSettings.CommandLine

def main (arguments : List String) : IO UInt32 :=
  WorkerSettings.CommandLine.execute arguments
