import WorkerSettings.Environment
import WorkerSettings.EnvFile.Document
import WorkerSettings.EnvFile.Search

/-!
# Loading an environment file

The assignments of a file are carried out one by one. A variable that has a text keeps it,
an empty one too, so the first assignment to a variable decides; references see the
variables as they are by then. A file that is wrong somewhere has still set what comes
before that place; one that cannot be found or read has set nothing.
-/

namespace WorkerSettings.EnvFile

def assign (env : Environment) (assignment : Assignment) : Environment :=
  match env.text? assignment.name with
  | some _ => env
  | none => env.set assignment.name (assignment.value.expand env.text?).toUTF8

def Document.apply (document : Document) (env : Environment) : Environment :=
  document.assignments.foldl assign env

def Ending.verdict : Ending → Except Fault Unit
  | .complete => .ok ()
  | .malformed position => .error (.envFileMalformed position)
  | .notText => .error (.envFileUnreadable .invalidData)

def isDisabled (env : Environment) : Bool :=
  env.text? Variables.envFileDisabled == some "true" ||
    env.text? Variables.envFileDisabled == some "1"

/-- Load what a search has ended with: the verdict and the environment after it. -/
def load (env : Environment) (found : Search) : Except Fault Unit × Environment :=
  if isDisabled env then
    (.ok (), env)
  else
    match found with
    | .error failure => (.error (.envFileUnreadable failure), env)
    | .ok none => (.ok (), env)
    | .ok (some contents) =>
      let document := Document.ofBytes contents
      (document.ending.verdict, document.apply env)

end WorkerSettings.EnvFile
