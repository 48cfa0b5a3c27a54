import WorkerSettings.CommandLine.Arguments
import WorkerSettings.EnvFile.Load
import WorkerSettings.Layers
import WorkerSettings.Report

/-!
# Running a command

A run settles the identity, loads the environment file into the environment, puts the
settings together from it, and shows them or says that they are valid. The first failure
is reported on the error stream, and the output stream then stays empty. How the
environment file is searched for is left to the caller, when that is done is not.
-/

namespace WorkerSettings.CommandLine

/-- The name and version of the tool's package stand in an identity that is given none. -/
def packageName : String := "caf-worker-cli"

def packageVersion : String := "0.1.0"

def versionText : String := "caf-worker-config 0.1.0\n"

structure Outcome where
  exitStatus : UInt32
  output : String
  errors : String
  deriving DecidableEq

/-- What a line that asks for nothing to be run leaves behind. The texts of the help and of a
refused line are left out; only the version is printed. -/
def Refusal.outcome (refusal : Refusal) : Outcome where
  exitStatus := refusal.exitStatus
  output := if refusal = .displayVersion then versionText else ""
  errors := ""

/-- The identity that a line asks for. -/
def Invocation.identity (invocation : Invocation) : Except Fault Identity :=
  Identity.ofTexts (invocation.workerName.getD packageName)
    (invocation.workerVersion.getD packageVersion)

/-- The settings of a worker, given the environment and what the search for an environment
file has ended with. -/
def settingsFor (identity : Identity) (env : Environment) (found : EnvFile.Search) :
    Except Report Settings := do
  let (loaded, env) := (Layers.ofIdentity identity).loadEnvFile env found
  let layers ← loaded.mapError .ofFault
  let layers ← (layers.withEnvironment env).mapError .ofFault
  layers.build.mapError fun fault =>
    (Report.ofFault fault).wrap "Failed to resolve worker configuration"

/-- A text that ends with a line feed. -/
def terminated (text : String) : String :=
  if text.toList.getLast? = some '\n' then text else text ++ "\n"

def Command.output (command : Command) (settings : Settings) : String :=
  match command with
  | .render format => terminated (settings.render format)
  | .check => "Worker configuration for " ++ settings.workerName ++ " is valid\n"

def Outcome.ofReport (report : Report) : Outcome where
  exitStatus := report.exitStatus
  output := ""
  errors := "Error: " ++ report.text ++ "\n"

def Command.outcome (command : Command) (identity : Identity) (env : Environment)
    (found : EnvFile.Search) : Outcome :=
  match settingsFor identity env found with
  | .ok settings => { exitStatus := 0, output := command.output settings, errors := "" }
  | .error report => .ofReport report

section

variable {m : Type → Type} [Monad m]

/-- Run a line, where `find` searches for the environment file. There is no search before the
identity is settled, nor if environment files are switched off. -/
def runWith (invocation : Invocation) (env : Environment) (find : m EnvFile.Search) :
    m Outcome :=
  match invocation.identity with
  | .error fault => return .ofReport (.ofFault fault)
  | .ok identity => do
    let found ← if EnvFile.isDisabled env then pure (.ok none) else find
    return invocation.command.outcome identity env found

/-- Answer arguments: run the line that they form, or say why they form none. -/
def answerWith (arguments : List String) (env : Environment) (find : m EnvFile.Search) :
    m Outcome :=
  match parse arguments with
  | .error refusal => return refusal.outcome
  | .ok invocation => runWith invocation env find

end

/-- Run a line where it is known what a search ends with. -/
def run (invocation : Invocation) (env : Environment) (found : EnvFile.Search) : Outcome :=
  Id.run (runWith invocation env (pure found))

def answer (arguments : List String) (env : Environment) (found : EnvFile.Search) : Outcome :=
  Id.run (answerWith arguments env (pure found))

end WorkerSettings.CommandLine
