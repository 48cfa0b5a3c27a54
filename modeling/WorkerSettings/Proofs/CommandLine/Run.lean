import WorkerSettings.CommandLine.Run
import WorkerSettings.Proofs.EnvFile.Loading
import WorkerSettings.Proofs.Settings.Json

/-!
# What a command leaves behind

A line that asks for a command goes through the identity, the environment file and the
settings, and every one of them may fail. Whichever does, the outcome is the same but for
the text on the error stream: the exit status is two and nothing is printed. If none does,
the command prints its settings and the exit status is zero, so the status never depends
on the command.
-/

namespace WorkerSettings

namespace CommandLine

/-- Without an identity there is no search, whatever it would do. -/
theorem runWith_of_fault {m : Type → Type} [Monad m] {invocation : Invocation} {fault : Fault}
    (failed : invocation.identity = .error fault) (env : Environment)
    (find : m EnvFile.Search) :
    runWith invocation env find = pure (.ofReport (.ofFault fault)) := by
  rw [runWith, failed]

/-- A search that is not carried out makes no difference to a run. -/
theorem run_of_identity {invocation : Invocation} {identity : Identity}
    (settled : invocation.identity = .ok identity) (env : Environment)
    (found : EnvFile.Search) :
    run invocation env found = invocation.command.outcome identity env found := by
  rw [run, runWith, settled]
  by_cases disabled : EnvFile.isDisabled env = true
  · have same : invocation.command.outcome identity env (.ok none) =
        invocation.command.outcome identity env found := by
      simp only [Command.outcome, settingsFor, Layers.loadEnvFile_disabled _ disabled]
    simp [disabled, same]
  · simp [disabled]

theorem answer_of_parse {arguments : List String} {invocation : Invocation}
    (parsed : parse arguments = .ok invocation) (env : Environment) (found : EnvFile.Search) :
    answer arguments env found = run invocation env found := by
  rw [answer, answerWith, parsed]
  rfl

theorem answerWith_pure {m : Type → Type} [Monad m] [LawfulMonad m] (arguments : List String)
    (env : Environment) (found : EnvFile.Search) :
    answerWith arguments env (pure found : m EnvFile.Search) =
      pure (answer arguments env found) := by
  rw [answer, answerWith, answerWith]
  cases parse arguments with
  | error refusal => rfl
  | ok invocation =>
    simp only [runWith]
    cases invocation.identity with
    | error fault => rfl
    | ok identity => cases EnvFile.isDisabled env <;> simp

/-- A tool whose looks at the disk say what a tree holds answers as it is said to for the tree. -/
theorem answerWith_search {m : Type → Type} [Monad m] [LawfulMonad m] {tree : FileTree}
    {directory : Path} {look : Path → ExceptT FileFailure m (Option ByteArray)}
    (here : tree.directory = some directory)
    (agree : ∀ above, (look above).run = pure (tree.envFileIn? above)) (arguments : List String)
    (env : Environment) :
    answerWith arguments env (EnvFile.search look directory).run =
      pure (answer arguments env tree.envFile?) := by
  rw [EnvFile.search_run agree, answerWith_pure, FileTree.envFile?, here]

end CommandLine

end WorkerSettings
