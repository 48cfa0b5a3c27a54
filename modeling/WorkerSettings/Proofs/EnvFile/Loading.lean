import WorkerSettings.Proofs.EnvFile.Progress
import WorkerSettings.Proofs.FileTree

/-!
# Layers and the environment file

Layers load the nearest environment file of a tree, unless that is switched off. What that
does to the environment is what a load line by line does, also where the file turns out to
be wrong; to the layers it does nothing.
-/

namespace WorkerSettings

theorem EnvFile.isDisabled_iff {env : Environment} :
    isDisabled env = true ↔ env.text? Variables.envFileDisabled = some "true" ∨
      env.text? Variables.envFileDisabled = some "1" := by
  simp [isDisabled]

theorem EnvFile.isDisabled_eq_false_iff {env : Environment} :
    isDisabled env = false ↔ env.text? Variables.envFileDisabled ≠ some "true" ∧
      env.text? Variables.envFileDisabled ≠ some "1" := by
  rw [Bool.eq_false_iff, ne_eq, isDisabled_iff, not_or]

theorem EnvFile.Ending.verdict_eq_ok_iff {ending : Ending} :
    ending.verdict = .ok () ↔ ending = .complete := by
  cases ending <;> simp [verdict]

namespace Layers

theorem loadEnvFile_disabled (layers : Layers) {env : Environment}
    (disabled : EnvFile.isDisabled env = true) (found : EnvFile.Search) :
    layers.loadEnvFile env found = (.ok layers, env) := by
  simp [loadEnvFile, EnvFile.load, disabled, Except.map]

theorem loadEnvFile_none (layers : Layers) (env : Environment) :
    layers.loadEnvFile env (.ok none) = (.ok layers, env) := by
  simp [loadEnvFile, EnvFile.load, Except.map]

theorem loadEnvFile_error (layers : Layers) {env : Environment}
    (enabled : EnvFile.isDisabled env = false) (failure : FileFailure) :
    layers.loadEnvFile env (.error failure) = (.error (.envFileUnreadable failure), env) := by
  simp [loadEnvFile, EnvFile.load, enabled, Except.map]

theorem loadEnvFile_some (layers : Layers) {env : Environment}
    (enabled : EnvFile.isDisabled env = false) (contents : ByteArray) :
    layers.loadEnvFile env (.ok (some contents)) =
      ((EnvFile.Progress.ofFile env contents).2.verdict.map fun () => layers,
        (EnvFile.Progress.ofFile env contents).1.environment) := by
  rw [loadEnvFile, EnvFile.load_some enabled]

/-- Loading the nearest environment file does nothing if it is switched off or there is none.
Otherwise the first assignment wins among those before the first error, and nothing that had
a text is changed. The load fails exactly if the file has an error, and layers that it gives
back are those that it was given. Where the file cannot be found or read, the load fails with the
kind of that failure and leaves the environment as it is. -/
theorem loadEnvFile_effect (layers : Layers) (env : Environment) (tree : FileTree) :
    (env.text? Variables.envFileDisabled = some "true" ∨
        env.text? Variables.envFileDisabled = some "1" ∨ tree.HasNoEnvFile →
      layers.loadEnvFile env tree.envFile? = (.ok layers, env)) ∧
    (∀ contents, env.text? Variables.envFileDisabled ≠ some "true" →
      env.text? Variables.envFileDisabled ≠ some "1" → tree.NearestEnvFile contents →
      EnvFile.FirstWins env (EnvFile.Progress.ofFile env contents).1.assigned
          (layers.loadEnvFile env tree.envFile?).2 ∧
        ((∃ fault, (layers.loadEnvFile env tree.envFile?).1 = .error fault) ↔
          (EnvFile.Progress.ofFile env contents).2 ≠ .complete) ∧
        ∀ loaded, (layers.loadEnvFile env tree.envFile?).1 = .ok loaded →
          loaded = layers ∧ loaded.build = layers.build) ∧
    ∀ failure, env.text? Variables.envFileDisabled ≠ some "true" →
      env.text? Variables.envFileDisabled ≠ some "1" → tree.FailsAtEnvFile failure →
      layers.loadEnvFile env tree.envFile? = (.error (.envFileUnreadable failure), env) := by
  refine ⟨?_, ?_, ?_⟩
  · rintro (word | one | none)
    · exact layers.loadEnvFile_disabled (EnvFile.isDisabled_iff.mpr (.inl word)) _
    · exact layers.loadEnvFile_disabled (EnvFile.isDisabled_iff.mpr (.inr one)) _
    · rw [FileTree.envFile?_eq_none_iff.mpr none]
      exact layers.loadEnvFile_none env
  · intro contents word one nearest
    have enabled := EnvFile.isDisabled_eq_false_iff.mpr ⟨word, one⟩
    rw [FileTree.envFile?_eq_some_iff.mpr nearest, layers.loadEnvFile_some enabled]
    refine ⟨EnvFile.Progress.firstWins_ofFile env contents, ?_, ?_⟩
    · rw [ne_eq, ← EnvFile.Ending.verdict_eq_ok_iff]
      cases (EnvFile.Progress.ofFile env contents).2.verdict with
      | ok => simp [Except.map]
      | error fault => simp [Except.map]
    · intro loaded
      cases (EnvFile.Progress.ofFile env contents).2.verdict with
      | ok =>
        intro same
        cases same
        exact ⟨rfl, rfl⟩
      | error fault =>
        intro failed
        cases failed
  · intro failure word one fails
    rw [FileTree.envFile?_eq_error_iff.mpr fails]
    exact layers.loadEnvFile_error (EnvFile.isDisabled_eq_false_iff.mpr ⟨word, one⟩) failure

/-- A file that assigns a variable twice, refers to it and ends in a line without a name. -/
def flawedFile : ByteArray :=
  "A=1\nB=$A\nA=2\nC=3\n=".toUTF8

def treeAbove : FileTree :=
  ((FileTree.empty.write [".env"] flawedFile).makeDirectory ["sub"]).enter (some ["sub"])

/-- The same tree with a working directory in which nothing can be looked at. -/
def barredTree : FileTree :=
  treeAbove.put ["sub"] (.barred .permissionDenied)

/-- An environment with a value that is no text and with an empty one. -/
def mixedEnvironment : Environment where
  entries := [("B", ⟨#[0xFF]⟩), ("C", ⟨#[]⟩)]

def bareLayers : Layers :=
  .ofIdentity { name := "w", version := "1", name_filled := rfl, version_filled := rfl }

theorem loadEnvFile_effect_flawed :
    let result := bareLayers.loadEnvFile mixedEnvironment treeAbove.envFile?
    (∃ fault, result.1 = .error fault) ∧ result.2.value? "A" = some "1".toUTF8 ∧
      result.2.value? "B" = some "1".toUTF8 ∧ result.2.value? "C" = some ⟨#[]⟩ ∧
      bareLayers.loadEnvFile ⟨[("DOTENV_DISABLED", "1".toUTF8)]⟩ treeAbove.envFile? =
        (.ok bareLayers, ⟨[("DOTENV_DISABLED", "1".toUTF8)]⟩) ∧
      bareLayers.loadEnvFile mixedEnvironment barredTree.envFile? =
        (.error (.envFileUnreadable .permissionDenied), mixedEnvironment) := by
  have nearest : treeAbove.NearestEnvFile flawedFile := FileTree.envFile?_eq_some_iff.mp rfl
  obtain ⟨wins, fails, _⟩ := (loadEnvFile_effect bareLayers mixedEnvironment treeAbove).2.1
    flawedFile (by decide) (by decide) nearest
  have noTextA : ¬ mixedEnvironment.HasText "A" := by
    rintro ⟨text, has⟩
    cases has
  have noTextB : ¬ mixedEnvironment.HasText "B" := by
    rintro ⟨text, has⟩
    have none : (mixedEnvironment.value? "B").bind String.fromUTF8? = none := by rfl
    rw [none] at has
    cases has
  refine ⟨fails.mpr (by decide +kernel), wins.first "A" "1" noTextA (by rfl),
    wins.first "B" "1" noTextB (by rfl), wins.kept "C" ⟨"", by rfl⟩, ?_, ?_⟩
  · exact (loadEnvFile_effect bareLayers _ treeAbove).1 (.inr (.inl (by rfl)))
  · have barred : barredTree.FailsAtEnvFile .permissionDenied :=
      FileTree.envFile?_eq_error_iff.mp rfl
    exact (loadEnvFile_effect bareLayers mixedEnvironment barredTree).2.2 .permissionDenied
      (by decide) (by decide) barred

end Layers

end WorkerSettings
