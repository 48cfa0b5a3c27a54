import WorkerSettings.Proofs.EnvFile.InPlace
import WorkerSettings.Proofs.EnvFile.Loading

/-!
# Two loads of one file

Where the same file is loaded twice, into two environments or one time after the other, both
loads read the same names and end in the same way: an environment has a part in the values only.
So the verdict on a file tells nothing about the environment. And a second load finds that every
name has a text already and changes nothing, unless the file itself has switched environment
files off, and then it does not look at the file.
-/

namespace WorkerSettings

namespace EnvFile

/-- An assignment to a variable that has a text changes nothing. -/
theorem assign_of_text {env : Environment} {assignment : Assignment}
    (settled : (env.text? assignment.name).isSome = true) : assign env assignment = env := by
  obtain ⟨text, found⟩ := Option.isSome_iff_exists.mp settled
  simp only [assign, found]

theorem Document.apply_of_text {document : Document} {env : Environment}
    (settled : ∀ assignment ∈ document.assignments, (env.text? assignment.name).isSome = true) :
    document.apply env = env := by
  obtain ⟨assignments, ending⟩ := document
  rw [Document.apply]
  induction assignments with
  | nil => rfl
  | cons assignment assignments ih =>
    obtain ⟨first, others⟩ := List.forall_mem_cons.mp settled
    rw [List.foldl_cons, assign_of_text first]
    exact ih others

namespace Progress

/-- After a load every name that the file assigns has a text, also where a load stops at an
error. -/
theorem isSome_text?_ofFile (env : Environment) (contents : ByteArray) :
    ∀ assignment ∈ (Document.ofBytes contents).assignments,
      ((ofFile env contents).1.environment.text? assignment.name).isSome = true := by
  intro assignment member
  have sound := sound_ofFile env contents
  have named : assignment.name ∈ (ofFile env contents).1.assigned.map Prod.fst := by
    rw [names_ofFile]
    exact List.mem_map_of_mem member
  obtain ⟨pair, yielded, name⟩ := List.mem_map.mp named
  obtain ⟨value, first⟩ := Option.isSome_iff_exists.mp
    (List.lookup_isSome_iff.mpr ⟨pair, yielded, beq_self_eq_true pair.1⟩)
  rw [← name, ← Environment.hasText_iff (sound.plain pair yielded)]
  exact sound.wins.hasText first

/-- A second load ends with the environment that the first one has left. -/
theorem ofFile_ofFile (env : Environment) (contents : ByteArray) :
    (ofFile (ofFile env contents).1.environment contents).1.environment =
      (ofFile env contents).1.environment := by
  rw [(ofFile_document _ contents).1]
  exact Document.apply_of_text (isSome_text?_ofFile env contents)

/-- How a load ends does not depend on the environment. -/
theorem ending_ofFile (env env' : Environment) (contents : ByteArray) :
    (ofFile env contents).2 = (ofFile env' contents).2 := by
  rw [(ofFile_document env contents).2, (ofFile_document env' contents).2]

end Progress

end EnvFile

namespace Layers

open EnvFile (Progress)

/-- Loading the environment file once more leaves the environment as it is, also after a failure.
The outcome is the same again, unless the environment by then switches environment files off. -/
theorem loadEnvFile_again (layers : Layers) (env : Environment) (tree : FileTree) :
    let first := layers.loadEnvFile env tree.envFile?
    let second := layers.loadEnvFile first.2 tree.envFile?
    second.2 = first.2 ∧
    (first.2.text? Variables.envFileDisabled = some "true" ∨
        first.2.text? Variables.envFileDisabled = some "1" →
      second.1 = .ok layers) ∧
    (first.2.text? Variables.envFileDisabled ≠ some "true" ∧
        first.2.text? Variables.envFileDisabled ≠ some "1" →
      second.1 = first.1) := by
  simp only [← EnvFile.isDisabled_iff, ← EnvFile.isDisabled_eq_false_iff]
  cases switch : EnvFile.isDisabled env with
  | true => simp [loadEnvFile_disabled, switch]
  | false =>
    cases tree.envFile? with
    | error failure => simp [loadEnvFile_error, switch]
    | ok contents? =>
      cases contents? with
      | none => simp [loadEnvFile_none]
      | some contents =>
        rw [layers.loadEnvFile_some switch]
        cases switch' : EnvFile.isDisabled (Progress.ofFile env contents).1.environment with
        | true => simp [loadEnvFile_disabled, switch']
        | false =>
          rw [layers.loadEnvFile_some switch', Progress.ofFile_ofFile,
            Progress.ending_ofFile (Progress.ofFile env contents).1.environment env]
          simp

/-- A file that switches environment files off fails a first load and not a second one. -/
example :
    let found : EnvFile.Search := .ok (some "DOTENV_DISABLED=1\n=".toUTF8)
    let first := bareLayers.loadEnvFile .empty found
    first.1 = .error (.envFileMalformed 0) ∧
      (bareLayers.loadEnvFile first.2 found).1 = .ok bareLayers := by
  decide +kernel

/-- Environments that do not switch environment files off load a file with the same outcome. The
loads read the same names, although each puts its own texts among the characters as it reads. -/
theorem loadEnvFile_alike (layers : Layers) (tree : FileTree) (env env' : Environment)
    (enabled : env.text? Variables.envFileDisabled ≠ some "true" ∧
      env.text? Variables.envFileDisabled ≠ some "1")
    (enabled' : env'.text? Variables.envFileDisabled ≠ some "true" ∧
      env'.text? Variables.envFileDisabled ≠ some "1") :
    (layers.loadEnvFile env tree.envFile?).1 = (layers.loadEnvFile env' tree.envFile?).1 ∧
    ∀ contents, tree.NearestEnvFile contents →
      let loaded := Progress.ofFileInPlace env contents
      let loaded' := Progress.ofFileInPlace env' contents
      layers.loadEnvFile env tree.envFile? =
        (loaded.2.verdict.map fun () => layers, loaded.1.environment) ∧
      layers.loadEnvFile env' tree.envFile? =
        (loaded'.2.verdict.map fun () => layers, loaded'.1.environment) ∧
      loaded.2 = loaded'.2 ∧
      loaded.1.assigned.map Prod.fst = loaded'.1.assigned.map Prod.fst := by
  rw [← EnvFile.isDisabled_eq_false_iff] at enabled enabled'
  constructor
  · cases tree.envFile? with
    | error failure => rw [layers.loadEnvFile_error enabled, layers.loadEnvFile_error enabled']
    | ok contents? =>
      cases contents? with
      | none => rw [loadEnvFile_none, loadEnvFile_none]
      | some contents =>
        rw [layers.loadEnvFile_some enabled, layers.loadEnvFile_some enabled',
          Progress.ending_ofFile env env']
  · intro contents nearest
    rw [FileTree.envFile?_eq_some_iff.mpr nearest]
    simp only [Progress.ofFileInPlace_eq]
    refine ⟨layers.loadEnvFile_some enabled contents, layers.loadEnvFile_some enabled' contents,
      Progress.ending_ofFile env env' contents, ?_⟩
    rw [Progress.names_ofFile, Progress.names_ofFile]

/-- A file that refers to a variable in three ways and leaves the last reference open. -/
def referringFile : ByteArray :=
  "A=\"$X'\"\nB=$X\"$X\"\nA=$\x7bX\x7d\nC=$\x7bX".toUTF8

def treeOfReferring : FileTree :=
  FileTree.empty.write [".env"] referringFile

/-- An environment with a text that would read otherwise if it stood in the file. -/
def quotingEnvironment : Environment where
  entries := [("X", "'\n\"$".toUTF8), ("A", "".toUTF8)]

theorem loadEnvFile_alike_referring :
    (bareLayers.loadEnvFile quotingEnvironment treeOfReferring.envFile?).1 =
        .error (.envFileMalformed 2) ∧
      (Progress.ofFileInPlace quotingEnvironment referringFile).1.assigned.map Prod.fst =
        ["A", "B", "A"] ∧
      (Progress.ofFileInPlace quotingEnvironment referringFile).1.assigned.lookup "B" =
        some "'\n\"$\"'\n\"$\"" := by
  have nearest : treeOfReferring.NearestEnvFile referringFile :=
    FileTree.envFile?_eq_some_iff.mp rfl
  obtain ⟨verdict, loads⟩ := loadEnvFile_alike bareLayers treeOfReferring quotingEnvironment .empty
    (by decide +kernel) (by decide)
  obtain ⟨_, _, _, names⟩ := loads referringFile nearest
  refine ⟨verdict.trans (by decide +kernel), names.trans (by decide +kernel), by decide +kernel⟩

end Layers

end WorkerSettings
