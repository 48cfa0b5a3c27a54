import WorkerSettings.FileTree
import WorkerSettings.Proofs.EnvFile.Search

/-!
# The environment file of a tree

A search from the working directory of a tree ends in one of three ways: there is no file, or the
nearest file is found, or a look before that fails. It fails only at an entry that bars the way or
cannot be read.
-/

namespace WorkerSettings

namespace FileTree

/-- No regular file `.env` is in the working directory or above it, and no look there fails. -/
def HasNoEnvFile (tree : FileTree) : Prop :=
  ∀ directory above, tree.directory = some directory → above <+: directory →
    tree.envFileIn? above = .ok none

/-- The nearest look to the working directory that finds a file or fails says this. -/
def Nearest (tree : FileTree) (said : EnvFile.Search) : Prop :=
  ∃ directory, tree.directory = some directory ∧ EnvFile.Nearest tree.envFileIn? directory said

/-- The contents are those of the regular file `.env` in the working directory or above it, and
no directory between has another one. -/
def NearestEnvFile (tree : FileTree) (contents : ByteArray) : Prop :=
  tree.Nearest (.ok (some contents))

/-- A look in the working directory or above it fails, or the file there cannot be read, and no
directory between has a file. -/
def FailsAtEnvFile (tree : FileTree) (failure : FileFailure) : Prop :=
  tree.Nearest (.error failure)

/-- No file is nearer than that of the working directory itself. -/
theorem nearestEnvFile_here {tree : FileTree} {directory : Path} {contents : ByteArray}
    (here : tree.directory = some directory)
    (file : tree.envFileIn? directory = .ok (some contents)) : tree.NearestEnvFile contents := by
  refine ⟨directory, here, ?_⟩
  rw [← file]
  exact EnvFile.nearest_self _ directory

theorem envFile?_eq_none_iff {tree : FileTree} :
    tree.envFile? = .ok none ↔ tree.HasNoEnvFile := by
  rw [envFile?, HasNoEnvFile]
  cases tree.directory with
  | none => simp
  | some directory =>
    rw [EnvFile.search_eq_none_iff]
    constructor
    · intro missing _ above same initial
      cases same
      exact missing above initial
    · intro missing above initial
      exact missing directory above rfl initial

theorem envFile?_eq_iff {tree : FileTree} {said : EnvFile.Search} (ends : said ≠ .ok none) :
    tree.envFile? = said ↔ tree.Nearest said := by
  rw [envFile?, Nearest]
  cases tree.directory with
  | none => simp [Ne.symm ends]
  | some directory => simp [EnvFile.search_eq_iff directory ends]

theorem envFile?_eq_some_iff {tree : FileTree} {contents : ByteArray} :
    tree.envFile? = .ok (some contents) ↔ tree.NearestEnvFile contents :=
  envFile?_eq_iff (by simp)

theorem envFile?_eq_error_iff {tree : FileTree} {failure : FileFailure} :
    tree.envFile? = .error failure ↔ tree.FailsAtEnvFile failure :=
  envFile?_eq_iff (by simp)

theorem bar?_eq_some_iff {tree : FileTree} {path : Path} {failure : FileFailure} :
    tree.bar? path = some failure ↔ tree.entry? path = some (.barred failure) := by
  cases found : tree.entry? path with
  | none => simp [bar?, found]
  | some entry => cases entry <;> simp [bar?, found]

/-- A file is out of reach for an entry on the way to it, or for what it is itself. -/
theorem exists_entry_of_file? {tree : FileTree} {path : Path} {failure : FileFailure}
    (fails : tree.file? path = .error failure) :
    ∃ above, tree.entry? above = some (.barred failure) ∨
      tree.entry? above = some (.unreadable failure) := by
  rw [file?] at fails
  cases barred : (List.range path.length).findSome? fun depth => tree.bar? (path.take depth) with
  | some barring =>
    rw [barred] at fails
    cases fails
    obtain ⟨depth, _, bar⟩ := List.exists_of_findSome?_eq_some barred
    exact ⟨path.take depth, .inl (bar?_eq_some_iff.mp bar)⟩
  | none =>
    rw [barred] at fails
    refine ⟨path, .inr ?_⟩
    cases found : tree.entry? path with
    | none => simp [found] at fails
    | some entry => cases entry <;> simp_all

/-- A search fails only in a tree that has an entry for it to fail at. -/
theorem FailsAtEnvFile.exists_entry {tree : FileTree} {failure : FileFailure}
    (fails : tree.FailsAtEnvFile failure) :
    ∃ path, tree.entry? path = some (.barred failure) ∨
      tree.entry? path = some (.unreadable failure) := by
  obtain ⟨_, _, _, _, look, _⟩ := fails
  exact exists_entry_of_file? look

end FileTree

end WorkerSettings
