import WorkerSettings.EnvFile.Search

/-!
# File trees

Directories and regular files below a root, and a working directory among them, as far as they
decide which environment file is loaded and whether it can be. A working directory that has been
removed is below no directory any more, and neither is one outside the root.
-/

namespace WorkerSettings

open EnvFile (Search)

inductive Entry
  | directory
  | file (contents : ByteArray)
  /-- A directory in which nothing can be looked at. -/
  | barred (failure : FileFailure)
  /-- Something that cannot be looked at, or a regular file that cannot be read. -/
  | unreadable (failure : FileFailure)

/-- The entries below a root and the working directory, unless that is removed or outside. -/
structure FileTree where
  entries : List (Path × Entry)
  directory : Option Path

namespace FileTree

def empty : FileTree where
  entries := []
  directory := some []

def entry? (tree : FileTree) (path : Path) : Option Entry :=
  tree.entries.lookup path

def put (tree : FileTree) (path : Path) (entry : Entry) : FileTree :=
  { tree with entries := (path, entry) :: tree.entries.filter (·.1 ≠ path) }

/-- Make a directory and those above it. -/
def makeDirectory (tree : FileTree) (path : Path) : FileTree :=
  (List.range path.length).foldl (fun tree depth => tree.put (path.take (depth + 1)) .directory)
    tree

/-- Write a file and make the directories above it. -/
def write (tree : FileTree) (path : Path) (contents : ByteArray) : FileTree :=
  (tree.makeDirectory path.dropLast).put path (.file contents)

/-- Remove a path and all below it. -/
def remove (tree : FileTree) (path : Path) : FileTree where
  entries := tree.entries.filter fun entry => !path.isPrefixOf entry.1
  directory := tree.directory.filter fun directory => !path.isPrefixOf directory

/-- Make a directory the working directory. One outside the root is below no directory. -/
def enter (tree : FileTree) (directory : Option Path) : FileTree :=
  { tree with directory }

/-- Why nothing below a path can be looked at, if that is so. -/
def bar? (tree : FileTree) (path : Path) : Option FileFailure :=
  match tree.entry? path with
  | some (.barred failure) => some failure
  | _ => none

/-- The contents of the regular file at a path. The way to it is looked at from the root, so
the outermost of the directories that bar it decides. -/
def file? (tree : FileTree) (path : Path) : Search :=
  match (List.range path.length).findSome? fun depth => tree.bar? (path.take depth) with
  | some failure => .error failure
  | none =>
    match tree.entry? path with
    | some (.file contents) => .ok (some contents)
    | some (.unreadable failure) => .error failure
    | _ => .ok none

def envFileIn? (tree : FileTree) (directory : Path) : Search :=
  tree.file? (directory ++ [EnvFile.fileName])

/-- The contents of the file `.env` that is nearest to the working directory. -/
def envFile? (tree : FileTree) : Search :=
  match tree.directory with
  | none => .ok none
  | some directory => EnvFile.search tree.envFileIn? directory

end FileTree

end WorkerSettings
