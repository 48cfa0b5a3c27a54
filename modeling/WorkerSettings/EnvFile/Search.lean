import WorkerSettings.Fault

/-!
# Searching for an environment file

The search looks in the working directory and then in those above it, and the nearest regular
file `.env` is the one to load. Looking in a directory finds the contents of that file, or that
there is none; a directory of the name is none. If a look fails, the search ends with it, however
many directories are left.

How a look is carried out is left to the caller, so that one search serves a tree that is given
and the disk.
-/

namespace WorkerSettings

/-- The names on the way from the root. -/
abbrev Path : Type :=
  List String

namespace Path

/-- One name further on a path. An empty name and `.` stay where they are, and `..` goes
back, from the root to nowhere. -/
def follow? (path : Path) (name : String) : Option Path :=
  if name = "" ∨ name = "." then some path
  else if name = ".." then
    if path = [] then none else some path.dropLast
  else some (path ++ [name])

/-- The place that a written path leads to from the root, unless it leaves the root. -/
def ofText? (text : String) : Option Path :=
  if text.toList.head? = some '/' then none
  else ((text.toList.splitOn '/').map String.ofList).foldlM follow? []

/-- A directory and those above it, the nearest first. -/
def upward (path : Path) : List Path :=
  (List.range (path.length + 1)).reverse.map path.take

end Path

namespace EnvFile

def fileName : String := ".env"

/-- What a look or a whole search ends with: the contents of the file if there is one, or why
it cannot be found or read. -/
abbrev Search : Type :=
  Except FileFailure (Option ByteArray)

/-- Look in a directory and those above it until there is a file. -/
def search {m : Type → Type} [Monad m] (look : Path → m (Option ByteArray)) (directory : Path) :
    m (Option ByteArray) :=
  directory.upward.findSomeM? look

end EnvFile

end WorkerSettings
