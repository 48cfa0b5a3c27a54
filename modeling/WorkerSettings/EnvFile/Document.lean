import WorkerSettings.EnvFile.Line
import WorkerSettings.EnvFile.Assignment

/-!
# Environment files as documents

A file is read as the assignments before the first thing wrong with it, and how it ends.
Reading looks at nothing but the file, so two environments never disagree about it.
-/

namespace WorkerSettings.EnvFile

/-- The assignments of a file, up to its end or the first thing wrong with it. -/
structure Document where
  assignments : List Assignment
  ending : Ending

namespace Document

def ofLines (ending : Ending) : List (List Char) → Document
  | [] => { assignments := [], ending }
  | line :: lines =>
    match Assignment.ofLine line with
    | .error position => { assignments := [], ending := .malformed position }
    | .ok none => ofLines ending lines
    | .ok (some assignment) =>
      let document := ofLines ending lines
      { document with assignments := assignment :: document.assignments }

/-- The bytes of a file without a byte order mark at their start. -/
def dropMark (bytes : List UInt8) : List UInt8 :=
  match bytes with
  | 0xEF :: 0xBB :: 0xBF :: rest => rest
  | _ => bytes

def ofBytes (contents : ByteArray) : Document :=
  let (lines, ending) :=
    logicalLines .plain [] (physicalLines (dropMark contents.data.toList))
  ofLines ending lines

end Document

end WorkerSettings.EnvFile
