import WorkerSettings.Settings

/-!
# Settings as a table

One line for each setting: a label, padded so that all values start in one column, and the
value. What is not set is said to be so and never shown as a number.
-/

namespace WorkerSettings.Settings

def notSet : String := "(not set)"

def rows (settings : Settings) : List (String × String) :=
  [("Worker name", settings.workerName),
    ("Worker version", settings.workerVersion),
    ("Output queue", settings.outputQueue),
    ("Failure queue", settings.failureQueue.getD notSet),
    ("Threads", Nat.repr settings.threads.toNat),
    ("Max batch size", (settings.maxBatchSize.map fun size => Nat.repr size.toNat).getD notSet),
    ("Max batch time",
      (settings.maxBatchTime.map fun millis => Nat.repr millis.toNat ++ " ms").getD notSet)]

def labelWidth (rows : List (String × String)) : Nat :=
  (rows.map (·.1.length)).foldl max 0

/-- One line: the label padded to `width`, two spaces, the value. -/
def tableLine (width : Nat) (label value : String) : List Char :=
  label.toList ++ List.replicate (width - label.length) ' ' ++ "  ".toList ++ value.toList ++ ['\n']

def toTable (settings : Settings) : String :=
  String.ofList (settings.rows.flatMap fun row =>
    tableLine (labelWidth settings.rows) row.1 row.2)

end WorkerSettings.Settings
