import WorkerSettings.Fault

/-!
# Reports of a failure

A failure is reported with the contexts in which it arose, the outermost first. Whatever
the contexts, a fault of the configuration has an exit status of its own, so that a
deployment can tell a wrong environment from a broken tool.
-/

namespace WorkerSettings

inductive Cause
  | fault (fault : Fault)
  | other (message : String)

def Cause.message : Cause → String
  | .fault wrong => wrong.message
  | .other text => text

/-- A cause within contexts, the outermost first. -/
structure Report where
  contexts : List String
  cause : Cause

namespace Report

def ofFault (fault : Fault) : Report where
  contexts := []
  cause := .fault fault

def wrap (report : Report) (context : String) : Report :=
  { report with contexts := context :: report.contexts }

/-- The contexts and the cause on one line. -/
def text (report : Report) : String :=
  ": ".intercalate (report.contexts ++ [report.cause.message])

/-- Two for a fault of the configuration, one for anything else. -/
def exitStatus (report : Report) : UInt32 :=
  match report.cause with
  | .fault _ => 2
  | .other _ => 1

end Report

end WorkerSettings
