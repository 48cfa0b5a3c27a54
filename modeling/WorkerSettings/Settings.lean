import WorkerSettings.Identity

/-!
# Settings of a worker

The record that a queue worker runs with. A record assembled by hand is not checked;
`Settings.validate` names the first thing that is wrong with it, in the order name,
version, output queue, threads. An absent limit and a limit of zero are different.
-/

namespace WorkerSettings

structure Settings where
  /-- The name the worker was built with. -/
  workerName : String
  /-- The version the worker was built with. -/
  workerVersion : String
  /-- The queue that results are published to. -/
  outputQueue : String
  /-- The queue that failed messages are published to, if any. -/
  failureQueue : Option String
  /-- The size of the pool of workers. -/
  threads : UInt32
  /-- The greatest number of messages in a batch, if limited. -/
  maxBatchSize : Option UInt32
  /-- The longest time to build up a batch, in milliseconds, if limited. -/
  maxBatchTime : Option UInt64
  deriving DecidableEq

structure Duration where
  seconds : Nat
  nanoseconds : Nat
  deriving DecidableEq

def Duration.ofMilliseconds (millis : UInt64) : Duration where
  seconds := millis.toNat / 1000
  nanoseconds := millis.toNat % 1000 * 1000000

namespace Settings

def maxBatchDuration (settings : Settings) : Option Duration :=
  settings.maxBatchTime.map Duration.ofMilliseconds

def checkThreads (threads : UInt32) : Except Fault Unit :=
  if Defaults.minThreads ≤ threads ∧ threads ≤ Defaults.maxThreads then
    .ok ()
  else
    .error (.invalidThreads threads)

/-- The first thing that is wrong with the settings, if anything is. -/
def validate (settings : Settings) : Except Fault Unit := do
  let _ ← Identity.ofTexts settings.workerName settings.workerVersion
  if settings.outputQueue.isEmpty then
    throw .emptyOutputQueue
  checkThreads settings.threads

def validated (settings : Settings) : Except Fault Settings := do
  settings.validate
  return settings

end Settings

end WorkerSettings
