import WorkerSettings.EnvFile.Load
import WorkerSettings.Settings

/-!
# Layers of settings

Settings are put together from layers: values set in code, fixed values for trying a
worker out, and environments. Each field holds the value of the last layer that wrote it,
and an environment writes the fields whose variables have a value. When the layers are
built, an output queue that no layer wrote is derived from the base name, else from the
name of the deployment, else from the default base.
-/

namespace WorkerSettings

/-- What the layers so far have written, for a worker of a fixed identity. -/
structure Layers where
  identity : Identity
  outputQueue : Option String := none
  baseName : Option String := none
  deploymentName : Option String := none
  failureQueue : Option String := none
  threads : Option UInt32 := none
  maxBatchSize : Option UInt32 := none
  maxBatchTime : Option UInt64 := none
  deriving DecidableEq

namespace Layers

def ofIdentity (identity : Identity) : Layers where
  identity

def withOutputQueue (layers : Layers) (queue : String) : Layers :=
  { layers with outputQueue := some queue }

def withBaseName (layers : Layers) (base : String) : Layers :=
  { layers with baseName := some base }

def withFailureQueue (layers : Layers) (queue : String) : Layers :=
  { layers with failureQueue := some queue }

def withThreads (layers : Layers) (threads : UInt32) : Layers :=
  { layers with threads := some threads }

def withMaxBatchSize (layers : Layers) (size : UInt32) : Layers :=
  { layers with maxBatchSize := some size }

def withMaxBatchTime (layers : Layers) (millis : UInt64) : Layers :=
  { layers with maxBatchTime := some millis }

/-- Fixed values for trying a worker out. -/
def withDefaults (layers : Layers) : Layers :=
  (((layers.withThreads Defaults.threads).withOutputQueue "output-queue").withMaxBatchSize
    1).withMaxBatchTime 1

/-- Load what the search for an environment file has ended with. What the layers have written
stays; only the environment is another afterwards, and it may be even where the file is wrong. -/
def loadEnvFile (layers : Layers) (env : Environment) (found : EnvFile.Search) :
    Except Fault Layers × Environment :=
  let (verdict, after) := EnvFile.load env found
  (verdict.map fun () => layers, after)

/-- Write every field whose variable has a value. The counts are looked at in the order
threads, batch size, batch time, and the first that is no count fails the layer. -/
def withEnvironment {σ : Type} [Snapshot σ] (layers : Layers) (env : σ) :
    Except Fault Layers := do
  let threads ← Snapshot.count? 32 env Variables.threads
  let size ← Snapshot.count? 32 env Variables.maxBatchSize
  let time ← Snapshot.count? 64 env Variables.maxBatchTime
  return { layers with
    outputQueue := (Snapshot.value? env Variables.outputQueue).or layers.outputQueue
    baseName := (Snapshot.value? env Variables.baseQueueName).or layers.baseName
    deploymentName := (Snapshot.value? env Variables.workerName).or layers.deploymentName
    failureQueue := (Snapshot.value? env Variables.failureQueue).or layers.failureQueue
    threads := (threads.map UInt32.ofBitVec).or layers.threads
    maxBatchSize := (size.map UInt32.ofBitVec).or layers.maxBatchSize
    maxBatchTime := (time.map UInt64.ofBitVec).or layers.maxBatchTime }

/-- The explicit output queue, else one derived from the first base name there is. -/
def resolvedQueue (layers : Layers) : String :=
  layers.outputQueue.getD
    ((layers.baseName.or layers.deploymentName).getD Defaults.baseQueueName ++
      Defaults.queueSuffix)

/-- The settings that the layers describe, before any check. -/
def settings (layers : Layers) : Settings where
  workerName := layers.identity.name
  workerVersion := layers.identity.version
  outputQueue := layers.resolvedQueue
  failureQueue := layers.failureQueue
  threads := layers.threads.getD Defaults.threads
  maxBatchSize := layers.maxBatchSize
  maxBatchTime := layers.maxBatchTime

def build (layers : Layers) : Except Fault Settings :=
  layers.settings.validated

inductive Layer (σ : Type)
  | defaults
  | outputQueue (queue : String)
  | baseName (base : String)
  | failureQueue (queue : String)
  | threads (threads : UInt32)
  | maxBatchSize (size : UInt32)
  | maxBatchTime (millis : UInt64)
  | environment (env : σ)

/-- Put one layer over the others. Only an environment can fail. -/
def add {σ : Type} [Snapshot σ] (layers : Layers) : Layer σ → Except Fault Layers
  | .defaults => .ok layers.withDefaults
  | .outputQueue queue => .ok (layers.withOutputQueue queue)
  | .baseName base => .ok (layers.withBaseName base)
  | .failureQueue queue => .ok (layers.withFailureQueue queue)
  | .threads threads => .ok (layers.withThreads threads)
  | .maxBatchSize size => .ok (layers.withMaxBatchSize size)
  | .maxBatchTime millis => .ok (layers.withMaxBatchTime millis)
  | .environment env => layers.withEnvironment env

end Layers

/-- The settings of a worker in an environment and nothing else. -/
def Settings.resolve {σ : Type} [Snapshot σ] (identity : Identity) (env : σ) :
    Except Fault Settings := do
  let layers ← (Layers.ofIdentity identity).withEnvironment env
  layers.build

end WorkerSettings
