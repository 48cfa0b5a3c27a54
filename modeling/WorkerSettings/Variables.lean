/-!
# Variables and defaults

The names of the environment variables that settings are read from, and the values
that stand in for what is not set.
-/

namespace WorkerSettings.Variables

def outputQueue : String := "CAF_WORKER_OUTPUT_QUEUE"

/-- The base name that an output queue is derived from. -/
def baseQueueName : String := "CAF_WORKER_BASE_QUEUE_NAME"

/-- The name of the deployment, second choice for the base of the output queue. -/
def workerName : String := "CAF_WORKER_NAME"

def failureQueue : String := "CAF_WORKER_FAILURE_QUEUE"

def threads : String := "CAF_WORKER_THREADS"

/-- The greatest number of messages in a batch. -/
def maxBatchSize : String := "CAF_WORKER_MAX_BATCH_SIZE"

/-- The longest time to build up a batch, in milliseconds. -/
def maxBatchTime : String := "CAF_WORKER_MAX_BATCH_TIME"

def envFileDisabled : String := "DOTENV_DISABLED"

/-- The variables that settings depend on, all but the switch of the environment file. -/
def all : List String :=
  [outputQueue, baseQueueName, workerName, failureQueue, threads, maxBatchSize, maxBatchTime]

end WorkerSettings.Variables

namespace WorkerSettings.Defaults

/-- The base of the output queue when no name is set. -/
def baseQueueName : String := "worker"

/-- What an output queue adds to its base name. -/
def queueSuffix : String := "-out"

def threads : UInt32 := 1

/-- The least number of threads. -/
def minThreads : UInt32 := 1

/-- The greatest number of threads. -/
def maxThreads : UInt32 := 20

end WorkerSettings.Defaults
