import WorkerSettings.Settings
import WorkerSettings.Json.Layout

/-!
# Settings as JSON

Settings are a record of seven fields, three of them optional. What is absent is left out
when the record is written, and the settings are validated as soon as they are read.
-/

namespace WorkerSettings.Settings

def record : Json.Shape Settings where
  name := "WorkerConfigurationRecord"
  fields :=
    [.required "workerName" .text, .required "workerVersion" .text,
      .required "outputQueue" .text, .optional "failureQueue" .text,
      .required "threads" (.count 32), .optional "maxBatchSize" (.count 32),
      .optional "maxBatchTime" (.count 64)]
  toTuple settings :=
    (settings.workerName, settings.workerVersion, settings.outputQueue, settings.failureQueue,
      settings.threads.toBitVec, settings.maxBatchSize.map UInt32.toBitVec,
      settings.maxBatchTime.map UInt64.toBitVec, ())
  ofTuple := fun (name, version, queue, failureQueue, threads, size, time, ()) =>
    Settings.validated
      { workerName := name, workerVersion := version, outputQueue := queue, failureQueue
        threads := UInt32.ofBitVec threads, maxBatchSize := size.map UInt32.ofBitVec
        maxBatchTime := time.map UInt64.ofBitVec }

def toJson (layout : Json.Layout) (settings : Settings) : String :=
  String.ofList (record.write layout settings)

def ofJson (text : String) : Except Json.Rejection Settings :=
  record.read text.toList

end WorkerSettings.Settings
