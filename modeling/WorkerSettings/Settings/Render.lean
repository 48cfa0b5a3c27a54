import WorkerSettings.Settings.Json
import WorkerSettings.Settings.Table

/-!
# Showing settings

Settings are shown as a JSON object with a line for each member, or as a table.
-/

namespace WorkerSettings

inductive OutputFormat
  | json
  | text
  deriving DecidableEq

def Settings.render (format : OutputFormat) (settings : Settings) : String :=
  match format with
  | .json => settings.toJson .pretty
  | .text => settings.toTable

end WorkerSettings
