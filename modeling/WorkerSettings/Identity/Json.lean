import WorkerSettings.Identity
import WorkerSettings.Json.Layout

/-!
# Identities as JSON

An identity is a record of its two texts, which are checked as soon as they are read.
-/

namespace WorkerSettings.Identity

def record : Json.Shape Identity where
  name := "IdentityRecord"
  fields := [.required "name" .text, .required "version" .text]
  toTuple identity := (identity.name, identity.version, ())
  ofTuple := fun (name, version, ()) => Identity.ofTexts name version

def toJson (layout : Json.Layout) (identity : Identity) : String :=
  String.ofList (record.write layout identity)

def ofJson (text : String) : Except Json.Rejection Identity :=
  record.read text.toList

end WorkerSettings.Identity
