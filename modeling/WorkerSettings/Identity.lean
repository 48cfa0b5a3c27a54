import WorkerSettings.Text.Blank
import WorkerSettings.Fault

/-!
# Worker identity

The name and the version that a worker is built with. Both are filled in when the worker
is generated, so a text that is blank, or that still holds the start of a placeholder, was
never filled in. An `Identity` carries the evidence that both of its texts were.
-/

namespace WorkerSettings

namespace Identity

/-- The text holds the two characters that open a placeholder. -/
def hasPlaceholder : List Char → Bool
  | '$' :: '\x7b' :: _ => true
  | _ :: cs => hasPlaceholder cs
  | [] => false

/-- Some character is not blank, and no placeholder is left. -/
def isFilled (s : String) : Bool :=
  s.toList.any (fun c => !Text.isBlank c) && !hasPlaceholder s.toList

end Identity

structure Identity where
  name : String
  version : String
  name_filled : Identity.isFilled name = true
  version_filled : Identity.isFilled version = true
  deriving DecidableEq

/-- The identity of the two texts. The name is looked at before the version. -/
def Identity.ofTexts (name version : String) : Except Fault Identity :=
  if name_filled : isFilled name = true then
    if version_filled : isFilled version = true then
      .ok { name, version, name_filled, version_filled }
    else
      .error (.missingDefault .version)
  else
    .error (.missingDefault .name)

@[simp] theorem Identity.ofTexts_name_version (identity : Identity) :
    Identity.ofTexts identity.name identity.version = .ok identity := by
  simp [ofTexts, identity.name_filled, identity.version_filled]

end WorkerSettings
