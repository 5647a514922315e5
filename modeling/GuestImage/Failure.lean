import GuestImage.BaseImage
import GuestImage.Decode
import GuestImage.Recipe.Error

/-!
# Failures

Everything that can stop a build or a command. A failure keeps its cause; the wording is in
`Failure.message` alone.
-/

namespace GuestImage

/-- Why a build or a command stopped. -/
inductive Failure where
  /-- The text of a recipe is wrong. -/
  | recipe (cause : Recipe.Error)
  /-- The value of an origin names no image. -/
  | origin (value message : String)
  /-- A backend failed at a step. -/
  | backend (step : Nat) (message : String)
  /-- A file could not be read. -/
  | file (message : String)
  /-- A document does not hold the data that was expected. -/
  | decode (cause : Decode.Error)
  /-- Settings could not be read or are out of bounds. -/
  | settings (message : String)
  deriving DecidableEq, Repr

namespace Failure

def message : Failure → String
  | recipe cause => s!"Definition error: {cause.message}"
  | origin value message => s!"Invalid origin '{value}': {message}"
  | backend step message => s!"Build step {step} failed: {message}"
  | file message => s!"I/O error: {message}"
  | decode cause => s!"Serialization error: {cause.message}"
  | settings message => s!"Configuration error: {message}"

/-- The failure for a rejected image name. -/
def ofRejection (rejection : BaseImage.Rejection) : Failure :=
  .origin rejection.value rejection.flaw.message

/-- The failure of a build whose backend failed at a step. A failure that already names a step
stays as it is. -/
def atStep (step : Nat) : Failure → Failure
  | backend own message => .backend own message
  | other => .backend step other.message

end Failure

end GuestImage
