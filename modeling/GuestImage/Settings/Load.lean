import GuestImage.Files
import GuestImage.Settings.Decode

/-!
# Loading settings

Settings come from a file, if one is named, and are the defaults else.
-/

namespace GuestImage.Settings

variable {m : Type → Type} [Monad m]

/-- The settings in a file. -/
def load (files : Files m) (home? : Option SystemPath) (path : String) :
    m (Except Failure Settings) := do
  match ← files.readText path with
  | .error error =>
      return .error (.settings s!"Failed to read config at {path}: {error.message}")
  | .ok text => return ofText home? text

/-- The settings in a file, or the defaults if no file is named. -/
def loadOrDefault (files : Files m) (home? : Option SystemPath) (path? : Option String) :
    m (Except Failure Settings) :=
  match path? with
  | some path => load files home? path
  | none => return .ok (defaults home?)

end GuestImage.Settings
