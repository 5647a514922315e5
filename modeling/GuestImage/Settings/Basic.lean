import GuestImage.Failure
import GuestImage.Path
import GuestImage.Settings.LogLevel
import GuestImage.StepKey

/-!
# Settings

What can be configured, the defaults, and the directory where the state of a step is cached.
Settings that were loaded name a recipe file and a disk that is not empty.
-/

namespace GuestImage

structure Settings where
  /-- The name of the recipe, relative to the build context. -/
  definitionFile : String
  /-- The directory of fetched images and of cached steps. -/
  cacheDir : SystemPath
  /-- The size of the produced disk in megabytes. -/
  diskSizeMb : Nat
  logLevel : LogLevel
  deriving DecidableEq, Repr

namespace Settings

/-- The cache directory of a user with this home directory, or of no user. -/
def defaultCacheDir (home? : Option SystemPath) : SystemPath :=
  let base :=
    match home? with
    | some home => home.join ".a3s"
    | none => .ofString ".a3s"
  (base.join "forge").join "cache"

/-- The settings of a user who configured nothing. -/
def defaults (home? : Option SystemPath) : Settings where
  definitionFile := "Forgefile"
  cacheDir := defaultCacheDir home?
  diskSizeMb := 4096
  logLevel := .warn

/-- The directory that holds the state of the step with this key. -/
def stepCachePath (settings : Settings) (key : String) : SystemPath :=
  (settings.cacheDir.join "steps").join (StepKey.directoryName key)

/-- What is wrong with settings as a whole. -/
inductive Flaw where
  | noDefinitionFile
  | noDisk
  deriving DecidableEq, Repr

def Flaw.message : Flaw → String
  | noDefinitionFile => "definition_file must not be empty"
  | noDisk => "disk_size_mb must be greater than zero"

/-- The flaw that is reported. -/
def flaw? (settings : Settings) : Option Flaw :=
  if settings.definitionFile = "" then some .noDefinitionFile
  else if settings.diskSizeMb = 0 then some .noDisk
  else none

/-! ## Overrides -/

/-- The fields of settings. -/
inductive Field where
  | definitionFile
  | cacheDir
  | diskSizeMb
  | logLevel
  deriving DecidableEq, Repr

namespace Field

def all : List Field :=
  [definitionFile, cacheDir, diskSizeMb, logLevel]

/-- The key of a field in a settings file. -/
def key : Field → String
  | definitionFile => "definition_file"
  | cacheDir => "cache_dir"
  | diskSizeMb => "disk_size_mb"
  | logLevel => "log_level"

/-- The field with this key. Other keys are none. -/
def ofKey? (key : String) : Option Field :=
  all.find? fun field => field.key == key

end Field

/-- The fields that a settings file gives. -/
structure Overrides where
  definitionFile? : Option String
  cacheDir? : Option SystemPath
  diskSizeMb? : Option Nat
  logLevel? : Option LogLevel
  deriving DecidableEq, Repr

namespace Overrides

/-- No field at all. -/
def empty : Overrides :=
  ⟨none, none, none, none⟩

/-- Whether a field is given. -/
def gives (overrides : Overrides) : Field → Bool
  | .definitionFile => overrides.definitionFile?.isSome
  | .cacheDir => overrides.cacheDir?.isSome
  | .diskSizeMb => overrides.diskSizeMb?.isSome
  | .logLevel => overrides.logLevel?.isSome

/-- Settings with exactly the given fields replaced. -/
def apply (overrides : Overrides) (settings : Settings) : Settings where
  definitionFile := overrides.definitionFile?.getD settings.definitionFile
  cacheDir := overrides.cacheDir?.getD settings.cacheDir
  diskSizeMb := overrides.diskSizeMb?.getD settings.diskSizeMb
  logLevel := overrides.logLevel?.getD settings.logLevel

end Overrides

end Settings

end GuestImage
