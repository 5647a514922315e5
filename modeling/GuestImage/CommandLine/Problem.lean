import GuestImage.CommandLine.Usage
import GuestImage.Failure
import GuestImage.Files

/-!
# Problems and outcomes

Why a command fails, and what it leaves behind: what it printed, and whether it succeeded.
-/

namespace GuestImage.CommandLine

/-- Why a command fails. -/
inductive Problem where
  /-- A recipe, settings or a step failed. -/
  | reported (failure : Failure)
  /-- The build context cannot be found. -/
  | badContext (path : String) (error : FileError)
  | contextNotDirectory (path : String)
  | noDefinition (path : String)
  /-- A build that is no dry run. -/
  | noBackend
  /-- A path that is to be written as JSON is no text. Nothing handles this. -/
  | pathNotText
  deriving DecidableEq, Repr

def Problem.message : Problem → String
  | reported failure => failure.message
  | badContext path error => s!"Invalid build context path '{path}': {error.message}"
  | contextNotDirectory path => s!"Build context '{path}' is not a directory"
  | noDefinition path => s!"Forgefile not found at {path}"
  | noBackend =>
      "no execution backend is linked into this binary; " ++
        "re-run with --dry-run to print the build plan"
  | pathNotText => "path contains invalid UTF-8 characters"

/-- What a command leaves behind. -/
structure Outcome where
  printed : String
  problem? : Option Problem
  deriving DecidableEq, Repr

namespace Outcome

/-- The command succeeded. -/
def succeeded (printed : String) : Outcome :=
  ⟨printed, none⟩

/-- The command failed after it printed something. -/
def failed (printed : String) (problem : Problem) : Outcome :=
  ⟨printed, some problem⟩

end Outcome

end GuestImage.CommandLine
