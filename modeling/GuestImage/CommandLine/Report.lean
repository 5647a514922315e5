import GuestImage.CommandLine.Run

/-!
# Reports

What a whole command line leaves behind. `run` reads the words, carries out the command and reports:
a command line that cannot be read ends with exit code 2, a command that fails with 1, and one that
crashes with 101.
-/

namespace GuestImage.CommandLine

/-- What the program can be asked for. -/
def helpText : String :=
  String.join <| [
    s!"Usage: {programName} [--config <file>] <command> [options]",
    "",
    "Commands:",
    "  check [path]   Check a recipe and list its steps",
    "                   --format <table|json>   the form of the list",
    "                   -q, --quiet             print nothing on success",
    "  build [path]   Build the image of a context",
    "                   -f, --file <file>       the recipe, relative to the context",
    "                   --dry-run               print the plan and run nothing",
    "                   --json                  print the plan as JSON",
    "                   -q, --quiet             print only the key of the last step",
    "  kinds          List the kinds of commands and their tokens",
    "  version        Print the version",
    "",
    "Options:",
    "  --config <file>   Read settings from a file",
    "  -h, --help        Print this text",
    "  -V, --version     Print the version"].map (· ++ "\n")

/-- What is wrong with a command line. -/
def UsageError.message : UsageError → String
  | help => "help was asked for"
  | version => "the version was asked for"
  | nothingGiven => "no command was given"
  | missingCommand => "a command is required"
  | unknownCommand => "there is no such command"
  | unknownArgument => "there is no such argument here"
  | missingValue => "an option lacks its value"
  | badValue => "an option has a value that it cannot have"
  | needlessValue => "a flag takes no value"
  | repeated => "an option was given twice"
  | missingOption => "an option needs another one that was not given"

/-- What a command line leaves behind: an exit code and the texts for the two outputs. -/
structure Report where
  exitCode : UInt32
  printed : String
  complaint : String
  deriving DecidableEq, Repr

namespace Report

/-- The answer to a command line that is not carried out. A question of the user is answered, all
else is refused. -/
def ofUsageError : UsageError → Report
  | .help => ⟨0, helpText, ""⟩
  | .version => ⟨0, versionLine, ""⟩
  | .nothingGiven => ⟨2, "", helpText⟩
  | error => ⟨2, "", s!"error: {error.message}\n\nFor more information, try '--help'.\n"⟩

/-- The answer after a command was carried out. A problem that nothing handles ends the program on
the spot. -/
def ofOutcome (outcome : Outcome) : Report :=
  match outcome.problem? with
  | none => ⟨0, outcome.printed, ""⟩
  | some .pathNotText => ⟨101, outcome.printed, s!"crashed: {Problem.pathNotText.message}\n"⟩
  | some problem => ⟨1, outcome.printed, s!"Error: {problem.message}\n"⟩

end Report

/-- Carry out a whole command line. -/
def run {m : Type → Type} [Monad m] (files : Files m) (home? : Option SystemPath) (stamp : Stamp)
    (words : List String) : m Report :=
  match Invocation.parse words with
  | .error error => return .ofUsageError error
  | .ok invocation => return .ofOutcome (← invocation.run files home? stamp)

end GuestImage.CommandLine
