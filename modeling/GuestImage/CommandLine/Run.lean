import GuestImage.CommandLine.Build
import GuestImage.CommandLine.Check
import GuestImage.Settings.Load

/-!
# The command line

Reads the words of a command line, loads the settings and carries out the command.
-/

namespace GuestImage.CommandLine

/-- The name of the program, as its output has it. -/
def programName : String := "a3s-forge"

/-- The version of the program. -/
def programVersion : String := "0.1.0"

/-- The table of command kinds and the tokens that select them. -/
def kindsGrid : Text.Grid :=
  .of ["ORDINAL", "KIND", "TOKENS"] <| CommandKind.all.map fun kind =>
    [toString kind.ordinal, kind.name, String.intercalate ", " kind.aliases]

/-- What the option for the version prints. -/
def versionLine : String :=
  s!"{programName} {programVersion}\n"

/-- Carry out one command. -/
def perform {m : Type → Type} [Monad m] (files : Files m) (settings : Settings) (stamp : Stamp) :
    Request → m Outcome
  | .check request => check files request
  | .build request => build files settings request stamp
  | .kinds => return .succeeded (kindsGrid.render ++ "\n")
  | .version => return .succeeded s!"{programName} version {programVersion}\n"

/-- Load the settings and carry out the command. -/
def Invocation.run {m : Type → Type} [Monad m] (files : Files m) (home? : Option SystemPath)
    (stamp : Stamp) (invocation : Invocation) : m Outcome := do
  match ← Settings.loadOrDefault files home? invocation.config? with
  | .error failure => return .failed "" (.reported failure)
  | .ok settings => perform files settings stamp invocation.request

end GuestImage.CommandLine
