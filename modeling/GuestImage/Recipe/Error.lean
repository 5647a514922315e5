/-!
# Recipe errors

What can be wrong with the text of a recipe. The first three causes are found on one logical line
and say which; the other three concern the list of commands as a whole.
-/

namespace GuestImage.Recipe

/-- Why a text is not a recipe. -/
inductive Error where
  /-- A token with nothing after it. -/
  | missingArgument (token : String) (line : Nat)
  /-- A backslash as the very last character of the text. -/
  | unterminatedEscape (line : Nat)
  /-- A token that selects no kind of command. -/
  | unknownCommand (token : String) (line : Nat)
  /-- The first command is no origin. -/
  | missingOrigin
  | multipleOrigin
  | multipleEntrypoint
  deriving DecidableEq, Repr

namespace Error

/-- The 1-based line an error was found on; errors about the whole list have none. -/
def line? : Error → Option Nat
  | missingArgument _ line | unterminatedEscape line | unknownCommand _ line => some line
  | missingOrigin | multipleOrigin | multipleEntrypoint => none

def message : Error → String
  | missingArgument token line => s!"expected value after {token} at line {line}"
  | unterminatedEscape line => s!"unterminated escape sequence at line {line}"
  | unknownCommand token line => s!"invalid command {token} on line {line}"
  | missingOrigin => "first command must be FROM"
  | multipleOrigin => "only one FROM command is allowed"
  | multipleEntrypoint => "only one ENTRYPOINT or CMD command is allowed"

end Error

end GuestImage.Recipe
