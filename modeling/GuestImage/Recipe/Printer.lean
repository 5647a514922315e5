import GuestImage.Recipe.Basic

/-!
# Printing recipes

The text of a recipe, one command a line. Backslashes and number signs of an argument are escaped,
so that the text reads back as the same commands.
-/

namespace GuestImage.Recipe

/-- One character of an argument, escaped where it would not stand for itself. -/
def escapeChar (letter : Char) : List Char :=
  if letter = '\\' || letter = '#' then ['\\', letter] else [letter]

/-- The line of a command, with the line feed behind it. -/
def printCommand (command : Command) : List Char :=
  command.kind.keyword.toList ++ ' ' :: command.value.toList.flatMap escapeChar ++ ['\n']

/-- The line of a command as it is echoed, without any escapes. -/
def echoCommand (command : Command) : List Char :=
  command.text.toList ++ ['\n']

/-- The text of a recipe. -/
def print (recipe : Recipe) : String :=
  String.ofList (recipe.commands.flatMap printCommand)

/-- The text of a recipe without any escapes. -/
def echo (recipe : Recipe) : String :=
  String.ofList (recipe.commands.flatMap echoCommand)

end GuestImage.Recipe
