import GuestImage.Recipe.Scanner

/-!
# Recipes

A recipe is the list of commands of one text, in the order of the text. A recipe that is not empty
starts with its only origin and has at most one entrypoint; `Recipe.parse` checks both.
-/

namespace GuestImage

/-- The commands of one text, in order. -/
structure Recipe where
  commands : List Command
  deriving DecidableEq, Repr

namespace Recipe

/-- How many commands have this kind. -/
def countKind (commands : List Command) (kind : CommandKind) : Nat :=
  commands.countP fun command => command.kind = kind

/-- What is wrong with a list of commands as a whole. -/
def documentError? : (commands : List Command) → Option Error
  | [] => none
  | first :: rest =>
      if first.kind ≠ .origin then some .missingOrigin
      else if 1 < countKind (first :: rest) .origin then some .multipleOrigin
      else if 1 < countKind (first :: rest) .entrypoint then some .multipleEntrypoint
      else none

/-- Read the commands of a text, without the checks on the whole list. -/
def scan (text : String) : Except Error (List Command) :=
  (Scanner.start text).commands

/-- Read a recipe, or say what is wrong with the text. A text of blank lines and comments is an
empty recipe. -/
def parse (text : String) : Except Error Recipe := do
  let commands ← scan text
  match documentError? commands with
  | some error => throw error
  | none => return ⟨commands⟩

def length (recipe : Recipe) : Nat :=
  recipe.commands.length

def isEmpty (recipe : Recipe) : Bool :=
  recipe.commands.isEmpty

/-- The commands of one kind, in order. -/
def ofKind (recipe : Recipe) (kind : CommandKind) : List Command :=
  recipe.commands.filter fun command => command.kind = kind

/-- The first command, which is the origin of a recipe that was read from a text. -/
def origin? (recipe : Recipe) : Option Command :=
  recipe.commands.head?

/-- The first entrypoint. -/
def entrypoint? (recipe : Recipe) : Option Command :=
  (recipe.ofKind .entrypoint).head?

end Recipe

end GuestImage
