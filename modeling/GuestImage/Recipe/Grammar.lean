import GuestImage.Recipe.Basic

/-!
# The recipe grammar

The texts that are recipes, described by what they are written from and not by how they are read. A
text is a list of logical lines with line feeds between them; `LogicalLine.text` spells a line, and
`LogicalLine.WF` says which lines there are. Line feeds inside a line are escaped ones only.
-/

namespace GuestImage.Recipe

/-- A part of an argument. -/
inductive Piece where
  /-- A character that stands for itself. -/
  | plain (letter : Char)
  /-- A character behind a backslash, which stands for itself whatever it is. -/
  | escaped (letter : Char)
  /-- An escaped line break, of two characters or one, which stands for nothing. -/
  | continued (carriage : Bool)
  deriving DecidableEq, Repr

namespace Piece

/-- How a part is spelled. -/
def text : Piece → List Char
  | plain letter => [letter]
  | escaped letter => ['\\', letter]
  | continued true => ['\\', '\r', '\n']
  | continued false => ['\\', '\n']

/-- What a part stands for. -/
def meaning : Piece → List Char
  | plain letter | escaped letter => [letter]
  | continued _ => []

/-- The parts that there are. -/
def WF : Piece → Prop
  | plain letter => letter ≠ '\\' ∧ letter ≠ '#' ∧ letter ≠ '\n'
  | escaped letter => letter ≠ '\n'
  | continued _ => True

instance : DecidablePred WF := fun piece => by
  cases piece <;> unfold WF <;> infer_instance

end Piece

/-- A line of a recipe, which may run over several physical lines. -/
inductive LogicalLine where
  | blank (spaces : Nat)
  /-- A comment, in front of which a word may stand without a space. -/
  | comment (spaces : Nat) (word remark : List Char)
  /-- A command; a comment may follow its argument. -/
  | command (spaces : Nat) (token : List Char) (gap : Nat) (argument : List Piece)
      (remark? : Option (List Char))
  deriving DecidableEq, Repr

namespace LogicalLine

def spaced (count : Nat) : List Char :=
  List.replicate count ' '

/-- A comment at the end of a line, if there is one. -/
def remarkText : Option (List Char) → List Char
  | none => []
  | some remark => '#' :: remark

/-- What an argument stands for, with the blanks around it. -/
def meaningOf (argument : List Piece) : List Char :=
  argument.flatMap Piece.meaning

/-- How a line is spelled. -/
def text : LogicalLine → List Char
  | blank spaces => spaced spaces
  | comment spaces word remark => spaced spaces ++ word ++ '#' :: remark
  | command spaces token gap argument remark? =>
      spaced spaces ++ token ++ spaced gap ++ argument.flatMap Piece.text ++ remarkText remark?

/-- The lines that there are. -/
def WF : LogicalLine → Prop
  | blank _ => True
  | comment _ word remark => word.all isTokenChar ∧ '\n' ∉ remark
  | command _ token gap argument remark? =>
      token ≠ [] ∧ token.all isTokenChar ∧
        (∃ kind ∈ CommandKind.all, String.ofList token ∈ kind.aliases) ∧ 0 < gap ∧
        (∀ piece ∈ argument, piece.WF) ∧ '\n' ∉ remarkText remark? ∧
        Text.trimList (meaningOf argument) ≠ []

instance : DecidablePred WF := fun line => by
  cases line <;> unfold WF <;> infer_instance

/-- Whether a line feed may follow: not behind an escaped carriage return, with which it would be an
escaped line break. -/
def mayBreak : LogicalLine → Prop
  | command _ _ _ argument none => argument.getLast? ≠ some (.escaped '\r')
  | _ => True

instance : DecidablePred mayBreak := fun line => by
  unfold mayBreak; split <;> infer_instance

/-- The number of line feeds inside a line. -/
def lineFeeds (line : LogicalLine) : Nat :=
  line.text.count '\n'

/-- The command of a line, if it is one, when it starts on the given physical line. Its kind is the
one that has the token among its aliases. -/
def command? (number : Nat) : LogicalLine → Option Command
  | command _ token _ argument _ =>
      (CommandKind.all.find? (String.ofList token ∈ ·.aliases)).map fun kind =>
        .of kind (String.ofList (Text.trimList (meaningOf argument))) number
  | _ => none

end LogicalLine

/-- How lines are spelled, with a line feed between each two. -/
def textOf : (lines : List LogicalLine) → List Char
  | [] => []
  | [line] => line.text
  | line :: rest => line.text ++ '\n' :: textOf rest

/-- The commands of lines, of which the first starts on the given physical line. -/
def commandsOf (number : Nat) : (lines : List LogicalLine) → List Command
  | [] => []
  | line :: rest =>
      (line.command? number).toList ++ commandsOf (number + line.lineFeeds + 1) rest

/-- The texts that lines spell: each line is one of the grammar, and a line feed may follow all but
the last. -/
structure Spells (lines : List LogicalLine) (text : List Char) : Prop where
  nonempty : lines ≠ []
  wf : ∀ line ∈ lines, line.WF
  mayBreak : ∀ line ∈ lines.dropLast, line.mayBreak
  text_eq : textOf lines = text

end GuestImage.Recipe
