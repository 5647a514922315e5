/-!
# Places in a YAML text

A cursor is a place in a text together with the characters that are still unread. The end of the
text counts as a line break wherever a line may end.
-/

namespace GuestImage.Yaml

/-- A place in a text, counted from zero: the bytes and the lines before it, and the characters of
its own line before it. -/
structure Mark where
  index : Nat
  line : Nat
  column : Nat
  deriving DecidableEq, Repr

/-- The start of a text. -/
def Mark.start : Mark :=
  ⟨0, 0, 0⟩

/-- How many bytes characters take. -/
def byteCount (letters : List Char) : Nat :=
  letters.foldl (fun total letter => total + letter.utf8Size) 0

/-- The place behind some characters of the same line. -/
def Mark.skip (mark : Mark) (letters : List Char) : Mark :=
  { mark with index := mark.index + byteCount letters, column := mark.column + letters.length }

/-- The start of the next line, behind a line break of these characters. -/
def Mark.nextLine (mark : Mark) (letters : List Char) : Mark :=
  ⟨mark.index + byteCount letters, mark.line + 1, 0⟩

/-- A place in a text and the unread characters. -/
structure Cursor where
  unread : List Char
  mark : Mark
  deriving Repr

/-! ## Classes of characters -/

def isBlank (letter : Char) : Bool :=
  letter = ' ' || letter = '\t'

/-- Line feed, carriage return, next line, line separator, paragraph separator. -/
def isBreak (letter : Char) : Bool :=
  letter = '\n' || letter = '\r' || letter = '\u0085' || letter = '\u2028' || letter = '\u2029'

/-- The characters of anchors, handles and directive names. -/
def isWordChar (letter : Char) : Bool :=
  letter.isAlphanum || letter = '_' || letter = '-'

/-- Whether a text starts with a line break or has ended. -/
def endsLine : (letters : List Char) → Bool
  | [] => true
  | letter :: _ => isBreak letter

/-- Whether a text starts with a blank or a line break, or has ended. -/
def endsWord : (letters : List Char) → Bool
  | [] => true
  | letter :: _ => isBlank letter || isBreak letter

/-- Whether a text starts with a document marker that stands by itself. -/
def startsMarker : (letters : List Char) → Bool
  | '-' :: '-' :: '-' :: rest => endsWord rest
  | '.' :: '.' :: '.' :: rest => endsWord rest
  | _ => false

/-- How a line break is kept in a text: separators as they are, all others as a line feed. -/
def breakChar (letter : Char) : Char :=
  if letter = '\u2028' || letter = '\u2029' then letter else '\n'

/-! ## Moving on -/

namespace Cursor

/-- The start of a text. -/
def start (letters : List Char) : Cursor :=
  ⟨letters, .start⟩

/-- Skip some characters of a line. -/
def skip (cursor : Cursor) (count : Nat) : Cursor :=
  ⟨cursor.unread.drop count, cursor.mark.skip (cursor.unread.take count)⟩

/-- Skip the characters of a class that holds no line break. -/
def skipWhile (cursor : Cursor) (holds : Char → Bool) : Cursor :=
  ⟨cursor.unread.dropWhile holds, cursor.mark.skip (cursor.unread.takeWhile holds)⟩

/-- The characters that `skipWhile` skips. -/
def takeWhile (cursor : Cursor) (holds : Char → Bool) : List Char :=
  cursor.unread.takeWhile holds

/-- Skip one line break, which may be written as two characters. -/
def skipBreak (cursor : Cursor) : Cursor :=
  match cursor.unread with
  | '\r' :: '\n' :: rest => ⟨rest, cursor.mark.nextLine ['\r', '\n']⟩
  | letter :: rest => if isBreak letter then ⟨rest, cursor.mark.nextLine [letter]⟩ else cursor
  | [] => cursor

/-- The kept form of the line break that `skipBreak` skips. -/
def keptBreak (cursor : Cursor) : List Char :=
  match cursor.unread with
  | letter :: _ => if isBreak letter then [breakChar letter] else []
  | [] => []

/-- Skip the blanks and the comment before the end of a line. -/
def skipComment (cursor : Cursor) : Cursor :=
  let cursor := cursor.skipWhile isBlank
  match cursor.unread with
  | '#' :: _ => cursor.skipWhile (!isBreak ·)
  | _ => cursor

end Cursor

end GuestImage.Yaml
