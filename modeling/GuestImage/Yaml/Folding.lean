import GuestImage.Text.Encoding
import GuestImage.Yaml.Cursor

/-!
# Flow scalars

Plain and quoted scalars may run over several lines. They are read into pieces, and the pieces are
then folded: blanks around a line break vanish, a single break becomes a space, and of several
breaks the first vanishes.
-/

namespace GuestImage.Yaml

/-- A part of a scalar that was read. -/
inductive Piece where
  | letter (value : Char)
  | blank (value : Char)
  /-- A line break, in the form in which it is kept. -/
  | lineBreak (value : Char)
  /-- An escaped line break, which joins two lines without a space. -/
  | joint
  deriving DecidableEq, Repr

/-- The gap between two words of a scalar that is being folded. -/
inductive Gap where
  | none
  /-- Blanks on one line, the last one first. -/
  | blanks (reversed : List Char)
  /-- A line break and the breaks after it, the last one first. -/
  | breaks (first : Char) (reversed : List Char)
  /-- An escaped line break and the breaks after it, the last one first. -/
  | joined (reversed : List Char)
  deriving DecidableEq, Repr

/-- The gap with one more blank. Blanks after a line break do not count. -/
def Gap.addBlank (blank : Char) : Gap → Gap
  | .none => .blanks [blank]
  | .blanks reversed => .blanks (blank :: reversed)
  | gap => gap

/-- The gap with one more line break. Blanks before it do not count. -/
def Gap.addBreak (lineBreak : Char) : Gap → Gap
  | .none | .blanks _ => .breaks lineBreak []
  | .breaks first reversed => .breaks first (lineBreak :: reversed)
  | .joined reversed => .joined (lineBreak :: reversed)

/-- What a gap becomes in the text. -/
def Gap.text : Gap → List Char
  | .none => []
  | .blanks reversed => reversed.reverse
  | .breaks first reversed =>
      if first = '\n' then
        if reversed.isEmpty then [' '] else reversed.reverse
      else first :: reversed.reverse
  | .joined reversed => reversed.reverse

/-- The text of pieces that follow a gap. A gap at the very end is kept. -/
def fold (gap : Gap) : (pieces : List Piece) → List Char
  | [] => gap.text
  | .letter value :: rest => gap.text ++ value :: fold .none rest
  | .blank value :: rest => fold (gap.addBlank value) rest
  | .lineBreak value :: rest => fold (gap.addBreak value) rest
  | .joint :: rest => gap.text ++ fold (.joined []) rest

/-! ## Quoted scalars -/

/-- The character that a letter after a backslash stands for. -/
def unescape? : Char → Option Char
  | '0' => some '\x00'
  | 'a' => some '\x07'
  | 'b' => some '\x08'
  | 't' | '\t' => some '\t'
  | 'n' => some '\n'
  | 'v' => some '\x0b'
  | 'f' => some '\x0c'
  | 'r' => some '\r'
  | 'e' => some '\x1b'
  | ' ' => some ' '
  | '"' => some '"'
  | '/' => some '/'
  | '\\' => some '\\'
  | 'N' => some '\u0085'
  | '_' => some '\u00a0'
  | 'L' => some '\u2028'
  | 'P' => some '\u2029'
  | _ => none

/-- How many hexadecimal digits follow a letter after a backslash. -/
def escapeDigits : Char → Nat
  | 'x' => 2
  | 'u' => 4
  | 'U' => 8
  | _ => 0

/-- The character with this code point. -/
def charOf? (code : Nat) : Option Char :=
  if code.isValidChar then some (Char.ofNat code) else none

/-- The character of an escape, standing after the backslash, and how many characters it takes
there. -/
def readEscape (letter : Char) (rest : List Char) : Option (Char × Nat) :=
  match escapeDigits letter with
  | 0 => (unescape? letter).map fun value => (value, 1)
  | count =>
      let digits := rest.take count
      if digits.length = count then do
        let code ← Text.hexNumber? digits
        let value ← charOf? code
        return (value, count + 1)
      else none

/-- Put one more piece in front of what was read. -/
def pieced (piece : Piece) (read : Option (List Piece × Cursor)) :
    Option (List Piece × Cursor) :=
  read.map fun (pieces, cursor) => (piece :: pieces, cursor)

/-- Read a quoted scalar up to and with its closing quote. A document marker at the start of a line
must not stand inside it. A step takes at least one character. -/
def readQuoted (double : Bool) : (fuel : Nat) → Cursor → Option (List Piece × Cursor)
  | 0, _ => none
  | fuel + 1, cursor =>
      if cursor.mark.column = 0 && startsMarker cursor.unread then none
      else
        match cursor.unread with
        | [] => none
        | letter :: rest =>
            if isBlank letter then
              pieced (.blank letter) (readQuoted double fuel (cursor.skip 1))
            else if isBreak letter then
              pieced (.lineBreak (breakChar letter)) (readQuoted double fuel cursor.skipBreak)
            else if double && letter = '"' then some ([], cursor.skip 1)
            else if !double && letter = '\'' then
              match rest with
              | '\'' :: _ => pieced (.letter '\'') (readQuoted double fuel (cursor.skip 2))
              | _ => some ([], cursor.skip 1)
            else if double && letter = '\\' then
              match rest with
              | [] => none
              | second :: after =>
                  if isBreak second then
                    pieced .joint (readQuoted double fuel (cursor.skip 1).skipBreak)
                  else
                    match readEscape second after with
                    | none => none
                    | some (value, count) =>
                        pieced (.letter value) (readQuoted double fuel (cursor.skip (count + 1)))
            else pieced (.letter letter) (readQuoted double fuel (cursor.skip 1))

/-! ## Plain scalars -/

/-- The characters that separate the items of flow collections. -/
def isFlowIndicator (letter : Char) : Bool :=
  letter = ',' || letter = '[' || letter = ']' || letter = '\x7b' || letter = '\x7d'

/-- A plain scalar as it was read: its pieces, the place after the gap behind it, and whether that
gap holds a line break. -/
structure Plain where
  pieces : List Piece
  after : Cursor
  endsLine : Bool

/-- Put pieces in front of a plain scalar. -/
def Plain.prepend (pieces : List Piece) (plain : Plain) : Plain :=
  { plain with pieces := pieces ++ plain.pieces }

/-- Read a plain scalar. `gap` holds the pieces since the last word, the last one first, and
`afterBreak` says whether a line break is among them. Outside flow collections the lines must be
indented by `indent`. A step takes at least one character. -/
def readPlain (flow : Bool) (indent : Int) (gap : List Piece) (afterBreak : Bool) :
    (fuel : Nat) → Cursor → Option Plain
  | 0, _ => none
  | fuel + 1, cursor =>
      let stop : Option Plain := some ⟨[], cursor, afterBreak⟩
      match cursor.unread with
      | [] => stop
      | letter :: rest =>
          if isBlank letter then
            if afterBreak && (cursor.mark.column : Int) < indent && letter = '\t' then none
            else readPlain flow indent (.blank letter :: gap) afterBreak fuel (cursor.skip 1)
          else if isBreak letter then
            readPlain flow indent (.lineBreak (breakChar letter) :: gap) true fuel cursor.skipBreak
          else if !gap.isEmpty && (letter = '#' ||
              (cursor.mark.column = 0 && startsMarker cursor.unread) ||
              (!flow && (cursor.mark.column : Int) < indent)) then stop
          else if flow && letter = ':' &&
              rest.head?.any (fun second => isFlowIndicator second || second = '?') then none
          else if (letter = ':' && endsWord rest) || (flow && isFlowIndicator letter) then stop
          else
            (readPlain flow indent [] false fuel (cursor.skip 1)).map
              (·.prepend (gap.reverse ++ [.letter letter]))

end GuestImage.Yaml
