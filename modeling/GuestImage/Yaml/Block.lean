import GuestImage.Yaml.Cursor

/-!
# Block scalars

A block scalar is a header and the more indented lines below it. Literal scalars keep their line
breaks; folded ones join lines that start with no blank. The header may fix the indentation and say
what becomes of the breaks at the end.
-/

namespace GuestImage.Yaml

/-- What becomes of the line breaks at the end of a block scalar. -/
inductive Chomping where
  /-- All are dropped. -/
  | strip
  /-- The first is kept. -/
  | clip
  /-- All are kept. -/
  | keep
  deriving DecidableEq, Repr

/-- The header of a block scalar; `indent` is zero if it is not given. -/
structure BlockHeader where
  chomping : Chomping
  indent : Nat

def chomping? : Char → Option Chomping
  | '+' => some .keep
  | '-' => some .strip
  | _ => none

/-- The indentation that a digit gives, which is not zero. -/
def indentDigit? (letter : Char) : Option Nat :=
  if letter.isDigit && letter ≠ '0' then some (letter.toNat - '0'.toNat) else none

/-- Read a header after its indicator: the sign and the digit may come in either order. -/
def readBlockHeader (cursor : Cursor) : Option (BlockHeader × Cursor) := do
  let (header, cursor) ←
    match cursor.unread with
    | first :: rest =>
        match chomping? first with
        | some chomping =>
            match rest with
            | second :: _ =>
                if second.isDigit then do
                  let indent ← indentDigit? second
                  some (⟨chomping, indent⟩, cursor.skip 2)
                else some (⟨chomping, 0⟩, cursor.skip 1)
            | [] => some (⟨chomping, 0⟩, cursor.skip 1)
        | none =>
            if first.isDigit then do
              let indent ← indentDigit? first
              match rest.head?.bind chomping? with
              | some chomping => some (⟨chomping, indent⟩, cursor.skip 2)
              | none => some (⟨.clip, indent⟩, cursor.skip 1)
            else some (⟨.clip, 0⟩, cursor)
    | [] => some (⟨.clip, 0⟩, cursor)
  let cursor := cursor.skipComment
  if endsLine cursor.unread then some (header, cursor.skipBreak) else none

/-- Skip empty lines and the indentation of the line after them. The result has the breaks, the
deepest indentation that was seen, and the place. An indentation of zero is not known yet. -/
def readIndentation (indent : Nat) : (fuel deepest : Nat) → Cursor →
    Option (List Char × Nat × Cursor)
  | 0, _, _ => none
  | fuel + 1, deepest, cursor =>
      let wanted := if indent = 0 then cursor.unread.length else indent - cursor.mark.column
      let spaces := ((cursor.takeWhile (· = ' ')).take wanted).length
      let cursor := cursor.skip spaces
      let deepest := max deepest cursor.mark.column
      match cursor.unread with
      | [] => some ([], deepest, cursor)
      | letter :: _ =>
          if letter = '\t' && (indent = 0 || cursor.mark.column < indent) then none
          else if isBreak letter then do
            let (breaks, deepest, after) ← readIndentation indent fuel deepest cursor.skipBreak
            return (cursor.keptBreak ++ breaks, deepest, after)
          else some ([], deepest, cursor)

/-- The text between two lines: the break after the first and the breaks before the second. In a
folded scalar the first break vanishes between two lines that start with no blank. -/
def blockJoin (literal : Bool) (leading trailing : List Char) (blankBefore blankAfter : Bool) :
    List Char :=
  if !literal && leading.head? == some '\n' && !blankBefore && !blankAfter then
    if trailing.isEmpty then [' '] else trailing
  else leading ++ trailing

/-- Read the lines of a block scalar. `leading` is the break after the line before, `trailing` the
breaks after it, and `blankBefore` says whether that line starts with a blank. -/
def readBlockLines (literal : Bool) (chomping : Chomping) (indent : Nat)
    (leading trailing : List Char) (blankBefore : Bool) :
    (fuel : Nat) → Cursor → Option (List Char × Cursor)
  | 0, _ => none
  | fuel + 1, cursor =>
      match cursor.unread with
      | letter :: _ =>
          if cursor.mark.column = indent then do
            let blank := isBlank letter
            let joined := blockJoin literal leading trailing blankBefore blank
            let line := cursor.takeWhile (!isBreak ·)
            let afterLine := cursor.skipWhile (!isBreak ·)
            let (breaks, _, next) ←
              readIndentation indent (afterLine.unread.length + 1) 0 afterLine.skipBreak
            let (rest, after) ←
              readBlockLines literal chomping indent afterLine.keptBreak breaks blank fuel next
            return (joined ++ line ++ rest, after)
          else some (tail, cursor)
      | [] => some (tail, cursor)
where
  /-- The breaks at the end that are kept. -/
  tail : List Char :=
    match chomping with
    | .strip => []
    | .clip => leading
    | .keep => leading ++ trailing

/-- Read a block scalar after its indicator, inside a block of the given indentation. -/
def readBlock (literal : Bool) (parent : Int) (cursor : Cursor) : Option (List Char × Cursor) := do
  let (header, cursor) ← readBlockHeader cursor
  let fuel := cursor.unread.length + 2
  let given : Nat :=
    if header.indent = 0 then 0
    else if 0 ≤ parent then parent.toNat + header.indent else header.indent
  let (breaks, deepest, cursor) ← readIndentation given fuel 0 cursor
  let indent := if given = 0 then max (max deepest (parent + 1).toNat) 1 else given
  readBlockLines literal header.chomping indent [] breaks false fuel cursor

end GuestImage.Yaml
