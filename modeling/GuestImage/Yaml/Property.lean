import GuestImage.Text.Encoding
import GuestImage.Yaml.Token

/-!
# Anchors, tags and directives

The readers for what stands before a node or a document: names of anchors, tags with their handles,
and directives.
-/

namespace GuestImage.Yaml

/-! ## Anchors and aliases -/

/-- The characters besides blanks that may follow the name of an anchor. -/
def followsAnchor (letter : Char) : Bool :=
  letter = '?' || letter = ':' || letter = ',' || letter = ']' || letter = '\x7d' ||
    letter = '%' || letter = '@' || letter = '\x60'

/-- Read the name of an anchor or alias after its indicator. -/
def readAnchor (cursor : Cursor) : Option (String × Cursor) :=
  let name := cursor.takeWhile isWordChar
  let after := cursor.skipWhile isWordChar
  if name.isEmpty || !(endsWord after.unread || after.unread.head?.any followsAnchor) then none
  else some (String.ofList name, after)

/-! ## Tags -/

/-- The characters of a tag. A tag between angle brackets may also hold flow indicators. -/
def isTagChar (verbatim : Bool) (letter : Char) : Bool :=
  isWordChar letter || ";/?:@&=+$.!~*'()%".toList.contains letter ||
    (verbatim && (letter = ',' || letter = '[' || letter = ']'))

/-- Read one byte written as a percent sign and two digits. -/
def readOctet (letters : List Char) : Option (UInt8 × List Char) :=
  match letters with
  | '%' :: high :: low :: rest => do
      let value ← Text.hexNumber? [high, low]
      return (value.toUInt8, rest)
  | _ => none

/-- The number of bytes of the character that starts with this one. -/
def octetCount (first : UInt8) : Nat :=
  if first < 0x80 then 1
  else if first &&& 0xE0 = 0xC0 then 2
  else if first &&& 0xF0 = 0xE0 then 3
  else if first &&& 0xF8 = 0xF0 then 4
  else 0

/-- Read the given number of bytes that continue a character. -/
def readContinuation : (count : Nat) → (letters : List Char) → Option (List UInt8 × List Char)
  | 0, letters => some ([], letters)
  | count + 1, letters => do
      let (octet, rest) ← readOctet letters
      if octet &&& 0xC0 ≠ 0x80 then none
      let (octets, rest) ← readContinuation count rest
      return (octet :: octets, rest)

/-- Read the bytes of one character. Whether there is such a character does not matter. -/
def readOctets (letters : List Char) : Option (List UInt8 × List Char) := do
  let (first, rest) ← readOctet letters
  let count := octetCount first
  if count = 0 then none
  let (others, rest) ← readContinuation (count - 1) rest
  return (first :: others, rest)

/-- Read the bytes of a tag. A step takes at least one character. -/
def readTagBytes (verbatim : Bool) : (fuel : Nat) → Cursor → Option (List UInt8 × Cursor)
  | 0, cursor => some ([], cursor)
  | fuel + 1, cursor =>
      match cursor.unread with
      | letter :: _ =>
          if letter = '%' then do
            let (octets, rest) ← readOctets cursor.unread
            let next := cursor.skip (cursor.unread.length - rest.length)
            let (others, after) ← readTagBytes verbatim fuel next
            return (octets ++ others, after)
          else if isTagChar verbatim letter then do
            let (others, after) ← readTagBytes verbatim fuel (cursor.skip 1)
            return (String.utf8EncodeChar letter ++ others, after)
          else some ([], cursor)
      | [] => some ([], cursor)

/-- Read a tag or a part of one, which must not be left out. -/
def readTagText (verbatim : Bool) (cursor : Cursor) : Option (Tag × Cursor) := do
  let (bytes, after) ← readTagBytes verbatim cursor.unread.length cursor
  if bytes.isEmpty then none else some (.ofBytes bytes, after)

/-- Read a handle: an exclamation mark, or a word between two of them. A directive allows nothing
else, while a tag may have letters that belong to no handle. -/
def readHandle (directive : Bool) (cursor : Cursor) : Option (List Char × Cursor) :=
  match cursor.unread with
  | '!' :: _ =>
      let afterMark := cursor.skip 1
      let word := afterMark.takeWhile isWordChar
      let after := afterMark.skipWhile isWordChar
      match after.unread with
      | '!' :: _ => some ('!' :: word ++ ['!'], after.skip 1)
      | _ => if directive && !word.isEmpty then none else some ('!' :: word, after)
  | _ => none

/-- Read a tag that has no handle: what was taken for one is its start. A lone exclamation mark is a
tag of its own. -/
def readLocalTag (start : List Char) (cursor : Cursor) : Option (Token × Cursor) := do
  let (bytes, after) ← readTagBytes false cursor.unread.length cursor
  let suffix := Tag.ofBytes (start.flatMap String.utf8EncodeChar ++ bytes)
  return (if suffix.isEmpty then .tag "" .lone else .tag "!" suffix, after)

/-- Read a tag. In a flow collection a comma may follow it. -/
def readTag (flow : Bool) (cursor : Cursor) : Option (Token × Cursor) := do
  let (token, after) ←
    match cursor.unread with
    | '!' :: '<' :: _ => do
        let (tag, after) ← readTagText true (cursor.skip 2)
        match after.unread with
        | '>' :: _ => some (Token.tag "" tag, after.skip 1)
        | _ => none
    | _ => do
        let (handle, after) ← readHandle false cursor
        if 1 < handle.length && handle.getLast? == some '!' then
          let (suffix, after) ← readTagText false after
          some (Token.tag (String.ofList handle) suffix, after)
        else readLocalTag (handle.drop 1) after
  if endsWord after.unread || (flow && after.unread.head? == some ',') then some (token, after)
  else none

/-! ## Directives -/

/-- Read a number of at most nine digits. -/
def readVersionNumber (cursor : Cursor) : Option (Nat × Cursor) :=
  let digits := cursor.takeWhile Char.isDigit
  if digits.isEmpty || 9 < digits.length then none
  else
    let number := digits.foldl (fun value digit => value * 10 + (digit.toNat - '0'.toNat)) 0
    some (number, cursor.skipWhile Char.isDigit)

/-- Read a directive after its percent sign, with the line break behind it. -/
def readDirective (cursor : Cursor) : Option (Token × Cursor) := do
  let name := String.ofList (cursor.takeWhile isWordChar)
  let after := cursor.skipWhile isWordChar
  if name.isEmpty || !endsWord after.unread then none
  let content := after.skipWhile isBlank
  let (token, after) ←
    match name with
    | "YAML" => do
        let (major, after) ← readVersionNumber content
        match after.unread with
        | '.' :: _ => do
            let (minor, after) ← readVersionNumber (after.skip 1)
            some (Token.versionDirective major minor, after)
        | _ => none
    | "TAG" => do
        let (handle, after) ← readHandle true content
        if !after.unread.head?.any isBlank then none
        let start := after.skipWhile isBlank
        let (replacement, after) ← readTagText true start
        if !endsWord after.unread then none
        some (Token.tagDirective (String.ofList handle) replacement, after)
    | _ => none
  let after := after.skipComment
  if endsLine after.unread then some (token, after.skipBreak) else none

end GuestImage.Yaml
