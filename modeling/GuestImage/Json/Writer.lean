/-!
# Writing JSON

The values that reports are made of, and their text over several lines with two spaces of
indentation. Fields keep the order in which they are given. Characters beyond ASCII are written as
they are.
-/

namespace GuestImage.Json

/-- A value of a report. -/
inductive Value where
  | null
  | number (value : Int)
  | string (value : String)
  | array (items : List Value)
  | object (fields : List (String × Value))
  deriving Repr

/-- One character of a string. -/
def escapeChar (letter : Char) : List Char :=
  if letter = '"' then ['\\', '"']
  else if letter = '\\' then ['\\', '\\']
  else if letter = '\x08' then ['\\', 'b']
  else if letter = '\x0c' then ['\\', 'f']
  else if letter = '\n' then ['\\', 'n']
  else if letter = '\r' then ['\\', 'r']
  else if letter = '\t' then ['\\', 't']
  else if letter.toNat < 0x20 then
    ['\\', 'u', '0', '0', Nat.digitChar (letter.toNat / 16), Nat.digitChar (letter.toNat % 16)]
  else [letter]

/-- A string between quotes. -/
def escape (value : String) : String :=
  String.ofList ('"' :: value.toList.flatMap escapeChar ++ ['"'])

/-- The line break before an item at a depth, with the indentation after it. -/
def lineBreak (depth : Nat) : String :=
  "\n" ++ String.ofList (List.replicate (2 * depth) ' ')

/-- Items between brackets, each on lines of its own. -/
def bracketed (opening closing : String) (depth : Nat) (items : List String) : String :=
  if items.isEmpty then opening ++ closing
  else
    let item (text : String) : String := lineBreak (depth + 1) ++ text
    opening ++ String.intercalate "," (items.map item) ++ lineBreak depth ++ closing

mutual

/-- The text of a value at a depth. -/
def Value.render (depth : Nat) : Value → String
  | .null => "null"
  | .number value => toString value
  | .string value => escape value
  | .array items => bracketed "[" "]" depth (renderItems (depth + 1) items)
  | .object fields => bracketed "\x7b" "\x7d" depth (renderFields (depth + 1) fields)

/-- The texts of the items of an array. -/
def renderItems (depth : Nat) : (items : List Value) → List String
  | [] => []
  | item :: rest => item.render depth :: renderItems depth rest

/-- The texts of the fields of an object. -/
def renderFields (depth : Nat) : (fields : List (String × Value)) → List String
  | [] => []
  | (name, value) :: rest =>
      (escape name ++ ": " ++ value.render depth) :: renderFields depth rest

end

/-- The text of a value. -/
def Value.text (value : Value) : String :=
  value.render 0

/-- The string, or null if there is none. -/
def Value.ofString? : Option String → Value
  | none => .null
  | some value => .string value

end GuestImage.Json
