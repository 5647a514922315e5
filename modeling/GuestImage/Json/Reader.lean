import GuestImage.Decode
import GuestImage.Json.Scalar

/-!
# Reading JSON

A text is well formed if its tokens make up exactly one value. Variants of a name table are read
from such texts: a string that is one of the names. Scalars inside of an array or an object need no
value, as they are not looked at.
-/

namespace GuestImage.Json

/-- A container that is still open. -/
inductive Container where
  | array
  | object
  deriving DecidableEq, Repr

/-- What may come next in a text. -/
inductive Expecting where
  | value
  /-- A value, or the end of the array just opened. -/
  | valueOrEnd
  | key
  /-- A key, or the end of the object just opened. -/
  | keyOrEnd
  | colon
  /-- What may follow a value: a comma, the end of its container, or the end of the text. -/
  | more
  deriving DecidableEq, Repr

/-- Whether the tokens complete the open containers. -/
def completes (stack : List Container) (expecting : Expecting) : (tokens : List Token) → Bool
  | [] => stack.isEmpty && expecting = .more
  | token :: rest =>
      match expecting, token, stack with
      | .value, .scalar _, _ => completes stack .more rest
      | .valueOrEnd, .scalar _, _ => completes stack .more rest
      | .value, .openArray, _ => completes (.array :: stack) .valueOrEnd rest
      | .valueOrEnd, .openArray, _ => completes (.array :: stack) .valueOrEnd rest
      | .value, .openObject, _ => completes (.object :: stack) .keyOrEnd rest
      | .valueOrEnd, .openObject, _ => completes (.object :: stack) .keyOrEnd rest
      | .valueOrEnd, .closeArray, _ :: outer => completes outer .more rest
      | .key, .scalar (.string _), _ => completes stack .colon rest
      | .keyOrEnd, .scalar (.string _), _ => completes stack .colon rest
      | .keyOrEnd, .closeObject, _ :: outer => completes outer .more rest
      | .colon, .colon, _ => completes stack .value rest
      | .more, .comma, .array :: _ => completes stack .value rest
      | .more, .comma, .object :: _ => completes stack .key rest
      | .more, .closeArray, .array :: outer => completes outer .more rest
      | .more, .closeObject, .object :: outer => completes outer .more rest
      | _, _, _ => false

/-- The place after the first `count` characters of a text: its line, and how many characters of
that line come before it. -/
def positionAfter (letters : List Char) (count : Nat) : Decode.Position :=
  let before := letters.take count
  ⟨before.count '\n' + 1, (before.reverse.takeWhile (· != '\n')).length⟩

/-- The string that a text holds. -/
def decodeString (text : String) : Except Decode.Error String :=
  let letters := text.toList
  let wrongType (found : String) (count : Nat) : Except Decode.Error String :=
    .error (.mismatch (.wrongType found "a string") none (some (positionAfter letters count)))
  match tokens letters.length letters with
  | none => .error .malformed
  | some placed =>
      if completes [] .value (placed.map (·.1)) then
        match placed with
        | (.scalar spelling, rest) :: _ =>
            match spelling.value? with
            | none => .error .malformed
            | some (.string value) => .ok value
            | some value => wrongType value.found (letters.length - rest.length)
        | (.openArray, rest) :: _ => wrongType "sequence" (letters.length - (rest.length + 1))
        | (_, rest) :: _ => wrongType "map" (letters.length - (rest.length + 1))
        | [] => .error .malformed
      else .error .malformed

end GuestImage.Json

namespace GuestImage.NameTable

variable {α : Type}

/-- The variant whose name a JSON text holds. -/
def ofJson (table : NameTable α) (text : String) : Except Decode.Error α := do
  let name ← Json.decodeString text
  match table.parse name with
  | .ok value => return value
  | .error unknown => throw (.mismatch (.unknownName unknown) none none)

end GuestImage.NameTable
