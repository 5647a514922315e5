import GuestImage.Decimal.Shortest
import GuestImage.Json.Lexer

/-!
# Scalars of a JSON text

The value that a string, a number or a word of a JSON text stands for. A string that leaves half of
a surrogate pair alone has no value, and neither has a number beyond the largest floating-point
number.
-/

namespace GuestImage.Json

/-- A value that is not made of other values. Numbers without fraction and exponent are integers as
far as 64 bits hold them. -/
inductive Scalar where
  | null
  | boolean (value : Bool)
  | integer (value : Int)
  | floating (value : Float)
  | string (value : String)
  deriving Repr

/-- What a scalar is called where a string was expected. -/
def Scalar.found : Scalar → String
  | .null => "null"
  | .boolean value => s!"boolean \x60{value}\x60"
  | .integer value => s!"integer \x60{value}\x60"
  | .floating value => "floating point \x60" ++ (Decimal.ofFloat value).compact ++ "\x60"
  | .string _ => "string"

/-! ## Strings -/

def isHighSurrogate (code : Nat) : Bool :=
  0xD800 ≤ code && code ≤ 0xDBFF

def isLowSurrogate (code : Nat) : Bool :=
  0xDC00 ≤ code && code ≤ 0xDFFF

/-- The character that two surrogates stand for. -/
def ofSurrogates (high low : Nat) : Char :=
  Char.ofNat (0x10000 + (high - 0xD800) * 0x400 + (low - 0xDC00))

/-- The characters that the parts of a string stand for, unless a surrogate stands alone. -/
def characters? : (parts : List StringPart) → Option (List Char)
  | [] => some []
  | .character letter :: rest => (characters? rest).map (letter :: ·)
  | .codeUnit high :: .codeUnit low :: rest =>
      if isHighSurrogate high && isLowSurrogate low then
        (characters? rest).map (ofSurrogates high low :: ·)
      else if isHighSurrogate high || isLowSurrogate high then none
      else (characters? (.codeUnit low :: rest)).map (Char.ofNat high :: ·)
  | .codeUnit code :: rest =>
      if isHighSurrogate code || isLowSurrogate code then none
      else (characters? rest).map (Char.ofNat code :: ·)

/-! ## Numbers -/

def digitValue (letter : Char) : Nat :=
  letter.toNat - '0'.toNat

/-- The largest number that 64 bits hold. -/
def maxWord : Nat := UInt64.size - 1

/-- Append digits to a number as long as 64 bits hold it: the number, and how many digits are
left over. -/
def appendDigits (number : Nat) : (digits : List Char) → Nat × Nat
  | [] => (number, 0)
  | digit :: rest =>
      let next := number * 10 + digitValue digit
      if maxWord < next then (number, (digit :: rest).length) else appendDigits next rest

/-- The largest power of ten that is multiplied or divided by at once. -/
def maxPower : Nat := 308

/-- The number `number * 10 ^ exponent` by at most `fuel + 1` operations, unless it is too large. -/
def scale (number : Float) (exponent : Int) : (fuel : Nat) → Option Float
  | 0 => some number
  | fuel + 1 =>
      if exponent.natAbs ≤ maxPower then
        let power := Float.ofScientific 1 false exponent.natAbs
        let scaled := if 0 ≤ exponent then number * power else number / power
        if scaled.isInf then none else some scaled
      else if number == 0 then some number
      else if 0 ≤ exponent then none
      else scale (number / Float.ofScientific 1 false maxPower) (exponent + maxPower) fuel

/-- The largest exponent that is taken at its value. -/
def maxExponent : Nat := UInt32.size / 2 - 1

namespace Numeral

/-- The floating-point number that a numeral stands for. -/
def float? (numeral : Numeral) : Option Float := do
  let (number, dropped) := appendDigits 0 numeral.whole
  let (number, unread) := appendDigits number numeral.fraction
  let places : Int := (dropped : Int) - ((numeral.fraction.length - unread : Nat) : Int)
  let magnitude ←
    match numeral.exponent? with
    | none => scale number.toFloat places 4
    | some exponent =>
        let size := exponent.digits.foldl (fun value digit => value * 10 + digitValue digit) 0
        if maxExponent < size then
          if number ≠ 0 && !exponent.negative then none else some 0.0
        else
          let power : Int := if exponent.negative then -size else size
          scale number.toFloat (places + power) 4
  return if numeral.negative then -magnitude else magnitude

/-- The integer that a numeral stands for, if it has neither fraction nor exponent and 64 bits hold
it. Zero with a sign is no integer. -/
def integer? (numeral : Numeral) : Option Int :=
  let (number, dropped) := appendDigits 0 numeral.whole
  if numeral.fraction.isEmpty && numeral.exponent?.isNone && dropped = 0 then
    if !numeral.negative then some number
    else if 0 < number && number ≤ UInt64.size / 2 then some (-(number : Int))
    else none
  else none

end Numeral

/-- The value that a spelling stands for, if there is one. -/
def Spelling.value? : Spelling → Option Scalar
  | null => some .null
  | boolean value => some (.boolean value)
  | string parts => (characters? parts).map fun letters => .string (String.ofList letters)
  | number numeral =>
      match numeral.integer? with
      | some value => some (.integer value)
      | none => numeral.float?.map .floating

end GuestImage.Json
