import GuestImage.Decimal.Shortest
import GuestImage.Text.Encoding
import GuestImage.Text.Excerpt
import GuestImage.Yaml.Node

/-!
# Scalars as data

What a scalar stands for. A plain scalar may be null, a boolean, an integer, a floating-point number
or else a string; a quoted one is a string. A tag of the core schema overrides this, and then the
text must fit it.
-/

namespace GuestImage.Yaml

/-- What a scalar stands for. A floating-point number is given by its decimal text. -/
inductive Datum where
  | null
  | boolean (value : Bool)
  | integer (value : Int)
  | floating (text : String)
  | string (text : String)
  deriving DecidableEq, Repr

namespace Datum

/-! ## Readings of a text -/

def isNull (text : String) : Bool :=
  ["null", "Null", "NULL", "~"].contains text

def boolean? (text : String) : Option Bool :=
  if ["true", "True", "TRUE"].contains text then some true
  else if ["false", "False", "FALSE"].contains text then some false
  else none

/-- The value of a digit in any base up to sixteen. -/
def digitIn? (base : Nat) (letter : Char) : Option Nat :=
  (Text.hexValue? letter).filter (· < base)

/-- The number that digits spell in a base; there must be at least one. -/
def numberIn? (base : Nat) (digits : List Char) : Option Nat :=
  if digits.isEmpty then none
  else digits.foldlM (fun value digit => (digitIn? base digit).map (value * base + ·)) 0

/-- The number after a base mark, as in `0x1F`. -/
def marked? : (letters : List Char) → Option Nat
  | '0' :: 'x' :: digits => numberIn? 16 digits
  | '0' :: 'o' :: digits => numberIn? 8 digits
  | '0' :: 'b' :: digits => numberIn? 2 digits
  | _ => none

/-- Whether a text is a zero and more digits, which is no number. -/
def isZeroPadded (letters : List Char) : Bool :=
  let digits :=
    match letters with
    | '-' :: rest | '+' :: rest => rest
    | _ => letters
  match digits with
  | '0' :: second :: rest => (second :: rest).all Char.isDigit
  | _ => false

/-- The number of a text without sign or with a plus sign. -/
def natural? (letters : List Char) : Option Nat :=
  let unsigned :=
    match letters with
    | '+' :: rest => rest
    | _ => letters
  (marked? unsigned).or (if isZeroPadded letters then none else numberIn? 10 unsigned)

/-- The integer of a text. -/
def integer? (letters : List Char) : Option Int :=
  match natural? letters with
  | some value => some value
  | none =>
      match letters with
      | '-' :: digits =>
          ((marked? digits).or (if isZeroPadded letters then none else numberIn? 10 digits)).map
            fun value => -(value : Int)
      | _ => none

/-- How many values 64 bits hold. -/
def wordSize : Int := UInt64.size

/-- How many values 128 bits hold. -/
def doubleWordSize : Int := wordSize * wordSize

/-- Whether an integer is taken as one: a larger one is a floating-point number, or a string. -/
def isInteger (value : Int) : Bool :=
  -(doubleWordSize / 2) ≤ value && value < doubleWordSize

/-- Whether 64 bits hold an integer. -/
def fitsWord (value : Int) : Bool :=
  -(wordSize / 2) ≤ value && value < wordSize

/-- Split digits off the front of a text. -/
def spanDigits (letters : List Char) : List Char × List Char :=
  (letters.takeWhile Char.isDigit, letters.dropWhile Char.isDigit)

/-- The exponent after its letter. -/
def exponent? : (letters : List Char) → Option Int
  | '-' :: digits => (numberIn? 10 digits).map fun value => -(value : Int)
  | '+' :: digits => (numberIn? 10 digits).map fun value => (value : Int)
  | digits => (numberIn? 10 digits).map fun value => (value : Int)

/-- The nearest floating-point number to `mantissa * 10 ^ exponent`, if it is finite. -/
def nearest? (mantissa : Nat) (exponent : Int) : Option Float :=
  let magnitude : Int := (toString mantissa).length + exponent
  if mantissa = 0 || magnitude < -330 then some 0.0
  else if 310 < magnitude then none
  else
    let value := Float.ofScientific mantissa (exponent < 0) exponent.natAbs
    if value.isInf then none else some value

/-- The finite floating-point number of a text without sign. -/
def magnitude? (letters : List Char) : Option Float := do
  let (whole, afterWhole) := spanDigits letters
  let (fraction, rest) :=
    match afterWhole with
    | '.' :: after => spanDigits after
    | _ => ([], afterWhole)
  let mantissa ← numberIn? 10 (whole ++ fraction)
  let exponent ←
    match rest with
    | [] => some 0
    | letter :: digits => if letter = 'e' || letter = 'E' then exponent? digits else none
  nearest? mantissa (exponent - fraction.length)

/-- The text of a floating-point number. -/
def floating? (text : String) : Option String :=
  let letters := text.toList
  let unsigned :=
    match letters with
    | '+' :: rest => rest
    | _ => letters
  if [".inf", ".Inf", ".INF"].contains (String.ofList unsigned) then some "inf"
  else if ["-.inf", "-.Inf", "-.INF"].contains text then some "-inf"
  else if [".nan", ".NaN", ".NAN"].contains text then some "NaN"
  else
    let value? :=
      match letters with
      | '-' :: rest => (magnitude? rest).map (-·)
      | '+' :: rest => magnitude? rest
      | _ => magnitude? letters
    value?.map fun value => (Decimal.ofFloat value).positional

/-- What a plain text without a tag stands for. -/
def ofPlain (text : String) : Datum :=
  if text.isEmpty || isNull text then .null
  else
    match boolean? text, (integer? text.toList).filter isInteger with
    | some value, _ => .boolean value
    | none, some value => .integer value
    | none, none =>
        if isZeroPadded text.toList then .string text
        else
          match floating? text with
          | some value => .floating value
          | none => .string text

/-! ## Tagged scalars -/

/-- The types whose tags of the core schema decide how a text is read. -/
inductive CoreType where
  | boolean
  | integer
  | floating
  | null
  deriving DecidableEq, Repr

namespace CoreType

/-- The name of a type in its tag. -/
def name : CoreType → String
  | boolean => "bool"
  | integer => "int"
  | floating => "float"
  | null => "null"

/-- The type that a tag names. -/
def ofTag? (tag : Tag) : Option CoreType :=
  [boolean, integer, floating, null].find? fun type => Tag.core type.name = tag

/-- What a text of the type is called where another text stands. -/
def expected : CoreType → String
  | boolean => "a boolean"
  | integer => "an integer"
  | floating => "a float"
  | null => "null"

/-- What a text stands for under the tag of the type. -/
def read? (type : CoreType) (text : String) : Option Datum :=
  match type with
  | boolean => (boolean? text).map .boolean
  | integer => ((integer? text.toList).filter isInteger).map .integer
  | floating => (floating? text).map .floating
  | null => if isNull text then some .null else none

end CoreType

/-- What a scalar without a tag of a core type stands for. Local tags say nothing about a plain
text. -/
def ofUntyped (tag? : Option Tag) (style : Style) (text : String) : Datum :=
  if style = .plain && tag?.all Tag.isLocal then ofPlain text else .string text

/-- What a scalar stands for; where its text does not fit its tag, the type that the tag names. -/
def ofScalar (tag? : Option Tag) (style : Style) (text : String) : Except CoreType Datum :=
  match tag?.bind CoreType.ofTag? with
  | some type =>
      match type.read? text with
      | some datum => .ok datum
      | none => .error type
  | none => .ok (ofUntyped tag? style text)

/-- What a scalar is called where something else was expected. -/
def found : Datum → String
  | null => "unit value"
  | boolean value => s!"boolean \x60{value}\x60"
  | integer value => s!"integer \x60{value}\x60"
  | floating text => s!"floating point \x60{text}\x60"
  | string text => s!"string {Text.quote text}"

end Datum

end GuestImage.Yaml
