/-!
# Shortest decimals

The decimal that stands for a binary floating-point number is the one with the fewest digits that
reads back as the same number; of several, the nearest. All arithmetic is exact.
-/

namespace GuestImage

/-- The decimal `digits * 10 ^ exponent`, with a sign. -/
structure Decimal where
  negative : Bool
  digits : Nat
  exponent : Int
  deriving DecidableEq, Repr

namespace Decimal

/-- A positive binary number `mantissa * 2 ^ exponent`. Below a power of two its neighbours are
only half as far away as above, unless the exponent is the smallest. -/
structure Binary where
  mantissa : Nat
  exponent : Int
  closerBelow : Bool
  deriving DecidableEq, Repr

/-- The first bit of a mantissa, which the fraction field leaves out. -/
def leadingBit : Nat := 1 <<< 52

/-- The number that the exponent and fraction fields of a 64-bit pattern stand for. -/
def Binary.ofFields (exponentField fraction : Nat) : Binary :=
  if exponentField = 0 then ⟨fraction, -1074, false⟩
  else ⟨leadingBit + fraction, (exponentField : Int) - 1075, fraction = 0 && 1 < exponentField⟩

/-- A non-negative fraction. -/
structure Fraction where
  numerator : Nat
  denominator : Nat

/-- The fraction `factor * base ^ exponent`. -/
def Fraction.scaled (factor base : Nat) (exponent : Int) : Fraction :=
  if 0 ≤ exponent then ⟨factor * Nat.pow base exponent.toNat, 1⟩
  else ⟨factor, Nat.pow base (-exponent).toNat⟩

def Fraction.le (left right : Fraction) : Bool :=
  left.numerator * right.denominator ≤ right.numerator * left.denominator

def Fraction.lt (left right : Fraction) : Bool :=
  left.numerator * right.denominator < right.numerator * left.denominator

/-- The distance between two fractions. -/
def Fraction.distance (left right : Fraction) : Fraction :=
  let first := left.numerator * right.denominator
  let second := right.numerator * left.denominator
  ⟨(first - second) + (second - first), left.denominator * right.denominator⟩

/-- Whether a fraction reads back as the given number: it lies between the midpoints to the
neighbours, which belong to numbers with an even mantissa. -/
def Binary.covers (binary : Binary) (candidate : Fraction) : Bool :=
  let below := if binary.closerBelow then 1 else 2
  let lower := Fraction.scaled (4 * binary.mantissa - below) 2 (binary.exponent - 2)
  let upper := Fraction.scaled (4 * binary.mantissa + 2) 2 (binary.exponent - 2)
  if binary.mantissa % 2 = 0 then lower.le candidate && candidate.le upper
  else lower.lt candidate && candidate.lt upper

/-- The place of the first digit of a positive fraction: the largest `place` with
`10 ^ place ≤ value`, searched downwards from a bound. -/
def leadingPlace (value : Fraction) : (fuel : Nat) → (place : Int) → Int
  | 0, place => place
  | fuel + 1, place =>
      if (Fraction.scaled 1 10 place).le value then place
      else leadingPlace value fuel (place - 1)

/-- The nearer of the two neighbours of a number on the grid of multiples of `10 ^ place` that
reads back as it, if one does. -/
def Binary.onGrid? (binary : Binary) (place : Int) : Option Nat :=
  let value := Fraction.scaled binary.mantissa 2 binary.exponent
  let step := Fraction.scaled 1 10 place
  let floor := (value.numerator * step.denominator) / (value.denominator * step.numerator)
  let point (digits : Nat) : Fraction := Fraction.scaled digits 10 place
  let low := binary.covers (point floor)
  let high := binary.covers (point (floor + 1))
  let highNearer := ((point (floor + 1)).distance value).lt ((point floor).distance value)
  if low && high then some (if highNearer then floor + 1 else floor)
  else if low then some floor
  else if high then some (floor + 1)
  else none

/-- The first grid on which a number is found, from coarse to fine. -/
def Binary.search (binary : Binary) : (fuel : Nat) → (place : Int) → Nat × Int
  | 0, place => (0, place)
  | fuel + 1, place =>
      match binary.onGrid? place with
      | some digits => (digits, place)
      | none => binary.search fuel (place - 1)

/-- Move trailing zeros of the digits into the exponent. -/
def dropZeros : (fuel : Nat) → (digits : Nat) → (exponent : Int) → Nat × Int
  | 0, digits, exponent => (digits, exponent)
  | fuel + 1, digits, exponent =>
      if digits ≠ 0 && digits % 10 = 0 then dropZeros fuel (digits / 10) (exponent + 1)
      else (digits, exponent)

/-- The shortest decimal of a finite number. -/
def ofFloat (value : Float) : Decimal :=
  let bits := value.toBits.toNat
  let negative := bits >>> 63 = 1
  let binary := Binary.ofFields ((bits >>> 52) % 2048) (bits % leadingBit)
  if binary.mantissa = 0 then ⟨negative, 0, 0⟩
  else
    let place := leadingPlace (Fraction.scaled binary.mantissa 2 binary.exponent) 700 310
    let (digits, exponent) := binary.search 20 place
    let (digits, exponent) := dropZeros 20 digits exponent
    ⟨negative, digits, exponent⟩

/-! ## Layouts -/

/-- The sign that is written before the digits. -/
def sign (decimal : Decimal) : String :=
  if decimal.negative then "-" else ""

def zeros (count : Nat) : String :=
  String.ofList (List.replicate count '0')

/-- The digits with a point after the first `before` of them, or with zeros where there are
none. A whole number ends in `.0`. -/
def pointed (digits : String) (exponent : Int) : String :=
  let before := (digits.length : Int) + exponent
  if 0 ≤ exponent then digits ++ zeros exponent.toNat ++ ".0"
  else if 0 < before then
    String.ofList (digits.toList.take before.toNat) ++ "." ++
      String.ofList (digits.toList.drop before.toNat)
  else "0." ++ zeros (-before).toNat ++ digits

/-- All digits written out, whatever the exponent. -/
def positional (decimal : Decimal) : String :=
  decimal.sign ++ pointed (toString decimal.digits) decimal.exponent

/-- An exponent with its sign and at least two digits. -/
def exponentText (exponent : Int) : String :=
  let digits := toString exponent.natAbs
  (if exponent < 0 then "-" else "+") ++ zeros (2 - digits.length) ++ digits

/-- Digits written out where the point falls less than five places before the first digit or at
most sixteen after it, and with a power of ten otherwise. -/
def compact (decimal : Decimal) : String :=
  let digits := toString decimal.digits
  let before := (digits.length : Int) + decimal.exponent
  if decimal.digits = 0 || (-5 < before && before ≤ 16) then
    decimal.sign ++ pointed digits decimal.exponent
  else
    let fraction := String.ofList (digits.toList.drop 1)
    decimal.sign ++ String.ofList (digits.toList.take 1) ++
      (if fraction.isEmpty then "" else "." ++ fraction) ++ "e" ++
        exponentText (before - 1)

end Decimal

end GuestImage
