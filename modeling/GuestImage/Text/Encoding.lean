/-!
# Encodings of a text

The code units of a text in its two interchange forms: 16-bit units, which fingerprints count, and
bytes, which digests read. Bytes are shown as pairs of lower-case hexadecimal digits, and numbers
are read from digits of either case.
-/

namespace GuestImage.Text

/-- The 16-bit units of one character: itself, or a high and a low surrogate above `U+FFFF`. -/
def unitsOfChar (letter : Char) : List UInt16 :=
  let code := letter.toNat
  if code < 0x10000 then [code.toUInt16]
  else
    let offset := code - 0x10000
    [(0xD800 + offset / 0x400).toUInt16, (0xDC00 + offset % 0x400).toUInt16]

/-- The 16-bit units of a text, in order. -/
def units (text : String) : List UInt16 :=
  text.toList.flatMap unitsOfChar

/-- The UTF-8 bytes of a text, in order. -/
def bytes (text : String) : List UInt8 :=
  text.toList.flatMap String.utf8EncodeChar

/-! ## Hexadecimal digits -/

/-- The digit of a value below sixteen. -/
def hexDigit (value : UInt8) : Char :=
  if value < 10 then Char.ofNat ('0'.toNat + value.toNat)
  else Char.ofNat ('a'.toNat + (value.toNat - 10))

/-- The two digits of a byte, the more significant first. -/
def hexByte (byte : UInt8) : List Char :=
  [hexDigit (byte >>> 4), hexDigit (byte &&& 0x0F)]

/-- The digits of all bytes, in order. -/
def hex (bytes : List UInt8) : String :=
  String.ofList (bytes.flatMap hexByte)

/-- The value of a hexadecimal digit. -/
def hexValue? (letter : Char) : Option Nat :=
  if letter.isDigit then some (letter.toNat - '0'.toNat)
  else if 'a' ≤ letter && letter ≤ 'f' then some (letter.toNat - 'a'.toNat + 10)
  else if 'A' ≤ letter && letter ≤ 'F' then some (letter.toNat - 'A'.toNat + 10)
  else none

/-- The number that hexadecimal digits spell. -/
def hexNumber? (digits : List Char) : Option Nat :=
  digits.foldlM (fun value digit => (hexValue? digit).map (value * 16 + ·)) 0

end GuestImage.Text
