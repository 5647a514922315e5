import GuestImage.Text.Encoding

/-!
# Sixteen-bit units

The units of a text are its UTF-16 encoding: one unit for a character below `U+10000`, and two
surrogates, with ten bits each, for any other character.
-/

namespace GuestImage.Text

/-- These units encode these characters. -/
inductive Encodes : (letters : List Char) → (units : List UInt16) → Prop where
  | nil : Encodes [] []
  | single {letter : Char} {rest : List Char} {unit : UInt16} {units : List UInt16}
      (code : letter.toNat = unit.toNat) (later : Encodes rest units) :
      Encodes (letter :: rest) (unit :: units)
  | surrogates {letter : Char} {rest : List Char} {high low : UInt16} {units : List UInt16}
      (isHigh : 0xD800 ≤ high.toNat ∧ high.toNat < 0xDC00)
      (isLow : 0xDC00 ≤ low.toNat ∧ low.toNat < 0xE000)
      (code : letter.toNat = 0x10000 + (high.toNat - 0xD800) * 0x400 + (low.toNat - 0xDC00))
      (later : Encodes rest units) :
      Encodes (letter :: rest) (high :: low :: units)

theorem toNat_lt_of_char (letter : Char) : letter.toNat < 0x110000 := by
  have valid := letter.valid
  simp only [UInt32.isValidChar, Nat.isValidChar] at valid
  have code : letter.toNat = letter.val.toNat := rfl
  omega

theorem encodes_cons (letter : Char) {rest : List Char} {later : List UInt16}
    (encodes : Encodes rest later) : Encodes (letter :: rest) (unitsOfChar letter ++ later) := by
  have bound := toNat_lt_of_char letter
  rw [unitsOfChar]
  by_cases basic : letter.toNat < 0x10000
  · rw [if_pos basic]
    refine .single ?code encodes
    case code =>
      rw [UInt16.toNat_ofNat_of_lt' basic]
  · rw [if_neg basic]
    have high : (0xD800 + (letter.toNat - 0x10000) / 0x400).toUInt16.toNat =
        0xD800 + (letter.toNat - 0x10000) / 0x400 := by
      apply UInt16.toNat_ofNat_of_lt'
      simp only [UInt16.size]
      omega
    have low : (0xDC00 + (letter.toNat - 0x10000) % 0x400).toUInt16.toNat =
        0xDC00 + (letter.toNat - 0x10000) % 0x400 := by
      apply UInt16.toNat_ofNat_of_lt'
      simp only [UInt16.size]
      omega
    refine .surrogates ?isHigh ?isLow ?code encodes
    case isHigh =>
      rw [high]
      omega
    case isLow =>
      rw [low]
      omega
    case code =>
      rw [high, low]
      omega

/-- The units of a text encode its characters. -/
theorem encodes_units (text : String) : Encodes text.toList (units text) := by
  rw [units]
  induction text.toList with
  | nil => exact .nil
  | cons letter rest ih => exact encodes_cons letter ih

@[simp] theorem units_append (first second : String) :
    units (first ++ second) = units first ++ units second := by
  simp [units]

end GuestImage.Text
