import GuestImage.Text.Encoding

/-!
# Bytes of a text and texts of bytes

A text is determined by its bytes, and bytes by their hexadecimal digits.
-/

namespace GuestImage.Text

theorem bytes_injective {first second : String} (same : bytes first = bytes second) :
    first = second := by
  have encoded (text : String) : (bytes text).toByteArray = text.toByteArray := by
    have spelled := String.toByteArray_ofList (l := text.toList)
    rw [String.ofList_toList] at spelled
    exact spelled.symm
  rw [← String.toByteArray_inj, ← encoded, ← encoded, same]

@[simp] theorem bytes_append (first second : String) :
    bytes (first ++ second) = bytes first ++ bytes second := by
  simp [bytes]

/-! ## Hexadecimal digits -/

/-- The digits that bytes are written with. -/
def hexDigits : List Char :=
  "0123456789abcdef".toList

theorem exists_digit {value : UInt8} (small : value < 16) :
    ∃ digit : Fin 16, value = UInt8.ofNat digit := by
  rw [UInt8.lt_iff_toNat_lt] at small
  exact ⟨⟨value.toNat, small⟩, by simp⟩

theorem hexDigit_mem {value : UInt8} (small : value < 16) : hexDigit value ∈ hexDigits := by
  rcases exists_digit small with ⟨digit, rfl⟩
  revert digit
  decide

theorem hexValue?_hexDigit {value : UInt8} (small : value < 16) :
    hexValue? (hexDigit value) = some value.toNat := by
  rcases exists_digit small with ⟨digit, rfl⟩
  revert digit
  decide

theorem toNat_high (byte : UInt8) : (byte >>> 4).toNat = byte.toNat / 16 := by
  simp [UInt8.toNat_shiftRight, Nat.shiftRight_eq_div_pow]

theorem toNat_low (byte : UInt8) : (byte &&& 0x0F).toNat = byte.toNat % 16 := by
  rw [UInt8.toNat_and]
  exact Nat.and_two_pow_sub_one_eq_mod byte.toNat 4

theorem high_lt (byte : UInt8) : byte >>> 4 < 16 := by
  have bound := byte.toNat_lt
  rw [UInt8.lt_iff_toNat_lt, toNat_high]
  simp
  omega

theorem low_lt (byte : UInt8) : byte &&& 0x0F < 16 := by
  rw [UInt8.lt_iff_toNat_lt, toNat_low]
  exact Nat.mod_lt _ (by decide)

theorem toList_hex (bytes : List UInt8) : (hex bytes).toList = bytes.flatMap hexByte :=
  String.toList_ofList

@[simp] theorem length_toList_hex (bytes : List UInt8) :
    (hex bytes).toList.length = 2 * bytes.length := by
  rw [toList_hex]
  induction bytes with
  | nil => rfl
  | cons byte bytes ih => simp [hexByte, ih]; omega

theorem mem_hexDigits {bytes : List UInt8} {letter : Char} (member : letter ∈ (hex bytes).toList) :
    letter ∈ hexDigits := by
  rw [toList_hex, List.mem_flatMap] at member
  rcases member with ⟨byte, -, digit⟩
  simp only [hexByte, List.mem_cons, List.not_mem_nil, or_false] at digit
  rcases digit with rfl | rfl
  · exact hexDigit_mem (high_lt byte)
  · exact hexDigit_mem (low_lt byte)

theorem hexDigit_injective {first second : UInt8} (smallFirst : first < 16)
    (smallSecond : second < 16) (same : hexDigit first = hexDigit second) :
    first.toNat = second.toNat := by
  have values := congrArg hexValue? same
  rw [hexValue?_hexDigit smallFirst, hexValue?_hexDigit smallSecond] at values
  exact Option.some.inj values

theorem hexByte_injective {first second : UInt8} (same : hexByte first = hexByte second) :
    first = second := by
  simp only [hexByte, List.cons.injEq, and_true] at same
  have high := hexDigit_injective (high_lt first) (high_lt second) same.1
  have low := hexDigit_injective (low_lt first) (low_lt second) same.2
  rw [toNat_high, toNat_high] at high
  rw [toNat_low, toNat_low] at low
  apply UInt8.toNat_inj.mp
  omega

/-- Digits spell bytes in one way, since every byte has two of them. -/
theorem hex_injective {first second : List UInt8} (same : hex first = hex second) :
    first = second := by
  have digits := congrArg String.toList same
  rw [toList_hex, toList_hex] at digits
  clear same
  induction first generalizing second with
  | nil =>
      cases second with
      | nil => rfl
      | cons byte second => simp [hexByte] at digits
  | cons byte first ih =>
      cases second with
      | nil => simp [hexByte] at digits
      | cons other second =>
          rw [List.flatMap_cons, List.flatMap_cons] at digits
          have parts := List.append_inj digits rfl
          rw [hexByte_injective parts.1, ih parts.2]

end GuestImage.Text
