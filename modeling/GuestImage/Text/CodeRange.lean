/-!
# Ranges of code points

Properties of characters are given as lists of closed ranges of code points. The one that recipes
and image names are trimmed by is the Unicode property `White_Space`, so it is wider than the ASCII
blanks that `Char.isWhitespace` knows.
-/

namespace GuestImage.Text

/-- Closed ranges of code points, in ascending order. -/
abbrev CodeRanges := List (Nat × Nat)

/-- Whether a character lies in one of the ranges. -/
def CodeRanges.contains (ranges : CodeRanges) (letter : Char) : Bool :=
  ranges.any fun range => range.1 ≤ letter.toNat && letter.toNat ≤ range.2

/-! ## Blank characters -/

/-- The code points with the property `White_Space`, as closed ranges. -/
def blankRanges : CodeRanges :=
  [(0x0009, 0x000D), (0x0020, 0x0020), (0x0085, 0x0085), (0x00A0, 0x00A0), (0x1680, 0x1680),
    (0x2000, 0x200A), (0x2028, 0x2029), (0x202F, 0x202F), (0x205F, 0x205F), (0x3000, 0x3000)]

/-- Membership in `blankRanges`. -/
def isBlank (letter : Char) : Bool :=
  blankRanges.contains letter

/-- Drop the blank characters at both ends. -/
def trimList (letters : List Char) : List Char :=
  ((letters.dropWhile isBlank).reverse.dropWhile isBlank).reverse

/-- Drop the blank characters at both ends of a string. -/
def trim (text : String) : String :=
  String.ofList (trimList text.toList)

@[simp] theorem toList_trim (text : String) : (trim text).toList = trimList text.toList := by
  simp [trim]

@[simp] theorem trimList_nil : trimList [] = [] := rfl

end GuestImage.Text
