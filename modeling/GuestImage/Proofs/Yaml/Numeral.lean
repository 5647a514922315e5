import Mathlib.Data.List.Forall2
import Mathlib.Data.Nat.Digits.Defs
import GuestImage.Yaml.Datum

/-!
# Numerals

Which texts spell a number without a minus sign: digits without needless zeros, or digits of another
base behind its mark, and a plus sign before them if there is one.
-/

namespace GuestImage.Yaml

/-- Digits of a base, the most significant first, spell a number. -/
def DigitsOf (base : Nat) (digits : List Char) (number : Nat) : Prop :=
  digits ≠ [] ∧ ∃ values : List Nat,
    List.Forall₂ (fun digit value => Text.hexValue? digit = some value ∧ value < base)
      digits values ∧
    number = Nat.ofDigits base values.reverse

/-- A text without a sign spells a number. -/
inductive Unsigned : (letters : List Char) → (number : Nat) → Prop where
  | decimal {letters : List Char} {number : Nat} (digits : DigitsOf 10 letters number)
      (unpadded : letters.head? = some '0' → letters = ['0']) : Unsigned letters number
  | hexadecimal {letters : List Char} {number : Nat} (digits : DigitsOf 16 letters number) :
      Unsigned ('0' :: 'x' :: letters) number
  | octal {letters : List Char} {number : Nat} (digits : DigitsOf 8 letters number) :
      Unsigned ('0' :: 'o' :: letters) number
  | binary {letters : List Char} {number : Nat} (digits : DigitsOf 2 letters number) :
      Unsigned ('0' :: 'b' :: letters) number

/-- A text spells a number without a minus sign. -/
inductive Numeral : (letters : List Char) → (number : Nat) → Prop where
  | plus {letters : List Char} {number : Nat} (unsigned : Unsigned letters number) :
      Numeral ('+' :: letters) number
  | bare {letters : List Char} {number : Nat} (unsigned : Unsigned letters number) :
      Numeral letters number

namespace Datum

/-! ## Digits -/

theorem digitIn?_eq_some_iff {base value : Nat} {digit : Char} :
    digitIn? base digit = some value ↔ Text.hexValue? digit = some value ∧ value < base := by
  rw [digitIn?, Option.filter_eq_some_iff, decide_eq_true_iff]

theorem foldlM_digits_eq_some_iff {base number : Nat} {digits : List Char} (start : Nat) :
    digits.foldlM (fun value digit => (digitIn? base digit).map (value * base + ·)) start =
        some number ↔
      ∃ values : List Nat,
        List.Forall₂ (fun digit value => Text.hexValue? digit = some value ∧ value < base)
          digits values ∧
        number = Nat.ofDigits base (values.reverse ++ [start]) := by
  induction digits generalizing start with
  | nil =>
      simp only [List.foldlM_nil, List.forall₂_nil_left_iff, exists_eq_left, List.reverse_nil,
        List.nil_append, Nat.ofDigits_singleton]
      exact ⟨fun same => (Option.some.inj same).symm, fun same => congrArg some same.symm⟩
  | cons digit digits ih =>
      have shifted (value : Nat) (values : List Nat) :
          Nat.ofDigits base (values.reverse ++ [start * base + value]) =
            Nat.ofDigits base ((value :: values).reverse ++ [start]) := by
        rw [List.reverse_cons, List.append_assoc, Nat.ofDigits_append, Nat.ofDigits_append,
          List.singleton_append, Nat.ofDigits_singleton, Nat.ofDigits_cons,
          Nat.ofDigits_singleton, Nat.mul_comm start, Nat.add_comm (base * start)]
      simp only [List.foldlM_cons, Option.bind_eq_bind, Option.bind_eq_some_iff,
        Option.map_eq_some_iff, digitIn?_eq_some_iff, ih, List.forall₂_cons_left_iff]
      constructor
      · rintro ⟨_, ⟨value, first, rfl⟩, values, others, rfl⟩
        exact ⟨value :: values, ⟨value, values, first, others, rfl⟩, shifted value values⟩
      · rintro ⟨_, ⟨value, values, first, others, rfl⟩, rfl⟩
        exact ⟨_, ⟨value, first, rfl⟩, values, others, (shifted value values).symm⟩

theorem numberIn?_eq_some_iff {base number : Nat} {digits : List Char} :
    numberIn? base digits = some number ↔ DigitsOf base digits number := by
  have unstarted (values : List Nat) :
      Nat.ofDigits base (values.reverse ++ [0]) = Nat.ofDigits base values.reverse := by
    rw [Nat.ofDigits_append, Nat.ofDigits_singleton, Nat.mul_zero, Nat.add_zero]
  rw [numberIn?, DigitsOf]
  cases digits with
  | nil => simp
  | cons digit digits =>
      rw [List.isEmpty_cons, if_neg Bool.false_ne_true, foldlM_digits_eq_some_iff]
      simp only [unstarted, ne_eq, reduceCtorEq, not_false_eq_true, true_and]

/-! ## Marks and signs -/

theorem isDigit_of_hexValue? {letter : Char} {value : Nat}
    (valued : Text.hexValue? letter = some value) (small : value < 10) :
    letter.isDigit = true := by
  rw [Text.hexValue?] at valued
  split at valued
  case isTrue digit => exact digit
  case isFalse =>
    split at valued
    · cases valued
      omega
    · split at valued <;> cases valued
      omega

theorem isDigit_of_digitsOf {letters : List Char} {number : Nat}
    (digits : DigitsOf 10 letters number) : ∀ letter ∈ letters, letter.isDigit = true := by
  rcases digits with ⟨-, values, each, -⟩
  intro letter member
  rcases List.getElem_of_mem member with ⟨place, inside, rfl⟩
  have own := each.get inside (each.length_eq ▸ inside)
  exact isDigit_of_hexValue? own.1 own.2

/-- The digits of a number hold no mark. -/
theorem marked?_of_isDigit {letters : List Char}
    (digits : ∀ letter ∈ letters, letter.isDigit = true) : marked? letters = none := by
  rw [marked?.eq_def]
  split
  case h_4 => rfl
  all_goals exact absurd (digits _ (List.mem_cons_of_mem _ List.mem_cons_self)) (by decide)

theorem isZeroPadded_of_isDigit {letters : List Char}
    (digits : ∀ letter ∈ letters, letter.isDigit = true) :
    isZeroPadded letters = true ↔ letters.head? = some '0' ∧ letters ≠ ['0'] := by
  rw [isZeroPadded.eq_def]
  split
  · exact absurd (digits '-' List.mem_cons_self) (by decide)
  · exact absurd (digits '+' List.mem_cons_self) (by decide)
  · dsimp only
    split
    case h_1 second rest =>
      simpa using fun letter member => digits letter (List.mem_cons_of_mem _ member)
    case h_2 other =>
      refine iff_of_false Bool.false_ne_true ?_
      rintro ⟨zero, long⟩
      cases letters with
      | nil => cases zero
      | cons first rest =>
          obtain rfl : first = '0' := Option.some.inj zero
          cases rest with
          | nil => exact long rfl
          | cons second rest => exact other second rest rfl

/-- A plus sign does not make up for a needless zero. -/
theorem isZeroPadded_plus {letters : List Char}
    (digits : ∀ letter ∈ letters, letter.isDigit = true) :
    isZeroPadded ('+' :: letters) = isZeroPadded letters := by
  rw [isZeroPadded.eq_def letters]
  split
  · exact absurd (digits '-' List.mem_cons_self) (by decide)
  · exact absurd (digits '+' List.mem_cons_self) (by decide)
  · rfl

theorem unsigned_of_marked? {letters : List Char} {number : Nat}
    (marked : marked? letters = some number) : Unsigned letters number := by
  rw [marked?.eq_def] at marked
  split at marked
  case h_1 => exact .hexadecimal (numberIn?_eq_some_iff.mp marked)
  case h_2 => exact .octal (numberIn?_eq_some_iff.mp marked)
  case h_3 => exact .binary (numberIn?_eq_some_iff.mp marked)
  case h_4 => cases marked

/-- The reading of a text without a sign, if it is known when it is needlessly long. -/
theorem or_numberIn?_eq_some_iff {letters : List Char} {number : Nat} {padded : Bool}
    (known : (∀ letter ∈ letters, letter.isDigit = true) →
      (padded = true ↔ letters.head? = some '0' ∧ letters ≠ ['0'])) :
    (marked? letters).or (if padded then none else numberIn? 10 letters) = some number ↔
      Unsigned letters number := by
  constructor
  · intro read
    cases marked : marked? letters with
    | some other =>
        rw [marked, Option.some_or, Option.some.injEq] at read
        exact unsigned_of_marked? (read ▸ marked)
    | none =>
        rw [marked, Option.none_or] at read
        split at read
        case isTrue => cases read
        case isFalse short =>
          have digits := numberIn?_eq_some_iff.mp read
          refine .decimal digits ?_
          intro zero
          by_contra long
          exact short ((known (isDigit_of_digitsOf digits)).mpr ⟨zero, long⟩)
  · intro unsigned
    cases unsigned with
    | decimal digits unpadded =>
        have decimal := isDigit_of_digitsOf digits
        have short : padded = false := by
          rw [Bool.eq_false_iff, ne_eq, known decimal]
          exact fun ⟨zero, long⟩ => long (unpadded zero)
        rw [marked?_of_isDigit decimal, short]
        exact numberIn?_eq_some_iff.mpr digits
    | hexadecimal digits | octal digits | binary digits =>
        rw [marked?, numberIn?_eq_some_iff.mpr digits]
        rfl

theorem natural?_eq_some_iff {letters : List Char} {number : Nat} :
    natural? letters = some number ↔ Numeral letters number := by
  rw [natural?.eq_def]
  dsimp only
  split
  case h_1 rest =>
    rw [or_numberIn?_eq_some_iff]
    · constructor
      · exact .plus
      · intro numeral
        cases numeral with
        | plus unsigned => exact unsigned
        | bare unsigned =>
            cases unsigned with
            | decimal digits =>
                exact absurd (isDigit_of_digitsOf digits '+' List.mem_cons_self) (by decide)
    · intro digits
      rw [isZeroPadded_plus digits, isZeroPadded_of_isDigit digits]
  case h_2 noPlus =>
    rw [or_numberIn?_eq_some_iff isZeroPadded_of_isDigit]
    constructor
    · exact .bare
    · intro numeral
      cases numeral with
      | plus => exact absurd rfl (noPlus _)
      | bare unsigned => exact unsigned

end Datum

end GuestImage.Yaml
