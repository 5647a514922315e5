import GuestImage.Command.Basic
import GuestImage.Proofs.Text.Units
import Mathlib.Algebra.BigOperators.Fin
import Mathlib.Data.Int.ModEq
import Mathlib.Tactic.Ring

/-!
# Fingerprints

A fingerprint is a polynomial at 31 of a kind's ordinal and of the units of an argument, taken
modulo `2 ^ 32` and read as a signed number. Each step of the fold is one step of Horner's rule
(`mix_modEq`). Since 31 has an inverse modulo `2 ^ 32`, a step loses nothing: it is injective in
the hash before it and in the unit that it adds, so a single change is never lost in the steps
after it.
-/

namespace GuestImage.Command

/-! ## As an integer -/

/-- The units of a text as the digits of a number to the base 31. -/
def weighted (units : List UInt16) : Int :=
  ∑ place : Fin units.length, (units[place].toNat : Int) * 31 ^ (units.length - 1 - place)

/-- The polynomial of a fingerprint, before it is cut to 32 bits. -/
def polynomial (kind : CommandKind) (units : List UInt16) : Int :=
  (kind.ordinal : Int) * 31 ^ (units.length + 1) + weighted units

theorem weighted_cons (unit : UInt16) (units : List UInt16) :
    weighted (unit :: units) = (unit.toNat : Int) * 31 ^ units.length + weighted units := by
  have later : ∀ place : Fin units.length,
      units.length + 1 - 1 - place.succ.val = units.length - 1 - place := by
    intro place
    rw [Fin.val_succ]
    omega
  rw [weighted, weighted]
  simp only [List.length_cons]
  rw [Fin.sum_univ_succ]
  simp only [later]
  rfl

/-- One step of Horner's rule. -/
theorem mix_modEq (hash : UInt32) (unit : UInt16) :
    ((mix hash unit).toNat : Int) ≡ 31 * hash.toNat + unit.toNat [ZMOD 2 ^ 32] := by
  rw [mix, UInt32.toNat_add, UInt32.toNat_mul, UInt16.toNat_toUInt32]
  simp [Int.ModEq]

theorem foldl_mix_modEq (hash : UInt32) (units : List UInt16) :
    ((units.foldl mix hash).toNat : Int) ≡
      hash.toNat * 31 ^ units.length + weighted units [ZMOD 2 ^ 32] := by
  induction units generalizing hash with
  | nil => simp [weighted]
  | cons unit units ih =>
      rw [List.foldl_cons, List.length_cons, weighted_cons]
      calc ((units.foldl mix (mix hash unit)).toNat : Int)
          ≡ (mix hash unit).toNat * 31 ^ units.length + weighted units [ZMOD 2 ^ 32] := ih _
        _ ≡ (31 * hash.toNat + unit.toNat) * 31 ^ units.length + weighted units
            [ZMOD 2 ^ 32] := ((mix_modEq hash unit).mul_right _).add_right _
        _ = hash.toNat * 31 ^ (units.length + 1) +
            (unit.toNat * 31 ^ units.length + weighted units) := by ring

/-- A word and its signed reading are the same modulo `2 ^ 32`. -/
theorem toInt_toInt32_modEq (word : UInt32) :
    word.toInt32.toInt ≡ word.toNat [ZMOD 2 ^ 32] := by
  have signed : word.toInt32.toInt = (word.toNat : Int).bmod (2 ^ 32) :=
    BitVec.toInt_eq_toNat_bmod word.toBitVec
  rw [signed]
  exact Int.bmod_emod

/-- No two signed words are the same modulo `2 ^ 32`. -/
theorem eq_of_toInt_modEq {first second : Int32}
    (same : first.toInt ≡ second.toInt [ZMOD 2 ^ 32]) : first = second := by
  have := first.toInt_lt
  have := first.le_toInt
  have := second.toInt_lt
  have := second.le_toInt
  apply Int32.toInt_inj.mp
  rw [Int.ModEq] at same
  omega

theorem fingerprintOf_modEq (kind : CommandKind) (value : String) :
    (fingerprintOf kind value).toInt ≡ polynomial kind (Text.units value) [ZMOD 2 ^ 32] := by
  have seed : (31 * kind.ordinal.toUInt32).toNat = 31 * kind.ordinal := by
    cases kind <;> rfl
  calc (fingerprintOf kind value).toInt
      ≡ (fingerprintWord kind value).toNat [ZMOD 2 ^ 32] := toInt_toInt32_modEq _
    _ ≡ (31 * kind.ordinal.toUInt32).toNat * 31 ^ (Text.units value).length +
        weighted (Text.units value) [ZMOD 2 ^ 32] := foldl_mix_modEq _ _
    _ = polynomial kind (Text.units value) := by
      rw [seed, polynomial]
      push_cast
      ring

/-- What an appended text does to a fingerprint. -/
theorem fingerprintOf_append_modEq (kind : CommandKind) (first second : String) :
    (fingerprintOf kind (first ++ second)).toInt ≡
      (fingerprintOf kind first).toInt * 31 ^ (Text.units second).length +
        (fingerprintOf .origin second).toInt [ZMOD 2 ^ 32] := by
  have whole : fingerprintWord kind (first ++ second) =
      (Text.units second).foldl mix (fingerprintWord kind first) := by
    rw [fingerprintWord, Text.units_append, List.foldl_append]
    rfl
  have appended : polynomial .origin (Text.units second) = weighted (Text.units second) := by
    simp [polynomial, CommandKind.ordinal]
  calc (fingerprintOf kind (first ++ second)).toInt
      ≡ (fingerprintWord kind (first ++ second)).toNat [ZMOD 2 ^ 32] := toInt_toInt32_modEq _
    _ ≡ (fingerprintWord kind first).toNat * 31 ^ (Text.units second).length +
        weighted (Text.units second) [ZMOD 2 ^ 32] := by
      rw [whole]
      exact foldl_mix_modEq _ _
    _ ≡ (fingerprintOf kind first).toInt * 31 ^ (Text.units second).length +
        (fingerprintOf .origin second).toInt [ZMOD 2 ^ 32] := by
      refine Int.ModEq.add ?_ ?_
      · exact (toInt_toInt32_modEq _).symm.mul_right _
      · rw [← appended]
        exact (fingerprintOf_modEq .origin second).symm

/-! ## In signed words -/

/-- Shift a word. A shift by its width or more overflows. -/
def shiftLeft? (word : Int32) (amount : Nat) : Option Int32 :=
  if amount < 32 then some (word <<< Int32.ofNat amount) else none

/-- Multiply by 31 through a shift and a wrapping subtraction. -/
def timesThirtyOne? (word : Int32) : Option Int32 := do
  let shifted ← shiftLeft? word 5
  return shifted - word

/-- Multiply by 31 and add a unit, with wraparound. -/
def signedMix? (hash : Int32) (unit : UInt16) : Option Int32 := do
  let product ← timesThirtyOne? hash
  return product + Int32.ofNat unit.toNat

/-- The fingerprint as a loop over signed words, which ends early if a step overflows. -/
def signedFingerprint? (kind : CommandKind) (value : String) : Option Int32 := do
  let seed ← timesThirtyOne? (Int32.ofNat kind.ordinal)
  (Text.units value).foldlM signedMix? seed

theorem shiftLeft_sub (word : UInt32) : word <<< 5 - word = 31 * word := by
  apply UInt32.toNat_inj.mp
  have bound := word.toNat_lt
  rw [UInt32.toNat_sub, UInt32.toNat_mul, UInt32.toNat_shiftLeft, Nat.shiftLeft_eq]
  simp only [UInt32.reduceToNat, Nat.reduceMod, Nat.reducePow]
  omega

theorem timesThirtyOne?_toInt32 (word : UInt32) :
    timesThirtyOne? word.toInt32 = some (31 * word).toInt32 := by
  rw [← shiftLeft_sub, UInt32.toInt32_sub]
  rfl

theorem signedMix?_toInt32 (hash : UInt32) (unit : UInt16) :
    signedMix? hash.toInt32 unit = some (mix hash unit).toInt32 := by
  rw [signedMix?, timesThirtyOne?_toInt32, mix, UInt32.toInt32_add, ← UInt32.ofNat_uInt16ToNat]
  rfl

theorem foldlM_signedMix? (hash : UInt32) (units : List UInt16) :
    units.foldlM signedMix? hash.toInt32 = some (units.foldl mix hash).toInt32 := by
  induction units generalizing hash with
  | nil => rfl
  | cons unit units ih =>
      rw [List.foldlM_cons, signedMix?_toInt32, List.foldl_cons]
      exact ih (mix hash unit)

/-- No step of the loop overflows, and what it ends with is the fingerprint. -/
theorem signedFingerprint?_eq (kind : CommandKind) (value : String) :
    signedFingerprint? kind value = some (fingerprintOf kind value) := by
  have ordinal : Int32.ofNat kind.ordinal = kind.ordinal.toUInt32.toInt32 := rfl
  rw [signedFingerprint?, ordinal, timesThirtyOne?_toInt32]
  exact foldlM_signedMix? _ _

/-- The fingerprint of a kind and a text is the signed 32-bit number that is their polynomial over
the UTF-16 units of the text, modulo `2 ^ 32`. Its loop over signed words never overflows. -/
theorem fingerprint_is_polynomial (kind : CommandKind) (value : String) :
    Text.Encodes value.toList (Text.units value) ∧
    (∀ word : Int32, word.toInt ≡ polynomial kind (Text.units value) [ZMOD 2 ^ 32] ↔
      word = fingerprintOf kind value) ∧
    (∀ first second, (fingerprintOf kind (first ++ second)).toInt ≡
      (fingerprintOf kind first).toInt * 31 ^ (Text.units second).length +
        (fingerprintOf .origin second).toInt [ZMOD 2 ^ 32]) ∧
    signedFingerprint? kind value = some (fingerprintOf kind value) := by
  refine ⟨Text.encodes_units value, ?unique, fingerprintOf_append_modEq kind,
    signedFingerprint?_eq kind value⟩
  intro word
  constructor
  · intro congruent
    exact eq_of_toInt_modEq (congruent.trans (fingerprintOf_modEq kind value).symm)
  · rintro rfl
    exact fingerprintOf_modEq kind value

/-! ## Changes -/

/-- What 31 is multiplied with to give 1 modulo `2 ^ 32`. -/
def inverseOfThirtyOne : UInt32 := 3186588639

/-- A step can be undone. -/
theorem mix_injective (unit : UInt16) : Function.Injective fun hash => mix hash unit := by
  intro first second same
  have undone (hash : UInt32) : inverseOfThirtyOne * (31 * hash) = hash := by
    have inverse : inverseOfThirtyOne * 31 = 1 := by decide
    rw [← UInt32.mul_assoc, inverse, UInt32.one_mul]
  have products : 31 * first = 31 * second := (UInt32.add_left_inj _).mp same
  rw [← undone first, products, undone second]

theorem mix_unit_injective (hash : UInt32) : Function.Injective (mix hash) := by
  intro first second same
  have units : first.toUInt32 = second.toUInt32 := (UInt32.add_right_inj _).mp same
  exact UInt16.toUInt32_inj.mp units

/-- Steps that add the same units never bring two hashes together. -/
theorem foldl_mix_injective (units : List UInt16) :
    Function.Injective fun hash => units.foldl mix hash := by
  induction units with
  | nil => exact Function.injective_id
  | cons unit units ih => exact ih.comp (mix_injective unit)

theorem fingerprintWord_eq_of_eq {first second : CommandKind} {firstValue secondValue : String}
    (same : fingerprintOf first firstValue = fingerprintOf second secondValue) :
    fingerprintWord first firstValue = fingerprintWord second secondValue :=
  congrArg Int32.toUInt32 same

/-- Lists of one length that differ in one place have the same elements before and after it. -/
theorem exists_one_change {first second : List UInt16} (lengths : first.length = second.length)
    (differ : ∃! place : Nat, first[place]? ≠ second[place]?) :
    ∃ front old new back, first = front ++ old :: back ∧ second = front ++ new :: back ∧
      old ≠ new := by
  rcases differ with ⟨place, changed, only⟩
  have kept : ∀ other, other ≠ place → first[other]? = second[other]? := by
    intro other elsewhere
    by_contra differs
    exact elsewhere (only other differs)
  have inFirst : place < first.length := by
    by_contra outside
    apply changed
    rw [List.getElem?_eq_none (by omega), List.getElem?_eq_none (by omega)]
  have inSecond : place < second.length := lengths ▸ inFirst
  have front : first.take place = second.take place := by
    apply List.ext_getElem?
    intro other
    by_cases before : other < place
    · rw [List.getElem?_take_of_lt before, List.getElem?_take_of_lt before]
      exact kept other before.ne
    · rw [List.getElem?_take_eq_none (by omega), List.getElem?_take_eq_none (by omega)]
  have back : first.drop (place + 1) = second.drop (place + 1) := by
    apply List.ext_getElem?
    intro other
    rw [List.getElem?_drop, List.getElem?_drop]
    exact kept _ (by omega)
  refine ⟨first.take place, first[place], second[place], first.drop (place + 1), ?_, ?_, ?_⟩
  · rw [List.getElem_cons_drop, List.take_append_drop]
  · rw [front, back, List.getElem_cons_drop, List.take_append_drop]
  · intro same
    apply changed
    rw [List.getElem?_eq_getElem inFirst, List.getElem?_eq_getElem inSecond, same]

/-- Commands that differ in their kind alone, or in one unit of their argument alone, have
different fingerprints. -/
theorem fingerprint_detects_change :
    (∀ (value : String) (first second : CommandKind), first ≠ second →
      fingerprintOf first value ≠ fingerprintOf second value) ∧
    ∀ (kind : CommandKind) (first second : String),
      (Text.units first).length = (Text.units second).length →
      (∃! place : Nat, (Text.units first)[place]? ≠ (Text.units second)[place]?) →
      fingerprintOf kind first ≠ fingerprintOf kind second := by
  constructor
  case left =>
    intro value first second different same
    have seeds := foldl_mix_injective (Text.units value) (fingerprintWord_eq_of_eq same)
    -- The hashes before the first unit are five different words.
    revert seeds different
    cases first <;> cases second <;> decide
  case right =>
    intro kind first second lengths differ same
    rcases exists_one_change lengths differ with ⟨front, old, new, back, was, is, different⟩
    have words := fingerprintWord_eq_of_eq same
    rw [fingerprintWord, fingerprintWord, was, is, List.foldl_append, List.foldl_append] at words
    -- The units before the change lead to one hash, and those after it keep two hashes apart.
    exact different (mix_unit_injective _ (foldl_mix_injective back words))

/-- Another kind, and another last letter. -/
theorem fingerprint_detects_change_echo :
    (CommandKind.run ≠ .entrypoint ∧
      fingerprintOf .run "make" ≠ fingerprintOf .entrypoint "make") ∧
    (Text.units "echo hi").length = (Text.units "echo ho").length ∧
    (∃! place : Nat, (Text.units "echo hi")[place]? ≠ (Text.units "echo ho")[place]?) ∧
    fingerprintOf .run "echo hi" ≠ fingerprintOf .run "echo ho" := by
  have kinds : CommandKind.run ≠ .entrypoint := by decide
  have lengths : (Text.units "echo hi").length = (Text.units "echo ho").length := by decide
  have inside : ∀ other < (Text.units "echo hi").length, other ≠ 6 →
      (Text.units "echo hi")[other]? = (Text.units "echo ho")[other]? := by decide
  have differ : ∃! place : Nat,
      (Text.units "echo hi")[place]? ≠ (Text.units "echo ho")[place]? := by
    refine ⟨6, by decide, ?_⟩
    intro other differs
    by_contra elsewhere
    apply differs
    by_cases bound : other < (Text.units "echo hi").length
    · exact inside other bound elsewhere
    · have outside := Nat.not_lt.mp bound
      rw [List.getElem?_eq_none outside, List.getElem?_eq_none (lengths ▸ outside)]
  rcases fingerprint_detects_change with ⟨byKind, byUnit⟩
  exact ⟨⟨kinds, byKind "make" .run .entrypoint kinds⟩, lengths, differ,
    byUnit .run "echo hi" "echo ho" lengths differ⟩

end GuestImage.Command
