import GuestImage.Proofs.Text.Lines
import GuestImage.Text.Excerpt

/-!
# Excerpts and their limit

A text that is cut has as many characters as the limit allows, the mark included. A limit below the
length of the mark is not kept: then the mark alone remains.
-/

namespace GuestImage.Text

variable {text : String} {limit : Nat}

theorem truncate_of_le (fits : text.length ≤ limit) : truncate text limit = text :=
  if_pos fits

theorem truncate_of_lt (long : limit < text.length) :
    truncate text limit =
      String.ofList (text.toList.take (limit - cutMark.length)) ++ cutMark :=
  if_neg (Nat.not_le_of_gt long)

theorem length_truncate_of_lt (long : limit < text.length) :
    (truncate text limit).length = max limit cutMark.length := by
  have kept : (text.toList.take (limit - cutMark.length)).length = limit - cutMark.length := by
    rw [List.length_take, String.length_toList]
    omega
  rw [truncate_of_lt long, String.length_append, String.length_ofList, kept]
  omega

theorem truncate_eq_cutMark (long : limit < text.length) (small : limit ≤ cutMark.length) :
    truncate text limit = cutMark := by
  rw [truncate_of_lt long, Nat.sub_eq_zero_of_le small, List.take_zero]
  exact String.empty_append

theorem length_truncate_le_iff :
    (truncate text limit).length ≤ limit ↔ text.length ≤ limit ∨ cutMark.length ≤ limit := by
  by_cases fits : text.length ≤ limit
  · simp [truncate_of_le fits, fits]
  · rw [length_truncate_of_lt (Nat.lt_of_not_le fits)]
    omega

theorem truncate_eq_self_iff :
    truncate text limit = text ↔
      text.length ≤ limit ∨ limit < cutMark.length ∧ text = cutMark := by
  constructor
  · intro same
    by_cases fits : text.length ≤ limit
    · exact .inl fits
    · right
      have long := Nat.lt_of_not_le fits
      have length := length_truncate_of_lt long
      rw [same] at length
      have small : limit < cutMark.length := by omega
      exact ⟨small, same.symm.trans (truncate_eq_cutMark long (Nat.le_of_lt small))⟩
  · rintro (fits | ⟨small, rfl⟩)
    · exact truncate_of_le fits
    · exact truncate_eq_cutMark small (Nat.le_of_lt small)

theorem truncate_truncate (text : String) (limit : Nat) :
    truncate (truncate text limit) limit = truncate text limit := by
  by_cases fits : text.length ≤ limit
  · rw [truncate_of_le fits, truncate_of_le fits]
  · have long := Nat.lt_of_not_le fits
    rw [truncate_eq_self_iff, length_truncate_of_lt long]
    by_cases small : limit < cutMark.length
    · exact .inr ⟨small, truncate_eq_cutMark long (Nat.le_of_lt small)⟩
    · exact .inl (Nat.max_le.mpr ⟨Nat.le_refl limit, Nat.le_of_not_lt small⟩)

/-- What cutting a text does. The limit is kept exactly if the text is short enough or the mark has
room in it. A text that is short enough stays as it is, and of the others only the mark does, where
the mark has no room. A longer text becomes its beginning and the mark, and is cut only once. -/
theorem truncate_exact (text : String) (limit : Nat) :
    ((truncate text limit).length ≤ limit ↔ text.length ≤ limit ∨ cutMark.length ≤ limit) ∧
      (truncate text limit = text ↔
        text.length ≤ limit ∨ limit < cutMark.length ∧ text = cutMark) ∧
      (limit < text.length → ∃ kept, kept <+: text.toList ∧
        kept.length = limit - cutMark.length ∧
          truncate text limit = String.ofList kept ++ cutMark) ∧
      truncate (truncate text limit) limit = truncate text limit := by
  refine ⟨length_truncate_le_iff, truncate_eq_self_iff, ?_, truncate_truncate text limit⟩
  intro long
  refine ⟨_, List.take_prefix (limit - cutMark.length) _, ?_, truncate_of_lt long⟩
  rw [List.length_take, String.length_toList]
  omega

/-- A limit of nothing is not kept. -/
theorem truncate_over_limit : ¬(truncate "abcd" 0).length ≤ 0 := by
  decide

/-! ## Excerpts on one line -/

/-- A text on one line has a visible sign wherever a carriage return was. -/
theorem singleLine_eq (text : String) :
    singleLine text =
      String.ofList (['\\', 'r'].intercalate (text.toList.splitOn '\r')) := by
  rw [singleLine]
  congr 1
  induction text.toList with
  | nil => rfl
  | cons letter rest ih =>
      rw [List.flatMap_cons, ih, List.splitOn_cons_eq_if_modifyHead]
      cases divided : rest.splitOn '\r' with
      | nil => exact absurd divided (List.splitOn_ne_nil '\r' rest)
      | cons first others =>
          by_cases returns : letter = '\r' <;> simp [returns]

theorem OneLine.truncate (oneLine : OneLine text) (limit : Nat) :
    OneLine (Text.truncate text limit) := by
  rw [Text.truncate]
  split
  · exact oneLine
  · apply OneLine.append _ (by decide)
    apply oneLine.of_subset
    rw [String.toList_ofList]
    exact List.take_subset _ _

/-- Carriage returns are written otherwise, and nothing that is written holds a line feed. -/
theorem oneLine_singleLine (noFeed : '\n' ∉ text.toList) : OneLine (singleLine text) := by
  have shown {letter : Char} (member : letter ∈ (singleLine text).toList) :
      letter = '\\' ∨ letter = 'r' ∨ letter ∈ text.toList ∧ letter ≠ '\r' := by
    rw [singleLine, String.toList_ofList, List.mem_flatMap] at member
    rcases member with ⟨source, inside, written⟩
    split at written
    case isTrue => simpa [or_assoc] using Or.inl written
    case isFalse other =>
      obtain rfl := List.mem_singleton.mp written
      exact .inr (.inr ⟨inside, other⟩)
  constructor
  · intro feed
    rcases shown feed with same | same | ⟨inside, -⟩
    · cases same
    · cases same
    · exact noFeed inside
  · intro carriage
    rcases shown carriage with same | same | ⟨-, other⟩
    · cases same
    · cases same
    · exact other rfl

end GuestImage.Text
