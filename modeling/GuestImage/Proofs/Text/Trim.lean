import GuestImage.Proofs.Text.Span
import GuestImage.Text.CodeRange

/-!
# Trimming

A trimmed text has no blank character at either end, and every such text is trimmed.
-/

namespace GuestImage.Text

/-- Texts with no blank character at either end. -/
structure Trimmed (letters : List Char) : Prop where
  first : ∀ letter ∈ letters.head?, isBlank letter = false
  last : ∀ letter ∈ letters.getLast?, isBlank letter = false

theorem dropWhile_eq_self {letters : List Char}
    (first : ∀ letter ∈ letters.head?, isBlank letter = false) :
    letters.dropWhile isBlank = letters := by
  have kept : ([] ++ letters).dropWhile isBlank = letters := dropWhile_span rfl first
  exact kept

theorem Trimmed.trimList_eq {letters : List Char} (trimmed : Trimmed letters) :
    trimList letters = letters := by
  have last : ∀ letter ∈ letters.reverse.head?, isBlank letter = false := by
    rw [List.head?_reverse]
    exact trimmed.last
  rw [trimList, dropWhile_eq_self trimmed.first, dropWhile_eq_self last, List.reverse_reverse]

theorem trimList_isPrefix (letters : List Char) :
    trimList letters <+: letters.dropWhile isBlank := by
  have suffix := List.dropWhile_suffix isBlank (l := (letters.dropWhile isBlank).reverse)
  rw [← List.reverse_prefix, List.reverse_reverse] at suffix
  exact suffix

theorem trimmed_trimList (letters : List Char) : Trimmed (trimList letters) where
  first := by
    intro letter first
    rcases List.head?_eq_some_iff.mp first with ⟨others, kept⟩
    rcases trimList_isPrefix letters with ⟨rest, same⟩
    apply head?_dropWhile isBlank letters letter
    rw [← same, kept]
    rfl
  last := by
    rw [trimList, List.getLast?_reverse]
    exact head?_dropWhile isBlank _

@[simp] theorem trimList_trimList (letters : List Char) :
    trimList (trimList letters) = trimList letters :=
  (trimmed_trimList letters).trimList_eq

theorem trimList_sublist (letters : List Char) : (trimList letters).Sublist letters :=
  (trimList_isPrefix letters).sublist.trans (List.dropWhile_sublist _)

/-- A blank character at the end makes no difference. -/
theorem trimList_append_blank (letters : List Char) {letter : Char}
    (blank : isBlank letter = true) :
    trimList (letters ++ [letter]) = trimList letters := by
  rw [trimList, trimList, List.dropWhile_append]
  cases rest : letters.dropWhile isBlank with
  | nil => simp [blank]
  | cons next rest => simp [blank, List.dropWhile_append]

end GuestImage.Text
