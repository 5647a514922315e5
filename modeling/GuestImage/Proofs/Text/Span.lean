/-!
# Spans

A list is divided at the first element that lacks a property. Readers cut texts this way, and what
they cut off is pinned down by the two parts alone.
-/

namespace GuestImage.Text

universe u

variable {α : Type u} {holds : α → Bool} {front rest : List α}

theorem head?_dropWhile (holds : α → Bool) (elements : List α) :
    ∀ element ∈ (elements.dropWhile holds).head?, holds element = false := by
  intro element first
  have stopped := List.head?_dropWhile_not holds elements
  rw [Option.mem_def.mp first] at stopped
  simpa using stopped

theorem exists_span (holds : α → Bool) (elements : List α) :
    ∃ front rest, elements = front ++ rest ∧ front.all holds ∧
      ∀ element ∈ rest.head?, holds element = false := by
  refine ⟨elements.takeWhile holds, elements.dropWhile holds, by simp, List.all_takeWhile, ?_⟩
  exact head?_dropWhile holds elements

theorem takeWhile_span (all : front.all holds)
    (stop : ∀ element ∈ rest.head?, holds element = false) :
    (front ++ rest).takeWhile holds = front := by
  rw [List.takeWhile_append_of_pos (List.all_eq_true.mp all)]
  cases rest with
  | nil => simp
  | cons element rest => simp [stop element rfl]

theorem dropWhile_span (all : front.all holds)
    (stop : ∀ element ∈ rest.head?, holds element = false) :
    (front ++ rest).dropWhile holds = rest := by
  rw [List.dropWhile_append_of_pos (List.all_eq_true.mp all)]
  cases rest with
  | nil => rfl
  | cons element rest => simp [stop element rfl]

/-- A separator that stands in neither front part divides a list in one way. -/
theorem append_cons_inj [DecidableEq α] {separator : α} {first second left right : List α}
    (absentFirst : separator ∉ first) (absentSecond : separator ∉ second)
    (same : first ++ separator :: left = second ++ separator :: right) :
    first = second ∧ left = right := by
  have kept {part : List α} (absent : separator ∉ part) : part.all (· != separator) := by
    rw [List.all_eq_true]
    intro element member
    simpa using ne_of_mem_of_not_mem member absent
  have stop (tail : List α) :
      ∀ element ∈ (separator :: tail).head?, (element != separator) = false := by
    simp
  have fronts := congrArg (List.takeWhile (· != separator)) same
  have backs := congrArg (List.dropWhile (· != separator)) same
  rw [takeWhile_span (kept absentFirst) (stop left),
    takeWhile_span (kept absentSecond) (stop right)] at fronts
  rw [dropWhile_span (kept absentFirst) (stop left),
    dropWhile_span (kept absentSecond) (stop right)] at backs
  exact ⟨fronts, (List.cons.inj backs).2⟩

end GuestImage.Text
