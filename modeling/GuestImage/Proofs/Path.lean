import GuestImage.Path
import GuestImage.Proofs.Text.Lines

/-!
# Joined paths

A relative part that is joined to a base stands behind a text that depends on the base alone, so
parts can be told from their paths. The names on the path are those of the base and of the part.
-/

namespace GuestImage.Path

/-- What stands before a relative part that is joined to a base. -/
def stem (base : String) : String :=
  if base = "" ∨ base.toList.getLast? = some '/' then base else base ++ "/"

/-- The names on a path: its components without the empty ones. -/
def names (path : String) : List String :=
  ((components path.toList).filter (· ≠ [])).map String.ofList

theorem components_eq_splitOn (letters : List Char) :
    components letters = letters.splitOn '/' :=
  Text.eq_splitOn rfl (fun _ _ => rfl) letters

theorem join_eq_append (base : String) {part : String} (relative : isAbsolute part = false) :
    join base part = stem base ++ part := by
  rw [join, relative, stem]
  by_cases empty : base = ""
  · simp [empty]
  · by_cases slash : base.toList.getLast? = some '/' <;> simp [empty, slash]

theorem join_right_inj (base : String) {first second : String}
    (relativeFirst : isAbsolute first = false) (relativeSecond : isAbsolute second = false) :
    join base first = join base second ↔ first = second := by
  rw [join_eq_append base relativeFirst, join_eq_append base relativeSecond,
    String.append_right_inj]

/-- A name is parted by a slash from what is joined to it. -/
theorem stem_append_name (base : String) {name : String} (nonempty : name ≠ "")
    (noSlash : '/' ∉ name.toList) : stem (base ++ name) = base ++ name ++ "/" := by
  rw [stem, if_neg]
  rintro (empty | slash)
  · exact nonempty (String.append_eq_empty_iff.mp empty).2
  · rw [String.toList_append, List.getLast?_append] at slash
    cases last : name.toList.getLast? with
    | none =>
        rw [List.getLast?_eq_none_iff, String.toList_eq_nil_iff] at last
        exact nonempty last
    | some letter =>
        rw [last, Option.some_or] at slash
        cases slash
        exact noSlash (List.mem_of_getLast? last)

theorem isPrefix_stem (base : String) : base.toList <+: (stem base).toList := by
  rw [stem]
  split
  · exact List.prefix_rfl
  · rw [String.toList_append]
    exact List.prefix_append _ _

/-- A relative part does not change whether a path starts at the root. -/
theorem isAbsolute_join (base : String) {part : String} (relative : isAbsolute part = false) :
    isAbsolute (join base part) = isAbsolute base := by
  rcases isPrefix_stem base with ⟨slash, whole⟩
  rw [join_eq_append base relative]
  cases letters : base.toList with
  | nil =>
      obtain rfl := String.toList_eq_nil_iff.mp letters
      rw [stem, if_pos (.inl rfl), String.empty_append, relative]
      rfl
  | cons letter rest =>
      rw [letters, List.cons_append] at whole
      rw [isAbsolute, isAbsolute, String.toList_append, ← whole, letters]
      rfl

/-! ## Names -/

theorem names_eq_splitOn (path : String) :
    names path = ((path.toList.splitOn '/').filter (· ≠ [])).map String.ofList := by
  rw [names, components_eq_splitOn]

theorem names_append_slash_append (front back : String) :
    names (front ++ "/" ++ back) = names front ++ names back := by
  have parted := List.splitOn_append_cons_self (a := '/') front.toList back.toList
  simp only [names_eq_splitOn, String.toList_append, ← List.map_append, ← List.filter_append,
    ← parted]
  simp

theorem names_self {name : String} (nonempty : name ≠ "") (noSlash : '/' ∉ name.toList) :
    names name = [name] := by
  have kept : name.toList ≠ [] := fun none => nonempty (String.toList_eq_nil_iff.mp none)
  rw [names_eq_splitOn, List.splitOn_eq_singleton noSlash]
  simp [kept]

theorem names_join (base : String) {part : String} (relative : isAbsolute part = false) :
    names (join base part) = names base ++ names part := by
  rw [join_eq_append base relative, stem]
  split
  case isFalse => exact names_append_slash_append base part
  case isTrue closed =>
    rcases closed with rfl | slash
    · rw [String.empty_append]
      rfl
    · rcases List.getLast?_eq_some_iff.mp slash with ⟨front, letters⟩
      obtain rfl : base = String.ofList front ++ "/" := by
        rw [← String.toList_inj, letters]
        simp
      have own := names_append_slash_append (String.ofList front) ""
      rw [String.append_empty] at own
      rw [names_append_slash_append, own]
      simp [names, components]

end GuestImage.Path
