import GuestImage.Build.Workdir
import Mathlib.Data.List.DropRight

/-!
# Where working directories lead

Of the values of the workdir commands only those from the last absolute one on matter. That value,
or the root, is the base, and the values after it are joined to it in order. Slashes are dropped
from the end of what was joined so far, never from its front: a relative value begins with another
letter, so what is dropped belongs to the value before the joint (`dropTrailingSlashes_append`).
-/

namespace GuestImage.Workdir

/-- Whether a value replaces the directory that it is taken against. -/
def isAbsolute (value : String) : Bool :=
  value.toList.head? == some '/'

/-- The last absolute value, or the root. -/
def base (values : List String) : String :=
  (values.filter isAbsolute).getLast?.getD initial

/-- The values after the last absolute one. -/
def relatives (values : List String) : List String :=
  values.rtakeWhile fun value => !isAbsolute value

/-- The values from the last absolute one on. -/
def sinceAbsolute (values : List String) : List String :=
  (values.filter isAbsolute).getLast?.toList ++ relatives values

/-- A base with values joined to it, each behind a slash, and without slashes in front of a slash
or at the end. -/
def joined (base : String) (values : List String) : List Char :=
  dropTrailingSlashes base.toList ++
    values.flatMap fun value => '/' :: dropTrailingSlashes value.toList

/-- What the directory after some values looks like. -/
structure ClosedForm (values : List String) (directory : String) : Prop where
  unset : values = [] → directory = "/"
  alone : relatives values = [] → directory = base values
  relative : ∀ earlier last, relatives values = earlier ++ [last] →
    directory.toList = joined (base values) earlier ++ '/' :: last.toList
  /-- No slash stands before or behind the slash of a joint. -/
  joint : ∀ earlier value later, relatives values = earlier ++ value :: later →
    joined (base values) earlier ++ '/' :: dropTrailingSlashes value.toList <+:
        directory.toList ∧
      (joined (base values) earlier).getLast? ≠ some '/' ∧
      ∃ letter ∈ (dropTrailingSlashes value.toList).head?, letter ≠ '/'

/-! ## One value -/

theorem resolve_absolute {value : String} (absolute : isAbsolute value = true)
    (directory : String) : resolve directory value = value := by
  rw [isAbsolute, beq_iff_eq] at absolute
  rcases List.head?_eq_some_iff.mp absolute with ⟨rest, letters⟩
  simp only [resolve, letters]

theorem toList_resolve {value : String} (relative : isAbsolute value = false)
    (directory : String) :
    (resolve directory value).toList =
      dropTrailingSlashes directory.toList ++ '/' :: value.toList := by
  rw [resolve]
  split
  · rename_i rest letters
    rw [isAbsolute, letters] at relative
    cases relative
  · rw [String.toList_ofList]

theorem dropTrailingSlashes_isPrefix (path : List Char) : dropTrailingSlashes path <+: path :=
  List.rdropWhile_prefix (· == '/') path

theorem getLast?_dropTrailingSlashes (path : List Char) :
    (dropTrailingSlashes path).getLast? ≠ some '/' := by
  intro last
  rw [dropTrailingSlashes, List.getLast?_reverse] at last
  have stopped := List.head?_dropWhile_not (· == '/') path.reverse
  rw [last] at stopped
  cases stopped

theorem dropTrailingSlashes_append (front : List Char) {back : List Char}
    (other : ∃ letter ∈ back, letter ≠ '/') :
    dropTrailingSlashes (front ++ back) = front ++ dropTrailingSlashes back := by
  have kept : (back.reverse.dropWhile (· == '/')).isEmpty = false := by
    simpa using other
  rw [dropTrailingSlashes, List.reverse_append, List.dropWhile_append, kept]
  simp [dropTrailingSlashes]

/-- What is joined to an absolute path is absolute. -/
theorem head?_dropTrailingSlashes_append {path : List Char} (absolute : path.head? = some '/')
    (rest : List Char) : (dropTrailingSlashes path ++ '/' :: rest).head? = some '/' := by
  rcases dropTrailingSlashes_isPrefix path with ⟨slashes, whole⟩
  cases kept : dropTrailingSlashes path with
  | nil => rfl
  | cons letter letters =>
      rw [← whole, kept] at absolute
      exact absolute

/-! ## Relative values -/

/-- Values that are joined to the directory before them: their first letter is no slash. -/
def IsRelative (value : String) : Prop :=
  ∃ letter rest, value.toList = letter :: rest ∧ letter ≠ '/'

theorem isRelative_of_ne {value : String} (nonempty : value ≠ "")
    (relative : isAbsolute value = false) : IsRelative value := by
  cases letters : value.toList with
  | nil => exact absurd (String.toList_eq_nil_iff.mp letters) nonempty
  | cons letter rest =>
      refine ⟨letter, rest, letters, ?_⟩
      rintro rfl
      rw [isAbsolute, letters] at relative
      cases relative

theorem IsRelative.isAbsolute_eq {value : String} (relative : IsRelative value) :
    isAbsolute value = false := by
  rcases relative with ⟨letter, rest, letters, other⟩
  simp [isAbsolute, letters, other]

theorem IsRelative.dropTrailingSlashes_append {value : String} (relative : IsRelative value)
    (front : List Char) :
    dropTrailingSlashes (front ++ value.toList) =
      front ++ dropTrailingSlashes value.toList := by
  rcases relative with ⟨letter, rest, letters, other⟩
  apply Workdir.dropTrailingSlashes_append front
  rw [letters]
  exact ⟨letter, List.mem_cons_self, other⟩

/-- The first letter of a relative value is not dropped. -/
theorem IsRelative.exists_dropTrailingSlashes {value : String} (relative : IsRelative value) :
    ∃ letter rest, dropTrailingSlashes value.toList = letter :: rest ∧ letter ≠ '/' := by
  rcases dropTrailingSlashes_isPrefix value.toList with ⟨slashes, whole⟩
  rcases relative with ⟨letter, rest, letters, other⟩
  cases kept : dropTrailingSlashes value.toList with
  | nil =>
      have dropped : ∀ letter ∈ value.toList, (letter == '/') = true :=
        List.rdropWhile_eq_nil_iff.mp kept
      rw [letters] at dropped
      exact absurd (by simpa using dropped letter List.mem_cons_self) other
  | cons first later =>
      rw [kept, letters] at whole
      obtain rfl : first = letter := (List.cons.inj whole).1
      exact ⟨first, later, rfl, other⟩

theorem resolve_isRelative {value : String} (relative : IsRelative value) (directory : String) :
    dropTrailingSlashes (resolve directory value).toList =
      dropTrailingSlashes directory.toList ++ '/' :: dropTrailingSlashes value.toList := by
  rw [toList_resolve relative.isAbsolute_eq, List.append_cons,
    relative.dropTrailingSlashes_append]
  simp

/-! ## All values -/

theorem base_concat (values : List String) (value : String) :
    base (values ++ [value]) = if isAbsolute value then value else base values := by
  cases absolute : isAbsolute value <;> simp [base, List.filter_append, absolute]

theorem relatives_concat (values : List String) (value : String) :
    relatives (values ++ [value]) =
      if isAbsolute value then [] else relatives values ++ [value] := by
  cases absolute : isAbsolute value <;> simp [relatives, absolute]

theorem sinceAbsolute_concat (values : List String) (value : String) :
    sinceAbsolute (values ++ [value]) =
      if isAbsolute value then [value] else sinceAbsolute values ++ [value] := by
  cases absolute : isAbsolute value <;> simp [sinceAbsolute, relatives_concat, absolute]

/-- The last relative value is the last value. -/
theorem exists_of_relatives_eq_concat {values earlier : List String} {last : String}
    (ends : relatives values = earlier ++ [last]) :
    isAbsolute last = false ∧ ∃ front, values = front ++ [last] ∧ relatives front = earlier := by
  cases values using List.reverseRecOn with
  | nil => simp [relatives] at ends
  | append_singleton values value =>
      rw [relatives_concat] at ends
      cases absolute : isAbsolute value with
      | true => simp [absolute] at ends
      | false =>
          rw [absolute, if_neg Bool.false_ne_true] at ends
          rcases List.append_inj' ends rfl with ⟨same, ⟨⟩⟩
          exact ⟨absolute, values, rfl, same⟩

theorem joined_concat (base : String) (values : List String) (value : String) :
    joined base (values ++ [value]) =
      joined base values ++ '/' :: dropTrailingSlashes value.toList := by
  simp [joined]

theorem joined_isPrefix (base : String) (first second : List String) :
    joined base first <+: joined base (first ++ second) := by
  rw [joined, joined, List.flatMap_append, ← List.append_assoc]
  exact List.prefix_append _ _

/-- Up to its last slashes a directory is the base with the relative values joined to it. -/
theorem dropTrailingSlashes_resolveAll {values : List String}
    (nonempty : ∀ value ∈ values, value ≠ "") :
    dropTrailingSlashes (resolveAll values).toList = joined (base values) (relatives values) := by
  -- A value is taken against what the values before it lead to, so the induction is on the last.
  induction values using List.reverseRecOn with
  | nil => decide
  | append_singleton values value ih =>
      have before := ih fun other member => nonempty other (List.mem_append_left [value] member)
      rw [resolveAll_concat, base_concat, relatives_concat]
      cases absolute : isAbsolute value with
      | true =>
          rw [resolve_absolute absolute]
          simp [joined]
      | false =>
          have relative := isRelative_of_ne (nonempty value (by simp)) absolute
          rw [resolve_isRelative relative, before]
          simp [joined_concat]

/-- Only the values from the last absolute one on matter. -/
theorem resolveAll_sinceAbsolute (values : List String) :
    resolveAll (sinceAbsolute values) = resolveAll values := by
  induction values using List.reverseRecOn with
  | nil => rfl
  | append_singleton values value ih =>
      rw [sinceAbsolute_concat, resolveAll_concat]
      cases absolute : isAbsolute value with
      | true =>
          rw [resolve_absolute absolute]
          exact resolve_absolute absolute initial
      | false =>
          rw [if_neg Bool.false_ne_true, resolveAll_concat, ih]

theorem isAbsolute_resolveAll (values : List String) : isAbsolute (resolveAll values) = true := by
  induction values using List.reverseRecOn with
  | nil => rfl
  | append_singleton values value ih =>
      rw [resolveAll_concat]
      cases absolute : isAbsolute value with
      | true => rwa [resolve_absolute absolute]
      | false =>
          rw [isAbsolute, beq_iff_eq] at ih
          rw [isAbsolute, toList_resolve absolute, head?_dropTrailingSlashes_append ih]
          rfl

theorem isRelative_of_mem_relatives {values : List String}
    (nonempty : ∀ value ∈ values, value ≠ "") {value : String}
    (member : value ∈ relatives values) : IsRelative value := by
  rw [relatives] at member
  have relative := List.mem_rtakeWhile_imp member
  apply isRelative_of_ne
  · exact nonempty value ((List.rtakeWhile_suffix _ values).subset member)
  · simpa using relative

theorem getLast?_joined (base : String) {values : List String}
    (relative : ∀ value ∈ values, IsRelative value) :
    (joined base values).getLast? ≠ some '/' := by
  cases values using List.reverseRecOn with
  | nil => simpa [joined] using getLast?_dropTrailingSlashes base.toList
  | append_singleton values value =>
      rcases (relative value (by simp)).exists_dropTrailingSlashes with
        ⟨letter, rest, kept, other⟩
      have last := getLast?_dropTrailingSlashes value.toList
      rw [joined_concat, kept]
      rw [kept] at last
      simpa [List.getLast?_append] using last

/-- The directory after some values, in closed form. -/
theorem closedForm_resolveAll {values : List String} (nonempty : ∀ value ∈ values, value ≠ "") :
    ClosedForm values (resolveAll values) where
  unset := by
    rintro rfl
    rfl
  alone := by
    intro alone
    cases values using List.reverseRecOn with
    | nil => rfl
    | append_singleton values value =>
        rw [relatives_concat] at alone
        rw [resolveAll_concat, base_concat]
        cases absolute : isAbsolute value with
        | true => rw [resolve_absolute absolute, if_pos rfl]
        | false => simp [absolute] at alone
  relative := by
    intro earlier last ends
    rcases exists_of_relatives_eq_concat ends with ⟨absolute, front, rfl, rfl⟩
    have before : ∀ value ∈ front, value ≠ "" := by
      intro value member
      exact nonempty value (List.mem_append_left _ member)
    rw [resolveAll_concat, toList_resolve absolute, dropTrailingSlashes_resolveAll before,
      base_concat, absolute, if_neg Bool.false_ne_true]
  joint := by
    intro earlier value later ends
    have relative : ∀ own ∈ earlier ++ value :: later, IsRelative own := by
      rw [← ends]
      exact fun own => isRelative_of_mem_relatives nonempty
    have whole := dropTrailingSlashes_isPrefix (resolveAll values).toList
    rw [dropTrailingSlashes_resolveAll nonempty, ends] at whole
    refine ⟨?shown, ?before, ?after⟩
    case shown =>
      have front := joined_isPrefix (base values) (earlier ++ [value]) later
      rw [joined_concat, List.append_assoc earlier] at front
      exact front.trans whole
    case before =>
      apply getLast?_joined
      intro other member
      exact relative other (List.mem_append_left _ member)
    case after =>
      rcases (relative value (by simp)).exists_dropTrailingSlashes with
        ⟨letter, rest, kept, other⟩
      rw [kept]
      exact ⟨letter, rfl, other⟩

/-! ## Two relative values in turn -/

/-- Two values as one: the second one behind the first and one slash. -/
def join (first second : String) : String :=
  String.ofList (dropTrailingSlashes first.toList ++ '/' :: second.toList)

theorem isRelative_join {first : String} (relative : IsRelative first) (second : String) :
    IsRelative (join first second) := by
  rcases relative.exists_dropTrailingSlashes with ⟨letter, rest, kept, other⟩
  refine ⟨letter, rest ++ '/' :: second.toList, ?_, other⟩
  rw [join, String.toList_ofList, kept, List.cons_append]

theorem resolve_join {first second : String} (firstRelative : IsRelative first)
    (secondRelative : IsRelative second) (directory : String) :
    resolve (resolve directory first) second = resolve directory (join first second) := by
  apply String.toList_inj.mp
  rw [toList_resolve secondRelative.isAbsolute_eq, resolve_isRelative firstRelative,
    toList_resolve (isRelative_join firstRelative second).isAbsolute_eq, join,
    String.toList_ofList]
  simp

/-- Two relative values in turn lead where one value leads that joins them. -/
theorem resolveAll_join {first second : String} (firstRelative : IsRelative first)
    (secondRelative : IsRelative second) (earlier later : List String) :
    resolveAll (earlier ++ first :: second :: later) =
      resolveAll (earlier ++ join first second :: later) := by
  simp only [resolveAll, List.foldl_append, List.foldl_cons,
    resolve_join firstRelative secondRelative]

end GuestImage.Workdir
