import GuestImage.Text.Grid

/-!
# Lines of joined texts

Texts without line feeds are the lines of the text that they are joined to by line feeds.
-/

namespace GuestImage.Text

/-- A list that is divided letter by letter from its end is divided as `List.splitOn` does it. -/
theorem eq_splitOn {separator : Char} {parts : List Char → List (List Char)}
    (nil : parts [] = [[]])
    (cons : ∀ letter rest, parts (letter :: rest) =
      if letter = separator then [] :: parts rest
      else
        match parts rest with
        | [] => [[letter]]
        | first :: others => (letter :: first) :: others)
    (letters : List Char) : parts letters = letters.splitOn separator := by
  induction letters with
  | nil => exact nil
  | cons letter rest ih =>
      rw [cons, ih, List.splitOn_cons_eq_if_modifyHead]
      by_cases divides : letter = separator
      · simp [divides]
      · simp only [divides, ↓reduceIte, beq_iff_eq]
        cases divided : rest.splitOn separator with
        | nil => exact absurd divided (List.splitOn_ne_nil separator rest)
        | cons first others => rfl

theorem linesOf_eq_splitOn (letters : List Char) : linesOf letters = letters.splitOn '\n' :=
  eq_splitOn rfl (fun _ _ => rfl) letters

theorem lines_of_not_mem {text : String} (noFeed : '\n' ∉ text.toList) : lines text = [text] := by
  rw [lines, linesOf_eq_splitOn, List.splitOn_eq_singleton noFeed, List.map_singleton,
    String.ofList_toList]

theorem splitOn_intercalate {texts : List String} (noFeed : ∀ text ∈ texts, '\n' ∉ text.toList)
    (nonempty : texts ≠ []) :
    (String.intercalate "\n" texts).toList.splitOn '\n' = texts.map String.toList := by
  have feed : "\n".toList = ['\n'] := rfl
  rw [String.toList_intercalate, feed, List.splitOn_intercalate]
  · simpa using noFeed
  · simpa using nonempty

/-- A line is what stands between two line feeds. -/
theorem not_mem_of_mem_splitOn {letters line : List Char} (member : line ∈ letters.splitOn '\n') :
    '\n' ∉ line := by
  induction letters generalizing line with
  | nil =>
      rw [List.splitOn_nil, List.mem_singleton] at member
      simp [member]
  | cons letter rest ih =>
      rw [List.splitOn_cons_eq_if_modifyHead] at member
      split at member
      case isTrue =>
        rcases List.mem_cons.mp member with rfl | later
        · simp
        · exact ih later
      case isFalse other =>
        cases divided : rest.splitOn '\n' with
        | nil => exact absurd divided (List.splitOn_ne_nil '\n' rest)
        | cons first others =>
            rw [divided, List.modifyHead_cons] at member
            rcases List.mem_cons.mp member with rfl | later
            · have noFeed := ih (divided ▸ List.mem_cons_self)
              rw [beq_iff_eq] at other
              simp [noFeed, Ne.symm other]
            · exact ih (divided ▸ List.mem_cons_of_mem first later)

/-- What is written between two line feeds is a line unless it holds one itself. -/
theorem mem_splitOn_iff (front line : String) :
    line.toList ∈ (front ++ "\n" ++ line ++ "\n").toList.splitOn '\n' ↔ '\n' ∉ line.toList := by
  have feed : "\n".toList = ['\n'] := rfl
  constructor
  · exact not_mem_of_mem_splitOn
  · intro noFeed
    simp only [String.toList_append, feed, List.append_assoc, List.cons_append,
      List.nil_append]
    rw [List.splitOn_append_cons_self, List.splitOn_append_cons_self,
      List.splitOn_eq_singleton noFeed]
    simp

theorem mem_intercalate {letter separator : Char} {parts : List (List Char)}
    (member : letter ∈ [separator].intercalate parts) :
    letter = separator ∨ ∃ part ∈ parts, letter ∈ part := by
  induction parts with
  | nil => cases member
  | cons part rest ih =>
      cases rest with
      | nil => exact .inr ⟨part, by simp, by simpa using member⟩
      | cons next rest =>
          rw [List.intercalate_cons_cons, List.append_assoc, List.mem_append] at member
          rcases member with own | later
          · exact .inr ⟨part, by simp, own⟩
          · rcases List.mem_cons.mp later with rfl | later
            · exact .inl rfl
            · rcases ih later with same | ⟨other, inside, there⟩
              · exact .inl same
              · exact .inr ⟨other, List.mem_cons_of_mem _ inside, there⟩

/-! ## One line -/

/-- A text without line breaks of either kind. -/
structure OneLine (text : String) : Prop where
  lineFeed_not_mem : '\n' ∉ text.toList
  carriageReturn_not_mem : '\r' ∉ text.toList

instance (text : String) : Decidable (OneLine text) :=
  decidable_of_iff ('\n' ∉ text.toList ∧ '\r' ∉ text.toList)
    ⟨fun ⟨noFeed, noCarriage⟩ => ⟨noFeed, noCarriage⟩,
      fun ⟨noFeed, noCarriage⟩ => ⟨noFeed, noCarriage⟩⟩

theorem OneLine.of_subset {text part : String} (oneLine : OneLine text)
    (subset : part.toList ⊆ text.toList) : OneLine part where
  lineFeed_not_mem feed := oneLine.lineFeed_not_mem (subset feed)
  carriageReturn_not_mem carriage := oneLine.carriageReturn_not_mem (subset carriage)

theorem OneLine.append {front back : String} (oneLineFront : OneLine front)
    (oneLineBack : OneLine back) : OneLine (front ++ back) := by
  rcases oneLineFront with ⟨noFeedFront, noCarriageFront⟩
  rcases oneLineBack with ⟨noFeedBack, noCarriageBack⟩
  constructor
  all_goals rw [String.toList_append, List.mem_append, not_or]
  · exact ⟨noFeedFront, noFeedBack⟩
  · exact ⟨noCarriageFront, noCarriageBack⟩

/-! ## Numbers -/

theorem oneLine_repr (number : Nat) : OneLine number.repr := by
  have digits (letter : Char) (member : letter ∈ number.repr.toList) : letter.isDigit = true := by
    rw [Nat.repr_eq_ofList_toDigits, String.toList_ofList] at member
    exact Nat.isDigit_of_mem_toDigits (by decide) (by decide) member
  constructor
  · intro feed
    cases digits _ feed
  · intro carriage
    cases digits _ carriage

theorem oneLine_intRepr (number : Int) : OneLine number.repr := by
  cases number with
  | ofNat number => exact oneLine_repr number
  | negSucc number =>
      have sign : OneLine "-" := by decide
      exact sign.append (oneLine_repr (number + 1))

end GuestImage.Text
