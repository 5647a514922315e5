import GuestImage.Proofs.Recipe.Acceptance

/-!
# The error of a text

A text that is no recipe has one error. It is the error of the first line that is not of the
grammar, wherever in the text that line stands; only a text whose lines are all of the grammar has
an error about its commands as a whole. On one line an open escape at the end of the text comes
before a missing argument, and a missing argument before an unknown token.
-/

namespace GuestImage.Recipe

/-! ## Lines above a place -/

/-- The text of lines that stand above others: each has a line feed behind it. -/
def textAbove (lines : List LogicalLine) : List Char :=
  lines.flatMap fun line => line.text ++ ['\n']

/-- Lines of the grammar that can stand above others. -/
def Above (lines : List LogicalLine) : Prop :=
  ∀ line ∈ lines, line.WF ∧ line.mayBreak

instance (lines : List LogicalLine) : Decidable (Above lines) :=
  inferInstanceAs (Decidable (∀ line ∈ lines, line.WF ∧ line.mayBreak))

theorem textAbove_cons_append (line : LogicalLine) (lines : List LogicalLine) (rest : List Char) :
    textAbove (line :: lines) ++ rest = line.text ++ '\n' :: (textAbove lines ++ rest) := by
  simp [textAbove]

theorem count_textAbove_cons (line : LogicalLine) (lines : List LogicalLine) :
    (textAbove (line :: lines)).count '\n' =
      (Line.whole line).lineFeeds + 1 + (textAbove lines).count '\n' := by
  simp only [textAbove, List.flatMap_cons, List.count_append, List.count_singleton_self,
    Line.lineFeeds, Line.text]

theorem Above.cons {line : LogicalLine} {lines : List LogicalLine} (wf : line.WF)
    (mayBreak : line.mayBreak) (above : Above lines) : Above (line :: lines) :=
  List.forall_mem_cons.mpr ⟨⟨wf, mayBreak⟩, above⟩

/-- Lines of the grammar are read before what stands below them. -/
theorem commands_textAbove {lines : List LogicalLine} (above : Above lines) (number : Nat)
    (rest : List Char) :
    Cursor.commands ⟨textAbove lines ++ rest, number⟩ =
      (Cursor.commands ⟨rest, number + (textAbove lines).count '\n'⟩).map
        (commandsOf number lines ++ ·) := by
  induction lines generalizing number with
  | nil => exact (map_nil_append _).symm
  | cons line lines ih =>
      rcases List.forall_mem_cons.mp above with ⟨⟨wf, mayBreak⟩, below⟩
      have shaped : (Line.whole line).Shaped := wf.shaped
      rw [textAbove_cons_append, count_textAbove_cons, ← Nat.add_assoc, ← Nat.add_assoc]
      refine (Cursor.commands_break number shaped mayBreak _).trans ?_
      rw [Line.read_of_wf number wf, ih below]
      exact map_append_map_append _ _ _

/-! ## The first line that is not of the grammar -/

/-- A line that is not of the grammar, below lines that are. It has a token, for every line without
one is blank or a comment. -/
structure FirstFault (upper : List LogicalLine) (line : Line) (tail text : List Char) : Prop where
  text_eq : text = textAbove upper ++ (line.text ++ tail)
  above : Above upper
  shaped : line.Shaped
  ends : line.Ends tail
  faulty : ∀ logical : LogicalLine, line = .whole logical → ¬ logical.WF

theorem FirstFault.cons {logical : LogicalLine} {upper : List LogicalLine} {line : Line}
    {tail text : List Char} (wf : logical.WF) (mayBreak : logical.mayBreak)
    (fault : FirstFault upper line tail text) :
    FirstFault (logical :: upper) line tail (logical.text ++ '\n' :: text) where
  text_eq := by rw [textAbove_cons_append, ← fault.text_eq]
  above := fault.above.cons wf mayBreak
  shaped := fault.shaped
  ends := fault.ends
  faulty := fault.faulty

namespace Line

open LogicalLine (spaced meaningOf)

/-- The token of a line, or the word in front of its comment. -/
def token : Line → List Char
  | whole (.blank _) => []
  | whole (.comment _ word _) => word
  | whole (.command _ token _ _ _) | bare _ token | unfinished _ token _ _ => token

variable {line : Line} {tail : List Char}

/-- A token less the first character of a line break that is written as two. -/
def withoutReturn (token : List Char) : List Char :=
  if token.getLast? = some '\r' then token.dropLast else token

end Line

namespace FirstFault

variable {upper : List LogicalLine} {line : Line} {tail : List Char} {text : String} {error : Error}

end FirstFault

/-! ## Faults of a list of commands -/

/-- What is wrong with a list of commands as a whole. -/
inductive Misordered : (commands : List Command) → Error → Prop where
  /-- The first command is no origin. -/
  | missingOrigin {first : Command} {rest : List Command} :
      first.kind ≠ .origin → Misordered (first :: rest) .missingOrigin
  /-- The first command is an origin, and not the only one. -/
  | multipleOrigin {first : Command} {rest : List Command} :
      first.kind = .origin → 2 ≤ countKind (first :: rest) .origin →
        Misordered (first :: rest) .multipleOrigin
  /-- The first command is the only origin, and there are several entrypoints. -/
  | multipleEntrypoint {first : Command} {rest : List Command} :
      first.kind = .origin → countKind (first :: rest) .origin < 2 →
        2 ≤ countKind (first :: rest) .entrypoint →
          Misordered (first :: rest) .multipleEntrypoint

/-- An error about the list as a whole names no line. -/
theorem Misordered.line?_eq_none {commands : List Command} {error : Error}
    (misordered : Misordered commands error) : error.line? = none := by
  cases misordered <;> rfl

theorem documentError?_eq_some_iff {commands : List Command} {error : Error} :
    documentError? commands = some error ↔ Misordered commands error := by
  constructor
  · intro found
    cases commands with
    | nil => cases found
    | cons first rest =>
        rw [documentError?] at found
        split at found
        · cases found
          exact .missingOrigin ‹_›
        · rename_i origin
          have isOrigin : first.kind = .origin := Decidable.not_not.mp origin
          split at found
          · cases found
            exact .multipleOrigin isOrigin ‹_›
          · split at found
            · cases found
              exact .multipleEntrypoint isOrigin (Nat.lt_of_not_le ‹_›) ‹_›
            · cases found
  · rintro (other | ⟨origin, several⟩ | ⟨origin, single, several⟩)
    · simp [documentError?, other]
    · have := Nat.lt_of_succ_le several
      simp [documentError?, origin, this]
    · have one := Nat.not_lt_of_le (Nat.le_of_lt_succ single)
      have := Nat.lt_of_succ_le several
      simp [documentError?, origin, one, this]

end GuestImage.Recipe
