import GuestImage.Proofs.Recipe.Fault
import GuestImage.Proofs.Recipe.Invariant
import GuestImage.Proofs.StepKey.History
import GuestImage.Recipe.Printer

/-!
# Reading what was printed

A recipe that is printed with its escapes reads back as the same commands on consecutive lines,
and they have the same step keys.
-/

namespace GuestImage

namespace Recipe

/-- The same commands on consecutive lines. -/
def numberedFrom (number : Nat) (commands : List Command) : List Command :=
  commands.mapIdx fun index command => { command with line := number + index }

theorem numberedFrom_cons (number : Nat) (command : Command) (commands : List Command) :
    numberedFrom number (command :: commands) =
      { command with line := number } :: numberedFrom (number + 1) commands := by
  simp [numberedFrom, List.mapIdx_cons, Nat.add_assoc, Nat.add_comm 1]

/-- The kinds and arguments of commands. -/
def contents (commands : List Command) : List (CommandKind × String) :=
  commands.map fun command => (command.kind, command.value)

theorem contents_numberedFrom (number : Nat) (commands : List Command) :
    contents (numberedFrom number commands) = contents commands := by
  induction commands generalizing number with
  | nil => rfl
  | cons command commands ih =>
      rw [numberedFrom_cons]
      exact congrArg (_ :: ·) (ih (number + 1))

/-! ## Keywords -/

theorem keyword_ne_nil (kind : CommandKind) : kind.keyword.toList ≠ [] := by
  cases kind <;> decide

theorem keyword_isToken (kind : CommandKind) : kind.keyword.toList.all isTokenChar := by
  cases kind <;> decide

theorem keyword_mem_aliases (kind : CommandKind) :
    String.ofList kind.keyword.toList ∈ kind.aliases := by
  rw [String.ofList_toList]
  exact List.mem_cons_self

/-! ## Printed lines -/

/-- How a character of an argument is printed. -/
def printedPiece (letter : Char) : Piece :=
  if letter = '\\' || letter = '#' then .escaped letter else .plain letter

theorem text_printedPiece (letter : Char) : (printedPiece letter).text = escapeChar letter := by
  rw [printedPiece, escapeChar]
  split <;> rfl

theorem meaning_printedPiece (letter : Char) : (printedPiece letter).meaning = [letter] := by
  rw [printedPiece]
  split <;> rfl

theorem wf_printedPiece {letter : Char} (notFeed : letter ≠ '\n') : (printedPiece letter).WF := by
  rw [printedPiece]
  split
  · exact notFeed
  · rename_i unescaped
    simp only [Bool.or_eq_true, decide_eq_true_eq, not_or] at unescaped
    exact ⟨unescaped.1, unescaped.2, notFeed⟩

/-- The parts of a printed argument. -/
def printedArgument (command : Command) : List Piece :=
  command.value.toList.map printedPiece

theorem text_printedArgument (command : Command) :
    (printedArgument command).flatMap Piece.text = command.value.toList.flatMap escapeChar := by
  simp only [printedArgument, List.flatMap_map, text_printedPiece]

theorem meaningOf_printedArgument (command : Command) :
    LogicalLine.meaningOf (printedArgument command) = command.value.toList := by
  simp only [LogicalLine.meaningOf, printedArgument, List.flatMap_map, meaning_printedPiece]
  exact List.flatMap_singleton' _

/-- The line that a command is printed on. -/
def printedLine (command : Command) : LogicalLine :=
  .command 0 command.kind.keyword.toList 1 (printedArgument command) none

theorem text_printedLine (command : Command) :
    (printedLine command).text ++ ['\n'] = printCommand command := by
  simp [printedLine, LogicalLine.text, LogicalLine.spaced, LogicalLine.remarkText, printCommand,
    text_printedArgument]

theorem toList_print (recipe : Recipe) :
    (print recipe).toList = textAbove (recipe.commands.map printedLine) := by
  simp [print, textAbove, List.flatMap_map, text_printedLine]

theorem printedLine_wf {command : Command} (wf : command.WF) : (printedLine command).WF := by
  refine ⟨keyword_ne_nil _, keyword_isToken _, ?_, Nat.one_pos, ?_, ?_, ?_⟩
  · exact ⟨command.kind, command.kind.mem_all, keyword_mem_aliases _⟩
  · intro piece member
    rcases List.mem_map.mp member with ⟨letter, present, rfl⟩
    exact wf_printedPiece fun feed => wf.oneLine (feed ▸ present)
  · simp [LogicalLine.remarkText]
  · rw [meaningOf_printedArgument, wf.trimList_value]
    simpa using wf.value_ne_empty

/-- Only backslashes and number signs are escaped, so a printed argument does not end in an escaped
carriage return. -/
theorem printedLine_mayBreak (command : Command) : (printedLine command).mayBreak := by
  intro last
  rw [printedArgument, List.getLast?_map, Option.map_eq_some_iff] at last
  rcases last with ⟨letter, -, same⟩
  rw [printedPiece] at same
  split at same
  · rename_i escaped
    cases same
    exact absurd escaped (by decide)
  · cases same

theorem lineFeed_not_mem_escapeChar {letter : Char} (notFeed : letter ≠ '\n') :
    '\n' ∉ escapeChar letter := by
  rw [escapeChar]
  split <;> simp [Ne.symm notFeed]

theorem lineFeeds_printedLine {command : Command} (wf : command.WF) :
    (printedLine command).lineFeeds = 0 := by
  have shaped : (Line.whole (printedLine command)).Shaped := (printedLine_wf wf).shaped
  refine (Line.lineFeeds_command 0 1 shaped).trans ?_
  rw [text_printedArgument, List.count_eq_zero, List.mem_flatMap]
  rintro ⟨letter, present, feed⟩
  exact lineFeed_not_mem_escapeChar (fun same => wf.oneLine (same ▸ present)) feed

theorem command?_printedLine {command : Command} (wf : command.WF) (number : Nat) :
    (printedLine command).command? number = some { command with line := number } := by
  rw [printedLine, LogicalLine.command?, CommandKind.find?_mem_aliases,
    CommandKind.ofToken?_eq_some_iff.mpr (keyword_mem_aliases _), meaningOf_printedArgument,
    wf.trimList_value, String.ofList_toList, Option.map_some, Command.of, ← wf.fingerprinted]

theorem commandsOf_printedLines {commands : List Command}
    (wf : ∀ command ∈ commands, command.WF) (number : Nat) :
    commandsOf number (commands.map printedLine) = numberedFrom number commands := by
  induction commands generalizing number with
  | nil => rfl
  | cons command commands ih =>
      rcases List.forall_mem_cons.mp wf with ⟨commandWF, rest⟩
      rw [List.map_cons, commandsOf, command?_printedLine commandWF,
        lineFeeds_printedLine commandWF, ih rest, numberedFrom_cons]
      rfl

theorem above_printedLines {commands : List Command} (wf : ∀ command ∈ commands, command.WF) :
    Above (commands.map printedLine) := by
  intro line member
  rcases List.mem_map.mp member with ⟨command, present, rfl⟩
  exact ⟨printedLine_wf (wf command present), printedLine_mayBreak command⟩

theorem scan_print {recipe : Recipe} (wf : ∀ command ∈ recipe.commands, command.WF) :
    scan (print recipe) = .ok (numberedFrom 1 recipe.commands) := by
  have read := commands_textAbove (above_printedLines wf) 1 []
  rw [List.append_nil, Cursor.commands_nil, commandsOf_printedLines wf, ← toList_print] at read
  rw [scan_eq_commands, read, Except.map, List.append_nil]

/-! ## The order of commands -/

/-- Whether commands are in a legal order depends on their kinds only. -/
theorem WellOrdered.of_contents_eq {first second : List Command}
    (same : contents first = contents second) (ordered : WellOrdered first) :
    WellOrdered second := by
  have kinds : first.map Command.kind = second.map Command.kind := by
    have := congrArg (List.map Prod.fst) same
    simpa [contents, Function.comp_def] using this
  have counted (commands : List Command) (kind : CommandKind) :
      countKind commands kind = (commands.map Command.kind).countP (· = kind) := by
    rw [List.countP_map]
    rfl
  cases first with
  | nil =>
      obtain rfl : second = [] := List.map_eq_nil_iff.mp kinds.symm
      trivial
  | cons command commands =>
      cases second with
      | nil => trivial
      | cons other others =>
          rcases ordered with ⟨origin, single, few⟩
          rw [counted, kinds, ← counted] at few
          simp only [List.map_cons, List.cons.injEq] at kinds
          refine ⟨kinds.1 ▸ origin, ?_, few⟩
          intro later member isOrigin
          have present : CommandKind.origin ∈ commands.map Command.kind := by
            rw [kinds.2]
            exact List.mem_map.mpr ⟨later, member, isOrigin⟩
          rcases List.mem_map.mp present with ⟨earlier, place, isOrigin⟩
          exact single earlier place isOrigin

theorem parse_print {recipe : Recipe} (ordered : WellOrdered recipe.commands)
    (wf : ∀ command ∈ recipe.commands, command.WF) :
    parse (print recipe) = .ok ⟨numberedFrom 1 recipe.commands⟩ := by
  refine parse_eq_ok.mpr ⟨scan_print wf, ?_⟩
  rw [documentError?_eq_none_iff]
  exact ordered.of_contents_eq (contents_numberedFrom 1 recipe.commands).symm

/-- A printed recipe reads back as the same commands on consecutive lines, with the same keys. -/
theorem exists_parse_print {recipe : Recipe} (ordered : WellOrdered recipe.commands)
    (wf : ∀ command ∈ recipe.commands, command.WF) :
    ∃ printed, parse (print recipe) = .ok printed ∧
      printed.commands = numberedFrom 1 recipe.commands ∧
      StepKey.all printed = StepKey.all recipe := by
  have read := parse_print ordered wf
  refine ⟨_, read, rfl, ?_⟩
  apply StepKey.chain_congr (fingerprinted_of_parse read)
  · intro command member
    exact (wf command member).fingerprinted
  · exact contents_numberedFrom 1 recipe.commands

end Recipe

end GuestImage
