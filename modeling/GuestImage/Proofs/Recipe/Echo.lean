import GuestImage.Proofs.Recipe.RoundTrip

/-!
# Reading what was echoed

A recipe that is echoed without escapes reads back as the same commands only if there was nothing
to escape. A comment or an escape shortens the argument it stands in, and an escaped line break
makes one command of two lines, so that there are fewer commands than lines.
-/

namespace GuestImage

/-- Commands whose argument holds nothing that would have to be escaped. -/
def Command.Plain (command : Command) : Prop :=
  '\\' ∉ command.value.toList ∧ '#' ∉ command.value.toList

namespace Recipe

/-! ## Arguments that lose nothing -/

/-- An argument stands for fewer characters than it is spelled with: two fewer for each line break
in it. -/
theorem length_meaningOf_add_le (argument : List Piece) (wf : ∀ piece ∈ argument, piece.WF) :
    (LogicalLine.meaningOf argument).length + 2 * (argument.flatMap Piece.text).count '\n' ≤
      (argument.flatMap Piece.text).length := by
  induction argument with
  | nil => simp [LogicalLine.meaningOf]
  | cons piece argument ih =>
      rcases List.forall_mem_cons.mp wf with ⟨pieceWF, argumentWF⟩
      have rest := ih argumentWF
      have first : piece.meaning.length + 2 * piece.text.count '\n' ≤ piece.text.length := by
        cases piece with
        | plain letter =>
            rw [Piece.count_plain pieceWF]
            exact Nat.le_refl 1
        | escaped letter =>
            rw [Piece.count_escaped pieceWF]
            exact Nat.le_succ 1
        | continued carriage => cases carriage <;> simp [Piece.meaning, Piece.text]
      simp only [LogicalLine.meaningOf] at rest ⊢
      simp only [List.flatMap_cons, List.length_append, List.count_append]
      omega

/-- An argument that stands for as many characters as it is spelled with has only characters that
stand for themselves. -/
theorem plain_of_length_le {argument : List Piece} (wf : ∀ piece ∈ argument, piece.WF)
    (kept : (argument.flatMap Piece.text).length ≤ (LogicalLine.meaningOf argument).length) :
    '\\' ∉ argument.flatMap Piece.text ∧ '#' ∉ argument.flatMap Piece.text := by
  induction argument with
  | nil => simp
  | cons piece argument ih =>
      rcases List.forall_mem_cons.mp wf with ⟨pieceWF, argumentWF⟩
      have bound := length_meaningOf_add_le argument argumentWF
      simp only [LogicalLine.meaningOf, List.flatMap_cons, List.length_append] at kept bound
      cases piece with
      | plain letter =>
          have rest := ih argumentWF (by
            simp only [Piece.text, Piece.meaning, List.length_singleton] at kept
            rw [LogicalLine.meaningOf]
            omega)
          simp [Piece.text, pieceWF.1.symm, pieceWF.2.1.symm, rest]
      | escaped letter =>
          simp only [Piece.text, Piece.meaning, List.length_cons, List.length_nil] at kept
          omega
      | continued carriage =>
          cases carriage <;>
            simp only [Piece.text, Piece.meaning, List.length_cons, List.length_nil] at kept <;>
            omega

/-! ## Counting commands -/

/-- Whether a text is empty or ends in a line feed. -/
def Closed (text : List Char) : Prop :=
  ∀ letter ∈ text.getLast?, letter = '\n'

theorem closed_append_iff {front rest : List Char} :
    Closed (front ++ '\n' :: rest) ↔ Closed rest := by
  cases rest <;> simp [Closed]

theorem Closed.count_pos {text : List Char} (closed : Closed text) (nonempty : text ≠ []) :
    0 < text.count '\n' := by
  have last := List.getLast?_eq_some_getLast nonempty
  have feed := closed _ last
  rw [feed] at last
  exact List.count_pos_iff.mpr (List.mem_of_getLast? last)

/-- A text whose lines all have a line feed behind them has at most as many commands as lines. -/
theorem length_commands_le {text : List Char} (closed : Closed text) {number : Nat}
    {commands : List Command} (read : Cursor.commands ⟨text, number⟩ = .ok commands) :
    commands.length ≤ text.count '\n' := by
  induction text using Line.text_induction generalizing number commands with
  | last line shaped =>
      by_cases empty : line.text = []
      · rw [empty, Cursor.commands_nil] at read
        obtain rfl := Except.ok.inj read
        exact Nat.zero_le _
      · rcases Cursor.exists_of_commands_last shaped read with ⟨command?, -, rfl⟩
        exact Nat.le_trans Option.length_toList_le (closed.count_pos empty)
  | more line rest shaped mayBreak ih =>
      rcases Cursor.exists_of_commands_break shaped mayBreak read with
        ⟨command?, others, -, below, rfl⟩
      have bound := ih (closed_append_iff.mp closed) below
      have few := Option.length_toList_le (o := command?)
      rw [List.length_append, List.count_append, List.count_cons_self]
      omega

/-! ## Echoed lines -/

theorem echoCommand_append (command : Command) (rest : List Char) :
    echoCommand command ++ rest =
      LogicalLine.spaced 0 ++ command.kind.keyword.toList ++
        ' ' :: (command.value.toList ++ '\n' :: rest) := by
  simp [echoCommand, Command.text, LogicalLine.spaced]

theorem echoCommand_eq (command : Command) :
    echoCommand command =
      (command.kind.keyword.toList ++ ' ' :: command.value.toList) ++ ['\n'] := by
  simp [echoCommand, Command.text]

theorem count_echoCommand {command : Command} (wf : command.WF) :
    (echoCommand command).count '\n' = 1 := by
  have keyword := Line.count_token (keyword_isToken command.kind)
  have value := List.count_eq_zero.mpr wf.oneLine
  simp [echoCommand_eq, keyword, value]

theorem count_echo {commands : List Command} (wf : ∀ command ∈ commands, command.WF) :
    (commands.flatMap echoCommand).count '\n' = commands.length := by
  induction commands with
  | nil => rfl
  | cons command commands ih =>
      rcases List.forall_mem_cons.mp wf with ⟨commandWF, rest⟩
      rw [List.flatMap_cons, List.count_append, count_echoCommand commandWF, ih rest,
        List.length_cons, Nat.add_comm]

theorem closed_echo (commands : List Command) : Closed (commands.flatMap echoCommand) := by
  intro letter last
  rcases List.eq_nil_or_concat commands with rfl | ⟨initial, command, rfl⟩
  · cases last
  · have ending : (initial.concat command).flatMap echoCommand =
        initial.flatMap echoCommand ++
          (command.kind.keyword.toList ++ ' ' :: command.value.toList) ++ ['\n'] := by
      simp [echoCommand_eq]
    rw [ending, List.getLast?_concat] at last
    exact (Option.some.inj last).symm

/-- A command has the argument of its line, less the blanks around it. -/
theorem exists_of_read_command {number spaces gap : Nat} {token : List Char}
    {argument : List Piece} {remark? : Option (List Char)} {command? : Option Command}
    (read : (Line.whole (.command spaces token gap argument remark?)).read number = .ok command?) :
    ∃ command, command? = some command ∧
      command.value.toList = Text.trimList (LogicalLine.meaningOf argument) := by
  cases made : commandOf token (LogicalLine.meaningOf argument) number with
  | error error => simp [Line.read, made, Except.map] at read
  | ok command =>
      rw [Line.read, made] at read
      rcases commandOf_eq_ok_iff.mp made with ⟨-, kind, -, rfl⟩
      exact ⟨_, (Except.ok.inj read).symm, String.toList_ofList⟩

/-- A line of an argument that keeps its length is all of the argument and holds nothing to escape,
or it runs over further lines. -/
theorem line_of_echo {value below tail : List Char} {argument : List Piece}
    {remark? : Option (List Char)} (oneLine : '\n' ∉ value) (wf : ∀ piece ∈ argument, piece.WF)
    (within : '\n' ∉ LogicalLine.remarkText remark?) (ends : LineEnd tail)
    (spelled : value ++ '\n' :: below =
      argument.flatMap Piece.text ++ LogicalLine.remarkText remark? ++ tail)
    (kept : value.length ≤ (LogicalLine.meaningOf argument).length) :
    (tail = '\n' :: below ∧ '\\' ∉ value ∧ '#' ∉ value) ∨ (tail = [] ∧ below ≠ []) ∨
      ∃ rest, tail = '\n' :: rest ∧ rest.count '\n' < below.count '\n' := by
  have bound := length_meaningOf_add_le argument wf
  have valueCount := List.count_eq_zero.mpr oneLine
  have remarkCount := List.count_eq_zero.mpr within
  have lengths := congrArg List.length spelled
  have counts := congrArg (List.count '\n') spelled
  simp only [List.length_append, List.length_cons] at lengths
  simp only [List.count_append, List.count_cons_self, valueCount, remarkCount] at counts
  rcases ends with rfl | ⟨rest, rfl⟩
  -- The line feed behind the value is in the argument, which is longer than what it stands for by
  -- two then. Only text below the value can make up for that.
  · right
    left
    refine ⟨rfl, ?_⟩
    rintro rfl
    simp only [List.count_nil, List.length_nil] at counts lengths
    omega
  · rw [List.count_cons_self] at counts
    by_cases inside : '\n' ∈ argument.flatMap Piece.text
    -- The argument has taken line feeds from the lines below.
    · right
      right
      refine ⟨rest, rfl, ?_⟩
      have := List.count_pos_iff.mpr inside
      omega
    -- The argument ends with the value, and there is no room for a comment or an escape.
    · left
      have absent : '\n' ∉ argument.flatMap Piece.text ++ LogicalLine.remarkText remark? := by
        simp [inside, within]
      rcases Text.append_cons_inj oneLine absent spelled with ⟨same, rfl⟩
      have sizes := congrArg List.length same
      rw [List.length_append] at sizes
      have noRemark : LogicalLine.remarkText remark? = [] := by
        apply List.length_eq_zero_iff.mp
        omega
      have plain := plain_of_length_le wf (by omega)
      rw [noRemark, List.append_nil] at same
      rw [same]
      exact ⟨rfl, plain⟩

/-- An echoed line that keeps its argument has nothing to escape, or there are fewer commands below
it than lines. -/
theorem plain_or_fewer_of_echo {command echoed : Command} {others : List Command}
    {below : List Char} {number : Nat} (wf : command.WF) (closed : Closed below)
    (ok : Cursor.commands ⟨echoCommand command ++ below, number⟩ = .ok (echoed :: others))
    (value : echoed.value = command.value) :
    (command.Plain ∧ ∃ place, Cursor.commands ⟨below, place⟩ = .ok others) ∨
      others.length < below.count '\n' := by
  rcases exists_opens 0 (command.value.toList ++ '\n' :: below) with ⟨argument, stop, opens⟩
  rw [echoCommand_append] at ok
  rcases Line.exists_line_of_opens 0 (keyword_ne_nil _) (keyword_isToken _) opens with
    ⟨remark?, tail, spelled, shaped, ends⟩ | ⟨spelled, shaped⟩
  · rw [spelled] at ok
    rcases Cursor.exists_of_commands_line shaped ends ok with ⟨command?, rest, first, later, same⟩
    rcases exists_of_read_command first with ⟨made, rfl, trimmed⟩
    obtain ⟨rfl, rfl⟩ := List.cons.inj same
    rw [value] at trimmed
    have kept := (Text.trimList_sublist (LogicalLine.meaningOf argument)).length_le
    rw [← trimmed] at kept
    have argumentSpelled : command.value.toList ++ '\n' :: below =
        argument.flatMap Piece.text ++ LogicalLine.remarkText remark? ++ tail := by
      simpa [Line.text, LogicalLine.text, LogicalLine.spaced] using spelled
    rcases shaped with ⟨-, -, -, pieces, within⟩
    rcases line_of_echo wf.oneLine pieces within ends.lineEnd argumentSpelled kept with
      ⟨rfl, plain⟩ | ⟨rfl, more⟩ | ⟨rest, rfl, fewer⟩
    · rw [Cursor.commands_lineFeed] at later
      exact .inl ⟨plain, _, later⟩
    · rw [Cursor.commands_nil] at later
      obtain rfl := Except.ok.inj later
      exact .inr (closed.count_pos more)
    · right
      rw [Cursor.commands_lineFeed] at later
      rw [← closed_append_iff, argumentSpelled, closed_append_iff] at closed
      exact Nat.lt_of_le_of_lt (length_commands_le closed later) fewer
  · rw [spelled] at ok
    rcases Cursor.exists_of_commands_last shaped ok with ⟨command?, impossible, -⟩
    cases impossible

/-- What is echoed and read back unchanged had nothing to escape. -/
theorem plain_of_commands_echo {commands read : List Command} {number : Nat}
    (wf : ∀ command ∈ commands, command.WF)
    (ok : Cursor.commands ⟨commands.flatMap echoCommand, number⟩ = .ok read)
    (same : contents read = contents commands) : ∀ command ∈ commands, command.Plain := by
  induction commands generalizing number read with
  | nil => simp
  | cons command commands ih =>
      rcases List.forall_mem_cons.mp wf with ⟨commandWF, commandsWF⟩
      cases read with
      | nil => cases same
      | cons echoed others =>
          simp only [contents, List.map_cons, List.cons.injEq, Prod.mk.injEq] at same
          rcases same with ⟨⟨-, value⟩, same⟩
          rcases plain_or_fewer_of_echo commandWF (closed_echo commands) ok value with
            ⟨plain, place, below⟩ | fewer
          · exact List.forall_mem_cons.mpr ⟨plain, ih commandsWF below same⟩
          · have length := congrArg List.length same
            rw [List.length_map, List.length_map] at length
            rw [count_echo commandsWF] at fewer
            omega

/-! ## Recipes with nothing to escape -/

theorem escape_eq_self {letters : List Char} (noBackslash : '\\' ∉ letters)
    (noRemark : '#' ∉ letters) : letters.flatMap escapeChar = letters := by
  induction letters with
  | nil => rfl
  | cons letter letters ih =>
      simp only [List.mem_cons, not_or] at noBackslash noRemark
      have kept : escapeChar letter = [letter] := by
        simp [escapeChar, Ne.symm noBackslash.1, Ne.symm noRemark.1]
      rw [List.flatMap_cons, kept, ih noBackslash.2 noRemark.2]
      rfl

theorem echo_eq_print {recipe : Recipe} (plain : ∀ command ∈ recipe.commands, command.Plain) :
    echo recipe = print recipe := by
  have lines : recipe.commands.map echoCommand = recipe.commands.map printCommand := by
    apply List.map_congr_left
    intro command member
    rcases plain command member with ⟨noBackslash, noRemark⟩
    rw [echoCommand_eq, printCommand, escape_eq_self noBackslash noRemark]
  rw [echo, print, List.flatMap_def, List.flatMap_def, lines]

/-- A recipe that was read from a text and is echoed without escapes reads back as the same kinds
and arguments exactly if no argument has anything to escape. -/
theorem echo_reads_back_iff {recipe : Recipe} (ordered : WellOrdered recipe.commands)
    (wf : ∀ command ∈ recipe.commands, command.WF) :
    (∃ echoed, parse (echo recipe) = .ok echoed ∧
        contents echoed.commands = contents recipe.commands) ↔
      ∀ command ∈ recipe.commands, command.Plain := by
  constructor
  · rintro ⟨echoed, read, same⟩
    have scanned := (parse_eq_ok.mp read).1
    rw [scan_eq_commands, echo, String.toList_ofList] at scanned
    exact plain_of_commands_echo wf scanned same
  · intro plain
    rw [echo_eq_print plain]
    exact ⟨_, parse_print ordered wf, contents_numberedFrom 1 recipe.commands⟩

/-- A recipe that was read from a text reads back when it is printed: the same kinds, arguments,
fingerprints and keys, one command a line. Echoed without escapes it reads back as the same kinds
and arguments exactly if no argument holds a backslash or a number sign. -/
theorem print_and_echo_read_back {text : String} {recipe : Recipe}
    (read : parse text = .ok recipe) :
    (∃ printed, parse (print recipe) = .ok printed ∧
        printed.commands =
          recipe.commands.mapIdx (fun index command => { command with line := 1 + index }) ∧
        StepKey.all printed = StepKey.all recipe) ∧
      ((∃ echoed, parse (echo recipe) = .ok echoed ∧
          echoed.commands.map (fun command => (command.kind, command.value)) =
            recipe.commands.map fun command => (command.kind, command.value)) ↔
        ∀ command ∈ recipe.commands, '\\' ∉ command.value.toList ∧ '#' ∉ command.value.toList) := by
  have wf := wf_of_parse read
  constructor
  · exact exists_parse_print wf.ordered wf.commands
  · exact echo_reads_back_iff wf.ordered wf.commands

/-- An escaped number sign is read as itself, and echoed it starts a comment. -/
theorem print_and_echo_read_back_remark :
    parse "FROM a\nRUN b\\#c" = .ok ⟨[.of .origin "a" 1, .of .run "b#c" 2]⟩ ∧
      (∃ printed, parse (print ⟨[.of .origin "a" 1, .of .run "b#c" 2]⟩) = .ok printed ∧
        printed.commands = [.of .origin "a" 1, .of .run "b#c" 2]) ∧
      ¬ ∃ echoed, parse (echo ⟨[.of .origin "a" 1, .of .run "b#c" 2]⟩) = .ok echoed ∧
        echoed.commands.map (fun command => (command.kind, command.value)) =
          [(.origin, "a"), (.run, "b#c")] := by
  have spells : Spells [.command 0 "FROM".toList 1 [.plain 'a'] none,
      .command 0 "RUN".toList 1 [.plain 'b', .escaped '#', .plain 'c'] none]
      "FROM a\nRUN b\\#c".toList := by decide
  have read := parse_of_spells spells (by decide)
  rcases print_and_echo_read_back read with ⟨⟨printed, back, commands, -⟩, echoed⟩
  refine ⟨read, ⟨printed, back, commands⟩, ?_⟩
  intro same
  have plain := echoed.mp same (.of .run "b#c" 2) (by decide)
  exact absurd plain (by decide)

end Recipe

end GuestImage
