import GuestImage.Proofs.Recipe.Reading

/-!
# The texts that are recipes

A text is read as a recipe exactly if lines of the grammar spell it and their commands are in a
legal order, and then the recipe holds those commands. A text may be spelled by several lists of
lines, for a space may belong to the gap or to the argument; they all have the same commands.
-/

namespace GuestImage

/-- Whether a command has the fingerprint of its kind and argument. -/
def Command.Fingerprinted (command : Command) : Prop :=
  command.fingerprint = fingerprintOf command.kind command.value

namespace Recipe

/-! ## Spelling line by line -/

namespace Spells

theorem single {line : LogicalLine} (wf : line.WF) : Spells [line] line.text where
  nonempty := by simp
  wf := by simpa using wf
  mayBreak := by simp
  text_eq := rfl

/-- A line that may break stands in front of further lines. -/
theorem cons {line : LogicalLine} {lines : List LogicalLine} {rest : List Char} (wf : line.WF)
    (mayBreak : line.mayBreak) (spells : Spells lines rest) :
    Spells (line :: lines) (line.text ++ '\n' :: rest) := by
  rcases spells with ⟨nonempty, linesWF, linesBreak, rfl⟩
  cases lines with
  | nil => exact absurd rfl nonempty
  | cons next lines =>
      constructor
      · simp
      · exact List.forall_mem_cons.mpr ⟨wf, linesWF⟩
      · exact List.forall_mem_cons.mpr ⟨mayBreak, linesBreak⟩
      · rfl

/-- Several lines are spelled as the first, a line feed, and the others. -/
theorem exists_of_cons {line next : LogicalLine} {lines : List LogicalLine} {text : List Char}
    (spells : Spells (line :: next :: lines) text) :
    line.mayBreak ∧ ∃ rest, text = line.text ++ '\n' :: rest ∧ Spells (next :: lines) rest := by
  rcases spells with ⟨-, wf, mayBreak, rfl⟩
  refine ⟨mayBreak line (by simp), _, rfl, ?_⟩
  refine ⟨by simp, ?_, ?_, rfl⟩
  · intro other member
    exact wf other (List.mem_cons_of_mem _ member)
  · intro other member
    exact mayBreak other (by simpa using .inr member)

end Spells

instance (lines : List LogicalLine) (text : List Char) : Decidable (Spells lines text) :=
  decidable_of_iff
    (lines ≠ [] ∧ (∀ line ∈ lines, line.WF) ∧ (∀ line ∈ lines.dropLast, line.mayBreak) ∧
      textOf lines = text)
    ⟨fun ⟨nonempty, wf, mayBreak, same⟩ => ⟨nonempty, wf, mayBreak, same⟩,
      fun ⟨nonempty, wf, mayBreak, same⟩ => ⟨nonempty, wf, mayBreak, same⟩⟩

/-! ## Reading lines of the grammar -/

/-- A command is made of a token that selects a kind and an argument that is not blank. -/
theorem commandOf_eq_ok_iff {token meaning : List Char} {line : Nat} {command : Command} :
    commandOf token meaning line = .ok command ↔
      Text.trimList meaning ≠ [] ∧
        ∃ kind, CommandKind.ofToken? (String.ofList token) = some kind ∧
          command = .of kind (String.ofList (Text.trimList meaning)) line := by
  rw [commandOf]
  by_cases blank : Text.trimList meaning = []
  · simp [blank]
  · cases selected : CommandKind.ofToken? (String.ofList token) with
    | none => simp [blank]
    | some kind => simp [blank, eq_comm (a := command)]

theorem LogicalLine.WF.shaped {line : LogicalLine} (wf : line.WF) : line.Shaped := by
  cases line with
  | blank spaces => trivial
  | comment spaces word remark => exact wf
  | command spaces token gap argument remark? =>
      rcases wf with ⟨nonempty, chars, -, positive, pieces, within, -⟩
      exact ⟨nonempty, chars, positive, pieces, within⟩

namespace Line

/-- A line of the grammar is read as its command. -/
theorem read_of_wf (number : Nat) {line : LogicalLine} (wf : line.WF) :
    (whole line).read number = .ok (line.command? number) := by
  cases line with
  | blank | comment => rfl
  | command spaces token gap argument remark? =>
      rcases wf with ⟨-, -, selected, -, -, -, meant⟩
      rw [← CommandKind.isSome_ofToken?_iff, Option.isSome_iff_exists] at selected
      rcases selected with ⟨kind, selected⟩
      rw [read, commandOf_eq_ok_iff.mpr ⟨meant, kind, selected, rfl⟩]
      simp [LogicalLine.command?, CommandKind.find?_mem_aliases, selected, Except.map]

/-- Only lines of the grammar are read without an error. -/
theorem exists_wf_of_read {number : Nat} {line : Line} {command? : Option Command}
    (shaped : line.Shaped) (read : line.read number = .ok command?) :
    ∃ logical : LogicalLine, line = whole logical ∧ logical.WF := by
  cases line with
  | whole logical =>
      refine ⟨logical, rfl, ?_⟩
      cases logical with
      | blank spaces => trivial
      | comment spaces word remark => exact shaped
      | command spaces token gap argument remark? =>
          rcases shaped with ⟨nonempty, chars, positive, pieces, within⟩
          cases made : commandOf token (LogicalLine.meaningOf argument) number with
          | error error => simp [Line.read, made, Except.map] at read
          | ok command =>
              rcases commandOf_eq_ok_iff.mp made with ⟨meant, kind, selected, -⟩
              have named := CommandKind.ofToken?_eq_some_iff.mp selected
              exact ⟨nonempty, chars, ⟨kind, kind.mem_all, named⟩, positive, pieces, within, meant⟩
  | bare spaces token => cases read
  | unfinished spaces token gap argument => cases read

end Line

/-! ## Reading texts of the grammar -/

/-- A text that lines spell is read as their commands. -/
theorem commands_of_spells {number : Nat} {lines : List LogicalLine} {text : List Char}
    (spells : Spells lines text) :
    Cursor.commands ⟨text, number⟩ = .ok (commandsOf number lines) := by
  induction lines generalizing number text with
  | nil => exact absurd rfl spells.nonempty
  | cons line lines ih =>
      have wf := spells.wf line (by simp)
      have shaped : (Line.whole line).Shaped := wf.shaped
      cases lines with
      | nil =>
          obtain rfl : line.text = text := spells.text_eq
          have read := Cursor.commands_last number shaped
          rw [Line.read_of_wf number wf] at read
          rw [commandsOf, commandsOf, List.append_nil]
          exact read
      | cons next lines =>
          rcases spells.exists_of_cons with ⟨mayBreak, rest, rfl, others⟩
          have read := Cursor.commands_break number shaped mayBreak rest
          rw [Line.read_of_wf number wf, ih others] at read
          exact read

theorem scan_of_spells {lines : List LogicalLine} {text : String}
    (spells : Spells lines text.toList) : scan text = .ok (commandsOf 1 lines) :=
  commands_of_spells spells

/-- A text that is read without an error is spelled by lines of the grammar. -/
theorem exists_spells_of_commands (text : List Char) {number : Nat} {commands : List Command}
    (read : Cursor.commands ⟨text, number⟩ = .ok commands) : ∃ lines, Spells lines text := by
  induction text using Line.text_induction generalizing number commands with
  | last line shaped =>
      rcases Cursor.exists_of_commands_last shaped read with ⟨command?, first, -⟩
      rcases Line.exists_wf_of_read shaped first with ⟨logical, rfl, wf⟩
      exact ⟨[logical], .single wf⟩
  | more line rest shaped mayBreak ih =>
      rcases Cursor.exists_of_commands_break shaped mayBreak read with
        ⟨command?, others, first, below, -⟩
      rcases Line.exists_wf_of_read shaped first with ⟨logical, rfl, wf⟩
      rcases ih below with ⟨lines, spells⟩
      exact ⟨logical :: lines, .cons wf mayBreak spells⟩

/-- The texts that are read without an error are those that lines of the grammar spell. -/
theorem commands_eq_ok_iff {text : List Char} {number : Nat} {commands : List Command} :
    Cursor.commands ⟨text, number⟩ = .ok commands ↔
      ∃ lines, Spells lines text ∧ commands = commandsOf number lines := by
  constructor
  · intro read
    rcases exists_spells_of_commands text read with ⟨lines, spells⟩
    rw [commands_of_spells spells] at read
    exact ⟨lines, spells, (Except.ok.inj read).symm⟩
  · rintro ⟨lines, spells, rfl⟩
    exact commands_of_spells spells

/-! ## Legal orders of commands -/

/-- The lists of commands that a recipe may hold: none, or its only origin first, and at most one
entrypoint. -/
def WellOrdered : (commands : List Command) → Prop
  | [] => True
  | first :: rest =>
      first.kind = .origin ∧ (∀ command ∈ rest, command.kind ≠ .origin) ∧
        countKind (first :: rest) .entrypoint ≤ 1

instance : DecidablePred WellOrdered := fun commands => by
  cases commands <;> unfold WellOrdered <;> infer_instance

/-- A list that starts with an origin has one origin more than the rest of it. -/
theorem countKind_origin_le_one_iff {first : Command} {rest : List Command}
    (origin : first.kind = .origin) :
    countKind (first :: rest) .origin ≤ 1 ↔ ∀ command ∈ rest, command.kind ≠ .origin := by
  rw [countKind, List.countP_cons_of_pos (by simpa using origin)]
  simp [List.countP_eq_zero]

theorem documentError?_eq_none_iff {commands : List Command} :
    documentError? commands = none ↔ WellOrdered commands := by
  cases commands with
  | nil => simp [documentError?, WellOrdered]
  | cons first rest =>
      by_cases origin : first.kind = .origin
      · simp only [documentError?, WellOrdered, origin, ← countKind_origin_le_one_iff origin]
        grind
      · simp [documentError?, WellOrdered, origin]

/-- The checks on the whole list come after the last line. -/
theorem parse_eq_bind (text : String) :
    parse text = (scan text).bind fun commands =>
      match documentError? commands with
      | some error => .error error
      | none => .ok ⟨commands⟩ := by
  rw [parse]
  cases scan text <;> rfl

theorem parse_eq_ok {text : String} {recipe : Recipe} :
    parse text = .ok recipe ↔
      scan text = .ok recipe.commands ∧ documentError? recipe.commands = none := by
  rw [parse_eq_bind]
  cases scan text with
  | error error => simp [Except.bind]
  | ok commands =>
      rcases recipe with ⟨expected⟩
      simp only [Except.bind, Except.ok.injEq]
      constructor
      · intro read
        cases fault : documentError? commands with
        | some error => simp [fault] at read
        | none =>
            obtain rfl : commands = expected := by simpa [fault] using read
            exact ⟨rfl, fault⟩
      · rintro ⟨rfl, noFault⟩
        rw [noFault]

theorem parse_of_spells {lines : List LogicalLine} {text : String}
    (spells : Spells lines text.toList) (ordered : WellOrdered (commandsOf 1 lines)) :
    parse text = .ok ⟨commandsOf 1 lines⟩ :=
  parse_eq_ok.mpr ⟨scan_of_spells spells, documentError?_eq_none_iff.mpr ordered⟩

/-- Every command of lines is the command of one of them. -/
theorem exists_line_of_mem_commandsOf {number : Nat} {lines : List LogicalLine}
    {command : Command} (member : command ∈ commandsOf number lines) :
    ∃ line ∈ lines, ∃ start, line.command? start = some command := by
  induction lines generalizing number with
  | nil => cases member
  | cons line lines ih =>
      rw [commandsOf, List.mem_append] at member
      rcases member with own | later
      · exact ⟨line, by simp, number, by simpa using own⟩
      · rcases ih later with ⟨other, below, start, made⟩
        exact ⟨other, List.mem_cons_of_mem _ below, start, made⟩

theorem LogicalLine.fingerprinted_of_command? {line : LogicalLine} {number : Nat}
    {command : Command} (made : line.command? number = some command) : command.Fingerprinted := by
  cases line with
  | blank | comment => cases made
  | command spaces token gap argument remark? =>
      rcases Option.map_eq_some_iff.mp made with ⟨kind, -, rfl⟩
      rfl

theorem fingerprinted_of_parse {text : String} {recipe : Recipe} (read : parse text = .ok recipe) :
    ∀ command ∈ recipe.commands, command.Fingerprinted := by
  rcases commands_eq_ok_iff.mp (parse_eq_ok.mp read).1 with ⟨lines, -, commands⟩
  rw [commands]
  intro command member
  rcases exists_line_of_mem_commandsOf member with ⟨line, -, start, made⟩
  exact LogicalLine.fingerprinted_of_command? made

/-- A recipe is read from a text exactly if lines of the grammar spell the text, the recipe holds
the commands of the lines, and these are in a legal order. -/
theorem parse_eq_ok_iff (text : String) (recipe : Recipe) :
    parse text = .ok recipe ↔
      ∃ lines, Spells lines text.toList ∧ recipe.commands = commandsOf 1 lines ∧
        WellOrdered recipe.commands := by
  rw [parse_eq_ok, scan_eq_commands, commands_eq_ok_iff, documentError?_eq_none_iff]
  constructor
  · rintro ⟨⟨lines, spells, commands⟩, ordered⟩
    exact ⟨lines, spells, commands, ordered⟩
  · rintro ⟨lines, spells, commands, ordered⟩
    exact ⟨⟨lines, spells, commands⟩, ordered⟩

end Recipe

end GuestImage
