import GuestImage.Proofs.Recipe.Acceptance

/-!
# Reading across a line break

Two texts with a line feed between them are read as the first and then the second, with the lines
of the second counted on. This fails only where the first text ends in an open escape: a backslash,
or a backslash and a carriage return, would make an escaped line break of the line feed.
-/

namespace GuestImage

/-- The same command, further down in a text. -/
def Command.shift (amount : Nat) (command : Command) : Command :=
  { command with line := command.line + amount }

namespace Recipe

/-- The same error, further down in a text. -/
def Error.shift (amount : Nat) : Error → Error
  | missingArgument token line => missingArgument token (line + amount)
  | unterminatedEscape line => unterminatedEscape (line + amount)
  | unknownCommand token line => unknownCommand token (line + amount)
  | missingOrigin => missingOrigin
  | multipleOrigin => multipleOrigin
  | multipleEntrypoint => multipleEntrypoint

/-- What is read from the same text, further down in another. -/
def shifted (amount : Nat) : Except Error (List Command) → Except Error (List Command)
  | .ok commands => .ok (commands.map (Command.shift amount))
  | .error error => .error (error.shift amount)

@[simp] theorem shift_missingArgument (token : List Char) (line amount : Nat) :
    (Recipe.missingArgument token line).shift amount =
      Recipe.missingArgument token (line + amount) := rfl

@[simp] theorem shift_of (kind : CommandKind) (value : String) (line amount : Nat) :
    (Command.of kind value line).shift amount = .of kind value (line + amount) := rfl

/-! ## Counting lines from elsewhere -/

theorem commandOf_add (token meaning : List Char) (line amount : Nat) :
    commandOf token meaning (line + amount) =
      match commandOf token meaning line with
      | .ok command => .ok (command.shift amount)
      | .error error => .error (error.shift amount) := by
  rw [commandOf, commandOf]
  by_cases blank : (Text.trimList meaning).isEmpty
  · simp [blank]
  · cases CommandKind.ofToken? (String.ofList token) <;> simp [blank, Error.shift]

namespace Line

theorem read_add (line : Line) (number amount : Nat) :
    line.read (number + amount) =
      match line.read number with
      | .ok command? => .ok (command?.map (Command.shift amount))
      | .error error => .error (error.shift amount) := by
  cases line with
  | whole line =>
      cases line with
      | blank | comment => rfl
      | command spaces token gap argument remark? =>
          rw [read, read, commandOf_add]
          cases commandOf token (LogicalLine.meaningOf argument) number <;> rfl
  | bare spaces token => rfl
  | unfinished spaces token gap argument =>
      simp only [read, Error.shift, Nat.add_right_comm]

end Line

/-- The line that counting starts from only shifts the lines of what is read. -/
theorem commands_add (text : List Char) (number amount : Nat) :
    Cursor.commands ⟨text, number + amount⟩ = shifted amount (Cursor.commands ⟨text, number⟩) := by
  induction text using Line.text_induction generalizing number with
  | last line shaped =>
      rw [Cursor.commands_last _ shaped, Cursor.commands_last _ shaped, Line.read_add]
      cases line.read number with
      | error error => rfl
      | ok command? => cases command? <;> rfl
  | more line rest shaped mayBreak ih =>
      rw [Cursor.commands_break _ shaped mayBreak, Cursor.commands_break _ shaped mayBreak,
        Line.read_add]
      cases line.read number with
      | error error => rfl
      | ok command? =>
          have counted : number + amount + line.lineFeeds + 1 =
              number + line.lineFeeds + 1 + amount := by omega
          simp only [Except.bind, counted, ih]
          cases Cursor.commands ⟨rest, number + line.lineFeeds + 1⟩ with
          | error error => rfl
          | ok commands => cases command? <;> simp [Except.map, shifted]

/-! ## Lines that may break -/

/-- A line can be followed by a line feed unless it ends in an open escape. -/
theorem Line.mayBreak_of_closed {line : Line} (number : Nat)
    (noReturn : ¬ ['\\', '\r'] <:+ line.text)
    (terminated : ∀ atLine, line.read number ≠ .error (.unterminatedEscape atLine)) :
    line.mayBreak := by
  cases line with
  | whole line =>
      cases line with
      | blank | comment => trivial
      | command spaces token gap argument remark? =>
          cases remark? with
          | some remark => trivial
          | none =>
              intro last
              apply noReturn
              rcases List.getLast?_eq_some_iff.mp last with ⟨initial, rfl⟩
              simp only [text, LogicalLine.text, LogicalLine.remarkText, List.append_nil,
                List.flatMap_append, ← List.append_assoc]
              exact List.suffix_append _ _
  | bare spaces token => trivial
  | unfinished spaces token gap argument => exact absurd rfl (terminated _)

/-- A text that is closed is read before what stands on the lines after it. -/
theorem commands_append (text rest : List Char) (number : Nat)
    (noReturn : ¬ ['\\', '\r'] <:+ text)
    (terminated : ∀ atLine,
      Cursor.commands ⟨text, number⟩ ≠ .error (.unterminatedEscape atLine)) :
    Cursor.commands ⟨text ++ '\n' :: rest, number⟩ =
      (Cursor.commands ⟨text, number⟩).bind fun commands =>
        (Cursor.commands ⟨rest, number + text.count '\n' + 1⟩).map (commands ++ ·) := by
  induction text using Line.text_induction generalizing number with
  | last line shaped =>
      rw [Cursor.commands_last number shaped] at terminated ⊢
      have mayBreak : line.mayBreak := by
        apply Line.mayBreak_of_closed number noReturn
        intro atLine read
        exact terminated atLine (by rw [read]; rfl)
      rw [Cursor.commands_break number shaped mayBreak]
      cases line.read number <;> rfl
  | more line inner shaped mayBreak ih =>
      rw [Cursor.commands_break number shaped mayBreak] at terminated ⊢
      rw [List.append_assoc, List.cons_append, Cursor.commands_break number shaped mayBreak]
      cases read : line.read number with
      | error error => rfl
      | ok command? =>
          have innerReturn : ¬ ['\\', '\r'] <:+ inner := by
            intro returned
            exact noReturn (returned.trans ⟨line.text ++ ['\n'], by simp⟩)
          have counted : number + (line.text ++ '\n' :: inner).count '\n' + 1 =
              number + line.lineFeeds + 1 + inner.count '\n' + 1 := by
            simp only [List.count_append, List.count_cons_self, Line.lineFeeds]
            omega
          have innerTerminated (atLine : Nat) :
              Cursor.commands ⟨inner, number + line.lineFeeds + 1⟩ ≠
                .error (.unterminatedEscape atLine) := by
            intro unterminated
            apply terminated atLine
            rw [read]
            simp [Except.bind, unterminated, Except.map]
          simp only [Except.bind]
          rw [ih _ innerReturn innerTerminated, counted]
          cases Cursor.commands ⟨inner, number + line.lineFeeds + 1⟩ with
          | error error => rfl
          | ok commands => exact map_append_map_append _ _ _

/-! ## Blank lines and comments -/

/-- The lines that hold no command. -/
inductive LogicalLine.Skipped : LogicalLine → Prop where
  | blank (spaces : Nat) : Skipped (.blank spaces)
  | comment {spaces : Nat} {word remark : List Char} :
      (LogicalLine.comment spaces word remark).WF → Skipped (.comment spaces word remark)

namespace LogicalLine.Skipped

variable {line : LogicalLine}

theorem shaped (skipped : line.Skipped) : (Line.whole line).Shaped := by
  cases skipped with
  | blank spaces => trivial
  | comment wf => exact wf

theorem mayBreak (skipped : line.Skipped) : (Line.whole line).mayBreak := by
  cases skipped <;> trivial

theorem read (skipped : line.Skipped) (number : Nat) :
    (Line.whole line).read number = .ok none := by
  cases skipped <;> rfl

end LogicalLine.Skipped

/-- A blank line or a comment only counts as a line. -/
theorem commands_skip {line : LogicalLine} (skipped : line.Skipped) (number : Nat)
    (rest : List Char) :
    Cursor.commands ⟨line.text ++ '\n' :: rest, number⟩ =
      Cursor.commands ⟨rest, number + line.lineFeeds + 1⟩ := by
  have read := Cursor.commands_break number skipped.shaped skipped.mayBreak rest
  rw [skipped.read] at read
  refine read.trans ?_
  exact map_nil_append _

/-- Blank lines and comments only count as lines. -/
theorem commands_skipped {lines : List LogicalLine} (number : Nat) (rest : List Char)
    (nonempty : lines ≠ []) (skipped : ∀ line ∈ lines, line.Skipped) :
    Cursor.commands ⟨textOf lines ++ '\n' :: rest, number⟩ =
      Cursor.commands ⟨rest, number + (textOf lines).count '\n' + 1⟩ := by
  induction lines generalizing number with
  | nil => exact absurd rfl nonempty
  | cons line lines ih =>
      have first := skipped line (by simp)
      cases lines with
      | nil => exact commands_skip first number rest
      | cons next lines =>
          have others : ∀ line ∈ next :: lines, line.Skipped :=
            fun line member => skipped line (List.mem_cons_of_mem _ member)
          have spelled : textOf (line :: next :: lines) =
              line.text ++ '\n' :: textOf (next :: lines) := rfl
          rw [spelled, List.append_assoc, List.cons_append, commands_skip first,
            ih _ (by simp) others, List.count_append, List.count_cons_self, LogicalLine.lineFeeds]
          congr 2
          omega

/-! ## Texts one after the other -/

theorem shifted_shifted (first second : Nat) (read : Except Error (List Command)) :
    shifted second (shifted first read) = shifted (first + second) read := by
  cases read with
  | ok commands => simp [shifted, Command.shift, Nat.add_assoc]
  | error error => cases error <;> simp [shifted, Error.shift, Nat.add_assoc]

theorem toList_append_lineFeed (first second : String) :
    (first ++ "\n" ++ second).toList = first.toList ++ '\n' :: second.toList := by
  simp

theorem scan_append (first second : String) (noReturn : ¬ ['\\', '\r'] <:+ first.toList)
    (terminated : ∀ line, scan first ≠ .error (.unterminatedEscape line)) :
    scan (first ++ "\n" ++ second) =
      (scan first).bind fun commands =>
        (shifted (1 + first.toList.count '\n') (scan second)).map (commands ++ ·) := by
  have counted : 1 + first.toList.count '\n' + 1 = 1 + (1 + first.toList.count '\n') := by omega
  rw [scan_eq_commands, toList_append_lineFeed,
    commands_append first.toList second.toList 1 noReturn terminated, counted, commands_add]
  rfl

theorem scan_skipped {lines : List LogicalLine} (nonempty : lines ≠ [])
    (skipped : ∀ line ∈ lines, line.Skipped) (text : String) :
    scan (String.ofList (textOf lines) ++ "\n" ++ text) =
      shifted (1 + (textOf lines).count '\n') (scan text) := by
  have counted : 1 + (textOf lines).count '\n' + 1 = 1 + (1 + (textOf lines).count '\n') := by omega
  rw [scan_eq_commands, toList_append_lineFeed, String.toList_ofList,
    commands_skipped 1 text.toList nonempty skipped, counted, commands_add]
  rfl

/-- A text in which no escape is open at the end is read as if nothing followed it: its error
stays, and else what is read on the lines after it is added, further down by the lines of the text.
Blank lines and comments between the two only move the second further down. -/
theorem scan_append_lineFeed (first second : String)
    (noReturn : ¬ ['\\', '\r'] <:+ first.toList)
    (terminated : ∀ line, scan first ≠ .error (.unterminatedEscape line)) :
    (∀ error, scan first = .error error → scan (first ++ "\n" ++ second) = .error error) ∧
      (∀ commands, scan first = .ok commands →
        scan (first ++ "\n" ++ second) =
          (shifted (1 + first.toList.count '\n') (scan second)).map (commands ++ ·)) ∧
      ∀ commands lines, scan first = .ok commands → lines ≠ [] →
        (∀ line ∈ lines, LogicalLine.Skipped line) →
          scan (first ++ "\n" ++ (String.ofList (textOf lines) ++ "\n" ++ second)) =
            (shifted (1 + (textOf lines).count '\n' + (1 + first.toList.count '\n'))
              (scan second)).map (commands ++ ·) := by
  refine ⟨?_, ?_, ?_⟩
  · intro error read
    rw [scan_append first second noReturn terminated, read]
    rfl
  · intro commands read
    rw [scan_append first second noReturn terminated, read]
    rfl
  · intro commands lines read nonempty skipped
    rw [scan_append first _ noReturn terminated, read, scan_skipped nonempty skipped]
    exact congrArg (Except.map (commands ++ ·)) (shifted_shifted _ _ _)

/-- A command with an escaped line break, and below it a command with a comment. -/
theorem scan_append_lineFeed_continued :
    ¬ ['\\', '\r'] <:+ "FROM a\nRUN b \\\n c".toList ∧
      (∀ line, scan "FROM a\nRUN b \\\n c" ≠ .error (.unterminatedEscape line)) ∧
      scan ("FROM a\nRUN b \\\n c" ++ "\n" ++ "COPY d #e") =
        .ok [.of .origin "a" 1, .of .run "b  c" 2, .of .copy "d" 4] := by
  have upper : Spells [.command 0 "FROM".toList 1 [.plain 'a'] none,
      .command 0 "RUN".toList 1
        [.plain 'b', .plain ' ', .continued false, .plain ' ', .plain 'c'] none]
      "FROM a\nRUN b \\\n c".toList := by decide
  have lower : Spells [.command 0 "COPY".toList 1 [.plain 'd', .plain ' '] (some ['e'])]
      "COPY d #e".toList := by decide
  have noReturn : ¬ ['\\', '\r'] <:+ "FROM a\nRUN b \\\n c".toList := by decide
  have terminated : ∀ line, scan "FROM a\nRUN b \\\n c" ≠ .error (.unterminatedEscape line) := by
    simp [scan_of_spells upper]
  refine ⟨noReturn, terminated, ?_⟩
  have read := (scan_append_lineFeed _ "COPY d #e" noReturn terminated).2.1 _ (scan_of_spells upper)
  rw [scan_of_spells lower] at read
  exact read
end Recipe

end GuestImage
