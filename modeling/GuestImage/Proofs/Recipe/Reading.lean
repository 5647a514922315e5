import GuestImage.Proofs.Recipe.Line

/-!
# Reading a text line by line

What the reader makes of one line, whatever follows it: at most one command, or the first error.
The main statements are `Cursor.commands_line` and `Cursor.commands_break`, which take a line off a
text; with `Line.text_induction` they settle what is read from every text.
-/

namespace GuestImage.Recipe

theorem afterComment_append {remark tail : List Char} (within : '\n' ∉ remark)
    (ends : LineEnd tail) : afterComment (remark ++ tail) = tail := by
  apply Text.dropWhile_span
  · rw [List.all_eq_true]
    intro letter member
    simpa using ne_of_mem_of_not_mem member within
  · rcases ends with rfl | ⟨rest, rfl⟩ <;> simp

/-! ## Arguments -/

namespace Argument

/-- Put characters in front of an argument's meaning. -/
def prepend (letters : List Char) (argument : Argument) : Argument :=
  { argument with meaning := letters ++ argument.meaning }

@[simp] theorem meaning_prepend (letters : List Char) (argument : Argument) :
    (argument.prepend letters).meaning = letters ++ argument.meaning := rfl

@[simp] theorem after_prepend (letters : List Char) (argument : Argument) :
    (argument.prepend letters).after = argument.after := rfl

@[simp] theorem map_prepend_nil (read : Except Nat Argument) : read.map (prepend []) = read := by
  cases read <;> rfl

@[simp] theorem map_prepend_map_prepend (first second : List Char) (read : Except Nat Argument) :
    (read.map (prepend second)).map (prepend first) = read.map (prepend (first ++ second)) := by
  cases read <;> simp [Except.map, prepend]

end Argument

theorem readArgument_plain (line : Nat) {letter : Char} (rest : List Char)
    (wf : (Piece.plain letter).WF) :
    readArgument line (letter :: rest) = (readArgument line rest).map (.prepend [letter]) := by
  rcases wf with ⟨notBackslash, notRemark, notFeed⟩
  rw [readArgument.eq_8]
  · rfl
  all_goals simp_all

theorem readArgument_escaped (line : Nat) {letter : Char} {rest : List Char}
    (wf : (Piece.escaped letter).WF) (apart : letter = '\r' → rest.head? ≠ some '\n') :
    readArgument line ('\\' :: letter :: rest) =
      (readArgument line rest).map (.prepend [letter]) := by
  rw [readArgument.eq_4]
  · rfl
  · simpa [Piece.WF] using wf
  · rintro tail rfl rfl
    exact apart rfl rfl

theorem Piece.count_plain {letter : Char} (wf : (plain letter).WF) :
    (plain letter).text.count '\n' = 0 := by
  simpa [text, List.count_eq_zero] using wf.2.2.symm

theorem Piece.count_escaped {letter : Char} (wf : (escaped letter).WF) :
    (escaped letter).text.count '\n' = 0 := by
  simpa [text, List.count_eq_zero] using Ne.symm wf

/-- Reading a part of an argument adds its meaning and counts its line feeds. -/
theorem readArgument_piece (line : Nat) {piece : Piece} {rest : List Char} (wf : piece.WF)
    (apart : piece = .escaped '\r' → rest.head? ≠ some '\n') :
    readArgument line (piece.text ++ rest) =
      (readArgument (line + piece.text.count '\n') rest).map (.prepend piece.meaning) := by
  cases piece with
  | plain letter =>
      rw [Piece.count_plain wf]
      exact readArgument_plain line rest wf
  | escaped letter =>
      rw [Piece.count_escaped wf]
      exact readArgument_escaped line wf fun same => apart (by rw [same])
  | continued carriage =>
      cases carriage <;> simp [Piece.text, readArgument, Piece.meaning]

/-- Reading an argument adds what it stands for and counts its line feeds. -/
theorem readArgument_append (line : Nat) {argument : List Piece} {rest : List Char}
    (wf : ∀ piece ∈ argument, piece.WF) (apart : Apart argument rest) :
    readArgument line (argument.flatMap Piece.text ++ rest) =
      (readArgument (line + (argument.flatMap Piece.text).count '\n') rest).map
        (.prepend (LogicalLine.meaningOf argument)) := by
  induction argument generalizing line with
  | nil => simp [LogicalLine.meaningOf]
  | cons piece argument ih =>
      have argumentWF : ∀ part ∈ argument, part.WF := fun part member => wf part (by simp [member])
      rw [List.flatMap_cons, List.append_assoc,
        readArgument_piece line (wf piece (by simp)) (apart.head argumentWF),
        ih _ argumentWF apart.tail, Argument.map_prepend_map_prepend, List.count_append,
        Nat.add_assoc]
      simp [LogicalLine.meaningOf]

/-- Spaces in front of an argument make no difference, since the argument is trimmed. -/
theorem readCommand_space (token : List Char) (line : Nat) (rest : List Char) :
    readCommand token line (' ' :: rest) = readCommand token line rest := by
  have same (meaning : List Char) : commandOf token (' ' :: meaning) line =
      commandOf token meaning line := by
    have blank : Text.isBlank ' ' = true := by decide
    simp [commandOf, Text.trimList, blank]
  rw [readCommand, readCommand, readArgument_plain line rest (by decide)]
  cases readArgument line rest with
  | error atLine => rfl
  | ok argument => simp [Except.map, same]

theorem readCommand_spaced (token : List Char) (line count : Nat) (rest : List Char) :
    readCommand token line (LogicalLine.spaced count ++ rest) = readCommand token line rest := by
  induction count with
  | zero => rfl
  | succ count ih =>
      rw [LogicalLine.spaced, List.replicate_succ, List.cons_append, readCommand_space]
      exact ih

/-! ## Steps -/

/-- Everything that is read from a place on, up to the first error. -/
def Cursor.commands (cursor : Cursor) : Except Error (List Command) :=
  (Scanner.mk cursor false).commands

/-- What a step reads, and everything after it. -/
def Step.commands : Step → Except Error (List Command)
  | finished _ => .ok []
  | skipped after => after.commands
  | found command after => after.commands.map (command :: ·)
  | failed error _ => .error error

theorem scan_eq_commands (text : String) : scan text = Cursor.commands ⟨text.toList, 1⟩ := rfl

theorem Scanner.commands_eq_next (scanner : Scanner) :
    scanner.commands = match scanner.next with
      | (none, _) => .ok []
      | (some (.error error), _) => .error error
      | (some (.ok command), after) => after.commands.map (command :: ·) := by
  rw [commands]
  split <;> simp_all

namespace Cursor

theorem seek_eq_step (cursor : Cursor) :
    cursor.seek = match cursor.step with
      | .skipped after => after.seek
      | step => step := by
  rw [seek]
  split <;> simp_all

theorem commands_eq_seek (cursor : Cursor) :
    cursor.commands = match cursor.seek with
      | .finished _ | .skipped _ => .ok []
      | .found command after => after.commands.map (command :: ·)
      | .failed error _ => .error error := by
  rw [commands, Scanner.commands_eq_next]
  cases sought : cursor.seek <;> simp [Scanner.next, sought, commands]

/-- What is read from a place on is settled by the step from it. -/
theorem commands_eq_step (cursor : Cursor) : cursor.commands = cursor.step.commands := by
  rw [commands_eq_seek, seek_eq_step]
  cases stepped : cursor.step with
  | skipped after => rw [Step.commands, commands_eq_seek]
  | finished | found | failed => rfl

/-! ## Openings of a text -/

theorem commands_nil (line : Nat) : commands ⟨[], line⟩ = .ok [] := by
  rw [commands_eq_step]
  rfl

theorem commands_lineFeed (line : Nat) (rest : List Char) :
    commands ⟨'\n' :: rest, line⟩ = commands ⟨rest, line + 1⟩ := by
  rw [commands_eq_step]
  rfl

theorem commands_spaced (line count : Nat) (text : List Char) :
    commands ⟨LogicalLine.spaced count ++ text, line⟩ = commands ⟨text, line⟩ := by
  have passed : afterSpaces (LogicalLine.spaced count ++ text) = afterSpaces text := by
    apply List.dropWhile_append_of_pos
    simp [LogicalLine.spaced]
  rw [commands_eq_step, commands_eq_step, step, step, passed]

theorem step_eq_readWord (line : Nat) {letter : Char} (rest : List Char) (notSpace : letter ≠ ' ')
    (notFeed : letter ≠ '\n') :
    step ⟨letter :: rest, line⟩ = readWord line (letter :: rest) := by
  have kept : afterSpaces (letter :: rest) = letter :: rest := by
    rw [afterSpaces, List.dropWhile_cons_of_neg (by simpa using notSpace)]
  rw [step, kept]
  split <;> simp_all

theorem step_token (line : Nat) {token : List Char} (nonempty : token ≠ [])
    (chars : token.all isTokenChar) (tail : List Char) :
    step ⟨token ++ tail, line⟩ = readWord line (token ++ tail) := by
  cases token with
  | nil => exact absurd rfl nonempty
  | cons letter token =>
      have first := List.all_eq_true.mp chars letter (by simp)
      simp only [isTokenChar, Bool.and_eq_true, bne_iff_ne] at first
      exact step_eq_readWord line _ first.1.1 first.1.2

/-- A comment is dropped, with the word in front of it. -/
theorem commands_comment (line : Nat) {word : List Char} (chars : word.all isTokenChar)
    (rest : List Char) :
    commands ⟨word ++ '#' :: rest, line⟩ = commands ⟨afterComment rest, line⟩ := by
  have stepped : step ⟨word ++ '#' :: rest, line⟩ = readWord line (word ++ '#' :: rest) := by
    by_cases empty : word = []
    · rw [empty]
      exact step_eq_readWord line rest (by decide) (by decide)
    · exact step_token line empty chars _
  rw [commands_eq_step, stepped, readWord, Text.dropWhile_span chars (by simp [isTokenChar])]
  rfl

theorem commands_bare (line : Nat) {token tail : List Char} (nonempty : token ≠ [])
    (chars : token.all isTokenChar) (ends : LineEnd tail) :
    commands ⟨token ++ tail, line⟩ = .error (missingArgument token line) := by
  have stop : ∀ letter ∈ tail.head?, isTokenChar letter = false := by
    rcases ends with rfl | ⟨rest, rfl⟩ <;> simp [isTokenChar]
  rw [commands_eq_step, step_token line nonempty chars, readWord, Text.takeWhile_span chars stop,
    Text.dropWhile_span chars stop]
  rcases ends with rfl | ⟨rest, rfl⟩ <;> rfl

theorem readWord_token (line : Nat) {token : List Char} (chars : token.all isTokenChar)
    (rest : List Char) :
    readWord line (token ++ ' ' :: rest) =
      match afterSpaces (' ' :: rest) with
      | [] => .failed (missingArgument token line) ⟨[], line⟩
      | '\n' :: rest => .failed (missingArgument token line) ⟨'\n' :: rest, line⟩
      | letter :: rest => readCommand token line (letter :: rest) := by
  have stop : ∀ letter ∈ (' ' :: rest).head?, isTokenChar letter = false := by
    simp [isTokenChar]
  rw [readWord, Text.takeWhile_span chars stop, Text.dropWhile_span chars stop]
  rfl

/-- A token with a space behind it is read with its argument. The reader looks for an empty argument
before it reads one, which makes no difference to the error. -/
theorem commands_token (line : Nat) {token : List Char} (nonempty : token ≠ [])
    (chars : token.all isTokenChar) (rest : List Char) :
    commands ⟨token ++ ' ' :: rest, line⟩ = (readCommand token line rest).commands := by
  rcases Line.exists_spaced rest with ⟨count, argument, rfl, noSpace⟩
  have passed : afterSpaces (' ' :: (LogicalLine.spaced count ++ argument)) = argument := by
    rw [afterSpaces, List.dropWhile_cons_of_pos (by simp),
      List.dropWhile_append_of_pos (by simp [LogicalLine.spaced]),
      List.dropWhile_beq_eq_self_of_head?_ne noSpace]
  rw [commands_eq_step, step_token line nonempty chars, readWord_token line chars, passed,
    readCommand_spaced]
  split <;> rfl

end Cursor

/-! ## Lines -/

namespace Line

open LogicalLine (spaced meaningOf remarkText)

/-- What is read from a line that starts on the given physical line: at most one command. -/
def read (number : Nat) : Line → Except Error (Option Command)
  | whole (.blank _) | whole (.comment ..) => .ok none
  | whole (.command _ token _ argument _) =>
      (commandOf token (meaningOf argument) number).map some
  | bare _ token => .error (missingArgument token number)
  | unfinished spaces token gap argument =>
      .error (.unterminatedEscape (number + (unfinished spaces token gap argument).lineFeeds))

theorem count_spaced (count : Nat) : (spaced count).count '\n' = 0 := by
  simp [List.count_eq_zero, spaced]

theorem count_token {token : List Char} (chars : token.all isTokenChar) :
    token.count '\n' = 0 := by
  rw [List.count_eq_zero]
  intro member
  simpa [isTokenChar] using List.all_eq_true.mp chars '\n' member

theorem lineFeeds_blank (spaces : Nat) : (whole (.blank spaces)).lineFeeds = 0 :=
  count_spaced spaces

/-- Only escaped line breaks count as line feeds inside a line. -/
theorem lineFeeds_command (spaces gap : Nat) {token : List Char} {argument : List Piece}
    {remark? : Option (List Char)}
    (shaped : (whole (.command spaces token gap argument remark?)).Shaped) :
    (whole (.command spaces token gap argument remark?)).lineFeeds =
      (argument.flatMap Piece.text).count '\n' := by
  rcases shaped with ⟨-, chars, -, -, within⟩
  simp only [lineFeeds, text, LogicalLine.text, List.count_append, count_spaced, count_token chars,
    List.count_eq_zero.mpr within]
  omega

theorem lineFeeds_comment (spaces : Nat) {word remark : List Char}
    (shaped : (whole (.comment spaces word remark)).Shaped) :
    (whole (.comment spaces word remark)).lineFeeds = 0 := by
  rcases shaped with ⟨chars, within⟩
  simp only [lineFeeds, text, LogicalLine.text, List.count_append, count_spaced, count_token chars]
  simpa [List.count_eq_zero] using within

theorem lineFeeds_unfinished (spaces gap : Nat) {token : List Char} {argument : List Piece}
    (shaped : (unfinished spaces token gap argument).Shaped) :
    (unfinished spaces token gap argument).lineFeeds =
      (argument.flatMap Piece.text).count '\n' := by
  rcases shaped with ⟨-, chars, -, -⟩
  simp only [lineFeeds, text, List.count_append, count_spaced, count_token chars]
  simp

end Line

theorem map_nil_append (read : Except Error (List Command)) : read.map ([] ++ ·) = read := by
  cases read <;> rfl

theorem map_append_map_append (first second : List Command)
    (read : Except Error (List Command)) :
    (read.map (second ++ ·)).map (first ++ ·) = read.map (first ++ second ++ ·) := by
  cases read <;> simp [Except.map]

namespace Cursor

open LogicalLine (spaced meaningOf remarkText)

theorem commands_command (line spaces : Nat) {gap : Nat} {token : List Char} (nonempty : token ≠ [])
    (chars : token.all isTokenChar) (positive : 0 < gap) (rest : List Char) :
    commands ⟨spaced spaces ++ (token ++ (spaced gap ++ rest)), line⟩ =
      (readCommand token line rest).commands := by
  rcases Nat.exists_eq_add_one.mpr positive with ⟨count, rfl⟩
  have first : spaced (count + 1) ++ rest = ' ' :: (spaced count ++ rest) := rfl
  rw [commands_spaced, first, commands_token line nonempty chars, readCommand_spaced]

/-- An argument stops at the end of its line, with the comment of the line dropped. -/
theorem exists_readArgument_end (line : Nat) {remark? : Option (List Char)} {tail : List Char}
    (within : '\n' ∉ remarkText remark?) (ends : LineEnd tail) :
    ∃ after, readArgument line (remarkText remark? ++ tail) = .ok ⟨[], after⟩ ∧
      after.commands = commands ⟨tail, line⟩ := by
  cases remark? with
  | none =>
      rcases ends with rfl | ⟨rest, rfl⟩
      · exact ⟨_, rfl, rfl⟩
      · exact ⟨_, rfl, (commands_lineFeed line rest).symm⟩
  | some remark =>
      have read : readArgument line (remarkText (some remark) ++ tail) =
          .ok ⟨[], afterComment (remark ++ tail), line⟩ := rfl
      rw [afterComment_append (by simpa [remarkText] using within) ends] at read
      exact ⟨_, read, rfl⟩

/-- Whatever follows a line, it is read by itself and first. -/
theorem commands_line (number : Nat) {line : Line} {tail : List Char} (shaped : line.Shaped)
    (ends : line.Ends tail) :
    commands ⟨line.text ++ tail, number⟩ =
      (line.read number).bind fun command? =>
        (commands ⟨tail, number + line.lineFeeds⟩).map (command?.toList ++ ·) := by
  have feeds := ends.lineEnd
  cases line with
  | whole line =>
      cases line with
      | blank spaces =>
          rw [Line.text, LogicalLine.text, commands_spaced, Line.lineFeeds_blank]
          exact (map_nil_append _).symm
      | comment spaces word remark =>
          rw [Line.lineFeeds_comment spaces shaped]
          rcases shaped with ⟨chars, within⟩
          rw [Line.text, LogicalLine.text, List.append_assoc, List.append_assoc, commands_spaced,
            List.cons_append, commands_comment number chars, afterComment_append within feeds]
          exact (map_nil_append _).symm
      | command spaces token gap argument remark? =>
          rw [Line.lineFeeds_command spaces gap shaped]
          rcases shaped with ⟨nonempty, chars, positive, pieces, within⟩
          rcases exists_readArgument_end (number + (argument.flatMap Piece.text).count '\n')
            within feeds with ⟨after, read, rest⟩
          simp only [Line.text, LogicalLine.text, List.append_assoc]
          rw [commands_command number spaces nonempty chars positive, readCommand,
            readArgument_append number pieces ends.apart, read]
          simp only [Except.map, Argument.prepend, List.append_nil, Line.read]
          cases commandOf token (meaningOf argument) number with
          | error error => rfl
          | ok command => exact congrArg (Except.map (command :: ·)) rest
  | bare spaces token =>
      rcases shaped with ⟨nonempty, chars⟩
      rw [Line.text, List.append_assoc, commands_spaced, commands_bare number nonempty chars feeds]
      rfl
  | unfinished spaces token gap argument =>
      obtain rfl : tail = [] := by simpa [Line.Ends, Line.mayBreak] using ends
      rw [Line.read, Line.lineFeeds_unfinished spaces gap shaped]
      rcases shaped with ⟨nonempty, chars, positive, pieces⟩
      simp only [Line.text, List.append_assoc]
      rw [commands_command number spaces nonempty chars positive, readCommand,
        readArgument_append number pieces (by simp [Apart])]
      rfl

/-- The last line of a text is all that is read from it. -/
theorem commands_last (number : Nat) {line : Line} (shaped : line.Shaped) :
    commands ⟨line.text, number⟩ = (line.read number).map Option.toList := by
  have read := commands_line number shaped (.inl rfl)
  rw [List.append_nil] at read
  rw [read, commands_nil]
  cases line.read number <;> simp [Except.map, Except.bind]

/-- A line feed behind a line belongs to neither the line nor the rest of the text. -/
theorem commands_break (number : Nat) {line : Line} (shaped : line.Shaped)
    (mayBreak : line.mayBreak) (rest : List Char) :
    commands ⟨line.text ++ '\n' :: rest, number⟩ =
      (line.read number).bind fun command? =>
        (commands ⟨rest, number + line.lineFeeds + 1⟩).map (command?.toList ++ ·) := by
  rw [commands_line number shaped (.inr ⟨mayBreak, rest, rfl⟩), commands_lineFeed]

/-- A text that is read without an error is so line by line. -/
theorem exists_of_commands_line {number : Nat} {line : Line} {tail : List Char}
    {read : List Command} (shaped : line.Shaped) (ends : line.Ends tail)
    (ok : commands ⟨line.text ++ tail, number⟩ = .ok read) :
    ∃ command? others, line.read number = .ok command? ∧
      commands ⟨tail, number + line.lineFeeds⟩ = .ok others ∧
      read = command?.toList ++ others := by
  rw [commands_line number shaped ends] at ok
  cases first : line.read number with
  | error error => simp [first, Except.bind] at ok
  | ok command? =>
      cases below : commands ⟨tail, number + line.lineFeeds⟩ with
      | error error => simp [first, below, Except.bind, Except.map] at ok
      | ok others =>
          rw [first, Except.bind, below] at ok
          exact ⟨command?, others, rfl, rfl, (Except.ok.inj ok).symm⟩

theorem exists_of_commands_last {number : Nat} {line : Line} {read : List Command}
    (shaped : line.Shaped) (ok : commands ⟨line.text, number⟩ = .ok read) :
    ∃ command?, line.read number = .ok command? ∧ read = command?.toList := by
  rw [← List.append_nil line.text] at ok
  rcases exists_of_commands_line shaped (.inl rfl) ok with ⟨command?, others, first, below, rfl⟩
  rw [commands_nil] at below
  obtain rfl := Except.ok.inj below
  exact ⟨command?, first, List.append_nil _⟩

theorem exists_of_commands_break {number : Nat} {line : Line} {rest : List Char}
    {read : List Command} (shaped : line.Shaped) (mayBreak : line.mayBreak)
    (ok : commands ⟨line.text ++ '\n' :: rest, number⟩ = .ok read) :
    ∃ command? others, line.read number = .ok command? ∧
      commands ⟨rest, number + line.lineFeeds + 1⟩ = .ok others ∧
      read = command?.toList ++ others := by
  rcases exists_of_commands_line shaped (.inr ⟨mayBreak, rest, rfl⟩) ok with
    ⟨command?, others, first, below, same⟩
  rw [commands_lineFeed] at below
  exact ⟨command?, others, first, below, same⟩

end Cursor

end GuestImage.Recipe
