import GuestImage.Command.Basic
import GuestImage.Recipe.Error
import GuestImage.Text.CodeRange

/-!
# The recipe scanner

A recipe is read in one forward pass, one logical line at a time. A logical line is blank, a
comment, or a command: a token, spaces, and an argument that runs to the end of the line. In an
argument a backslash keeps the next character as it is, an escaped line break continues the
argument on the next physical line, and `#` starts a comment.

Each reader takes the unread characters and returns what it read together with the rest. A step
over one logical line leaves a shorter rest, which is why `Scanner.commands` ends.
-/

namespace GuestImage.Recipe

/-- A place in a text: the unread characters and the 1-based line of the first of them. -/
structure Cursor where
  unread : List Char
  line : Nat
  deriving DecidableEq, Repr

/-- The rest of a text after the comment it starts in; the line break stays. -/
def afterComment (letters : List Char) : List Char :=
  letters.dropWhile (· != '\n')

/-- The rest of a text after the spaces it starts with. Tabs are not spaces. -/
def afterSpaces (letters : List Char) : List Char :=
  letters.dropWhile (· == ' ')

/-- The characters that a token may hold. -/
def isTokenChar (letter : Char) : Bool :=
  letter != ' ' && letter != '\n' && letter != '#'

/-- An argument as it was read: its meaning and the place after it. -/
structure Argument where
  meaning : List Char
  after : Cursor
  deriving DecidableEq, Repr

/-- Put one more character in front of an argument's meaning. -/
def Argument.push (letter : Char) (argument : Argument) : Argument :=
  { argument with meaning := letter :: argument.meaning }

/-- Read an argument to the end of its logical line, whose line break is read too unless a comment
stands before it. The error is the line of a backslash that ends the text. -/
def readArgument (line : Nat) : (letters : List Char) → Except Nat Argument
  | [] => .ok ⟨[], [], line⟩
  | '\\' :: '\n' :: rest => readArgument (line + 1) rest
  | '\\' :: '\r' :: '\n' :: rest => readArgument (line + 1) rest
  | '\\' :: letter :: rest => (readArgument line rest).map (.push letter)
  | '\\' :: [] => .error line
  | '#' :: rest => .ok ⟨[], afterComment rest, line⟩
  | '\n' :: rest => .ok ⟨[], rest, line + 1⟩
  | letter :: rest => (readArgument line rest).map (.push letter)

/-- The error for a token without an argument. A token that runs up to a line break written as two
characters has picked up the first of them, which is dropped again. -/
def missingArgument (token : List Char) (line : Nat) : Error :=
  .missingArgument
    (String.ofList (if token.getLast? = some '\r' then token.dropLast else token)) line

/-- The command that a token and the meaning of its argument stand for. -/
def commandOf (token meaning : List Char) (line : Nat) : Except Error Command :=
  let value := Text.trimList meaning
  if value.isEmpty then
    .error (missingArgument token line)
  else
    match CommandKind.ofToken? (String.ofList token) with
    | none => .error (.unknownCommand (String.ofList token) line)
    | some kind => .ok (.of kind (String.ofList value) line)

/-- What stood at a place of a text, and the place after it. -/
inductive Step where
  /-- Nothing: the text has ended. -/
  | finished (after : Cursor)
  /-- A blank line or a comment. -/
  | skipped (after : Cursor)
  | found (command : Command) (after : Cursor)
  | failed (error : Error) (after : Cursor)
  deriving DecidableEq, Repr

/-- The place that a step leads to. -/
def Step.after : Step → Cursor
  | finished after | skipped after | found _ after | failed _ after => after

/-- Read the argument of a token, standing after the spaces that follow it. -/
def readCommand (token : List Char) (line : Nat) (letters : List Char) : Step :=
  match readArgument line letters with
  | .error atLine => .failed (.unterminatedEscape atLine) ⟨[], atLine⟩
  | .ok argument =>
      match commandOf token argument.meaning line with
      | .error error => .failed error argument.after
      | .ok command => .found command argument.after

/-- Read a line that starts with neither a space nor a line break. -/
def readWord (line : Nat) (letters : List Char) : Step :=
  let token := letters.takeWhile isTokenChar
  match letters.dropWhile isTokenChar with
  | '#' :: rest => .skipped ⟨afterComment rest, line⟩
  | '\n' :: rest => .failed (missingArgument token line) ⟨'\n' :: rest, line⟩
  | rest =>
      match afterSpaces rest with
      | [] => .failed (missingArgument token line) ⟨[], line⟩
      | '\n' :: rest => .failed (missingArgument token line) ⟨'\n' :: rest, line⟩
      | letter :: rest => readCommand token line (letter :: rest)

namespace Cursor

/-- Read one logical line. -/
def step (cursor : Cursor) : Step :=
  match afterSpaces cursor.unread with
  | [] => .finished ⟨[], cursor.line⟩
  | '\n' :: rest => .skipped ⟨rest, cursor.line + 1⟩
  | letter :: rest => readWord cursor.line (letter :: rest)

end Cursor

/-! ## Every line leaves a shorter rest -/

/-- A successful argument with one character put in front comes from a successful argument. -/
theorem Argument.exists_of_map_push {letter : Char} {read : Except Nat Argument}
    {argument : Argument} (pushed : read.map (Argument.push letter) = .ok argument) :
    ∃ inner, read = .ok inner ∧ inner.push letter = argument := by
  cases read with
  | error line => cases pushed
  | ok inner => exact ⟨inner, rfl, by simpa [Except.map] using pushed⟩

theorem length_afterComment_le (letters : List Char) :
    (afterComment letters).length ≤ letters.length :=
  (List.dropWhile_sublist _).length_le

theorem length_afterSpaces_le (letters : List Char) :
    (afterSpaces letters).length ≤ letters.length :=
  (List.dropWhile_sublist _).length_le

/-- An argument takes at least one character, if there is one. -/
theorem length_readArgument_lt {line : Nat} {letters : List Char} {argument : Argument}
    (read : readArgument line letters = .ok argument) (nonempty : letters ≠ []) :
    argument.after.unread.length < letters.length := by
  suffices bound : argument.after.unread.length ≤ letters.length - 1 by
    have := List.length_pos_iff.2 nonempty
    omega
  clear nonempty
  fun_induction readArgument line letters generalizing argument with
  | case1 => cases read; simp
  | case2 line rest ih => have := ih read; simp only [List.length_cons]; omega
  | case3 line rest ih => have := ih read; simp only [List.length_cons]; omega
  | case4 line letter rest _ _ ih =>
      obtain ⟨inner, inner_read, rfl⟩ := Argument.exists_of_map_push read
      have := ih inner_read
      simp only [Argument.push, List.length_cons]
      omega
  | case5 => cases read
  | case6 line rest =>
      cases read
      have := length_afterComment_le rest
      simpa using this
  | case7 line rest => cases read; simp
  | case8 line letter rest _ _ _ _ _ _ ih =>
      obtain ⟨inner, inner_read, rfl⟩ := Argument.exists_of_map_push read
      have := ih inner_read
      simp only [Argument.push, List.length_cons]
      omega

/-- What a step that is not the last one leaves is shorter. -/
theorem Cursor.length_after_step_lt {cursor after : Cursor}
    (stepped : cursor.step = .skipped after ∨ ∃ command, cursor.step = .found command after) :
    after.unread.length < cursor.unread.length := by
  have spaces := length_afterSpaces_le cursor.unread
  revert stepped
  unfold Cursor.step
  split
  · simp
  · rename_i rest same
    rw [same] at spaces
    simp only [Step.skipped.injEq, reduceCtorEq, exists_false, or_false]
    rintro rfl
    exact spaces
  · rename_i letter rest _ same
    rw [same] at spaces
    generalize letter :: rest = letters at spaces
    have word : (letters.dropWhile isTokenChar).length ≤ letters.length :=
      (List.dropWhile_sublist _).length_le
    unfold readWord
    simp only
    split
    · rename_i tail split
      rw [split] at word
      have := length_afterComment_le tail
      simp only [Step.skipped.injEq, reduceCtorEq, exists_false, or_false,
        List.length_cons] at word ⊢
      rintro rfl
      simp only
      omega
    · simp
    · rename_i tail _ _ split
      have := length_afterSpaces_le (letters.dropWhile isTokenChar)
      split
      · simp
      · simp
      · rename_i first remaining _ same
        rw [same] at this
        unfold readCommand
        split
        · simp
        · rename_i argument read
          have := length_readArgument_lt read (by simp)
          split
          · simp
          · simp only [Step.found.injEq, reduceCtorEq, false_or]
            rintro ⟨_, _, rfl⟩
            omega

/-! ## Reading a whole text -/

/-- The first step from here that is not over a blank line or a comment. -/
def Cursor.seek (cursor : Cursor) : Step :=
  match _ : cursor.step with
  | .skipped after => after.seek
  | step => step
termination_by cursor.unread.length
decreasing_by exact Cursor.length_after_step_lt (.inl ‹_›)

/-- A command takes at least one character. -/
theorem Cursor.length_after_seek_lt {cursor after : Cursor} {command : Command}
    (sought : cursor.seek = .found command after) :
    after.unread.length < cursor.unread.length := by
  fun_induction Cursor.seek cursor with
  | case1 cursor skipped stepped ih =>
      exact Nat.lt_trans (ih sought) (length_after_step_lt (.inl stepped))
  | case2 cursor _ =>
      exact length_after_step_lt (.inr ⟨command, sought⟩)

/-- A reader of a text, which stops for good after its first error. -/
structure Scanner where
  cursor : Cursor
  stopped : Bool
  deriving DecidableEq, Repr

namespace Scanner

/-- A reader at the start of a text. -/
def start (text : String) : Scanner :=
  ⟨⟨text.toList, 1⟩, false⟩

/-- The next command or error, if any, and the reader after it. -/
def next (scanner : Scanner) : Option (Except Error Command) × Scanner :=
  if scanner.stopped then
    (none, scanner)
  else
    match scanner.cursor.seek with
    | .finished after | .skipped after => (none, ⟨after, false⟩)
    | .found command after => (some (.ok command), ⟨after, false⟩)
    | .failed error after => (some (.error error), ⟨after, true⟩)

theorem length_after_next_lt {scanner after : Scanner} {command : Command}
    (yielded : scanner.next = (some (.ok command), after)) :
    after.cursor.unread.length < scanner.cursor.unread.length := by
  unfold next at yielded
  split at yielded
  · cases yielded
  · split at yielded <;> cases yielded
    exact Cursor.length_after_seek_lt ‹_›

/-- Everything that a reader yields, up to its first error. -/
def commands (scanner : Scanner) : Except Error (List Command) :=
  match _ : scanner.next with
  | (none, _) => .ok []
  | (some (.error error), _) => .error error
  | (some (.ok command), after) => after.commands.map (command :: ·)
termination_by scanner.cursor.unread.length
decreasing_by exact length_after_next_lt ‹_›

end Scanner

end GuestImage.Recipe
