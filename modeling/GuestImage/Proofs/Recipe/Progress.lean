import GuestImage.Proofs.Recipe.Reading

/-!
# Progress of the reader

Wherever a reader stands, it has read the text up to there and counted its line feeds. Most of the
loops that take characters count no line feeds, and never meet one; every step but the last one
takes a character. So each call comes to an end, and none does anything after the first that found
nothing or an error.
-/

namespace GuestImage.Recipe

namespace Cursor

/-- The characters that lie between two places of a text, with the line feeds among them counted. -/
structure Passes (before : Cursor) (letters : List Char) (after : Cursor) : Prop where
  unread_eq : before.unread = letters ++ after.unread
  line_eq : after.line = before.line + letters.count '\n'

/-- The way from one place to another over blank lines and comments, given by the characters that
each of them takes. -/
inductive Skips : Cursor → List (List Char) → Cursor → Prop where
  | here (cursor : Cursor) : Skips cursor [] cursor
  | line {cursor after last : Cursor} {letters : List Char} {lines : List (List Char)}
      (stepped : cursor.step = .skipped after) (passes : cursor.Passes letters after)
      (nonempty : letters ≠ []) (more : Skips after lines last) :
      Skips cursor (letters :: lines) last

namespace Passes

theorem refl (cursor : Cursor) : cursor.Passes [] cursor := by
  constructor <;> simp

theorem trans {first second third : Cursor} {upper lower : List Char}
    (passesUpper : first.Passes upper second) (passesLower : second.Passes lower third) :
    first.Passes (upper ++ lower) third where
  unread_eq := by rw [passesUpper.unread_eq, passesLower.unread_eq, List.append_assoc]
  line_eq := by
    rw [passesLower.line_eq, passesUpper.line_eq, List.count_append, Nat.add_assoc]

/-- A character that is no line feed. -/
theorem letter {letter : Char} (line : Nat) (rest : List Char) (notFeed : letter ≠ '\n') :
    Passes ⟨letter :: rest, line⟩ [letter] ⟨rest, line⟩ where
  unread_eq := rfl
  line_eq := by simp [notFeed]

theorem lineFeed (line : Nat) (rest : List Char) :
    Passes ⟨'\n' :: rest, line⟩ ['\n'] ⟨rest, line + 1⟩ := by
  constructor <;> rfl

/-- A loop that stops at line feeds need not count them. -/
theorem dropWhile {holds : Char → Bool} (stops : holds '\n' = false) (letters : List Char)
    (line : Nat) :
    Passes ⟨letters, line⟩ (letters.takeWhile holds) ⟨letters.dropWhile holds, line⟩ where
  unread_eq := List.takeWhile_append_dropWhile.symm
  line_eq := by
    have none : (letters.takeWhile holds).count '\n' = 0 := by
      rw [List.count_eq_zero]
      intro member
      have taken := List.all_eq_true.mp List.all_takeWhile _ member
      rw [stops] at taken
      cases taken
    rw [none]
    rfl

theorem afterSpaces (letters : List Char) (line : Nat) :
    ∃ spaces, Passes ⟨letters, line⟩ spaces ⟨Recipe.afterSpaces letters, line⟩ :=
  ⟨_, dropWhile (by decide) letters line⟩

theorem afterComment (letters : List Char) (line : Nat) :
    ∃ remark, Passes ⟨letters, line⟩ remark ⟨Recipe.afterComment letters, line⟩ :=
  ⟨_, dropWhile (by decide) letters line⟩

end Passes

end Cursor

/-! ## Steps -/

/-- The place that reading an argument leads to, which is the end of the text if it fails. -/
def placeAfter : Except Nat Argument → Cursor
  | .ok argument => argument.after
  | .error line => ⟨[], line⟩

@[simp] theorem placeAfter_map_push (letter : Char) (read : Except Nat Argument) :
    placeAfter (read.map (.push letter)) = placeAfter read := by
  cases read <;> rfl

open Cursor (Passes)

theorem exists_passes_readArgument (line : Nat) (letters : List Char) :
    ∃ read, Passes ⟨letters, line⟩ read (placeAfter (readArgument line letters)) := by
  fun_induction readArgument line letters with
  | case1 line => exact ⟨[], .refl _⟩
  | case2 line rest ih =>
      rcases ih with ⟨read, passes⟩
      have escape : Passes ⟨'\\' :: '\n' :: rest, line⟩ ['\\', '\n'] ⟨rest, line + 1⟩ :=
        (Passes.letter line _ (by decide)).trans (.lineFeed line rest)
      exact ⟨_, escape.trans passes⟩
  | case3 line rest ih =>
      rcases ih with ⟨read, passes⟩
      have escape : Passes ⟨'\\' :: '\r' :: '\n' :: rest, line⟩ ['\\', '\r', '\n']
          ⟨rest, line + 1⟩ :=
        (Passes.letter line _ (by decide)).trans
          ((Passes.letter line _ (by decide)).trans (.lineFeed line rest))
      exact ⟨_, escape.trans passes⟩
  | case4 line letter rest notFeed _ ih =>
      rcases ih with ⟨read, passes⟩
      have escape : Passes ⟨'\\' :: letter :: rest, line⟩ ['\\', letter] ⟨rest, line⟩ :=
        (Passes.letter line _ (by decide)).trans (.letter line rest notFeed)
      rw [placeAfter_map_push]
      exact ⟨_, escape.trans passes⟩
  | case5 line => exact ⟨['\\'], .letter line [] (by decide)⟩
  | case6 line rest =>
      rcases Passes.afterComment rest line with ⟨remark, passes⟩
      exact ⟨_, (Passes.letter line rest (by decide)).trans passes⟩
  | case7 line rest => exact ⟨['\n'], .lineFeed line rest⟩
  | case8 line letter rest _ _ _ _ _ notFeed ih =>
      rcases ih with ⟨read, passes⟩
      rw [placeAfter_map_push]
      exact ⟨_, (Passes.letter line rest notFeed).trans passes⟩

theorem after_readCommand (token : List Char) (line : Nat) (letters : List Char) :
    (readCommand token line letters).after = placeAfter (readArgument line letters) := by
  rw [readCommand]
  cases readArgument line letters with
  | error atLine => rfl
  | ok argument =>
      dsimp only
      cases commandOf token argument.meaning line <;> rfl

/-- A line with a token takes the token, whatever else it takes. -/
theorem exists_passes_readWord (line : Nat) (letters : List Char) :
    ∃ others, Passes ⟨letters, line⟩ (letters.takeWhile isTokenChar ++ others)
      (readWord line letters).after := by
  have token := Passes.dropWhile (by decide : isTokenChar '\n' = false) letters line
  suffices rest : ∃ others, Passes ⟨letters.dropWhile isTokenChar, line⟩ others
      (readWord line letters).after by
    rcases rest with ⟨others, passes⟩
    exact ⟨others, token.trans passes⟩
  rw [readWord]
  split
  case h_1 rest same =>
    rw [same]
    rcases Passes.afterComment rest line with ⟨remark, passes⟩
    exact ⟨_, (Passes.letter line rest (by decide)).trans passes⟩
  case h_2 rest same =>
    rw [same]
    exact ⟨[], .refl _⟩
  case h_3 =>
    rcases Passes.afterSpaces (letters.dropWhile isTokenChar) line with ⟨spaces, gap⟩
    split
    case h_1 same =>
      rw [same] at gap
      exact ⟨spaces, gap⟩
    case h_2 rest same =>
      rw [same] at gap
      exact ⟨spaces, gap⟩
    case h_3 letter rest notFeed same =>
      rw [same] at gap
      rw [after_readCommand]
      rcases exists_passes_readArgument line (letter :: rest) with ⟨read, passes⟩
      exact ⟨_, gap.trans passes⟩

/-- A word starts with a character of a token or with a comment, so that some character is taken
of it. -/
theorem exists_passes_word (line : Nat) {letter : Char} (rest : List Char) (notSpace : letter ≠ ' ')
    (notFeed : letter ≠ '\n') :
    ∃ letters, letters ≠ [] ∧
      Passes ⟨letter :: rest, line⟩ letters (readWord line (letter :: rest)).after := by
  by_cases remark : letter = '#'
  · rcases Passes.afterComment rest line with ⟨dropped, passes⟩
    have stepped : readWord line ('#' :: rest) = .skipped ⟨afterComment rest, line⟩ := rfl
    rw [remark, stepped]
    exact ⟨_, by simp, (Passes.letter line rest (by decide)).trans passes⟩
  · have first : isTokenChar letter = true := by simp [isTokenChar, notSpace, notFeed, remark]
    rcases exists_passes_readWord line (letter :: rest) with ⟨others, passes⟩
    refine ⟨_, ?_, passes⟩
    simp [first]

theorem readCommand_ne_finished (token : List Char) (line : Nat) (letters : List Char)
    (after : Cursor) : readCommand token line letters ≠ .finished after := by
  rw [readCommand]
  cases readArgument line letters with
  | error atLine => simp
  | ok argument =>
      dsimp only
      cases commandOf token argument.meaning line <;> simp

theorem readWord_ne_finished (line : Nat) (letters : List Char) (after : Cursor) :
    readWord line letters ≠ .finished after := by
  rw [readWord]
  split
  case h_1 => simp
  case h_2 => simp
  case h_3 =>
    split
    case h_1 => simp
    case h_2 => simp
    case h_3 => exact readCommand_ne_finished _ _ _ _

namespace Cursor

/-- Every step passes over what it takes, and only the one at the end of a text may take nothing. -/
theorem exists_passes_step (cursor : Cursor) :
    ∃ letters, cursor.Passes letters cursor.step.after ∧
      (letters = [] → cursor.step = .finished ⟨[], cursor.line⟩) := by
  rcases Passes.afterSpaces cursor.unread cursor.line with ⟨spaces, gap⟩
  have stop := Text.head?_dropWhile (· == ' ') cursor.unread
  rw [← Recipe.afterSpaces] at stop
  -- What stands behind the spaces settles the step, and is no space itself.
  cases found : Recipe.afterSpaces cursor.unread with
  | nil =>
      have stepped : cursor.step = .finished ⟨[], cursor.line⟩ := by rw [step, found]
      rw [found] at gap
      rw [stepped]
      exact ⟨spaces, gap, fun _ => rfl⟩
  | cons letter rest =>
      rw [found] at gap stop
      have notSpace : letter ≠ ' ' := by simpa using stop letter rfl
      by_cases feed : letter = '\n'
      · rw [feed] at gap found
        have stepped : cursor.step = .skipped ⟨rest, cursor.line + 1⟩ := by
          rw [step, found]
          rfl
        rw [stepped]
        exact ⟨_, gap.trans (.lineFeed cursor.line rest), by simp⟩
      · have stepped : cursor.step = readWord cursor.line (letter :: rest) := by
          rw [step, found]
          split <;> simp_all
        rw [stepped]
        rcases exists_passes_word cursor.line rest notSpace feed with ⟨letters, nonempty, passes⟩
        exact ⟨_, gap.trans passes, by simp [nonempty]⟩

theorem unread_of_finished {cursor after : Cursor} (stepped : cursor.step = .finished after) :
    after.unread = [] := by
  rw [step] at stepped
  split at stepped
  case h_1 =>
    cases stepped
    rfl
  case h_2 => cases stepped
  case h_3 letter rest _ _ => exact absurd stepped (readWord_ne_finished cursor.line _ after)

/-! ## Calls -/

namespace Skips

theorem exists_passes {cursor last : Cursor} {lines : List (List Char)}
    (skips : cursor.Skips lines last) : cursor.Passes lines.flatten last := by
  induction skips with
  | here cursor => exact .refl cursor
  | line _ passes _ _ ih => exact passes.trans ih

theorem length_le {cursor last : Cursor} {lines : List (List Char)}
    (skips : cursor.Skips lines last) : lines.length ≤ cursor.unread.length := by
  induction skips with
  | here cursor => exact Nat.zero_le _
  | line _ passes nonempty _ ih =>
      have := List.length_pos_iff.mpr nonempty
      rw [passes.unread_eq, List.length_append, List.length_cons]
      omega

end Skips

/-- Looking for a command or an error skips lines until a step that skips none. -/
theorem exists_skips_seek (cursor : Cursor) :
    ∃ lines last, cursor.Skips lines last ∧ last.step = cursor.seek ∧
      ∀ after, cursor.seek ≠ .skipped after := by
  fun_induction seek cursor with
  | case1 cursor after stepped ih =>
      rcases ih with ⟨lines, last, skips, settled, stays⟩
      rcases cursor.exists_passes_step with ⟨letters, passes, finished⟩
      rw [stepped] at passes finished
      refine ⟨letters :: lines, last, .line stepped passes ?_ skips, settled, stays⟩
      intro none
      cases finished none
  | case2 cursor stays => exact ⟨[], cursor, .here cursor, rfl, stays⟩

end Cursor

namespace Scanner

/-- The states that calls lead a reader to. -/
inductive Reaches (first : Scanner) : Scanner → Prop where
  | here : Reaches first first
  | call {scanner : Scanner} (before : Reaches first scanner) : Reaches first scanner.next.2

/-- What a call hands over after its last step, and the state that it leaves. -/
def ofStep : Step → Option (Except Error Command) × Scanner
  | .finished after | .skipped after => (none, ⟨after, false⟩)
  | .found command after => (some (.ok command), ⟨after, false⟩)
  | .failed error after => (some (.error error), ⟨after, true⟩)

theorem next_eq_ofStep {scanner : Scanner} (running : scanner.stopped = false) :
    scanner.next = ofStep scanner.cursor.seek := by
  rw [next, running]
  rfl

theorem next_of_stopped {scanner : Scanner} (stopped : scanner.stopped = true) :
    scanner.next = (none, scanner) := by
  rw [next, stopped]
  rfl

theorem next_end (line : Nat) : next ⟨⟨[], line⟩, false⟩ = (none, ⟨⟨[], line⟩, false⟩) := by
  rw [next_eq_ofStep rfl, Cursor.seek_eq_step]
  rfl

theorem cursor_ofStep (step : Step) : (ofStep step).2.cursor = step.after := by
  cases step <;> rfl

/-- A call passes over what it takes, and takes something if it hands something over. -/
theorem exists_passes_next (scanner : Scanner) :
    ∃ letters, scanner.cursor.Passes letters scanner.next.2.cursor ∧
      (scanner.next.1 ≠ none → letters ≠ []) := by
  cases stopped : scanner.stopped with
  | true =>
      rw [next_of_stopped stopped]
      exact ⟨[], .refl _, by simp⟩
  | false =>
      rw [next_eq_ofStep stopped, cursor_ofStep]
      rcases scanner.cursor.exists_skips_seek with ⟨lines, last, skips, settled, -⟩
      rcases last.exists_passes_step with ⟨letters, passes, finished⟩
      rw [settled] at passes finished
      refine ⟨_, skips.exists_passes.trans passes, ?_⟩
      intro handed none
      rw [finished (List.append_eq_nil_iff.mp none).2] at handed
      exact handed rfl

/-- A call that hands over no command is the last one that does anything. -/
theorem next_next {scanner : Scanner} (last : ∀ command, scanner.next.1 ≠ some (.ok command)) :
    scanner.next.2.next = (none, scanner.next.2) := by
  cases stopped : scanner.stopped with
  | true => rw [next_of_stopped stopped, next_of_stopped stopped]
  | false =>
      rw [next_eq_ofStep stopped] at last ⊢
      rcases scanner.cursor.exists_skips_seek with ⟨_, before, _, settled, stays⟩
      cases sought : scanner.cursor.seek with
      | finished after =>
          -- Nothing is unread, so that the next call finishes at the same place.
          have nothing : after = ⟨[], after.line⟩ := by
            rw [← Cursor.unread_of_finished (settled.trans sought)]
          rw [nothing]
          exact next_end after.line
      | skipped after => exact absurd sought (stays after)
      | found command after =>
          rw [sought] at last
          exact absurd rfl (last command)
      | failed error after => exact next_of_stopped rfl

theorem Reaches.eq_of_next {first later : Scanner} (still : first.next = (none, first))
    (reaches : first.Reaches later) : later = first := by
  induction reaches with
  | here => rfl
  | call _ ih => rw [ih, still]

theorem Reaches.exists_passes {first later : Scanner} (reaches : first.Reaches later) :
    ∃ letters, first.cursor.Passes letters later.cursor := by
  induction reaches with
  | here => exact ⟨[], .refl _⟩
  | @call scanner _ ih =>
      rcases ih with ⟨before, passes⟩
      rcases scanner.exists_passes_next with ⟨letters, passesNext, -⟩
      exact ⟨_, passes.trans passesNext⟩

/-- Wherever calls lead a reader of a text, what is unread ends the text and each line feed before
it is counted. The next call skips finitely many lines, each of at least one character, up to a step
that skips none, and takes a character if it hands over a command or an error. After a call that
hands over anything but a command, no further call hands over or takes anything. -/
theorem counts_advances_stops (text : String) {scanner : Scanner}
    (reached : Reaches (.start text) scanner) :
    (∃ consumed, text.toList = consumed ++ scanner.cursor.unread ∧
      scanner.cursor.line = 1 + consumed.count '\n') ∧
    (∃ consumed, scanner.cursor.Passes consumed scanner.next.2.cursor ∧
      (scanner.next.1 ≠ none → consumed ≠ [])) ∧
    (scanner.stopped = false → ∃ lines last, scanner.cursor.Skips lines last ∧
      (∀ after, last.step ≠ .skipped after) ∧ scanner.next = ofStep last.step ∧
      lines.length ≤ scanner.cursor.unread.length) ∧
    ((∀ command, scanner.next.1 ≠ some (.ok command)) →
      ∀ later, Reaches scanner.next.2 later →
        later = scanner.next.2 ∧ later.next = (none, later)) := by
  refine ⟨?counts, scanner.exists_passes_next, ?advances, ?stops⟩
  case counts =>
    rcases reached.exists_passes with ⟨consumed, passes⟩
    exact ⟨consumed, passes.unread_eq, passes.line_eq⟩
  case advances =>
    intro running
    rcases scanner.cursor.exists_skips_seek with ⟨lines, last, skips, settled, stays⟩
    rw [next_eq_ofStep running, ← settled]
    rw [← settled] at stays
    exact ⟨lines, last, skips, stays, rfl, skips.length_le⟩
  case stops =>
    intro last later reaches
    have still := next_next last
    have same := reaches.eq_of_next still
    rw [same]
    exact ⟨rfl, still⟩

/-- A text of a comment, a command on two lines, a token without an argument, and what is never
read for it. -/
def brokenText : String :=
  "# base\nFROM a \\\n b\nRUN\nCOPY x"

/-- The reader of the text after its command, with three line feeds behind it. -/
def afterCommand : Scanner :=
  ⟨⟨"RUN\nCOPY x".toList, 4⟩, false⟩

/-- The reader of the text after its fault, which leaves the line feed behind the token. -/
def afterFault : Scanner :=
  ⟨⟨"\nCOPY x".toList, 4⟩, true⟩

theorem next_start_brokenText :
    (start brokenText).next = (some (.ok (.of .origin "a  b" 2)), afterCommand) := by
  have remark : (start brokenText).cursor.step =
      .skipped ⟨"\nFROM a \\\n b\nRUN\nCOPY x".toList, 1⟩ := rfl
  have feed : Cursor.step ⟨"\nFROM a \\\n b\nRUN\nCOPY x".toList, 1⟩ =
      .skipped ⟨"FROM a \\\n b\nRUN\nCOPY x".toList, 2⟩ := rfl
  have command : Cursor.step ⟨"FROM a \\\n b\nRUN\nCOPY x".toList, 2⟩ =
      .found (.of .origin "a  b" 2) afterCommand.cursor := by decide +kernel
  rw [next, Cursor.seek_eq_step, remark]
  dsimp only
  rw [Cursor.seek_eq_step, feed]
  dsimp only
  rw [Cursor.seek_eq_step, command]
  rfl

theorem next_afterCommand :
    afterCommand.next = (some (.error (.missingArgument "RUN" 4)), afterFault) := by
  rw [next, Cursor.seek_eq_step]
  rfl

theorem counts_advances_stops_brokenText :
    Reaches (start brokenText) afterCommand ∧
      (∃ consumed, brokenText.toList = consumed ++ "RUN\nCOPY x".toList ∧
        4 = 1 + consumed.count '\n') ∧
      (∃ consumed, afterCommand.cursor.Passes consumed afterFault.cursor ∧ consumed ≠ []) ∧
      (∃ lines last, afterCommand.cursor.Skips lines last ∧
        (some (.error (.missingArgument "RUN" 4)), afterFault) = ofStep last.step) ∧
      ∀ later, Reaches afterFault later → later = afterFault ∧ later.next = (none, later) := by
  have reached : Reaches (start brokenText) afterCommand := by
    have called := Reaches.call (.here : Reaches (start brokenText) (start brokenText))
    rwa [next_start_brokenText] at called
  rcases counts_advances_stops brokenText reached with ⟨counts, advances, skips, stops⟩
  rw [next_afterCommand] at advances skips stops
  rcases advances with ⟨consumed, passes, nonempty⟩
  rcases skips rfl with ⟨lines, last, skips, -, handed, -⟩
  exact ⟨reached, counts, ⟨consumed, passes, nonempty (by simp)⟩, ⟨lines, last, skips, handed⟩,
    stops (by simp)⟩

end Scanner

end GuestImage.Recipe
