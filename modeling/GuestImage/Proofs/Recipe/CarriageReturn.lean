import GuestImage.Proofs.Recipe.Fault
import GuestImage.Proofs.Recipe.LineBreak
import GuestImage.Proofs.Text.Trim

/-!
# Line breaks of two characters

A text may have a carriage return in front of every line feed. Most lines are read the same then:
the return is escaped with the line feed, trimmed off an argument, dropped with a comment or taken
off a bare token. On a blank line it is a token of its own, so that a text with a blank line in it
fails there.
-/

namespace GuestImage.Recipe

/-- A text with a carriage return in front of every line feed. -/
def withReturns (letters : List Char) : List Char :=
  letters.flatMap fun letter => if letter = '\n' then ['\r', '\n'] else [letter]

/-- A text whose line breaks have two characters. -/
def inReturns (text : String) : String :=
  String.ofList (withReturns text.toList)

@[simp] theorem withReturns_append (first second : List Char) :
    withReturns (first ++ second) = withReturns first ++ withReturns second := by
  simp [withReturns]

@[simp] theorem withReturns_lineFeed (rest : List Char) :
    withReturns ('\n' :: rest) = '\r' :: '\n' :: withReturns rest := by
  simp [withReturns]

theorem withReturns_of_not_mem {letters : List Char} (within : '\n' ∉ letters) :
    withReturns letters = letters := by
  induction letters with
  | nil => rfl
  | cons letter letters ih =>
      simp only [List.mem_cons, not_or] at within
      have same : withReturns (letter :: letters) = letter :: withReturns letters := by
        simp [withReturns, Ne.symm within.1]
      rw [same, ih within.2]

/-- The line breaks stay as many. -/
theorem count_withReturns (letters : List Char) :
    (withReturns letters).count '\n' = letters.count '\n' := by
  induction letters with
  | nil => rfl
  | cons letter letters ih =>
      rw [withReturns, List.flatMap_cons, List.count_append]
      by_cases feed : letter = '\n'
      · simp [feed, ← ih, withReturns, Nat.add_comm]
      · simp [feed, ← ih, withReturns]

/-! ## Arguments -/

/-- A part of an argument, with an escaped line break of two characters. -/
def Piece.withReturn : Piece → Piece
  | plain letter => plain letter
  | escaped letter => escaped letter
  | continued _ => continued true

@[simp] theorem Piece.meaning_withReturn (piece : Piece) :
    piece.withReturn.meaning = piece.meaning := by
  cases piece <;> rfl

theorem Piece.WF.withReturn {piece : Piece} (wf : piece.WF) : piece.withReturn.WF := by
  cases piece <;> exact wf

theorem Piece.text_withReturn {piece : Piece} (wf : piece.WF) (noReturn : '\r' ∉ piece.text) :
    piece.withReturn.text = withReturns piece.text := by
  cases piece with
  | plain letter => simp [Piece.withReturn, text, withReturns, wf.2.2]
  | escaped letter =>
      have notFeed : letter ≠ '\n' := wf
      simp [Piece.withReturn, text, withReturns, notFeed]
  | continued carriage =>
      cases carriage with
      | true => simp [text] at noReturn
      | false => rfl

/-- An argument with escaped line breaks of two characters. -/
def argumentWithReturns (argument : List Piece) : List Piece :=
  argument.map Piece.withReturn

theorem argumentWithReturns_wf {argument : List Piece} (wf : ∀ piece ∈ argument, piece.WF) :
    ∀ piece ∈ argumentWithReturns argument, piece.WF := by
  intro piece member
  rcases List.mem_map.mp member with ⟨original, present, rfl⟩
  exact (wf original present).withReturn

@[simp] theorem meaningOf_argumentWithReturns (argument : List Piece) :
    LogicalLine.meaningOf (argumentWithReturns argument) = LogicalLine.meaningOf argument := by
  simp [LogicalLine.meaningOf, argumentWithReturns, List.flatMap_map]

theorem text_argumentWithReturns {argument : List Piece} (wf : ∀ piece ∈ argument, piece.WF)
    (noReturn : '\r' ∉ argument.flatMap Piece.text) :
    (argumentWithReturns argument).flatMap Piece.text =
      withReturns (argument.flatMap Piece.text) := by
  induction argument with
  | nil => rfl
  | cons piece argument ih =>
      rcases List.forall_mem_cons.mp wf with ⟨pieceWF, argumentWF⟩
      simp only [List.flatMap_cons, List.mem_append, not_or] at noReturn
      rw [List.flatMap_cons, withReturns_append, ← ih argumentWF noReturn.2,
        ← Piece.text_withReturn pieceWF noReturn.1]
      rfl

/-! ## Lines -/

namespace Line

open LogicalLine (spaced meaningOf remarkText)

/-- A line with escaped line breaks of two characters. -/
def withReturns : Line → Line
  | whole (.command spaces token gap argument remark?) =>
      whole (.command spaces token gap (argumentWithReturns argument) remark?)
  | unfinished spaces token gap argument =>
      unfinished spaces token gap (argumentWithReturns argument)
  | line => line

/-- A line with a carriage return at its end, which a blank line has for its token. -/
def returned : Line → Line
  | whole (.blank spaces) => bare spaces ['\r']
  | whole (.comment spaces word remark) => whole (.comment spaces word (remark ++ ['\r']))
  | whole (.command spaces token gap argument none) =>
      whole (.command spaces token gap (argument ++ [.plain '\r']) none)
  | whole (.command spaces token gap argument (some remark)) =>
      whole (.command spaces token gap argument (some (remark ++ ['\r'])))
  | bare spaces token => bare spaces (token ++ ['\r'])
  | unfinished spaces token gap argument => unfinished spaces token gap argument

variable {line : Line}

theorem text_withReturns (shaped : line.Shaped) (noReturn : '\r' ∉ line.text) :
    line.withReturns.text = Recipe.withReturns line.text := by
  have spaces (count : Nat) : Recipe.withReturns (spaced count) = spaced count := by
    apply withReturns_of_not_mem
    simp [spaced]
  have word {token : List Char} (chars : token.all isTokenChar) :
      Recipe.withReturns token = token := by
    apply withReturns_of_not_mem
    rw [← List.count_eq_zero]
    exact count_token chars
  cases line with
  | whole logical =>
      cases logical with
      | blank count => exact (spaces count).symm
      | comment count text remark =>
          rcases shaped with ⟨chars, within⟩
          have noFeed : '\n' ∉ '#' :: remark := by simpa using within
          simp only [withReturns, Line.text, LogicalLine.text, withReturns_append, spaces,
            word chars, withReturns_of_not_mem noFeed]
      | command count token gap argument remark? =>
          rcases shaped with ⟨-, chars, -, pieces, within⟩
          have argumentReturn : '\r' ∉ argument.flatMap Piece.text := by
            intro member
            exact noReturn (by simp [Line.text, LogicalLine.text, member])
          simp only [withReturns, Line.text, LogicalLine.text, withReturns_append, spaces,
            word chars, withReturns_of_not_mem within,
            text_argumentWithReturns pieces argumentReturn]
  | bare count token =>
      simp only [withReturns, Line.text, withReturns_append, spaces, word shaped.2]
  | unfinished count token gap argument =>
      rcases shaped with ⟨-, chars, -, pieces⟩
      have argumentReturn : '\r' ∉ argument.flatMap Piece.text := by
        intro member
        exact noReturn (by simp [Line.text, member])
      have backslash : Recipe.withReturns ['\\'] = ['\\'] := rfl
      simp only [withReturns, Line.text, withReturns_append, spaces, word chars, backslash,
        text_argumentWithReturns pieces argumentReturn]

theorem Shaped.withReturns (shaped : line.Shaped) : line.withReturns.Shaped := by
  cases line with
  | whole logical =>
      cases logical with
      | blank | comment => exact shaped
      | command spaces token gap argument remark? =>
          rcases shaped with ⟨nonempty, chars, positive, pieces, within⟩
          exact ⟨nonempty, chars, positive, argumentWithReturns_wf pieces, within⟩
  | bare => exact shaped
  | unfinished spaces token gap argument =>
      rcases shaped with ⟨nonempty, chars, positive, pieces⟩
      exact ⟨nonempty, chars, positive, argumentWithReturns_wf pieces⟩

theorem lineFeeds_withReturns (shaped : line.Shaped) (noReturn : '\r' ∉ line.text) :
    line.withReturns.lineFeeds = line.lineFeeds := by
  rw [lineFeeds, text_withReturns shaped noReturn, count_withReturns, lineFeeds]

theorem read_withReturns (number : Nat) (shaped : line.Shaped) (noReturn : '\r' ∉ line.text) :
    line.withReturns.read number = line.read number := by
  have feeds := lineFeeds_withReturns shaped noReturn
  cases line with
  | whole logical =>
      cases logical with
      | blank | comment => rfl
      | command spaces token gap argument remark? =>
          simp only [withReturns, read, meaningOf_argumentWithReturns]
  | bare => rfl
  | unfinished spaces token gap argument =>
      simp only [withReturns] at feeds
      simp only [withReturns, read, feeds]

/-! ### Lines with a return at their end -/

theorem text_returned (mayBreak : line.mayBreak) : line.returned.text = line.text ++ ['\r'] := by
  cases line with
  | whole logical =>
      cases logical with
      | blank spaces => rfl
      | comment spaces word remark => simp [returned, Line.text, LogicalLine.text]
      | command spaces token gap argument remark? =>
          cases remark? <;>
            simp [returned, Line.text, LogicalLine.text, remarkText, Piece.text]
  | bare spaces token => simp [returned, Line.text]
  | unfinished => exact mayBreak.elim

theorem Shaped.returned (shaped : line.Shaped) : line.returned.Shaped := by
  cases line with
  | whole logical =>
      cases logical with
      | blank spaces => exact ⟨by simp, by decide⟩
      | comment spaces word remark =>
          rcases shaped with ⟨chars, within⟩
          exact ⟨chars, by simpa using within⟩
      | command spaces token gap argument remark? =>
          rcases shaped with ⟨nonempty, chars, positive, pieces, within⟩
          cases remark? with
          | none =>
              refine ⟨nonempty, chars, positive, ?_, within⟩
              intro piece member
              rcases List.mem_append.mp member with inside | last
              · exact pieces piece inside
              · rw [List.mem_singleton.mp last]
                decide
          | some remark =>
              refine ⟨nonempty, chars, positive, pieces, ?_⟩
              simpa [remarkText] using within
  | bare spaces token =>
      refine ⟨by simp, ?_⟩
      have chars := shaped.2
      simp only [List.all_append, Bool.and_eq_true]
      exact ⟨chars, by decide⟩
  | unfinished => exact shaped

theorem mayBreak_returned (mayBreak : line.mayBreak) : line.returned.mayBreak := by
  cases line with
  | whole logical =>
      cases logical with
      | blank | comment => trivial
      | command spaces token gap argument remark? =>
          cases remark? with
          | none => simp [returned, Line.mayBreak, LogicalLine.mayBreak]
          | some remark => trivial
  | bare => trivial
  | unfinished => exact mayBreak

theorem read_returned (number : Nat) (noReturn : '\r' ∉ line.token)
    (solid : ∀ count, line ≠ whole (.blank count)) :
    line.returned.read number = line.read number := by
  cases line with
  | whole logical =>
      cases logical with
      | blank spaces => exact absurd rfl (solid spaces)
      | comment => rfl
      | command spaces token gap argument remark? =>
          cases remark? with
          | none =>
              have meaning :
                  meaningOf (argument ++ [.plain '\r']) = meaningOf argument ++ ['\r'] := by
                simp [meaningOf, Piece.meaning]
              have blank : Text.isBlank '\r' = true := by decide
              have trimmed := Text.trimList_append_blank (meaningOf argument) blank
              simp only [returned, read, commandOf, meaning, trimmed]
          | some remark => rfl
  | bare spaces token =>
      have last : token.getLast? ≠ some '\r' := by
        intro last
        exact noReturn (List.mem_of_getLast? last)
      simp [returned, read, missingArgument, last]
  | unfinished => rfl

theorem token_subset (line : Line) : line.token ⊆ line.text := by
  cases line with
  | whole logical =>
      cases logical <;> simp [token, Line.text, LogicalLine.text]
  | bare spaces token => simp [Line.token, Line.text]
  | unfinished => simp [token, Line.text]

theorem mayBreak_withReturns (mayBreak : line.mayBreak) : line.withReturns.mayBreak := by
  cases line with
  | whole logical =>
      cases logical with
      | blank | comment => trivial
      | command spaces token gap argument remark? =>
          cases remark? with
          | some remark => trivial
          | none =>
              intro last
              rw [argumentWithReturns, List.getLast?_map, Option.map_eq_some_iff] at last
              rcases last with ⟨piece, last, same⟩
              cases piece with
              | plain | continued => cases same
              | escaped letter =>
                  cases same
                  exact mayBreak last
  | bare => trivial
  | unfinished => exact mayBreak

theorem token_withReturns (line : Line) : line.withReturns.token = line.token := by
  cases line with
  | whole logical => cases logical <;> rfl
  | bare | unfinished => rfl

theorem solid_withReturns (solid : ∀ count, line ≠ whole (.blank count)) (count : Nat) :
    line.withReturns ≠ whole (.blank count) := by
  cases line with
  | whole logical =>
      cases logical with
      | blank spaces => exact absurd rfl (solid spaces)
      | comment | command => simp [withReturns]
  | bare | unfinished => simp [withReturns]

end Line

/-! ## Texts -/

/-- A line other than a blank one is read the same with a return in front of its line feed. -/
theorem commands_withReturns_break (number : Nat) {line : Line} (shaped : line.Shaped)
    (mayBreak : line.mayBreak) (noReturn : '\r' ∉ line.text)
    (solid : ∀ count, line ≠ .whole (.blank count)) (rest : List Char) :
    Cursor.commands ⟨withReturns (line.text ++ '\n' :: rest), number⟩ =
      (line.read number).bind fun command? =>
        (Cursor.commands ⟨withReturns rest, number + line.lineFeeds + 1⟩).map
          (command?.toList ++ ·) := by
  have newBreak := Line.mayBreak_withReturns mayBreak
  have noReturnToken : '\r' ∉ line.withReturns.token := by
    rw [line.token_withReturns]
    exact fun member => noReturn (line.token_subset member)
  have spelled : withReturns (line.text ++ '\n' :: rest) =
      line.withReturns.returned.text ++ '\n' :: withReturns rest := by
    rw [Line.text_returned newBreak, Line.text_withReturns shaped noReturn]
    simp
  have feeds : line.withReturns.returned.lineFeeds = line.lineFeeds := by
    rw [← Line.lineFeeds_withReturns shaped noReturn, Line.lineFeeds, Line.text_returned newBreak]
    simp [Line.lineFeeds]
  rw [spelled, Cursor.commands_break number shaped.withReturns.returned
    (Line.mayBreak_returned newBreak), feeds,
    Line.read_returned number noReturnToken (Line.solid_withReturns solid),
    Line.read_withReturns number shaped noReturn]

/-- A blank line with a line feed behind it, below lines of the grammar none of which is blank. -/
structure BrokenBlank (upper : List LogicalLine) (spaces : Nat) (rest text : List Char) : Prop where
  text_eq : text = textAbove upper ++ (LogicalLine.spaced spaces ++ '\n' :: rest)
  above : Above upper
  solid : ∀ line ∈ upper, ∀ count, line ≠ .blank count

theorem BrokenBlank.cons {line : LogicalLine} {upper : List LogicalLine} {spaces : Nat}
    {rest text : List Char} (wf : line.WF) (mayBreak : line.mayBreak)
    (solid : ∀ count, line ≠ .blank count) (broken : BrokenBlank upper spaces rest text) :
    BrokenBlank (line :: upper) spaces rest (line.text ++ '\n' :: text) where
  text_eq := by rw [textAbove_cons_append, ← broken.text_eq]
  above := broken.above.cons wf mayBreak
  solid := List.forall_mem_cons.mpr ⟨solid, broken.solid⟩

/-- A text in which no blank line is broken, at least not above its first error, is read the same
with line breaks of two characters. -/
theorem commands_withReturns (text : List Char) (number : Nat) (noReturn : '\r' ∉ text)
    (whole : ¬ ∃ upper spaces rest, BrokenBlank upper spaces rest text) :
    Cursor.commands ⟨withReturns text, number⟩ = Cursor.commands ⟨text, number⟩ := by
  induction text using Line.text_induction generalizing number with
  | last line shaped =>
      rw [← Line.text_withReturns shaped noReturn, Cursor.commands_last number shaped.withReturns,
        Cursor.commands_last number shaped, Line.read_withReturns number shaped noReturn]
  | more line rest shaped mayBreak ih =>
      simp only [List.mem_append, List.mem_cons, not_or] at noReturn
      -- The first line of the text cannot be blank, for it would be a broken blank line itself.
      have solid : ∀ count, line ≠ .whole (.blank count) := by
        rintro count rfl
        apply whole
        exact ⟨[], count, rest, by simp [textAbove, Line.text, LogicalLine.text], by simp [Above],
          by simp⟩
      rw [commands_withReturns_break number shaped mayBreak noReturn.1 solid,
        Cursor.commands_break number shaped mayBreak]
      cases read : line.read number with
      | error error => rfl
      | ok command? =>
          rcases Line.exists_wf_of_read shaped read with ⟨logical, rfl, wf⟩
          -- A line that reads is of the grammar, so what is broken below it is broken in the text.
          have restWhole : ¬ ∃ upper spaces tail, BrokenBlank upper spaces tail rest := by
            rintro ⟨upper, spaces, tail, broken⟩
            apply whole
            refine ⟨logical :: upper, spaces, tail, broken.cons wf mayBreak ?_⟩
            intro count same
            exact solid count (by rw [same])
          simp only [Except.bind, ih _ noReturn.2.2 restWhole]

/-- With line breaks of two characters, a blank line that is broken has a return for its token. -/
theorem BrokenBlank.commands_eq {upper : List LogicalLine} {spaces : Nat} {rest text : List Char}
    (broken : BrokenBlank upper spaces rest text) (noReturn : '\r' ∉ text) (number : Nat) :
    Cursor.commands ⟨withReturns text, number⟩ =
      .error (.missingArgument "" (number + (textAbove upper).count '\n')) := by
  rcases broken with ⟨rfl, above, solid⟩
  induction upper generalizing number with
  | nil =>
      have spelled : withReturns (textAbove [] ++ (LogicalLine.spaced spaces ++ '\n' :: rest)) =
          LogicalLine.spaced spaces ++ (['\r'] ++ '\n' :: withReturns rest) := by
        simp [textAbove, withReturns_of_not_mem, LogicalLine.spaced]
      rw [spelled, Cursor.commands_spaced,
        Cursor.commands_bare number (by simp) (by decide) (.inr ⟨_, rfl⟩)]
      rfl
  | cons line upper ih =>
      rcases List.forall_mem_cons.mp above with ⟨⟨wf, mayBreak⟩, below⟩
      rcases List.forall_mem_cons.mp solid with ⟨lineSolid, upperSolid⟩
      have shaped : (Line.whole line).Shaped := wf.shaped
      rw [textAbove_cons_append] at noReturn ⊢
      rw [List.mem_append, List.mem_cons, not_or, not_or] at noReturn
      have read := commands_withReturns_break number shaped mayBreak noReturn.1
        (fun count same => lineSolid count (Line.whole.inj same))
        (textAbove upper ++ (LogicalLine.spaced spaces ++ '\n' :: rest))
      rw [Line.read_of_wf number wf, ih _ below upperSolid noReturn.2.2] at read
      rw [count_textAbove_cons, ← Nat.add_assoc, ← Nat.add_assoc]
      exact read

/-- A text that breaks a blank line has another error, if it has one: further down in the text or
about its commands as a whole. -/
theorem BrokenBlank.parse_ne {upper : List LogicalLine} {spaces : Nat} {rest : List Char}
    {text : String} (broken : BrokenBlank upper spaces rest text.toList) :
    parse text ≠ .error (.missingArgument "" (1 + (textAbove upper).count '\n')) := by
  intro failed
  have scanned : scan text =
      (shifted (1 + (textAbove upper).count '\n' + 1) (Cursor.commands ⟨rest, 0⟩)).map
        (commandsOf 1 upper ++ ·) := by
    rw [scan_eq_commands, broken.text_eq, commands_textAbove broken.above, Cursor.commands_spaced,
      Cursor.commands_lineFeed, ← commands_add, Nat.zero_add]
  rw [parse_eq_bind, scanned] at failed
  cases below : Cursor.commands ⟨rest, 0⟩ with
  | ok commands =>
      simp only [below, shifted, Except.map, Except.bind] at failed
      split at failed
      · rename_i error found
        cases failed
        cases (documentError?_eq_some_iff.mp found).line?_eq_none
      · cases failed
  | error error =>
      cases error with
      | missingArgument token line =>
          simp only [below, shifted, Error.shift, Except.map, Except.bind, Except.error.injEq,
            Error.missingArgument.injEq] at failed
          omega
      | _ => simp [below, shifted, Error.shift, Except.map, Except.bind] at failed

theorem toList_inReturns (text : String) : (inReturns text).toList = withReturns text.toList :=
  String.toList_ofList

theorem BrokenBlank.parse_eq {upper : List LogicalLine} {spaces : Nat} {rest : List Char}
    {text : String} (broken : BrokenBlank upper spaces rest text.toList)
    (noReturn : '\r' ∉ text.toList) :
    parse (inReturns text) = .error (.missingArgument "" (1 + (textAbove upper).count '\n')) := by
  rw [parse_eq_bind, scan_eq_commands, toList_inReturns, broken.commands_eq noReturn]
  rfl

/-- A text is read the same with line breaks of two characters exactly if it breaks no blank line
above its first error. If it does, the first such line is an error of the text with two characters:
it has a token that is empty once the return is taken off. -/
theorem parse_inReturns_eq_iff (text : String) (noReturn : '\r' ∉ text.toList) :
    (parse (inReturns text) = parse text ↔
        ¬ ∃ upper spaces rest, BrokenBlank upper spaces rest text.toList) ∧
      ∀ upper spaces rest, BrokenBlank upper spaces rest text.toList →
        parse (inReturns text) =
          .error (.missingArgument "" (1 + (textAbove upper).count '\n')) := by
  constructor
  · constructor
    · rintro same ⟨upper, spaces, rest, broken⟩
      rw [broken.parse_eq noReturn] at same
      exact broken.parse_ne same.symm
    · intro whole
      rw [parse_eq_bind, parse_eq_bind, scan_eq_commands, scan_eq_commands, toList_inReturns,
        commands_withReturns _ 1 noReturn whole]
  · intro upper spaces rest broken
    exact broken.parse_eq noReturn

/-- Spaces alone on a line are a blank line too. -/
theorem parse_inReturns_spaces :
    '\r' ∉ "FROM a\n# b\n  \nRUN c".toList ∧
      parse (inReturns "FROM a\n# b\n  \nRUN c") = .error (.missingArgument "" 3) := by
  have noReturn : '\r' ∉ "FROM a\n# b\n  \nRUN c".toList := by decide
  refine ⟨noReturn, ?_⟩
  apply (parse_inReturns_eq_iff _ noReturn).2
    [.command 0 "FROM".toList 1 [.plain 'a'] none, .comment 0 [] " b".toList] 2 "RUN c".toList
  exact ⟨by decide, by decide, by simp⟩

/-- A recipe with a blank line is none with line breaks of two characters. -/
theorem parse_inReturns_blank :
    '\r' ∉ "FROM a\n\nRUN b".toList ∧ inReturns "FROM a\n\nRUN b" = "FROM a\r\n\r\nRUN b" ∧
      parse "FROM a\n\nRUN b" = .ok ⟨[.of .origin "a" 1, .of .run "b" 3]⟩ ∧
      parse (inReturns "FROM a\n\nRUN b") = .error (.missingArgument "" 2) ∧
      ¬ ∀ text : String, '\r' ∉ text.toList → parse (inReturns text) = parse text := by
  have noReturn : '\r' ∉ "FROM a\n\nRUN b".toList := by decide
  have spells : Spells [.command 0 "FROM".toList 1 [.plain 'a'] none, .blank 0,
      .command 0 "RUN".toList 1 [.plain 'b'] none] "FROM a\n\nRUN b".toList := by decide
  have broken : BrokenBlank [.command 0 "FROM".toList 1 [.plain 'a'] none] 0 "RUN b".toList
      "FROM a\n\nRUN b".toList := ⟨by decide, by decide, by simp⟩
  have read := parse_of_spells spells (by decide)
  have failed := broken.parse_eq noReturn
  refine ⟨noReturn, by decide, read, failed, ?_⟩
  intro same
  have equal := same _ noReturn
  rw [read, failed] at equal
  cases equal

end GuestImage.Recipe
