import GuestImage.Proofs.Text.Span
import GuestImage.Recipe.Grammar

/-!
# Lines of any text

Every text divides into logical lines, also a text that is no recipe. Most lines have the form of
the grammar, whatever their words say; beside them there are two that break off: a token with
nothing after it, and an argument that ends in a lone backslash, which only the last line can do.

`Line.text_induction` goes through a text line by line, and is how facts about whole texts are
proved.
-/

namespace GuestImage.Recipe

/-- The end of a physical line: the end of the text or a line feed. -/
def LineEnd (tail : List Char) : Prop :=
  tail = [] ∨ ∃ rest, tail = '\n' :: rest

/-! ## Arguments -/

/-- Whether a rest may stand behind an argument: a line feed behind an escaped carriage return
would be an escaped line break with it. -/
def Apart (argument : List Piece) (rest : List Char) : Prop :=
  argument.getLast? = some (.escaped '\r') → rest.head? ≠ some '\n'

/-- What an argument stops at: the end of the text, a comment, the line feed of the logical line,
or a backslash that ends the text. -/
inductive Stop : List Char → Prop where
  | finish : Stop []
  | remark (rest : List Char) : Stop ('#' :: rest)
  | lineFeed (rest : List Char) : Stop ('\n' :: rest)
  | backslash : Stop ['\\']

namespace Apart

variable {piece : Piece} {argument : List Piece} {rest : List Char}

/-- The first part of an argument stands apart from all that follows it, since no part starts with
a line feed. -/
theorem head (wf : ∀ part ∈ argument, part.WF) (apart : Apart (piece :: argument) rest) :
    piece = .escaped '\r' → (argument.flatMap Piece.text ++ rest).head? ≠ some '\n' := by
  intro same
  cases argument with
  | nil => exact apart (by simp [same])
  | cons next argument =>
      have nextWF := wf next (by simp)
      cases next with
      | plain letter => simpa [Piece.text] using nextWF.2.2
      | escaped letter => simp [Piece.text]
      | continued carriage => cases carriage <;> simp [Piece.text]

theorem tail (apart : Apart (piece :: argument) rest) : Apart argument rest := by
  cases argument with
  | nil => simp [Apart]
  | cons next argument => simpa [Apart] using apart

/-- A longer argument ends like the shorter one, unless that one is empty. -/
theorem cons (apart : Apart argument rest)
    (alone : piece = .escaped '\r' → (argument.flatMap Piece.text ++ rest).head? ≠ some '\n') :
    Apart (piece :: argument) rest := by
  cases argument with
  | nil => simpa [Apart] using alone
  | cons next argument => simpa [Apart] using apart

end Apart

/-- An argument with which a text opens, up to where it stops. -/
structure Opens (argument : List Piece) (rest text : List Char) : Prop where
  text_eq : text = argument.flatMap Piece.text ++ rest
  wf : ∀ piece ∈ argument, piece.WF
  apart : Apart argument rest
  stop : Stop rest

namespace Opens

theorem stopped {text : List Char} (stop : Stop text) : Opens [] text text :=
  ⟨rfl, by simp, by simp [Apart], stop⟩

theorem cons {piece : Piece} {argument : List Piece} {rest text : List Char} (wf : piece.WF)
    (alone : piece = .escaped '\r' → text.head? ≠ some '\n') (opens : Opens argument rest text) :
    Opens (piece :: argument) rest (piece.text ++ text) where
  text_eq := by simp [opens.text_eq]
  wf := by simpa using ⟨wf, opens.wf⟩
  apart := opens.apart.cons (opens.text_eq ▸ alone)
  stop := opens.stop

end Opens

/-- Every text opens with an argument, which may be empty. The induction is that of the reader,
whose line plays no part here. -/
theorem exists_opens (line : Nat) (text : List Char) :
    ∃ argument rest, Opens argument rest text := by
  fun_induction readArgument line text with
  | case1 line => exact ⟨[], [], .stopped .finish⟩
  | case2 line rest ih =>
      rcases ih with ⟨argument, stop, opens⟩
      have wf : (Piece.continued false).WF := trivial
      exact ⟨_, stop, opens.cons wf (by simp)⟩
  | case3 line rest ih =>
      rcases ih with ⟨argument, stop, opens⟩
      have wf : (Piece.continued true).WF := trivial
      exact ⟨_, stop, opens.cons wf (by simp)⟩
  | case4 line letter rest notFeed notBreak ih =>
      rcases ih with ⟨argument, stop, opens⟩
      have wf : (Piece.escaped letter).WF := notFeed
      refine ⟨_, stop, opens.cons wf ?_⟩
      intro same feed
      cases rest with
      | nil => simp at feed
      | cons next rest =>
          cases same
          cases feed
          exact notBreak rest rfl rfl
  | case5 line => exact ⟨[], _, .stopped .backslash⟩
  | case6 line rest => exact ⟨[], _, .stopped (.remark rest)⟩
  | case7 line rest => exact ⟨[], _, .stopped (.lineFeed rest)⟩
  | case8 line letter rest _ _ notEscape notLast notRemark notFeed ih =>
      rcases ih with ⟨argument, stop, opens⟩
      have notBackslash : letter ≠ '\\' := by
        intro same
        cases rest with
        | nil => exact notLast same rfl
        | cons next rest => exact notEscape next rest same rfl
      have wf : (Piece.plain letter).WF := ⟨notBackslash, notRemark, notFeed⟩
      exact ⟨_, stop, opens.cons wf (by simp)⟩

/-! ## Lines -/

/-- Whether a line has the form of the grammar. Its token need not select a kind of command, nor
need its argument stand for anything. -/
def LogicalLine.Shaped : LogicalLine → Prop
  | blank _ => True
  | comment _ word remark => word.all isTokenChar ∧ '\n' ∉ remark
  | command _ token gap argument remark? =>
      token ≠ [] ∧ token.all isTokenChar ∧ 0 < gap ∧ (∀ piece ∈ argument, piece.WF) ∧
        '\n' ∉ remarkText remark?

inductive Line where
  /-- A line with the form of the grammar. -/
  | whole (line : LogicalLine)
  /-- A token with nothing after it. -/
  | bare (spaces : Nat) (token : List Char)
  /-- A token and an argument that ends in a lone backslash. -/
  | unfinished (spaces : Nat) (token : List Char) (gap : Nat) (argument : List Piece)

namespace Line

open LogicalLine (spaced remarkText)

def text : Line → List Char
  | whole line => line.text
  | bare spaces token => spaced spaces ++ token
  | unfinished spaces token gap argument =>
      spaced spaces ++ token ++ spaced gap ++ argument.flatMap Piece.text ++ ['\\']

/-- The lines that texts divide into. -/
def Shaped : Line → Prop
  | whole line => line.Shaped
  | bare _ token => token ≠ [] ∧ token.all isTokenChar
  | unfinished _ token gap argument =>
      token ≠ [] ∧ token.all isTokenChar ∧ 0 < gap ∧ ∀ piece ∈ argument, piece.WF

/-- Whether a line feed may follow. -/
def mayBreak : Line → Prop
  | whole line => line.mayBreak
  | bare _ _ => True
  | unfinished .. => False

def lineFeeds (line : Line) : Nat :=
  line.text.count '\n'

/-- What may stand behind a line: nothing, or a line feed and further lines. -/
def Ends (line : Line) (tail : List Char) : Prop :=
  tail = [] ∨ line.mayBreak ∧ ∃ rest, tail = '\n' :: rest

theorem Ends.lineEnd {line : Line} {tail : List Char} (ends : line.Ends tail) : LineEnd tail :=
  ends.imp_right And.right

theorem Ends.of_lineEnd {line : Line} {tail : List Char} (lineEnd : LineEnd tail)
    (mayBreak : line.mayBreak) : line.Ends tail :=
  lineEnd.imp_right fun feed => ⟨mayBreak, feed⟩

theorem Ends.apart {spaces gap : Nat} {token tail : List Char} {argument : List Piece}
    {remark? : Option (List Char)}
    (ends : (whole (.command spaces token gap argument remark?)).Ends tail) :
    Apart argument (remarkText remark? ++ tail) := by
  intro last
  cases remark? with
  | none =>
      rcases ends with rfl | ⟨mayBreak, rest, rfl⟩
      · simp [remarkText]
      · exact absurd last mayBreak
  | some remark => simp [remarkText]

/-! ## Dividing a text -/

/-- Every text starts with spaces, of which there may be none. -/
theorem exists_spaced (text : List Char) :
    ∃ count rest, text = spaced count ++ rest ∧ rest.head? ≠ some ' ' := by
  rcases Text.exists_span (· == ' ') text with ⟨front, rest, rfl, spaces, stopped⟩
  refine ⟨front.length, rest, ?_, ?_⟩
  · have replicated : front = spaced front.length := by
      rw [spaced, List.eq_replicate_iff]
      simpa using spaces
    rw [← replicated]
  · intro first
    simpa using stopped ' ' first

/-- A comment runs to the end of the text or to a line feed. -/
theorem exists_remark (text : List Char) :
    ∃ remark tail, text = remark ++ tail ∧ '\n' ∉ remark ∧ LineEnd tail := by
  rcases Text.exists_span (· != '\n') text with ⟨remark, tail, rfl, within, stopped⟩
  refine ⟨remark, tail, rfl, ?_, ?_⟩
  · intro member
    simpa using List.all_eq_true.mp within '\n' member
  · cases tail with
    | nil => exact .inl rfl
    | cons letter rest =>
        have feed : letter = '\n' := by simpa using stopped letter rfl
        exact .inr ⟨rest, by rw [feed]⟩

/-- A token with a space behind it and the argument that opens then are a line: one that ends where
the argument stops, or one that is unfinished. -/
theorem exists_line_of_opens (spaces : Nat) {token : List Char} (nonempty : token ≠ [])
    (word : token.all isTokenChar) {argument : List Piece} {stop rest : List Char}
    (opens : Opens argument stop rest) :
    (∃ remark? tail, spaced spaces ++ token ++ ' ' :: rest =
        Line.text (.whole (.command spaces token 1 argument remark?)) ++ tail ∧
      (Line.whole (.command spaces token 1 argument remark?)).Shaped ∧
      (Line.whole (.command spaces token 1 argument remark?)).Ends tail) ∨
    (spaced spaces ++ token ++ ' ' :: rest = Line.text (.unfinished spaces token 1 argument) ∧
      (Line.unfinished spaces token 1 argument).Shaped) := by
  rcases opens with ⟨rfl, pieces, apart, stops⟩
  cases stops with
  | finish =>
      refine .inl ⟨none, [], ?_, ?_, .inl rfl⟩
      · simp [Line.text, LogicalLine.text, spaced, remarkText]
      · exact ⟨nonempty, word, Nat.one_pos, pieces, by simp [remarkText]⟩
  | remark rest =>
      rcases exists_remark rest with ⟨remark, tail, rfl, within, ends⟩
      refine .inl ⟨some remark, tail, ?_, ?_, ?_⟩
      · simp [Line.text, LogicalLine.text, spaced, remarkText]
      · exact ⟨nonempty, word, Nat.one_pos, pieces, by simpa [remarkText] using within⟩
      · exact .of_lineEnd ends trivial
  | lineFeed rest =>
      refine .inl ⟨none, '\n' :: rest, ?_, ?_, ?_⟩
      · simp [Line.text, LogicalLine.text, spaced, remarkText]
      · exact ⟨nonempty, word, Nat.one_pos, pieces, by simp [remarkText]⟩
      · exact .inr ⟨fun last => apart last rfl, rest, rfl⟩
  | backslash =>
      refine .inr ⟨?_, ?_⟩
      · simp [Line.text, spaced]
      · exact ⟨nonempty, word, Nat.one_pos, pieces⟩

/-- A line with a token and a space behind it goes on with an argument. -/
theorem exists_line_of_token (spaces : Nat) {token : List Char} (nonempty : token ≠ [])
    (word : token.all isTokenChar) (rest : List Char) :
    ∃ line tail, spaced spaces ++ token ++ ' ' :: rest = Line.text line ++ tail ∧ line.Shaped ∧
      line.Ends tail := by
  rcases exists_opens 0 rest with ⟨argument, stop, opens⟩
  rcases exists_line_of_opens spaces nonempty word opens with
    ⟨remark?, tail, same, shaped, ends⟩ | ⟨same, shaped⟩
  · exact ⟨_, tail, same, shaped, ends⟩
  · exact ⟨_, [], by rw [same, List.append_nil], shaped, .inl rfl⟩

/-- A line with no space behind its token is blank or bare. -/
theorem exists_line_of_word (spaces : Nat) {token tail : List Char} (word : token.all isTokenChar)
    (ends : LineEnd tail) :
    ∃ line rest, spaced spaces ++ token ++ tail = Line.text line ++ rest ∧ line.Shaped ∧
      line.Ends rest := by
  by_cases empty : token = []
  · refine ⟨.whole (.blank spaces), tail, ?_, trivial, ?_⟩
    · simp [Line.text, LogicalLine.text, empty]
    · exact .of_lineEnd ends trivial
  · refine ⟨.bare spaces token, tail, rfl, ⟨empty, word⟩, ?_⟩
    exact .of_lineEnd ends trivial

theorem exists_line (text : List Char) :
    ∃ line tail, text = Line.text line ++ tail ∧ line.Shaped ∧ line.Ends tail := by
  rcases exists_spaced text with ⟨spaces, body, rfl, noSpace⟩
  rcases Text.exists_span isTokenChar body with ⟨token, after, rfl, word, stopped⟩
  rw [← List.append_assoc]
  cases after with
  | nil => exact exists_line_of_word spaces word (.inl rfl)
  | cons letter rest =>
      have last : (letter = ' ' ∨ letter = '\n') ∨ letter = '#' := by
        simpa only [isTokenChar, Bool.and_eq_false_iff, bne_eq_false_iff_eq] using
          stopped letter rfl
      rcases last with (rfl | rfl) | rfl
      · have nonempty : token ≠ [] := by
          rintro rfl
          exact noSpace rfl
        exact exists_line_of_token spaces nonempty word rest
      · exact exists_line_of_word spaces word (.inr ⟨rest, rfl⟩)
      · obtain ⟨remark, tail, rfl, within, ends⟩ := exists_remark rest
        refine ⟨.whole (.comment spaces token remark), tail, ?_, ⟨word, within⟩, ?_⟩
        · simp [Line.text, LogicalLine.text]
        · exact .of_lineEnd ends trivial

/-- Induction on a text by its lines. A text is one line, or a line, a line feed and a text. -/
theorem text_induction {motive : List Char → Prop}
    (last : ∀ line : Line, line.Shaped → motive line.text)
    (more : ∀ (line : Line) (rest : List Char), line.Shaped → line.mayBreak → motive rest →
      motive (line.text ++ '\n' :: rest))
    (text : List Char) : motive text := by
  rcases exists_line text with ⟨line, tail, same, shaped, ends⟩
  rcases ends with rfl | ⟨mayBreak, rest, rfl⟩
  · rw [same, List.append_nil]
    exact last line shaped
  · rw [same]
    exact more line rest shaped mayBreak (text_induction last more rest)
termination_by text.length
decreasing_by simp [same]; omega

end Line

end GuestImage.Recipe
