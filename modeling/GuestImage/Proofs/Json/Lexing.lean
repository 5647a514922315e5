import Mathlib.Data.List.Forall2
import GuestImage.Json.Scalar
import GuestImage.Json.Writer

/-!
# The tokens of a written value

A value that was written is cut into tokens again: its brackets, its separators, and its numbers and
strings as they are spelled. All lemmas leave open what follows, as a value mostly stands within
others; only a number must be told from what follows it.
-/

namespace GuestImage.Json

/-! ## Spellings -/

/-- The control characters that have a letter of their own. -/
def namedControls : List Char := ['\x08', '\x0c', '\n', '\r', '\t']

/-- How a character of a string is spelled. A control character without a letter of its own is given
by its number. -/
def partOf (letter : Char) : StringPart :=
  if letter.toNat < 0x20 ∧ letter ∉ namedControls then .codeUnit letter.toNat
  else .character letter

/-- How a string is spelled. -/
def Spelling.ofString (value : String) : Spelling :=
  .string (value.toList.map partOf)

/-- How an integer is spelled. -/
def Numeral.ofInt (value : Int) : Numeral :=
  ⟨decide (value < 0), Nat.toDigits 10 value.natAbs, [], none⟩

mutual

/-- The tokens of a value. -/
def Value.tokens : Value → List Token
  | .null => [.scalar .null]
  | .number value => [.scalar (.number (.ofInt value))]
  | .string value => [.scalar (.ofString value)]
  | .array items => .openArray :: List.intercalate [.comma] (itemTokens items) ++ [.closeArray]
  | .object fields =>
      .openObject :: List.intercalate [.comma] (fieldTokens fields) ++ [.closeObject]

/-- The tokens of the items of an array. -/
def itemTokens : (items : List Value) → List (List Token)
  | [] => []
  | item :: rest => item.tokens :: itemTokens rest

/-- The tokens of the fields of an object. -/
def fieldTokens : (fields : List (String × Value)) → List (List Token)
  | [] => []
  | (name, value) :: rest =>
      (.scalar (.ofString name) :: .colon :: value.tokens) :: fieldTokens rest

end

/-! ## Strings -/

/-- A control character is read back from its number. -/
theorem hexNumber?_control {code : Nat} (control : code < 0x20) :
    Text.hexNumber? ['0', '0', Nat.digitChar (code / 16), Nat.digitChar (code % 16)] =
      some code := by
  revert code
  decide

theorem readString_escapeChar (letter : Char) (rest : List Char) :
    readString (escapeChar letter ++ rest) = consed (partOf letter) (readString rest) := by
  by_cases special : letter ∈ '"' :: '\\' :: namedControls
  · simp only [namedControls, List.mem_cons, List.not_mem_nil, or_false] at special
    rcases special with rfl | rfl | rfl | rfl | rfl | rfl | rfl <;> rfl
  · simp only [namedControls, List.mem_cons, List.not_mem_nil, or_false, not_or] at special
    rcases special with ⟨quote, slash, backspace, formFeed, feed, carriage, tab⟩
    have unnamed : letter ∉ namedControls := by
      simp [namedControls, backspace, formFeed, feed, carriage, tab]
    simp only [escapeChar, quote, slash, backspace, formFeed, feed, carriage, tab, ↓reduceIte]
    by_cases control : letter.toNat < 0x20
    · rw [if_pos control, partOf, if_pos ⟨control, unnamed⟩]
      simp only [List.cons_append, List.nil_append, readString, hexNumber?_control control]
    · rw [if_neg control, partOf, if_neg (not_and_of_not_left _ control)]
      simp only [List.cons_append, List.nil_append]
      rw [readString]
      · rw [if_neg control]
      · exact quote
      · intro _ _ _ _ _ same
        exact absurd same slash
      · intro _ _ same
        exact absurd same slash

/-- A string is read up to its closing quote. -/
theorem readString_escape (letters rest : List Char) :
    readString (letters.flatMap escapeChar ++ '"' :: rest) = some (letters.map partOf, rest) := by
  induction letters with
  | nil => rfl
  | cons letter letters ih =>
      rw [List.flatMap_cons, List.append_assoc, readString_escapeChar, ih]
      rfl

/-- A control character stands for itself, whatever follows it. -/
theorem characters?_control {code : Nat} (control : code < 0x20) (rest : List StringPart) :
    characters? (.codeUnit code :: rest) = (characters? rest).map (Char.ofNat code :: ·) := by
  have notHigh : isHighSurrogate code = false := by
    simp [isHighSurrogate]
    omega
  have notLow : isLowSurrogate code = false := by
    simp [isLowSurrogate]
    omega
  cases rest with
  | nil => simp [characters?, notHigh, notLow]
  | cons part rest =>
      cases part <;> simp [characters?, notHigh, notLow]

/-- The parts of a string stand for its characters. -/
theorem characters?_map_partOf (letters : List Char) :
    characters? (letters.map partOf) = some letters := by
  induction letters with
  | nil => rfl
  | cons letter letters ih =>
      rw [List.map_cons, partOf]
      split
      case isTrue unnamed =>
        rw [characters?_control unnamed.1, ih, Option.map_some, Char.ofNat_toNat]
      case isFalse => rw [characters?, ih, Option.map_some]

/-! ## Numbers -/

/-- What stands behind a number does not go on with it. -/
def Ends (rest : List Char) : Prop :=
  ∀ letter ∈ rest.head?, letter.isDigit = false ∧ letter ∉ ['.', 'e', 'E']

theorem isDigit_of_mem_toDigits {number : Nat} {letter : Char}
    (member : letter ∈ Nat.toDigits 10 number) : letter.isDigit = true :=
  Nat.isDigit_of_mem_toDigits (by decide) (by decide) member

/-- Only zero is written with a zero at its front. -/
theorem head?_toDigits_ne {number : Nat} (positive : 0 < number) :
    (Nat.toDigits 10 number).head? ≠ some '0' := by
  induction number using Nat.strongRecOn with
  | ind number ih =>
      rw [Nat.toDigits_eq_if (by decide)]
      split
      case isTrue small =>
        have digit : ∀ number < 10, 0 < number → some (Nat.digitChar number) ≠ some '0' := by decide
        exact digit number small positive
      case isFalse large =>
        have shorter := ih (number / 10) (by omega) (by omega)
        cases digits : Nat.toDigits 10 (number / 10) with
        | nil => exact absurd digits Nat.toDigits_ne_nil
        | cons first others =>
            rw [digits] at shorter
            exact shorter

theorem takeWhile_toDigits {rest : List Char} (ends : Ends rest) (number : Nat) :
    (Nat.toDigits 10 number ++ rest).takeWhile Char.isDigit = Nat.toDigits 10 number ∧
      (Nat.toDigits 10 number ++ rest).dropWhile Char.isDigit = rest := by
  have digits : ∀ letter ∈ Nat.toDigits 10 number, letter.isDigit = true :=
    fun _ => isDigit_of_mem_toDigits
  rw [List.takeWhile_append_of_pos digits, List.dropWhile_append_of_pos digits]
  cases rest with
  | nil => simp
  | cons letter rest =>
      have other := (ends letter rfl).1
      simp [other]

/-- A number is written without needless zeros. -/
theorem toDigits_sound (number : Nat) :
    ((Nat.toDigits 10 number).isEmpty ||
      (Nat.toDigits 10 number).head? == some '0' && decide (1 < (Nat.toDigits 10 number).length)) =
        false := by
  have nonempty : (Nat.toDigits 10 number).isEmpty = false := by
    simp [Nat.toDigits_ne_nil]
  rcases Nat.eq_zero_or_pos number with rfl | positive
  · rfl
  · simp [nonempty, head?_toDigits_ne positive]

/-- A number is read up to its last digit. -/
theorem readNumber_toDigits {rest : List Char} (ends : Ends rest) (negative : Bool)
    (number : Nat) :
    readNumber ((if negative then ['-'] else []) ++ (Nat.toDigits 10 number ++ rest)) =
      some (⟨negative, Nat.toDigits 10 number, [], none⟩, rest) := by
  rcases takeWhile_toDigits ends number with ⟨taken, dropped⟩
  have unsigned : ∀ after, Nat.toDigits 10 number ++ rest ≠ '-' :: after := by
    intro after same
    cases digits : Nat.toDigits 10 number with
    | nil => exact Nat.toDigits_ne_nil digits
    | cons first others =>
        have digit := isDigit_of_mem_toDigits (digits ▸ List.mem_cons_self)
        rw [digits, List.cons_append, List.cons.injEq] at same
        rw [same.1] at digit
        cases digit
  cases negative
  all_goals
    simp only [↓reduceIte, List.cons_append, List.nil_append, Bool.false_eq_true]
    rw [readNumber]
  case false.x_1 => exact unsigned
  -- What is left is the same with a sign and without one.
  all_goals
    simp only [taken, dropped, toDigits_sound]
    cases rest with
    | nil => rfl
    | cons letter after =>
        have other := (ends letter rfl).2
        simp only [List.mem_cons, List.not_mem_nil, or_false, not_or] at other
        rcases other with ⟨dot, lower, upper⟩
        simp [dot, lower, upper]

theorem readToken_number {first : Char} (numeric : first = '-' ∨ first.isDigit = true)
    (rest : List Char) :
    readToken (first :: rest) =
      (readNumber (first :: rest)).map fun (numeral, after) =>
        (.scalar (.number numeral), after) := by
  rw [readToken]
  · cases readNumber (first :: rest) <;> rfl
  all_goals
    intro _ same
    cases same
    revert numeric
    decide

theorem toList_toString (value : Int) :
    (toString value).toList =
      (if decide (value < 0) then ['-'] else []) ++ Nat.toDigits 10 value.natAbs := by
  rw [Int.toString_eq_repr]
  cases value with
  | ofNat size =>
      rw [Int.repr, Nat.repr_eq_ofList_toDigits, String.toList_ofList]
      rfl
  | negSucc size =>
      have sign : "-".toList = ['-'] := rfl
      have negative := decide_eq_true (Int.negSucc_lt_zero size)
      simp only [Int.repr, Nat.repr_eq_ofList_toDigits, String.toList_append,
        String.toList_ofList, sign, negative, ↓reduceIte]
      rfl

theorem numeric_of_mem_toString {value : Int} {letter : Char}
    (member : letter ∈ (toString value).toList) : letter = '-' ∨ letter.isDigit = true := by
  rw [toList_toString, List.mem_append] at member
  rcases member with sign | digit
  · left
    split at sign
    · exact List.mem_singleton.mp sign
    · cases sign
  · exact .inr (isDigit_of_mem_toDigits digit)

theorem isSpace_of_numeric {letter : Char} (numeric : letter = '-' ∨ letter.isDigit = true) :
    isSpace letter = false := by
  cases space : isSpace letter with
  | false => rfl
  | true =>
      simp only [isSpace, Bool.or_eq_true, decide_eq_true_eq] at space
      rcases space with ((rfl | rfl) | rfl) | rfl
      all_goals
        revert numeric
        decide

/-! ## Tokens -/

/-- A text is cut into tokens. -/
inductive Lexes : (letters : List Char) → (tokens : List Token) → Prop where
  | done {letters : List Char} (blank : letters.dropWhile isSpace = []) : Lexes letters []
  | step {letters rest : List Char} {token : Token} {tokens : List Token}
      (read : readToken (letters.dropWhile isSpace) = some (token, rest))
      (shorter : rest.length < letters.length) (later : Lexes rest tokens) :
      Lexes letters (token :: tokens)

namespace Lexes

variable {letters rest : List Char} {found : List Token}

theorem tokens_eq (lexes : Lexes letters found) {fuel : Nat} (enough : letters.length ≤ fuel) :
    ∃ placed, tokens fuel letters = some placed ∧ placed.map (·.1) = found := by
  induction lexes generalizing fuel with
  | @done letters blank =>
      cases fuel with
      | zero => exact ⟨[], rfl, rfl⟩
      | succ fuel => exact ⟨[], by simp only [tokens, blank], rfl⟩
  | @step letters rest token found read shorter later ih =>
      cases fuel with
      | zero => omega
      | succ fuel =>
          rcases ih (Nat.le_of_lt_succ (Nat.lt_of_lt_of_le shorter enough)) with
            ⟨placed, cut, same⟩
          refine ⟨(token, rest) :: placed, ?_, by rw [List.map_cons, same]⟩
          cases front : letters.dropWhile isSpace with
          | nil =>
              rw [front] at read
              cases read
          | cons letter after =>
              rw [front] at read
              simp [tokens, front, read, cut]

/-- Spaces before a token are passed over. -/
theorem spaces {blank : List Char} (spaces : ∀ letter ∈ blank, isSpace letter = true)
    (lexes : Lexes letters found) : Lexes (blank ++ letters) found := by
  have skipped : (blank ++ letters).dropWhile isSpace = letters.dropWhile isSpace :=
    List.dropWhile_append_of_pos spaces
  cases lexes with
  | done blank => exact .done (skipped.trans blank)
  | step read shorter later =>
      apply step _ _ later
      · rw [skipped]
        exact read
      · rw [List.length_append]
        omega

/-- A token that stands at the front. -/
theorem token {letter : Char} {after : List Char} {token : Token}
    (notSpace : isSpace letter = false)
    (read : readToken (letter :: after) = some (token, rest))
    (shorter : rest.length ≤ after.length) (later : Lexes rest found) :
    Lexes (letter :: after) (token :: found) := by
  apply step _ (Nat.lt_succ_of_le shorter) later
  rw [List.dropWhile_cons, notSpace]
  exact read

theorem string (value : String) (later : Lexes rest found) :
    Lexes ((escape value).toList ++ rest) (.scalar (.ofString value) :: found) := by
  have read := readString_escape value.toList rest
  have letters : (escape value).toList ++ rest =
      '"' :: (value.toList.flatMap escapeChar ++ '"' :: rest) := by
    rw [escape, String.toList_ofList]
    simp
  rw [letters]
  apply token rfl _ _ later
  · rw [readToken, read]
    rfl
  · rw [List.length_append, List.length_cons]
    omega

theorem number (value : Int) (ends : Ends rest) (later : Lexes rest found) :
    Lexes ((toString value).toList ++ rest) (.scalar (.number (.ofInt value)) :: found) := by
  have read := readNumber_toDigits ends (decide (value < 0)) value.natAbs
  rw [← List.append_assoc, ← toList_toString] at read
  cases letters : (toString value).toList with
  | nil =>
      rw [toList_toString, List.append_eq_nil_iff] at letters
      exact absurd letters.2 Nat.toDigits_ne_nil
  | cons first others =>
      have numeric := numeric_of_mem_toString (letters ▸ List.mem_cons_self)
      rw [letters, List.cons_append] at read
      rw [List.cons_append]
      apply token (isSpace_of_numeric numeric) _ _ later
      · rw [readToken_number numeric, read]
        rfl
      · rw [List.length_append]
        omega

theorem lineBreak (depth : Nat) (lexes : Lexes letters found) :
    Lexes ((lineBreak depth).toList ++ letters) found := by
  apply spaces _ lexes
  intro letter member
  simp only [Json.lineBreak, String.toList_append, String.toList_ofList, List.mem_append] at member
  rcases member with feed | indentation
  · rw [List.mem_singleton.mp feed]
    rfl
  · rw [(List.mem_replicate.mp indentation).2]
    rfl

end Lexes

/-! ## Values -/

/-- A text is cut into these tokens wherever it stands. -/
def Cuts (text : String) (piece : List Token) : Prop :=
  ∀ {rest : List Char} {found : List Token}, Ends rest → Lexes rest found →
    Lexes (text.toList ++ rest) (piece ++ found)

theorem ends_lineBreak (depth : Nat) (rest : List Char) :
    Ends ((lineBreak depth).toList ++ rest) := by
  rw [lineBreak, String.toList_append, List.append_assoc]
  rintro letter ⟨⟩
  decide

theorem cuts_intercalate {texts : List String} {pieces : List (List Token)}
    (each : List.Forall₂ Cuts texts pieces) (depth : Nat) :
    Cuts (String.intercalate "," (texts.map (lineBreak depth ++ ·)))
      (List.intercalate [.comma] pieces) := by
  intro rest found ends later
  rw [String.toList_intercalate]
  induction each with
  | nil => exact later
  | @cons text piece texts pieces cuts others ih =>
      cases others with
      | nil =>
          simp only [List.map_cons, List.map_nil, List.intercalate_singleton, String.toList_append,
            List.append_assoc]
          exact (cuts ends later).lineBreak depth
      | cons next others =>
          simp only [List.map_cons, List.intercalate_cons_cons, String.toList_append,
            List.append_assoc] at ih ⊢
          apply Lexes.lineBreak
          apply cuts
          · rintro letter ⟨⟩
            decide
          · exact .token rfl rfl (Nat.le_refl _) ih

/-- Items between brackets are cut into the tokens of the items between those of the brackets. -/
theorem cuts_bracketed {opening closing : String} {openToken closeToken : Token}
    (opens : ∀ {rest found}, Lexes rest found →
      Lexes (opening.toList ++ rest) (openToken :: found))
    (closes : ∀ {rest found}, Lexes rest found →
      Lexes (closing.toList ++ rest) (closeToken :: found))
    {texts : List String} {pieces : List (List Token)} (each : List.Forall₂ Cuts texts pieces)
    (depth : Nat) :
    Cuts (bracketed opening closing depth texts)
      (openToken :: List.intercalate [.comma] pieces ++ [closeToken]) := by
  intro rest found ends later
  have closed := closes later
  rw [bracketed, List.append_assoc, List.cons_append]
  split
  case isTrue none =>
    obtain rfl := List.isEmpty_iff.mp none
    cases each
    rw [String.toList_append, List.append_assoc]
    exact opens closed
  case isFalse =>
    simp only [String.toList_append, List.append_assoc]
    apply opens
    apply cuts_intercalate each (depth + 1) (ends_lineBreak depth _)
    exact closed.lineBreak depth

mutual

/-- A value that was written is cut into its tokens. -/
theorem Value.cuts_render (depth : Nat) (value : Value) :
    Cuts (value.render depth) value.tokens := by
  cases value with
  | null =>
      intro rest found _ later
      rw [Value.render, Value.tokens]
      exact .token rfl rfl (Nat.le_add_right _ 3) later
  | number value =>
      intro rest found ends later
      rw [Value.render, Value.tokens]
      exact .number value ends later
  | string value =>
      intro rest found _ later
      rw [Value.render, Value.tokens]
      exact .string value later
  | array items =>
      rw [Value.render, Value.tokens]
      exact cuts_bracketed (.token rfl rfl (Nat.le_refl _)) (.token rfl rfl (Nat.le_refl _))
        (cuts_renderItems (depth + 1) items) depth
  | object fields =>
      rw [Value.render, Value.tokens]
      exact cuts_bracketed (.token rfl rfl (Nat.le_refl _)) (.token rfl rfl (Nat.le_refl _))
        (cuts_renderFields (depth + 1) fields) depth

theorem cuts_renderItems (depth : Nat) (items : List Value) :
    List.Forall₂ Cuts (renderItems depth items) (itemTokens items) := by
  cases items with
  | nil => exact .nil
  | cons item rest => exact .cons (item.cuts_render depth) (cuts_renderItems depth rest)

theorem cuts_renderFields (depth : Nat) (fields : List (String × Value)) :
    List.Forall₂ Cuts (renderFields depth fields) (fieldTokens fields) := by
  cases fields with
  | nil => exact .nil
  | cons field rest =>
      rcases field with ⟨name, value⟩
      refine .cons ?_ (cuts_renderFields depth rest)
      intro after found ends later
      simp only [String.toList_append, List.append_assoc]
      apply Lexes.string
      have own := value.cuts_render depth ends later
      have blank : ∀ letter ∈ [' '], isSpace letter = true := List.forall_mem_singleton.mpr rfl
      exact .token rfl rfl (Nat.le_refl _) (.spaces blank own)

end

/-- A text that was written is cut into the tokens of its value, and into no others. -/
theorem Value.tokens_text (value : Value) :
    ∃ placed, Json.tokens value.text.toList.length value.text.toList = some placed ∧
      placed.map (·.1) = value.tokens := by
  have ends : Ends [] := nofun
  have lexes := value.cuts_render 0 ends (.done rfl)
  rw [List.append_nil, List.append_nil] at lexes
  exact lexes.tokens_eq (Nat.le_refl _)

end GuestImage.Json
