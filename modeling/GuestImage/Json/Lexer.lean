import GuestImage.Text.Encoding

/-!
# Tokens of a JSON text

A JSON text is cut into brackets, separators and scalars. A scalar is kept as it is spelled, because
a text may be well formed although it spells a value that does not exist. Every reader returns what
it read with the rest of the text, or nothing if the text is ill-formed there.
-/

namespace GuestImage.Json

/-- One part of a string: a character, or a code unit given by its number. -/
inductive StringPart where
  | character (letter : Char)
  | codeUnit (code : Nat)
  deriving DecidableEq, Repr

/-- The power of ten that a number is multiplied by. -/
structure Exponent where
  negative : Bool
  digits : List Char
  deriving DecidableEq, Repr

/-- A number, by its digits before and after the point. -/
structure Numeral where
  negative : Bool
  whole : List Char
  fraction : List Char
  exponent? : Option Exponent
  deriving DecidableEq, Repr

/-- How a value that is not made of other values is spelled. -/
inductive Spelling where
  | null
  | boolean (value : Bool)
  | number (numeral : Numeral)
  | string (parts : List StringPart)
  deriving DecidableEq, Repr

inductive Token where
  | scalar (spelling : Spelling)
  | openArray
  | closeArray
  | openObject
  | closeObject
  | comma
  | colon
  deriving DecidableEq, Repr

/-! ## Strings -/

/-- The character that a letter after a backslash stands for. -/
def unescape? : Char → Option Char
  | '"' => some '"'
  | '\\' => some '\\'
  | '/' => some '/'
  | 'b' => some '\x08'
  | 'f' => some '\x0c'
  | 'n' => some '\n'
  | 'r' => some '\r'
  | 't' => some '\t'
  | _ => none

/-- Put one more part in front of a string that was read. -/
def consed (part : StringPart) (read : Option (List StringPart × List Char)) :
    Option (List StringPart × List Char) :=
  read.map fun (parts, rest) => (part :: parts, rest)

/-- Read a string after its opening quote. -/
def readString : (letters : List Char) → Option (List StringPart × List Char)
  | [] => none
  | '"' :: rest => some ([], rest)
  | '\\' :: 'u' :: a :: b :: c :: d :: rest =>
      match Text.hexNumber? [a, b, c, d] with
      | some code => consed (.codeUnit code) (readString rest)
      | none => none
  | '\\' :: letter :: rest =>
      match unescape? letter with
      | some unescaped => consed (.character unescaped) (readString rest)
      | none => none
  | letter :: rest =>
      if letter.toNat < 0x20 then none else consed (.character letter) (readString rest)

/-! ## Numbers -/

/-- Read an exponent after its letter. -/
def readExponent (letters : List Char) : Option (Exponent × List Char) :=
  let (negative, letters) :=
    match letters with
    | '-' :: rest => (true, rest)
    | '+' :: rest => (false, rest)
    | _ => (false, letters)
  match letters.takeWhile Char.isDigit with
  | [] => none
  | digits => some (⟨negative, digits⟩, letters.dropWhile Char.isDigit)

/-- Read a number. -/
def readNumber (letters : List Char) : Option (Numeral × List Char) := do
  let (negative, letters) :=
    match letters with
    | '-' :: rest => (true, rest)
    | _ => (false, letters)
  let whole := letters.takeWhile Char.isDigit
  let afterWhole := letters.dropWhile Char.isDigit
  if whole.isEmpty || (whole.head? == some '0' && 1 < whole.length) then none
  let (fraction, afterFraction) ←
    match afterWhole with
    | '.' :: rest =>
        match rest.takeWhile Char.isDigit with
        | [] => none
        | digits => some (digits, rest.dropWhile Char.isDigit)
    | _ => some ([], afterWhole)
  let (exponent?, rest) ←
    match afterFraction with
    | letter :: rest =>
        if letter = 'e' || letter = 'E' then
          (readExponent rest).map fun (exponent, rest) => (some exponent, rest)
        else some (none, letter :: rest)
    | [] => some (none, [])
  return (⟨negative, whole, fraction, exponent?⟩, rest)

/-! ## Tokens -/

def isSpace (letter : Char) : Bool :=
  letter = ' ' || letter = '\n' || letter = '\t' || letter = '\r'

/-- Read one token, standing on its first character. -/
def readToken : (letters : List Char) → Option (Token × List Char)
  | '[' :: rest => some (.openArray, rest)
  | ']' :: rest => some (.closeArray, rest)
  | '\x7b' :: rest => some (.openObject, rest)
  | '\x7d' :: rest => some (.closeObject, rest)
  | ',' :: rest => some (.comma, rest)
  | ':' :: rest => some (.colon, rest)
  | 'n' :: 'u' :: 'l' :: 'l' :: rest => some (.scalar .null, rest)
  | 't' :: 'r' :: 'u' :: 'e' :: rest => some (.scalar (.boolean true), rest)
  | 'f' :: 'a' :: 'l' :: 's' :: 'e' :: rest => some (.scalar (.boolean false), rest)
  | '"' :: rest => do
      let (parts, rest) ← readString rest
      return (.scalar (.string parts), rest)
  | letters => do
      let (numeral, rest) ← readNumber letters
      return (.scalar (.number numeral), rest)

/-- The tokens of a text, each with the text that follows it. A token takes at least one character,
so as many steps as there are characters suffice. -/
def tokens : (fuel : Nat) → (letters : List Char) → Option (List (Token × List Char))
  | 0, _ => some []
  | fuel + 1, letters =>
      match letters.dropWhile isSpace with
      | [] => some []
      | letter :: rest => do
          let (token, rest) ← readToken (letter :: rest)
          return (token, rest) :: (← tokens fuel rest)

end GuestImage.Json
