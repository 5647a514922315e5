import GuestImage.Text.Extending
import GuestImage.Text.Hidden

/-!
# Excerpts and quotations

How a text is fitted into one line. In a listing line breaks are made visible, and what is too long
is cut and marked. In an error message a text stands between double quotes: quotes, backslashes and
the common control characters are escaped by a letter, and other characters that would not show by
themselves are given by their code points.
-/

namespace GuestImage.Text

/-- What stands for the part of a text that was cut off. -/
def cutMark : String := "..."

/-- A text of at most `limit` characters as it is, and a longer one cut so that it has `limit`
characters together with its mark. A limit below the length of the mark leaves the mark alone. -/
def truncate (text : String) (limit : Nat) : String :=
  if text.length ≤ limit then text
  else String.ofList (text.toList.take (limit - cutMark.length)) ++ cutMark

/-- A text in which carriage returns are written as two visible characters. -/
def singleLine (text : String) : String :=
  String.ofList (text.toList.flatMap fun letter =>
    if letter = '\r' then ['\\', 'r'] else [letter])

/-! ## Quotations -/

/-- A number in hexadecimal, without leading zeros. -/
def hexNumber (value : Nat) : List Char :=
  Nat.toDigits 16 value

/-- One character of a quoted text. -/
def quoteChar (letter : Char) : List Char :=
  if letter = '"' then ['\\', '"']
  else if letter = '\\' then ['\\', '\\']
  else if letter = '\t' then ['\\', 't']
  else if letter = '\r' then ['\\', 'r']
  else if letter = '\n' then ['\\', 'n']
  else if letter = '\x00' then ['\\', '0']
  else if isHidden letter || isExtending letter then
    ['\\', 'u', '\x7b'] ++ hexNumber letter.toNat ++ ['\x7d']
  else [letter]

/-- A text between double quotes. -/
def quote (text : String) : String :=
  String.ofList ('"' :: text.toList.flatMap quoteChar ++ ['"'])

end GuestImage.Text
