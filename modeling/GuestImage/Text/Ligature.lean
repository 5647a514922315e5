import GuestImage.Text.CharWidth

/-!
# Ligatures

In some scripts a letter and one that follows it are shown as one sign, which takes the columns of
one letter. The columns of a text are found from its end, so `Ligature` names the letters that a
letter before them may merge with, and `Ligature.extend?` says what a character before them makes
of them. `VowelSign` does the same for the vowel signs of Kirat Rai, of which several may be one.
-/

namespace GuestImage.Text

/-- The lams of the Arabic script. -/
def lamRanges : CodeRanges :=
  [(0x644, 0x644), (0x6B5, 0x6B8), (0x76A, 0x76A), (0x8A6, 0x8A6), (0x8C7, 0x8C7)]

/-- The alefs of the Arabic script. -/
def alefRanges : CodeRanges :=
  [(0x622, 0x623), (0x625, 0x625), (0x627, 0x627), (0x671, 0x673), (0x675, 0x675),
    (0x773, 0x774), (0x870, 0x882)]

/-- The code points without a column that interrupt the joining of Arabic letters. -/
def interruptingRanges : CodeRanges :=
  [(0x605, 0x605), (0x890, 0x891), (0x8E2, 0x8E2), (0x9BE, 0x9BE), (0x9D7, 0x9D7),
    (0xB3E, 0xB3E), (0xB57, 0xB57), (0xBBE, 0xBBE), (0xBD7, 0xBD7), (0xCC0, 0xCC0),
    (0xCC2, 0xCC2), (0xCC7, 0xCC8), (0xCCA, 0xCCB), (0xCD5, 0xCD6), (0xD3E, 0xD3E),
    (0xD4E, 0xD4E), (0xD57, 0xD57), (0xDCF, 0xDCF), (0xDDF, 0xDDF), (0x1160, 0x11FF),
    (0x1715, 0x1715), (0x1734, 0x1734), (0x180E, 0x180E), (0x1B35, 0x1B35), (0x1B3B, 0x1B3B),
    (0x1B3D, 0x1B3D), (0x1B43, 0x1B44), (0x1BAA, 0x1BAA), (0x1BF2, 0x1BF3), (0x200C, 0x200D),
    (0x2065, 0x2069), (0x302E, 0x302F), (0x3164, 0x3164), (0xA8FA, 0xA8FA), (0xA953, 0xA953),
    (0xA9C0, 0xA9C0), (0xD7B0, 0xD7C6), (0xD7CB, 0xD7FB), (0xFFA0, 0xFFA0), (0xFFF0, 0xFFF8),
    (0x111C0, 0x111C0), (0x111C2, 0x111C3), (0x11235, 0x11235), (0x1133E, 0x1133E),
    (0x1134D, 0x1134D), (0x11357, 0x11357), (0x113B8, 0x113B8), (0x113C2, 0x113C2),
    (0x113C5, 0x113C5), (0x113C7, 0x113C9), (0x113CF, 0x113CF), (0x113D1, 0x113D1),
    (0x114B0, 0x114B0), (0x114BD, 0x114BD), (0x115AF, 0x115AF), (0x116B6, 0x116B6),
    (0x11930, 0x11930), (0x1193D, 0x1193D), (0x1193F, 0x1193F), (0x11941, 0x11941),
    (0x11A84, 0x11A89), (0x11D46, 0x11D46), (0x11F02, 0x11F02), (0x11F41, 0x11F41),
    (0x16FF0, 0x16FF1), (0x1D165, 0x1D166), (0x1D16D, 0x1D172), (0xE0000, 0xE0000),
    (0xE0002, 0xE001F), (0xE0080, 0xE00FF), (0xE01F0, 0xE0FFF)]

/-- The Khmer letters that are written below the line after the sign U+17D2. -/
def subscriptRanges : CodeRanges :=
  [(0x1780, 0x1782), (0x1784, 0x1787), (0x1789, 0x178C), (0x178E, 0x1793), (0x1795, 0x1798),
    (0x179B, 0x179D), (0x17A0, 0x17A0), (0x17A2, 0x17A2), (0x17A7, 0x17A7), (0x17AB, 0x17AC),
    (0x17AF, 0x17AF)]

/-- The consonants of the Tifinagh script. -/
def tifinaghRanges : CodeRanges :=
  [(0x2D31, 0x2D65), (0x2D6F, 0x2D6F)]

/-- The code points that may stand between the parts of a ligature of a script other than Arabic. -/
def transparentRanges : CodeRanges :=
  [(0x34F, 0x34F), (0x17B4, 0x17B5), (0x180B, 0x180D), (0x180F, 0x180F), (0x200D, 0x200D),
    (0xFE00, 0xFE0F), (0xE0100, 0xE01EF)]

/-- The letters that one before them may merge with. Where a joiner has to stand between the two,
`joined` says whether it has been seen. -/
inductive Ligature where
  /-- An Arabic alef, which merges with a lam. -/
  | alef
  /-- A Hebrew lamed, which merges with an alef before a joiner. -/
  | lamed (joined : Bool)
  /-- A Khmer letter that may be written below the line. -/
  | subscript
  /-- A Buginese ya, which merges with the vowel sign before a joiner. -/
  | buginese (joined : Bool)
  /-- A Buginese ya with its vowel sign, which merges with the letter before. -/
  | bugineseVowel
  /-- A Tifinagh consonant, which merges with one before a joiner of either kind. -/
  | tifinagh (joined : Bool)
  /-- A Tifinagh consonant with the joiner of the script. -/
  | tifinaghJoined
  /-- A second tone letter of Lisu, which merges with a first one. -/
  | lisuTone
  /-- An Old Turkic letter, which merges with another before a joiner. -/
  | oldTurkic (joined : Bool)
  deriving DecidableEq, Repr

namespace Ligature

/-- The ligature that a letter may be the end of. -/
def ofChar? (letter : Char) : Option Ligature :=
  if alefRanges.contains letter then some .alef
  else if letter = '\u05dc' then some (.lamed false)
  else if subscriptRanges.contains letter then some .subscript
  else if letter = '\u1a10' then some (.buginese false)
  else if tifinaghRanges.contains letter then some (.tifinagh false)
  else if letter = '\ua4fc' || letter = '\ua4fd' then some .lisuTone
  else if letter.toNat = 0x10C03 then some (.oldTurkic false)
  else none

/-- The ligature after a joiner has been seen before it. -/
def join : Ligature → Ligature
  | .lamed _ => .lamed true
  | .buginese _ => .buginese true
  | .tifinagh _ => .tifinagh true
  | .oldTurkic _ => .oldTurkic true
  | ligature => ligature

/-- The ligature with a character before it that does not end the wait for the other part. -/
def pass? (ligature : Ligature) (letter : Char) : Option Ligature :=
  match ligature with
  | .alef =>
      if charWidth letter = 0 && !interruptingRanges.contains letter then some .alef else none
  | ligature =>
      if letter = '\u200d' then some ligature.join
      else if transparentRanges.contains letter then some ligature
      else none

/-- The columns of the sign that a letter makes together with the ligature, if the two merge, and
the ligature that the sign may be the end of. -/
def merge? (ligature : Ligature) (letter : Char) : Option (Nat × Option Ligature) :=
  match ligature with
  | .alef => if lamRanges.contains letter then some (1, none) else none
  | .lamed joined => if joined && letter = '\u05d0' then some (1, none) else none
  | .subscript => if letter = '\u17d2' then some (0, none) else none
  | .buginese joined =>
      if joined && letter = '\u1a17' then some (1, some .bugineseVowel) else none
  | .bugineseVowel => if letter = '\u1a15' then some (1, none) else none
  | .tifinagh joined =>
      if letter = '\u2d7f' then some (2, some .tifinaghJoined)
      else if joined && tifinaghRanges.contains letter then some (1, none)
      else none
  | .tifinaghJoined => if tifinaghRanges.contains letter then some (1, none) else none
  | .lisuTone => if 0xA4F8 ≤ letter.toNat && letter.toNat ≤ 0xA4FB then some (1, none) else none
  | .oldTurkic joined => if joined && letter.toNat = 0x10C32 then some (1, none) else none

/-- The columns that a character and the ligature behind it take, if the two belong together, given
the columns of the ligature, and the ligature that both may be the end of. -/
def extend? (columns : Nat) (ligature : Ligature) (letter : Char) :
    Option (Nat × Option Ligature) :=
  match ligature.pass? letter with
  | some passed => some (columns, some passed)
  | none => ligature.merge? letter

end Ligature

/-- The vowel signs of Kirat Rai that one before them may merge with. -/
inductive VowelSign where
  | e
  | ai
  deriving DecidableEq, Repr

namespace VowelSign

/-- The vowel sign that a character is. -/
def ofChar? (letter : Char) : Option VowelSign :=
  if letter.toNat = 0x16D67 then some .e
  else if letter.toNat = 0x16D68 then some .ai
  else none

/-- The columns that a vowel sign and the one behind it take, if the two belong together, given the
columns of the one behind, and the sign that both may be the end of. -/
def extend? (columns : Nat) (sign : VowelSign) (letter : Char) :
    Option (Nat × Option VowelSign) :=
  match sign with
  | .e =>
      if letter.toNat = 0x16D67 then some (columns, some .ai)
      else if letter.toNat = 0x16D68 then some (columns + 1, some .e)
      else if letter.toNat = 0x16D63 || letter.toNat = 0x16D69 then some (columns, none)
      else none
  | .ai => if letter.toNat = 0x16D63 then some (columns, none) else none

end VowelSign

end GuestImage.Text
