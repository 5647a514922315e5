/-!
# Paths

Paths are texts with slashes between their components. Joining does not simplify: dots and repeated
slashes stay as they are. A path that the system hands over need not be text.
-/

namespace GuestImage

namespace Path

/-- Whether a path starts at the root. -/
def isAbsolute (path : String) : Bool :=
  path.toList.head? == some '/'

/-- One path below another. An absolute part replaces the base, and an empty base adds nothing. Else
exactly one slash joins them where the base does not end in one, so that an empty part leaves a
slash at the end. -/
def join (base part : String) : String :=
  if isAbsolute part || base.isEmpty then part
  else if base.toList.getLast? == some '/' then base ++ part
  else base ++ "/" ++ part

/-- The components of a path, with the empty ones that leading, trailing and repeated slashes
make. -/
def components : (letters : List Char) → List (List Char)
  | [] => [[]]
  | letter :: rest =>
      if letter = '/' then [] :: components rest
      else
        match components rest with
        | [] => [[letter]]
        | first :: others => (letter :: first) :: others

end Path

/-- A path as the system has it. Bytes that are no text have a mark where the path is shown. -/
structure SystemPath where
  shown : String
  isText : Bool
  marked : isText = false → '\ufffd' ∈ shown.toList
  deriving DecidableEq, Repr

namespace SystemPath

/-- A text as a path. -/
def ofString (text : String) : SystemPath :=
  ⟨text, true, nofun⟩

/-- One path below another. -/
def join (base : SystemPath) (part : String) : SystemPath where
  shown := Path.join base.shown part
  isText := base.isText || Path.isAbsolute part
  marked := by
    intro neither
    rw [Bool.or_eq_false_iff] at neither
    have mark := base.marked neither.1
    rw [Path.join]
    split
    case isTrue replaced =>
      rw [neither.2, Bool.false_or, String.isEmpty_iff] at replaced
      rw [replaced] at mark
      cases mark
    case isFalse =>
      split <;> simp [mark]

/-- A path is written as it is shown. -/
instance : CoeOut SystemPath String := ⟨shown⟩

/-- Where texts are at hand they are the paths. -/
instance : CoeOut (Option String) (Option SystemPath) := ⟨Option.map ofString⟩

end SystemPath

end GuestImage
