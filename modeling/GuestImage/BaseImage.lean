import GuestImage.Text.CodeRange

/-!
# Base images

A base image is named by a distribution and a release, as in `ubuntu:20.04`. The release stands
after the last colon that no slash follows, so a colon in the name of a registry host is not
mistaken for it; without a release the latest one is meant.
-/

namespace GuestImage

/-- The image that a build starts from. -/
structure BaseImage where
  distribution : String
  release : String
  deriving DecidableEq, Repr

namespace BaseImage

/-- The image on one line. -/
def text (image : BaseImage) : String :=
  image.distribution ++ ":" ++ image.release

/-- What is wrong with the name of an image. -/
inductive Flaw where
  | empty
  | severalWords
  | noDistribution
  | noRelease
  deriving DecidableEq, Repr

def Flaw.message : Flaw → String
  | empty => "empty origin"
  | severalWords => "origin must be a single word"
  | noDistribution => "missing distribution name"
  | noRelease => "missing release after ':'"

/-- A name that is no image: the trimmed name and what is wrong with it. -/
structure Rejection where
  value : String
  flaw : Flaw
  deriving DecidableEq, Repr

/-- The release that is meant where none is given. -/
def defaultRelease : String := "latest"

/-- Whether a character may stand in a release. -/
def isReleaseChar (letter : Char) : Bool :=
  letter != ':' && letter != '/'

/-- Split a name at the last colon that no slash follows. -/
def splitRelease (name : List Char) : List Char × Option (List Char) :=
  match name.reverse.dropWhile isReleaseChar with
  | ':' :: rest => (rest.reverse, some (name.reverse.takeWhile isReleaseChar).reverse)
  | _ => (name, none)

/-- What is wrong with a trimmed name, in the order in which it is reported. -/
def flaw? (name : List Char) : Option Flaw :=
  let (distribution, release?) := splitRelease name
  if name.isEmpty then some .empty
  else if name.any Text.isBlank then some .severalWords
  else if distribution.isEmpty || distribution.getLast? == some '/' then some .noDistribution
  else if release? == some [] then some .noRelease
  else none

/-- The image that a name stands for. -/
def parse (name : String) : Except Rejection BaseImage :=
  let trimmed := Text.trimList name.toList
  match flaw? trimmed with
  | some flaw => .error ⟨String.ofList trimmed, flaw⟩
  | none =>
      let (distribution, release?) := splitRelease trimmed
      .ok ⟨String.ofList distribution, (release?.map String.ofList).getD defaultRelease⟩

end BaseImage

end GuestImage
