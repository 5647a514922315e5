import GuestImage.Text.Encoding
import Std.Time.Date.PlainDate

/-!
# Stamps

A build carries a number that no other build has, and the times at which it started and finished.
-/

namespace GuestImage.CommandLine

/-- What makes one build different from the next: its number and its times. -/
structure Stamp where
  buildId : String
  startedAt : String
  finishedAt : String
  deriving DecidableEq, Repr

namespace Stamp

/-- The sizes of the groups of bytes in a build number. -/
def groupSizes : List Nat := [4, 2, 2, 2, 6]

/-- Cut a list into consecutive groups of the given sizes. -/
def groups {α : Type} : (sizes : List Nat) → (values : List α) → List (List α)
  | [], _ => []
  | size :: rest, values => values.take size :: groups rest (values.drop size)

/-- A build number from sixteen random bytes. Six of the bits tell that the number is random. -/
def buildIdOf (bytes : List UInt8) : String :=
  let marked := (bytes.modify 6 fun byte => byte &&& 0x0F ||| 0x40).modify 8
    fun byte => byte &&& 0x3F ||| 0x80
  String.intercalate "-" ((groups groupSizes marked).map Text.hex)

/-- A number with zeros before it up to the given length. -/
def padded (length : Nat) (value : Nat) : String :=
  let digits := toString value
  String.ofList (List.replicate (length - digits.length) '0') ++ digits

/-- The part of a second, written with as few groups of three digits as show it exactly. -/
def fractionText (nanoseconds : Nat) : String :=
  if nanoseconds = 0 then ""
  else if nanoseconds % 1000000 = 0 then "." ++ padded 3 (nanoseconds / 1000000)
  else if nanoseconds % 1000 = 0 then "." ++ padded 6 (nanoseconds / 1000)
  else "." ++ padded 9 nanoseconds

/-- A moment that lies the given number of nanoseconds after the start of 1970, as a date and a time
of day in universal time. -/
def timeText (nanoseconds : Nat) : String :=
  let seconds := nanoseconds / 1000000000
  let date := Std.Time.PlainDate.ofEpochDay (.ofNat (seconds / 86400))
  let day := s!"{padded 4 date.year.toInt.toNat}-{padded 2 date.month.toNat}-" ++
    padded 2 date.day.toNat
  let time := s!"{padded 2 (seconds / 3600 % 24)}:{padded 2 (seconds / 60 % 60)}:" ++
    padded 2 (seconds % 60)
  s!"{day}T{time}{fractionText (nanoseconds % 1000000000)}Z"

end Stamp

end GuestImage.CommandLine
