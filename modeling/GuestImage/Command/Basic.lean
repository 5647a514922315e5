import GuestImage.Command.Kind
import GuestImage.Text.Encoding

/-!
# Commands

One command of a recipe: its kind, its argument, a fingerprint of both, and the line it starts on.
The fingerprint is the base-31 polynomial of the kind's ordinal followed by the argument's 16-bit
units, kept in 32 bits by wraparound.
-/

namespace GuestImage

namespace Command

/-- One step of the polynomial: `31 * hash + unit`, modulo `2 ^ 32`. -/
def mix (hash : UInt32) (unit : UInt16) : UInt32 :=
  31 * hash + unit.toUInt32

/-- The polynomial as a 32-bit word: the ordinal is shifted once, then every unit is mixed in. -/
def fingerprintWord (kind : CommandKind) (value : String) : UInt32 :=
  (Text.units value).foldl mix (31 * kind.ordinal.toUInt32)

/-- The polynomial read as a signed number. -/
def fingerprintOf (kind : CommandKind) (value : String) : Int32 :=
  (fingerprintWord kind value).toInt32

end Command

/-- One command of a recipe. -/
structure Command where
  kind : CommandKind
  /-- The argument, without the blanks around it. -/
  value : String
  fingerprint : Int32
  /-- The 1-based line of the command's token. -/
  line : Nat
  deriving DecidableEq, Repr

namespace Command

/-- The command of this kind and argument, with its fingerprint. -/
def of (kind : CommandKind) (value : String) (line : Nat) : Command where
  kind := kind
  value := value
  fingerprint := fingerprintOf kind value
  line := line

/-- The command on one line, as it is echoed to the user. -/
def text (command : Command) : String :=
  command.kind.keyword ++ " " ++ command.value

@[simp] theorem kind_of (kind : CommandKind) (value : String) (line : Nat) :
    (of kind value line).kind = kind := rfl

@[simp] theorem value_of (kind : CommandKind) (value : String) (line : Nat) :
    (of kind value line).value = value := rfl

@[simp] theorem line_of (kind : CommandKind) (value : String) (line : Nat) :
    (of kind value line).line = line := rfl

@[simp] theorem fingerprint_of (kind : CommandKind) (value : String) (line : Nat) :
    (of kind value line).fingerprint = fingerprintOf kind value := rfl

end Command

end GuestImage
