import GuestImage.NameTable

/-!
# Log levels

How much a program reports about its own work.
-/

namespace GuestImage

/-- How much is logged, from most to least. -/
inductive LogLevel where
  | debug
  | info
  | warn
  | error
  deriving DecidableEq, Repr

namespace LogLevel

/-- Every level, in the order of the ordinals. -/
def all : List LogLevel :=
  [debug, info, warn, error]

/-- The name that settings use. -/
def name : LogLevel → String
  | debug => "debug"
  | info => "info"
  | warn => "warn"
  | error => "error"

def ordinal : LogLevel → Nat
  | debug => 0
  | info => 1
  | warn => 2
  | error => 3

/-- The table of levels. -/
def table : NameTable LogLevel where
  typeName := "LogLevel"
  variants := all
  name := name
  ordinal := ordinal

/-- The name that the lines of a log show. -/
def label : LogLevel → String
  | debug => "DEBUG"
  | info => "INFO"
  | warn => "WARN"
  | error => "ERROR"

end LogLevel

end GuestImage
