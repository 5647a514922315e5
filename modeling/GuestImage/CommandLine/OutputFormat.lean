import GuestImage.NameTable

/-!
# Output formats

The forms in which a listing is printed.
-/

namespace GuestImage

/-- The form of a listing. -/
inductive OutputFormat where
  | table
  | json
  deriving DecidableEq, Repr

namespace OutputFormat

/-- Every format, in the order of the ordinals. -/
def all : List OutputFormat :=
  [table, json]

/-- The name that a user gives. -/
def name : OutputFormat → String
  | table => "table"
  | json => "json"

def ordinal : OutputFormat → Nat
  | table => 0
  | json => 1

/-- The table of formats. -/
def names : NameTable OutputFormat where
  typeName := "OutputFormat"
  variants := all
  name := name
  ordinal := ordinal

end OutputFormat

end GuestImage
