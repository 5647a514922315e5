import GuestImage.NameTable

/-!
# Decoding errors

What can go wrong when a document (settings, or the text form of a variant) is turned into data.
A document that cannot be read at all is malformed; one that can, but holds something else than was
expected, is reported with what was found, what was expected and where. A fault may be found before
the rest of the document has been looked at, and that rest may be unsound by itself.
-/

namespace GuestImage.Decode

/-- A place in a document: a 1-based line and a column. -/
structure Position where
  line : Nat
  column : Nat
  deriving DecidableEq, Repr

def Position.text (position : Position) : String :=
  s!"line {position.line} column {position.column}"

/-- A value of a document that did not fit. -/
inductive Mismatch where
  /-- The value has another type. -/
  | wrongType (found expected : String)
  /-- The value has the right type and is out of bounds. -/
  | wrongValue (found expected : String)
  /-- A field is given twice. -/
  | duplicateField (name : String)
  | unknownName (unknown : UnknownName)
  deriving DecidableEq, Repr

def Mismatch.message : Mismatch → String
  | wrongType found expected => s!"invalid type: {found}, expected {expected}"
  | wrongValue found expected => s!"invalid value: {found}, expected {expected}"
  | duplicateField name => s!"duplicate field \x60{name}\x60"
  | unknownName unknown => unknown.message

/-- Why a document is not the data that was expected. -/
inductive Error where
  /-- The document cannot be read at all. -/
  | malformed
  /-- A value does not fit. `field?` is the field that holds it, `position?` where it starts. -/
  | mismatch (cause : Mismatch) (field? : Option String) (position? : Option Position)
  /-- There is more than one document. -/
  | severalDocuments
  /-- Another reader's own words. -/
  | reported (message : String)
  /-- An error in a document that would not be sound without it either. -/
  | unsound (cause : Error)
  deriving DecidableEq, Repr

namespace Error

def message : Error → String
  | malformed => "the document is not well formed"
  | mismatch cause field? position? =>
      let field := (field?.map (· ++ ": ")).getD ""
      let position := (position?.map (" at " ++ ·.text)).getD ""
      field ++ cause.message ++ position
  | severalDocuments =>
      "deserializing from YAML containing more than one document is not supported"
  | reported message => message
  | unsound cause => cause.message

/-- Whether an error is about a document that is sound as a whole. -/
def isSound : Error → Bool
  | malformed | unsound _ => false
  | mismatch .. | severalDocuments | reported _ => true

end Error

end GuestImage.Decode
