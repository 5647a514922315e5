import GuestImage.Settings.Basic
import GuestImage.Yaml.Canonical

/-!
# Reading settings

A settings file is a YAML mapping. Its entries are read in order; each known key gives one field,
and unknown keys are passed over. The first entry that does not fit is reported, with the field and
the place, and the error says whether the rest of the text is sound.
-/

namespace GuestImage.Settings

open Yaml (Node Datum Mark)

/-- A place as it is reported. The very start of a document goes without saying. -/
def position? (mark : Mark) : Option Decode.Position :=
  if mark.line = 0 && mark.column = 0 then none else some ⟨mark.line + 1, mark.column + 1⟩

/-- The error for a node of another type. A scalar whose text does not fit its own tag is reported
for that. -/
def wrongType (field? : Option String) (expected : String) (node : Node) : Decode.Error :=
  let position? := position? node.mark
  let mismatch (found : String) : Decode.Error :=
    .mismatch (.wrongType found expected) field? position?
  match node with
  | .reference .. => .malformed
  | .sequence .. => mismatch "sequence"
  | .mapping .. => mismatch "map"
  | .scalar properties style text =>
      match Datum.ofScalar properties.tag? style text with
      | .ok datum => mismatch datum.found
      | .error type =>
          .mismatch (.wrongValue (Datum.string text).found type.expected) field? position?

/-- The text of a node, which may be any scalar. -/
def textFrom (field? : Option String) (expected : String) (node : Node) :
    Except Decode.Error String :=
  match node with
  | .scalar _ _ text => .ok text
  | _ => .error (wrongType field? expected node)

/-- Whether a scalar may be an integer: a plain one, or a literal one that says so. -/
def mayBeInteger (properties : Yaml.Properties) (style : Yaml.Style) : Bool :=
  style = .plain ||
    (style = .literal && properties.tag?.bind Datum.CoreType.ofTag? = some .integer)

/-- The size that a node gives, which 32 bits must hold. -/
def sizeFrom (field? : Option String) (node : Node) : Except Decode.Error Nat :=
  let expected := "u32"
  match node with
  | .scalar properties style text =>
      let size? : Option Nat :=
        if mayBeInteger properties style then Datum.natural? text.toList else none
      match size?.filter (· < UInt64.size) with
      | some size =>
          if size < UInt32.size then .ok size
          else
            .error (.mismatch (.wrongValue (Datum.integer size).found expected) field?
              (position? node.mark))
      | none => .error (wrongType field? expected node)
  | _ => .error (wrongType field? expected node)

/-- The level that a node names. The name is looked up after the place is forgotten, so it is
reported for the whole mapping. -/
def levelFrom (field? : Option String) (mapping : Mark) (node : Node) :
    Except Decode.Error LogLevel := do
  let name ← textFrom field? "a string" node
  match LogLevel.table.parse name with
  | .ok level => return level
  | .error unknown => throw (.mismatch (.unknownName unknown) none (position? mapping))

/-- What a path is called where something else stands. -/
def pathText : String := "path string"

/-- Set one field. `name?` is how the field is called in errors. -/
def Overrides.set (overrides : Overrides) (field : Field) (name? : Option String)
    (mapping : Mark) (node : Node) : Except Decode.Error Overrides := do
  if overrides.gives field then
    throw (.mismatch (.duplicateField field.key) none (position? mapping))
  match field with
  | .definitionFile => return { overrides with definitionFile? := ← textFrom name? pathText node }
  | .cacheDir =>
      return { overrides with cacheDir? := SystemPath.ofString (← textFrom name? pathText node) }
  | .diskSizeMb => return { overrides with diskSizeMb? := ← sizeFrom name? node }
  | .logLevel => return { overrides with logLevel? := ← levelFrom name? mapping node }

/-- How the field of a key is called in errors. The name of an aliased key is not kept. -/
def fieldName (key : Node) : String :=
  match key with
  | .scalar _ _ text => text
  | _ => "?"

/-- The node itself, or the one that an alias refers to. -/
def follow (root node : Node) : Except Decode.Error Node :=
  match Node.follow root node with
  | some target => .ok target
  | none => .error .malformed

/-- Read one entry of the mapping. -/
def readEntry (root : Node) (overrides : Overrides) (entry : Node × Node) :
    Except Decode.Error Overrides := do
  let key ← textFrom none "field identifier" (← follow root entry.1)
  match Field.ofKey? key with
  | none => return overrides
  | some field => overrides.set field (fieldName entry.1) root.mark (← follow root entry.2)

/-- Read the fields that the root of a document gives. An empty root gives none. -/
def readRoot (root : Node) : Except Decode.Error Overrides :=
  match root with
  | .mapping _ entries => entries.foldlM (readEntry root) .empty
  | .scalar _ .plain "" => .ok .empty
  | _ => .error (wrongType none "struct ForgeConfig" root)

/-- Read the fields that a document gives. -/
def readDocument : Yaml.Document → Except Decode.Error Overrides
  | .absent => .ok .empty
  | .root root => readRoot root

/-- Whether documents are sound as a whole: there is only one, and all its nodes are data. -/
def isSound (documents : Yaml.Documents) : Bool :=
  !documents.more &&
    match documents.first with
    | .absent => true
    | .root root => root.canonical?.isSome

/-- Read the fields that documents give, of which there must be only one. -/
def readDocuments (documents : Yaml.Documents) : Except Decode.Error Overrides := do
  let overrides ← readDocument documents.first
  if documents.more then throw .severalDocuments
  return overrides

/-- Read the fields that a text gives. -/
def readText (text : String) : Except Decode.Error Overrides :=
  match Yaml.Documents.parse text with
  | none => .error .malformed
  | some documents =>
      (readDocuments documents).mapError fun error =>
        if isSound documents then error else .unsound error

/-- Settings that are sound, or the failure that says why not. -/
def checked (settings : Settings) : Except Failure Settings :=
  match settings.flaw? with
  | some flaw => .error (.settings flaw.message)
  | none => .ok settings

/-- The settings that a text gives over the defaults. -/
def ofText (home? : Option SystemPath) (text : String) : Except Failure Settings :=
  match readText text with
  | .error error => .error (.decode error)
  | .ok overrides => checked (overrides.apply (defaults home?))

end GuestImage.Settings
