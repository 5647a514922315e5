import GuestImage.Text.Encoding

/-!
# Tags

A tag says what kind of data a node holds. Escapes may spell any bytes, so a tag is a string of
bytes and need not be a text.
-/

namespace GuestImage.Yaml

/-- The bytes of a tag. -/
structure Tag where
  bytes : List UInt8
  deriving DecidableEq, Repr

namespace Tag

/-- The tag that a text spells. -/
def ofText (text : String) : Tag :=
  ⟨Text.bytes text⟩

/-- The tag of bytes that were read. A zero byte ends it. -/
def ofBytes (bytes : List UInt8) : Tag :=
  ⟨bytes.takeWhile (· ≠ 0)⟩

/-- Two parts of a tag as one. -/
def append (first second : Tag) : Tag :=
  ⟨first.bytes ++ second.bytes⟩

def isEmpty (tag : Tag) : Bool :=
  tag.bytes.isEmpty

/-- The exclamation mark, with which local tags start. -/
def bang : UInt8 := 0x21

/-- The tag that is a lone exclamation mark. -/
def lone : Tag :=
  ⟨[bang]⟩

/-- The start of the tags of the core schema. -/
def coreSchema : Tag :=
  ofText "tag:yaml.org,2002:"

/-- The tag of the core schema with this name. -/
def core (name : String) : Tag :=
  coreSchema.append (ofText name)

/-- Whether a tag has a meaning in its document alone, and not in a schema. -/
def isLocal (tag : Tag) : Bool :=
  tag.bytes.head? == some bang

/-- Bytes without an exclamation mark at their start, unless they are nothing else. -/
def dropBang (bytes : List UInt8) : List UInt8 :=
  match bytes with
  | first :: second :: rest => if first = bang then second :: rest else bytes
  | _ => bytes

/-- The name of a local tag, if it is a text. Tags of one name are the same, and one exclamation
mark more makes no other name. -/
def localName? (tag : Tag) : Option String :=
  if tag.isLocal then String.fromUTF8? (dropBang (dropBang tag.bytes)).toByteArray else none

end Tag

end GuestImage.Yaml
