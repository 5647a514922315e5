import GuestImage.Yaml.Cursor
import GuestImage.Yaml.Tag

/-!
# Tokens of a YAML text

The vocabulary between the characters of a text and its nodes. Indentation has become explicit:
block collections have a start and an end of their own, and every key of a mapping is announced.
-/

namespace GuestImage.Yaml

/-- How a scalar is written. -/
inductive Style where
  | plain
  | quoted
  | literal
  | folded
  deriving DecidableEq, Repr

inductive Token where
  | streamEnd
  | versionDirective (major minor : Nat)
  | tagDirective (handle : String) (replacement : Tag)
  | documentStart
  | documentEnd
  | blockSequenceStart
  | blockMappingStart
  | blockEnd
  | flowSequenceStart
  | flowSequenceEnd
  | flowMappingStart
  | flowMappingEnd
  | blockEntry
  | flowEntry
  | key
  | value
  | reference (name : String)
  | anchor (name : String)
  | tag (handle : String) (suffix : Tag)
  | scalar (style : Style) (text : String)
  deriving DecidableEq, Repr

/-- A token with the place where it starts and the place after it. -/
structure Placed where
  token : Token
  start : Mark
  finish : Mark
  deriving DecidableEq, Repr

end GuestImage.Yaml
