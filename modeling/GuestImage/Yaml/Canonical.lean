import GuestImage.Yaml.Datum
import GuestImage.Yaml.Document

/-!
# Canonical texts

The canonical text of a node is the same for nodes that hold the same data. Only sound documents
have one: scalars fit their tags, integers fit 64 bits, the keys of a mapping are different, and
neither nesting nor aliases go too far.
-/

namespace GuestImage.Yaml

/-- How deep collections may be nested. -/
def maxDepth : Nat := 128

/-- How many aliases may be followed for each part of a document. -/
def aliasesPerPart : Nat := 100

namespace Node

/-- The canonical text of a scalar. -/
def canonicalDatum? : Datum → Option String
  | .null => some "~"
  | .boolean value => some (toString value)
  | .integer value => if Datum.fitsWord value then some (toString value) else none
  | .floating text => some (if text = "-0.0" then "0.0" else text)
  | .string text => some (Text.quote text)

/-- The start of the canonical text of a node with this tag. Only the names of local tags count. -/
def canonicalTag (tag? : Option Tag) : String :=
  match tag?.bind Tag.localName? with
  | some name => "!" ++ Text.quote name ++ " "
  | none => ""

/-- The node itself, or the one that an alias refers to. -/
def follow (root node : Node) : Option Node :=
  match node with
  | .reference _ number => root.anchored? number
  | _ => some node

/-- Follow an alias, counting how many were followed. -/
def followCounted (root node : Node) : StateT Nat Option Node := fun followed =>
  match node with
  | .reference .. =>
      if aliasesPerPart * root.size < followed + 1 then none
      else (follow root node).map fun target => (target, followed + 1)
  | _ => some (node, followed)

/-- The canonical text of a scalar node. -/
def canonicalScalar (tag? : Option Tag) (style : Style) (text : String) :
    StateT Nat Option String := fun followed =>
  ((Datum.ofScalar tag? style text).toOption.bind canonicalDatum?).map fun canonical =>
    (canonicalTag tag? ++ canonical, followed)

/-- Whether some key stands twice in a sorted list. -/
def hasRepetition : (sorted : List String) → Bool
  | first :: second :: rest => first = second || hasRepetition (second :: rest)
  | _ => false

/-- The canonical text of a node in a document, with at most the given depth of collections. -/
def canonicalAt (root : Node) : (depth : Nat) → Node → StateT Nat Option String
  | 0, node => do
      match ← followCounted root node with
      | .scalar properties style text => canonicalScalar properties.tag? style text
      | _ => fun _ => none
  | depth + 1, node => do
      match ← followCounted root node with
      | .scalar properties style text => canonicalScalar properties.tag? style text
      | .sequence properties items =>
          let items ← items.mapM (canonicalAt root depth)
          return canonicalTag properties.tag? ++ "[" ++ String.intercalate "," items ++ "]"
      | .mapping properties entries =>
          let entries ← entries.mapM fun (key, value) => do
            let key ← canonicalAt root depth key
            let value ← canonicalAt root depth value
            return (key, value)
          let sorted := entries.mergeSort fun left right => left.1 ≤ right.1
          if hasRepetition (sorted.map (·.1)) then fun _ => none
          else
            let texts := sorted.map fun (key, value) => key ++ ":" ++ value
            return canonicalTag properties.tag? ++ "\x7b" ++ String.intercalate "," texts ++ "\x7d"
      | .reference .. => fun _ => none

/-- The canonical text of a document. -/
def canonical? (root : Node) : Option String :=
  ((canonicalAt root maxDepth root).run 0).map (·.1)

end Node

end GuestImage.Yaml
