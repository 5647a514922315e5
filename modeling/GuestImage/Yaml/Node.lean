import GuestImage.Yaml.Token

/-!
# Nodes of a YAML document

The content of a document as a tree. An alias refers to an anchored node by its number.
-/

namespace GuestImage.Yaml

/-- What every node but an alias has: the place where it starts, the number of its anchor and its
tag. -/
structure Properties where
  mark : Mark
  anchor? : Option Nat
  tag? : Option Tag
  deriving DecidableEq, Repr

/-- A node of a document. -/
inductive Node where
  | reference (mark : Mark) (number : Nat)
  | scalar (properties : Properties) (style : Style) (text : String)
  | sequence (properties : Properties) (items : List Node)
  | mapping (properties : Properties) (entries : List (Node × Node))

namespace Node

/-- The empty node that stands where a node was left out. -/
def empty (mark : Mark) : Node :=
  .scalar ⟨mark, none, none⟩ .plain ""

/-- The place where a node starts. -/
def mark : Node → Mark
  | reference mark _ => mark
  | scalar properties .. | sequence properties _ | mapping properties _ => properties.mark

/-- The number of a node's anchor. -/
def anchor? : Node → Option Nat
  | reference .. => none
  | scalar properties .. | sequence properties _ | mapping properties _ => properties.anchor?

mutual

/-- The last node with the given anchor, in the order in which nodes start. -/
def anchored? (number : Nat) (node : Node) : Option Node :=
  let self := if node.anchor? = some number then some node else none
  match node with
  | reference .. | scalar .. => self
  | sequence _ items => (anchoredItem? number items).or self
  | mapping _ entries => (anchoredPair? number entries).or self

/-- The last anchored node among the items of a sequence. -/
def anchoredItem? (number : Nat) : (items : List Node) → Option Node
  | [] => none
  | item :: rest => (anchoredItem? number rest).or (item.anchored? number)

/-- The last anchored node among the entries of a mapping. -/
def anchoredPair? (number : Nat) : (entries : List (Node × Node)) → Option Node
  | [] => none
  | (key, value) :: rest =>
      (anchoredPair? number rest).or ((value.anchored? number).or (key.anchored? number))

end

mutual

/-- How many scalars, aliases and ends of collections a node consists of. -/
def size : Node → Nat
  | reference .. | scalar .. => 1
  | sequence _ items => sizeOfItems items + 2
  | mapping _ entries => sizeOfEntries entries + 2

/-- The size of the items of a sequence. -/
def sizeOfItems : (items : List Node) → Nat
  | [] => 0
  | item :: rest => item.size + sizeOfItems rest

/-- The size of the entries of a mapping. -/
def sizeOfEntries : (entries : List (Node × Node)) → Nat
  | [] => 0
  | (key, value) :: rest => key.size + value.size + sizeOfEntries rest

end

end Node

end GuestImage.Yaml
