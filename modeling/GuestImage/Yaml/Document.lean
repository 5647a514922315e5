import GuestImage.Yaml.Lexer
import GuestImage.Yaml.Node

/-!
# YAML documents

Builds the tree of the first document from the tokens of a text, and says whether the text goes on
behind it.
-/

namespace GuestImage.Yaml

/-- What is still to be read, the numbers of the anchors so far and the handles that tags may
use. -/
structure Reading where
  tokens : List Placed
  anchors : List (String × Nat)
  handles : List (String × Tag)

/-- Reads part of a document, if it is well formed. -/
abbrev Reader (α : Type) : Type :=
  StateT Reading Option α

namespace Reader

/-- Refuse the text. -/
def refuse {α : Type} : Reader α :=
  fun _ => none

/-- The next token. -/
def peek : Reader Placed := fun reading =>
  match reading.tokens with
  | [] => none
  | placed :: _ => some (placed, reading)

/-- Go past the next token. -/
def skip : Reader Unit :=
  modify fun reading => { reading with tokens := reading.tokens.drop 1 }

/-- Go past the next token, which is handed over. -/
def take : Reader Placed := do
  let placed ← peek
  skip
  return placed

/-- Give an anchor its number: how many names are known so far. A name that was used before is
given up. -/
def number (name : String) : Reader Nat := fun reading =>
  let number := reading.anchors.length
  let others := reading.anchors.filter fun known => known.1 ≠ name
  some (number, { reading with anchors := (name, number) :: others })

/-- The number of an anchor that was given before. -/
def numberOf (name : String) : Reader Nat := fun reading =>
  (reading.anchors.lookup name).map fun number => (number, reading)

/-- The full text of a tag. -/
def expand (handle : String) (suffix : Tag) : Reader Tag := fun reading =>
  if handle.isEmpty then some (suffix, reading)
  else (reading.handles.lookup handle).map fun replacement =>
    (replacement.append suffix, reading)

/-- Read the anchor of a node, if it has one. -/
def anchor? : Reader (Option Nat) := do
  match (← peek).token with
  | .anchor name =>
      skip
      return some (← number name)
  | _ => return none

/-- Read the tag of a node, if it has one. -/
def tag? : Reader (Option Tag) := do
  match (← peek).token with
  | .tag handle suffix =>
      skip
      return some (← expand handle suffix)
  | _ => return none

/-- Read an anchor and a tag, in either order. -/
def properties : Reader Properties := do
  let mark := (← peek).start
  match ← anchor? with
  | some anchor => return ⟨mark, some anchor, ← tag?⟩
  | none =>
      let tag ← tag?
      return ⟨mark, ← anchor?, tag⟩

/-- Whether a token ends an item of a block collection that was left out. -/
def endsBlockItem (indentless : Bool) : Token → Bool
  | .blockEntry | .blockEnd => true
  | .key | .value => indentless
  | _ => false

/-- Whether a token ends a key or value of a block mapping that was left out. -/
def endsBlockValue : Token → Bool
  | .key | .value | .blockEnd => true
  | _ => false

/-- Whether a token ends a value of a flow collection that was left out. -/
def endsFlowValue (closing : Token) (token : Token) : Bool :=
  token = .flowEntry || token = closing

mutual

/-- Read a node. `block` says whether it may be a block collection, and `indentless` whether it may
be a block sequence at the indentation of the mapping around it. Every call takes a token or leads
to one that does. -/
def node (block indentless : Bool) : (fuel : Nat) → Reader Node
  | 0 => refuse
  | fuel + 1 => do
      let placed ← peek
      match placed.token with
      | .reference name =>
          skip
          return .reference placed.start (← numberOf name)
      | _ =>
          let properties ← properties
          let next ← peek
          match next.token, block with
          | .blockEntry, _ =>
              if indentless then
                return .sequence properties (← blockItems true fuel)
              else emptyNode properties
          | .scalar style text, _ =>
              skip
              return .scalar properties style text
          | .flowSequenceStart, _ =>
              skip
              return .sequence properties (← flowItems true fuel)
          | .flowMappingStart, _ =>
              skip
              return .mapping properties (← flowEntries true fuel)
          | .blockSequenceStart, true =>
              skip
              return .sequence properties (← blockItems false fuel)
          | .blockMappingStart, true =>
              skip
              return .mapping properties (← blockEntries fuel)
          | _, _ => emptyNode properties

/-- The node of properties that nothing follows. -/
def emptyNode (properties : Properties) : Reader Node :=
  if properties.anchor?.isNone && properties.tag?.isNone then refuse
  else return .scalar properties .plain ""

/-- Read the items of a block sequence. One without an indentation of its own ends where no item
follows. -/
def blockItems (indentless : Bool) : (fuel : Nat) → Reader (List Node)
  | 0 => refuse
  | fuel + 1 => do
      let placed ← peek
      match placed.token with
      | .blockEntry =>
          skip
          let item ←
            if endsBlockItem indentless (← peek).token then pure (.empty placed.finish)
            else node true false fuel
          return item :: (← blockItems indentless fuel)
      | .blockEnd =>
          if indentless then return []
          else
            skip
            return []
      | _ => if indentless then return [] else refuse

/-- Read the entries of a block mapping. -/
def blockEntries : (fuel : Nat) → Reader (List (Node × Node))
  | 0 => refuse
  | fuel + 1 => do
      let placed ← peek
      match placed.token with
      | .key =>
          skip
          let key ←
            if endsBlockValue (← peek).token then pure (.empty placed.finish)
            else node true true fuel
          let value ← blockValue fuel
          return (key, value) :: (← blockEntries fuel)
      | .blockEnd =>
          skip
          return []
      | _ => refuse

/-- Read the value of an entry of a block mapping. -/
def blockValue : (fuel : Nat) → Reader Node
  | 0 => refuse
  | fuel + 1 => do
      let placed ← peek
      match placed.token with
      | .value =>
          skip
          if endsBlockValue (← peek).token then return .empty placed.finish
          else node true true fuel
      | _ => return .empty placed.start

/-- Read the items of a flow sequence and the bracket behind them. -/
def flowItems (first : Bool) : (fuel : Nat) → Reader (List Node)
  | 0 => refuse
  | fuel + 1 => do
      if (← peek).token = .flowSequenceEnd then
        skip
        return []
      if !first then
        if (← peek).token = .flowEntry then skip else refuse
      let placed ← peek
      match placed.token with
      | .flowSequenceEnd =>
          skip
          return []
      | .key =>
          skip
          let entry ← flowPair fuel
          return .mapping ⟨placed.start, none, none⟩ [entry] :: (← flowItems false fuel)
      | _ =>
          let item ← node false false fuel
          return item :: (← flowItems false fuel)

/-- Read a mapping of one entry that stands in a flow sequence without braces. Where its key is
left out, the token that shows so is skipped. -/
def flowPair : (fuel : Nat) → Reader (Node × Node)
  | 0 => refuse
  | fuel + 1 => do
      let placed ← peek
      let key ←
        if placed.token = .value || endsFlowValue .flowSequenceEnd placed.token then
          skip
          pure (.empty placed.finish)
        else node false false fuel
      return (key, ← flowValue .flowSequenceEnd fuel)

/-- Read the value of an entry in a flow collection. -/
def flowValue (closing : Token) : (fuel : Nat) → Reader Node
  | 0 => refuse
  | fuel + 1 => do
      if (← peek).token = .value then
        skip
        let placed ← peek
        if endsFlowValue closing placed.token then return .empty placed.start
        else node false false fuel
      else return .empty (← peek).start

/-- Read the entries of a flow mapping and the brace behind them. -/
def flowEntries (first : Bool) : (fuel : Nat) → Reader (List (Node × Node))
  | 0 => refuse
  | fuel + 1 => do
      if (← peek).token = .flowMappingEnd then
        skip
        return []
      if !first then
        if (← peek).token = .flowEntry then skip else refuse
      let placed ← peek
      match placed.token with
      | .flowMappingEnd =>
          skip
          return []
      | .key =>
          skip
          let next ← peek
          let key ←
            if next.token = .value || endsFlowValue .flowMappingEnd next.token then
              pure (.empty next.start)
            else node false false fuel
          let value ← flowValue .flowMappingEnd fuel
          return (key, value) :: (← flowEntries false fuel)
      | _ =>
          let key ← node false false fuel
          let value : Node := .empty (← peek).start
          return (key, value) :: (← flowEntries false fuel)

end

/-! ## Whole documents -/

/-- The handles that every document may use. -/
def defaultHandles : List (String × Tag) :=
  [("!", .lone), ("!!", .coreSchema)]

/-- Read the directives before a document. Each may stand there once. -/
def directives (versioned : Bool) (handles : List (String × Tag)) : (fuel : Nat) → Reader Unit
  | 0 => refuse
  | fuel + 1 => do
      match (← peek).token with
      | .versionDirective major minor =>
          if versioned || major ≠ 1 || (minor ≠ 1 && minor ≠ 2) then refuse
          skip
          directives true handles fuel
      | .tagDirective handle replacement =>
          if (handles.lookup handle).isSome then refuse
          skip
          directives versioned ((handle, replacement) :: handles) fuel
      | _ => modify fun reading => { reading with handles := handles ++ defaultHandles }

/-- Whether a token stands before the content of a document. -/
def opensDocument : Token → Bool
  | .versionDirective .. | .tagDirective .. | .documentStart => true
  | _ => false

/-- Whether a token shows that a document has no content. -/
def endsDocument (token : Token) : Bool :=
  opensDocument token || token = .documentEnd || token = .streamEnd

/-- Read one document. -/
def document (fuel : Nat) : Reader Node := do
  if opensDocument (← peek).token then
    directives false [] fuel
    if (← peek).token ≠ .documentStart then refuse
    skip
    let placed ← peek
    if endsDocument placed.token then return .empty placed.start
  node true false fuel

end Reader

/-- A document: its root, unless the text is empty. -/
inductive Document where
  | absent
  | root (node : Node)

/-- What a text holds: its first document, and whether something follows that, be it another
document or text that is none. -/
structure Documents where
  first : Document
  more : Bool

/-- The documents of a text, if the first one is well formed with the token behind it. -/
def Documents.parse (text : String) : Option Documents := do
  let tokens := tokens text
  match tokens with
  | ⟨.streamEnd, _, _⟩ :: _ => return ⟨.absent, false⟩
  | _ =>
      let reading : Reading := ⟨tokens, [], Reader.defaultHandles⟩
      let (node, rest) ← Reader.document (4 * tokens.length + 4) reading
      if rest.tokens.isEmpty then none
      match rest.tokens.dropWhile (·.token = .documentEnd) with
      | ⟨.streamEnd, _, _⟩ :: _ => return ⟨.root node, false⟩
      | _ => return ⟨.root node, true⟩

end GuestImage.Yaml
