import GuestImage.Text.Ligature
import GuestImage.Text.Pictograph

/-!
# Clusters and display width

A cluster is a run of characters whose columns are counted together: a line break, a ligature, a
pictograph with all its parts, or a character with the selector behind it. Clusters are found from
the end of a text, each being extended to the front as long as the next character belongs to it.
How many columns of a terminal a text takes is the sum of what its clusters take.
-/

namespace GuestImage.Text

/-- A character that asks for a form of the one before it. -/
inductive Selector where
  | pictorial
  | textual
  | fullWidth
  deriving DecidableEq, Repr

/-- The selector that a character is. -/
def Selector.ofChar? (letter : Char) : Option Selector :=
  if letter = '\ufe0f' then some .pictorial
  else if letter = '\ufe0e' then some .textual
  else if letter = '\ufe01' then some .fullWidth
  else none

/-- The quotation marks that have a form of full width. -/
def canBeFullWidth (letter : Char) : Bool :=
  letter = '‘' || letter = '’' || letter = '“' || letter = '”'

/-- What stands at the front of a cluster, as far as it matters to a character before it. -/
inductive Front where
  | plain
  | lineFeed
  | ligature (part : Ligature)
  | vowelSign (part : VowelSign)
  | pictograph (part : Pictograph)
  deriving DecidableEq, Repr

/-- The front that a character by itself makes. -/
def Front.ofChar (letter : Char) : Front :=
  if letter = '\n' then .lineFeed
  else
    match Ligature.ofChar? letter, VowelSign.ofChar? letter, Pictograph.ofChar? letter with
    | some part, _, _ => .ligature part
    | none, some part, _ => .vowelSign part
    | none, none, some part => .pictograph part
    | none, none, none => .plain

/-- A run of characters whose columns are counted together. The selector is one before the front
that has not found its character yet. -/
structure Cluster where
  columns : Nat
  front : Front
  selector : Option Selector
  deriving DecidableEq, Repr

namespace Cluster

/-- The cluster of one character. -/
def ofChar (letter : Char) : Cluster :=
  ⟨charWidth letter, .ofChar letter, Selector.ofChar? letter⟩

/-- The cluster with a selector before it. A ligature waits on, and so does a pictograph that is to
be joined to a picture; otherwise the selector starts a cluster of its own. -/
def select? (cluster : Cluster) (selector : Selector) : Option Cluster :=
  match cluster.front with
  | .ligature _ => some ⟨cluster.columns, cluster.front, some selector⟩
  | .pictograph pictograph =>
      if pictograph.joinsSelected && selector = .pictorial && cluster.selector = none then
        some ⟨cluster.columns, cluster.front, some selector⟩
      else none
  | .plain | .lineFeed | .vowelSign _ => none

/-- The cluster with a character before it that is not a selector, where its own selector plays no
part. -/
def attach? (cluster : Cluster) (letter : Char) : Option Cluster :=
  match cluster.front with
  | .plain => none
  | .lineFeed => if letter = '\r' then some ⟨cluster.columns, .plain, none⟩ else none
  | .ligature ligature =>
      (ligature.extend? cluster.columns letter).map fun (columns, rest) =>
        ⟨columns, (rest.map Front.ligature).getD .plain, none⟩
  | .vowelSign sign =>
      (sign.extend? cluster.columns letter).map fun (columns, rest) =>
        ⟨columns, (rest.map Front.vowelSign).getD .plain, none⟩
  | .pictograph pictograph =>
      (pictograph.extend? cluster.columns letter).map fun (columns, rest) =>
        ⟨columns, .pictograph rest, none⟩

/-- The cluster with a character before it that its selector gives another form, if there is such a
form. A picture that is joined to the cluster is shown within it. -/
def reshape? (cluster : Cluster) (selector : Selector) (letter : Char) : Option Cluster :=
  match selector with
  | .pictorial =>
      if canBePicture letter then
        let columns :=
          match cluster.front with
          | .pictograph _ => cluster.columns
          | _ => cluster.columns + 2
        some ⟨columns, .pictograph .whole, none⟩
      else none
  | .textual =>
      if canBeNarrow letter then some ⟨cluster.columns + 1, .plain, none⟩ else none
  | .fullWidth =>
      if canBeFullWidth letter then some ⟨cluster.columns + 2, .plain, none⟩ else none

/-- The cluster with a character before it, if the two belong together. A selector whose character
has no form for it is forgotten, and only a ligature waits on behind it. -/
def extend? (cluster : Cluster) (letter : Char) : Option Cluster :=
  match Selector.ofChar? letter with
  | some selector => cluster.select? selector
  | none =>
      match cluster.selector with
      | none => cluster.attach? letter
      | some selector =>
          match cluster.reshape? selector letter, cluster.front with
          | some extended, _ => some extended
          | none, .ligature _ => cluster.attach? letter
          | none, _ => none

end Cluster

/-- The clusters of a text with a character before it. -/
def addToClusters (letter : Char) : (clusters : List Cluster) → List Cluster
  | [] => [.ofChar letter]
  | cluster :: rest =>
      match cluster.extend? letter with
      | some extended => extended :: rest
      | none => .ofChar letter :: cluster :: rest

/-- The clusters of a text, from its front to its end. -/
def clusters (letters : List Char) : List Cluster :=
  letters.foldr addToClusters []

/-! ## Display width -/

/-- The columns that a list of characters takes. -/
def columns (letters : List Char) : Nat :=
  (clusters letters).foldr (fun cluster total => cluster.columns + total) 0

/-- The columns that a text takes. -/
def width (text : String) : Nat :=
  columns text.toList

end GuestImage.Text
