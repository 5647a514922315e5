import GuestImage.Path

/-!
# Files

What the commands ask of a file system, and a file system that is kept in memory. Paths are followed
component by component, as a system without links does it.
-/

namespace GuestImage

/-- Why a file could not be read or a path not followed. -/
inductive FileError where
  | notFound
  | notDirectory
  | isDirectory
  | nameTooLong
  /-- The path holds a null character. -/
  | nullInPath
  /-- The content of the file is no text. -/
  | notText
  /-- Another error, in the words of the system. -/
  | other (message : String)
  deriving DecidableEq, Repr

def FileError.message : FileError → String
  | notFound => "No such file or directory (os error 2)"
  | notDirectory => "Not a directory (os error 20)"
  | isDirectory => "Is a directory (os error 21)"
  | nameTooLong => "File name too long (os error 36)"
  | nullInPath => "file name contained an unexpected NUL byte"
  | notText => "stream did not contain valid UTF-8"
  | other message => message

universe u

/-- The questions about files that the commands ask, answered in a monad. -/
structure Files (m : Type → Type u) where
  /-- The text of a file. -/
  readText : String → m (Except FileError String)
  /-- The absolute path that a path leads to, without dots. -/
  canonical : String → m (Except FileError String)
  isDirectory : String → m Bool
  present : String → m Bool

/-- The text that bytes hold, if they hold one. -/
def textOfBytes (bytes : ByteArray) : Except FileError String :=
  match String.fromUTF8? bytes with
  | some text => .ok text
  | none => .error .notText

/-! ## Files in memory -/

/-- A file or directory. -/
inductive FileTree where
  | file (content : ByteArray)
  | directory (entries : List (String × FileTree))

namespace FileTree

/-- The tree of a directory with nothing in it. -/
def empty : FileTree :=
  .directory []

/-- Put a tree at the place that names lead to, making the directories on the way. What was there
before is replaced. -/
def insert (tree : FileTree) : (names : List String) → (added : FileTree) → FileTree
  | [], added => added
  | name :: rest, added =>
      let entries :=
        match tree with
        | file _ => []
        | directory entries => entries
      let inner := (entries.lookup name).getD .empty
      .directory (entries.filter (·.1 ≠ name) ++ [(name, inner.insert rest added)])

/-- The longest name of a component, in bytes. -/
def maxNameLength : Nat := 255

/-- The longest path, in bytes. -/
def maxPathLength : Nat := 4095

/-- A place in a tree: the names that lead to it, the last one first, and the trees on the way to
it, itself first. -/
structure Place where
  names : List String
  here : FileTree
  above : List FileTree

/-- Follow components from a place. A component may only follow a directory; an empty one and a
dot stay there, two dots lead to the directory above. -/
def walk (place : Place) : (components : List String) → Except FileError Place
  | [] => .ok place
  | component :: rest =>
      match place.here with
      | file _ => .error .notDirectory
      | directory entries =>
          if component = "" || component = "." then walk place rest
          else if component = ".." then
            match place.names, place.above with
            | _ :: names, here :: above => walk ⟨names, here, above⟩ rest
            | _, _ => walk place rest
          else if maxNameLength < component.utf8ByteSize then .error .nameTooLong
          else
            match entries.lookup component with
            | none => .error .notFound
            | some inner => walk ⟨component :: place.names, inner, place.here :: place.above⟩ rest

/-- The place that a path leads to, from a working directory given by its names. -/
def resolve (root : FileTree) (current : List String) (path : String) : Except FileError Place :=
  if path.isEmpty then .error .notFound
  else if path.toList.contains '\x00' then .error .nullInPath
  else if maxPathLength < path.utf8ByteSize then .error .nameTooLong
  else
    let components := (Path.components path.toList).map String.ofList
    let start := if Path.isAbsolute path then [] else current
    walk ⟨[], root, []⟩ (start ++ components)

/-- The absolute path of a place. -/
def Place.path (place : Place) : String :=
  if place.names.isEmpty then "/"
  else String.join (place.names.reverse.map ("/" ++ ·))

/-- A tree as a file system, from a working directory. -/
def files (root : FileTree) (current : List String) : Files Id where
  readText path :=
    match resolve root current path with
    | .error error => .error error
    | .ok ⟨_, .directory _, _⟩ => .error .isDirectory
    | .ok ⟨_, .file content, _⟩ => textOfBytes content
  canonical path := (resolve root current path).map Place.path
  isDirectory path :=
    match resolve root current path with
    | .ok ⟨_, .directory _, _⟩ => true
    | _ => false
  present path := (resolve root current path).isOk

end FileTree

end GuestImage
