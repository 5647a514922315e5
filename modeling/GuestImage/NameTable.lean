/-!
# Tables of named variants

A closed choice (kinds of command, log levels, output formats) is a finite table: every variant
has a symbolic name and an ordinal, and the table lists the variants in the order of their
ordinals. Lookups search or index the table; `NameTable.fault?` says whether the names and
ordinals are consistent with it, which is what makes lookups invert names and ordinals.
-/

namespace GuestImage

universe u

/-- A finite table of variants, in the order of their ordinals. -/
structure NameTable (α : Type u) where
  /-- What the variants are, for error messages. -/
  typeName : String
  variants : List α
  name : α → String
  ordinal : α → Nat

/-- A name that no variant of a table has, with the names that would have done. -/
structure UnknownName where
  typeName : String
  name : String
  expected : List String
  deriving DecidableEq, Repr

namespace UnknownName

/-- The expected names on one line. -/
def expectedText (unknown : UnknownName) : String :=
  String.intercalate ", " unknown.expected

def message (unknown : UnknownName) : String :=
  s!"unknown {unknown.typeName} '{unknown.name}' (expected one of: {unknown.expectedText})"

end UnknownName

namespace NameTable

variable {α : Type u}

/-- What is wrong with a table at one of its positions. -/
inductive Fault where
  | misplaced (name : String) (ordinal position : Nat)
  | unnamed (position : Nat)
  | duplicate (name : String)
  deriving DecidableEq, Repr

namespace Fault

def message : Fault → String
  | misplaced name ordinal position =>
      s!"variant '{name}' has ordinal {ordinal} but sits at position {position}"
  | unnamed position => s!"variant at position {position} has an empty name"
  | duplicate name => s!"duplicate variant name '{name}'"

end Fault

/-- All symbolic names, in table order. -/
def names (table : NameTable α) : List String :=
  table.variants.map table.name

/-- The first variant with exactly this name. -/
def ofName? (table : NameTable α) (name : String) : Option α :=
  table.variants.find? fun value => table.name value == name

/-- The variant at this position of the table. -/
def ofOrdinal? (table : NameTable α) (ordinal : Nat) : Option α :=
  table.variants[ordinal]?

/-- The error for a name, whether or not the table has it. -/
def unknown (table : NameTable α) (name : String) : UnknownName :=
  ⟨table.typeName, name, table.names⟩

/-- The variant with this name, or the names that would have done. -/
def parse (table : NameTable α) (name : String) : Except UnknownName α :=
  match table.ofName? name with
  | some value => .ok value
  | none => .error (table.unknown name)

/-- The fault of one variant: its ordinal is looked at first, then its name, then the names of the
variants before it. -/
def faultAt? (table : NameTable α) (earlier : List α) (value : α) : Option Fault :=
  if table.ordinal value ≠ earlier.length then
    some (.misplaced (table.name value) (table.ordinal value) earlier.length)
  else if table.name value = "" then
    some (.unnamed earlier.length)
  else if (earlier.map table.name).contains (table.name value) then
    some (.duplicate (table.name value))
  else
    none

/-- The first fault among `rest`, given the variants `earlier` before it. -/
def faultAfter? (table : NameTable α) (earlier : List α) : (rest : List α) → Option Fault
  | [] => none
  | value :: rest =>
      match table.faultAt? earlier value with
      | some fault => some fault
      | none => table.faultAfter? (earlier ++ [value]) rest

/-- The fault at the smallest faulty position of the table. -/
def fault? (table : NameTable α) : Option Fault :=
  table.faultAfter? [] table.variants

/-- A table whose ordinals are its positions and whose names are non-empty and pairwise
different. -/
structure WF (table : NameTable α) : Prop where
  ordinal_eq : ∀ position (value : α), table.variants[position]? = some value →
    table.ordinal value = position
  name_ne_empty : ∀ value ∈ table.variants, table.name value ≠ ""
  names_nodup : table.names.Nodup

end NameTable

end GuestImage
