import GuestImage.NameTable

/-!
# Kinds of command

The five things a recipe can ask for, their symbolic names and the tokens that select them.
-/

namespace GuestImage

/-- What one command of a recipe does. -/
inductive CommandKind where
  /-- Start from a base image. -/
  | origin
  /-- Run a command inside the guest. -/
  | run
  /-- Stage files into the guest. -/
  | copy
  /-- Set the working directory of later commands and of the image. -/
  | workdir
  /-- Set the boot command of the image. -/
  | entrypoint
  deriving DecidableEq, Repr

namespace CommandKind

/-- Every kind, in the order of the ordinals. -/
def all : List CommandKind :=
  [origin, run, copy, workdir, entrypoint]

/-- The symbolic name, which step keys and listings show. -/
def name : CommandKind → String
  | origin => "ORIGIN"
  | run => "RUN"
  | copy => "COPY"
  | workdir => "WORKDIR"
  | entrypoint => "ENTRYPOINT"

/-- The zero-based position in `all`, which seeds fingerprints. -/
def ordinal : CommandKind → Nat
  | origin => 0
  | run => 1
  | copy => 2
  | workdir => 3
  | entrypoint => 4

/-- The table of kinds. -/
def table : NameTable CommandKind where
  typeName := "CommandType"
  variants := all
  name := name
  ordinal := ordinal

/-- The token that selects a kind when a command is echoed. -/
def keyword : CommandKind → String
  | origin => "FROM"
  | run => "RUN"
  | copy => "COPY"
  | workdir => "WORKDIR"
  | entrypoint => "ENTRYPOINT"

/-- The other tokens that select a kind. -/
def synonyms : CommandKind → List String
  | run => ["EXEC"]
  | entrypoint => ["CMD"]
  | origin | copy | workdir => []

/-- All tokens that select a kind, the keyword first. Case matters. -/
def aliases (kind : CommandKind) : List String :=
  kind.keyword :: kind.synonyms

/-- The first kind that a token selects, compared exactly. -/
def ofToken? (token : String) : Option CommandKind :=
  all.find? fun kind => kind.aliases.contains token

theorem mem_all (kind : CommandKind) : kind ∈ all := by
  cases kind <;> decide

/-- No token selects two kinds. -/
theorem ofToken?_eq_some_iff {token : String} {kind : CommandKind} :
    ofToken? token = some kind ↔ token ∈ kind.aliases := by
  constructor
  · intro found
    simpa using List.find?_some found
  · intro member
    cases kind with
    | origin | copy | workdir =>
        obtain rfl := List.mem_singleton.mp member
        rfl
    | run | entrypoint =>
        rcases List.mem_cons.mp member with rfl | member
        · rfl
        · obtain rfl := List.mem_singleton.mp member
          rfl

theorem find?_mem_aliases (token : String) : all.find? (token ∈ ·.aliases) = ofToken? token := by
  simp only [ofToken?, List.contains_eq_mem]

theorem isSome_ofToken?_iff {token : String} :
    (ofToken? token).isSome ↔ ∃ kind ∈ all, token ∈ kind.aliases := by
  simp only [Option.isSome_iff_exists, ofToken?_eq_some_iff, mem_all, true_and]

end CommandKind

end GuestImage
