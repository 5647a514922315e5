import GuestImage.CommandLine.Problem
import GuestImage.Json.Writer
import GuestImage.Recipe.Load
import GuestImage.StepKey
import GuestImage.Text.Excerpt
import GuestImage.Text.Grid

/-!
# Checking a recipe

Lists the commands of a recipe with their fingerprints, lines and keys, as a table or as JSON.
-/

namespace GuestImage.CommandLine

/-- One command of a checked recipe. -/
structure StepRow where
  step : Nat
  kind : String
  value : String
  fingerprint : Int32
  line : Nat
  cacheKey : String
  deriving DecidableEq, Repr

namespace StepRow

/-- The row of a command with its key, at a place counted from zero. -/
def ofStep (place : Nat) (keyed : Command × String) : StepRow where
  step := place + 1
  kind := keyed.1.kind.name
  value := keyed.1.value
  fingerprint := keyed.1.fingerprint
  line := keyed.1.line
  cacheKey := keyed.2

/-- The rows of a recipe: its commands side by side with its keys. -/
def all (recipe : Recipe) : List StepRow :=
  (recipe.commands.zip (StepKey.all recipe)).mapIdx ofStep

/-- The most characters of a value that the table shows. -/
def maxValueLength : Nat := 60

/-- The value as the table shows it. -/
def shownValue (row : StepRow) : String :=
  Text.truncate (Text.singleLine row.value) maxValueLength

/-- The headings of the table. -/
def headings : List String :=
  ["STEP", "KIND", "VALUE", "FINGERPRINT", "LINE", "CACHE KEY"]

/-- The cells of a row of the table. -/
def cells (row : StepRow) : List String :=
  [toString row.step, row.kind, row.shownValue, toString row.fingerprint.toInt,
    toString row.line, StepKey.short row.cacheKey]

/-- The rows as a table. -/
def grid (rows : List StepRow) : Text.Grid :=
  .of headings (rows.map cells)

/-- A row as a JSON object. -/
def json (row : StepRow) : Json.Value :=
  .object [("step", .number row.step), ("kind", .string row.kind), ("value", .string row.value),
    ("fingerprint", .number row.fingerprint.toInt), ("line", .number row.line),
    ("cache_key", .string row.cacheKey)]

end StepRow

/-- What a successful check prints. -/
def checkReport (request : CheckRequest) (recipe : Recipe) : String :=
  let rows := StepRow.all recipe
  if request.quiet then ""
  else
    match request.format with
    | .json => (Json.Value.array (rows.map StepRow.json)).text ++ "\n"
    | .table =>
        if rows.isEmpty then request.path ++ ": no commands\n"
        else (StepRow.grid rows).render ++ "\n"

/-- Check the recipe in a file. -/
def check {m : Type → Type} [Monad m] (files : Files m) (request : CheckRequest) :
    m Outcome := do
  match ← Recipe.load files request.path with
  | .error failure => return .failed "" (.reported failure)
  | .ok recipe => return .succeeded (checkReport request recipe)

end GuestImage.CommandLine
