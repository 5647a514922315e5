import GuestImage.Proofs.CommandLine.Agreement
import GuestImage.Proofs.Text.Excerpt
import GuestImage.Proofs.Text.Grid

/-!
# The table of a check

The table that a check prints has its header and one line for each command, whatever the values of
the commands hold: no cell has a line break, for values have no line feed and their carriage returns
are written out. All its lines are equally wide.
-/

namespace GuestImage

/-! ## Cells -/

theorem CommandKind.oneLine_name (kind : CommandKind) : Text.OneLine kind.name := by
  cases kind <;> decide

namespace StepKey

theorem IsKey.oneLine {key : String} (isKey : IsKey key) : Text.OneLine key := by
  rcases isKey with ⟨digits, rfl, -, hexadecimal⟩
  have algorithm : Text.OneLine "sha256:" := by decide
  apply algorithm.append
  constructor
  · intro feed
    exact absurd (hexadecimal _ feed) (by decide)
  · intro carriage
    exact absurd (hexadecimal _ carriage) (by decide)

theorem IsKey.oneLine_short {key : String} (isKey : IsKey key) : Text.OneLine (short key) := by
  apply isKey.oneLine.of_subset
  rw [isKey.short_eq, String.toList_ofList]
  exact List.take_subset _ _

end StepKey

namespace CommandLine

/-- A value on one line, with a visible sign wherever it has a carriage return. -/
def onOneLine (value : String) : String :=
  String.ofList (['\\', 'r'].intercalate (value.toList.splitOn '\r'))

/-- How the table shows a value: its line whole if it has at most 60 characters, and else the first
57 of them and a mark. -/
inductive ShownAs (value : String) : String → Prop where
  | whole (fits : (onOneLine value).length ≤ 60) : ShownAs value (onOneLine value)
  | cut (long : 60 < (onOneLine value).length) :
      ShownAs value (String.ofList ((onOneLine value).toList.take 57) ++ "...")

/-- The cells of a recipe's table: a header, and below it a row for each command, in order. -/
structure Tabulates (rows : List (List String)) (recipe : Recipe) : Prop where
  length_eq : rows.length = recipe.length + 1
  header : rows.head? = some ["STEP", "KIND", "VALUE", "FINGERPRINT", "LINE", "CACHE KEY"]
  rowAt : ∀ {place : Nat} {command : Command}, recipe.commands[place]? = some command →
    ∃ key shown, (StepKey.all recipe)[place]? = some key ∧ ShownAs command.value shown ∧
      shown.length ≤ 60 ∧
      rows[place + 1]? = some [toString (place + 1), command.kind.name, shown,
        toString command.fingerprint.toInt, toString command.line,
        String.ofList (key.toList.take 19)]

/-- The table of a recipe: one line for each row of cells, and all lines of one width. -/
structure LinePerStep (recipe : Recipe) (rows : List (List String)) (widths : List Nat)
    (table : String) : Prop where
  tabulates : Tabulates rows recipe
  /-- There are six columns, each as wide as its widest cell. -/
  length_widths : widths.length = 6
  widest : ∀ {column columns : Nat}, widths[column]? = some columns →
    IsGreatest {own | ∃ row ∈ rows, ∃ cell, row[column]? = some cell ∧ Text.width cell = own}
      columns
  lines_eq : table.toList.splitOn '\n' = rows.map fun row => (Text.Grid.rowText widths row).toList
  length_lines : (table.toList.splitOn '\n').length = recipe.length + 1
  carriageReturn_not_mem : '\r' ∉ table.toList
  /-- Every line takes as many columns as the first has characters. -/
  width_eq : ∃ header, (table.toList.splitOn '\n').head? = some header ∧
    ∀ line ∈ table.toList.splitOn '\n', Text.columns line = header.length

namespace StepRow

theorem exists_of_mem_all {recipe : Recipe} {row : StepRow} (member : row ∈ all recipe) :
    ∃ place, ∃ command ∈ recipe.commands, ∃ key ∈ StepKey.all recipe,
      row = ofStep place (command, key) := by
  rcases List.mem_mapIdx.mp member with ⟨place, inside, rfl⟩
  rcases List.of_mem_zip (List.getElem_mem inside) with ⟨command, key⟩
  exact ⟨place, _, command, _, key, rfl⟩

theorem oneLine_headings : ∀ heading ∈ headings, Text.OneLine heading := by
  simp only [headings, List.forall_mem_cons]
  refine ⟨?_, ?_, ?_, ?_, ?_, ?_, by simp⟩
  all_goals decide

theorem oneLine_shownValue {row : StepRow} (noFeed : '\n' ∉ row.value.toList) :
    Text.OneLine row.shownValue :=
  (Text.oneLine_singleLine noFeed).truncate maxValueLength

theorem oneLine_cells {recipe : Recipe} (wf : ∀ command ∈ recipe.commands, command.WF)
    {row : StepRow} (member : row ∈ all recipe) : ∀ cell ∈ row.cells, Text.OneLine cell := by
  rcases exists_of_mem_all member with ⟨place, command, present, key, shown, rfl⟩
  have isKey := StepKey.isKey_of_mem_chain shown
  simp only [cells, List.forall_mem_cons]
  refine ⟨Text.oneLine_repr _, command.kind.oneLine_name, ?_, Text.oneLine_intRepr _,
    Text.oneLine_repr _, ?_, by simp⟩
  · exact oneLine_shownValue (wf command present).oneLine
  · exact isKey.oneLine_short

/-- The rows of the table are the headings and the cells of each command. -/
theorem rows_grid (rows : List StepRow) : (grid rows).rows = headings :: rows.map cells := rfl

theorem regular_grid {recipe : Recipe} (wf : ∀ command ∈ recipe.commands, command.WF) :
    (grid (all recipe)).Regular 6 := by
  constructor
  case rows_ne_nil => exact List.cons_ne_nil _ _
  case count_pos => decide
  case length_eq =>
    rw [rows_grid, List.forall_mem_cons]
    refine ⟨rfl, ?_⟩
    intro row member
    rcases List.mem_map.mp member with ⟨shown, -, rfl⟩
    rfl
  case oneLine =>
    rw [rows_grid, List.forall_mem_cons]
    refine ⟨oneLine_headings, ?_⟩
    intro row member
    rcases List.mem_map.mp member with ⟨shown, there, rfl⟩
    exact oneLine_cells wf there

theorem length_shownValue (row : StepRow) : row.shownValue.length ≤ maxValueLength :=
  Text.length_truncate_le_iff.mpr (.inr (by decide))

theorem shownAs (row : StepRow) : ShownAs row.value row.shownValue := by
  have line : Text.singleLine row.value = onOneLine row.value := Text.singleLine_eq row.value
  rw [shownValue, line]
  by_cases fits : (onOneLine row.value).length ≤ maxValueLength
  · rw [Text.truncate_of_le fits]
    exact .whole fits
  · have long := Nat.lt_of_not_le fits
    rw [Text.truncate_of_lt long]
    exact .cut long

theorem tabulates (recipe : Recipe) : Tabulates (grid (all recipe)).rows recipe where
  length_eq := by
    rw [rows_grid, List.length_cons, List.length_map, length_all]
  header := rfl
  rowAt {place command} found := by
    rcases (lists_all recipe).rowAt found with ⟨key, keyAt, listed⟩
    have isKey := StepKey.isKey_of_mem_chain (List.mem_of_getElem? keyAt)
    let row : StepRow := ⟨place + 1, command.kind.name, command.value, command.fingerprint,
      command.line, key⟩
    refine ⟨key, row.shownValue, keyAt, row.shownAs, row.length_shownValue, ?_⟩
    rw [rows_grid, List.getElem?_cons_succ, List.getElem?_map, listed, Option.map_some, cells,
      isKey.short_eq]

theorem isVisible_headings {heading : String} (member : heading ∈ headings) :
    ∀ letter ∈ heading.toList, Text.IsVisible letter := by
  have all : headings.all (·.toList.all fun letter => decide (Text.IsVisible letter)) = true := by
    decide
  simpa using List.all_eq_true.mp all heading member

theorem width_headings {heading : String} (member : heading ∈ headings) :
    0 < Text.width heading := by
  have all : headings.all fun heading => decide (0 < heading.length) := by decide
  rw [Text.width_of_isVisible (isVisible_headings member)]
  simpa using List.all_eq_true.mp all heading member

/-- The header has no sign in it that takes more than a column. -/
theorem width_header (widths : List Nat) :
    Text.width (Text.Grid.rowText widths headings) =
      (Text.Grid.rowText widths headings).length := by
  apply Text.width_of_isVisible
  intro letter member
  rcases Text.Grid.mem_rowText member with rfl | ⟨heading, there, inside⟩
  · decide
  · exact isVisible_headings there letter inside

end StepRow

theorem linePerStep {recipe : Recipe} (wf : ∀ command ∈ recipe.commands, command.WF) :
    LinePerStep recipe (StepRow.grid (StepRow.all recipe)).rows
      (StepRow.grid (StepRow.all recipe)).columnWidths
      (StepRow.grid (StepRow.all recipe)).render := by
  have regular := StepRow.regular_grid wf
  have tabulates := StepRow.tabulates recipe
  have first : StepRow.headings ∈ (StepRow.grid (StepRow.all recipe)).rows := List.mem_cons_self
  constructor
  case tabulates => exact tabulates
  case length_widths => exact regular.length_columnWidths
  case widest => exact regular.isGreatest_columnWidths first fun _ => StepRow.width_headings
  case lines_eq => exact regular.splitOn_render
  case length_lines => rw [regular.splitOn_render, List.length_map, tabulates.length_eq]
  case carriageReturn_not_mem => exact regular.carriageReturn_not_mem_render
  case width_eq =>
    rw [regular.splitOn_render]
    refine ⟨_, rfl, ?_⟩
    intro line member
    rcases List.mem_map.mp member with ⟨row, there, rfl⟩
    rw [String.length_toList, ← StepRow.width_header, regular.width_rowText first]
    exact regular.width_rowText there

/-- A check that lists a recipe with commands as a table prints the header and one line for each
command. -/
theorem check_prints_line_per_step {files : Files Id} {request : CheckRequest} {text : String}
    {recipe : Recipe} (readText : files.readText request.path = .ok text)
    (read : Recipe.parse text = .ok recipe) (nonempty : recipe.commands ≠ [])
    (format : request.format = .table) (loud : request.quiet = false) :
    ∃ table rows widths, check files request = .succeeded (table ++ "\n") ∧
      LinePerStep recipe rows widths table := by
  have listed : (StepRow.all recipe).isEmpty = false := by
    simpa [StepRow.all_eq_nil_iff] using nonempty
  have report : checkReport request recipe =
      (StepRow.grid (StepRow.all recipe)).render ++ "\n" := by
    simp only [checkReport, loud, format, listed, Bool.false_eq_true, ↓reduceIte]
  refine ⟨_, _, _, ?_, linePerStep (Recipe.wf_of_parse read).commands⟩
  rw [check_eq readText, Recipe.ofText_eq_ok_iff.mpr read, ← report]

/-- A file whose recipe has a value with a carriage return. -/
def escapedReturn : Files Id :=
  (FileTree.empty.insert ["Forgefile"] (.file "FROM a\nRUN printf x\\\ry".toUTF8)).files []

/-- A carriage return in a value starts no line. -/
theorem check_prints_line_per_step_return :
    escapedReturn.readText "/Forgefile" = .ok "FROM a\nRUN printf x\\\ry" ∧
      Recipe.parse "FROM a\nRUN printf x\\\ry" =
        .ok ⟨[.of .origin "a" 1, .of .run "printf x\ry" 2]⟩ ∧
      ∃ table rows widths, check escapedReturn ⟨"/Forgefile", .table, false⟩ =
          .succeeded (table ++ "\n") ∧
        LinePerStep ⟨[.of .origin "a" 1, .of .run "printf x\ry" 2]⟩ rows widths table ∧
        (table.toList.splitOn '\n').length = 3 ∧
        ∃ fingerprint key,
          rows[2]? = some ["2", "RUN", "printf x\\ry", fingerprint, "2", key] := by
  have readText : escapedReturn.readText "/Forgefile" = .ok "FROM a\nRUN printf x\\\ry" := by rfl
  have spells : Recipe.Spells [.command 0 "FROM".toList 1 [.plain 'a'] none,
      .command 0 "RUN".toList 1 ("printf x".toList.map .plain ++ [.escaped '\r', .plain 'y']) none]
      "FROM a\nRUN printf x\\\ry".toList := by decide
  have read : Recipe.parse "FROM a\nRUN printf x\\\ry" =
      .ok ⟨[.of .origin "a" 1, .of .run "printf x\ry" 2]⟩ :=
    Recipe.parse_of_spells spells (by decide)
  rcases @check_prints_line_per_step escapedReturn ⟨"/Forgefile", .table, false⟩ _ _ readText read
    (by simp) rfl rfl with ⟨table, rows, widths, printed, linePerStep⟩
  have written : onOneLine "printf x\ry" = "printf x\\ry" := by decide
  rcases @Tabulates.rowAt _ _ linePerStep.tabulates 1 _ rfl with ⟨key, shown, -, shownAs, -, row⟩
  have shown_eq : shown = "printf x\\ry" := by
    cases shownAs with
    | whole => exact written
    | cut long => exact absurd long (by decide)
  rw [shown_eq] at row
  exact ⟨readText, read, table, rows, widths, printed, linePerStep, linePerStep.length_lines, _, _,
    row⟩

end CommandLine

end GuestImage
