import GuestImage.Proofs.Text.Lines
import GuestImage.Proofs.Text.Width
import GuestImage.Text.Grid
import Mathlib.Order.Bounds.Defs

/-!
# Grids of one-line cells

A grid whose rows have equally many cells, each on one line, is printed with one line for each row,
and all its lines are equally wide. Each column is as wide as its widest cell, unless it has nothing
to show.
-/

namespace GuestImage.Text

/-- The largest of some numbers and a start is within a bound exactly if all of them are. -/
theorem foldl_max_le_iff {values : List Nat} {start bound : Nat} :
    values.foldl max start ≤ bound ↔ start ≤ bound ∧ ∀ value ∈ values, value ≤ bound := by
  induction values generalizing start with
  | nil => simp
  | cons value values ih => rw [List.foldl_cons, ih, Nat.max_le, List.forall_mem_cons, and_assoc]

theorem le_foldl_max {values : List Nat} {value : Nat} (member : value ∈ values) (start : Nat) :
    value ≤ values.foldl max start :=
  (foldl_max_le_iff.mp (Nat.le_refl _)).2 value member

theorem foldl_max_mem (values : List Nat) (start : Nat) :
    values.foldl max start = start ∨ values.foldl max start ∈ values := by
  induction values generalizing start with
  | nil => exact .inl rfl
  | cons value values ih =>
      rw [List.foldl_cons]
      rcases ih (max start value) with same | later
      · rcases Nat.le_total start value with below | above
        · rw [Nat.max_eq_right below] at same ⊢
          exact .inr (List.mem_cons.mpr (.inl same))
        · rw [Nat.max_eq_left above] at same ⊢
          exact .inl same
      · exact .inr (List.mem_cons_of_mem value later)

theorem foldl_max_eq {values : List Nat} {value : Nat} (nonempty : values ≠ [])
    (constant : ∀ other ∈ values, other = value) : values.foldl max 0 = value := by
  rcases List.exists_mem_of_ne_nil values nonempty with ⟨other, member⟩
  apply Nat.le_antisymm
  · rw [foldl_max_le_iff]
    exact ⟨Nat.zero_le value, fun other member => Nat.le_of_eq (constant other member)⟩
  · rw [← constant other member]
    exact le_foldl_max member 0

namespace Grid

/-- A row whose cells are on one line each, as one text. Every cell is filled up with spaces to the
width of its column, and has a space on both sides. -/
def rowText (widths : List Nat) (row : List String) : String :=
  String.join ((widths.zip row).map fun (columns, cell) =>
    " " ++ cell ++ String.ofList (List.replicate (columns - width cell) ' ') ++ " ")

/-- The columns that a line of a grid takes: those of its cells, and two for each cell. -/
def lineWidth (widths : List Nat) : Nat :=
  widths.foldr (fun columns total => columns + 2 + total) 0

/-- Grids with the same number of cells in every row, each cell on one line. -/
structure Regular (grid : Grid) (count : Nat) : Prop where
  rows_ne_nil : grid.rows ≠ []
  count_pos : 0 < count
  length_eq : ∀ row ∈ grid.rows, row.length = count
  oneLine : ∀ row ∈ grid.rows, ∀ cell ∈ row, OneLine cell

/-! ## Rows -/

theorem rowText_eq (widths : List Nat) (row : List String) :
    rowText widths row =
      String.join ((widths.zip row).map fun (columns, cell) => padLine columns cell) :=
  rfl

theorem cellWidth_eq {cell : String} (oneLine : OneLine cell) : cellWidth cell = width cell := by
  rw [cellWidth, lines_of_not_mem oneLine.lineFeed_not_mem]
  exact Nat.zero_max (width cell)

theorem map_lines_getD {row : List String} (oneLine : ∀ cell ∈ row, OneLine cell) :
    ((List.range row.length).map fun column => Text.lines (row.getD column "")) =
      row.map fun cell => [cell] := by
  apply List.ext_getElem
  · simp
  · intro column _ inside
    rw [List.length_map] at inside
    have own := oneLine _ (List.getElem_mem inside)
    simp [inside, lines_of_not_mem own.lineFeed_not_mem]

theorem rowLines_eq {widths : List Nat} {row : List String} (length : row.length = widths.length)
    (nonempty : row ≠ []) (oneLine : ∀ cell ∈ row, OneLine cell) :
    rowLines widths row = [rowText widths row] := by
  have height : ((row.map fun cell => [cell]).map List.length).foldl max 0 = 1 := by
    apply foldl_max_eq
    · simpa using nonempty
    · simp
  simp only [rowLines, ← length, map_lines_getD oneLine]
  rw [height, List.zip_map_right, List.range_one, List.map_singleton, List.map_map]
  rfl

theorem mem_rowText {widths : List Nat} {row : List String} {letter : Char}
    (member : letter ∈ (rowText widths row).toList) :
    letter = ' ' ∨ ∃ cell ∈ row, letter ∈ cell.toList := by
  rw [rowText, String.toList_join, List.mem_flatMap] at member
  rcases member with ⟨padded, written, inside⟩
  rcases List.mem_map.mp written with ⟨⟨columns, cell⟩, paired, rfl⟩
  have space : " ".toList = [' '] := rfl
  simp only [String.toList_append, String.toList_ofList, space, List.mem_append,
    List.mem_replicate, List.mem_singleton] at inside
  rcases inside with ((same | own) | ⟨-, same⟩) | same
  · exact .inl same
  · exact .inr ⟨cell, (List.of_mem_zip paired).2, own⟩
  · exact .inl same
  · exact .inl same

theorem oneLine_rowText {row : List String} (oneLine : ∀ cell ∈ row, OneLine cell)
    (widths : List Nat) : OneLine (rowText widths row) := by
  constructor
  · intro feed
    rcases mem_rowText feed with same | ⟨cell, member, inside⟩
    · cases same
    · exact (oneLine cell member).lineFeed_not_mem inside
  · intro carriage
    rcases mem_rowText carriage with same | ⟨cell, member, inside⟩
    · cases same
    · exact (oneLine cell member).carriageReturn_not_mem inside

/-! ## Width -/

/-- The spaces at both ends of a padded cell keep it apart from its neighbours. -/
theorem width_padLine_append {columns : Nat} {line : String} (fits : width line ≤ columns)
    (rest : String) : width (padLine columns line ++ rest) = columns + 2 + width rest := by
  have letters : (padLine columns line ++ rest).toList =
      [] ++ ' ' :: ((line.toList ++ List.replicate (columns - width line) ' ') ++
        ' ' :: rest.toList) := by
    have space : " ".toList = [' '] := rfl
    simp only [padLine, String.toList_append, String.toList_ofList, space, List.nil_append,
      List.cons_append, List.append_assoc]
  have padded := columns_append_spaces line.toList (columns - width line)
  have none : Text.columns [] = 0 := rfl
  rw [width, letters, columns_append_space, columns_append_space, padded, none, ← width, ← width]
  omega

theorem width_rowText {widths : List Nat} {row : List String}
    (fits : ∀ pair ∈ widths.zip row, width pair.2 ≤ pair.1) :
    width (rowText widths row) = lineWidth ((widths.zip row).map Prod.fst) := by
  rw [rowText_eq]
  generalize widths.zip row = pairs at fits
  induction pairs with
  | nil => rfl
  | cons pair pairs ih =>
      rcases List.forall_mem_cons.mp fits with ⟨first, others⟩
      rw [List.map_cons, String.join_cons, width_padLine_append first, ih others]
      rfl

theorem le_columnWidths {grid : Grid} {row : List String} (member : row ∈ grid.rows)
    (oneLine : ∀ cell ∈ row, OneLine cell) :
    ∀ pair ∈ grid.columnWidths.zip row, width pair.2 ≤ pair.1 := by
  intro pair paired
  rcases List.getElem_of_mem paired with ⟨column, inside, rfl⟩
  rw [List.length_zip, Nat.lt_min] at inside
  have own := cellWidth_eq (oneLine _ (List.getElem_mem inside.2))
  have among : cellWidth (row.getD column "") ∈
      grid.rows.map fun row => cellWidth (row.getD column "") :=
    List.mem_map_of_mem member
  have wide := le_foldl_max among 1
  simpa [columnWidths, inside.2, own] using wide

theorem length_columnWidths (grid : Grid) : grid.columnWidths.length = grid.columnCount := by
  simp [columnWidths]

namespace Regular

variable {grid : Grid} {count : Nat}

theorem length_columnWidths (regular : grid.Regular count) :
    grid.columnWidths.length = count := by
  rw [Grid.length_columnWidths, columnCount]
  apply foldl_max_eq
  · simpa using regular.rows_ne_nil
  · simpa using regular.length_eq

/-- A column is as wide as its widest cell, if some row has something to show in every column. -/
theorem isGreatest_columnWidths (regular : grid.Regular count) {full : List String}
    (present : full ∈ grid.rows) (wide : ∀ cell ∈ full, 0 < width cell) {column columns : Nat}
    (found : grid.columnWidths[column]? = some columns) :
    IsGreatest {own | ∃ row ∈ grid.rows, ∃ cell, row[column]? = some cell ∧ width cell = own}
      columns := by
  rcases List.getElem?_eq_some_iff.mp found with ⟨inside, widest⟩
  have shown {row : List String} (member : row ∈ grid.rows) :
      ∃ cell ∈ row, row[column]? = some cell ∧ cellWidth (row.getD column "") = width cell := by
    rw [regular.length_columnWidths, ← regular.length_eq row member] at inside
    have there := List.getElem_mem inside
    have own := cellWidth_eq (regular.oneLine row member _ there)
    exact ⟨_, there, List.getElem?_eq_getElem inside, by simpa [inside] using own⟩
  simp only [columnWidths, List.getElem_map, List.getElem_range] at widest
  have bound {row : List String} (member : row ∈ grid.rows) :
      cellWidth (row.getD column "") ≤ columns := by
    rw [← widest]
    apply le_foldl_max
    exact List.mem_map.mpr ⟨row, member, rfl⟩
  constructor
  · rcases foldl_max_mem (grid.rows.map fun row => cellWidth (row.getD column "")) 1 with
      least | member
    · -- No column is narrower than one, and the full row has a cell of one column here.
      rcases shown present with ⟨cell, own, cellAt, width_eq⟩
      have narrow := bound present
      have positive := wide cell own
      exact ⟨full, present, cell, cellAt, by omega⟩
    · rcases List.mem_map.mp member with ⟨row, there, attained⟩
      rcases shown there with ⟨cell, -, cellAt, width_eq⟩
      exact ⟨row, there, cell, cellAt, by omega⟩
  · rintro own ⟨row, member, cell, cellAt, rfl⟩
    rcases shown member with ⟨other, -, otherAt, width_eq⟩
    obtain rfl : cell = other := Option.some.inj (cellAt.symm.trans otherAt)
    rw [← width_eq]
    exact bound member

theorem lines_eq (regular : grid.Regular count) :
    grid.lines = grid.rows.map (rowText grid.columnWidths) := by
  have single (row : List String) (member : row ∈ grid.rows) :
      rowLines grid.columnWidths row = [rowText grid.columnWidths row] := by
    have length := regular.length_eq row member
    apply rowLines_eq _ _ (regular.oneLine row member)
    · rw [length, regular.length_columnWidths]
    · exact List.ne_nil_of_length_pos (length ▸ regular.count_pos)
  rw [Grid.lines, List.flatMap_def, List.map_congr_left single, ← List.flatMap_def,
    ← List.map_eq_flatMap]

/-- A regular grid is printed with one line for each row. -/
theorem splitOn_render (regular : grid.Regular count) :
    grid.render.toList.splitOn '\n' =
      grid.rows.map fun row => (rowText grid.columnWidths row).toList := by
  rw [render, regular.lines_eq, splitOn_intercalate, List.map_map]
  · rfl
  · intro text member
    rcases List.mem_map.mp member with ⟨row, inside, rfl⟩
    exact (oneLine_rowText (regular.oneLine row inside) _).lineFeed_not_mem
  · simpa using regular.rows_ne_nil

theorem carriageReturn_not_mem_render (regular : grid.Regular count) :
    '\r' ∉ grid.render.toList := by
  rw [render, regular.lines_eq, String.toList_intercalate]
  intro carriage
  rcases mem_intercalate carriage with same | ⟨letters, member, inside⟩
  · cases same
  · rw [List.map_map] at member
    rcases List.mem_map.mp member with ⟨row, there, rfl⟩
    exact (oneLine_rowText (regular.oneLine row there) _).carriageReturn_not_mem inside

/-- All lines of a regular grid are as wide as its columns together. -/
theorem width_rowText (regular : grid.Regular count) {row : List String}
    (member : row ∈ grid.rows) :
    width (rowText grid.columnWidths row) = lineWidth grid.columnWidths := by
  have length := regular.length_columnWidths.trans (regular.length_eq row member).symm
  rw [Grid.width_rowText (le_columnWidths member (regular.oneLine row member)),
    List.map_fst_zip (Nat.le_of_eq length)]

end Regular

end Grid

end GuestImage.Text
