/-
Cells in replies. A tool that runs a query writes what the rows of the answer became, and a
count looks at the one row of an answer. Both see every cell of an answer whose header names no
column twice. Under a name that comes twice only the last cell is seen, and nothing in the
reply tells that there was another one.
-/

import QueryWarden.Proofs.Graph.Columns
import QueryWarden.Proofs.Tool.ReadOnly

namespace QueryWarden

/-! ### Counts -/

namespace QueryResult

theorem count?_eq_some_iff {rows : List Row} {number : Value} :
    count? rows = some number ↔
      ∃ row, rows = [row] ∧ countCell row = number ∧ number.isPlainNumber = true := by
  match rows with
  | [] => simp [count?]
  | [row] =>
      by_cases plain : (countCell row).isPlainNumber = true
      · simp only [count?, if_pos plain]
        grind
      · simp only [count?, if_neg plain]
        grind
  | first :: second :: others => simp [count?]

/-- Whether a column of the row is one that counts are looked for in. -/
def HasCountColumn (header : Option (List String)) (cells : List Value) : Prop :=
  "count" ∈ Row.columns header cells.length ∨ "cnt" ∈ Row.columns header cells.length

instance (header : Option (List String)) (cells : List Value) :
    Decidable (HasCountColumn header cells) :=
  inferInstanceAs (Decidable (_ ∨ _))

theorem getD_rowOf_of_not_mem {header : Option (List String)} {cells : List Value}
    {column : String} (absent : column ∉ Row.columns header cells.length) (default : Value) :
    (rowOf header cells).getD column default = default := by
  rw [← Row.mem_names_keyed_iff (Row.length_columns header cells.length)] at absent
  rw [Row.getD, rowOf, Scope.get?_ofTexts, Bindings.lookup_of_not_mem absent]
  rfl

/-- Without a column for counts it is the only entry of a row that counts. -/
theorem countCell_rowOf_iff {header : Option (List String)} {cells : List Value}
    (noCount : ¬HasCountColumn header cells) {number : Value}
    (plain : number.isPlainNumber = true) :
    countCell (rowOf header cells) = number ↔ ∃ name, rowOf header cells = [(name, number)] := by
  obtain ⟨noCount, noCnt⟩ := not_or.mp noCount
  have noCell : (rowOf header cells).getD "count" ((rowOf header cells).getD "cnt" .null) = .null := by
    rw [getD_rowOf_of_not_mem noCount, getD_rowOf_of_not_mem noCnt]
  generalize rowOf header cells = row at noCell ⊢
  have noNull : number ≠ .null := by
    rintro rfl
    cases plain
  match row with
  | [] => simp [countCell, noCell, noNull.symm]
  | [(name, value)] => simp [countCell, noCell]
  | first :: second :: others => simp [countCell, noCell, noNull.symm]

end QueryResult

/-! ### Replies -/

namespace Executor

open QueryResult

variable {executor : Executor} {graph : Graph} {query : Value} {request : Request}
  {result : QueryResult}

private theorem countAttempt_of_permits (permitted : executor.Permits (.count query) request)
    (answered : graph request = .ok result) :
    (executor.countAttempt graph query).result = rowsThen countOf result := by
  cases permitted with
  | count accepted =>
      have passed := (validated_eq_ok_iff _ _ _).mpr ⟨_, rfl, accepted, rfl⟩
      rw [countAttempt, passed, Attempt.bind_of_ok _ rfl, Attempt.bind_of_ok _ answered,
        rowsOf_bind_of]
      rfl

def cellsLine? (header : Option (List String)) (cells : List Value) : Option String :=
  (((Row.columns header cells.length).zip cells).mapM fun (cell : String × Value) =>
    cell.2.shown?.map (cell.1 ++ ": " ++ ·)).map (separate ", ")

def tableText? (header : Option (List String)) (table : List (List Value)) : Option String :=
  if table.isEmpty then some noRows
  else (table.mapM (cellsLine? header)).map fun lines =>
    "Found " ++ toString table.length ++ " rows:\n" ++ separate "\n" lines

private theorem cellText?_text (column : String) (cell : Value) :
    cellText? (.text column, cell) = cell.shown?.map (column ++ ": " ++ ·) := by
  unfold cellText?
  cases cell.shown? with
  | none => rfl
  | some shown => rfl

private theorem rowLine?_rowOf {header : Option (List String)} {cells : List Value}
    (apart : ¬Row.Repeats header cells.length) :
    rowLine? (rowOf header cells) = cellsLine? header cells := by
  rw [rowOf_of_not_repeats apart, rowLine?, cellsLine?, Pairs.ofTexts, List.mapM_map]
  simp only [Function.comp_def, cellText?_text]

private theorem rowsText?_rowOf {header : Option (List String)} {table : List (List Value)}
    (apart : ∀ cells ∈ table, ¬Row.Repeats header cells.length) :
    rowsText? (table.map (rowOf header)) = tableText? header table := by
  have lines : (table.map (rowOf header)).mapM rowLine? = table.mapM (cellsLine? header) := by
    rw [List.mapM_map]
    exact mapM_congr fun cells member => rowLine?_rowOf (apart cells member)
  rw [rowsText?, tableText?, lines, List.isEmpty_map, List.length_map]

private theorem outcome_rows_of_permits (permitted : executor.Permits (.rows query) request)
    (answered : graph request = .ok result) {rows : List Row} (read : result.rows = .ok rows) :
    (executor.rows graph query).outcome = writing (rowsText? rows) := by
  cases permitted with
  | rows accepted limited =>
      have passed := (sentText_eq_ok_iff _ _ _).mpr ⟨_, rfl, accepted, limited⟩
      exact outcome_rows passed answered read

/-- Whether a count comes out as this number and says so. -/
def Reports (executor : Executor) (graph : Graph) (query number : Value) : Prop :=
  (executor.countAttempt graph query).result = .ok number ∧
    ∃ text, number.shown? = some text ∧
      (executor.count graph query).outcome = .ok ("Count: " ++ text)

theorem reports_iff (permitted : executor.Permits (.count query) request)
    (answered : graph request = .ok result) {rows : List Row} (read : result.rows = .ok rows)
    (number : Value) :
    executor.Reports graph query number ↔
      QueryResult.count? rows = some number ∧ number.shown? ≠ none := by
  have outcome := countAttempt_of_permits permitted answered
  have counted : (executor.countAttempt graph query).result = .ok number ↔
      QueryResult.count? rows = some number := by
    rw [outcome, rowsThen_eq_ok_iff, ← countOf_eq_ok_iff, read]
    simp
  rw [Reports, counted, Option.ne_none_iff_exists']
  refine and_congr_right fun isCount => exists_congr fun text => and_iff_left_of_imp fun shown => ?_
  cases permitted with
  | count accepted =>
      have passed := (validated_eq_ok_iff _ _ _).mpr ⟨_, rfl, accepted, rfl⟩
      exact outcome_count passed answered read isCount shown

/-- Whether the one row of a table has one cell, or a header that gives all of its cells one
name, and this number is its last cell. -/
def SoleNumber (header : Option (List String)) (table : List (List Value)) (number : Value) :
    Prop :=
  number.isPlainNumber = true ∧ ∃ cells, table = [cells] ∧
    (cells = [number] ∨ 1 < cells.length ∧ cells.getLast? = some number ∧
      ∃ name, header = some (List.replicate cells.length name))

private theorem SoleNumber.table_eq {header : Option (List String)} {table : List (List Value)}
    {number : Value} (sole : SoleNumber header table number)
    (apart : ∀ cells ∈ table, ¬Row.Repeats header cells.length) : table = [[number]] := by
  obtain ⟨_, cells, rfl, rfl | ⟨several, _, name, rfl⟩⟩ := sole
  · rfl
  · have repeats : Row.Repeats (some (List.replicate cells.length name)) cells.length := by
      refine ⟨_, rfl, List.length_replicate, ?_⟩
      rw [List.nodup_replicate]
      omega
    exact absurd repeats (apart cells List.mem_cons_self)

theorem reports_table_iff {header : Option (List String)} {table : List (List Value)}
    (isTable : result.IsTable header table) (permitted : executor.Permits (.count query) request)
    (answered : graph request = .ok result)
    (noCount : ∀ cells ∈ table, ¬HasCountColumn header cells) (number : Value) :
    executor.Reports graph query number ↔
      SoleNumber header table number ∧ number.shown? ≠ none := by
  rw [reports_iff permitted answered isTable.rows_eq, count?_eq_some_iff, SoleNumber]
  refine and_congr_left' ⟨?_, ?_⟩
  · intro ⟨row, single, counted, plain⟩
    obtain ⟨cells, rfl, rfl⟩ := List.map_eq_singleton_iff.mp single
    have alone := (countCell_rowOf_iff (noCount cells List.mem_cons_self) plain).mp counted
    exact ⟨plain, cells, rfl, (exists_rowOf_eq_singleton_iff header cells number).mp alone⟩
  · intro ⟨plain, cells, isCells, sole⟩
    subst isCells
    have alone := (exists_rowOf_eq_singleton_iff header cells number).mpr sole
    have counted := (countCell_rowOf_iff (noCount cells List.mem_cons_self) plain).mpr alone
    exact ⟨_, rfl, counted, plain⟩

/-- The rows that a table is read as, and what the tools make of them. A row has all its cells,
in order, if and only if the header does not name a column of this row twice; where it does so
in no row, the reply shows each cell behind its column. A number that is counted without a
column for counts is then the only cell of the answer. Otherwise it may also be the last of
several cells that a header gives one name. -/
structure KeepsCells (result : QueryResult) (header : Option (List String))
    (table : List (List Value)) (rows : List Row) : Prop where
  read : result.rows = .ok rows
  keeps : List.Forall₂ (fun row cells =>
      row.length = cells.length ∧ row.map Prod.snd = cells ↔ ¬Row.Repeats header cells.length)
    rows table
  outcome : ∀ (executor : Executor) graph query request,
    executor.Permits (.rows query) request → graph request = .ok result →
      (executor.rows graph query).outcome = writing (rowsText? rows)
  text : (∀ cells ∈ table, ¬Row.Repeats header cells.length) →
    rowsText? rows = tableText? header table
  reports : ∀ (executor : Executor) graph query request,
    executor.Permits (.count query) request → graph request = .ok result →
      (∀ cells ∈ table, ¬HasCountColumn header cells) → ∀ number,
        (executor.Reports graph query number ↔
          SoleNumber header table number ∧ number.shown? ≠ none)
  alone : ∀ (executor : Executor) graph query request,
    executor.Permits (.count query) request → graph request = .ok result →
      (∀ cells ∈ table, ¬HasCountColumn header cells) →
        (∀ cells ∈ table, ¬Row.Repeats header cells.length) → ∀ number,
          executor.Reports graph query number → table = [[number]]

/-- Every table can be read as rows, which keep cells as the header lets them. -/
theorem rows_keepCells_iff {header : Option (List String)} {table : List (List Value)}
    (isTable : result.IsTable header table) : ∃ rows, KeepsCells result header table rows := by
  refine ⟨_, isTable.rows_eq, ?_, ?_, rowsText?_rowOf, ?_, ?_⟩
  · rw [List.forall₂_map_left_iff, List.forall₂_same]
    intro cells _
    exact rowOf_keeps_iff header cells
  · intro executor graph query request permitted answered
    exact outcome_rows_of_permits permitted answered isTable.rows_eq
  · intro executor graph query request permitted answered noCount number
    exact reports_table_iff isTable permitted answered noCount number
  · intro executor graph query request permitted answered noCount apart number reported
    have reports := reports_table_iff isTable permitted answered noCount number
    exact (reports.mp reported).1.table_eq apart

private def tableResult (header : Option (List String)) (table : List (List Value)) : QueryResult :=
  { cells := .list (table.map .list), header := headerOf header, statistics := .null }

private theorem isTable_tableResult (header : Option (List String)) (table : List (List Value)) :
    (tableResult header table).IsTable header table where
  header := rfl
  rows := by
    refine ⟨_, rfl, ?_⟩
    rw [List.forall₂_map_left_iff, List.forall₂_same]
    exact fun _ _ => rfl

private def sizesTable : List (List Value) :=
  [[.text "Ulm", .int 3], [.text "Bonn"]]

private def sizesResult : QueryResult :=
  tableResult (some ["name", "size"]) sizesTable

theorem rows_keepCells_iff_sizes :
    sizesResult.IsTable (some ["name", "size"]) sizesTable ∧
      townExecutor.Permits townCall townRequest ∧
      (townExecutor.perform (fun _ => .ok sizesResult) townCall).outcome =
        .ok "Found 2 rows:\nname: Ulm, size: 3\ncol_0: Bonn" := by
  have isTable : sizesResult.IsTable (some ["name", "size"]) sizesTable :=
    isTable_tableResult _ _
  obtain ⟨rows, kept⟩ := rows_keepCells_iff isTable
  have apart : ∀ cells ∈ sizesTable, ¬Row.Repeats (some ["name", "size"]) cells.length := by
    intro cells member
    rw [← Row.nodup_columns_iff]
    revert cells
    decide
  have outcome := kept.outcome townExecutor (fun _ => .ok sizesResult) _ _ townExecutor_permits rfl
  have shown : tableText? (some ["name", "size"]) sizesTable =
      some "Found 2 rows:\nname: Ulm, size: 3\ncol_0: Bonn" := by
    decide +kernel
  refine ⟨isTable, townExecutor_permits, outcome.trans ?_⟩
  rw [kept.text apart, shown]
  rfl

private def twiceText : String := "MATCH (t:Town) RETURN t.age AS a, t.size AS a"

private theorem twiceText_judged :
    (townExecutor.validator.validate townSchema (.ready (.ofRaw twiceText))).isOk = true := by
  decide +kernel

private def twiceNamed : QueryResult :=
  tableResult (some ["a", "a"]) [[.int 7, .int 3]]

/-- The first of two cells under one name is gone, and the second one is taken for a count. -/
theorem twiceNamed_loses_cell :
    twiceNamed.IsTable (some ["a", "a"]) [[.int 7, .int 3]] ∧
      twiceNamed.rows = .ok [[(.text "a", .int 3)]] ∧
      ¬HasCountColumn (some ["a", "a"]) [.int 7, .int 3] ∧
      (townExecutor.rows (fun _ => .ok twiceNamed) (.text twiceText)).outcome =
        .ok "Found 1 rows:\na: 3" ∧
      (townExecutor.count (fun _ => .ok twiceNamed) (.text twiceText)).outcome =
        .ok "Count: 3" := by
  have isTable : twiceNamed.IsTable (some ["a", "a"]) [[.int 7, .int 3]] :=
    isTable_tableResult _ _
  have read : twiceNamed.rows = .ok [[(.text "a", .int 3)]] := by
    rw [isTable.rows_eq]
    rfl
  have permittedRows : townExecutor.Permits (.rows (.text twiceText))
      { query := twiceText ++ "\nLIMIT 100", parameters := none } :=
    townExecutor_permits_rows twiceText_judged (by decide +kernel)
  have permittedCount : townExecutor.Permits (.count (.text twiceText))
      { query := normalize twiceText, parameters := none } :=
    .count (townExecutor_accepts twiceText_judged)
  obtain ⟨_, text, shown, counted⟩ :
      townExecutor.Reports (fun _ => .ok twiceNamed) (.text twiceText) (.int 3) :=
    (reports_iff permittedCount rfl read (.int 3)).mpr ⟨rfl, by decide⟩
  have rowsShown : rowsText? [[(.text "a", .int 3)]] = some "Found 1 rows:\na: 3" := by
    decide +kernel
  have numberShown : (Value.int 3).shown? = some "3" := by decide
  refine ⟨isTable, read, by decide, ?_, ?_⟩
  · rw [outcome_rows_of_permits permittedRows rfl read, rowsShown]
    rfl
  · rw [counted, ← Option.some.inj (numberShown.symm.trans shown)]
    rfl

end Executor

end QueryWarden
