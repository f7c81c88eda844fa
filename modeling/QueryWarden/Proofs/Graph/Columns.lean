/-
The columns of a result. A row whose length is that of the header takes its columns from the
header, and any other row from the places of its cells. What becomes of the row is a mapping,
in which each column stands once and has the last cell that came under its name. No two places
have the same name, so a row loses a cell only to a header that names a column twice.
-/

import QueryWarden.Graph.Result
import QueryWarden.Proofs.Bindings
import QueryWarden.Proofs.Number.Numeral
import QueryWarden.Proofs.Result
import QueryWarden.Scope.Given

namespace QueryWarden

open Number

/-! ### Mappings of columns -/

namespace Row

def placeNames (first count : Nat) : List String :=
  (List.range' first count).map fun place => "col_" ++ toString place

def columns (header : Option (List String)) (width : Nat) : List String :=
  match header with
  | some names => if names.length = width then names else placeNames 0 width
  | none => placeNames 0 width

/-- Each column with the last of its cells. -/
def keyed (columns : List String) (cells : List Value) : Bindings :=
  Bindings.override [] (columns.zip cells)

/-- Whether the header names the cells of rows of this length, and one name twice. -/
def Repeats (header : Option (List String)) (width : Nat) : Prop :=
  ∃ names, header = some names ∧ names.length = width ∧ ¬names.Nodup

theorem length_placeNames (first count : Nat) : (placeNames first count).length = count := by
  simp [placeNames]

theorem nodup_placeNames (first count : Nat) : (placeNames first count).Nodup := by
  apply (List.nodup_range' 1).map
  intro place other same
  have letters := congrArg String.toList same
  simp only [String.toList_append] at letters
  exact decimalDigits_injective (List.append_cancel_left letters)

theorem length_columns (header : Option (List String)) (width : Nat) :
    (columns header width).length = width := by
  unfold columns
  split
  · split
    · assumption
    · exact length_placeNames 0 width
  · exact length_placeNames 0 width

theorem nodup_columns_iff (header : Option (List String)) (width : Nat) :
    (columns header width).Nodup ↔ ¬Repeats header width := by
  cases header with
  | none => simp [columns, Repeats, nodup_placeNames]
  | some names =>
      by_cases fits : names.length = width
      · simp [columns, Repeats, fits]
      · simp [columns, Repeats, fits, nodup_placeNames]

section

variable {columns : List String} {cells : List Value} {name : String} {cell : Value}

theorem names_zip (same : columns.length = cells.length) :
    Bindings.names (columns.zip cells) = columns :=
  List.map_fst_zip (Nat.le_of_eq same)

private theorem cells_zip (same : columns.length = cells.length) :
    (columns.zip cells).map Prod.snd = cells :=
  List.map_snd_zip (Nat.le_of_eq same.symm)

private theorem nodup_names_keyed (columns : List String) (cells : List Value) :
    (Bindings.names (keyed columns cells)).Nodup := by
  have noNames : (Bindings.names []).Nodup := List.nodup_nil
  exact Bindings.nodup_names_override noNames _

theorem mem_names_keyed_iff (same : columns.length = cells.length) :
    name ∈ Bindings.names (keyed columns cells) ↔ name ∈ columns := by
  rw [keyed, Bindings.mem_names_override_iff, names_zip same]
  simp [Bindings.names]

theorem keyed_of_nodup (distinct : columns.Nodup) (same : columns.length = cells.length) :
    keyed columns cells = columns.zip cells := by
  have distinctNames : (Bindings.names (columns.zip cells)).Nodup := by
    rw [names_zip same]
    exact distinct
  exact Bindings.override_eq_append (List.disjoint_nil_left _) distinctNames

/-- A row has as many entries as cells if and only if its columns have different names. -/
theorem length_keyed_iff (same : columns.length = cells.length) :
    (keyed columns cells).length = cells.length ↔ columns.Nodup := by
  constructor
  · intro whole
    have kept : keyed columns cells = columns.zip cells := by
      apply Bindings.override_eq_append_of_length
      simpa [keyed, same] using whole
    have distinct := nodup_names_keyed columns cells
    rw [kept, names_zip same] at distinct
    exact distinct
  · intro distinct
    rw [keyed_of_nodup distinct same, List.length_zip, same, Nat.min_self]

private theorem lookup_of_all_named {entries : Bindings}
    (named : ∀ entry ∈ entries, entry.1 = name) :
    entries.lookup name = entries.head?.map Prod.snd := by
  cases entries with
  | nil => rfl
  | cons entry entries =>
      obtain ⟨other, value⟩ := entry
      have here : other = name := named (other, value) List.mem_cons_self
      simp [here]

/-- Under the only name of a row stands its last cell. -/
theorem lookup_keyed_of_all_named (same : columns.length = cells.length)
    (named : ∀ column ∈ columns, column = name) :
    (keyed columns cells).lookup name = cells.getLast? := by
  have namedEntries : ∀ entry ∈ (columns.zip cells).reverse, entry.1 = name := by
    intro entry member
    exact named entry.1 (List.of_mem_zip (List.mem_reverse.mp member)).1
  rw [keyed, Bindings.lookup_override, lookup_of_all_named namedEntries, List.head?_reverse,
    ← List.getLast?_map, cells_zip same]
  simp

/-- A row has a single entry if and only if all its columns have one name. -/
theorem keyed_eq_singleton_iff (same : columns.length = cells.length) :
    keyed columns cells = [(name, cell)] ↔
      cells.getLast? = some cell ∧ ∀ column ∈ columns, column = name := by
  constructor
  · intro single
    have named : ∀ column ∈ columns, column = name := by
      intro column member
      rw [← mem_names_keyed_iff same, single] at member
      exact List.mem_singleton.mp member
    rw [← lookup_keyed_of_all_named same named, single]
    exact ⟨by simp, named⟩
  · intro ⟨last, named⟩
    have found := lookup_keyed_of_all_named same named
    have distinct := nodup_names_keyed columns cells
    have namedEntries : ∀ entry ∈ keyed columns cells, entry.1 = name := by
      intro entry member
      exact named entry.1 ((mem_names_keyed_iff same).mp (List.mem_map_of_mem member))
    cases entries : keyed columns cells with
    | nil => simp [entries, last] at found
    | cons entry others =>
        rw [entries] at found distinct namedEntries
        have alone : others = [] := by
          cases others with
          | nil => rfl
          | cons second others => simp_all [Bindings.names]
        rw [lookup_of_all_named namedEntries, last] at found
        have isCell : entry.2 = cell := Option.some.inj found
        have isName : entry.1 = name := namedEntries entry List.mem_cons_self
        rw [alone, ← isCell, ← isName]

end

/-! ### Rows -/

private theorem ofPlaces_eq (first : Nat) (cells : List Value) :
    ofPlaces first cells = Pairs.ofTexts ((placeNames first cells.length).zip cells) := by
  induction cells generalizing first with
  | nil => simp [ofPlaces, Pairs.ofTexts]
  | cons cell cells ih =>
      simp [ofPlaces, ih, placeNames, placeName, Pairs.ofTexts, List.range'_succ]

private theorem ofHeader_eq (names : List String) (cells : List Value) :
    ofHeader (names.map .text) cells = Pairs.ofTexts (keyed names cells) := by
  have pairs : (names.map Value.text).zip cells = Pairs.ofTexts (names.zip cells) :=
    List.zip_map_left
  have put := Scope.override_ofTexts [] (names.zip cells)
  rw [ofHeader, pairs]
  exact put

end Row

private theorem Value.length_of_items {value : Value} {items : List Value}
    (read : value.items = .ok items) :
    value.length = .ok items.length := by
  cases value with
  | text value =>
      cases read
      rw [Value.length, List.length_map, String.length_toList]
  | list found | tuple found | set found =>
      cases read
      rfl
  | map entries =>
      cases read
      simp [Value.length]
  | _ => contradiction

private theorem Value.hashableItems_texts (texts : List String) :
    Value.hashableItems (texts.map .text) = .ok () := by
  induction texts with
  | nil => rfl
  | cons text texts ih => simp [Value.hashableItems, Value.hashable, ih]

namespace QueryResult

def headerOf : Option (List String) → Value
  | some names => .ofTexts names
  | none => .null

/-- Whether a result has this header, if any, and rows of these cells. -/
structure IsTable (result : QueryResult) (header : Option (List String))
    (table : List (List Value)) : Prop where
  header : result.header = headerOf header
  rows : ∃ rows, result.cells.items = .ok rows ∧
    List.Forall₂ (fun row cells => row.items = .ok cells) rows table

def rowOf (header : Option (List String)) (cells : List Value) : Row :=
  Pairs.ofTexts (Row.keyed (Row.columns header cells.length) cells)

private theorem headerFits_some {row : Value} {cells : List Value} (read : row.items = .ok cells)
    (name : String) (names : List String) :
    headerFits (headerOf (some (name :: names))) row =
      .ok ((name :: names).length == cells.length) := by
  have width : (headerOf (some (name :: names))).length = .ok (name :: names).length := by
    simp [headerOf, Value.ofTexts, Value.length]
  have truthy : (headerOf (some (name :: names))).truthy = true := rfl
  rw [headerFits, if_pos truthy, width, Value.length_of_items read]
  rfl

private theorem row_eq {row : Value} {cells : List Value} (read : row.items = .ok cells)
    (header : Option (List String)) :
    QueryResult.row (headerOf header) row = .ok (rowOf header cells) := by
  have byPlaces (notFits : headerFits (headerOf header) row = .ok false)
      (places : Row.columns header cells.length = Row.placeNames 0 cells.length) :
      QueryResult.row (headerOf header) row = .ok (rowOf header cells) := by
    rw [QueryResult.row, notFits, read, rowOf, places,
      Row.keyed_of_nodup (Row.nodup_placeNames 0 _) (Row.length_placeNames 0 _), ← Row.ofPlaces_eq]
    rfl
  match header with
  | none => exact byPlaces rfl rfl
  | some [] =>
      apply byPlaces rfl
      cases cells <;> simp [Row.columns, Row.placeNames]
  | some (name :: names) =>
      have fits := headerFits_some read name names
      by_cases same : (name :: names).length = cells.length
      · rw [beq_iff_eq.mpr same] at fits
        have items : (headerOf (some (name :: names))).items = .ok ((name :: names).map .text) := rfl
        have columns : Row.columns (some (name :: names)) cells.length = name :: names := if_pos same
        rw [rowOf, columns, ← Row.ofHeader_eq, QueryResult.row, fits, items, read]
        change Value.hashableItems ((name :: names).map .text) >>= _ = _
        rw [Value.hashableItems_texts]
        rfl
      · rw [beq_eq_false_iff_ne.mpr same] at fits
        exact byPlaces fits (if_neg same)

/-- Every table can be read as rows. -/
theorem IsTable.rows_eq {result : QueryResult} {header : Option (List String)}
    {table : List (List Value)} (isTable : result.IsTable header table) :
    result.rows = .ok (table.map (rowOf header)) := by
  obtain ⟨rows, read, readEach⟩ := isTable.rows
  unfold QueryResult.rows
  rw [read, isTable.header]
  apply mapM_eq_ok_iff.mpr
  rw [List.forall₂_map_right_iff]
  exact readEach.imp fun _ _ readRow => row_eq readRow header

/-! ### Cells -/

theorem rowOf_of_not_repeats {header : Option (List String)} {cells : List Value}
    (apart : ¬Row.Repeats header cells.length) :
    rowOf header cells = Pairs.ofTexts ((Row.columns header cells.length).zip cells) := by
  have distinct := (Row.nodup_columns_iff header cells.length).mpr apart
  rw [rowOf, Row.keyed_of_nodup distinct (Row.length_columns header _)]

/-- A row has an entry for each of its cells, and they are its cells in order, if and only if no
column is named twice. -/
theorem rowOf_keeps_iff (header : Option (List String)) (cells : List Value) :
    ((rowOf header cells).length = cells.length ∧ (rowOf header cells).map Prod.snd = cells) ↔
      ¬Row.Repeats header cells.length := by
  have same := Row.length_columns header cells.length
  constructor
  · intro ⟨whole, _⟩
    rw [rowOf, Pairs.ofTexts, List.length_map, Row.length_keyed_iff same] at whole
    exact (Row.nodup_columns_iff header cells.length).mp whole
  · intro apart
    have values : (rowOf header cells).map Prod.snd = cells := by
      rw [rowOf_of_not_repeats apart, Pairs.ofTexts, List.map_map]
      exact Row.cells_zip same
    have lengths := congrArg List.length values
    rw [List.length_map] at lengths
    exact ⟨lengths, values⟩

private theorem exists_rowOf_eq_singleton_iff_columns (header : Option (List String))
    (cells : List Value)
    (cell : Value) :
    (∃ name, rowOf header cells = [(name, cell)]) ↔
      cells.getLast? = some cell ∧
        ∃ name, Row.columns header cells.length = List.replicate cells.length name := by
  have same := Row.length_columns header cells.length
  constructor
  · intro ⟨name, single⟩
    obtain ⟨entry, keyed, isEntry⟩ := List.map_eq_singleton_iff.mp single
    have isCell : entry.2 = cell := congrArg Prod.snd isEntry
    obtain ⟨last, named⟩ := (Row.keyed_eq_singleton_iff same).mp keyed
    exact ⟨isCell ▸ last, entry.1, List.eq_replicate_iff.mpr ⟨same, named⟩⟩
  · intro ⟨last, name, named⟩
    have keyed := (Row.keyed_eq_singleton_iff same).mpr ⟨last, (List.eq_replicate_iff.mp named).2⟩
    exact ⟨.text name, by rw [rowOf, keyed]; rfl⟩

/-- A row of a single entry has a single cell, or its header has one name for all cells. -/
theorem exists_rowOf_eq_singleton_iff (header : Option (List String)) (cells : List Value)
    (cell : Value) :
    (∃ name, rowOf header cells = [(name, cell)]) ↔
      cells = [cell] ∨ 1 < cells.length ∧ cells.getLast? = some cell ∧
        ∃ name, header = some (List.replicate cells.length name) := by
  rw [exists_rowOf_eq_singleton_iff_columns]
  constructor
  · intro ⟨last, name, named⟩
    match cells with
    | [] => simp at last
    | [only] => exact .inl (congrArg ([·]) (Option.some.inj last))
    | first :: second :: others =>
        right
        refine ⟨by simp, last, name, ?_⟩
        have repeats : Row.Repeats header (first :: second :: others).length := by
          apply Classical.not_not.mp
          rw [← Row.nodup_columns_iff, named, List.nodup_replicate]
          simp
        obtain ⟨names, rfl, fits, _⟩ := repeats
        rw [Row.columns, if_pos fits] at named
        exact congrArg some named
  · intro either
    rcases either with rfl | ⟨_, last, name, rfl⟩
    · obtain ⟨name, named⟩ := List.length_eq_one_iff.mp (Row.length_columns header 1)
      exact ⟨rfl, name, named⟩
    · exact ⟨last, name, if_pos List.length_replicate⟩

end QueryResult

end QueryWarden
