/-
Texts that the tools show. The texts of failures begin like the message of an error, and no
other text does. A text is missing if and only if one of the values that it shows has no text.
-/

import QueryWarden.Proofs.Number.Numeral
import QueryWarden.Proofs.Result
import QueryWarden.Proofs.Tool.Guard
import QueryWarden.Tool.Executor

namespace QueryWarden

/-! ### Values that have no text -/

def LacksText (values : List Value) : Prop :=
  ∃ value ∈ values, value.shown? = none

def Executor.entityValues (missing : String) (row : Row) : List Value :=
  [row.getD "name" (.text missing), row.getD "id" (.text missing)]

theorem Value.shown?_of_large {integer : Int}
    (large : 10 ^ Number.longestInteger ≤ integer.natAbs) : (Value.int integer).shown? = none := by
  have unwritable := (Number.isUnwritable_iff integer).mpr large
  rw [Value.shown?, Value.written?, if_pos unwritable]
  exact nofun

theorem Value.shown?_of_small {integer : Int}
    (small : integer.natAbs < 10 ^ Number.longestInteger) :
    (Value.int integer).shown? = some (toString integer) := by
  have writable : ¬Number.isUnwritable integer = true := by
    rw [Number.isUnwritable_iff]
    exact Nat.not_le.mpr small
  rw [Value.shown?, Value.written?, if_neg writable]
  exact nofun

/-! ### How replies begin -/

section

variable {text : String}

theorem isErrorText.append (error : isErrorText text) (more : String) :
    isErrorText (text ++ more) := by
  unfold isErrorText
  rw [String.toList_append]
  exact error.trans (List.prefix_append _ _)

def OpensWith (letter : Char) (text : String) : Prop :=
  text.toList.head? = some letter

instance (letter : Char) (text : String) : Decidable (OpensWith letter text) :=
  inferInstanceAs (Decidable (text.toList.head? = some letter))

theorem OpensWith.append {letter : Char} (opens : OpensWith letter text) (more : String) :
    OpensWith letter (text ++ more) := by
  unfold OpensWith at opens ⊢
  rw [String.toList_append, List.head?_append, opens]
  rfl

theorem OpensWith.not_isErrorText {letter : Char} (opens : OpensWith letter text)
    (other : letter ≠ 'E') : ¬isErrorText text := by
  rintro ⟨rest, same⟩
  unfold OpensWith at opens
  rw [← same, List.head?_append] at opens
  have first : "ERROR: ".toList.head? = some 'E' := by decide
  rw [first] at opens
  exact other (Option.some.inj opens).symm

end

namespace Executor

section

variable {rows : List Row} {text : String}

theorem isErrorText_failure (message guidance : String) :
    isErrorText (failure message guidance) := by
  have start : isErrorText "ERROR: " := List.prefix_refl _
  exact ((start.append message).append "\n").append guidance

theorem isErrorText_of_failure {found : Option String} {message guidance : String → String}
    (told : found.map (fun text => failure (message text) (guidance text)) = some text) :
    isErrorText text := by
  obtain ⟨_, _, rfl⟩ := Option.map_eq_some_iff.mp told
  exact isErrorText_failure _ _

theorem opensWith_found : OpensWith 'F' "Found " := by decide

private theorem opensWith_no : OpensWith 'N' "No " := by decide

theorem not_isErrorText_rowsText (told : rowsText? rows = some text) :
    ¬isErrorText text := by
  unfold rowsText? at told
  split at told
  · cases told
    have opens : OpensWith 'N' "No results found. This could mean:\n" := by decide
    exact (((opens.append _).append _).append _).not_isErrorText (by decide)
  · obtain ⟨lines, _, rfl⟩ := Option.map_eq_some_iff.mp told
    exact (((opensWith_found.append _).append _).append _).not_isErrorText (by decide)

theorem not_isErrorText_valuesText (values : List String) :
    ¬isErrorText (valuesText values) := by
  unfold valuesText
  split
  · have opens : OpensWith 'N' "No values found." := by decide
    exact opens.not_isErrorText (by decide)
  · exact (((opensWith_found.append _).append _).append _).not_isErrorText (by decide)

theorem not_isErrorText_foundText {label : String} {term : Value}
    (told : foundText? label term rows = some text) : ¬isErrorText text := by
  unfold foundText? at told
  split at told
  · obtain ⟨_, _, rfl⟩ := Option.map_eq_some_iff.mp told
    exact (((((opensWith_no.append _).append _).append _).append _).append _).not_isErrorText
      (by decide)
  · obtain ⟨_, _, rfl⟩ := Option.map_eq_some_iff.mp told
    have opens : OpensWith 'F' "Found exact match: " := by decide
    exact ((opens.append _).append _).not_isErrorText (by decide)
  · obtain ⟨_, _, rfl⟩ := Option.map_eq_some_iff.mp told
    exact ((((((opensWith_found.append _).append _).append _).append _).append _).append
      _).not_isErrorText (by decide)

theorem not_isErrorText_listedText {label : String}
    (told : listedText? label rows = some text) :
    ¬isErrorText text := by
  unfold listedText? at told
  split at told
  · cases told
    exact ((opensWith_no.append _).append _).not_isErrorText (by decide)
  · obtain ⟨_, _, rfl⟩ := Option.map_eq_some_iff.mp told
    exact (((((opensWith_found.append _).append _).append _).append _).append
      _).not_isErrorText (by decide)

end

/-! ### Texts that are missing -/

theorem lacksText_flatMap {α : Type} {values : α → List Value} {items : List α} :
    LacksText (items.flatMap values) ↔ ∃ item ∈ items, LacksText (values item) := by
  simp only [LacksText, List.mem_flatMap]
  grind

theorem joined_eq_none_iff (left right : Value) (join : String → String → String) :
    (do let first ← left.shown?; let second ← right.shown?; return join first second) = none ↔
      LacksText [left, right] := by
  unfold LacksText
  cases leftText : left.shown? with
  | none => simp [leftText]
  | some first =>
      cases rightText : right.shown? with
      | none => simp [rightText]
      | some second => simp [leftText, rightText]

theorem cellText?_eq_none_iff (cell : Value × Value) :
    cellText? cell = none ↔ LacksText [cell.1, cell.2] :=
  joined_eq_none_iff cell.1 cell.2 (fun column shown => column ++ ": " ++ shown)

theorem rowLine?_eq_none_iff (row : Row) :
    rowLine? row = none ↔ LacksText (row.flatMap fun cell => [cell.1, cell.2]) := by
  rw [rowLine?, Option.map_eq_none_iff, mapM_eq_none_iff, lacksText_flatMap]
  simp only [cellText?_eq_none_iff]

theorem rowsText?_eq_none_iff (rows : List Row) :
    rowsText? rows = none ↔
      LacksText (rows.flatMap fun row => row.flatMap fun cell => [cell.1, cell.2]) := by
  cases rows with
  | nil => simp [rowsText?, LacksText]
  | cons row rows =>
      rw [rowsText?, List.isEmpty_cons, if_neg Bool.false_ne_true, Option.map_eq_none_iff,
        mapM_eq_none_iff, lacksText_flatMap]
      simp only [rowLine?_eq_none_iff]

theorem nameAndId?_eq_none_iff (missing : String) (row : Row) :
    nameAndId? missing row = none ↔ LacksText (entityValues missing row) :=
  joined_eq_none_iff _ _ (fun name id => name ++ " (id: " ++ id ++ ")")

theorem listing?_eq_none_iff (missing : String) (rows : List Row) :
    listing? missing rows = none ↔ LacksText (rows.flatMap (entityValues missing)) := by
  rw [listing?, Option.map_eq_none_iff, mapM_eq_none_iff, lacksText_flatMap]
  simp only [nameAndId?_eq_none_iff]

theorem foundText?_eq_none_iff (label : String) {term : Value} {shown : String}
    (hasText : term.shown? = some shown) (rows : List Row) :
    foundText? label term rows = none ↔ LacksText (rows.flatMap (entityValues "unknown")) := by
  match rows with
  | [] => simp [foundText?, hasText, LacksText]
  | [row] =>
      rw [foundText?, Option.map_eq_none_iff, nameAndId?_eq_none_iff, List.flatMap_singleton]
  | first :: second :: others =>
      rw [foundText?, Option.map_eq_none_iff, listing?_eq_none_iff]
      all_goals simp

theorem listedText?_eq_none_iff (label : String) (rows : List Row) :
    listedText? label rows = none ↔ LacksText (rows.flatMap (entityValues "?")) := by
  cases rows with
  | nil => simp [listedText?, LacksText]
  | cons row rows =>
      rw [listedText?, List.isEmpty_cons, if_neg Bool.false_ne_true, Option.map_eq_none_iff,
        listing?_eq_none_iff]

end Executor

end QueryWarden
