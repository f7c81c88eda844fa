/-
Names of parameters in filters that share a query. A name is a stem with the number of a leaf
behind it, so different stems alone do not keep the names of two filters apart: where one stem
goes on with the digits of a number, the other may count up to the same name. Exactly then do
two filters have a name in common. Stems that do not end in a digit are always safe.
-/

import QueryWarden.Proofs.Bindings
import QueryWarden.Proofs.Filter.Outline

namespace QueryWarden

open Number

/-! ### Counting up to another stem -/

/-- Whether as many leaves under one stem are enough for a name that starts with the other
stem: this is the first stem with the digits of a positive number, and the leaves go past the
tenfold of that number. -/
def Identifier.Reaches (stem other : Identifier) (leaves : Nat) : Prop :=
  ∃ number, 0 < number ∧ other.name = stem.name ++ toString number ∧ 10 * number < leaves

private theorem Identifier.eq_of_name {first second : Identifier}
    (same : first.name = second.name) :
    first = second := by
  cases first
  cases second
  cases same
  rfl

def Identifier.endsInDigit (identifier : Identifier) : Bool :=
  identifier.name.toList.getLast?.any Char.isDigit

theorem Identifier.not_reaches_of_endsInDigit {stem other : Identifier} (leaves : Nat)
    (noDigit : other.endsInDigit = false) : ¬ stem.Reaches other leaves := by
  intro ⟨number, _, continued, _⟩
  have nonempty := decimalDigits_ne_nil number
  have digit := isDigit_of_mem_decimalDigits (List.getLast_mem nonempty)
  have ends : other.name.toList.getLast? = some ((decimalDigits number).getLast nonempty) := by
    rw [continued, String.toList_append, List.getLast?_append]
    change (decimalDigits number).getLast?.or _ = _
    rw [List.getLast?_eq_some_getLast nonempty, Option.some_or]
  rw [Identifier.endsInDigit, ends, Option.any_some, digit] at noDigit
  cases noDigit

namespace Compiler

theorem toList_parameter (compiler : Compiler) (index : Nat) :
    (compiler.parameter index).toList = compiler.stem.name.toList ++ decimalDigits index := by
  rw [parameter, String.toList_append]
  rfl

/-- The first name under the longer stem is one that the shorter stem comes to. -/
theorem parameter_tenfold {first second : Compiler} {number : Nat} (positive : 0 < number)
    (continued : second.stem.name = first.stem.name ++ toString number) :
    first.parameter (10 * number) = second.parameter 0 := by
  apply String.toList_inj.mp
  rw [toList_parameter, toList_parameter, decimalDigits_tenfold positive, continued,
    String.toList_append, List.append_assoc]
  rfl

private theorem exists_continued {first second : Compiler} {index other : Nat} {more : List Char}
    (longer : second.stem.name.toList = first.stem.name.toList ++ more) (apart : more ≠ [])
    (numbers : decimalDigits index = more ++ decimalDigits other) :
    ∃ number, 0 < number ∧ second.stem.name = first.stem.name ++ toString number ∧
      10 * number ≤ index := by
  obtain ⟨number, positive, rfl, bound⟩ :=
    exists_leading apart (decimalDigits_ne_nil other) numbers
  refine ⟨number, positive, ?_, bound⟩
  apply String.toList_inj.mp
  rw [longer, String.toList_append]
  rfl

/-- Two stems that lead to one name are the same, or one of them continues the other by the
digits of a number that stand at the front of a number of a leaf. -/
theorem continued_of_parameter_eq {first second : Compiler} (apart : first.stem ≠ second.stem)
    {index other : Nat} (same : first.parameter index = second.parameter other) :
    first.stem.Reaches second.stem (index + 1) ∨ second.stem.Reaches first.stem (other + 1) := by
  have letters := congrArg String.toList same
  rw [toList_parameter, toList_parameter] at letters
  have different : first.stem.name.toList ≠ second.stem.name.toList := by
    intro equal
    exact apart (Identifier.eq_of_name (String.toList_inj.mp equal))
  rcases List.append_eq_append_iff.mp letters with ⟨more, longer, numbers⟩ | ⟨more, longer, numbers⟩
  · have nonempty : more ≠ [] := by
      rintro rfl
      exact different ((List.append_nil _).symm.trans longer.symm)
    obtain ⟨number, positive, continued, bound⟩ := exists_continued longer nonempty numbers
    exact .inl ⟨number, positive, continued, by omega⟩
  · have nonempty : more ≠ [] := by
      rintro rfl
      exact different (longer.trans (List.append_nil _))
    obtain ⟨number, positive, continued, bound⟩ := exists_continued longer nonempty numbers
    exact .inr ⟨number, positive, continued, by omega⟩

end Compiler

/-! ### The names of compiled filters -/

/-- A filter that can be compiled has a leaf. -/
theorem Filter.leaves_pos (filter : Filter) {values : List Value}
    (literals : filter.literals = .ok values) : 0 < filter.leaves := by
  match filter with
  | .all first others | .any first others =>
      obtain ⟨_, _, firstLiterals, _, _⟩ := Filter.of_joinLiterals_eq_ok literals
      have firstPos := first.leaves_pos firstLiterals
      simp only [Filter.leaves]
      omega
  | .compare _ _ _ | .compareFolded _ _ _ | .oneOf _ _ _ | .matching _ _ | .anyLabel _ _ =>
      exact Nat.one_pos
  | .negation part => exact part.leaves_pos literals
  | .bare _ _ => cases literals
termination_by structural filter

namespace Compiler

theorem exists_literals {compiler : Compiler} {filter : Filter} {clause : WhereClause}
    (compiled : compiler.compile (some filter) = .ok clause) :
    ∃ values, filter.literals = .ok values := by
  unfold compile at compiled
  cases literals : filter.literals with
  | ok values => exact ⟨values, rfl⟩
  | error fault =>
      simp only [literals] at compiled
      cases compiled

theorem names_of_compile {compiler : Compiler} {filter : Filter} {clause : WhereClause}
    (compiled : compiler.compile (some filter) = .ok clause) :
    Bindings.names clause.parameters = (List.range' 0 filter.leaves).map compiler.parameter := by
  rw [(compiler.compile_outline compiled).2, filter.leaves_outline]

theorem mem_names_iff {compiler : Compiler} {filter : Filter} {clause : WhereClause}
    (compiled : compiler.compile (some filter) = .ok clause) (name : String) :
    name ∈ Bindings.names clause.parameters ↔
      ∃ index < filter.leaves, compiler.parameter index = name := by
  rw [names_of_compile compiled, List.mem_map]
  simp only [List.mem_range'_1, Nat.zero_le, Nat.zero_add, true_and]

theorem parameter_injective (compiler : Compiler) : Function.Injective compiler.parameter := by
  intro index other same
  have letters := congrArg String.toList same
  rw [toList_parameter, toList_parameter] at letters
  exact decimalDigits_injective (List.append_cancel_left letters)

theorem nodup_names {compiler : Compiler} {filter : Filter} {clause : WhereClause}
    (compiled : compiler.compile (some filter) = .ok clause) :
    (Bindings.names clause.parameters).Nodup := by
  rw [names_of_compile compiled]
  exact (List.nodup_range' 1).map compiler.parameter_injective

theorem disjoint_names_iff {first second : Compiler} (apart : first.stem ≠ second.stem)
    {filter other : Filter} {clause more : WhereClause}
    (compiled : first.compile (some filter) = .ok clause)
    (compiledOther : second.compile (some other) = .ok more) :
    (Bindings.names clause.parameters).Disjoint (Bindings.names more.parameters) ↔
      ¬ first.stem.Reaches second.stem filter.leaves ∧
        ¬ second.stem.Reaches first.stem other.leaves := by
  obtain ⟨_, literals⟩ := exists_literals compiled
  obtain ⟨_, literalsOther⟩ := exists_literals compiledOther
  have hasLeaf := filter.leaves_pos literals
  have hasLeafOther := other.leaves_pos literalsOther
  constructor
  · intro disjoint
    constructor
    · intro ⟨number, positive, continued, enough⟩
      have shared := parameter_tenfold positive continued
      exact disjoint ((mem_names_iff compiled _).mpr ⟨10 * number, enough, rfl⟩)
        ((mem_names_iff compiledOther _).mpr ⟨0, hasLeafOther, shared.symm⟩)
    · intro ⟨number, positive, continued, enough⟩
      have shared := parameter_tenfold positive continued
      exact disjoint ((mem_names_iff compiled _).mpr ⟨0, hasLeaf, shared.symm⟩)
        ((mem_names_iff compiledOther _).mpr ⟨10 * number, enough, rfl⟩)
  · intro ⟨unreached, unreachedOther⟩ name member memberOther
    obtain ⟨index, inside, rfl⟩ := (mem_names_iff compiled _).mp member
    obtain ⟨otherIndex, insideOther, same⟩ := (mem_names_iff compiledOther _).mp memberOther
    rcases continued_of_parameter_eq apart same.symm with reached | reached
    · obtain ⟨number, positive, continued, enough⟩ := reached
      exact unreached ⟨number, positive, continued, by omega⟩
    · obtain ⟨number, positive, continued, enough⟩ := reached
      exact unreachedOther ⟨number, positive, continued, by omega⟩

/-- Filters with different stems share the name of a parameter exactly when one of them counts
up to the stem of the other; if neither does, all bindings of both can be put together, and none
is lost or overwritten. Stems that do not end in a digit never meet, however many leaves there
are. -/
theorem names_apart_iff {first second : Compiler} (apart : first.stem ≠ second.stem)
    {filter other : Filter} {clause more : WhereClause}
    (compiled : first.compile (some filter) = .ok clause)
    (compiledOther : second.compile (some other) = .ok more) :
    ((Bindings.names clause.parameters).Disjoint (Bindings.names more.parameters) ↔
      ¬ first.stem.Reaches second.stem filter.leaves ∧
        ¬ second.stem.Reaches first.stem other.leaves) ∧
    (Bindings.override clause.parameters more.parameters =
        clause.parameters ++ more.parameters ↔
      ¬ first.stem.Reaches second.stem filter.leaves ∧
        ¬ second.stem.Reaches first.stem other.leaves) ∧
    (first.stem.endsInDigit = false → second.stem.endsInDigit = false →
      (Bindings.names clause.parameters).Disjoint (Bindings.names more.parameters)) := by
  have disjoint := disjoint_names_iff apart compiled compiledOther
  have together := Bindings.override_eq_append_iff (nodup_names compiled) (nodup_names compiledOther)
  refine ⟨disjoint, together.trans disjoint, ?_⟩
  intro noDigit noDigitOther
  apply disjoint.mpr
  exact ⟨Identifier.not_reaches_of_endsInDigit _ noDigitOther,
    Identifier.not_reaches_of_endsInDigit _ noDigit⟩

private def withStem (stem : Identifier) : Compiler :=
  { standard with stem := stem }

private def shortStem : Compiler :=
  withStem ⟨"p", by decide⟩

private def longStem : Compiler :=
  withStem ⟨"p1", by decide⟩

private def scoreIs (score : Int) : Filter :=
  .compare .equal ⟨"score", by decide⟩ (.int score)

private def scoreAmong (score : Int) (others : List Int) : Filter :=
  .any (scoreIs score) (others.map scoreIs)

theorem stems_apart : shortStem.stem ≠ longStem.stem := by
  decide

/-- Ten leaves end just before the number that meets the longer stem. -/
theorem names_apart_iff_tenLeaves :
    shortStem.stem ≠ longStem.stem ∧ ∃ clause more,
      shortStem.compile (some (scoreAmong 0 [1, 2, 3, 4, 5, 6, 7, 8, 9])) = .ok clause ∧
      longStem.compile (some (scoreAmong 98 [99])) = .ok more ∧
      (Bindings.names clause.parameters).Disjoint (Bindings.names more.parameters) ∧
      Bindings.override clause.parameters more.parameters =
        clause.parameters ++ more.parameters := by
  obtain ⟨clause, compiled⟩ : ∃ clause,
      shortStem.compile (some (scoreAmong 0 [1, 2, 3, 4, 5, 6, 7, 8, 9])) = .ok clause := ⟨_, rfl⟩
  obtain ⟨more, compiledOther⟩ : ∃ more,
      longStem.compile (some (scoreAmong 98 [99])) = .ok more := ⟨_, rfl⟩
  obtain ⟨disjoint, together, _⟩ := names_apart_iff stems_apart compiled compiledOther
  have unreached : ¬ shortStem.stem.Reaches longStem.stem 10 := by
    intro ⟨number, positive, _, enough⟩
    omega
  have unreachedOther : ¬ longStem.stem.Reaches shortStem.stem 2 := by
    intro ⟨number, positive, _, enough⟩
    omega
  exact ⟨stems_apart, clause, more, compiled, compiledOther,
    disjoint.mpr ⟨unreached, unreachedOther⟩, together.mpr ⟨unreached, unreachedOther⟩⟩

/-- The eleventh leaf under one stem and the first leaf under another have one name, and where
their bindings are put together the value of the eleventh leaf is overwritten. -/
theorem eleventh_name_shared :
    shortStem.stem ≠ longStem.stem ∧ ∃ clause more,
      shortStem.compile (some (scoreAmong 0 [1, 2, 3, 4, 5, 6, 7, 8, 9, 10])) = .ok clause ∧
      longStem.compile (some (scoreIs 99)) = .ok more ∧
      clause.parameters.lookup "p10" = some (.int 10) ∧
      more.parameters.lookup "p10" = some (.int 99) ∧
      (Bindings.override clause.parameters more.parameters).lookup "p10" = some (.int 99) :=
  ⟨stems_apart, _, _, rfl, rfl, rfl, rfl, rfl⟩

end Compiler

end QueryWarden
