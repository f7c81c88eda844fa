/-
What compiled filters say. The text of a filter, read back as a condition, has the value of
the filter whatever the truth values of its leaves: no predicate is dropped, and every
conjunction, disjunction and negation keeps its grouping.
-/

import QueryWarden.Proofs.Filter.Leaf
import QueryWarden.Proofs.Result
import QueryWarden.Proofs.Sorting.Faults

namespace QueryWarden

open Text Condition

/-! ### The value of a filter -/

mutual

/-- The value of a filter whose first leaf has the given number, from the values of its
predicates. A negated membership test is the negation of the test. -/
def Filter.value (predicate : Filter → Nat → Truth) : Filter → Nat → Truth
  | .all first others, index =>
      Truth.all (first.value predicate index ::
        Filter.values predicate others (index + first.leaves))
  | .any first others, index =>
      Truth.any (first.value predicate index ::
        Filter.values predicate others (index + first.leaves))
  | .negation part, index => (part.value predicate index).not
  | .oneOf true key values, index => (predicate (.oneOf false key values) index).not
  | leaf, index => predicate leaf index
termination_by structural filter => filter

def Filter.values (predicate : Filter → Nat → Truth) : List Filter → Nat → List Truth
  | [], _ => []
  | part :: parts, index =>
      part.value predicate index :: Filter.values predicate parts (index + part.leaves)
termination_by structural parts => parts

end

/-- The values of the disjuncts that a clause shows without parentheses. A composite with a
single part is written like that part. -/
def Filter.disjunctValues (predicate : Filter → Nat → Truth) : Filter → Nat → List Truth
  | .all first [], index | .any first [], index => first.disjunctValues predicate index
  | .any first others, index =>
      first.value predicate index :: Filter.values predicate others (index + first.leaves)
  | filter, index => [filter.value predicate index]
termination_by structural filter => filter

theorem Filter.any_disjunctValues (predicate : Filter → Nat → Truth) (filter : Filter)
    (index : Nat) :
    Truth.any (filter.disjunctValues predicate index) = filter.value predicate index := by
  match filter with
  | .all first [] =>
      have same := Filter.any_disjunctValues predicate first index
      exact same.trans (Truth.all_singleton _).symm
  | .any first [] =>
      have same := Filter.any_disjunctValues predicate first index
      exact same.trans (Truth.any_singleton _).symm
  | .any first (second :: others) => rfl
  | .all first (second :: others) => exact Truth.any_singleton _
  | .negation part => exact Truth.any_singleton _
  | .oneOf negated key values => exact Truth.any_singleton _
  | .compare comparison key value => exact Truth.any_singleton _
  | .compareFolded comparison key value => exact Truth.any_singleton _
  | .matching key pattern => exact Truth.any_singleton _
  | .anyLabel first others => exact Truth.any_singleton _
  | .bare kind mark => exact Truth.any_singleton _
termination_by structural filter

mutual

/-- Whether a filter that names no predicate occurs anywhere. -/
def Filter.hasBare : Filter → Bool
  | .bare _ _ => true
  | .all first others | .any first others => first.hasBare || Filter.anyBare others
  | .negation part => part.hasBare
  | _ => false
termination_by structural filter => filter

def Filter.anyBare : List Filter → Bool
  | [] => false
  | part :: parts => part.hasBare || Filter.anyBare parts
termination_by structural parts => parts

end

/-! ### Joined texts -/

namespace Condition

theorem separate_cons_cons (joiner first second : String) (others : List String) :
    separate joiner (first :: second :: others) =
      first ++ joiner ++ separate joiner (second :: others) :=
  String.intercalate_cons_cons

theorem opens_parenthesized (text : String) : opens (parenthesized text).toList = true := by
  rw [toList_parenthesized]
  rfl

theorem opens_separate (joiner first : String) (others : List String) :
    opens (separate joiner ((first :: others).map parenthesized)).toList = true := by
  cases others with
  | nil => exact opens_parenthesized first
  | cons second others =>
      rw [List.map_cons, List.map_cons, separate_cons_cons, String.toList_append,
        String.toList_append]
      exact opens_append _ (opens_append _ (opens_parenthesized first))

theorem parts_separate_and {first : String} {others : List String} {conditions : List Condition}
    (readEach : (first :: others).map read = conditions.map some) :
    parts (separate " AND " ((first :: others).map parenthesized)) = some [conditions] := by
  induction others generalizing first conditions with
  | nil =>
      obtain ⟨condition, noConditions, rfl, firstRead, noneRead⟩ := List.map_eq_cons_iff.mp readEach.symm
      cases List.map_eq_nil_iff.mp noneRead
      exact parts_parenthesized firstRead.symm
  | cons second others ih =>
      obtain ⟨condition, more, rfl, firstRead, moreRead⟩ := List.map_eq_cons_iff.mp readEach.symm
      have behind := ih moreRead.symm
      have alone : parts (parenthesized first) = some ([] ++ [[condition]]) :=
        parts_parenthesized firstRead.symm
      rw [List.map_cons, List.map_cons, separate_cons_cons]
      exact parts_and alone behind (opens_separate " AND " second others)

private theorem parts_separate_or {first : String} {others : List String}
    {conditions : List Condition}
    (readEach : (first :: others).map read = conditions.map some) :
    parts (separate " OR " ((first :: others).map parenthesized)) =
      some (conditions.map fun condition => [condition]) := by
  induction others generalizing first conditions with
  | nil =>
      obtain ⟨condition, noConditions, rfl, firstRead, noneRead⟩ := List.map_eq_cons_iff.mp readEach.symm
      cases List.map_eq_nil_iff.mp noneRead
      exact parts_parenthesized firstRead.symm
  | cons second others ih =>
      obtain ⟨condition, more, rfl, firstRead, moreRead⟩ := List.map_eq_cons_iff.mp readEach.symm
      have behind := ih moreRead.symm
      have firstParts := parts_parenthesized firstRead.symm
      rw [List.map_cons, List.map_cons, separate_cons_cons]
      exact parts_or firstParts behind (opens_separate " OR " second others)

end Condition

/-! ### The texts of filters -/

namespace Compiler

variable (compiler : Compiler)

def predicateValue (valuation : Valuation) (leaf : Filter) (index : Nat) : Truth :=
  valuation (compiler.atom leaf index)

/-- The text of a filter stands apart from what is before it and has the disjuncts of the
filter. -/
structure Reads (filter : Filter) (index : Nat) (found : List (List Condition)) : Prop where
  opens : Condition.opens (compiler.text filter index).toList = true
  parts : Condition.parts (compiler.text filter index) = some found
  values : ∀ valuation, found.map (fun factors => Truth.all (factors.map (value valuation))) =
    filter.disjunctValues (compiler.predicateValue valuation) index

structure ReadsEach (filters : List Filter) (index : Nat) (conditions : List Condition) :
    Prop where
  read : (compiler.texts filters index).map Condition.read = conditions.map some
  values : ∀ valuation, conditions.map (value valuation) =
    Filter.values (compiler.predicateValue valuation) filters index

variable {compiler}

theorem Reads.read {filter : Filter} {index : Nat} {found : List (List Condition)}
    (reads : compiler.Reads filter index found) :
    ∃ condition, Condition.read (compiler.text filter index) = some condition ∧
      ∀ valuation, condition.value valuation =
        filter.value (compiler.predicateValue valuation) index := by
  obtain ⟨condition, whole, value⟩ := read_of_parts reads.parts
  refine ⟨condition, whole, fun valuation => ?_⟩
  rw [value, partsValue, reads.values, Filter.any_disjunctValues]

theorem atom_eq {leaf : Filter} {index : Nat} {found : List Item}
    (leafText : compiler.LeafText (compiler.text leaf index) index found) :
    compiler.atom leaf index = itemTokens found := by
  rw [atom, leafText.piece.scans.tokens_eq]
  rfl

private theorem parts_leaf {leaf : Filter} {index : Nat} {found : List Item}
    (leafText : compiler.LeafText (compiler.text leaf index) index found) :
    Condition.parts (compiler.text leaf index) = some [[.atom (compiler.atom leaf index)]] := by
  rw [atom_eq leafText]
  exact (parts_eq_some_iff _ _).mpr
    ⟨found, leafText.piece.scans, leafText.piece.disjuncts leafText.several⟩

theorem reads_predicate {leaf : Filter} (index : Nat) (predicate : leaf.isPredicate = true) :
    ∃ found, compiler.Reads leaf index found := by
  obtain ⟨items, leafText⟩ := compiler.leafText leaf index predicate
  refine ⟨_, leafText.piece.opens, parts_leaf leafText, fun valuation => ?_⟩
  have single : leaf.disjunctValues (compiler.predicateValue valuation) index =
      [compiler.predicateValue valuation leaf index] := by
    cases leaf with
    | oneOf negated key values =>
        cases negated with
        | true => cases predicate
        | false => rfl
    | all first others => cases predicate
    | any first others => cases predicate
    | negation part => cases predicate
    | bare kind mark => cases predicate
    | compare comparison key value => rfl
    | compareFolded comparison key value => rfl
    | matching key pattern => rfl
    | anyLabel first others => rfl
  rw [single]
  exact congrArg (fun value => [value]) (Truth.all_singleton _)

private theorem reads_negated {text : String} {index : Nat} {filter : Filter} {part : Condition}
    (shape : compiler.text filter index = "NOT" ++ " " ++ text)
    (read : Condition.parts text = some [[part]]) (opening : Condition.opens text.toList = true)
    (values : ∀ valuation, filter.disjunctValues (compiler.predicateValue valuation) index =
      [(part.value valuation).not]) :
    ∃ found, compiler.Reads filter index found := by
  refine ⟨[[.negation part]], ?_, ?_, fun valuation => ?_⟩
  · rw [shape, toList_spaced]
    exact opens_append _ (by decide +kernel)
  · rw [shape]
    exact parts_not read opening
  · rw [values]
    exact congrArg (fun value => [value]) (Truth.all_singleton _)

private theorem reads_notOneOf (key : Identifier) (values : List Value) (index : Nat) :
    ∃ found, compiler.Reads (.oneOf true key values) index found := by
  obtain ⟨items, leafText⟩ := compiler.leafText (.oneOf false key values) index rfl
  exact reads_negated (text_notOneOf key values index) (parts_leaf leafText)
    leafText.piece.opens (fun _ => rfl)

private theorem text_negation (part : Filter) (index : Nat) :
    compiler.text (.negation part) index =
      "NOT" ++ " " ++ parenthesized (compiler.text part index) := by
  change "NOT (" ++ compiler.text part index ++ ")" = _
  rw [parenthesized]
  simp only [← String.toList_inj, String.toList_append, List.append_assoc]
  rfl

private theorem reads_negation {part : Filter} {index : Nat} {found : List (List Condition)}
    (reads : compiler.Reads part index found) :
    ∃ found, compiler.Reads (.negation part) index found := by
  obtain ⟨condition, read, value⟩ := reads.read
  refine reads_negated (text_negation part index) (parts_parenthesized read)
    (opens_parenthesized _) (fun valuation => ?_)
  rw [value]
  rfl

theorem Reads.cons {filter : Filter} {filters : List Filter} {index : Nat}
    {found : List (List Condition)} {conditions : List Condition}
    (reads : compiler.Reads filter index found)
    (readsEach : compiler.ReadsEach filters (index + filter.leaves) conditions) :
    ∃ conditions, compiler.ReadsEach (filter :: filters) index conditions := by
  obtain ⟨condition, read, value⟩ := reads.read
  refine ⟨condition :: conditions, ?_, fun valuation => ?_⟩
  · change Condition.read _ :: (compiler.texts filters _).map Condition.read = _
    rw [read, readsEach.read, List.map_cons]
  · change condition.value valuation :: conditions.map _ = filter.value _ _ :: _
    rw [value, readsEach.values]

theorem ReadsEach.all {first second : Filter} {others : List Filter} {index : Nat}
    {conditions : List Condition}
    (readsEach : compiler.ReadsEach (first :: second :: others) index conditions) :
    compiler.Reads (.all first (second :: others)) index [conditions] where
  opens := opens_separate " AND " _ _
  parts := parts_separate_and readsEach.read
  values := fun valuation =>
    congrArg (fun values => [Truth.all values]) (readsEach.values valuation)

theorem ReadsEach.any {first second : Filter} {others : List Filter} {index : Nat}
    {conditions : List Condition}
    (readsEach : compiler.ReadsEach (first :: second :: others) index conditions) :
    compiler.Reads (.any first (second :: others)) index
      (conditions.map fun condition => [condition]) where
  opens := opens_separate " OR " _ _
  parts := parts_separate_or readsEach.read
  values := fun valuation => by
    rw [List.map_map]
    refine Eq.trans (List.map_congr_left fun condition _ => ?_) (readsEach.values valuation)
    exact Truth.all_singleton _

mutual

/-- The text of every filter that can be compiled has the disjuncts of the filter. -/
theorem reads_text (filter : Filter) (index : Nat) (compilable : filter.hasBare = false) :
    ∃ found, compiler.Reads filter index found := by
  match filter with
  | .compare comparison key value => exact reads_predicate index rfl
  | .compareFolded comparison key value => exact reads_predicate index rfl
  | .matching key pattern => exact reads_predicate index rfl
  | .anyLabel first others => exact reads_predicate index rfl
  | .oneOf false key values => exact reads_predicate index rfl
  | .oneOf true key values => exact reads_notOneOf key values index
  | .negation part =>
      obtain ⟨found, reads⟩ := reads_text part index compilable
      exact reads_negation reads
  | .all first [] | .any first [] =>
      have compilable := (Bool.or_eq_false_iff.mp compilable).1
      obtain ⟨found, reads⟩ := reads_text first index compilable
      exact ⟨found, reads.opens, reads.parts, reads.values⟩
  | .all first (second :: others) =>
      have compilable := Bool.or_eq_false_iff.mp compilable
      obtain ⟨found, reads⟩ := reads_text first index compilable.1
      obtain ⟨conditions, readsOthers⟩ := reads_texts (second :: others) _ compilable.2
      obtain ⟨conditions, readsEach⟩ := reads.cons readsOthers
      exact ⟨_, readsEach.all⟩
  | .any first (second :: others) =>
      have compilable := Bool.or_eq_false_iff.mp compilable
      obtain ⟨found, reads⟩ := reads_text first index compilable.1
      obtain ⟨conditions, readsOthers⟩ := reads_texts (second :: others) _ compilable.2
      obtain ⟨conditions, readsEach⟩ := reads.cons readsOthers
      exact ⟨_, readsEach.any⟩
  | .bare kind mark => cases compilable
termination_by structural filter

theorem reads_texts (filters : List Filter) (index : Nat)
    (compilable : Filter.anyBare filters = false) :
    ∃ conditions, compiler.ReadsEach filters index conditions := by
  match filters with
  | [] => exact ⟨[], rfl, fun _ => rfl⟩
  | filter :: filters =>
      have compilable := Bool.or_eq_false_iff.mp compilable
      obtain ⟨found, reads⟩ := reads_text filter index compilable.1
      obtain ⟨conditions, readsOthers⟩ := reads_texts filters _ compilable.2
      exact reads.cons readsOthers
termination_by structural filters

end

end Compiler

/-! ### The literals of filters -/

def Value.isText : Value → Bool
  | .text _ => true
  | _ => false

mutual

/-- Whether all labels that a filter tests for are texts. -/
def Filter.hasTextLabels : Filter → Bool
  | .anyLabel first others => (first :: others).all Value.isText
  | .all first others | .any first others => first.hasTextLabels && Filter.allTextLabels others
  | .negation part => part.hasTextLabels
  | _ => true
termination_by structural filter => filter

def Filter.allTextLabels : List Filter → Bool
  | [] => true
  | part :: parts => part.hasTextLabels && Filter.allTextLabels parts
termination_by structural parts => parts

end

mutual

/-- Whether all values that a filter compares without regard to case have a text. -/
def Filter.foldsTexts : Filter → Bool
  | .compareFolded _ _ value => value.shown?.isSome
  | .all first others | .any first others => first.foldsTexts && Filter.allFoldTexts others
  | .negation part => part.foldsTexts
  | _ => true
termination_by structural filter => filter

def Filter.allFoldTexts : List Filter → Bool
  | [] => true
  | part :: parts => part.foldsTexts && Filter.allFoldTexts parts
termination_by structural parts => parts

end

theorem Value.sort_texts {items : List Value} (texts : items.all Value.isText = true) :
    ∃ sorted, Value.sort items = .ok sorted := by
  refine Sorting.sort_exists fun left leftMember right rightMember => ?_
  have isText := List.all_eq_true.mp texts
  cases left with
  | text left =>
      cases right with
      | text right => exact ⟨_, rfl⟩
      | _ => cases isText _ rightMember
  | _ => cases isText _ leftMember

def Filter.Bound (unsupported : Bool) (literals : Except Fault (List Value)) : Prop :=
  if unsupported then ∃ kind : BareKind, literals = .error (.unsupported kind.className)
  else ∃ values, literals = .ok values

theorem Filter.literals_compareFolded_eq_ok_iff {comparison : FoldedComparison}
    {key : Identifier} {value : Value} {values : List Value} :
    (Filter.compareFolded comparison key value).literals = .ok values ↔
      ∃ shown, value.shown? = some shown ∧ [.text (lowerText shown)] = values := by
  rw [Filter.literals, map_eq_ok_iff]
  exact exists_congr fun shown => and_congr_left' writing_eq_ok_iff

def Filter.joinLiterals (left right : Except Fault (List Value)) : Except Fault (List Value) :=
  match left with
  | .ok values =>
      match right with
      | .ok more => .ok (values ++ more)
      | .error fault => .error fault
  | .error fault => .error fault

theorem Filter.of_joinLiterals_eq_ok {left right : Except Fault (List Value)}
    {values : List Value} (joined : Filter.joinLiterals left right = .ok values) :
    ∃ first more, left = .ok first ∧ right = .ok more ∧ values = first ++ more := by
  cases left with
  | error fault => cases joined
  | ok first =>
      cases right with
      | error fault => cases joined
      | ok more =>
          cases joined
          exact ⟨first, more, rfl, rfl, rfl⟩

theorem Filter.Bound.append {first others : Bool} {left right : Except Fault (List Value)}
    (bound : Filter.Bound first left) (boundOthers : Filter.Bound others right) :
    Filter.Bound (first || others) (Filter.joinLiterals left right) := by
  cases first with
  | true =>
      obtain ⟨kind, rfl⟩ := bound
      exact ⟨kind, rfl⟩
  | false =>
      obtain ⟨values, rfl⟩ := bound
      cases others with
      | true =>
          obtain ⟨kind, rfl⟩ := boundOthers
          exact ⟨kind, rfl⟩
      | false =>
          obtain ⟨more, rfl⟩ := boundOthers
          exact ⟨values ++ more, rfl⟩

mutual

theorem Filter.literals_bound (filter : Filter) (textLabels : filter.hasTextLabels = true)
    (texts : filter.foldsTexts = true) : Filter.Bound filter.hasBare filter.literals := by
  match filter with
  | .compare comparison key value => exact ⟨[value], rfl⟩
  | .compareFolded comparison key value =>
      obtain ⟨shown, found⟩ := Option.isSome_iff_exists.mp texts
      exact ⟨_, Filter.literals_compareFolded_eq_ok_iff.mpr ⟨shown, found, rfl⟩⟩
  | .oneOf negated key values => exact ⟨_, rfl⟩
  | .matching key pattern => exact ⟨_, rfl⟩
  | .anyLabel first others =>
      obtain ⟨labels, sorted⟩ := Value.sort_texts textLabels
      refine ⟨[.list labels], ?_⟩
      rw [Filter.literals, sorted]
  | .negation part => exact Filter.literals_bound part textLabels texts
  | .all first others | .any first others =>
      have labels := Bool.and_eq_true_iff.mp textLabels
      have words := Bool.and_eq_true_iff.mp texts
      exact (Filter.literals_bound first labels.1 words.1).append
        (Filter.literalsOf_bound others labels.2 words.2)
  | .bare kind mark => exact ⟨kind, rfl⟩
termination_by structural filter

theorem Filter.literalsOf_bound (filters : List Filter)
    (textLabels : Filter.allTextLabels filters = true)
    (texts : Filter.allFoldTexts filters = true) :
    Filter.Bound (Filter.anyBare filters) (Filter.literalsOf filters) := by
  match filters with
  | [] => exact ⟨[], rfl⟩
  | filter :: filters =>
      have labels := Bool.and_eq_true_iff.mp textLabels
      have words := Bool.and_eq_true_iff.mp texts
      exact (Filter.literals_bound filter labels.1 words.1).append
        (Filter.literalsOf_bound filters labels.2 words.2)
termination_by structural filters

end

/-! ### The meaning of clauses -/

namespace Compiler

variable (compiler : Compiler)

/-- Leaves with different numbers have different atoms, so that these can be given any
truth values. -/
theorem exists_valuation (assignment : Nat → Truth) :
    ∃ valuation, ∀ leaf index, leaf.isPredicate = true →
      compiler.predicateValue valuation leaf index = assignment index := by
  refine ⟨fun tokens => assignment (compiler.number tokens), fun leaf index predicate => ?_⟩
  obtain ⟨items, leafText⟩ := compiler.leafText leaf index predicate
  rw [predicateValue, atom_eq leafText, compiler.number_of_numbered leafText.numbered]

theorem compile_of_literals {filter : Filter} {values : List Value}
    (bound : filter.literals = .ok values) :
    compiler.compile (some filter) =
      .ok { text := compiler.text filter 0, parameters := compiler.bind values 0 } := by
  rw [compile, bound]

theorem compile_of_fault {filter : Filter} {fault : Fault}
    (refused : filter.literals = .error fault) : compiler.compile (some filter) = .error fault := by
  rw [compile, refused]

def standard : Compiler where
  node := ⟨defaultAlias, by decide⟩
  stem := ⟨defaultStem, by decide⟩

def ownerKey : Identifier :=
  ⟨"owner", by decide⟩

end Compiler

end QueryWarden
