/-
References of a clause to its parameters. A clause has one dollar sign for each leaf of its
filter. The signs stand in the order of the leaves, each before the name of the parameter that
has the literal of its leaf, and no name goes on behind it: next is a closing parenthesis or
the end of the text.
-/

import Mathlib.Data.String.Basic
import QueryWarden.Proofs.Filter.Naming
import QueryWarden.Proofs.Sorting.Merging

namespace QueryWarden

open Text Number

/-! ### Leaves and their literals -/

mutual

/-- The leaves of a filter from left to right. -/
def Filter.leafList : Filter → List Filter
  | .all first others | .any first others => first.leafList ++ Filter.leafListOf others
  | .negation part => part.leafList
  | .bare _ _ => []
  | leaf => [leaf]
termination_by structural filter => filter

def Filter.leafListOf : List Filter → List Filter
  | [] => []
  | part :: parts => part.leafList ++ Filter.leafListOf parts
termination_by structural parts => parts

end

mutual

theorem Filter.length_leafList (filter : Filter) : filter.leafList.length = filter.leaves := by
  match filter with
  | .all first others | .any first others =>
      simp only [Filter.leafList, Filter.leaves, List.length_append, first.length_leafList,
        Filter.length_leafListOf others]
  | .negation part => exact part.length_leafList
  | .compare _ _ _ | .compareFolded _ _ _ | .oneOf _ _ _ | .matching _ _ | .anyLabel _ _
  | .bare _ _ => rfl
termination_by structural filter

theorem Filter.length_leafListOf (filters : List Filter) :
    (Filter.leafListOf filters).length = Filter.leavesOf filters := by
  match filters with
  | [] => rfl
  | filter :: filters =>
      simp only [Filter.leafListOf, Filter.leavesOf, List.length_append, filter.length_leafList,
        Filter.length_leafListOf filters]
termination_by structural filters

end

/-- What is bound for a leaf. A set of labels that are different texts is bound as the list of
them that ascends. -/
inductive Filter.IsLiteral : Filter → Value → Prop where
  | compare (comparison : Comparison) (key : Identifier) (value : Value) :
      IsLiteral (.compare comparison key value) value
  | compareFolded (comparison : FoldedComparison) (key : Identifier) {value : Value}
      {shown : String} (hasText : value.shown? = some shown) :
      IsLiteral (.compareFolded comparison key value) (.text (lowerText shown))
  | oneOf (negated : Bool) (key : Identifier) (values : List Value) :
      IsLiteral (.oneOf negated key values) (.list values)
  | matching (key : Identifier) (pattern : Value) : IsLiteral (.matching key pattern) pattern
  | anyLabel {first : Value} {others labels : List Value} (same : labels.Perm (first :: others))
      (ascending : ∀ names : List String, labels = names.map .text → names.Nodup →
        names.Pairwise (· < ·)) :
      IsLiteral (.anyLabel first others) (.list labels)

namespace Value

/-- Among texts the comparison is that of their letters. -/
theorem orders_texts : Sorting.Orders less (fun value => ∃ name, value = .text name)
    (fun left right => ∃ name other, left = .text name ∧ right = .text other ∧ name ≤ other) where
  before := by
    intro left right isText otherIsText compared
    obtain ⟨name, rfl⟩ := isText
    obtain ⟨other, rfl⟩ := otherIsText
    have below : name < other := of_decide_eq_true (Except.ok.inj compared)
    exact ⟨name, other, rfl, rfl, le_of_lt below⟩
  behind := by
    intro left right isText otherIsText compared
    obtain ⟨name, rfl⟩ := isText
    obtain ⟨other, rfl⟩ := otherIsText
    have notBelow : ¬ name < other := of_decide_eq_false (Except.ok.inj compared)
    exact ⟨other, name, rfl, rfl, le_of_not_gt notBelow⟩
  trans := by
    intro first second third firstSecond secondThird
    obtain ⟨name, other, rfl, rfl, below⟩ := firstSecond
    obtain ⟨_, last, same, rfl, further⟩ := secondThird
    cases same
    exact ⟨name, last, rfl, rfl, le_trans below further⟩

private theorem sort_texts_ascending {items labels : List Value}
    (sorted : Value.sort items = .ok labels)
    {names : List String} (texts : labels = names.map .text) (different : names.Nodup) :
    names.Pairwise (· < ·) := by
  have same : labels.Perm items := Sorting.sort_perm sorted
  have areTexts : ∀ item ∈ items, ∃ name, item = .text name := by
    intro item member
    have within := same.mem_iff.mpr member
    rw [texts] at within
    obtain ⟨name, _, rfl⟩ := List.mem_map.mp within
    exact ⟨name, rfl⟩
  have ordered := Sorting.sort_pairwise orders_texts areTexts sorted
  rw [texts, List.pairwise_map] at ordered
  refine (ordered.and different).imp ?_
  intro name other both
  obtain ⟨⟨left, right, leftSame, rightSame, below⟩, apart⟩ := both
  cases leftSame
  cases rightSame
  exact lt_of_le_of_ne below apart

end Value

mutual

/-- The literals of a filter are those of its leaves, one for each. -/
theorem Filter.forall_isLiteral (filter : Filter) {values : List Value}
    (literals : filter.literals = .ok values) :
    List.Forall₂ Filter.IsLiteral filter.leafList values := by
  match filter with
  | .compare comparison key value =>
      cases literals
      exact .cons (.compare comparison key value) .nil
  | .compareFolded comparison key value =>
      obtain ⟨shown, found, rfl⟩ := Filter.literals_compareFolded_eq_ok_iff.mp literals
      exact .cons (.compareFolded comparison key found) .nil
  | .oneOf negated key values =>
      cases literals
      exact .cons (.oneOf negated key values) .nil
  | .matching key pattern =>
      cases literals
      exact .cons (.matching key pattern) .nil
  | .anyLabel first others =>
      unfold Filter.literals at literals
      split at literals
      · next labels sorted =>
          cases literals
          exact .cons (.anyLabel (Sorting.sort_perm sorted)
            (fun names texts different => Value.sort_texts_ascending sorted texts different)) .nil
      · cases literals
  | .all first others | .any first others =>
      obtain ⟨firstValues, moreValues, firstLiterals, otherLiterals, rfl⟩ :=
        Filter.of_joinLiterals_eq_ok literals
      exact List.rel_append (first.forall_isLiteral firstLiterals)
        (Filter.forall_isLiteralOf others otherLiterals)
  | .negation part => exact part.forall_isLiteral literals
  | .bare _ _ => cases literals
termination_by structural filter

theorem Filter.forall_isLiteralOf (filters : List Filter) {values : List Value}
    (literals : Filter.literalsOf filters = .ok values) :
    List.Forall₂ Filter.IsLiteral (Filter.leafListOf filters) values := by
  match filters with
  | [] =>
      cases literals
      exact .nil
  | filter :: filters =>
      obtain ⟨firstValues, moreValues, firstLiterals, otherLiterals, rfl⟩ :=
        Filter.of_joinLiterals_eq_ok literals
      exact List.rel_append (filter.forall_isLiteral firstLiterals)
        (Filter.forall_isLiteralOf filters otherLiterals)
termination_by structural filters

end

/-! ### Dollar signs -/

theorem Identifier.dollar_not_mem (identifier : Identifier) : '$' ∉ identifier.name.toList := by
  obtain ⟨first, rest, tail, _, letters, _, parts, shape⟩ := identifier.shape
  rw [letters]
  intro member
  rcases List.mem_append.mp member with inWord | inTail
  · exact absurd (parts '$' inWord) (by decide)
  · rcases shape with rfl | rfl
    · cases inTail
    · exact absurd inTail (by decide)

theorem dollar_not_mem_append {first second : String} (noDollar : '$' ∉ first.toList)
    (noDollarToo : '$' ∉ second.toList) : '$' ∉ (first ++ second).toList := by
  rw [String.toList_append]
  exact fun member => (List.mem_append.mp member).elim noDollar noDollarToo

namespace Compiler

variable {compiler : Compiler}

private theorem dollar_not_mem_parameter (index : Nat) :
    '$' ∉ (compiler.parameter index).toList := by
  rw [toList_parameter]
  intro member
  rcases List.mem_append.mp member with inStem | inNumber
  · exact compiler.stem.dollar_not_mem inStem
  · have digit := isDigit_of_mem_decimalDigits inNumber
    revert digit
    decide

/-- A text whose dollar signs stand before the names with the numbers from one up to another,
in this order. Behind a name a parenthesis is closed or the text ends. -/
inductive Refers (compiler : Compiler) : Nat → Nat → List Char → Prop where
  | free {index : Nat} {letters : List Char} (noDollar : '$' ∉ letters) :
      Refers compiler index index letters
  | next {index last : Nat} {front back : List Char} (noDollar : '$' ∉ front)
      (ends : ∀ letter ∈ back.head?, letter = ')')
      (further : Refers compiler (index + 1) last back) :
      Refers compiler index last (front ++ '$' :: ((compiler.parameter index).toList ++ back))

namespace Refers

variable {index middle last : Nat} {letters front back : List Char}

theorem behind (refers : Refers compiler index last letters) (noDollar : '$' ∉ front) :
    Refers compiler index last (front ++ letters) := by
  cases refers with
  | free noDollarToo => exact .free (fun member => (List.mem_append.mp member).elim noDollar noDollarToo)
  | @next _ _ before back noDollarToo ends further =>
      rw [← List.append_assoc]
      exact .next (fun member => (List.mem_append.mp member).elim noDollar noDollarToo) ends further

theorem append (refers : Refers compiler index middle letters)
    (others : Refers compiler middle last back) (ends : ∀ letter ∈ back.head?, letter = ')') :
    Refers compiler index last (letters ++ back) := by
  induction refers with
  | free noDollar => exact others.behind noDollar
  | @next index middle front rest noDollar endsName further ih =>
      rw [List.append_assoc, List.cons_append, List.append_assoc]
      refine .next noDollar ?_ (ih others)
      cases rest with
      | nil => exact ends
      | cons letter rest => exact endsName

private theorem le (refers : Refers compiler index last letters) : index ≤ last := by
  induction refers with
  | free noDollar => exact Nat.le_refl _
  | next noDollar ends further ih => exact Nat.le_of_succ_le ih

/-- There are as many dollar signs as numbers. -/
theorem count (refers : Refers compiler index last letters) :
    letters.count '$' = last - index := by
  induction refers with
  | free noDollar => rw [List.count_eq_zero_of_not_mem noDollar, Nat.sub_self]
  | @next index last front back noDollar ends further ih =>
      have below := further.le
      rw [List.count_append, List.count_cons_self, List.count_append, ih,
        List.count_eq_zero_of_not_mem noDollar,
        List.count_eq_zero_of_not_mem (dollar_not_mem_parameter index)]
      omega

/-- Each number has its place: behind as many dollar signs as there are numbers before it. -/
theorem place (refers : Refers compiler index last letters) {number : Nat}
    (low : index ≤ number) (high : number < last) :
    ∃ front back, letters = front ++ '$' :: ((compiler.parameter number).toList ++ back) ∧
      front.count '$' = number - index ∧ ∀ letter ∈ back.head?, letter = ')' := by
  induction refers with
  | free noDollar => omega
  | @next index last front back noDollar ends further ih =>
      rcases Nat.eq_or_lt_of_le low with rfl | later
      · exact ⟨front, back, rfl, by rw [List.count_eq_zero_of_not_mem noDollar, Nat.sub_self], ends⟩
      · obtain ⟨before, behind, rfl, counted, endsToo⟩ := ih later high
        refine ⟨front ++ '$' :: ((compiler.parameter index).toList ++ before), behind, ?_, ?_,
          endsToo⟩
        · simp only [List.append_assoc, List.cons_append]
        · rw [List.count_append, List.count_cons_self, List.count_append, counted,
            List.count_eq_zero_of_not_mem noDollar,
            List.count_eq_zero_of_not_mem (dollar_not_mem_parameter index)]
          omega

theorem reference (compiler : Compiler) (index : Nat) :
    Refers compiler index (index + 1) (compiler.reference index).toList := by
  have alone : Refers compiler index (index + 1)
      ([] ++ '$' :: ((compiler.parameter index).toList ++ [])) :=
    .next List.not_mem_nil nofun (.free List.not_mem_nil)
  rw [List.append_nil, List.nil_append] at alone
  rw [Compiler.reference, String.toList_append]
  exact alone

theorem enclosed {before text after : String} (refers : Refers compiler index last text.toList)
    (noDollar : '$' ∉ before.toList) (noDollarToo : '$' ∉ after.toList)
    (ends : ∀ letter ∈ after.toList.head?, letter = ')') :
    Refers compiler index last (before ++ text ++ after).toList := by
  rw [String.toList_append, String.toList_append]
  exact (refers.behind noDollar).append (.free noDollarToo) ends

/-- In front of a reference there is text without dollar signs, and the text ends with it. -/
theorem referred {before : String} (noDollar : '$' ∉ before.toList) :
    Refers compiler index (index + 1) (before ++ compiler.reference index).toList := by
  rw [String.toList_append]
  exact (reference compiler index).behind noDollar

end Refers

inductive RefersEach (compiler : Compiler) : Nat → Nat → List String → Prop where
  | nil {index : Nat} : RefersEach compiler index index []
  | cons {index middle last : Nat} {text : String} {texts : List String}
      (refers : Refers compiler index middle text.toList)
      (others : RefersEach compiler middle last texts) :
      RefersEach compiler index last (text :: texts)

theorem eq_of_mem_head?_closing {letter : Char} (first : letter ∈ ")".toList.head?) :
    letter = ')' := by
  cases first
  rfl

private theorem refers_parenthesized {index last : Nat} {text : String}
    (refers : Refers compiler index last text.toList) :
    Refers compiler index last (Condition.parenthesized text).toList :=
  refers.enclosed (by decide) (by decide) (fun _ => eq_of_mem_head?_closing)

private theorem refers_separate {joiner : String} (noDollar : '$' ∉ joiner.toList)
    {index middle last : Nat}
    {first : String} {others : List String} (refers : Refers compiler index middle first.toList)
    (refersEach : RefersEach compiler middle last others) :
    Refers compiler index last
      (separate joiner ((first :: others).map Condition.parenthesized)).toList := by
  induction others generalizing first index middle with
  | nil =>
      cases refersEach
      exact refers_parenthesized refers
  | cons second others ih =>
      cases refersEach with
      | cons refersSecond refersOthers =>
          have behind := (ih refersSecond refersOthers).behind noDollar
          have closed := behind.behind (show '$' ∉ [')'] by decide)
          have whole := (refers.append closed (by simp)).behind (show '$' ∉ ['('] by decide)
          rw [List.map_cons, List.map_cons, Condition.separate_cons_cons, String.toList_append,
            String.toList_append, Condition.toList_parenthesized]
          simpa using whole

private theorem refers_joinParts {joiner : String} (noDollar : '$' ∉ joiner.toList)
    {index middle last : Nat}
    {first : String} {others : List String} (refers : Refers compiler index middle first.toList)
    (refersEach : RefersEach compiler middle last others) :
    Refers compiler index last (joinParts joiner (first :: others)).toList := by
  cases refersEach with
  | nil => exact refers
  | cons refersSecond refersOthers =>
      exact refers_separate noDollar refers (.cons refersSecond refersOthers)

theorem dollar_not_mem_property (key : Identifier) : '$' ∉ (compiler.property key).toList :=
  dollar_not_mem_append (dollar_not_mem_append compiler.node.dollar_not_mem (by decide))
    key.dollar_not_mem

private theorem values_bind (values : List Value) (index : Nat) :
    (compiler.bind values index).map Prod.snd = values := by
  induction values generalizing index with
  | nil => rfl
  | cons value values ih => exact congrArg (List.cons value) (ih (index + 1))

mutual

/-- The references of a text have the numbers of the leaves. -/
theorem refers_text (filter : Filter) (index : Nat) :
    Refers compiler index (index + filter.leaves) (compiler.text filter index).toList := by
  match filter with
  | .compare comparison key value =>
      have symbol : '$' ∉ comparison.symbol.toList := by cases comparison <;> decide
      exact Refers.referred (dollar_not_mem_append (dollar_not_mem_append
        (dollar_not_mem_append (dollar_not_mem_property key) (by decide)) symbol) (by decide))
  | .compareFolded comparison key value =>
      have symbol : '$' ∉ comparison.symbol.toList := by cases comparison <;> decide
      exact Refers.referred (dollar_not_mem_append (dollar_not_mem_append (dollar_not_mem_append
        (dollar_not_mem_append (by decide) (dollar_not_mem_property key)) (by decide)) symbol)
        (by decide))
  | .oneOf negated key values =>
      have negation : '$' ∉ (if negated then "NOT " else "").toList := by
        cases negated <;> decide
      exact Refers.referred (dollar_not_mem_append
        (dollar_not_mem_append negation (dollar_not_mem_property key)) (by decide))
  | .matching key pattern =>
      exact Refers.referred (dollar_not_mem_append (dollar_not_mem_property key) (by decide))
  | .anyLabel first others =>
      have before : '$' ∉
          ("ANY(label IN labels(" ++ compiler.node.name ++ ") WHERE label IN ").toList :=
        dollar_not_mem_append (dollar_not_mem_append (by decide) compiler.node.dollar_not_mem)
          (by decide)
      exact (Refers.reference compiler index).enclosed before (by decide)
        (fun _ => eq_of_mem_head?_closing)
  | .all first others =>
      have refersFirst := refers_text first index
      have refersOthers := refers_texts others (index + first.leaves)
      rw [Filter.leaves, ← Nat.add_assoc]
      exact refers_joinParts (by decide) refersFirst refersOthers
  | .any first others =>
      have refersFirst := refers_text first index
      have refersOthers := refers_texts others (index + first.leaves)
      rw [Filter.leaves, ← Nat.add_assoc]
      exact refers_joinParts (by decide) refersFirst refersOthers
  | .negation part =>
      exact (refers_text part index).enclosed (by decide) (by decide)
        (fun _ => eq_of_mem_head?_closing)
  | .bare kind mark => exact .free List.not_mem_nil
termination_by structural filter

theorem refers_texts (filters : List Filter) (index : Nat) :
    RefersEach compiler index (index + Filter.leavesOf filters)
      (compiler.texts filters index) := by
  match filters with
  | [] => exact .nil
  | filter :: filters =>
      have refersFirst := refers_text filter index
      have refersOthers := refers_texts filters (index + filter.leaves)
      rw [Filter.leavesOf, ← Nat.add_assoc]
      exact .cons refersFirst refersOthers
termination_by structural filters

end

/-- The parameters of a clause and the dollar signs of its text go with the leaves of a filter:
there are as many of each, in the same order, and what is bound is the literal of its leaf. -/
structure MatchesLeaves (compiler : Compiler) (filter : Filter) (clause : WhereClause) :
    Prop where
  names : Bindings.names clause.parameters =
    (List.range filter.leafList.length).map compiler.parameter
  different : (Bindings.names clause.parameters).Nodup
  literals : List.Forall₂ Filter.IsLiteral filter.leafList (clause.parameters.map Prod.snd)
  count : clause.text.toList.count '$' = filter.leafList.length
  places : ∀ index < filter.leafList.length, ∃ front back,
    clause.text.toList = front ++ '$' :: ((compiler.parameter index).toList ++ back) ∧
      front.count '$' = index ∧ ∀ letter ∈ back.head?, letter = ')'

/-- Whatever compiles gives a clause that goes with its leaves. -/
theorem compile_matchesLeaves {filter : Filter} {clause : WhereClause}
    (compiled : compiler.compile (some filter) = .ok clause) :
    compiler.MatchesLeaves filter clause := by
  have names := names_of_compile compiled
  have different := nodup_names compiled
  rw [← List.range_eq_range', ← filter.length_leafList] at names
  have refers : Refers compiler 0 (0 + filter.leaves) (compiler.text filter 0).toList :=
    refers_text filter 0
  rw [Nat.zero_add, ← filter.length_leafList] at refers
  obtain ⟨values, literals⟩ := exists_literals compiled
  simp only [compile, literals] at compiled
  cases compiled
  refine ⟨names, different, ?_, refers.count, ?_⟩
  · rw [values_bind]
    exact filter.forall_isLiteral literals
  · intro index inside
    exact refers.place (Nat.zero_le index) inside

private def openOrOthers : Filter :=
  .any (.compareFolded .equal ⟨"status", by decide⟩ (.text "Open"))
    [.negation (.anyLabel (.text "Town") [.text "Person"])]

theorem compile_matchesLeaves_openOrOthers :
    ∃ clause, standard.compile (some openOrOthers) = .ok clause ∧
      standard.MatchesLeaves openOrOthers clause := by
  have texts : [Value.text "Town", .text "Person"].all Value.isText = true := rfl
  obtain ⟨labels, sorted⟩ := Value.sort_texts texts
  obtain ⟨clause, compiled⟩ : ∃ clause, standard.compile (some openOrOthers) = .ok clause := by
    have literals : openOrOthers.literals = .ok [.text "open", .list labels] := by
      simp only [openOrOthers, Filter.literals, Filter.literalsOf, sorted, List.append_nil]
      rfl
    exact ⟨_, by rw [compile, literals]⟩
  exact ⟨clause, compiled, compile_matchesLeaves compiled⟩

end Compiler

end QueryWarden
