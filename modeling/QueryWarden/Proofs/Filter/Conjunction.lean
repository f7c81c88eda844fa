/-
Joining clauses to fragments. Neither side is put in parentheses, and so the text is the
conjunction of the two exactly if neither shows an OR outside parentheses: an OR in the
fragment leaves its first disjuncts free of the filter, and an OR in the filter leaves its
last disjuncts free of the fragment.
-/

import QueryWarden.Proofs.Filter.Meaning

namespace QueryWarden

open Text Condition

namespace Condition

/-! ### Conditions whose atoms are all unknown -/

mutual

def atoms : Condition → List (List Token)
  | .atom tokens => [tokens]
  | .negation part => part.atoms
  | .all first others | .any first others => first.atoms ++ atomsOf others
termination_by structural condition => condition

def atomsOf : List Condition → List (List Token)
  | [] => []
  | part :: parts => part.atoms ++ atomsOf parts
termination_by structural parts => parts

end

mutual

/-- Nothing is known of a condition if nothing is known of its atoms. -/
theorem value_unknown (valuation : Valuation) (condition : Condition)
    (unknown : ∀ atom ∈ condition.atoms, valuation atom = .unknown) :
    condition.value valuation = .unknown := by
  match condition with
  | .atom tokens => exact unknown tokens List.mem_cons_self
  | .negation part => exact congrArg Truth.not (value_unknown valuation part unknown)
  | .all first others =>
      obtain ⟨inFirst, inOthers⟩ := List.forall_mem_append.mp unknown
      refine Truth.all_of_same .unknown _ _ (List.forall_mem_cons.mpr ⟨?_, ?_⟩)
      · exact value_unknown valuation first inFirst
      · exact values_unknown valuation others inOthers
  | .any first others =>
      obtain ⟨inFirst, inOthers⟩ := List.forall_mem_append.mp unknown
      refine Truth.any_of_same .unknown _ _ (List.forall_mem_cons.mpr ⟨?_, ?_⟩)
      · exact value_unknown valuation first inFirst
      · exact values_unknown valuation others inOthers
termination_by structural condition

theorem values_unknown (valuation : Valuation) (conditions : List Condition)
    (unknown : ∀ atom ∈ atomsOf conditions, valuation atom = .unknown) :
    ∀ value ∈ values valuation conditions, value = .unknown := by
  match conditions with
  | [] => exact fun _ member => nomatch member
  | condition :: conditions =>
      obtain ⟨inFirst, inOthers⟩ := List.forall_mem_append.mp unknown
      refine List.forall_mem_cons.mpr ⟨?_, ?_⟩
      · exact value_unknown valuation condition inFirst
      · exact values_unknown valuation conditions inOthers
termination_by structural conditions

end

theorem atomsOf_append (left right : List Condition) :
    atomsOf (left ++ right) = atomsOf left ++ atomsOf right := by
  induction left with
  | nil => rfl
  | cons part parts ih =>
      rw [List.cons_append, atomsOf, ih, atomsOf, List.append_assoc]

private theorem atoms_joined {join : Condition → List Condition → Condition}
    {parts : List Condition}
    {condition : Condition} (gathers : ∀ first others, (join first others).atoms =
      atomsOf (first :: others))
    (whole : joined join parts = some condition) : condition.atoms = atomsOf parts := by
  match parts with
  | [] => cases whole
  | [only] =>
      cases whole
      rw [atomsOf, atomsOf, List.append_nil]
  | first :: second :: others =>
      cases whole
      exact gathers first (second :: others)

/-- The atoms of a condition are those of the factors of its disjuncts. -/
theorem atoms_ofParts {parts : List (List Condition)} {condition : Condition}
    (whole : ofParts parts = some condition) : condition.atoms = atomsOf parts.flatten := by
  obtain ⟨disjuncts, joinedAll, joinedAny⟩ := Option.bind_eq_some_iff.mp whole
  rw [mapM_eq_some_iff] at joinedAll
  rw [atoms_joined (fun _ _ => rfl) joinedAny]
  clear joinedAny whole
  induction parts generalizing disjuncts with
  | nil =>
      cases List.map_eq_nil_iff.mp joinedAll.symm
      rfl
  | cons factors parts ih =>
      obtain ⟨first, others, rfl, firstJoined, othersJoined⟩ :=
        List.map_eq_cons_iff.mp joinedAll.symm
      rw [atomsOf, atoms_joined (fun _ _ => rfl) firstJoined.symm, ih others othersJoined.symm,
        List.flatten_cons, atomsOf_append]

private theorem factors_unknown {valuation : Valuation} {factors : List Condition}
    (nonempty : factors ≠ [])
    (unknown : ∀ atom ∈ atomsOf factors, valuation atom = .unknown) :
    Truth.all (factors.map (value valuation)) = .unknown := by
  cases factors with
  | nil => exact absurd rfl nonempty
  | cons first others =>
      rw [← values_eq_map]
      exact Truth.all_of_same .unknown _ _ (values_unknown valuation (first :: others) unknown)

theorem mem_atomsOf_flatten {parts : List (List Condition)} {factors : List Condition}
    {atom : List Token} (member : factors ∈ parts) (inside : atom ∈ atomsOf factors) :
    atom ∈ atomsOf parts.flatten := by
  induction parts with
  | nil => cases member
  | cons first parts ih =>
      rw [List.flatten_cons, atomsOf_append]
      rcases List.mem_cons.mp member with rfl | rest
      · exact List.mem_append_left _ inside
      · exact List.mem_append_right _ (ih rest)

theorem partsValue_of_same {valuation : Valuation} {parts : List (List Condition)}
    {truth : Truth} (nonempty : parts ≠ [])
    (same : ∀ factors ∈ parts, Truth.all (factors.map (value valuation)) = truth) :
    partsValue valuation parts = truth := by
  cases parts with
  | nil => exact absurd rfl nonempty
  | cons first others =>
      refine Truth.any_of_same truth _ _ fun part member => ?_
      have listed : part ∈ (first :: others).map fun factors =>
          Truth.all (factors.map (value valuation)) := member
      obtain ⟨factors, inside, rfl⟩ := List.mem_map.mp listed
      exact same factors inside

/-! ### Fragments -/

def showsOr (text : String) : Bool :=
  (parts text).any fun found => decide (1 < found.length)

private theorem showsOr_of_parts {text : String} {before : List (List Condition)}
    {last : List Condition} (read : parts text = some (before ++ [last])) :
    showsOr text = false ↔ before = [] := by
  rw [showsOr, read, Option.any_some, decide_eq_false_iff_not, List.length_append,
    List.length_singleton, ← List.length_eq_zero_iff]
  omega

private theorem tokens_of_blank {letters : List Char}
    (blank : ∀ letter ∈ letters, isBlank letter = true) :
    tokens letters = some [] := by
  induction letters with
  | nil => rfl
  | cons letter letters ih =>
      have skipped : Hand.nothing.advance letter = some ([], .nothing) := by
        simp only [Hand.advance, after, begun, blank letter List.mem_cons_self, if_true,
          List.append_nil]
      have rest := ih (fun other member => blank other (List.mem_cons_of_mem letter member))
      rw [tokens, tokensWith_cons skipped]
      exact congrArg (Option.map _) rest

theorem not_isBlankText_of_parts {text : String} {found : List (List Condition)}
    (read : parts text = some found) : isBlankText text = false := by
  cases blank : isBlankText text with
  | false => rfl
  | true =>
      have noTokens := tokens_of_blank (List.all_eq_true.mp blank)
      rw [parts, items, noTokens] at read
      cases read

end Condition

/-! ### Filters -/

/-- Whether an OR of the filter stands outside parentheses in its text. -/
def Filter.showsOr : Filter → Bool
  | .all first [] | .any first [] => first.showsOr
  | .any _ (_ :: _) => true
  | _ => false
termination_by structural filter => filter

theorem Filter.showsOr_eq_false_iff (predicate : Filter → Nat → Truth) (filter : Filter)
    (index : Nat) :
    filter.showsOr = false ↔ (filter.disjunctValues predicate index).length = 1 := by
  match filter with
  | .all first [] | .any first [] => exact first.showsOr_eq_false_iff predicate index
  | .any first (second :: others) =>
      constructor
      · intro noParts
        cases noParts
      · intro one
        exact absurd (Nat.succ.inj one) (Nat.succ_ne_zero _)
  | .all first (second :: others) => exact ⟨fun _ => rfl, fun _ => rfl⟩
  | .negation part => exact ⟨fun _ => rfl, fun _ => rfl⟩
  | .oneOf negated key values => exact ⟨fun _ => rfl, fun _ => rfl⟩
  | .compare comparison key value => exact ⟨fun _ => rfl, fun _ => rfl⟩
  | .compareFolded comparison key value => exact ⟨fun _ => rfl, fun _ => rfl⟩
  | .matching key pattern => exact ⟨fun _ => rfl, fun _ => rfl⟩
  | .anyLabel first others => exact ⟨fun _ => rfl, fun _ => rfl⟩
  | .bare kind mark => exact ⟨fun _ => rfl, fun _ => rfl⟩
termination_by structural filter

def Follows (predicate : Filter → Nat → Truth) (assignment : Nat → Truth) (first count : Nat) :
    Prop :=
  ∀ leaf index, leaf.isPredicate = true → first ≤ index → index < first + count →
    predicate leaf index = assignment index

/-- Two assignments, one for the numbers below a bound and one for all others. -/
def splice (bound : Nat) (below others : Nat → Truth) (index : Nat) : Truth :=
  if index < bound then below index else others index

theorem Follows.below {predicate : Filter → Nat → Truth} {below others : Nat → Truth}
    {first count more : Nat}
    (follows : Follows predicate (splice (first + count) below others) first (count + more)) :
    Follows predicate below first count := by
  intro leaf index isPredicate least most
  rw [follows leaf index isPredicate least (by omega), splice, if_pos most]

theorem Follows.others {predicate : Filter → Nat → Truth} {below others : Nat → Truth}
    {first count more : Nat}
    (follows : Follows predicate (splice (first + count) below others) first (count + more)) :
    Follows predicate others (first + count) more := by
  intro leaf index isPredicate least most
  rw [follows leaf index isPredicate (by omega) (by omega), splice, if_neg (by omega)]

def Filter.Attains (filter : Filter) (truth : Truth) (index : Nat)
    (predicate : Filter → Nat → Truth) : Prop :=
  filter.value predicate index = truth ∧
    ∀ value ∈ filter.disjunctValues predicate index, value = truth

theorem Filter.attains_of_single {filter : Filter} {truth : Truth} {index : Nat}
    {predicate : Filter → Nat → Truth}
    (single : filter.disjunctValues predicate index = [filter.value predicate index])
    (value : filter.value predicate index = truth) :
    filter.Attains truth index predicate := by
  refine ⟨value, fun other member => ?_⟩
  rw [single] at member
  exact (List.mem_singleton.mp member).trans value

theorem Filter.exists_attains_predicate {filter : Filter} (truth : Truth) (index : Nat)
    (isPredicate : filter.isPredicate = true) (one : filter.leaves = 1)
    (single : ∀ predicate, filter.disjunctValues predicate index = [predicate filter index])
    (value : ∀ predicate, filter.value predicate index = predicate filter index) :
    ∃ assignment, ∀ predicate, Follows predicate assignment index filter.leaves →
      filter.Attains truth index predicate := by
  refine ⟨fun _ => truth, fun predicate follows => ?_⟩
  have attained := follows filter index isPredicate (Nat.le_refl index) (by omega)
  refine Filter.attains_of_single ?_ ?_
  · rw [single, value]
  · rw [value, attained]

/-- A filter and those behind it can be given one value together. -/
theorem Filter.exists_splice {first : Filter} {others : List Filter} {truth : Truth} {index : Nat}
    (left : ∃ assignment, ∀ predicate, Follows predicate assignment index first.leaves →
      first.Attains truth index predicate)
    (right : ∃ assignment, ∀ predicate,
      Follows predicate assignment (index + first.leaves) (Filter.leavesOf others) →
        ∀ value ∈ Filter.values predicate others (index + first.leaves), value = truth) :
    ∃ assignment, ∀ predicate,
      Follows predicate assignment index (first.leaves + Filter.leavesOf others) →
        ∀ value ∈ Filter.values predicate (first :: others) index, value = truth := by
  obtain ⟨below, attains⟩ := left
  obtain ⟨above, same⟩ := right
  refine ⟨splice (index + first.leaves) below above, fun predicate follows => ?_⟩
  exact List.forall_mem_cons.mpr
    ⟨(attains predicate follows.below).1, same predicate follows.others⟩

mutual

/-- Each predicate has a number of its own, and so a filter can be given any value. -/
theorem Filter.exists_attains (filter : Filter) (compilable : filter.hasBare = false)
    (truth : Truth) (index : Nat) :
    ∃ assignment, ∀ predicate, Follows predicate assignment index filter.leaves →
      filter.Attains truth index predicate := by
  match filter with
  | .compare comparison key value =>
      exact exists_attains_predicate truth index rfl rfl (fun _ => rfl) (fun _ => rfl)
  | .compareFolded comparison key value =>
      exact exists_attains_predicate truth index rfl rfl (fun _ => rfl) (fun _ => rfl)
  | .matching key pattern =>
      exact exists_attains_predicate truth index rfl rfl (fun _ => rfl) (fun _ => rfl)
  | .anyLabel first others =>
      exact exists_attains_predicate truth index rfl rfl (fun _ => rfl) (fun _ => rfl)
  | .oneOf false key values =>
      exact exists_attains_predicate truth index rfl rfl (fun _ => rfl) (fun _ => rfl)
  | .oneOf true key values =>
      refine ⟨fun _ => truth.not, fun predicate follows => attains_of_single rfl ?_⟩
      have test := follows (.oneOf false key values) index rfl (Nat.le_refl index)
        (Nat.lt_succ_self index)
      exact (congrArg Truth.not test).trans truth.not_not
  | .negation part =>
      obtain ⟨assignment, attains⟩ := part.exists_attains compilable truth.not index
      refine ⟨assignment, fun predicate follows => attains_of_single rfl ?_⟩
      exact (congrArg Truth.not (attains predicate follows).1).trans truth.not_not
  | .all first [] =>
      have compilable := (Bool.or_eq_false_iff.mp compilable).1
      obtain ⟨assignment, attains⟩ := first.exists_attains compilable truth index
      refine ⟨assignment, fun predicate follows => ?_⟩
      have alone := attains predicate follows
      exact ⟨(Truth.all_singleton _).trans alone.1, alone.2⟩
  | .any first [] =>
      have compilable := (Bool.or_eq_false_iff.mp compilable).1
      obtain ⟨assignment, attains⟩ := first.exists_attains compilable truth index
      refine ⟨assignment, fun predicate follows => ?_⟩
      have alone := attains predicate follows
      exact ⟨(Truth.any_singleton _).trans alone.1, alone.2⟩
  | .all first (second :: others) =>
      have compilable := Bool.or_eq_false_iff.mp compilable
      obtain ⟨assignment, same⟩ := exists_splice (first.exists_attains compilable.1 truth index)
        (Filter.exists_values (second :: others) compilable.2 truth (index + first.leaves))
      refine ⟨assignment, fun predicate follows => ?_⟩
      have each := same predicate follows
      exact attains_of_single rfl (Truth.all_of_same truth _ _ each)
  | .any first (second :: others) =>
      have compilable := Bool.or_eq_false_iff.mp compilable
      obtain ⟨assignment, same⟩ := exists_splice (first.exists_attains compilable.1 truth index)
        (Filter.exists_values (second :: others) compilable.2 truth (index + first.leaves))
      refine ⟨assignment, fun predicate follows => ?_⟩
      have each := same predicate follows
      exact ⟨Truth.any_of_same truth _ _ each, each⟩
  | .bare kind mark => cases compilable
termination_by structural filter

theorem Filter.exists_values (filters : List Filter) (compilable : Filter.anyBare filters = false)
    (truth : Truth) (index : Nat) :
    ∃ assignment, ∀ predicate, Follows predicate assignment index (Filter.leavesOf filters) →
      ∀ value ∈ Filter.values predicate filters index, value = truth := by
  match filters with
  | [] => exact ⟨fun _ => truth, fun _ _ _ member => nomatch member⟩
  | first :: others =>
      have compilable := Bool.or_eq_false_iff.mp compilable
      exact exists_splice (first.exists_attains compilable.1 truth index)
        (Filter.exists_values others compilable.2 truth (index + first.leaves))
termination_by structural filters

end

/-! ### Joined clauses -/

mutual

/-- What compiles has only parts that name a predicate. -/
theorem Filter.not_hasBare_of_literals (filter : Filter) {values : List Value}
    (bound : filter.literals = .ok values) : filter.hasBare = false := by
  match filter with
  | .compare _ _ _ | .compareFolded _ _ _ | .oneOf _ _ _ | .matching _ _ | .anyLabel _ _ => rfl
  | .negation part => exact part.not_hasBare_of_literals bound
  | .all first others | .any first others =>
      obtain ⟨found, more, left, right, _⟩ := Filter.of_joinLiterals_eq_ok bound
      exact Bool.or_eq_false_iff.mpr
        ⟨first.not_hasBare_of_literals left, Filter.not_anyBare_of_literals others right⟩
  | .bare kind mark => cases bound
termination_by structural filter

theorem Filter.not_anyBare_of_literals (filters : List Filter) {values : List Value}
    (bound : Filter.literalsOf filters = .ok values) : Filter.anyBare filters = false := by
  match filters with
  | [] => rfl
  | first :: others =>
      obtain ⟨found, more, left, right, _⟩ := Filter.of_joinLiterals_eq_ok bound
      exact Bool.or_eq_false_iff.mpr
        ⟨first.not_hasBare_of_literals left, Filter.not_anyBare_of_literals others right⟩
termination_by structural filters

end

namespace Condition

theorem partsValue_append (valuation : Valuation) (left right : List (List Condition)) :
    partsValue valuation (left ++ right) =
      (partsValue valuation left).or (partsValue valuation right) := by
  rw [partsValue, List.map_append, Truth.any_append]
  rfl

/-- The disjuncts of a text with AND between a fragment and a clause: the last disjunct of
the fragment and the first one of the clause are one, and all others stand by themselves. -/
theorem partsValue_joined (valuation : Valuation) (before behind : List (List Condition))
    (last first : List Condition) :
    partsValue valuation (before ++ (last ++ first) :: behind) =
      (partsValue valuation before).or
        (((Truth.all (last.map (value valuation))).and
          (Truth.all (first.map (value valuation)))).or (partsValue valuation behind)) := by
  rw [partsValue_append, ← Truth.all_append, ← List.map_append]
  rfl

end Condition

namespace Compiler

structure Joins (compiler : Compiler) (filter : Filter) (existing joined : String)
    (fragment whole : Condition) (before behind : List (List Condition))
    (last first : List Condition) : Prop where
  fragmentParts : parts existing = some (before ++ [last])
  fragmentWhole : ofParts (before ++ [last]) = some fragment
  clauseReads : compiler.Reads filter 0 (first :: behind)
  wholeRead : Condition.read joined = some whole
  wholeValue : ∀ valuation, whole.value valuation =
    partsValue valuation (before ++ (last ++ first) :: behind)

variable {compiler : Compiler}

private theorem exists_joins {filter : Filter} {clause : WhereClause} {existing : String}
    {fragment : Condition} (compiled : compiler.compile (some filter) = .ok clause)
    (readable : Condition.read existing = some fragment) :
    filter.hasBare = false ∧ ∃ whole before behind last first,
      compiler.Joins filter existing (clause.appendTo existing) fragment whole before behind
        last first := by
  cases literals : filter.literals with
  | error fault =>
      rw [compiler.compile_of_fault literals] at compiled
      cases compiled
  | ok values =>
      rw [compiler.compile_of_literals literals] at compiled
      cases compiled
      have compilable := filter.not_hasBare_of_literals literals
      obtain ⟨clauseParts, reads⟩ := compiler.reads_text filter 0 compilable
      obtain ⟨found, fragmentParts, fragmentWhole⟩ := Option.bind_eq_some_iff.mp readable
      obtain ⟨_, _, fragmentCut⟩ := (parts_eq_some_iff _ _).mp fragmentParts
      obtain ⟨_, _, clauseCut⟩ := (parts_eq_some_iff _ _).mp reads.parts
      obtain ⟨before, last, rfl⟩ : ∃ before last, found = before ++ [last] :=
        ⟨_, _, (List.dropLast_concat_getLast (nonempty_of_disjuncts fragmentCut).1).symm⟩
      obtain ⟨first, behind, rfl⟩ := List.exists_cons_of_ne_nil (nonempty_of_disjuncts clauseCut).1
      have joined := parts_and fragmentParts reads.parts reads.opens
      obtain ⟨whole, read, value⟩ := read_of_parts joined
      have notEmpty : compiler.text filter 0 ≠ "" := by
        intro empty
        have opens := reads.opens
        rw [empty] at opens
        cases opens
      refine ⟨compilable, whole, before, behind, last, first, fragmentParts, fragmentWhole, reads,
        ?_, value⟩
      rw [WhereClause.appendTo, WhereClause.isEmpty, beq_eq_false_iff_ne.mpr notEmpty,
        not_isBlankText_of_parts fragmentParts]
      exact read

section

variable {filter : Filter} {existing joined : String} {fragment whole : Condition}
  {before behind : List (List Condition)} {last first : List Condition}

private theorem Joins.fragmentValue
    (joins : compiler.Joins filter existing joined fragment whole before behind last first)
    (valuation : Valuation) :
    fragment.value valuation = (partsValue valuation before).or
      (Truth.all (last.map (value valuation))) := by
  rw [value_ofParts joins.fragmentWhole, partsValue_append]
  exact congrArg _ (Truth.any_singleton _)

private theorem Joins.clauseValue
    (joins : compiler.Joins filter existing joined fragment whole before behind last first)
    (valuation : Valuation) :
    filter.value (compiler.predicateValue valuation) 0 =
      (Truth.all (first.map (value valuation))).or (partsValue valuation behind) := by
  rw [← Filter.any_disjunctValues, ← joins.clauseReads.values]
  rfl

private theorem Joins.value_of_tight
    (joins : compiler.Joins filter existing joined fragment whole [] [] last first)
    (valuation : Valuation) :
    whole.value valuation = (fragment.value valuation).and
      (filter.value (compiler.predicateValue valuation) 0) := by
  rw [joins.wholeValue, partsValue_joined, joins.fragmentValue, joins.clauseValue]
  change Truth.or .fails (Truth.or _ .fails) = Truth.and (Truth.or .fails _) (Truth.or _ .fails)
  rw [Truth.or_fails, Truth.or_fails]
  rfl

/-- No predicate of the compiler is written like an atom of the fragment. -/
def Apart (compiler : Compiler) (fragment : Condition) : Prop :=
  ∀ leaf index, leaf.isPredicate = true → compiler.atom leaf index ∉ fragment.atoms

/-- Nothing is known of the fragment, and the filter has some value. -/
theorem exists_valuation_apart {fragment : Condition} {filter : Filter}
    (apart : compiler.Apart fragment) (compilable : filter.hasBare = false) (truth : Truth) :
    ∃ valuation, (∀ atom ∈ fragment.atoms, valuation atom = .unknown) ∧
      filter.Attains truth 0 (compiler.predicateValue valuation) := by
  obtain ⟨assignment, attains⟩ := filter.exists_attains compilable truth 0
  obtain ⟨given, agrees⟩ := compiler.exists_valuation assignment
  refine ⟨fun atom => if atom ∈ fragment.atoms then .unknown else given atom,
    fun atom member => if_pos member, attains _ ?_⟩
  intro leaf index isPredicate _ _
  rw [predicateValue, if_neg (apart leaf index isPredicate)]
  exact agrees leaf index isPredicate

theorem Joins.fragment_unknown {valuation : Valuation}
    (joins : compiler.Joins filter existing joined fragment whole before behind last first)
    (unknown : ∀ atom ∈ fragment.atoms, valuation atom = .unknown) :
    ∀ factors ∈ before ++ [last], Truth.all (factors.map (value valuation)) = .unknown := by
  intro factors member
  obtain ⟨_, _, cut⟩ := (parts_eq_some_iff _ _).mp joins.fragmentParts
  refine factors_unknown ((nonempty_of_disjuncts cut).2 factors member) fun atom inside => ?_
  refine unknown atom ?_
  rw [atoms_ofParts joins.fragmentWhole]
  exact mem_atomsOf_flatten member inside

theorem Joins.clause_attains {valuation : Valuation} {truth : Truth}
    (joins : compiler.Joins filter existing joined fragment whole before behind last first)
    (attains : filter.Attains truth 0 (compiler.predicateValue valuation)) :
    ∀ factors ∈ first :: behind, Truth.all (factors.map (value valuation)) = truth := by
  intro factors member
  refine attains.2 _ ?_
  rw [← joins.clauseReads.values]
  exact List.mem_map_of_mem member

/-- A fragment that shows an OR lets through what the filter excludes. -/
theorem Joins.fragment_tight
    (joins : compiler.Joins filter existing joined fragment whole before behind last first)
    (compilable : filter.hasBare = false) (apart : compiler.Apart fragment)
    (conjunction : ∀ valuation, whole.value valuation = (fragment.value valuation).and
      (filter.value (compiler.predicateValue valuation) 0)) : before = [] := by
  cases before with
  | nil => rfl
  | cons other before =>
      obtain ⟨valuation, unknown, attains⟩ := exists_valuation_apart apart compilable .fails
      have fragmentUnknown := joins.fragment_unknown unknown
      have clauseFails := joins.clause_attains attains
      have beforeUnknown : partsValue valuation (other :: before) = .unknown :=
        partsValue_of_same (List.cons_ne_nil _ _)
          fun factors member => fragmentUnknown factors (List.mem_append_left _ member)
      have lastUnknown := fragmentUnknown last (List.mem_append_right _ List.mem_cons_self)
      have firstFails := clauseFails first List.mem_cons_self
      have behindFails : partsValue valuation behind = .fails := by
        cases behind with
        | nil => rfl
        | cons second others =>
            exact partsValue_of_same (List.cons_ne_nil _ _)
              fun factors member => clauseFails factors (List.mem_cons_of_mem first member)
      have same := conjunction valuation
      rw [joins.wholeValue, partsValue_joined, beforeUnknown, lastUnknown, firstFails,
        behindFails, value_unknown valuation fragment unknown, attains.1] at same
      cases same

/-- A filter that shows an OR lets through what the fragment excludes. -/
theorem Joins.clause_tight
    (joins : compiler.Joins filter existing joined fragment whole before behind last first)
    (compilable : filter.hasBare = false) (apart : compiler.Apart fragment)
    (conjunction : ∀ valuation, whole.value valuation = (fragment.value valuation).and
      (filter.value (compiler.predicateValue valuation) 0)) : behind = [] := by
  cases behind with
  | nil => rfl
  | cons second others =>
      obtain ⟨valuation, unknown, attains⟩ := exists_valuation_apart apart compilable .holds
      have clauseHolds := joins.clause_attains attains
      have lastUnknown := joins.fragment_unknown unknown last
        (List.mem_append_right _ List.mem_cons_self)
      have firstHolds := clauseHolds first List.mem_cons_self
      have behindHolds : partsValue valuation (second :: others) = .holds :=
        partsValue_of_same (List.cons_ne_nil _ _)
          fun factors member => clauseHolds factors (List.mem_cons_of_mem first member)
      have same := conjunction valuation
      rw [joins.wholeValue, partsValue_joined, lastUnknown, firstHolds, behindHolds,
        value_unknown valuation fragment unknown, attains.1] at same
      cases other : partsValue valuation before <;> rw [other] at same <;> cases same

end

/-- Joining a compiled filter to a readable fragment gives a text that can be read. Where
neither side shows an OR outside parentheses, the text is the conjunction of both. Where one
of them does, it is not, provided that the two sides have no atom in common: there are truth
values for the atoms under which it differs from the conjunction. -/
theorem appendTo_conjunction (compiler : Compiler) {filter : Filter} {clause : WhereClause}
    {existing : String} {fragment : Condition}
    (compiled : compiler.compile (some filter) = .ok clause)
    (readable : Condition.read existing = some fragment) :
    ∃ whole, Condition.read (clause.appendTo existing) = some whole ∧
      (showsOr existing = false ∧ filter.showsOr = false →
        ∀ valuation, whole.value valuation = (fragment.value valuation).and
          (filter.value (compiler.predicateValue valuation) 0)) ∧
      (compiler.Apart fragment →
        (∀ valuation, whole.value valuation = (fragment.value valuation).and
          (filter.value (compiler.predicateValue valuation) 0)) →
        showsOr existing = false ∧ filter.showsOr = false) := by
  obtain ⟨compilable, whole, before, behind, last, first, joins⟩ := exists_joins compiled readable
  have fragmentShows := showsOr_of_parts joins.fragmentParts
  have clauseShows : filter.showsOr = false ↔ behind = [] := by
    rw [filter.showsOr_eq_false_iff (compiler.predicateValue fun _ => .unknown) 0,
      ← joins.clauseReads.values, List.length_map, List.length_cons, ← List.length_eq_zero_iff]
    omega
  refine ⟨whole, joins.wholeRead, ?_, ?_⟩
  · rintro ⟨noFragmentOr, noClauseOr⟩
    cases fragmentShows.mp noFragmentOr
    cases clauseShows.mp noClauseOr
    exact joins.value_of_tight
  · intro apart conjunction
    exact ⟨fragmentShows.mpr (joins.fragment_tight compilable apart conjunction),
      clauseShows.mpr (joins.clause_tight compilable apart conjunction)⟩

/-- A fragment without parameters has no atom in common with any filter. -/
theorem apart_of_free {fragment : Condition}
    (free : ∀ atom ∈ fragment.atoms, ∀ token ∈ atom, token.isParameter = false) :
    compiler.Apart fragment := by
  intro leaf index isPredicate member
  obtain ⟨items, leafText⟩ := compiler.leafText leaf index isPredicate
  obtain ⟨before, behind, tokens, _, _⟩ := leafText.numbered
  obtain ⟨letters, others, starts⟩ := compiler.referenceTokens_starts index
  have inside : Token.word ('$' :: letters) ∈ compiler.atom leaf index := by
    rw [atom_eq leafText, tokens, starts]
    exact List.mem_append_left _ (List.mem_append_right _ List.mem_cons_self)
  cases free _ member _ inside

private def eitherText : String := "a = 1 OR b = 2"

private def leftAtom : Condition := .atom [.word ['a'], .sign '=', .word ['1']]

private def rightAtom : Condition := .atom [.word ['b'], .sign '=', .word ['2']]

def ownerFilter : Filter :=
  .compare .equal ownerKey (.text "alice")

private def ownerClause : WhereClause :=
  { text := "e.owner = $_filter_0", parameters := [("_filter_0", .text "alice")] }

private theorem parts_eitherText : parts eitherText = some [[leftAtom], [rightAtom]] := by
  have scanned : tokens eitherText.toList = some [.word ['a'], .sign '=', .word ['1'],
      .word ['O', 'R'], .word ['b'], .sign '=', .word ['2']] := by
    decide +kernel
  rw [parts, items, scanned]
  rfl

private theorem read_eitherText : Condition.read eitherText = some (.any leftAtom [rightAtom]) := by
  rw [Condition.read, parts_eitherText]
  rfl

theorem compile_ownerFilter : standard.compile (some ownerFilter) = .ok ownerClause :=
  rfl

theorem appendTo_conjunction_eitherText :
    standard.compile (some ownerFilter) = .ok ownerClause ∧
      Condition.read eitherText = some (.any leftAtom [rightAtom]) ∧
      ∃ whole, Condition.read (ownerClause.appendTo eitherText) = some whole ∧
        ¬∀ valuation, whole.value valuation =
          ((Condition.any leftAtom [rightAtom]).value valuation).and
            (ownerFilter.value (standard.predicateValue valuation) 0) := by
  obtain ⟨whole, read, _, tight⟩ :=
    standard.appendTo_conjunction compile_ownerFilter read_eitherText
  refine ⟨compile_ownerFilter, read_eitherText, whole, read, fun conjunction => ?_⟩
  have apart : standard.Apart (.any leftAtom [rightAtom]) := apart_of_free (by decide)
  have noOr := (tight apart conjunction).1
  rw [showsOr, parts_eitherText] at noOr
  cases noOr

private def ownerAtom : List Token :=
  [.word "e.owner".toList, .sign '=', .word "$_filter_0".toList]

private theorem read_appendTo_eitherText :
    Condition.read (ownerClause.appendTo eitherText) =
      some (.any leftAtom [.all rightAtom [.atom ownerAtom]]) := by
  have scanned : tokens (ownerClause.appendTo eitherText).toList =
      some ([.word ['a'], .sign '=', .word ['1'], .word ['O', 'R'], .word ['b'], .sign '=',
        .word ['2'], .word ['A', 'N', 'D']] ++ ownerAtom) := by
    decide +kernel
  rw [Condition.read, parts, items, scanned]
  rfl

private def otherOwner (atom : List Token) : Truth :=
  if atom = ownerAtom then .fails else .holds

/-- The text lets in what has another owner, once the first comparison holds. -/
theorem appendTo_eitherText_lets_in :
    ownerClause.appendTo eitherText = "a = 1 OR b = 2 AND e.owner = $_filter_0" ∧
      standard.compile (some ownerFilter) = .ok ownerClause ∧
      ∃ whole, Condition.read (ownerClause.appendTo eitherText) = some whole ∧
        whole.value otherOwner = .holds ∧
        ownerFilter.value (standard.predicateValue otherOwner) 0 = .fails := by
  refine ⟨by decide +kernel, compile_ownerFilter, _, read_appendTo_eitherText, ?_, ?_⟩
  · have first : leftAtom.value otherOwner = .holds := by
      rw [leftAtom, value, otherOwner, if_neg (by decide)]
    rw [value, Truth.any, List.foldr_cons, first]
    rfl
  · have written : standard.atom ownerFilter 0 = ownerAtom := by decide +kernel
    change otherOwner (standard.atom ownerFilter 0) = .fails
    rw [written, otherOwner, if_pos rfl]

end Compiler

end QueryWarden
