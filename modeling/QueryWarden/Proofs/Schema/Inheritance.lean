/-
Inheritance between node types as a graph. A label extends the labels that are listed as
its parents, and it inherits whatever is reached in any number of such steps. The labels
that are resolved for a type are compared with that graph alone: either they are all that
the type inherits, or the walk that was given up goes along steps of the graph and comes
back to a label it has passed.
-/

import Mathlib.Data.List.Chain
import QueryWarden.Schema.Inheritance

namespace QueryWarden.Inheritance

/-! ### The graph -/

def names (parents : Parents) : List String :=
  parents.map Prod.fst

def Extends (parents : Parents) (label parent : String) : Prop :=
  ∃ listed, (label, listed) ∈ parents ∧ parent ∈ listed

def Inherits (parents : Parents) : String → String → Prop :=
  Relation.ReflTransGen (Extends parents)

def Complete (parents : Parents) : Prop :=
  ∀ label parent, Extends parents label parent → parent ∈ names parents

/-- Some label is reached from itself in one step or more. -/
def Cyclic (parents : Parents) : Prop :=
  ∃ label, Relation.TransGen (Extends parents) label label

def Grounded (parents : Parents) : String → Prop :=
  Acc (Function.swap (Extends parents))

/-- A walk from a declared label, along the steps of the graph, whose last label it has
passed before. -/
structure Revisits (parents : Parents) (walk : List String) : Prop where
  steps : walk.IsChain (Extends parents)
  begins : ∀ first ∈ walk.head?, first ∈ names parents
  returns : ∃ before last, walk = before ++ [last] ∧ last ∈ before

variable {parents : Parents}

theorem Extends.declared {label parent : String} (extended : Extends parents label parent) :
    label ∈ names parents := by
  obtain ⟨listed, member, _⟩ := extended
  exact List.mem_map_of_mem member

/-- What holds of every step is a matter of the listed parents. -/
theorem forall_extends_iff (holds : String → String → Prop) :
    (∀ label parent, Extends parents label parent → holds label parent) ↔
      ∀ entry ∈ parents, ∀ parent ∈ entry.2, holds entry.1 parent := by
  constructor
  · intro each entry member parent listed
    exact each entry.1 parent ⟨entry.2, member, listed⟩
  · rintro each label parent ⟨listed, member, inside⟩
    exact each _ member parent inside

theorem lookup_eq_some_iff (distinct : (names parents).Nodup) (label : String)
    (listed : List String) : parents.lookup label = some listed ↔ (label, listed) ∈ parents := by
  induction parents with
  | nil => simp
  | cons entry rest ih =>
      obtain ⟨other, others⟩ := entry
      have apart := List.nodup_cons.mp distinct
      rw [List.lookup_cons, List.mem_cons]
      by_cases same : label = other
      · subst same
        have absent : (label, listed) ∉ rest := fun member =>
          apart.1 (List.mem_map.mpr ⟨_, member, rfl⟩)
        simp [absent, eq_comm]
      · rw [beq_eq_false_iff_ne.mpr same]
        simp [same, ih apart.2]

theorem mem_parentsOf_iff (distinct : (names parents).Nodup) (label parent : String) :
    parent ∈ parentsOf parents label ↔ Extends parents label parent := by
  unfold parentsOf Extends
  constructor
  · intro member
    cases found : parents.lookup label with
    | none =>
        rw [found] at member
        cases member
    | some listed =>
        rw [found] at member
        exact ⟨listed, (lookup_eq_some_iff distinct label listed).mp found, member⟩
  · rintro ⟨listed, declared, member⟩
    rw [(lookup_eq_some_iff distinct label listed).mpr declared]
    exact member

/-- What a label inherits is the label itself and whatever its parents inherit. -/
theorem inherits_iff (label other : String) :
    Inherits parents label other ↔
      other = label ∨ ∃ parent, Extends parents label parent ∧ Inherits parents parent other :=
  Relation.ReflTransGen.cases_head_iff.trans (or_congr_left eq_comm)

/-- In a graph without undeclared parents nothing undeclared is inherited. -/
theorem Inherits.declared {label other : String} (inherited : Inherits parents label other)
    (complete : Complete parents) (declared : label ∈ names parents) :
    other ∈ names parents := by
  induction inherited with
  | refl => exact declared
  | tail _ step _ => exact complete _ _ step

/-! ### Cycles -/

theorem not_cyclic_of_grounded (grounded : ∀ label ∈ names parents, Grounded parents label) :
    ¬Cyclic parents := by
  rintro ⟨label, cycle⟩
  have declared : label ∈ names parents := by
    obtain ⟨next, step, _⟩ := Relation.TransGen.head'_iff.mp cycle
    exact step.declared
  have irreflexive : ∀ other, Acc (Relation.TransGen (Function.swap (Extends parents))) other →
      ¬Relation.TransGen (Function.swap (Extends parents)) other other := by
    intro other accessible
    induction accessible with
    | intro other _ ih => exact fun below => ih other below below
  exact irreflexive label (grounded label declared).transGen (Relation.transGen_swap.mpr cycle)

/-- Labels that can be ranked above their parents are not reached from themselves. -/
theorem not_cyclic_of_rank (rank : String → Nat)
    (lower : ∀ label parent, Extends parents label parent → rank parent < rank label) :
    ¬Cyclic parents := by
  rintro ⟨label, cycle⟩
  have below : ∀ other, Relation.TransGen (Extends parents) label other → rank other < rank label := by
    intro other reached
    induction reached with
    | single step => exact lower label _ step
    | tail _ step ih => exact (lower _ _ step).trans ih
  exact Nat.lt_irrefl _ (below label cycle)

private theorem transGen_of_isChain {first last : String} {between : List String}
    (steps : (first :: (between ++ [last])).IsChain (Extends parents)) :
    Relation.TransGen (Extends parents) first last := by
  induction between generalizing first with
  | nil => exact .single (List.isChain_pair.mp steps)
  | cons next between ih =>
      obtain ⟨step, rest⟩ := List.isChain_cons_cons.mp steps
      exact .head step (ih rest)

theorem Revisits.cyclic {walk : List String} (revisits : Revisits parents walk) :
    Cyclic parents := by
  obtain ⟨before, last, whole, passed⟩ := revisits.returns
  obtain ⟨left, between, rfl⟩ := List.append_of_mem passed
  have steps := revisits.steps
  rw [whole, List.append_assoc] at steps
  exact ⟨last, transGen_of_isChain steps.right_of_append⟩

/-! ### Resolving -/

def Sound (parents : Parents) (resolved : Resolved) : Prop :=
  ∀ label labels, resolved.lookup label = some labels →
    Grounded parents label ∧ ∀ other, other ∈ labels ↔ Inherits parents label other

inductive Answers (parents : Parents) (targets : List String) :
    Except (List String) (List String × Resolved) → Prop where
  | found {labels : List String} {resolved : Resolved}
      (grounded : ∀ target ∈ targets, Grounded parents target)
      (exact : ∀ other, other ∈ labels ↔ ∃ target ∈ targets, Inherits parents target other)
      (sound : Sound parents resolved) : Answers parents targets (.ok (labels, resolved))
  | cyclic {walk : List String} (revisits : Revisits parents walk) :
      Answers parents targets (.error walk)

structure Arrives (parents : Parents) (free walk : List String) (label : String) : Prop where
  declared : label ∈ names parents
  steps : (walk ++ [label]).IsChain (Extends parents)
  begins : ∀ first ∈ (walk ++ [label]).head?, first ∈ names parents
  passed : ∀ other ∈ names parents, other ∉ free → other ∈ walk

theorem Arrives.next {free walk : List String} {label parent : String}
    (arrives : Arrives parents free walk label) (complete : Complete parents)
    (extended : Extends parents label parent) :
    Arrives parents (free.erase label) (walk ++ [label]) parent where
  declared := complete label parent extended
  steps := by
    refine List.isChain_append.mpr ⟨arrives.steps, List.isChain_singleton parent, ?_⟩
    intro last isLast first isFirst
    rw [List.getLast?_concat, Option.mem_some] at isLast
    rw [List.head?_cons, Option.mem_some] at isFirst
    rw [← isLast, ← isFirst]
    exact extended
  begins := by
    intro first isFirst
    refine arrives.begins first ?_
    cases walk with
    | nil => exact isFirst
    | cons start walk => exact isFirst
  passed := by
    intro other declared notFree
    by_cases same : other = label
    · subst same
      exact List.mem_append_right walk (List.mem_singleton_self other)
    · have absent : other ∉ free := fun member =>
        notFree ((List.mem_erase_of_ne same).mpr member)
      exact List.mem_append_left _ (arrives.passed other declared absent)

theorem Arrives.revisits {free walk : List String} {label : String}
    (arrives : Arrives parents free walk label) (taken : label ∉ free) :
    Revisits parents (walk ++ [label]) where
  steps := arrives.steps
  begins := arrives.begins
  returns := ⟨walk, label, rfl, arrives.passed label arrives.declared taken⟩

/-- A list of labels is resolved if each of them is. -/
theorem resolveAll_answers {free walk targets : List String}
    (each : ∀ target ∈ targets, ∀ resolved, Sound parents resolved →
      Answers parents [target] (resolve parents free walk resolved target))
    {resolved : Resolved} (sound : Sound parents resolved) :
    Answers parents targets (resolveAll parents free walk resolved targets) := by
  induction targets generalizing resolved with
  | nil =>
      rw [resolveAll]
      exact .found (by simp) (by simp) sound
  | cons target targets ih =>
      have rest := fun resolved (sound : Sound parents resolved) =>
        ih (fun other member => each other (List.mem_cons_of_mem target member)) sound
      have first := each target List.mem_cons_self resolved sound
      rw [resolveAll]
      cases outcome : resolve parents free walk resolved target with
      | error cycle =>
          rw [outcome] at first
          cases first with
          | cyclic revisits => exact .cyclic revisits
      | ok pair =>
          obtain ⟨labels, resolved⟩ := pair
          rw [outcome] at first
          cases first with
          | found grounded exact sound =>
              have others := rest resolved sound
              simp only
              cases outcome : resolveAll parents free walk resolved targets with
              | error cycle =>
                  rw [outcome] at others
                  cases others with
                  | cyclic revisits => exact .cyclic revisits
              | ok pair =>
                  obtain ⟨more, resolved⟩ := pair
                  rw [outcome] at others
                  cases others with
                  | found groundedOthers exactOthers sound =>
                      refine .found ?_ ?_ sound
                      · exact List.forall_mem_cons.mpr
                          ⟨grounded target (List.mem_singleton_self target), groundedOthers⟩
                      · intro other
                        rw [List.mem_append, exact, exactOthers]
                        simp

theorem Sound.cons {resolved : Resolved} {label : String} {labels : List String}
    (sound : Sound parents resolved) (grounded : Grounded parents label)
    (exact : ∀ other, other ∈ labels ↔ Inherits parents label other) :
    Sound parents ((label, labels) :: resolved) := by
  intro other found isFound
  rw [List.lookup_cons] at isFound
  by_cases same : other = label
  · subst same
    rw [beq_self_eq_true] at isFound
    cases isFound
    exact ⟨grounded, exact⟩
  · rw [beq_eq_false_iff_ne.mpr same] at isFound
    exact sound other found isFound

/-- One label is resolved. The free labels become fewer with every step of the walk, and
the induction is on their number. -/
theorem resolve_answers (complete : Complete parents) (distinct : (names parents).Nodup)
    {free walk : List String} {label : String} (arrives : Arrives parents free walk label)
    {resolved : Resolved} (sound : Sound parents resolved) :
    Answers parents [label] (resolve parents free walk resolved label) := by
  generalize count : free.length = bound
  induction bound using Nat.strongRecOn generalizing free walk label resolved with
  | ind bound ih =>
      rw [resolve]
      by_cases present : label ∈ free
      · rw [dif_pos present]
        cases recorded : resolved.lookup label with
        | some labels =>
            obtain ⟨grounded, exact⟩ := sound label labels recorded
            exact .found (by simpa using grounded) (by simpa using exact) sound
        | none =>
            have fewer : (free.erase label).length < bound := by
              have nonempty := List.length_pos_of_mem present
              rw [List.length_erase_of_mem present]
              omega
            have each : ∀ parent ∈ parentsOf parents label, ∀ resolved, Sound parents resolved →
                Answers parents [parent]
                  (resolve parents (free.erase label) (walk ++ [label]) resolved parent) :=
              fun parent member resolved sound =>
                ih _ fewer (arrives.next complete ((mem_parentsOf_iff distinct label parent).mp member))
                  sound rfl
            have inside := resolveAll_answers each sound
            simp only
            cases outcome : resolveAll parents (free.erase label) (walk ++ [label]) resolved
                (parentsOf parents label) with
            | error cycle =>
                rw [outcome] at inside
                cases inside with
                | cyclic revisits => exact .cyclic revisits
            | ok pair =>
                obtain ⟨inherited, resolved⟩ := pair
                rw [outcome] at inside
                cases inside with
                | found groundedParents exactParents sound =>
                    have grounded : Grounded parents label := Acc.intro label fun parent step =>
                      groundedParents parent ((mem_parentsOf_iff distinct label parent).mpr step)
                    have exact : ∀ other, other ∈ (label :: inherited).eraseDups ↔
                        Inherits parents label other := by
                      intro other
                      rw [List.mem_eraseDups, List.mem_cons, exactParents, inherits_iff]
                      simp only [mem_parentsOf_iff distinct]
                    exact .found (by simpa using grounded) (by simpa using exact)
                      (sound.cons grounded exact)
      · rw [dif_neg present]
        exact .cyclic (arrives.revisits present)

/-- Each declared type is resolved from whatever has been resolved before it. -/
theorem labelsOf_answers (complete : Complete parents) (distinct : (names parents).Nodup)
    {label : String} (declared : label ∈ names parents) {resolved : Resolved}
    (sound : Sound parents resolved) :
    Answers parents [label] (labelsOf parents resolved label) := by
  refine resolve_answers complete distinct ⟨declared, List.isChain_singleton label, ?_, ?_⟩ sound
  · intro first isFirst
    rw [List.nil_append, List.head?_cons, Option.mem_some] at isFirst
    rw [← isFirst]
    exact declared
  · exact fun other member notFree => absurd member notFree

/-! ### Own labels -/

def OwnLabels (resolved : Resolved) : Prop :=
  ∀ label labels, resolved.lookup label = some labels → label ∈ labels

theorem ownLabels_nil : OwnLabels [] := by
  rintro _ _ ⟨⟩

private theorem resolveAll_own {free walk targets : List String}
    (each : ∀ target ∈ targets, ∀ resolved labels next, OwnLabels resolved →
      resolve parents free walk resolved target = .ok (labels, next) → OwnLabels next)
    {resolved next : Resolved} {labels : List String} (own : OwnLabels resolved)
    (found : resolveAll parents free walk resolved targets = .ok (labels, next)) :
    OwnLabels next := by
  induction targets generalizing resolved labels with
  | nil =>
      rw [resolveAll] at found
      cases found
      exact own
  | cons target targets ih =>
      obtain ⟨first, others⟩ := List.forall_mem_cons.mp each
      rw [resolveAll] at found
      cases outcome : resolve parents free walk resolved target with
      | error cycle =>
          rw [outcome] at found
          cases found
      | ok pair =>
          rw [outcome] at found
          cases outcomeOthers : resolveAll parents free walk pair.2 targets with
          | error cycle =>
              simp only [outcomeOthers] at found
              cases found
          | ok pairOthers =>
              simp only [outcomeOthers] at found
              cases found
              exact ih others (first resolved pair.1 pair.2 own outcome) outcomeOthers

/-- The free labels become fewer with every step of the walk, and the induction is on their
number. -/
theorem resolve_own {free walk : List String} {label : String} {resolved next : Resolved}
    {labels : List String} (own : OwnLabels resolved)
    (found : resolve parents free walk resolved label = .ok (labels, next)) :
    label ∈ labels ∧ OwnLabels next := by
  generalize count : free.length = bound
  induction bound using Nat.strongRecOn generalizing free walk label resolved labels next with
  | ind bound ih =>
      rw [resolve] at found
      by_cases present : label ∈ free
      · rw [dif_pos present] at found
        cases recorded : resolved.lookup label with
        | some onRecord =>
            rw [recorded] at found
            cases found
            exact ⟨own label labels recorded, own⟩
        | none =>
            rw [recorded] at found
            have fewer : (free.erase label).length < bound := by
              have nonempty := List.length_pos_of_mem present
              rw [List.length_erase_of_mem present]
              omega
            have each : ∀ target ∈ parentsOf parents label, ∀ resolved labels next,
                OwnLabels resolved → resolve parents (free.erase label) (walk ++ [label])
                  resolved target = .ok (labels, next) → OwnLabels next :=
              fun _ _ _ _ _ own found => (ih _ fewer own found rfl).2
            cases outcome : resolveAll parents (free.erase label) (walk ++ [label]) resolved
                (parentsOf parents label) with
            | error cycle =>
                simp only [outcome] at found
                cases found
            | ok pair =>
                simp only [outcome] at found
                cases found
                have inside : label ∈ (label :: pair.1).eraseDups :=
                  List.mem_eraseDups.mpr List.mem_cons_self
                refine ⟨inside, fun other labels recorded => ?_⟩
                rw [List.lookup_cons] at recorded
                by_cases same : other = label
                · subst same
                  rw [beq_self_eq_true] at recorded
                  cases recorded
                  exact inside
                · rw [beq_eq_false_iff_ne.mpr same] at recorded
                  exact resolveAll_own each own outcome other labels recorded
      · rw [dif_neg present] at found
        cases found

end QueryWarden.Inheritance
