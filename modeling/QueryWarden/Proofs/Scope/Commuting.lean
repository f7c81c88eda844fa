/-
Steps that narrow a scope, in any order. A step is checked against the newest values alone, yet all
steps succeed exactly when each is sound by itself and any two of them agree on the names they
share. That has nothing to do with their order, and so neither has what a scope ends up with:
the same constraints, and for each name a value equal to that of any other order.
-/

import Mathlib.Data.List.Pairwise
import Mathlib.Data.List.Perm.Subperm
import QueryWarden.Proofs.Scope.Binding
import QueryWarden.Proofs.Value.Agreement

namespace QueryWarden

open Text

/-! ### Bindings that agree -/

namespace Bindings

/-- No name is bound twice, and every value is formed. -/
structure IsFormed (bindings : Bindings) : Prop where
  distinct : (names bindings).Nodup
  formed : ∀ name value, (name, value) ∈ bindings → value.IsFormed

variable {left right : Bindings}

theorem exists_lookup_of_mem {bindings : Bindings} {name : String} {value : Value}
    (member : (name, value) ∈ bindings) : ∃ found, bindings.lookup name = some found := by
  apply Option.ne_none_iff_exists'.mp
  intro absent
  have apart := List.lookup_eq_none_iff.mp absent (name, value) member
  exact bne_iff_ne.mp apart rfl

theorem IsFormed.override (formed : left.IsFormed) (rightFormed : right.IsFormed) :
    (override left right).IsFormed where
  distinct := nodup_names_override formed.distinct right
  formed := by
    intro name value member
    have found := lookup_of_mem (nodup_names_override formed.distinct right) member
    rw [lookup_override, Option.or_eq_some_iff] at found
    rcases found with newer | ⟨_, older⟩
    · exact rightFormed.formed name value (List.mem_reverse.mp (mem_of_lookup newer))
    · exact formed.formed name value (mem_of_lookup older)

theorem Agree.symm (agree : left.Agree right) (formed : left.IsFormed) : right.Agree left := by
  intro name value member old found
  have known := lookup_of_mem formed.distinct member
  have same := agree name old (mem_of_lookup found) value known
  exact Value.same_symm (formed.formed name value member) same

/-- What is put over the left side is equal to what it hides, so that nothing is lost. -/
theorem agree_override_iff (agree : left.Agree right) (formed : left.IsFormed)
    (distinct : (names right).Nodup) (third : Bindings) :
    (override left right).Agree third ↔ left.Agree third ∧ right.Agree third := by
  have newest : ∀ name, (override left right).lookup name =
      (right.lookup name).or (left.lookup name) := by
    intro name
    rw [lookup_override, lookup_reverse distinct]
  constructor
  · intro both
    constructor
    · intro name value member old found
      cases covered : right.lookup name with
      | none => exact both name value member old (by rw [newest, covered, Option.none_or, found])
      | some middle =>
          have same := agree name middle (mem_of_lookup covered) old found
          have further := both name value member middle (by rw [newest, covered, Option.some_or])
          exact Value.same_trans (formed.formed name old (mem_of_lookup found)) same further
    · intro name value member old found
      exact both name value member old (by rw [newest, found, Option.some_or])
  · rintro ⟨first, second⟩ name value member old found
    rw [newest, Option.or_eq_some_iff] at found
    rcases found with newer | ⟨_, older⟩
    · exact second name value member old newer
    · exact first name value member old older

/-- Merging two sides leaves as much to agree with as there was before. -/
theorem pairwise_agree_cons_cons (formed : left.IsFormed) (rightFormed : right.IsFormed)
    (others : List Bindings) :
    (left :: right :: others).Pairwise Agree ↔
      left.Agree right ∧ (override left right :: others).Pairwise Agree := by
  simp only [List.pairwise_cons, List.forall_mem_cons]
  constructor
  · rintro ⟨⟨agree, first⟩, second, pairs⟩
    refine ⟨agree, fun third member => ?_, pairs⟩
    exact (agree_override_iff agree formed rightFormed.distinct third).mpr
      ⟨first third member, second third member⟩
  · rintro ⟨agree, both, pairs⟩
    have split := fun third member =>
      (agree_override_iff agree formed rightFormed.distinct third).mp (both third member)
    exact ⟨⟨agree, fun third member => (split third member).1⟩,
      fun third member => (split third member).2, pairs⟩

def Compatible (left right : Bindings) : Prop :=
  left.Agree right ∧ right.Agree left

private theorem pairwise_agree_iff_compatible {sides : List Bindings}
    (formed : ∀ side ∈ sides, side.IsFormed) :
    sides.Pairwise Agree ↔ sides.Pairwise Compatible := by
  constructor
  · intro agree
    apply agree.imp_of_mem
    intro left right isLeft _ agree
    exact ⟨agree, agree.symm (formed left isLeft)⟩
  · intro compatible
    exact compatible.imp And.left

def Alike (left right : String × Value) : Prop :=
  left.1 = right.1 → left.2.Agrees right.2 ∧ right.2.Agrees left.2

instance : Std.Symm Alike where
  symm := fun _ _ alike same => (alike same.symm).symm

/-- What agreeing sides bind one after the other, put in one row. -/
theorem pairwise_alike {sides : List Bindings} (formed : ∀ side ∈ sides, side.IsFormed)
    (agree : sides.Pairwise Agree) : sides.flatten.Pairwise Alike := by
  apply List.pairwise_flatten.mpr
  constructor
  · intro side isSide
    apply (List.pairwise_map.mp (formed side isSide).distinct).imp
    intro left right apart same
    exact absurd same apart
  · apply agree.imp_of_mem
    intro left right isLeft _ agree entry member other otherMember same
    have known := lookup_of_mem (formed left isLeft).distinct member
    have equal := agree other.1 other.2 otherMember entry.2 (same ▸ known)
    have entryFormed := (formed left isLeft).formed entry.1 entry.2 member
    have back := Value.same_symm entryFormed equal
    exact ⟨Value.agrees_of_same equal, Value.agrees_of_same back⟩

private theorem agrees_of_pairwise {sides : List Bindings} (formed : ∀ side ∈ sides, side.IsFormed)
    (agree : sides.Pairwise Agree) {name : String} {value other : Value}
    (given : (name, value) ∈ sides.flatten) (otherGiven : (name, other) ∈ sides.flatten) :
    value.Agrees other := by
  have itself : ∀ entry ∈ sides.flatten, Alike entry entry := by
    intro entry member _
    obtain ⟨side, isSide, inside⟩ := List.mem_flatten.mp member
    have agrees := (Value.likeEquality entry.2
      ((formed side isSide).formed entry.1 entry.2 inside)).refl
    exact ⟨agrees, agrees⟩
  have alike := (pairwise_alike formed agree).forall_of_forall itself given otherGiven
  exact (alike rfl).1

end Bindings

namespace Scope

open Bindings

/-! ### Which steps succeed -/

def IsSound (step : Narrowing) : Prop :=
  checkNames step.parameters = .ok () ∧ isBlankText step.text = false

theorem isFormed_empty : empty.parameters.IsFormed where
  distinct := List.nodup_nil
  formed := fun _ _ absent => absurd absent List.not_mem_nil

theorem exists_narrowAll_iff {scope : Scope} {steps : List Narrowing}
    (formed : scope.parameters.IsFormed)
    (stepsFormed : ∀ step ∈ steps, step.parameters.IsFormed) :
    (∃ last, scope.narrowAll steps = .ok last) ↔
      (∀ step ∈ steps, IsSound step) ∧
        (scope.parameters :: steps.map Narrowing.parameters).Pairwise Agree := by
  induction steps generalizing scope with
  | nil =>
      constructor
      · intro _
        exact ⟨List.forall_mem_nil _, List.pairwise_singleton _ _⟩
      · intro _
        exact ⟨scope, rfl⟩
  | cons step steps ih =>
      obtain ⟨stepFormed, othersFormed⟩ := List.forall_mem_cons.mp stepsFormed
      rw [List.map_cons, pairwise_agree_cons_cons formed stepFormed, List.forall_mem_cons]
      have merged := formed.override stepFormed
      constructor
      · rintro ⟨last, narrowed⟩
        obtain ⟨next, first, rest⟩ := of_narrowAll_cons narrowed
        obtain ⟨named, worded, merge, _⟩ := (narrow_eq_ok_iff scope next step).mp first
        obtain ⟨agree, bound⟩ := (merge_eq_ok_iff _ _ _).mp merge
        rw [← bound] at merged ⊢
        obtain ⟨sound, pairs⟩ := (ih merged othersFormed).mp ⟨last, rest⟩
        exact ⟨⟨⟨named, worded⟩, sound⟩, agree, pairs⟩
      · rintro ⟨⟨⟨named, worded⟩, sound⟩, agree, pairs⟩
        obtain ⟨next, first⟩ := exists_narrow named worded agree
        have bound := ((merge_eq_ok_iff _ _ _).mp (of_narrow_eq_ok first).2.1).2
        rw [← bound] at merged pairs
        obtain ⟨last, rest⟩ := (ih merged othersFormed).mpr ⟨sound, pairs⟩
        refine ⟨last, ?_⟩
        rw [narrowAll_cons, first]
        exact rest

/-- From the empty scope, steps succeed or fail together, whatever their order. -/
theorem exists_narrowAll_empty_iff {steps : List Narrowing}
    (stepsFormed : ∀ step ∈ steps, step.parameters.IsFormed) :
    (∃ last, empty.narrowAll steps = .ok last) ↔
      (∀ step ∈ steps, IsSound step) ∧ (steps.map Narrowing.parameters).Pairwise Compatible := by
  have sidesFormed : ∀ side ∈ steps.map Narrowing.parameters, side.IsFormed := by
    simpa only [List.forall_mem_map] using stepsFormed
  rw [exists_narrowAll_iff isFormed_empty stepsFormed, List.pairwise_cons,
    pairwise_agree_iff_compatible sidesFormed]
  have free : ∀ side ∈ steps.map Narrowing.parameters, Agree empty.parameters side := by
    intro side _ name value _ old found
    cases found
  exact and_congr_right fun _ => and_iff_right free

/-! ### What a scope ends up with -/

private theorem parameters_of_narrowAll {scope last : Scope} {steps : List Narrowing}
    (narrowed : scope.narrowAll steps = .ok last) :
    last.parameters = scope.parameters.override (steps.map Narrowing.parameters).flatten := by
  induction steps generalizing scope with
  | nil =>
      cases narrowed
      rfl
  | cons step steps ih =>
      obtain ⟨next, first, rest⟩ := of_narrowAll_cons narrowed
      have bound := ((merge_eq_ok_iff _ _ _).mp (of_narrow_eq_ok first).2.1).2
      rw [ih rest, bound, List.map_cons, List.flatten_cons]
      exact List.foldl_append.symm

theorem mem_flatten_of_narrowAll {last : Scope} {steps : List Narrowing}
    (narrowed : empty.narrowAll steps = .ok last) {name : String} {value : Value}
    (found : last.parameters.lookup name = some value) :
    (name, value) ∈ (steps.map Narrowing.parameters).flatten := by
  rw [parameters_of_narrowAll narrowed, lookup_override, Option.or_eq_some_iff] at found
  rcases found with newest | ⟨_, unbound⟩
  · exact List.mem_reverse.mp (mem_of_lookup newest)
  · cases unbound

private theorem exists_lookup_of_narrowAll {last : Scope} {steps : List Narrowing}
    (narrowed : empty.narrowAll steps = .ok last) {name : String} {value : Value}
    (given : (name, value) ∈ (steps.map Narrowing.parameters).flatten) :
    ∃ kept, last.parameters.lookup name = some kept := by
  obtain ⟨newest, found⟩ := exists_lookup_of_mem (List.mem_reverse.mpr given)
  refine ⟨newest, ?_⟩
  rw [parameters_of_narrowAll narrowed, lookup_override, found, Option.some_or]

/-- Every name of one scope has a value in the other that it agrees with. -/
theorem agrees_of_narrowAll {steps shuffled : List Narrowing} (shuffle : shuffled.Perm steps)
    (stepsFormed : ∀ step ∈ steps, step.parameters.IsFormed) {last other : Scope}
    (narrowed : empty.narrowAll steps = .ok last)
    (otherNarrowed : empty.narrowAll shuffled = .ok other) {name : String} {value : Value}
    (found : last.parameters.lookup name = some value) :
    ∃ kept, other.parameters.lookup name = some kept ∧ value.Agrees kept := by
  have sides := shuffle.map Narrowing.parameters
  have given := mem_flatten_of_narrowAll narrowed found
  obtain ⟨kept, keptFound⟩ :=
    exists_lookup_of_narrowAll otherNarrowed (sides.flatten.mem_iff.mpr given)
  have keptGiven := sides.flatten.mem_iff.mp (mem_flatten_of_narrowAll otherNarrowed keptFound)
  have formed : ∀ side ∈ steps.map Narrowing.parameters, side.IsFormed := by
    simpa only [List.forall_mem_map] using stepsFormed
  have compatible := ((exists_narrowAll_empty_iff stepsFormed).mp ⟨last, narrowed⟩).2
  have agree := (pairwise_agree_iff_compatible formed).mpr compatible
  exact ⟨kept, keptFound, agrees_of_pairwise formed agree given keptGiven⟩

theorem length_le_of_narrowAll {steps shuffled : List Narrowing} (shuffle : shuffled.Perm steps)
    (stepsFormed : ∀ step ∈ steps, step.parameters.IsFormed) {last other : Scope}
    (narrowed : empty.narrowAll steps = .ok last)
    (otherNarrowed : empty.narrowAll shuffled = .ok other) :
    last.parameters.length ≤ other.parameters.length := by
  have distinct := nodup_names_of_narrowAll isFormed_empty.distinct narrowed
  have within : names last.parameters ⊆ names other.parameters := by
    intro name member
    obtain ⟨value, inside⟩ := mem_names_iff.mp member
    obtain ⟨kept, found, _⟩ := agrees_of_narrowAll shuffle stepsFormed narrowed otherNarrowed
      (lookup_of_mem distinct inside)
    exact mem_names_iff.mpr ⟨kept, mem_of_lookup found⟩
  have fewer := (distinct.subperm within).length_le
  rw [names, names, List.length_map, List.length_map] at fewer
  exact fewer

/-- Steps in another order succeed exactly when they do in this one, and then they leave the same
constraints and equal values. -/
theorem narrowAll_shuffled {steps shuffled : List Narrowing} (shuffle : shuffled.Perm steps)
    (stepsFormed : ∀ step ∈ steps, step.parameters.IsFormed) :
    ((∃ last, empty.narrowAll steps = .ok last) ↔
        ∃ other, empty.narrowAll shuffled = .ok other) ∧
      ∀ last other, empty.narrowAll steps = .ok last → empty.narrowAll shuffled = .ok other →
        other.clauses.Perm last.clauses ∧
          (Value.map last.parameters).same (.map other.parameters) = true := by
  have shuffledFormed : ∀ step ∈ shuffled, step.parameters.IsFormed :=
    fun step member => stepsFormed step (shuffle.mem_iff.mp member)
  constructor
  · rw [exists_narrowAll_empty_iff stepsFormed, exists_narrowAll_empty_iff shuffledFormed]
    have sides := shuffle.map Narrowing.parameters
    apply and_congr
    · simp only [shuffle.mem_iff]
    · exact (sides.pairwise_iff And.symm).symm
  · intro last other narrowed otherNarrowed
    constructor
    · rw [clauses_of_narrowAll narrowed, clauses_of_narrowAll otherNarrowed]
      exact (shuffle.map Narrowing.text).append_left empty.clauses
    · have distinct := nodup_names_of_narrowAll isFormed_empty.distinct narrowed
      have fewer := length_le_of_narrowAll shuffle stepsFormed narrowed otherNarrowed
      have more := length_le_of_narrowAll shuffle.symm shuffledFormed otherNarrowed narrowed
      have size : last.parameters.length = other.parameters.length := by omega
      apply (Value.same_map_iff _ _).mpr
      refine ⟨size, fun name value member => ?_⟩
      exact agrees_of_narrowAll shuffle stepsFormed narrowed otherNarrowed
        (lookup_of_mem distinct member)

private def sharingSteps : List Narrowing :=
  [.constraint "n.a IN $x" [("x", .list [.int 1, .float (.nan 0)])],
    .constraint "n.b IN $x + $y"
      [("y", .tuple [.text "a", .int 1]), ("x", .list [.bool true, .float (.nan 0)])],
    .constraint "n.c IN $y" [("y", .tuple [.text "a", .float (.finite false 1 0)])]]

private theorem isFormed_sharingSteps : ∀ step ∈ sharingSteps, step.parameters.IsFormed := by
  intro step member
  constructor
  · revert step
    decide
  · simp only [sharingSteps, List.mem_cons, List.not_mem_nil, or_false] at member
    rcases member with rfl | rfl | rfl <;>
      simp [Narrowing.parameters, or_imp, forall_and, Value.IsFormed, Value.AllFormed]

theorem narrowAll_shuffled_sharingSteps :
    ∃ last other, empty.narrowAll sharingSteps = .ok last ∧
      empty.narrowAll sharingSteps.reverse = .ok other ∧ other.clauses.Perm last.clauses ∧
        (Value.map last.parameters).same (.map other.parameters) = true := by
  obtain ⟨_, alike⟩ := narrowAll_shuffled sharingSteps.reverse_perm isFormed_sharingSteps
  exact ⟨_, _, rfl, rfl, alike _ _ rfl rfl⟩

end Scope

end QueryWarden
