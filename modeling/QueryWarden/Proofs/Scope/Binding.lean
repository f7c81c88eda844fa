/-
What is bound stays bound. A merge compares by equality, for which `1`, `1.0` and truth are one,
and lets the newer of two equal values win. So along any run of steps a name keeps a value equal
to the one it has, and it is seen as the same value exactly when the newer one is made of numbers
of the same types; every other value for the name is refused.
-/

import QueryWarden.Proofs.Bindings
import QueryWarden.Proofs.Scope.Narrowing
import QueryWarden.Proofs.Value.Seen

namespace QueryWarden

theorem Value.seen_eq_iff_of_same {left right : Value} (same : left.same right = true) :
    right.seen = left.seen ↔ right.seen.form = left.seen.form := by
  constructor
  · intro seen
    exact congrArg Seen.form seen
  · intro form
    have agree : left.agrees right = true := Bool.or_eq_true_iff.mpr (.inl same)
    exact (Value.seen_eq_of_agrees left right agree form.symm).symm

namespace Bindings

/-- Every name of `before` is bound in `after` to the value that it had, or to an equal one among
those given. -/
def Keeps (before given after : Bindings) : Prop :=
  ∀ name old, before.lookup name = some old → ∃ kept, after.lookup name = some kept ∧
    (kept = old ∨ ((name, kept) ∈ given ∧ old.same kept = true)) ∧
    (kept.seen = old.seen ↔ kept.seen.form = old.seen.form)

/-- Some name of `before` is given another value: one that is not equal, or one that has numbers
of the same types and is not seen alike. -/
def Rebound (before given : Bindings) : Prop :=
  ∃ name old new, before.lookup name = some old ∧ (name, new) ∈ given ∧
    (old.same new = false ∨ (new.seen.form = old.seen.form ∧ new.seen ≠ old.seen))

theorem Rebound.not_agree {before given : Bindings} (rebound : before.Rebound given) :
    ¬ before.Agree given := by
  intro agree
  obtain ⟨name, old, new, found, member, other⟩ := rebound
  have same := agree name new member old found
  rcases other with unequal | ⟨form, apart⟩
  · rw [same] at unequal
    cases unequal
  · exact apart ((Value.seen_eq_iff_of_same same).mpr form)

theorem keeps_of_merge {before given after : Bindings} (merged : merge before given = .ok after) :
    before.Keeps given after := by
  obtain ⟨agree, rfl⟩ := (merge_eq_ok_iff before given after).mp merged
  intro name old found
  rw [lookup_override, found]
  cases newest : given.reverse.lookup name with
  | none => exact ⟨old, rfl, .inl rfl, ⟨congrArg Seen.form, fun _ => rfl⟩⟩
  | some kept =>
      have member := List.mem_reverse.mp (mem_of_lookup newest)
      have same := agree name kept member old found
      exact ⟨kept, rfl, .inr ⟨member, same⟩, Value.seen_eq_iff_of_same same⟩

/-- The values of the second side stay as they are. -/
theorem lookup_of_merge {before given after : Bindings} (merged : merge before given = .ok after)
    (distinct : (names given).Nodup) {name : String} {value : Value}
    (found : given.lookup name = some value) : after.lookup name = some value := by
  obtain ⟨_, rfl⟩ := (merge_eq_ok_iff before given after).mp merged
  rw [lookup_override, lookup_reverse distinct, found, Option.some_or]

end Bindings

namespace Scope

open Bindings

/-! ### One step -/

private theorem narrow_of_merge_eq_error {scope : Scope} {step : Narrowing} {fault : FilterFault}
    (named : checkNames step.parameters = .ok ())
    (clash : merge scope.parameters step.parameters = .error fault) :
    ∃ refusal, scope.narrow step = .error refusal ∧
      (step.CanBeTold → refusal.kindName = "InvalidFilterError") := by
  have refused : ∀ constraint, ∃ refusal,
      scope.narrowedBy constraint step.parameters = .error (.filter refusal) := by
    intro constraint
    rw [narrowedBy, named]
    by_cases blank : Text.isBlankText constraint = true
    · exact ⟨.blankConstraint, if_pos blank⟩
    · exact ⟨fault, by simp only [if_neg blank, clash]⟩
  cases step with
  | constraint text parameters =>
      obtain ⟨refusal, same⟩ := refused text
      exact ⟨_, same, fun _ => rfl⟩
  | mentioned context aliasName =>
      change ∃ refusal, scope.scopedToContext context aliasName = .error refusal ∧ _
      rw [scopedToContext]
      cases failed : Identifier.ofValue "node alias" aliasName with
      | error fault =>
          refine ⟨fault, rfl, ?_⟩
          rintro ⟨written, told⟩
          exact Identifier.kindName_of_ofValue failed told
      | ok aliasName =>
          obtain ⟨refusal, same⟩ := refused (contextClause aliasName)
          exact ⟨_, same, fun _ => rfl⟩

theorem exists_narrow {scope : Scope} {step : Narrowing}
    (named : checkNames step.parameters = .ok ()) (worded : Text.isBlankText step.text = false)
    (agree : scope.parameters.Agree step.parameters) : ∃ next, scope.narrow step = .ok next := by
  have merged := (merge_eq_ok_iff _ _ _).mpr ⟨agree, rfl⟩
  refine ⟨⟨scope.clauses ++ [step.text], scope.parameters.override step.parameters⟩, ?_⟩
  exact (narrow_eq_ok_iff _ _ _).mpr ⟨named, worded, merged, rfl⟩

private theorem nodup_names_of_narrow {scope next : Scope} {step : Narrowing}
    (distinct : (names scope.parameters).Nodup) (narrowed : scope.narrow step = .ok next) :
    (names next.parameters).Nodup := by
  have merged := (of_narrow_eq_ok narrowed).2.1
  rw [((merge_eq_ok_iff _ _ _).mp merged).2]
  exact nodup_names_override distinct step.parameters

/-! ### Any number of steps -/

theorem nodup_names_of_narrowAll {scope last : Scope} {steps : List Narrowing}
    (distinct : (names scope.parameters).Nodup) (narrowed : scope.narrowAll steps = .ok last) :
    (names last.parameters).Nodup := by
  induction steps generalizing scope with
  | nil =>
      cases narrowed
      exact distinct
  | cons step steps ih =>
      obtain ⟨next, first, rest⟩ := of_narrowAll_cons narrowed
      exact ih (nodup_names_of_narrow distinct first) rest

/-- A name is seen with one and the same value as long as the values given to it have numbers of
the same types. -/
theorem seen_of_narrowAll {scope last : Scope} {steps : List Narrowing}
    (narrowed : scope.narrowAll steps = .ok last) {name : String} {old : Value}
    (found : scope.parameters.lookup name = some old)
    (forms : ∀ step ∈ steps, ∀ new, (name, new) ∈ step.parameters →
      new.seen.form = old.seen.form) :
    ∃ kept, last.parameters.lookup name = some kept ∧ kept.seen = old.seen := by
  induction steps generalizing scope old with
  | nil =>
      cases narrowed
      exact ⟨old, found, rfl⟩
  | cons step steps ih =>
      obtain ⟨next, first, rest⟩ := of_narrowAll_cons narrowed
      obtain ⟨middle, foundMiddle, source, seenMiddle⟩ :=
        keeps_of_merge (of_narrow_eq_ok first).2.1 name old found
      have alike : middle.seen = old.seen := by
        rcases source with rfl | ⟨given, _⟩
        · rfl
        · exact seenMiddle.mpr (forms step List.mem_cons_self middle given)
      have later : ∀ step ∈ steps, ∀ new, (name, new) ∈ step.parameters →
          new.seen.form = middle.seen.form := by
        intro other member new given
        rw [alike]
        exact forms other (List.mem_cons_of_mem step member) new given
      obtain ⟨kept, foundKept, seenKept⟩ := ih rest foundMiddle later
      exact ⟨kept, foundKept, seenKept.trans alike⟩

/-- What becomes of the bindings of a scope, and of those that a filter brings with it. -/
structure KeepsBindings (scope : Scope) : Prop where
  narrowed : ∀ step next, scope.narrow step = .ok next →
    scope.parameters.Keeps step.parameters next.parameters
  narrowed_alike : ∀ steps last, scope.narrowAll steps = .ok last →
    ∀ name old, scope.parameters.lookup name = some old →
      (∀ step ∈ steps, ∀ new, (name, new) ∈ step.parameters →
        new.seen.form = old.seen.form) →
      ∃ kept, last.parameters.lookup name = some kept ∧ kept.seen = old.seen
  narrowing_refused : ∀ step, checkNames step.parameters = .ok () →
    scope.parameters.Rebound step.parameters →
      ∃ fault, scope.narrow step = .error fault ∧
        (step.CanBeTold → fault.kindName = "InvalidFilterError")
  narrowing_accepted : ∀ step, checkNames step.parameters = .ok () →
    Text.isBlankText step.text = false → scope.parameters.Agree step.parameters →
      ∃ next, scope.narrow step = .ok next
  filtered : ∀ compiled condition result, scope.withFilter compiled condition = .ok result →
    compiled.parameters.Keeps scope.parameters result.parameters ∧
      ∀ name value, scope.parameters.lookup name = some value →
        result.parameters.lookup name = some value
  filtering_refused : ∀ compiled condition,
    compiled.parameters.Rebound scope.parameters →
      ∃ name, scope.withFilter compiled condition = .error (.boundTwice name)
  filtering_accepted : ∀ compiled condition, compiled.parameters.Agree scope.parameters →
    ∃ result, scope.withFilter compiled condition = .ok result

/-- However a scope was narrowed, what it binds stays bound. -/
theorem keepsBindings_of_narrowAll {scope : Scope} {steps : List Narrowing}
    (reached : Scope.empty.narrowAll steps = .ok scope) : scope.KeepsBindings where
  narrowed := by
    intro step next narrowed
    exact keeps_of_merge (of_narrow_eq_ok narrowed).2.1
  narrowed_alike := by
    intro further last narrowed name old found forms
    exact seen_of_narrowAll narrowed found forms
  narrowing_refused := by
    intro step named rebound
    obtain ⟨name, clash⟩ := exists_merge_eq_error rebound.not_agree
    exact narrow_of_merge_eq_error named clash
  narrowing_accepted := by
    intro step named worded agree
    exact exists_narrow named worded agree
  filtered := by
    intro compiled condition result composed
    have merged := ((withFilter_eq_ok_iff scope compiled condition result).mp composed).1
    have fresh : (names Scope.empty.parameters).Nodup := List.nodup_nil
    have distinct := nodup_names_of_narrowAll fresh reached
    exact ⟨keeps_of_merge merged, fun name value found => lookup_of_merge merged distinct found⟩
  filtering_refused := by
    intro compiled condition rebound
    obtain ⟨name, clash⟩ := exists_merge_eq_error rebound.not_agree
    exact ⟨name, by rw [withFilter, clash]⟩
  filtering_accepted := by
    intro compiled condition agree
    have merged := (merge_eq_ok_iff _ _ _).mpr ⟨agree, rfl⟩
    refine ⟨⟨scope.apply (compiled.appendTo condition),
      compiled.parameters.override scope.parameters⟩, ?_⟩
    exact (withFilter_eq_ok_iff _ _ _ _).mpr ⟨merged, rfl⟩

private def ownedSteps : List Narrowing :=
  [.constraint "n.owner IN $who" [("who", .list [.int 1, .text "alice"])],
    .mentioned (.text "ctx-42") defaultAlias]

private def ownedScope : Scope :=
  { clauses := ownedSteps.map Narrowing.text
    parameters := [("who", .list [.int 1, .text "alice"]), (contextParameter, .text "ctx-42")] }

theorem keepsBindings_of_narrowAll_ownedScope :
    Scope.empty.narrowAll ownedSteps = .ok ownedScope ∧ ownedScope.KeepsBindings := by
  have narrowed : Scope.empty.narrowAll ownedSteps = .ok ownedScope := rfl
  exact ⟨narrowed, keepsBindings_of_narrowAll narrowed⟩

/-- The number `1` is bound, and `true` takes its place, since the two are equal. -/
theorem narrow_rebinds_to_truth :
    ∃ scope next, Scope.empty.narrowAll [.constraint "n.a = $x" [("x", .int 1)]] = .ok scope ∧
      scope.narrow (.constraint "n.b = $x" [("x", .bool true)]) = .ok next ∧
      scope.parameters.lookup "x" = some (.int 1) ∧
      next.parameters.lookup "x" = some (.bool true) ∧
      (Value.bool true).seen ≠ (Value.int 1).seen := by
  refine ⟨{ clauses := ["n.a = $x"], parameters := [("x", .int 1)] },
    { clauses := ["n.a = $x", "n.b = $x"], parameters := [("x", .bool true)] },
    rfl, rfl, rfl, rfl, ?_⟩
  intro seen
  cases seen

end Scope

end QueryWarden
