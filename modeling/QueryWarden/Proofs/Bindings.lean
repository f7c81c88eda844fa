/-
Bindings put together. What is bound to a name after a merge comes from the second side if
that binds the name, and from the first side otherwise; a merge succeeds exactly when both
sides have equal values for the names they share. Sides that share no name are put one
behind the other, and only those are.
-/

import Mathlib.Data.List.Nodup
import QueryWarden.Bindings

namespace QueryWarden.Bindings

theorem mem_names_iff {bindings : Bindings} {name : String} :
    name ∈ names bindings ↔ ∃ value, (name, value) ∈ bindings := by
  constructor
  · intro member
    obtain ⟨⟨_, value⟩, inside, rfl⟩ := List.mem_map.mp member
    exact ⟨value, inside⟩
  · intro ⟨value, inside⟩
    exact List.mem_map.mpr ⟨(name, value), inside, rfl⟩

theorem mem_of_lookup {bindings : Bindings} {name : String} {value : Value}
    (found : bindings.lookup name = some value) : (name, value) ∈ bindings := by
  obtain ⟨before, behind, rfl, _⟩ := List.lookup_eq_some_iff.mp found
  exact List.mem_append_right before List.mem_cons_self

theorem lookup_of_not_mem {bindings : Bindings} {name : String} (absent : name ∉ names bindings) :
    bindings.lookup name = none := by
  apply List.lookup_eq_none_iff.mpr
  intro entry member
  apply bne_iff_ne.mpr
  intro same
  exact absent (mem_names_iff.mpr ⟨entry.2, same ▸ member⟩)

theorem lookup_of_mem {bindings : Bindings} (distinct : (names bindings).Nodup) {name : String}
    {value : Value} (member : (name, value) ∈ bindings) : bindings.lookup name = some value := by
  obtain ⟨before, behind, rfl⟩ := List.append_of_mem member
  have apart : name ∉ names before := by
    intro inside
    rw [names, List.map_append, List.map_cons] at distinct
    exact (List.nodup_append.mp distinct).2.2 name inside name List.mem_cons_self rfl
  rw [List.lookup_append, lookup_of_not_mem apart, Option.none_or, List.lookup_cons,
    beq_self_eq_true]

theorem lookup_reverse {bindings : Bindings} (distinct : (names bindings).Nodup)
    (name : String) : bindings.reverse.lookup name = bindings.lookup name := by
  have reversed : (names bindings.reverse).Nodup := by
    rw [names, List.map_reverse]
    exact List.nodup_reverse.mpr distinct
  refine Option.ext fun value => ⟨fun found => ?_, fun found => ?_⟩
  · exact lookup_of_mem distinct (List.mem_reverse.mp (mem_of_lookup found))
  · exact lookup_of_mem reversed (List.mem_reverse.mpr (mem_of_lookup found))

/-! ### Putting one binding -/

theorem put_of_not_mem {bindings : Bindings} {name : String} (value : Value)
    (absent : name ∉ names bindings) : put name value bindings = bindings ++ [(name, value)] := by
  induction bindings with
  | nil => rfl
  | cons entry rest ih =>
      have apart := not_or.mp (fun either => absent (List.mem_cons.mpr either))
      rw [put, if_neg (fun same => apart.1 same.symm), ih apart.2]
      rfl

theorem names_put_of_mem {bindings : Bindings} {name : String} (value : Value)
    (bound : name ∈ names bindings) : names (put name value bindings) = names bindings := by
  induction bindings with
  | nil => exact absurd bound List.not_mem_nil
  | cons entry rest ih =>
      by_cases here : entry.1 = name
      · rw [put, if_pos here, ← here]
        rfl
      · have later := (List.mem_cons.mp bound).resolve_left (fun same => here same.symm)
        rw [put, if_neg here]
        exact congrArg (List.cons entry.1) (ih later)

/-- The names do not depend on the value. -/
theorem names_put (name : String) (value other : Value) (bindings : Bindings) :
    names (put name value bindings) = names (put name other bindings) := by
  by_cases bound : name ∈ names bindings
  · rw [names_put_of_mem value bound, names_put_of_mem other bound]
  · rw [put_of_not_mem value bound, put_of_not_mem other bound, names, names, List.map_append,
      List.map_append]
    rfl

private theorem nodup_names_put {bindings : Bindings} (distinct : (names bindings).Nodup)
    (name : String)
    (value : Value) : (names (put name value bindings)).Nodup := by
  by_cases bound : name ∈ names bindings
  · rw [names_put_of_mem value bound]
    exact distinct
  · rw [put_of_not_mem value bound, names, List.map_append]
    apply List.nodup_append.mpr
    refine ⟨distinct, List.nodup_singleton name, ?_⟩
    intro other member last isLast same
    have isName : other = name := same.trans (List.mem_singleton.mp isLast)
    exact bound (isName ▸ member)

/-! ### Putting one side over the other -/

theorem override_cons (left right : Bindings) (name : String) (value : Value) :
    override left ((name, value) :: right) = override (put name value left) right :=
  List.foldl_cons

theorem nodup_names_override {left : Bindings} (distinct : (names left).Nodup)
    (right : Bindings) : (names (override left right)).Nodup := by
  induction right generalizing left with
  | nil => exact distinct
  | cons entry right ih => exact ih (nodup_names_put distinct entry.1 entry.2)

theorem mem_names_override_iff (left right : Bindings) (name : String) :
    name ∈ names (override left right) ↔ name ∈ names left ∨ name ∈ names right := by
  induction right generalizing left with
  | nil => simp [override, names]
  | cons entry right ih =>
      have put : name ∈ names (put entry.1 entry.2 left) ↔ name ∈ names left ∨ name = entry.1 := by
        by_cases bound : entry.1 ∈ names left
        · rw [names_put_of_mem entry.2 bound]
          constructor
          · exact Or.inl
          · rintro (member | rfl)
            · exact member
            · exact bound
        · simp [put_of_not_mem entry.2 bound, names]
      rw [override_cons, ih, put, or_assoc]
      simp [names]

/-- Of several bindings of a name on the second side the last one counts. -/
theorem lookup_override (left right : Bindings) (name : String) :
    (override left right).lookup name = (right.reverse.lookup name).or (left.lookup name) := by
  induction right generalizing left with
  | nil => rfl
  | cons entry right ih =>
      rw [override_cons, ih, lookup_put, List.reverse_cons, List.lookup_append, Option.or_assoc,
        List.lookup_cons, List.lookup_nil]
      by_cases same : name = entry.1
      · rw [if_pos same, beq_iff_eq.mpr same, Option.some_or]
      · rw [if_neg same, beq_eq_false_iff_ne.mpr same, Option.none_or]

theorem override_eq_append {left right : Bindings} (apart : (names left).Disjoint (names right))
    (distinct : (names right).Nodup) : override left right = left ++ right := by
  induction right generalizing left with
  | nil => exact (List.append_nil left).symm
  | cons entry right ih =>
      have rest := List.nodup_cons.mp distinct
      have absent : entry.1 ∉ names left := fun member => apart member List.mem_cons_self
      have still : (names (left ++ [entry])).Disjoint (names right) := by
        intro name member inRight
        rw [names, List.map_append] at member
        rcases List.mem_append.mp member with inLeft | last
        · exact apart inLeft (List.mem_cons_of_mem entry.1 inRight)
        · cases List.mem_singleton.mp last
          exact rest.1 inRight
      rw [override_cons, put_of_not_mem entry.2 absent, ih still rest.2, List.append_assoc]
      rfl

/-- Nothing is lost exactly when no name is shared. -/
theorem override_eq_append_iff {left right : Bindings} (leftDistinct : (names left).Nodup)
    (rightDistinct : (names right).Nodup) :
    override left right = left ++ right ↔ (names left).Disjoint (names right) := by
  constructor
  · intro whole name inLeft inRight
    have distinct := nodup_names_override leftDistinct right
    rw [whole, names, List.map_append] at distinct
    exact (List.nodup_append.mp distinct).2.2 name inLeft name inRight rfl
  · intro apart
    exact override_eq_append apart rightDistinct

theorem length_put_le (name : String) (value : Value) (bindings : Bindings) :
    (put name value bindings).length ≤ bindings.length + 1 := by
  induction bindings with
  | nil => simp [put]
  | cons entry rest ih =>
      by_cases here : entry.1 = name
      · simp [put, here]
      · simp [put, here, ih]

theorem length_override_le (left right : Bindings) :
    (override left right).length ≤ left.length + right.length := by
  induction right generalizing left with
  | nil => simp [override]
  | cons entry right ih =>
      have step := length_put_le entry.1 entry.2 left
      have others := ih (put entry.1 entry.2 left)
      rw [override_cons, List.length_cons]
      omega

/-- As many bindings as there were before are the bindings that there were. -/
theorem override_eq_append_of_length {left right : Bindings}
    (whole : (override left right).length = left.length + right.length) :
    override left right = left ++ right := by
  induction right generalizing left with
  | nil => exact (List.append_nil left).symm
  | cons entry right ih =>
      rw [override_cons, List.length_cons] at whole
      have step := length_put_le entry.1 entry.2 left
      have others := length_override_le (put entry.1 entry.2 left) right
      have absent : entry.1 ∉ names left := by
        intro bound
        have names := congrArg List.length (names_put_of_mem entry.2 bound)
        simp only [Bindings.names, List.length_map] at names
        omega
      have added := put_of_not_mem entry.2 absent
      rw [override_cons, ih (by omega), added, List.append_assoc]
      rfl

/-! ### Merging -/

def Agree (left right : Bindings) : Prop :=
  ∀ name value, (name, value) ∈ right → ∀ old, left.lookup name = some old → old.same value = true

theorem conflict?_eq_none_iff (left right : Bindings) :
    conflict? left right = none ↔ Agree left right := by
  induction right with
  | nil =>
      constructor
      · intro _ name value member
        exact absurd member List.not_mem_nil
      · intro _
        rfl
  | cons entry right ih =>
      obtain ⟨name, value⟩ := entry
      have split : Agree left ((name, value) :: right) ↔
          (∀ old, left.lookup name = some old → old.same value = true) ∧ Agree left right := by
        constructor
        · intro agree
          exact ⟨agree name value List.mem_cons_self,
            fun other new member => agree other new (List.mem_cons_of_mem _ member)⟩
        · intro ⟨first, others⟩ other new member
          rcases List.mem_cons.mp member with same | later
          · cases same
            exact first
          · exact others other new later
      rw [split, conflict?]
      cases found : left.lookup name with
      | none =>
          simp only [reduceCtorEq, false_implies, implies_true, true_and, ih]
      | some old =>
          by_cases agrees : old.same value = true
          · simp only [Option.some.injEq, forall_eq', agrees, if_true, true_and, ih]
          · simp only [Option.some.injEq, forall_eq', agrees, if_false, reduceCtorEq, false_and]

theorem merge_eq_ok_iff (left right merged : Bindings) :
    merge left right = .ok merged ↔ Agree left right ∧ merged = override left right := by
  rw [← conflict?_eq_none_iff, merge]
  cases conflict? left right with
  | none => simp only [Except.ok.injEq, true_and, eq_comm]
  | some name => simp only [reduceCtorEq, false_and]

theorem exists_merge_eq_error {left right : Bindings} (disagree : ¬ Agree left right) :
    ∃ name, merge left right = .error (.boundTwice name) := by
  rw [← conflict?_eq_none_iff] at disagree
  obtain ⟨name, clash⟩ := Option.ne_none_iff_exists'.mp disagree
  exact ⟨name, by rw [merge, clash]⟩

end QueryWarden.Bindings
