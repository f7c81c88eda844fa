/-
Results of steps that can fail. A chain of steps succeeds if each of its steps does, and a
walk through a list if each of the items does.
-/

import Mathlib.Data.List.Forall2
import QueryWarden.Fault

namespace QueryWarden

variable {α β ε δ : Type}

/-! ### Chains -/

theorem bind_eq_ok_iff {first : Except ε α} {next : α → Except ε β} {made : β} :
    first >>= next = .ok made ↔ ∃ value, first = .ok value ∧ next value = .ok made := by
  cases first with
  | ok value =>
      constructor
      · intro done
        exact ⟨value, rfl, done⟩
      · rintro ⟨_, same, done⟩
        cases same
        exact done
  | error fault =>
      refine iff_of_false (fun impossible => by cases impossible) ?_
      rintro ⟨_, impossible, _⟩
      cases impossible

theorem map_eq_ok_iff {result : Except ε α} {change : α → β} {made : β} :
    result.map change = .ok made ↔ ∃ value, result = .ok value ∧ change value = made := by
  cases result with
  | ok value =>
      constructor
      · intro done
        exact ⟨value, rfl, Except.ok.inj done⟩
      · rintro ⟨_, same, rfl⟩
        cases same
        rfl
  | error fault =>
      refine iff_of_false (fun impossible => by cases impossible) ?_
      rintro ⟨_, impossible, _⟩
      cases impossible

theorem mapError_eq_ok_iff {result : Except ε α} {change : ε → δ} {value : α} :
    result.mapError change = .ok value ↔ result = .ok value := by
  cases result with
  | ok found =>
      constructor
      · rintro ⟨⟩
        rfl
      · rintro ⟨⟩
        rfl
  | error fault =>
      constructor
      · rintro ⟨⟩
      · rintro ⟨⟩

theorem accessing_bind (first : Except AccessFault α)
    (next : α → Except AccessFault β) :
    accessing (first >>= next) = accessing first >>= fun value => accessing (next value) := by
  cases first with
  | ok value => rfl
  | error fault => rfl

/-! ### Lists -/

section

variable {change : α → Except ε β}

theorem mapM_eq_ok_iff {items : List α} {results : List β} :
    items.mapM change = .ok results ↔
      List.Forall₂ (fun item result => change item = .ok result) items results := by
  induction items generalizing results with
  | nil =>
      rw [List.forall₂_nil_left_iff]
      constructor
      · rintro ⟨⟩
        rfl
      · rintro rfl
        rfl
  | cons item items ih =>
      rw [List.mapM_cons, bind_eq_ok_iff, List.forall₂_cons_left_iff]
      constructor
      · rintro ⟨result, passed, done⟩
        obtain ⟨others, passedOthers, done⟩ := bind_eq_ok_iff.mp done
        cases done
        exact ⟨result, others, passed, ih.mp passedOthers, rfl⟩
      · rintro ⟨result, others, passed, passedOthers, rfl⟩
        exact ⟨result, passed, bind_eq_ok_iff.mpr ⟨others, ih.mpr passedOthers, rfl⟩⟩

/-- A change that is made to every result can be made to all of them in the end. -/
theorem mapM_map_after (after : β → δ) (items : List α) :
    items.mapM (fun item => (change item).map after) =
      (items.mapM change).map (List.map after) := by
  induction items with
  | nil => rfl
  | cons item items ih =>
      rw [List.mapM_cons, List.mapM_cons, ih]
      cases change item with
      | error fault => rfl
      | ok result =>
          cases items.mapM change with
          | error fault => rfl
          | ok results => rfl

theorem exists_left_of_mem {each : α → β → Prop} {items : List α} {results : List β}
    (related : List.Forall₂ each items results) {result : β} (member : result ∈ results) :
    ∃ item ∈ items, each item result := by
  induction related with
  | nil => cases member
  | @cons item first _ _ right _ ih =>
      rcases List.mem_cons.mp member with rfl | inside
      · exact ⟨item, List.mem_cons_self, right⟩
      · obtain ⟨other, inItems, rightOther⟩ := ih inside
        exact ⟨other, List.mem_cons_of_mem item inItems, rightOther⟩

theorem exists_right_of_mem {each : α → β → Prop} {items : List α} {results : List β}
    (related : List.Forall₂ each items results) {item : α} (member : item ∈ items) :
    ∃ result ∈ results, each item result :=
  exists_left_of_mem related.flip member

/-- A fault of any item is the fault of the list, in whatever all faults have in common. -/
theorem mapM_eq_error {Common : ε → Prop} {items : List α}
    (each : ∀ item ∈ items, (∃ result, change item = .ok result) ∨
      ∃ fault, change item = .error fault ∧ Common fault)
    (fails : ∃ item ∈ items, ∃ fault, change item = .error fault) :
    ∃ fault, items.mapM change = .error fault ∧ Common fault := by
  induction items with
  | nil => simp at fails
  | cons item items ih =>
      rw [List.mapM_cons]
      rcases each item List.mem_cons_self with ⟨result, passed⟩ | ⟨fault, failed, common⟩
      · have rest : ∃ other ∈ items, ∃ fault, change other = .error fault := by
          obtain ⟨other, member, fault, failed⟩ := fails
          rcases List.mem_cons.mp member with rfl | member
          · rw [passed] at failed
            cases failed
          · exact ⟨other, member, fault, failed⟩
        obtain ⟨fault, failed, common⟩ :=
          ih (fun other member => each other (List.mem_cons_of_mem item member)) rest
        refine ⟨fault, ?_, common⟩
        rw [passed, failed]
        rfl
      · refine ⟨fault, ?_, common⟩
        rw [failed]
        rfl

end

theorem mapM_congr {change other : α → Option β} {items : List α}
    (same : ∀ item ∈ items, change item = other item) : items.mapM change = items.mapM other := by
  induction items with
  | nil => rfl
  | cons item items ih =>
      rw [List.mapM_cons, List.mapM_cons, same item List.mem_cons_self,
        ih (fun item member => same item (List.mem_cons_of_mem _ member))]

/-- A walk has no result if and only if one of the items has none. -/
theorem mapM_eq_none_iff {change : α → Option β} {items : List α} :
    items.mapM change = none ↔ ∃ item ∈ items, change item = none := by
  induction items with
  | nil => simp
  | cons item items ih =>
      simp only [List.mapM_cons, List.mem_cons, exists_eq_or_imp]
      cases change item with
      | none => simp
      | some result =>
          rw [← ih]
          cases items.mapM change with
          | none => simp
          | some results => simp

end QueryWarden
