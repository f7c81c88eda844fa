/-
What sorting finds out. Where only items of one kind can be compared, items are sorted only if
they are all of one kind. In a run each item was compared with its neighbour, and no two runs
are merged before their first items were compared.
-/

import QueryWarden.Sorting.Basic

namespace QueryWarden.Sorting

variable {α ε κ : Type} {less : α → α → Except ε Bool} {kind : α → Option κ}

def Separates (less : α → α → Except ε Bool) (kind : α → Option κ) : Prop :=
  ∀ left right before, less left right = .ok before →
    ∃ shared, kind left = some shared ∧ kind right = some shared

/-- All items are of one kind; an item that is alone need not be of any. -/
def OneKind (kind : α → Option κ) (items : List α) : Prop :=
  items.length ≤ 1 ∨ ∃ shared, ∀ item ∈ items, kind item = some shared

theorem OneKind.nil : OneKind kind ([] : List α) :=
  .inl (Nat.zero_le 1)

theorem OneKind.of_perm {items others : List α} (same : items.Perm others)
    (alike : OneKind kind others) : OneKind kind items := by
  rcases alike with short | ⟨shared, all⟩
  · exact .inl (same.length_eq ▸ short)
  · exact .inr ⟨shared, fun item member => all item (same.mem_iff.mp member)⟩

theorem OneKind.forall_of_mem {items : List α} (alike : OneKind kind items) {item : α}
    (member : item ∈ items) {shared : κ} (known : kind item = some shared) :
    ∀ other ∈ items, kind other = some shared := by
  intro other otherMember
  rcases alike with short | ⟨common, all⟩
  · match items with
    | [] => cases member
    | [only] =>
        rw [List.mem_singleton.mp otherMember, ← List.mem_singleton.mp member]
        exact known
    | _ :: _ :: _ =>
        simp only [List.length_cons] at short
        omega
  · rw [all other otherMember, ← all item member, known]

/-- Two lists are of one kind together as soon as an item of one and an item of the other are. -/
theorem OneKind.append {lefts rights : List α} (leftAlike : OneKind kind lefts)
    (rightAlike : OneKind kind rights) {left right : α} (inLefts : left ∈ lefts)
    (inRights : right ∈ rights) {shared : κ} (leftKnown : kind left = some shared)
    (rightKnown : kind right = some shared) : OneKind kind (lefts ++ rights) := by
  apply Or.inr
  refine ⟨shared, ?_⟩
  intro item member
  rcases List.mem_append.mp member with inLeft | inRight
  · exact leftAlike.forall_of_mem inLefts leftKnown item inLeft
  · exact rightAlike.forall_of_mem inRights rightKnown item inRight

/-! ### Runs -/

private theorem extend_kinds (separates : Separates less kind) {falling : Bool} {last : α}
    {items : List α} {found : List α × List α}
    (extended : extend less falling last items = .ok found) :
    ∀ item ∈ found.1, ∃ shared, kind last = some shared ∧ kind item = some shared := by
  induction items generalizing last found with
  | nil =>
      cases extended
      intro item member
      cases member
  | cons next rest ih =>
      unfold extend at extended
      split at extended
      · cases extended
      · next compared =>
          split at extended
          · obtain ⟨more, further, rfl⟩ := of_map_eq_ok extended
            obtain ⟨shared, nextKind, lastKind⟩ := separates next last _ compared
            intro item member
            rcases List.mem_cons.mp member with same | later
            · exact ⟨shared, lastKind, same ▸ nextKind⟩
            · obtain ⟨other, nextOther, itemKind⟩ := ih further item later
              rw [nextKind] at nextOther
              exact ⟨shared, lastKind, itemKind.trans nextOther.symm⟩
          · cases extended
            intro item member
            cases member

private theorem firstRun_oneKind (separates : Separates less kind) {items : List α}
    {found : List α × List α} (run : firstRun less items = .ok found) :
    OneKind kind found.1 := by
  match items with
  | [] =>
      cases run
      exact .nil
  | [only] =>
      cases run
      exact .inl (Nat.le_refl 1)
  | first :: second :: rest =>
      rw [firstRun] at run
      split at run
      · cases run
      · next falling compared =>
          obtain ⟨more, extended, rfl⟩ := of_map_eq_ok run
          obtain ⟨shared, _, firstKind⟩ := separates second first falling compared
          have chained : OneKind kind (first :: more.1) := by
            refine .inr ⟨shared, ?_⟩
            intro item member
            rcases List.mem_cons.mp member with same | later
            · exact same ▸ firstKind
            · obtain ⟨other, firstOther, itemKind⟩ := extend_kinds separates extended item later
              rw [firstKind] at firstOther
              exact itemKind.trans firstOther.symm
          cases falling with
          | false => exact chained
          | true => exact chained.of_perm (List.reverse_perm _)

theorem firstRun_ne_nil {items : List α} {found : List α × List α}
    (run : firstRun less items = .ok found) (nonempty : items ≠ []) : found.1 ≠ [] := by
  match items with
  | [] => exact absurd rfl nonempty
  | [only] =>
      cases run
      exact List.cons_ne_nil only []
  | first :: second :: rest =>
      rw [firstRun] at run
      split at run
      · cases run
      · next falling compared =>
          obtain ⟨more, extended, rfl⟩ := of_map_eq_ok run
          cases falling with
          | false => exact List.cons_ne_nil first more.1
          | true => exact fun empty => List.cons_ne_nil first more.1 (List.reverse_eq_nil_iff.mp empty)

/-- Into items that there are, nothing is put without a comparison. -/
theorem insert_compares {item : α} {sorted result : List α}
    (inserted : insert less item sorted = .ok result) :
    sorted = [] ∨ ∃ other ∈ sorted, ∃ before, less item other = .ok before := by
  unfold insert at inserted
  split at inserted
  · next halved =>
      have short : sorted.length ≤ sorted.length / 2 := List.drop_eq_nil_iff.mp halved
      exact .inl (List.eq_nil_of_length_eq_zero (by omega))
  · next middle back halved =>
      have member : middle ∈ sorted :=
        List.mem_of_mem_drop (i := sorted.length / 2) (halved ▸ List.mem_cons_self)
      split at inserted
      · cases inserted
      · next compared => exact .inr ⟨middle, member, true, compared⟩
      · next compared => exact .inr ⟨middle, member, false, compared⟩

private theorem insert_oneKind (separates : Separates less kind) {item : α} {sorted result : List α}
    (alike : OneKind kind sorted) (inserted : insert less item sorted = .ok result) :
    OneKind kind result := by
  apply OneKind.of_perm (insert_perm less item sorted result inserted)
  have single : OneKind kind [item] := .inl (Nat.le_refl 1)
  rcases insert_compares inserted with nothing | ⟨other, member, before, compared⟩
  · exact nothing ▸ single
  · obtain ⟨shared, itemKind, otherKind⟩ := separates item other before compared
    exact single.append alike List.mem_cons_self member itemKind otherKind

private theorem insertAll_oneKind (separates : Separates less kind) {sorted items result : List α}
    (alike : OneKind kind sorted) (inserted : insertAll less sorted items = .ok result) :
    OneKind kind result := by
  induction items generalizing sorted with
  | nil =>
      cases inserted
      exact alike
  | cons item rest ih =>
      unfold insertAll at inserted
      split at inserted
      · cases inserted
      · next placed => exact ih (insert_oneKind separates alike placed) inserted

/-! ### Merging -/

private theorem leading_compares {passes : α → Except ε Bool} {turned : Bool} {first : α}
    {rest : List α} {count : Nat} (counted : leading passes turned (first :: rest) = .ok count) :
    ∃ answer, passes first = .ok answer := by
  rw [leading] at counted
  split at counted
  · cases counted
  · next tested => exact ⟨false, tested⟩
  · next tested => exact ⟨true, tested⟩

/-- The first items of two runs are compared before anything else. -/
theorem merge_compares {patience : Nat} {left right : α} {lefts rights : List α}
    {merged : List α × Nat} (done : merge less patience (left :: lefts) (right :: rights) = .ok merged) :
    ∃ before, less right left = .ok before := by
  rw [merge] at done
  split at done
  · cases done
  · next counted =>
      obtain ⟨answer, tested⟩ := leading_compares counted
      obtain ⟨before, compared, _⟩ := of_map_eq_ok tested
      exact ⟨before, compared⟩

theorem merge_oneKind (separates : Separates less kind) {patience : Nat} {lefts rights : List α}
    {merged : List α × Nat} (leftAlike : OneKind kind lefts) (rightAlike : OneKind kind rights)
    (done : merge less patience lefts rights = .ok merged) : OneKind kind merged.1 := by
  apply OneKind.of_perm (merge_perm done)
  cases lefts with
  | nil => exact rightAlike
  | cons left lefts =>
      cases rights with
      | nil =>
          rw [List.append_nil]
          exact leftAlike
      | cons right rights =>
          obtain ⟨before, compared⟩ := merge_compares done
          obtain ⟨shared, rightKind, leftKind⟩ := separates right left before compared
          exact leftAlike.append rightAlike List.mem_cons_self List.mem_cons_self leftKind rightKind

/-! ### The pile -/

private theorem settle_oneKind (separates : Separates less kind) {depth patience : Nat}
    {last : Placed α} {runs : List (Placed α)} {found : List (Placed α) × Nat}
    (lastAlike : OneKind kind last.items) (runsAlike : ∀ run ∈ runs, OneKind kind run.items)
    (settled : settle less depth patience last runs = .ok found) :
    ∀ run ∈ found.1, OneKind kind run.items := by
  induction runs generalizing last patience with
  | nil =>
      cases settled
      exact List.forall_mem_singleton.mpr lastAlike
  | cons run runs ih =>
      obtain ⟨runAlike, othersAlike⟩ := List.forall_mem_cons.mp runsAlike
      unfold settle at settled
      split at settled
      · split at settled
        · cases settled
        · next merged =>
            exact ih (merge_oneKind separates runAlike lastAlike merged) othersAlike settled
      · cases settled
        exact List.forall_mem_cons.mpr ⟨lastAlike, runsAlike⟩

private theorem makeRoom_oneKind (separates : Separates less kind) {whole length patience : Nat}
    {pile : List (Placed α)} {found : List (Placed α) × Nat}
    (pileAlike : ∀ run ∈ pile, OneKind kind run.items)
    (made : makeRoom less whole length patience pile = .ok found) :
    ∀ run ∈ found.1, OneKind kind run.items := by
  cases pile with
  | nil =>
      cases made
      exact pileAlike
  | cons last runs =>
      obtain ⟨lastAlike, runsAlike⟩ := List.forall_mem_cons.mp pileAlike
      exact settle_oneKind separates lastAlike runsAlike made

private theorem nextRun_oneKind (separates : Separates less kind) {least : Nat} {items : List α}
    {found : List α × List α} (next : nextRun less least items = .ok found) :
    OneKind kind found.1 := by
  unfold nextRun at next
  split at next
  · cases next
  · next first =>
      obtain ⟨longer, inserted, rfl⟩ := of_map_eq_ok next
      exact insertAll_oneKind separates (firstRun_oneKind separates first) inserted

/-- Every run takes at least one of the items. -/
theorem nextRun_shorter {least : Nat} {items : List α} {found : List α × List α}
    (next : nextRun less least items = .ok found) (nonempty : items ≠ []) :
    found.2.length < items.length := by
  have whole := (nextRun_perm next).length_eq
  rw [List.length_append] at whole
  unfold nextRun at next
  split at next
  · cases next
  · next run left first =>
      obtain ⟨longer, inserted, rfl⟩ := of_map_eq_ok next
      have lengthened := (insertAll_perm inserted).length_eq
      rw [List.length_append] at lengthened
      have positive : 0 < run.length := List.length_pos_iff.mpr (firstRun_ne_nil first nonempty)
      change longer.length + (left.drop (least - run.length)).length = items.length at whole
      change (left.drop (least - run.length)).length < items.length
      omega

private theorem collapse_oneKind (separates : Separates less kind) (patience : Nat)
    (runs : List (List α)) :
    (∀ run ∈ runs, OneKind kind run) →
      ∀ items, collapse less patience runs = .ok items → OneKind kind items := by
  fun_induction collapse less patience runs with
  | case1 patience =>
      intro _ items collapsed
      cases collapsed
      exact .nil
  | case2 patience only =>
      intro alike items collapsed
      cases collapsed
      exact alike only List.mem_cons_self
  | case3 patience last run =>
      intro alike items collapsed
      obtain ⟨found, merged, rfl⟩ := of_map_eq_ok collapsed
      obtain ⟨lastAlike, others⟩ := List.forall_mem_cons.mp alike
      exact merge_oneKind separates (others run List.mem_cons_self) lastAlike merged
  | case4 patience last run first runs shorter fault failed =>
      intro _ items collapsed
      cases collapsed
  | case5 patience last run first runs shorter items next merged ih =>
      intro alike result collapsed
      obtain ⟨lastAlike, others⟩ := List.forall_mem_cons.mp alike
      obtain ⟨runAlike, others⟩ := List.forall_mem_cons.mp others
      obtain ⟨firstAlike, others⟩ := List.forall_mem_cons.mp others
      have itemsAlike := merge_oneKind separates firstAlike runAlike merged
      exact ih (List.forall_mem_cons.mpr ⟨lastAlike, List.forall_mem_cons.mpr ⟨itemsAlike, others⟩⟩)
        result collapsed
  | case6 patience last run first runs longer fault failed =>
      intro _ items collapsed
      cases collapsed
  | case7 patience last run first runs longer items next merged ih =>
      intro alike result collapsed
      obtain ⟨lastAlike, others⟩ := List.forall_mem_cons.mp alike
      obtain ⟨runAlike, others⟩ := List.forall_mem_cons.mp others
      have itemsAlike := merge_oneKind separates runAlike lastAlike merged
      exact ih (List.forall_mem_cons.mpr ⟨itemsAlike, others⟩) result collapsed

private theorem collapse_pile_oneKind (separates : Separates less kind) {patience : Nat}
    {pile : List (Placed α)} {items : List α} (pileAlike : ∀ run ∈ pile, OneKind kind run.items)
    (collapsed : collapse less patience (pile.map Placed.items) = .ok items) :
    OneKind kind items :=
  collapse_oneKind separates patience _ (List.forall_mem_map.mpr pileAlike) items collapsed

private theorem pileUp_oneKind (separates : Separates less kind) {whole fuel patience : Nat}
    {pile : List (Placed α)} {items result : List α}
    (pileAlike : ∀ run ∈ pile, OneKind kind run.items) (enough : items.length ≤ fuel)
    (piled : pileUp less whole fuel patience pile items = .ok result) :
    OneKind kind result := by
  -- every run takes at least one item, and so the fuel lasts until no item is left
  induction fuel generalizing patience pile items with
  | zero =>
      cases List.eq_nil_of_length_eq_zero (Nat.le_zero.mp enough)
      exact collapse_pile_oneKind separates pileAlike piled
  | succ fuel ih =>
      cases items with
      | nil => exact collapse_pile_oneKind separates pileAlike piled
      | cons first items =>
          unfold pileUp at piled
          split at piled
          · cases piled
          · next run left next =>
              split at piled
              · cases piled
              · next room patience made =>
                  have shorter : left.length < (first :: items).length :=
                    nextRun_shorter next (List.cons_ne_nil first items)
                  refine ih ?_ (by omega) piled
                  exact List.forall_mem_cons.mpr ⟨nextRun_oneKind separates next,
                    makeRoom_oneKind separates pileAlike made⟩

/-- Items that have been sorted were of one kind. -/
theorem sort_oneKind (separates : Separates less kind) {items sorted : List α}
    (done : sort less items = .ok sorted) : OneKind kind items := by
  have nothing : ∀ run ∈ ([] : List (Placed α)), OneKind kind run.items :=
    fun _ member => absurd member List.not_mem_nil
  have alike := pileUp_oneKind separates nothing (Nat.le_refl _) done
  exact alike.of_perm (sort_perm done).symm

/-- An item that is alone is compared with nothing. -/
theorem sort_singleton (less : α → α → Except ε Bool) (only : α) :
    sort less [only] = .ok [only] := by
  have run : nextRun less (leastRun 0 1) [only] = .ok ([only], []) := by
    rw [nextRun, firstRun]
    simp only [List.take_nil, List.drop_nil, insertAll, Except.map]
  change pileUp less 1 1 longStretch [] [only] = _
  rw [pileUp, run]
  · simp only [makeRoom, pileUp, List.map_cons, List.map_nil, collapse]
  · exact List.cons_ne_nil only []

end QueryWarden.Sorting
