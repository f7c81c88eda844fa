/-
Why sorting fails. Galloping, lengthening and merging runs only ever compare items that
were there from the start: a fault in sorting is a fault in comparing two of the items, and
items that can all be compared are always sorted.
-/

import QueryWarden.Sorting.Basic

namespace QueryWarden.Sorting

variable {α ε : Type} {less : α → α → Except ε Bool} {chosen : α → Prop} {fault : ε}

/-- The fault comes from comparing two of the items that are chosen. -/
def FromCompared (less : α → α → Except ε Bool) (chosen : α → Prop) (fault : ε) : Prop :=
  ∃ left right, chosen left ∧ chosen right ∧ less left right = .error fault

theorem of_map_eq_error {β γ : Type} {change : β → γ} {result : Except ε β}
    (mapped : result.map change = .error fault) : result = .error fault := by
  cases result with
  | error other => exact congrArg Except.error (Except.error.inj mapped)
  | ok value => cases mapped

theorem of_fails_eq_error {tested : Except ε Bool} (failed : fails tested = .error fault) :
    tested = .error fault :=
  of_map_eq_error failed

/-! ### Galloping -/

private theorem probe_error (passes : α → Except ε Bool) (items : List α) (passed reach : Nat) :
    probe passes items passed reach = .error fault →
      ∃ item ∈ items, passes item = .error fault := by
  fun_induction probe passes items passed reach with
  | case1 passed reach ended => intro failed; cases failed
  | case2 passed reach item found other tested =>
      intro failed
      cases failed
      exact ⟨item, List.mem_of_getElem? found, tested⟩
  | case3 passed reach item found tested ih => exact ih
  | case4 passed reach item found tested => intro failed; cases failed

private theorem halve_error (passes : α → Except ε Bool) (items : List α) (turned : Bool)
    (low high : Nat) :
    halve passes items turned low high = .error fault →
      ∃ item ∈ items, passes item = .error fault := by
  fun_induction halve passes items turned low high with
  | case1 low high apart ended => intro failed; cases failed
  | case2 low high apart item found other tested =>
      intro failed
      cases failed
      exact ⟨item, List.mem_of_getElem? found, tested⟩
  | case3 low high apart item found tested ih => exact ih
  | case4 low high apart item found tested ih => exact ih
  | case5 low high closed => intro failed; cases failed

theorem leading_error {passes : α → Except ε Bool} {turned : Bool} {items : List α}
    (failed : leading passes turned items = .error fault) :
    ∃ item ∈ items, passes item = .error fault := by
  unfold leading at failed
  split at failed
  · cases failed
  · split at failed
    · next tested =>
        cases failed
        exact ⟨_, List.mem_cons_self, tested⟩
    · cases failed
    · split at failed
      · next probed =>
          cases failed
          exact probe_error _ _ _ _ probed
      · exact halve_error _ _ _ _ _ failed

/-! ### Runs -/

private theorem extend_error {falling : Bool} {last : α} {items : List α} (lastChosen : chosen last)
    (itemsChosen : ∀ item ∈ items, chosen item)
    (failed : extend less falling last items = .error fault) :
    FromCompared less chosen fault := by
  induction items generalizing last with
  | nil => cases failed
  | cons item rest ih =>
      have itemChosen := itemsChosen item List.mem_cons_self
      unfold extend at failed
      split at failed
      · next compared =>
          cases failed
          exact ⟨item, last, itemChosen, lastChosen, compared⟩
      · split at failed
        · exact ih itemChosen
            (fun other member => itemsChosen other (List.mem_cons_of_mem item member))
            (of_map_eq_error failed)
        · cases failed

private theorem firstRun_error {items : List α} (itemsChosen : ∀ item ∈ items, chosen item)
    (failed : firstRun less items = .error fault) : FromCompared less chosen fault := by
  match items with
  | [] => cases failed
  | [only] => cases failed
  | first :: second :: rest =>
      have firstChosen := itemsChosen first List.mem_cons_self
      have othersChosen : ∀ item ∈ second :: rest, chosen item :=
        fun item member => itemsChosen item (List.mem_cons_of_mem first member)
      rw [firstRun] at failed
      split at failed
      · next compared =>
          cases failed
          exact ⟨second, first, othersChosen second List.mem_cons_self, firstChosen, compared⟩
      · exact extend_error firstChosen othersChosen (of_map_eq_error failed)

private theorem insert_error {item : α} (sorted : List α) (itemChosen : chosen item) :
    (∀ item ∈ sorted, chosen item) → insert less item sorted = .error fault →
      FromCompared less chosen fault := by
  fun_induction insert less item sorted with
  | case1 sorted halved => intro _ failed; cases failed
  | case2 sorted middle back halved other compared =>
      intro sortedChosen failed
      cases failed
      have member : middle ∈ sorted.drop (sorted.length / 2) := halved ▸ List.mem_cons_self
      exact ⟨item, middle, itemChosen, sortedChosen middle (List.mem_of_mem_drop member), compared⟩
  | case3 sorted middle back halved compared ih =>
      intro sortedChosen failed
      exact ih (fun other member => sortedChosen other (List.mem_of_mem_take member))
        (of_map_eq_error failed)
  | case4 sorted middle back halved compared ih =>
      intro sortedChosen failed
      refine ih (fun other member => ?_) (of_map_eq_error failed)
      have inBack : other ∈ sorted.drop (sorted.length / 2) :=
        halved ▸ List.mem_cons_of_mem middle member
      exact sortedChosen other (List.mem_of_mem_drop inBack)

theorem chosen_of_perm {items others : List α} (same : items.Perm others)
    (othersChosen : ∀ item ∈ others, chosen item) : ∀ item ∈ items, chosen item :=
  fun item member => othersChosen item (same.mem_iff.mp member)

private theorem insertAll_error {sorted items : List α}
    (sortedChosen : ∀ item ∈ sorted, chosen item)
    (itemsChosen : ∀ item ∈ items, chosen item)
    (failed : insertAll less sorted items = .error fault) : FromCompared less chosen fault := by
  induction items generalizing sorted with
  | nil => cases failed
  | cons item rest ih =>
      have itemChosen := itemsChosen item List.mem_cons_self
      unfold insertAll at failed
      split at failed
      · next inserted =>
          cases failed
          exact insert_error sorted itemChosen sortedChosen inserted
      · next longer inserted =>
          refine ih ?_ (fun other member => itemsChosen other (List.mem_cons_of_mem item member))
            failed
          refine chosen_of_perm (insert_perm less item sorted longer inserted) ?_
          exact List.forall_mem_cons.mpr ⟨itemChosen, sortedChosen⟩

/-! ### Merging -/

structure Rule.Compares (rule : Rule α ε) (less : α → α → Except ε Bool) : Prop where
  takesRight : ∀ {chosen : α → Prop} {fault : ε} {left right : α}, chosen left → chosen right →
    rule.takesRight left right = .error fault → FromCompared less chosen fault
  countLeft : ∀ {chosen : α → Prop} {fault : ε} {right : α} {lefts : List α}, chosen right →
    (∀ item ∈ lefts, chosen item) → rule.countLeft right lefts = .error fault →
      FromCompared less chosen fault
  countRight : ∀ {chosen : α → Prop} {fault : ε} {left : α} {rights : List α}, chosen left →
    (∀ item ∈ rights, chosen item) → rule.countRight left rights = .error fault →
      FromCompared less chosen fault

private theorem frontRule_compares (less : α → α → Except ε Bool) :
    (frontRule less).Compares less where
  takesRight := fun leftChosen rightChosen failed => ⟨_, _, rightChosen, leftChosen, failed⟩
  countLeft := fun rightChosen leftsChosen failed => by
    obtain ⟨left, member, compared⟩ := leading_error failed
    exact ⟨_, left, rightChosen, leftsChosen left member, of_fails_eq_error compared⟩
  countRight := fun leftChosen rightsChosen failed => by
    obtain ⟨right, member, compared⟩ := leading_error failed
    exact ⟨right, _, rightsChosen right member, leftChosen, compared⟩

private theorem backRule_compares (less : α → α → Except ε Bool) :
    (backRule less).Compares less where
  takesRight := fun leftChosen rightChosen failed =>
    ⟨_, _, rightChosen, leftChosen, of_fails_eq_error failed⟩
  countLeft := fun rightChosen leftsChosen failed => by
    obtain ⟨left, member, compared⟩ := leading_error failed
    exact ⟨_, left, rightChosen, leftsChosen left member, compared⟩
  countRight := fun leftChosen rightsChosen failed => by
    obtain ⟨right, member, compared⟩ := leading_error failed
    exact ⟨right, _, rightsChosen right member, leftChosen, of_fails_eq_error compared⟩

private theorem move_error {rule : Rule α ε} (compares : rule.Compares less) {pace : Pace}
    {patience : Nat} {left right : List α} (leftChosen : ∀ item ∈ left, chosen item)
    (rightChosen : ∀ item ∈ right, chosen item)
    (failed : move rule pace patience left right = .error fault) :
    FromCompared less chosen fault := by
  unfold move at failed
  split at failed
  · cases failed
  · split at failed
    · next first lefts second rights _ =>
        have firstChosen := leftChosen first List.mem_cons_self
        have secondChosen := rightChosen second List.mem_cons_self
        cases pace with
        | stepping leftWins rightWins =>
            rw [compare, moveByItem] at failed
            split at failed
            · next tested =>
                cases failed
                exact compares.takesRight firstChosen secondChosen tested
            · cases failed
            · cases failed
        | gallopingLeft =>
            rw [compare, moveByLeft] at failed
            split at failed
            · next counted =>
                cases failed
                exact compares.countLeft secondChosen leftChosen counted
            · split at failed <;> cases failed
        | gallopingRight leftStretch =>
            rw [compare, moveByRight] at failed
            split at failed
            · next counted =>
                cases failed
                exact compares.countRight firstChosen rightChosen counted
            · split at failed
              · cases failed
              · split at failed <;> cases failed
    · cases failed

private theorem join_error {rule : Rule α ε} (compares : rule.Compares less) (pace : Pace)
    (patience : Nat) (left right : List α) :
    (∀ item ∈ left ++ right, chosen item) → join rule pace patience left right = .error fault →
      FromCompared less chosen fault := by
  fun_induction join rule pace patience left right with
  | case1 pace patience left right other made =>
      intro bothChosen failed
      cases failed
      exact move_error compares (fun item member => bothChosen item (List.mem_append_left _ member))
        (fun item member => bothChosen item (List.mem_append_right _ member)) made
  | case2 pace patience left right items made => intro _ failed; cases failed
  | case3 pace patience left right stretch item next rest lefts rights made ih =>
      intro bothChosen failed
      refine ih (fun other member => ?_) (of_map_eq_error failed)
      have inMove : other ∈ stretch ++ item :: (lefts ++ rights) :=
        List.mem_append_right _ (List.mem_cons_of_mem item member)
      exact bothChosen other ((move_perm made).mem_iff.mp inMove)

private theorem mergeMiddle_error {patience : Nat} {left right : List α}
    (leftChosen : ∀ item ∈ left, chosen item) (rightChosen : ∀ item ∈ right, chosen item)
    (failed : mergeMiddle less patience left right = .error fault) :
    FromCompared less chosen fault := by
  unfold mergeMiddle at failed
  split at failed
  · refine join_error (frontRule_compares less) _ _ _ _ ?_ (of_map_eq_error failed)
    intro item member
    rcases List.mem_append.mp member with inLeft | inRight
    · exact leftChosen item inLeft
    · exact rightChosen item (List.mem_of_mem_drop inRight)
  · refine join_error (backRule_compares less) _ _ _ _ ?_ (of_map_eq_error failed)
    intro item member
    rcases List.mem_append.mp member with inLeft | inRight
    · exact leftChosen item (List.mem_reverse.mp (List.mem_of_mem_drop inLeft))
    · exact rightChosen item (List.mem_reverse.mp inRight)

theorem merge_error {patience : Nat} {left right : List α}
    (leftChosen : ∀ item ∈ left, chosen item) (rightChosen : ∀ item ∈ right, chosen item)
    (failed : merge less patience left right = .error fault) :
    FromCompared less chosen fault := by
  unfold merge at failed
  split at failed
  · cases failed
  · next first rights =>
      split at failed
      · next counted =>
          cases failed
          obtain ⟨item, member, compared⟩ := leading_error counted
          exact ⟨first, item, rightChosen first List.mem_cons_self, leftChosen item member,
            of_fails_eq_error compared⟩
      · split at failed
        · cases failed
        · next last isLast =>
            have lastChosen : chosen last :=
              leftChosen last (List.mem_of_mem_drop (List.mem_of_getLast? isLast))
            split at failed
            · next counted =>
                cases failed
                obtain ⟨item, member, compared⟩ := leading_error counted
                exact ⟨item, last, rightChosen item (List.mem_reverse.mp member), lastChosen,
                  of_fails_eq_error compared⟩
            · split at failed
              · cases failed
              · exact mergeMiddle_error
                  (fun item member => leftChosen item (List.mem_of_mem_drop member))
                  (fun item member => rightChosen item (List.mem_of_mem_take member))
                  (of_map_eq_error failed)

/-! ### The pile -/

private theorem settle_error {depth patience : Nat} {last : Placed α} {runs : List (Placed α)}
    (lastChosen : ∀ item ∈ last.items, chosen item)
    (runsChosen : ∀ item ∈ pileItems runs, chosen item)
    (failed : settle less depth patience last runs = .error fault) :
    FromCompared less chosen fault := by
  induction runs generalizing last patience with
  | nil => cases failed
  | cons run runs ih =>
      have runChosen : ∀ item ∈ run.items, chosen item :=
        fun item member => runsChosen item (List.mem_append_left _ member)
      have othersChosen : ∀ item ∈ pileItems runs, chosen item :=
        fun item member => runsChosen item (List.mem_append_right _ member)
      unfold settle at failed
      split at failed
      · split at failed
        · next merged =>
            cases failed
            exact merge_error runChosen lastChosen merged
        · next items patience merged =>
            refine ih ?_ othersChosen failed
            refine chosen_of_perm (merge_perm merged) ?_
            exact List.forall_mem_append.mpr ⟨runChosen, lastChosen⟩
      · cases failed

private theorem makeRoom_error {whole length patience : Nat} {pile : List (Placed α)}
    (pileChosen : ∀ item ∈ pileItems pile, chosen item)
    (failed : makeRoom less whole length patience pile = .error fault) :
    FromCompared less chosen fault := by
  cases pile with
  | nil => cases failed
  | cons last runs =>
      exact settle_error (fun item member => pileChosen item (List.mem_append_left _ member))
        (fun item member => pileChosen item (List.mem_append_right _ member)) failed

private theorem nextRun_error {least : Nat} {items : List α}
    (itemsChosen : ∀ item ∈ items, chosen item)
    (failed : nextRun less least items = .error fault) : FromCompared less chosen fault := by
  unfold nextRun at failed
  split at failed
  · next found =>
      cases failed
      exact firstRun_error itemsChosen found
  · next run left found =>
      have bothChosen := chosen_of_perm (firstRun_perm found) itemsChosen
      refine insertAll_error (fun item member => ?_) (fun item member => ?_)
        (of_map_eq_error failed)
      · exact bothChosen item (List.mem_append_left _ member)
      · exact bothChosen item (List.mem_append_right _ (List.mem_of_mem_take member))

theorem forall_three_of_forall_mem {first second third : List α} {rest : List (List α)}
    (all : ∀ run ∈ first :: second :: third :: rest, ∀ item ∈ run, chosen item) :
    (∀ item ∈ first, chosen item) ∧ (∀ item ∈ second, chosen item) ∧
      (∀ item ∈ third, chosen item) ∧ ∀ run ∈ rest, ∀ item ∈ run, chosen item := by
  obtain ⟨firstChosen, others⟩ := List.forall_mem_cons.mp all
  obtain ⟨secondChosen, others⟩ := List.forall_mem_cons.mp others
  exact ⟨firstChosen, secondChosen, List.forall_mem_cons.mp others⟩

private theorem collapse_error (patience : Nat) (runs : List (List α)) :
    (∀ run ∈ runs, ∀ item ∈ run, chosen item) → collapse less patience runs = .error fault →
      FromCompared less chosen fault := by
  fun_induction collapse less patience runs with
  | case1 patience => intro _ failed; cases failed
  | case2 patience only => intro _ failed; cases failed
  | case3 patience last run =>
      intro runsChosen failed
      have lastChosen := runsChosen last List.mem_cons_self
      have runChosen := runsChosen run (List.mem_cons_of_mem last List.mem_cons_self)
      exact merge_error runChosen lastChosen (of_map_eq_error failed)
  | case4 patience last run first runs shorter other merged =>
      intro runsChosen failed
      cases failed
      obtain ⟨_, runChosen, firstChosen, _⟩ := forall_three_of_forall_mem runsChosen
      exact merge_error firstChosen runChosen merged
  | case5 patience last run first runs shorter items next merged ih =>
      intro runsChosen failed
      obtain ⟨lastChosen, runChosen, firstChosen, othersChosen⟩ :=
        forall_three_of_forall_mem runsChosen
      have itemsChosen : ∀ item ∈ items, chosen item :=
        chosen_of_perm (merge_perm merged) (List.forall_mem_append.mpr ⟨firstChosen, runChosen⟩)
      exact ih (List.forall_mem_cons.mpr ⟨lastChosen,
        List.forall_mem_cons.mpr ⟨itemsChosen, othersChosen⟩⟩) failed
  | case6 patience last run first runs longer other merged =>
      intro runsChosen failed
      cases failed
      obtain ⟨lastChosen, runChosen, _, _⟩ := forall_three_of_forall_mem runsChosen
      exact merge_error runChosen lastChosen merged
  | case7 patience last run first runs longer items next merged ih =>
      intro runsChosen failed
      obtain ⟨lastChosen, runChosen, firstChosen, othersChosen⟩ :=
        forall_three_of_forall_mem runsChosen
      have itemsChosen : ∀ item ∈ items, chosen item :=
        chosen_of_perm (merge_perm merged) (List.forall_mem_append.mpr ⟨runChosen, lastChosen⟩)
      exact ih (List.forall_mem_cons.mpr ⟨itemsChosen,
        List.forall_mem_cons.mpr ⟨firstChosen, othersChosen⟩⟩) failed

private theorem collapse_pile_error {patience : Nat} {pile : List (Placed α)}
    (pileChosen : ∀ item ∈ pileItems pile, chosen item)
    (failed : collapse less patience (pile.map Placed.items) = .error fault) :
    FromCompared less chosen fault :=
  collapse_error patience _ (fun run member item inside =>
    pileChosen item (List.mem_flatten.mpr ⟨run, member, inside⟩)) failed

private theorem pileUp_error {whole fuel patience : Nat} {pile : List (Placed α)} {items : List α}
    (pileChosen : ∀ item ∈ pileItems pile, chosen item)
    (itemsChosen : ∀ item ∈ items, chosen item)
    (failed : pileUp less whole fuel patience pile items = .error fault) :
    FromCompared less chosen fault := by
  induction fuel generalizing patience pile items with
  | zero =>
      cases items with
      | nil => exact collapse_pile_error pileChosen failed
      | cons first items =>
          refine collapse_error patience ((first :: items) :: pile.map Placed.items) ?_ failed
          exact List.forall_mem_cons.mpr ⟨itemsChosen, fun run member item inside =>
            pileChosen item (List.mem_flatten.mpr ⟨run, member, inside⟩)⟩
  | succ fuel ih =>
      cases items with
      | nil => exact collapse_pile_error pileChosen failed
      | cons first items =>
          unfold pileUp at failed
          split at failed
          · next found =>
              cases failed
              exact nextRun_error itemsChosen found
          · next run left found =>
              have bothChosen := chosen_of_perm (nextRun_perm found) itemsChosen
              split at failed
              · next made =>
                  cases failed
                  exact makeRoom_error pileChosen made
              · next room patience made =>
                  have roomChosen := chosen_of_perm (makeRoom_perm made) pileChosen
                  refine ih ?_ (fun item member => bothChosen item (List.mem_append_right _ member))
                    failed
                  exact List.forall_mem_append.mpr
                    ⟨fun item member => bothChosen item (List.mem_append_left _ member), roomChosen⟩

/-- Sorting fails with the fault of comparing two of the items. -/
theorem sort_error {items : List α} (failed : sort less items = .error fault) :
    ∃ left ∈ items, ∃ right ∈ items, less left right = .error fault := by
  obtain ⟨left, right, leftMember, rightMember, compared⟩ :
      FromCompared less (· ∈ items) fault :=
    pileUp_error (fun _ member => absurd member List.not_mem_nil) (fun _ member => member) failed
  exact ⟨left, leftMember, right, rightMember, compared⟩

/-- Items that can all be compared are sorted. -/
theorem sort_exists {items : List α}
    (comparable : ∀ left ∈ items, ∀ right ∈ items, ∃ before, less left right = .ok before) :
    ∃ sorted, sort less items = .ok sorted := by
  cases done : sort less items with
  | ok sorted => exact ⟨sorted, rfl⟩
  | error fault =>
      obtain ⟨left, leftMember, right, rightMember, failed⟩ := sort_error done
      obtain ⟨before, compared⟩ := comparable left leftMember right rightMember
      rw [compared] at failed
      cases failed

end QueryWarden.Sorting
