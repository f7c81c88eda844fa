/-
What sorting brings about. Where the answers of the comparison are those of an order, galloping
finds the place at which a sorted list is to be cut, the first run stands in that order, and so
does what is put into it.
-/

import QueryWarden.Proofs.Sorting.Faults
import QueryWarden.Proofs.Sorting.Kinds

namespace QueryWarden.Sorting

variable {α ε : Type} {less : α → α → Except ε Bool} {chosen : α → Prop} {order : α → α → Prop}

structure Orders (less : α → α → Except ε Bool) (chosen : α → Prop) (order : α → α → Prop) :
    Prop where
  before : ∀ {left right : α}, chosen left → chosen right → less left right = .ok true →
    order left right
  behind : ∀ {left right : α}, chosen left → chosen right → less left right = .ok false →
    order right left
  trans : ∀ {first second third : α}, order first second → order second third →
    order first third

/-- Read from the other end, the comparison is that of the order turned round. -/
theorem Orders.flip (orders : Orders less chosen order) :
    Orders (fun left right => less right left) chosen (fun left right => order right left) where
  before := fun leftChosen rightChosen compared => orders.before rightChosen leftChosen compared
  behind := fun leftChosen rightChosen compared => orders.behind rightChosen leftChosen compared
  trans := fun first second => orders.trans second first

/-! ### Lists in order -/

/-- Of a list in order, what is taken stands before what is left. -/
theorem order_of_take_drop {items : List α} (sorted : items.Pairwise order) (count : Nat) :
    ∀ left ∈ items.take count, ∀ right ∈ items.drop count, order left right := by
  rw [← List.take_append_drop count items] at sorted
  exact (List.pairwise_append.mp sorted).2.2

/-- What stands before the first item of a list in order stands before all of it. -/
theorem order_of_head {item first : α} {rest : List α} (sorted : (first :: rest).Pairwise order)
    (before : order item first)
    (trans : ∀ {first second third : α}, order first second → order second third →
      order first third) :
    ∀ other ∈ first :: rest, order item other :=
  List.forall_mem_cons.mpr ⟨before, fun other member =>
    trans before ((List.pairwise_cons.mp sorted).1 other member)⟩

/-- What stands behind the last item of a list in order stands behind all of it. -/
theorem order_of_last {item last : α} {front : List α} (sorted : (front ++ [last]).Pairwise order)
    (behind : order last item)
    (trans : ∀ {first second third : α}, order first second → order second third →
      order first third) :
    ∀ other ∈ front ++ [last], order other item := by
  refine List.forall_mem_append.mpr ⟨fun other member => ?_, List.forall_mem_singleton.mpr behind⟩
  exact trans ((List.pairwise_append.mp sorted).2.2 other member last List.mem_cons_self) behind

/-! ### Galloping -/

section

variable {front back : α → Prop} {items : List α} {passes : α → Except ε Bool}

structure Splits (front back : α → Prop) (items : List α) (low high : Nat) : Prop where
  front : ∀ place < low, ∀ item, items[place]? = some item → front item
  back : ∀ place, high ≤ place → ∀ item, items[place]? = some item → back item

def Parts (front back : α → Prop) (items : List α) : Prop :=
  items.Pairwise (fun left right => (front right → front left) ∧ (back left → back right))

def Tells (front back : α → Prop) (passes : α → Except ε Bool) (items : List α) : Prop :=
  ∀ item ∈ items, (passes item = .ok true → front item) ∧ (passes item = .ok false → back item)

theorem Parts.upTo {place : Nat} {item : α} (parts : Parts front back items)
    (found : items[place]? = some item) (isFront : front item) :
    ∀ other < place + 1, ∀ before, items[other]? = some before → front before := by
  intro other earlier before foundBefore
  obtain ⟨inside, rfl⟩ := List.getElem?_eq_some_iff.mp found
  obtain ⟨_, rfl⟩ := List.getElem?_eq_some_iff.mp foundBefore
  rcases Nat.lt_or_ge other place with strict | reached
  · exact (List.pairwise_iff_getElem.mp parts other place _ inside strict).1 isFront
  · obtain rfl : other = place := by omega
    exact isFront

theorem Parts.onFrom {place : Nat} {item : α} (parts : Parts front back items)
    (found : items[place]? = some item) (isBack : back item) :
    ∀ other, place ≤ other → ∀ behind, items[other]? = some behind → back behind := by
  intro other later behind foundBehind
  obtain ⟨inside, rfl⟩ := List.getElem?_eq_some_iff.mp found
  obtain ⟨_, rfl⟩ := List.getElem?_eq_some_iff.mp foundBehind
  rcases Nat.lt_or_ge place other with strict | reached
  · exact (List.pairwise_iff_getElem.mp parts place other inside _ strict).2 isBack
  · obtain rfl : other = place := by omega
    exact isBack

/-- Probing stops between a place at which the test was passed and one at which it failed, or
the end. -/
theorem probe_splits (parts : Parts front back items) (tells : Tells front back passes items)
    (passed reach : Nat) :
    (∃ item, items[passed]? = some item ∧ front item) →
      ∀ found, probe passes items passed reach = .ok found →
        found.2 ≤ items.length ∧ Splits front back items (found.1 + 1) found.2 := by
  fun_induction probe passes items passed reach with
  | case1 passed reach ended =>
      intro start found probed
      obtain ⟨item, atPassed, isFront⟩ := start
      cases probed
      refine ⟨Nat.le_refl _, parts.upTo atPassed isFront, ?_⟩
      intro place beyond item atPlace
      rw [List.getElem?_eq_none beyond] at atPlace
      cases atPlace
  | case2 passed reach item atReach fault tested => intro _ found probed; cases probed
  | case3 passed reach item atReach tested ih =>
      intro _
      exact ih ⟨item, atReach, (tells item (List.mem_of_getElem? atReach)).1 tested⟩
  | case4 passed reach item atReach tested =>
      intro start found probed
      obtain ⟨other, atPassed, isFront⟩ := start
      cases probed
      have isBack := (tells item (List.mem_of_getElem? atReach)).2 tested
      have inside := (List.getElem?_eq_some_iff.mp atReach).1
      exact ⟨Nat.le_of_lt inside, parts.upTo atPassed isFront, parts.onFrom atReach isBack⟩

/-- Halving what is left between two places ends where the front ends and the back begins. -/
theorem halve_splits (parts : Parts front back items) (tells : Tells front back passes items)
    (turned : Bool) (low high : Nat) :
    high ≤ items.length → Splits front back items low high →
      ∀ count, halve passes items turned low high = .ok count →
        Splits front back items count count := by
  fun_induction halve passes items turned low high with
  | case1 low high apart ended =>
      intro within
      have bounds := halfway_bounds turned apart
      have beyond := List.getElem?_eq_none_iff.mp ended
      omega
  | case2 low high apart item atMiddle fault tested => intro _ _ count halved; cases halved
  | case3 low high apart item atMiddle tested ih =>
      intro within splits
      have isFront := (tells item (List.mem_of_getElem? atMiddle)).1 tested
      exact ih within ⟨parts.upTo atMiddle isFront, splits.back⟩
  | case4 low high apart item atMiddle tested ih =>
      intro within splits
      have isBack := (tells item (List.mem_of_getElem? atMiddle)).2 tested
      have bounds := halfway_bounds turned apart
      exact ih (by omega) ⟨splits.front, parts.onFrom atMiddle isBack⟩
  | case5 low high closed =>
      intro _ splits count halved
      cases halved
      refine ⟨splits.front, fun place reached => splits.back place ?_⟩
      omega

/-- The items that galloping counts are those of the front. -/
theorem leading_parts (parts : Parts front back items) (tells : Tells front back passes items)
    {turned : Bool} {count : Nat} (counted : leading passes turned items = .ok count) :
    (∀ item ∈ items.take count, front item) ∧ ∀ item ∈ items.drop count, back item := by
  have splits : Splits front back items count count := by
    cases items with
    | nil =>
        cases counted
        exact ⟨fun _ _ _ nothing => (Option.some_ne_none _ nothing.symm).elim,
          fun _ _ _ nothing => (Option.some_ne_none _ nothing.symm).elim⟩
    | cons first rest =>
        have toldFirst := tells first List.mem_cons_self
        rw [leading] at counted
        split at counted
        · cases counted
        · next tested =>
            cases counted
            refine ⟨fun _ impossible => absurd impossible (Nat.not_lt_zero _), ?_⟩
            have atStart : (first :: rest)[0]? = some first := rfl
            exact parts.onFrom atStart (toldFirst.2 tested)
        · next tested =>
            split at counted
            · cases counted
            · next probed =>
                obtain ⟨within, splits⟩ := probe_splits parts tells 0 1
                  ⟨first, rfl, toldFirst.1 tested⟩ _ probed
                exact halve_splits parts tells turned _ _ within splits count counted
  constructor
  · intro item member
    obtain ⟨place, inside, found⟩ := List.mem_take_iff_getElem.mp member
    exact splits.front place (by omega) item (List.getElem?_eq_some_iff.mpr ⟨by omega, found⟩)
  · intro item member
    obtain ⟨place, inside, found⟩ := List.mem_drop_iff_getElem.mp member
    exact splits.back (count + place) (by omega) item
      (List.getElem?_eq_some_iff.mpr ⟨by omega, found⟩)

end

/-! ### Runs -/

variable {last : α} {items : List α} {found : List α × List α}

/-- A run goes on in the direction in which it began. -/
theorem extend_pairwise {falling : Bool}
    (step : ∀ {item last : α}, chosen item → chosen last → less item last = .ok falling →
      order last item)
    (trans : ∀ {first second third : α}, order first second → order second third →
      order first third)
    (lastChosen : chosen last) (itemsChosen : ∀ item ∈ items, chosen item)
    (extended : extend less falling last items = .ok found) :
    (last :: found.1).Pairwise order := by
  induction items generalizing last found with
  | nil =>
      cases extended
      exact List.pairwise_singleton order last
  | cons item rest ih =>
      obtain ⟨itemChosen, restChosen⟩ := List.forall_mem_cons.mp itemsChosen
      unfold extend at extended
      split at extended
      · cases extended
      · next falls compared =>
          split at extended
          · next goesOn =>
              obtain ⟨more, further, rfl⟩ := of_map_eq_ok extended
              have sorted := ih itemChosen restChosen further
              have first := step itemChosen lastChosen (goesOn ▸ compared)
              exact List.pairwise_cons.mpr ⟨order_of_head sorted first trans, sorted⟩
          · cases extended
            exact List.pairwise_singleton order last

theorem firstRun_pairwise (orders : Orders less chosen order)
    (itemsChosen : ∀ item ∈ items, chosen item) (run : firstRun less items = .ok found) :
    found.1.Pairwise order := by
  match items with
  | [] =>
      cases run
      exact .nil
  | [only] =>
      cases run
      exact List.pairwise_singleton order only
  | first :: second :: rest =>
      obtain ⟨firstChosen, othersChosen⟩ := List.forall_mem_cons.mp itemsChosen
      rw [firstRun] at run
      split at run
      · cases run
      · next falling compared =>
          obtain ⟨more, extended, rfl⟩ := of_map_eq_ok run
          cases falling with
          | false =>
              exact extend_pairwise orders.behind orders.trans firstChosen othersChosen extended
          | true =>
              exact List.pairwise_reverse.mpr
                (extend_pairwise orders.before orders.flip.trans firstChosen othersChosen extended)

/-- An item that is put into a list in order leaves the list in order. -/
theorem insert_pairwise (orders : Orders less chosen order) {item : α} (itemChosen : chosen item)
    (sorted : List α) :
    (∀ other ∈ sorted, chosen other) → sorted.Pairwise order →
      ∀ result, insert less item sorted = .ok result → result.Pairwise order := by
  fun_induction insert less item sorted with
  | case1 sorted halved =>
      intro _ _ result inserted
      cases inserted
      exact List.pairwise_singleton order item
  | case2 sorted middle back halved fault compared => intro _ _ result inserted; cases inserted
  | case3 sorted middle back halved compared ih =>
      intro sortedChosen inOrder result inserted
      obtain ⟨front, placed, rfl⟩ := of_map_eq_ok inserted
      have middleChosen := sortedChosen middle (List.mem_of_mem_drop (halved ▸ List.mem_cons_self))
      have before := orders.before itemChosen middleChosen compared
      have halves := order_of_take_drop inOrder (sorted.length / 2)
      rw [halved] at halves
      have frontSorted := ih (fun other member => sortedChosen other (List.mem_of_mem_take member))
        (inOrder.sublist (List.take_sublist _ _)) front placed
      have backSorted : (middle :: back).Pairwise order :=
        halved ▸ inOrder.sublist (List.drop_sublist _ _)
      refine List.pairwise_append.mpr ⟨frontSorted, backSorted, fun left inFront => ?_⟩
      rcases List.mem_cons.mp ((insert_perm less item _ front placed).mem_iff.mp inFront) with
        rfl | inTaken
      · exact order_of_head backSorted before orders.trans
      · exact halves left inTaken
  | case4 sorted middle back halved compared ih =>
      intro sortedChosen inOrder result inserted
      obtain ⟨placed, found, rfl⟩ := of_map_eq_ok inserted
      have middleChosen := sortedChosen middle (List.mem_of_mem_drop (halved ▸ List.mem_cons_self))
      have behind := orders.behind itemChosen middleChosen compared
      have halves := order_of_take_drop inOrder (sorted.length / 2)
      rw [halved] at halves
      have backSorted : (middle :: back).Pairwise order :=
        halved ▸ inOrder.sublist (List.drop_sublist _ _)
      have within : ∀ other ∈ back, other ∈ sorted := fun other member =>
        List.mem_of_mem_drop (i := sorted.length / 2) (halved ▸ List.mem_cons_of_mem middle member)
      obtain ⟨middleFirst, restSorted⟩ := List.pairwise_cons.mp backSorted
      have placedSorted := ih (fun other member => sortedChosen other (within other member))
        restSorted placed found
      have above : ∀ other ∈ placed, order middle other := fun other member =>
        (List.forall_mem_cons.mpr ⟨behind, middleFirst⟩) other
          ((insert_perm less item back placed found).mem_iff.mp member)
      have middleSorted := List.pairwise_cons.mpr ⟨above, placedSorted⟩
      refine List.pairwise_append.mpr ⟨inOrder.sublist (List.take_sublist _ _), middleSorted,
        fun left inFront => ?_⟩
      exact order_of_head middleSorted (halves left inFront middle List.mem_cons_self)
        orders.trans

theorem insertAll_pairwise (orders : Orders less chosen order) {sorted items result : List α}
    (sortedChosen : ∀ item ∈ sorted, chosen item) (itemsChosen : ∀ item ∈ items, chosen item)
    (inOrder : sorted.Pairwise order) (inserted : insertAll less sorted items = .ok result) :
    result.Pairwise order := by
  induction items generalizing sorted with
  | nil =>
      cases inserted
      exact inOrder
  | cons item rest ih =>
      obtain ⟨itemChosen, restChosen⟩ := List.forall_mem_cons.mp itemsChosen
      unfold insertAll at inserted
      split at inserted
      · cases inserted
      · next longer placed =>
          refine ih ?_ restChosen
            (insert_pairwise orders itemChosen sorted sortedChosen inOrder longer placed) inserted
          exact chosen_of_perm (insert_perm less item sorted longer placed)
            (List.forall_mem_cons.mpr ⟨itemChosen, sortedChosen⟩)

end QueryWarden.Sorting
