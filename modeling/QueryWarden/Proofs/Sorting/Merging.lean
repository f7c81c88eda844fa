/-
Merging in order. Each move of a merge takes what stands before all that is left, whatever the
pace, and so merging two sorted runs gives a sorted run. Piling runs up and merging them then
sorts the items.
-/

import QueryWarden.Proofs.Sorting.Order

namespace QueryWarden.Sorting

variable {α ε : Type} {less : α → α → Except ε Bool} {chosen : α → Prop} {order : α → α → Prop}

/-! ### Moves of a merge -/

section

variable {rule : Rule α ε} {closing : Side} {left right : List α}

/-- What a rule answers is right for an order. -/
structure Rule.Follows (rule : Rule α ε) (chosen : α → Prop) (order : α → α → Prop) : Prop where
  trans : ∀ {first second third : α}, order first second → order second third →
    order first third
  takesRight : ∀ {left right : α}, chosen left → chosen right →
    (rule.takesRight left right = .ok true → order right left) ∧
      (rule.takesRight left right = .ok false → order left right)
  countLeft : ∀ {right : α} {lefts : List α} {count : Nat}, chosen right →
    (∀ item ∈ lefts, chosen item) → lefts.Pairwise order →
      rule.countLeft right lefts = .ok count →
        (∀ item ∈ lefts.take count, order item right) ∧ ∀ item ∈ lefts.drop count, order right item
  countRight : ∀ {left : α} {rights : List α} {count : Nat}, chosen left →
    (∀ item ∈ rights, chosen item) → rights.Pairwise order →
      rule.countRight left rights = .ok count →
        (∀ item ∈ rights.take count, order item left) ∧ ∀ item ∈ rights.drop count, order left item

def Closes (order : α → α → Prop) (closing : Side) (left right : List α) : Prop :=
  match closing with
  | .left => ∀ last ∈ left.getLast?, ∀ item ∈ right, order item last
  | .right => ∀ last ∈ right.getLast?, ∀ item ∈ left, order item last

private theorem getLast?_of_suffix {part whole : List α} (suffix : part <:+ whole) {last : α}
    (isLast : last ∈ part.getLast?) : last ∈ whole.getLast? := by
  obtain ⟨front, rfl⟩ := suffix
  rw [List.getLast?_append, Option.mem_def.mp isLast]
  rfl

theorem Closes.suffix (closes : Closes order closing left right) {lefts rights : List α}
    (leftSuffix : lefts <:+ left) (rightSuffix : rights <:+ right) :
    Closes order closing lefts rights := by
  cases closing with
  | left =>
      intro last isLast item member
      exact closes last (getLast?_of_suffix leftSuffix isLast) item (rightSuffix.subset member)
  | right =>
      intro last isLast item member
      exact closes last (getLast?_of_suffix rightSuffix isLast) item (leftSuffix.subset member)

theorem rest?_pairwise (leftSorted : left.Pairwise order) (rightSorted : right.Pairwise order)
    (closes : Closes order closing left right) {whole : List α}
    (ended : rest? closing left right = some whole) : whole.Pairwise order := by
  unfold rest? at ended
  split at ended
  · cases ended
    exact leftSorted
  · cases ended
    exact rightSorted
  · next last _ =>
      cases ended
      refine List.pairwise_append.mpr ⟨rightSorted, leftSorted, fun item member => ?_⟩
      exact List.forall_mem_singleton.mpr (closes last rfl item member)
  · next last _ =>
      cases ended
      refine List.pairwise_append.mpr ⟨leftSorted, rightSorted, fun item member => ?_⟩
      exact List.forall_mem_singleton.mpr (closes last rfl item member)
  · cases ended

/-- A move closes the merge in order, or it takes a stretch and an item that stand in order
before all that is left. -/
def Move.Advances (order : α → α → Prop) (left right : List α) : Move α → Prop
  | .closed items => items.Pairwise order
  | .onward stretch item _ _ lefts rights =>
      (lefts <:+ left ∧ rights <:+ right) ∧ (stretch ++ [item]).Pairwise order ∧
        ∀ rest ∈ lefts ++ rights, order item rest

variable {first second : α} {lefts rights : List α} {patience : Nat} {moved : Move α}

private theorem moveByItem_advances (follows : rule.Follows chosen order)
    (firstChosen : chosen first) (secondChosen : chosen second)
    (leftSorted : (first :: lefts).Pairwise order) (rightSorted : (second :: rights).Pairwise order)
    {leftWins rightWins : Nat}
    (made : moveByItem rule leftWins rightWins patience first lefts second rights = .ok moved) :
    moved.Advances order (first :: lefts) (second :: rights) := by
  obtain ⟨firstBefore, _⟩ := List.pairwise_cons.mp leftSorted
  obtain ⟨secondBefore, _⟩ := List.pairwise_cons.mp rightSorted
  have takes := follows.takesRight firstChosen secondChosen
  unfold moveByItem at made
  split at made
  · cases made
  · next tested =>
      cases made
      have before := takes.1 tested
      refine ⟨⟨List.suffix_refl _, List.suffix_cons second rights⟩,
        List.pairwise_singleton order second, ?_⟩
      exact List.forall_mem_append.mpr
        ⟨order_of_head leftSorted before follows.trans, secondBefore⟩
  · next tested =>
      cases made
      have before := takes.2 tested
      refine ⟨⟨List.suffix_cons first lefts, List.suffix_refl _⟩,
        List.pairwise_singleton order first, ?_⟩
      exact List.forall_mem_append.mpr
        ⟨firstBefore, order_of_head rightSorted before follows.trans⟩

/-- A stretch of one side stands in order before the item of the other side that ends it. -/
theorem pairwise_stretch {side : List α} (sorted : side.Pairwise order) {count : Nat} {item : α}
    (before : ∀ other ∈ side.take count, order other item) :
    (side.take count ++ [item]).Pairwise order := by
  refine List.pairwise_append.mpr ⟨sorted.sublist (List.take_sublist _ _),
    List.pairwise_singleton order item, fun other member => ?_⟩
  exact List.forall_mem_singleton.mpr (before other member)

private theorem moveByLeft_advances (follows : rule.Follows chosen order)
    (leftChosen : ∀ item ∈ left, chosen item) (secondChosen : chosen second)
    (leftSorted : left.Pairwise order) (rightSorted : (second :: rights).Pairwise order)
    (closes : Closes order rule.closing left (second :: rights))
    (made : moveByLeft rule patience left second rights = .ok moved) :
    moved.Advances order left (second :: rights) := by
  obtain ⟨secondBefore, _⟩ := List.pairwise_cons.mp rightSorted
  unfold moveByLeft at made
  split at made
  · cases made
  · next count counted =>
      obtain ⟨above, below⟩ := follows.countLeft secondChosen leftChosen leftSorted counted
      have dropped : left.drop count <:+ left := List.drop_suffix count left
      split at made
      · next whole ended =>
          cases made
          have wholeSorted := rest?_pairwise (leftSorted.sublist dropped.sublist) rightSorted
            (closes.suffix dropped (List.suffix_refl _)) ended
          refine List.pairwise_append.mpr
            ⟨leftSorted.sublist (List.take_sublist _ _), wholeSorted, ?_⟩
          intro item inFront other inWhole
          rcases List.mem_append.mp ((rest?_perm ended).mem_iff.mp inWhole) with inLeft | inRight
          · exact order_of_take_drop leftSorted count item inFront other inLeft
          · exact order_of_head rightSorted (above item inFront) follows.trans other inRight
      · cases made
        exact ⟨⟨dropped, List.suffix_cons second rights⟩, pairwise_stretch leftSorted above,
          List.forall_mem_append.mpr ⟨below, secondBefore⟩⟩

private theorem moveByRight_advances (follows : rule.Follows chosen order)
    (firstChosen : chosen first) (rightChosen : ∀ item ∈ right, chosen item)
    (leftSorted : (first :: lefts).Pairwise order) (rightSorted : right.Pairwise order)
    (closes : Closes order rule.closing (first :: lefts) right) {leftStretch : Nat}
    (made : moveByRight rule leftStretch patience first lefts right = .ok moved) :
    moved.Advances order (first :: lefts) right := by
  obtain ⟨firstBefore, leftsSorted⟩ := List.pairwise_cons.mp leftSorted
  unfold moveByRight at made
  split at made
  · cases made
  · next count counted =>
      obtain ⟨above, below⟩ := follows.countRight firstChosen rightChosen rightSorted counted
      have dropped : right.drop count <:+ right := List.drop_suffix count right
      have droppedSorted := rightSorted.sublist dropped.sublist
      have closed : ∀ {whole : List α}, (first :: whole).Pairwise order →
          (right.take count ++ first :: whole).Pairwise order := by
        intro whole wholeSorted
        refine List.pairwise_append.mpr
          ⟨rightSorted.sublist (List.take_sublist _ _), wholeSorted, fun item inFront => ?_⟩
        exact order_of_head wholeSorted (above item inFront) follows.trans
      split at made
      · next whole ended =>
          cases made
          have wholeSorted := rest?_pairwise leftSorted droppedSorted
            (closes.suffix (List.suffix_refl _) dropped) ended
          refine List.pairwise_append.mpr
            ⟨rightSorted.sublist (List.take_sublist _ _), wholeSorted, ?_⟩
          intro item inFront other inWhole
          rcases List.mem_append.mp ((rest?_perm ended).mem_iff.mp inWhole) with inLeft | inRight
          · exact order_of_head leftSorted (above item inFront) follows.trans other inLeft
          · exact order_of_take_drop rightSorted count item inFront other inRight
      · split at made
        · next whole ended =>
            cases made
            have wholeSorted := rest?_pairwise leftsSorted droppedSorted
              (closes.suffix (List.suffix_cons first lefts) dropped) ended
            refine closed (List.pairwise_cons.mpr ⟨fun other inWhole => ?_, wholeSorted⟩)
            exact (List.forall_mem_append.mpr ⟨firstBefore, below⟩) other
              ((rest?_perm ended).mem_iff.mp inWhole)
        · cases made
          exact ⟨⟨List.suffix_cons first lefts, dropped⟩, pairwise_stretch rightSorted above,
            List.forall_mem_append.mpr ⟨firstBefore, below⟩⟩

private theorem move_advances (follows : rule.Follows chosen order)
    (leftChosen : ∀ item ∈ left, chosen item) (rightChosen : ∀ item ∈ right, chosen item)
    (leftSorted : left.Pairwise order) (rightSorted : right.Pairwise order)
    (closes : Closes order rule.closing left right) {pace : Pace}
    (made : move rule pace patience left right = .ok moved) : moved.Advances order left right := by
  unfold move at made
  split at made
  · next whole ended =>
      cases made
      exact rest?_pairwise leftSorted rightSorted closes ended
  · split at made
    · next first lefts second rights _ =>
        have firstChosen := leftChosen first List.mem_cons_self
        have secondChosen := rightChosen second List.mem_cons_self
        cases pace with
        | stepping leftWins rightWins =>
            exact moveByItem_advances follows firstChosen secondChosen leftSorted rightSorted
              made
        | gallopingLeft =>
            exact moveByLeft_advances follows leftChosen secondChosen leftSorted rightSorted
              closes made
        | gallopingRight leftStretch =>
            exact moveByRight_advances follows firstChosen rightChosen leftSorted rightSorted
              closes made
    · next notBoth =>
        cases made
        cases left with
        | nil => exact rightSorted
        | cons first lefts =>
            cases right with
            | nil => exact (List.append_nil (first :: lefts)).symm ▸ leftSorted
            | cons second rights => exact (notBoth first lefts second rights rfl rfl).elim

end

/-! ### Merges -/

/-- Merging two sorted lists by a rule for the order gives a sorted list. Every move takes what
stands before all that is left, and the induction is on the moves. -/
theorem join_pairwise {rule : Rule α ε} (follows : rule.Follows chosen order)
    (pace : Pace) (patience : Nat) (left right : List α) :
    (∀ item ∈ left, chosen item) → (∀ item ∈ right, chosen item) → left.Pairwise order →
      right.Pairwise order → Closes order rule.closing left right →
        ∀ merged, join rule pace patience left right = .ok merged → merged.1.Pairwise order := by
  fun_induction join rule pace patience left right with
  | case1 pace patience left right fault made => intro _ _ _ _ _ merged joined; cases joined
  | case2 pace patience left right items made =>
      intro leftChosen rightChosen leftSorted rightSorted closes merged joined
      cases joined
      exact move_advances follows leftChosen rightChosen leftSorted rightSorted closes made
  | case3 pace patience left right stretch item next rest lefts rights made ih =>
      intro leftChosen rightChosen leftSorted rightSorted closes merged joined
      obtain ⟨found, further, rfl⟩ := of_map_eq_ok joined
      obtain ⟨⟨leftSuffix, rightSuffix⟩, stretchSorted, before⟩ :=
        move_advances follows leftChosen rightChosen leftSorted rightSorted closes made
      have foundSorted := ih (fun other member => leftChosen other (leftSuffix.subset member))
        (fun other member => rightChosen other (rightSuffix.subset member))
        (leftSorted.sublist leftSuffix.sublist) (rightSorted.sublist rightSuffix.sublist)
        (closes.suffix leftSuffix rightSuffix) found further
      have behind : ∀ other ∈ found.1, order item other := fun other member =>
        before other ((join_perm rule next rest lefts rights found further).mem_iff.mp member)
      refine List.pairwise_append.mpr ⟨stretchSorted, foundSorted, ?_⟩
      intro taken inStretch other member
      exact order_of_last stretchSorted (behind other member) follows.trans taken inStretch

theorem fails_eq_ok_iff {tested : Except ε Bool} {answer : Bool} :
    fails tested = .ok answer ↔ tested = .ok (!answer) := by
  cases tested with
  | error fault => simp [fails, Except.map]
  | ok tested => cases tested <;> cases answer <;> simp [fails, Except.map]

/-- Comparing others with an item tells on which side of it they stand. -/
theorem Orders.tells (orders : Orders less chosen order) {item : α} (itemChosen : chosen item)
    {others : List α} (othersChosen : ∀ other ∈ others, chosen other) :
    Tells (fun other => order other item) (fun other => order item other)
      (fun other => less other item) others :=
  fun other member => ⟨orders.before (othersChosen other member) itemChosen,
    orders.behind (othersChosen other member) itemChosen⟩

/-- So does comparing the item with the others. -/
theorem Orders.tells_fails (orders : Orders less chosen order) {item : α}
    (itemChosen : chosen item) {others : List α} (othersChosen : ∀ other ∈ others, chosen other) :
    Tells (fun other => order other item) (fun other => order item other)
      (fun other => fails (less item other)) others := by
  intro other member
  have otherChosen := othersChosen other member
  exact ⟨fun passed => orders.behind itemChosen otherChosen (fails_eq_ok_iff.mp passed),
    fun failed => orders.before itemChosen otherChosen (fails_eq_ok_iff.mp failed)⟩

theorem Orders.parts (orders : Orders less chosen order) {others : List α}
    (sorted : others.Pairwise order) (item : α) :
    Parts (fun other => order other item) (fun other => order item other) others :=
  sorted.imp (fun leftRight => ⟨fun rightItem => orders.trans leftRight rightItem,
    fun itemLeft => orders.trans itemLeft leftRight⟩)

private theorem frontRule_follows (orders : Orders less chosen order) :
    (frontRule less).Follows chosen order where
  trans := orders.trans
  takesRight := fun leftChosen rightChosen =>
    ⟨orders.before rightChosen leftChosen, orders.behind rightChosen leftChosen⟩
  countLeft := fun rightChosen leftsChosen sorted counted =>
    leading_parts (orders.parts sorted _) (orders.tells_fails rightChosen leftsChosen) counted
  countRight := fun leftChosen rightsChosen sorted counted =>
    leading_parts (orders.parts sorted _) (orders.tells leftChosen rightsChosen) counted

/-- Turned round, the runs are in the order turned round. -/
theorem backRule_follows (orders : Orders less chosen order) :
    (backRule less).Follows chosen (fun left right => order right left) where
  trans := orders.flip.trans
  takesRight := fun leftChosen rightChosen =>
    ⟨fun taken => orders.behind rightChosen leftChosen (fails_eq_ok_iff.mp taken),
      fun left => orders.before rightChosen leftChosen (fails_eq_ok_iff.mp left)⟩
  countLeft := fun rightChosen leftsChosen sorted counted =>
    leading_parts (orders.flip.parts sorted _) (orders.flip.tells rightChosen leftsChosen) counted
  countRight := fun leftChosen rightsChosen sorted counted =>
    leading_parts (orders.flip.parts sorted _) (orders.flip.tells_fails leftChosen rightsChosen)
      counted

section

variable {patience : Nat} {left right : List α} {merged : List α × Nat}

/-- What is merged behind an item that stands before all of it is in order with that item. -/
theorem join_behind_pairwise {rule : Rule α ε} (follows : rule.Follows chosen order)
    {item : α} (leftChosen : ∀ other ∈ left, chosen other)
    (rightChosen : ∀ other ∈ right, chosen other) (leftSorted : left.Pairwise order)
    (rightSorted : right.Pairwise order) (closes : Closes order rule.closing left right)
    (before : ∀ other ∈ left ++ right, order item other) {pace : Pace}
    (joined : join rule pace patience left right = .ok merged) :
    (item :: merged.1).Pairwise order := by
  refine List.pairwise_cons.mpr ⟨fun other member => ?_, ?_⟩
  · exact before other ((join_perm _ _ _ _ _ merged joined).mem_iff.mp member)
  · exact join_pairwise follows _ _ _ _ leftChosen rightChosen leftSorted rightSorted closes
      merged joined

/-- The middle of a merge, which the first item of the right run begins and the last item of
the left one ends. -/
theorem mergeMiddle_pairwise (orders : Orders less chosen order) {lefts rights : List α}
    {first last : α} (leftChosen : ∀ item ∈ lefts ++ [last], chosen item)
    (rightChosen : ∀ item ∈ first :: rights, chosen item)
    (leftSorted : (lefts ++ [last]).Pairwise order) (rightSorted : (first :: rights).Pairwise order)
    (above : ∀ item ∈ lefts ++ [last], order first item)
    (below : ∀ item ∈ first :: rights, order item last)
    (done : mergeMiddle less patience (lefts ++ [last]) (first :: rights) = .ok merged) :
    merged.1.Pairwise order := by
  obtain ⟨firstBefore, rightsSorted⟩ := List.pairwise_cons.mp rightSorted
  obtain ⟨leftsSorted, _, lastBehind⟩ := List.pairwise_append.mp leftSorted
  unfold mergeMiddle at done
  split at done
  · obtain ⟨found, joined, rfl⟩ := of_map_eq_ok done
    have closes : Closes order .left (lefts ++ [last]) rights := by
      intro other isLast item member
      rw [List.getLast?_concat, Option.mem_some] at isLast
      exact isLast ▸ below item (List.mem_cons_of_mem first member)
    exact join_behind_pairwise (frontRule_follows orders) leftChosen
      (List.forall_mem_cons.mp rightChosen).2 leftSorted rightsSorted closes
      (List.forall_mem_append.mpr ⟨above, firstBefore⟩) joined
  · obtain ⟨found, joined, rfl⟩ := of_map_eq_ok done
    rw [List.reverse_concat, List.drop_one, List.tail_cons] at joined
    rw [List.reverse_concat, List.take_succ_cons, List.take_zero, List.singleton_append]
    have closes : Closes (fun left right => order right left) .right lefts.reverse
        (first :: rights).reverse := by
      intro other isFirst item member
      rw [List.getLast?_reverse, List.head?_cons, Option.mem_some] at isFirst
      exact isFirst ▸ above item (List.mem_append_left _ (List.mem_reverse.mp member))
    refine List.pairwise_reverse.mpr (join_behind_pairwise (backRule_follows orders) ?_ ?_
      (List.pairwise_reverse.mpr leftsSorted) (List.pairwise_reverse.mpr rightSorted) closes ?_
      joined)
    · exact fun item member =>
        leftChosen item (List.mem_append_left _ (List.mem_reverse.mp member))
    · exact fun item member => rightChosen item (List.mem_reverse.mp member)
    · refine List.forall_mem_append.mpr ⟨fun item member => ?_, fun item member => ?_⟩
      · exact lastBehind item (List.mem_reverse.mp member) last List.mem_cons_self
      · exact below item (List.mem_reverse.mp member)

/-- Between parts of two lists that stay in their places, the other parts are merged. -/
theorem cut_pairwise {stayLeft goLeft goRight stayRight middle : List α}
    (leftSorted : (stayLeft ++ goLeft).Pairwise order)
    (rightSorted : (goRight ++ stayRight).Pairwise order)
    (stayBefore : ∀ item ∈ stayLeft, ∀ other ∈ goRight ++ stayRight, order item other)
    (goBefore : ∀ item ∈ goLeft, ∀ other ∈ stayRight, order item other)
    (middleSorted : middle.Pairwise order) (same : middle.Perm (goLeft ++ goRight)) :
    (stayLeft ++ middle ++ stayRight).Pairwise order := by
  obtain ⟨stayLeftSorted, _, leftCut⟩ := List.pairwise_append.mp leftSorted
  obtain ⟨_, stayRightSorted, rightCut⟩ := List.pairwise_append.mp rightSorted
  rw [List.append_assoc]
  refine List.pairwise_append.mpr ⟨stayLeftSorted, List.pairwise_append.mpr
    ⟨middleSorted, stayRightSorted, fun item inMiddle => ?_⟩, fun item inStay => ?_⟩
  · rcases List.mem_append.mp (same.mem_iff.mp inMiddle) with inLeft | inRight
    · exact goBefore item inLeft
    · exact rightCut item inRight
  · refine List.forall_mem_append.mpr ⟨fun other inMiddle => ?_, fun other inBack => ?_⟩
    · rcases List.mem_append.mp (same.mem_iff.mp inMiddle) with inLeft | inRight
      · exact leftCut item inStay other inLeft
      · exact stayBefore item inStay other (List.mem_append_left _ inRight)
    · exact stayBefore item inStay other (List.mem_append_right _ inBack)

/-- The items that galloping from the back counts stay behind the last item of the left run. -/
theorem leading_reverse_parts (orders : Orders less chosen order) {last : α}
    (lastChosen : chosen last) (rightChosen : ∀ item ∈ right, chosen item)
    (rightSorted : right.Pairwise order) {turned : Bool} {back : Nat}
    (counted : leading (fun item => fails (less item last)) turned right.reverse = .ok back) :
    (∀ item ∈ right.take (right.length - back), order item last) ∧
      ∀ item ∈ right.drop (right.length - back), order last item := by
  obtain ⟨stay, go⟩ := leading_parts
    (orders.flip.parts (List.pairwise_reverse.mpr rightSorted) last)
    (orders.flip.tells_fails lastChosen
      (fun item member => rightChosen item (List.mem_reverse.mp member))) counted
  rw [List.take_reverse] at stay
  rw [List.drop_reverse] at go
  exact ⟨fun item member => go item (List.mem_reverse.mpr member),
    fun item member => stay item (List.mem_reverse.mpr member)⟩

/-- Merging two sorted runs gives a sorted run. -/
theorem merge_pairwise (orders : Orders less chosen order)
    (leftChosen : ∀ item ∈ left, chosen item) (rightChosen : ∀ item ∈ right, chosen item)
    (leftSorted : left.Pairwise order) (rightSorted : right.Pairwise order)
    (done : merge less patience left right = .ok merged) : merged.1.Pairwise order := by
  unfold merge at done
  split at done
  · cases done
    exact leftSorted
  next first rights =>
  split at done
  · cases done
  next front counted =>
  obtain ⟨stay, go⟩ := leading_parts (orders.parts leftSorted first)
    (orders.tells_fails (rightChosen first List.mem_cons_self) leftChosen) counted
  have stayBefore : ∀ item ∈ left.take front, ∀ other ∈ first :: rights, order item other :=
    fun item member => order_of_head rightSorted (stay item member) orders.trans
  have whole := List.take_append_drop front left
  split at done
  · next noLast =>
      cases done
      rw [List.getLast?_eq_none_iff.mp noLast, List.append_nil] at whole
      rw [whole] at stayBefore
      exact List.pairwise_append.mpr ⟨leftSorted, rightSorted, stayBefore⟩
  next last isLast =>
  obtain ⟨lefts, dropped⟩ := List.getLast?_eq_some_iff.mp isLast
  rw [dropped] at whole go
  have droppedSorted : (lefts ++ [last]).Pairwise order :=
    dropped ▸ leftSorted.sublist (List.drop_sublist front left)
  have droppedChosen : ∀ item ∈ lefts ++ [last], chosen item :=
    fun item member => leftChosen item (List.mem_of_mem_drop (dropped ▸ member))
  split at done
  · cases done
  next back countedBack =>
  obtain ⟨goBefore, stayBehind⟩ := leading_reverse_parts orders
    (droppedChosen last List.mem_concat_self) rightChosen rightSorted countedBack
  split at done
  · next noneGoes =>
      cases done
      rw [Nat.sub_eq_zero_of_le noneGoes, List.drop_zero] at stayBehind
      refine List.pairwise_append.mpr ⟨leftSorted, rightSorted, fun item member other inRight => ?_⟩
      rcases List.mem_append.mp (whole.symm ▸ member) with inStay | inGo
      · exact stayBefore item inStay other inRight
      · exact order_of_last droppedSorted (stayBehind other inRight) orders.trans item inGo
  · next someGo =>
      obtain ⟨found, middle, rfl⟩ := of_map_eq_ok done
      obtain ⟨fewer, enough⟩ : ∃ fewer, (first :: rights).length - back = fewer + 1 :=
        ⟨(first :: rights).length - back - 1, by omega⟩
      have cut := List.take_append_drop ((first :: rights).length - back) (first :: rights)
      rw [enough] at cut goBefore stayBehind middle ⊢
      rw [dropped, List.take_succ_cons] at middle
      rw [List.take_succ_cons] at cut goBefore
      have takenSorted : (first :: rights.take fewer).Pairwise order :=
        (cut.symm ▸ rightSorted).sublist (List.sublist_append_left _ _)
      have takenChosen : ∀ item ∈ first :: rights.take fewer, chosen item :=
        fun item member => rightChosen item (cut ▸ List.mem_append_left _ member)
      have middleSorted := mergeMiddle_pairwise orders droppedChosen takenChosen droppedSorted
        takenSorted go goBefore middle
      exact cut_pairwise (whole.symm ▸ leftSorted) (cut.symm ▸ rightSorted)
        (cut.symm ▸ stayBefore)
        (fun item member other inBack =>
          order_of_last droppedSorted (stayBehind other inBack) orders.trans item member)
        middleSorted (mergeMiddle_perm middle)

end

/-! ### The pile -/

structure Ordered (chosen : α → Prop) (order : α → α → Prop) (items : List α) : Prop where
  chosen : ∀ item ∈ items, chosen item
  pairwise : items.Pairwise order

theorem merge_ordered (orders : Orders less chosen order) {patience : Nat} {left right : List α}
    {merged : List α × Nat} (leftOrdered : Ordered chosen order left)
    (rightOrdered : Ordered chosen order right)
    (done : merge less patience left right = .ok merged) :
    Ordered chosen order merged.1 where
  chosen := chosen_of_perm (merge_perm done)
    (List.forall_mem_append.mpr ⟨leftOrdered.chosen, rightOrdered.chosen⟩)
  pairwise := merge_pairwise orders leftOrdered.chosen rightOrdered.chosen leftOrdered.pairwise
    rightOrdered.pairwise done

private theorem settle_ordered (orders : Orders less chosen order) {depth patience : Nat}
    {last : Placed α} {runs : List (Placed α)} {found : List (Placed α) × Nat}
    (lastOrdered : Ordered chosen order last.items)
    (runsOrdered : ∀ run ∈ runs, Ordered chosen order run.items)
    (settled : settle less depth patience last runs = .ok found) :
    ∀ run ∈ found.1, Ordered chosen order run.items := by
  induction runs generalizing last patience with
  | nil =>
      cases settled
      exact List.forall_mem_singleton.mpr lastOrdered
  | cons run runs ih =>
      obtain ⟨runOrdered, othersOrdered⟩ := List.forall_mem_cons.mp runsOrdered
      unfold settle at settled
      split at settled
      · split at settled
        · cases settled
        · next merged =>
            exact ih (merge_ordered orders runOrdered lastOrdered merged) othersOrdered settled
      · cases settled
        exact List.forall_mem_cons.mpr ⟨lastOrdered, runsOrdered⟩

private theorem makeRoom_ordered (orders : Orders less chosen order) {whole length patience : Nat}
    {pile : List (Placed α)} {found : List (Placed α) × Nat}
    (pileOrdered : ∀ run ∈ pile, Ordered chosen order run.items)
    (made : makeRoom less whole length patience pile = .ok found) :
    ∀ run ∈ found.1, Ordered chosen order run.items := by
  cases pile with
  | nil =>
      cases made
      exact pileOrdered
  | cons last runs =>
      obtain ⟨lastOrdered, runsOrdered⟩ := List.forall_mem_cons.mp pileOrdered
      exact settle_ordered orders lastOrdered runsOrdered made

private theorem nextRun_ordered (orders : Orders less chosen order) {least : Nat} {items : List α}
    {found : List α × List α} (itemsChosen : ∀ item ∈ items, chosen item)
    (next : nextRun less least items = .ok found) :
    Ordered chosen order found.1 ∧ ∀ item ∈ found.2, chosen item := by
  have allChosen := List.forall_mem_append.mp (chosen_of_perm (nextRun_perm next) itemsChosen)
  refine ⟨⟨allChosen.1, ?_⟩, allChosen.2⟩
  unfold nextRun at next
  split at next
  · cases next
  · next run left first =>
      obtain ⟨longer, inserted, rfl⟩ := of_map_eq_ok next
      have runChosen := List.forall_mem_append.mp (chosen_of_perm (firstRun_perm first) itemsChosen)
      exact insertAll_pairwise orders runChosen.1
        (fun item member => runChosen.2 item (List.mem_of_mem_take member))
        (firstRun_pairwise orders itemsChosen first) inserted

private theorem collapse_ordered (orders : Orders less chosen order) (patience : Nat)
    (runs : List (List α)) :
    (∀ run ∈ runs, Ordered chosen order run) →
      ∀ items, collapse less patience runs = .ok items → Ordered chosen order items := by
  fun_induction collapse less patience runs with
  | case1 patience =>
      intro _ items collapsed
      cases collapsed
      exact ⟨fun _ member => absurd member List.not_mem_nil, .nil⟩
  | case2 patience only =>
      intro ordered items collapsed
      cases collapsed
      exact ordered only List.mem_cons_self
  | case3 patience last run =>
      intro ordered items collapsed
      obtain ⟨found, merged, rfl⟩ := of_map_eq_ok collapsed
      obtain ⟨lastOrdered, others⟩ := List.forall_mem_cons.mp ordered
      exact merge_ordered orders (others run List.mem_cons_self) lastOrdered merged
  | case4 patience last run first runs shorter fault failed =>
      intro _ items collapsed
      cases collapsed
  | case5 patience last run first runs shorter items next merged ih =>
      intro ordered
      obtain ⟨lastOrdered, others⟩ := List.forall_mem_cons.mp ordered
      obtain ⟨runOrdered, others⟩ := List.forall_mem_cons.mp others
      obtain ⟨firstOrdered, others⟩ := List.forall_mem_cons.mp others
      exact ih (List.forall_mem_cons.mpr ⟨lastOrdered, List.forall_mem_cons.mpr
        ⟨merge_ordered orders firstOrdered runOrdered merged, others⟩⟩)
  | case6 patience last run first runs longer fault failed =>
      intro _ items collapsed
      cases collapsed
  | case7 patience last run first runs longer items next merged ih =>
      intro ordered
      obtain ⟨lastOrdered, others⟩ := List.forall_mem_cons.mp ordered
      obtain ⟨runOrdered, others⟩ := List.forall_mem_cons.mp others
      exact ih (List.forall_mem_cons.mpr
        ⟨merge_ordered orders runOrdered lastOrdered merged, others⟩)

private theorem pileUp_ordered (orders : Orders less chosen order) {whole fuel patience : Nat}
    {pile : List (Placed α)} {items result : List α}
    (pileOrdered : ∀ run ∈ pile, Ordered chosen order run.items)
    (itemsChosen : ∀ item ∈ items, chosen item) (enough : items.length ≤ fuel)
    (piled : pileUp less whole fuel patience pile items = .ok result) :
    Ordered chosen order result := by
  induction fuel generalizing patience pile items with
  | zero =>
      cases List.eq_nil_of_length_eq_zero (Nat.le_zero.mp enough)
      exact collapse_ordered orders patience _ (List.forall_mem_map.mpr pileOrdered) result piled
  | succ fuel ih =>
      cases items with
      | nil =>
          exact collapse_ordered orders patience _ (List.forall_mem_map.mpr pileOrdered) result
            piled
      | cons first items =>
          unfold pileUp at piled
          split at piled
          · cases piled
          · next run left next =>
              split at piled
              · cases piled
              · next room patience made =>
                  have shorter : left.length < (first :: items).length :=
                    nextRun_shorter next (List.cons_ne_nil first items)
                  have found := nextRun_ordered orders itemsChosen next
                  have leftChosen : ∀ item ∈ left, chosen item := found.2
                  refine ih ?_ leftChosen (by omega) piled
                  exact List.forall_mem_cons.mpr
                    ⟨found.1, makeRoom_ordered orders pileOrdered made⟩

/-- Items among which the comparison is that of an order are sorted into this order. -/
theorem sort_pairwise (orders : Orders less chosen order) {items sorted : List α}
    (itemsChosen : ∀ item ∈ items, chosen item) (done : sort less items = .ok sorted) :
    sorted.Pairwise order :=
  (pileUp_ordered orders (fun _ member => absurd member List.not_mem_nil) itemsChosen
    (Nat.le_refl _) done).pairwise

end QueryWarden.Sorting
