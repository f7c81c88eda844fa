/-
Equality of values as a relation. A number can equal one of another type, and `nan` equals nothing
but agrees with itself. Agreement is like equality on values as they come about, whose sets have no
member twice and whose mappings have no name twice: the proof follows the types of values and
filters, and each of them is compared by its parts.
-/

import QueryWarden.Proofs.Value.LikeEquality
import QueryWarden.Value.Equality

namespace QueryWarden

open Number

/-! ### Values as they come about -/

mutual

/-- The members of each set, and the names of each mapping, are told apart wherever one stands
within the value. -/
def Value.IsFormed : Value → Prop
  | .list items | .tuple items => Value.AllFormed items
  | .set items =>
      Value.AllFormed items ∧ items.Pairwise (fun left right => left.agrees right = false)
  | .map entries => Value.EntriesFormed entries ∧ (entries.map Prod.fst).Nodup
  | .filter tree => tree.IsFormed
  | .clause text parameters =>
      text.IsFormed ∧ Value.PairsFormed parameters ∧
        parameters.Pairwise (fun left right => left.1.agrees right.1 = false)
  | .null | .bool _ | .int _ | .float _ | .text _ | .moment _ _ => True
termination_by structural value => value

def Value.AllFormed : List Value → Prop
  | [] => True
  | item :: items => item.IsFormed ∧ Value.AllFormed items
termination_by structural items => items

def Value.EntriesFormed : List (String × Value) → Prop
  | [] => True
  | (_, value) :: entries => value.IsFormed ∧ Value.EntriesFormed entries
termination_by structural entries => entries

def Value.PairsFormed : List (Value × Value) → Prop
  | [] => True
  | (name, value) :: pairs => (name.IsFormed ∧ value.IsFormed) ∧ Value.PairsFormed pairs
termination_by structural pairs => pairs

def Filter.IsFormed : Filter → Prop
  | .compare _ _ value | .compareFolded _ _ value => value.IsFormed
  | .oneOf _ _ values => Value.AllFormed values
  | .matching _ pattern => pattern.IsFormed
  | .anyLabel first others =>
      (first.IsFormed ∧ Value.AllFormed others) ∧
        (first :: others).Pairwise (fun left right => left.agrees right = false)
  | .all first others | .any first others => first.IsFormed ∧ Filter.AllFormed others
  | .negation part => part.IsFormed
  | .bare _ _ => True
termination_by structural filter => filter

def Filter.AllFormed : List Filter → Prop
  | [] => True
  | part :: parts => part.IsFormed ∧ Filter.AllFormed parts
termination_by structural parts => parts

end

/-! ### Comparing collections -/

def Value.Agrees (left right : Value) : Prop :=
  left.agrees right = true

def Filter.Same (left right : Filter) : Prop :=
  left.same right = true

theorem Value.sameItems_iff (lefts rights : List Value) :
    Value.sameItems lefts rights = true ↔ List.Forall₂ Value.Agrees lefts rights := by
  induction lefts generalizing rights with
  | nil =>
      cases rights with
      | nil => simp [Value.sameItems]
      | cons right rights => simp [Value.sameItems]
  | cons left lefts ih =>
      cases rights with
      | nil => simp [Value.sameItems]
      | cons right rights =>
          rw [Value.sameItems, Bool.and_eq_true, ih, List.forall₂_cons]
          rfl

theorem Filter.sameParts_iff (lefts rights : List Filter) :
    Filter.sameParts lefts rights = true ↔ List.Forall₂ Filter.Same lefts rights := by
  induction lefts generalizing rights with
  | nil =>
      cases rights with
      | nil => simp [Filter.sameParts]
      | cons right rights => simp [Filter.sameParts]
  | cons left lefts ih =>
      cases rights with
      | nil => simp [Filter.sameParts]
      | cons right rights =>
          rw [Filter.sameParts, Bool.and_eq_true, ih, List.forall₂_cons]
          rfl

theorem Value.eachAmong_iff (lefts rights : List Value) :
    Value.eachAmong lefts rights = true ↔
      ∀ left ∈ lefts, ∃ right ∈ rights, left.Agrees right := by
  induction lefts with
  | nil => simp [Value.eachAmong]
  | cons left lefts ih =>
      rw [Value.eachAmong, Bool.and_eq_true, ih, List.any_eq_true, List.forall_mem_cons]
      rfl

theorem Value.eachPaired_iff (lefts rights : List (Value × Value)) :
    Value.eachPaired lefts rights = true ↔ ∀ left ∈ lefts, ∃ right,
      rights.find? (fun entry => left.1.agrees entry.1) = some right ∧ left.2.Agrees right.2 := by
  induction lefts with
  | nil => simp [Value.eachPaired]
  | cons left lefts ih =>
      obtain ⟨name, value⟩ := left
      rw [Value.eachPaired, Bool.and_eq_true, ih, List.forall_mem_cons]
      refine and_congr_left fun _ => ?_
      have sought : (fun entry : Value × Value =>
          Value.same name entry.1 || sameMark name entry.1) =
            fun entry => name.agrees entry.1 := rfl
      rw [sought]
      cases rights.find? (fun entry => name.agrees entry.1) with
      | none => simp
      | some right => simp [Value.Agrees, Value.agrees]

private theorem lookup_eq_map_find? (entries : List (String × Value)) (name : String) :
    entries.lookup name = (entries.find? (fun entry => name == entry.1)).map Prod.snd := by
  induction entries with
  | nil => rfl
  | cons entry entries ih =>
      rw [List.lookup_cons, List.find?_cons]
      cases name == entry.1 with
      | true => rfl
      | false => exact ih

theorem Value.eachBound_iff (lefts rights : List (String × Value)) :
    Value.eachBound lefts rights = true ↔ ∀ left ∈ lefts, ∃ right,
      rights.find? (fun entry => left.1 == entry.1) = some right ∧ left.2.Agrees right.2 := by
  induction lefts with
  | nil => simp [Value.eachBound]
  | cons left lefts ih =>
      obtain ⟨name, value⟩ := left
      rw [Value.eachBound, Bool.and_eq_true, ih, List.forall_mem_cons, lookup_eq_map_find?]
      refine and_congr_left fun _ => ?_
      cases rights.find? (fun entry => name == entry.1) with
      | none => simp
      | some right => simp [Value.Agrees, Value.agrees]

/-! ### What a value agrees with -/

namespace Value

/-- A number that measures something agrees with whatever measures the same. -/
theorem agrees_iff_of_quantity {value : Value} {measure : Quantity}
    (measured : value.quantity = some measure) (other : Value) :
    value.Agrees other ↔ other.quantity = some measure := by
  have compared : value.agrees other = sameQuantity (some measure) other.quantity := by
    cases value with
    | bool value =>
        rw [← measured]
        exact Bool.or_false _
    | int value =>
        rw [← measured]
        exact Bool.or_false _
    | float value =>
        cases value with
        | nan mark => cases measured
        | infinite negative =>
            rw [← measured]
            exact Bool.or_false _
        | finite negative significand exponent =>
            rw [← measured]
            exact Bool.or_false _
    | _ => cases measured
  rw [Agrees, compared]
  cases other.quantity with
  | none => simp [sameQuantity]
  | some found => simp [sameQuantity, eq_comm]

theorem likeEquality_of_quantity {value : Value} {measure : Quantity}
    (measured : value.quantity = some measure) : LikeEquality Agrees value := by
  constructor
  · exact (agrees_iff_of_quantity measured value).mpr measured
  · intro other agree
    have again := (agrees_iff_of_quantity measured other).mp agree
    exact (agrees_iff_of_quantity again value).mpr measured
  · intro other third agree further
    have again := (agrees_iff_of_quantity measured other).mp agree
    exact (agrees_iff_of_quantity measured third).mpr
      ((agrees_iff_of_quantity again third).mp further)
  · intro other third agree further
    have again := (agrees_iff_of_quantity measured other).mp agree
    exact (agrees_iff_of_quantity again third).mpr
      ((agrees_iff_of_quantity measured third).mp further)

private theorem likeEquality_nan (mark : Nat) : LikeEquality Agrees (.float (.nan mark)) := by
  apply LikeEquality.of_eq_iff
  intro other
  have onlyMark : (Value.float (.nan mark)).agrees other = sameMark (.float (.nan mark)) other := rfl
  rw [Agrees, onlyMark]
  cases other with
  | float other =>
      cases other with
      | nan otherMark => simp [sameMark, eq_comm (a := mark)]
      | infinite negative => simp [sameMark]
      | finite negative significand exponent => simp [sameMark]
  | _ => simp [sameMark]

theorem agrees_text_iff (text : String) (other : Value) :
    (Value.text text).Agrees other ↔ other = .text text := by
  cases other <;> simp [Agrees, agrees, same, sameMark, eq_comm (a := text)]

theorem agrees_moment_iff (kind : Moment) (written : String) (other : Value) :
    (Value.moment kind written).Agrees other ↔ other = .moment kind written := by
  cases other <;>
    simp [Agrees, agrees, same, sameMark, eq_comm (a := kind), eq_comm (a := written)]

theorem agrees_list_iff (items : List Value) (other : Value) :
    (Value.list items).Agrees other ↔
      ∃ others, other = .list others ∧ List.Forall₂ Agrees items others := by
  cases other <;> simp [Agrees, agrees, same, sameMark, sameItems_iff]

theorem agrees_tuple_iff (items : List Value) (other : Value) :
    (Value.tuple items).Agrees other ↔
      ∃ others, other = .tuple others ∧ List.Forall₂ Agrees items others := by
  cases other <;> simp [Agrees, agrees, same, sameMark, sameItems_iff]

theorem agrees_set_iff (items : List Value) (other : Value) :
    (Value.set items).Agrees other ↔
      ∃ others, other = .set others ∧ LikeEquality.SameMembers Agrees items others := by
  cases other <;> simp [Agrees, agrees, same, sameMark, eachAmong_iff, LikeEquality.SameMembers]

theorem agrees_map_iff (entries : List (String × Value)) (other : Value) :
    (Value.map entries).Agrees other ↔ ∃ others, other = .map others ∧
      LikeEquality.SameBound (fun left right => left == right) Agrees entries others := by
  cases other <;> simp [Agrees, agrees, same, sameMark, eachBound_iff, LikeEquality.SameBound]

theorem agrees_clause_iff (text : Value) (parameters : List (Value × Value)) (other : Value) :
    (Value.clause text parameters).Agrees other ↔
      ∃ otherText others, other = .clause otherText others ∧
        text.Agrees otherText ∧ LikeEquality.SameBound agrees Agrees parameters others := by
  cases other with
  | clause otherText others =>
      have byParts : (Value.clause text parameters).agrees (.clause otherText others) =
          (text.agrees otherText && parameters.length == others.length &&
            eachPaired parameters others) := Bool.or_false _
      rw [Agrees, byParts, Bool.and_eq_true, Bool.and_eq_true, eachPaired_iff, beq_iff_eq]
      simp [Agrees, LikeEquality.SameBound, and_assoc]
  | _ => simp [Agrees, agrees, same, sameMark]

theorem agrees_filter_iff (tree : Filter) (other : Value) :
    (Value.filter tree).Agrees other ↔ ∃ otherTree, other = .filter otherTree ∧
      tree.Same otherTree := by
  cases other <;> simp [Agrees, agrees, same, sameMark, Filter.Same]

end Value

/-! ### What a filter is the same as -/

namespace Filter

theorem same_compare_iff (comparison : Comparison) (key : Identifier) (value : Value)
    (other : Filter) :
    (Filter.compare comparison key value).Same other ↔
      ∃ otherValue, other = .compare comparison key otherValue ∧ value.Agrees otherValue := by
  cases other <;>
    simp [Same, same, Value.Agrees, Value.agrees, eq_comm (a := comparison), eq_comm (a := key),
      and_assoc]

theorem same_compareFolded_iff (comparison : FoldedComparison) (key : Identifier) (value : Value)
    (other : Filter) :
    (Filter.compareFolded comparison key value).Same other ↔
      ∃ otherValue, other = .compareFolded comparison key otherValue ∧
        value.Agrees otherValue := by
  cases other <;>
    simp [Same, same, Value.Agrees, Value.agrees, eq_comm (a := comparison), eq_comm (a := key),
      and_assoc]

theorem same_oneOf_iff (negated : Bool) (key : Identifier) (values : List Value)
    (other : Filter) :
    (Filter.oneOf negated key values).Same other ↔
      ∃ otherValues, other = .oneOf negated key otherValues ∧
        List.Forall₂ Value.Agrees values otherValues := by
  cases other <;>
    simp [Same, same, Value.sameItems_iff, eq_comm (a := negated), eq_comm (a := key), and_assoc]

theorem same_matching_iff (key : Identifier) (pattern : Value) (other : Filter) :
    (Filter.matching key pattern).Same other ↔
      ∃ otherPattern, other = .matching key otherPattern ∧ pattern.Agrees otherPattern := by
  cases other <;>
    simp [Same, same, Value.Agrees, Value.agrees, eq_comm (a := key), and_assoc]

theorem same_anyLabel_iff (labels : Value × List Value) (other : Filter) :
    (Filter.anyLabel labels.1 labels.2).Same other ↔
      ∃ others : Value × List Value, other = .anyLabel others.1 others.2 ∧
        LikeEquality.SameMembers Value.Agrees (labels.1 :: labels.2) (others.1 :: others.2) := by
  cases other <;>
    simp [Same, same, Value.Agrees, Value.agrees, Value.eachAmong_iff, LikeEquality.SameMembers,
      and_assoc]

theorem same_all_iff (first : Filter) (parts : List Filter) (other : Filter) :
    (Filter.all first parts).Same other ↔
      ∃ otherFirst others, other = .all otherFirst others ∧
        first.Same otherFirst ∧ List.Forall₂ Same parts others := by
  cases other <;> simp [Same, same, sameParts_iff]

theorem same_any_iff (first : Filter) (parts : List Filter) (other : Filter) :
    (Filter.any first parts).Same other ↔
      ∃ otherFirst others, other = .any otherFirst others ∧
        first.Same otherFirst ∧ List.Forall₂ Same parts others := by
  cases other <;> simp [Same, same, sameParts_iff]

theorem same_negation_iff (part other : Filter) :
    (Filter.negation part).Same other ↔
      ∃ otherPart, other = .negation otherPart ∧ part.Same otherPart := by
  cases other <;> simp [Same, same]

end Filter

/-! ### Like equality -/

namespace Value

private theorem isMapping_entries {entries : List (String × Value)}
    (laws : ∀ entry ∈ entries, LikeEquality Agrees entry.2)
    (distinct : (entries.map Prod.fst).Nodup) :
    LikeEquality.IsMapping (fun left right => left == right) Agrees entries where
  names := by
    intro entry _
    apply LikeEquality.of_eq_iff
    intro other
    rw [beq_iff_eq, eq_comm]
  bound := laws
  apart := by
    apply (List.pairwise_map.mp distinct).imp
    intro left right different
    exact beq_eq_false_iff_ne.mpr different

private theorem isMapping_pairs {pairs : List (Value × Value)}
    (laws : ∀ pair ∈ pairs, LikeEquality Agrees pair.1 ∧ LikeEquality Agrees pair.2)
    (apart : pairs.Pairwise (fun left right => left.1.agrees right.1 = false)) :
    LikeEquality.IsMapping agrees Agrees pairs where
  names := fun pair member => (laws pair member).1
  bound := fun pair member => (laws pair member).2
  apart := apart

private theorem not_agrees_of_apart {items : List Value}
    (apart : items.Pairwise (fun left right => left.agrees right = false)) :
    items.Pairwise (fun left right => ¬left.Agrees right) :=
  apart.imp (fun different => Bool.eq_false_iff.mp different)

private theorem likeEquality_float (value : Double) : LikeEquality Agrees (.float value) := by
  cases value with
  | nan mark => exact likeEquality_nan mark
  | infinite negative =>
      have measured : (Value.float (.infinite negative)).quantity =
        some (if negative then .belowAll else .aboveAll) := by
        cases negative <;> rfl
      exact likeEquality_of_quantity measured
  | finite negative significand exponent =>
      exact likeEquality_of_quantity rfl

end Value

mutual

/-- Agreement is like equality on a formed value: whether two values agree is said by their parts,
and of the parts it is known already. -/
theorem Value.likeEquality (value : Value) (formed : value.IsFormed) :
    LikeEquality Value.Agrees value := by
  cases value with
  | null => exact .of_eq_iff Value.agrees_null_iff
  | bool value => exact Value.likeEquality_of_quantity rfl
  | int value => exact Value.likeEquality_of_quantity rfl
  | float value => exact Value.likeEquality_float value
  | text text => exact .of_eq_iff (Value.agrees_text_iff text)
  | moment kind written => exact .of_eq_iff (Value.agrees_moment_iff kind written)
  | list items =>
      apply LikeEquality.of_make Value.agrees_list_iff
      exact .forall₂ (Value.allLikeEquality items formed)
  | tuple items =>
      apply LikeEquality.of_make Value.agrees_tuple_iff
      exact .forall₂ (Value.allLikeEquality items formed)
  | set items =>
      obtain ⟨allFormed, apart⟩ := formed
      apply LikeEquality.of_make Value.agrees_set_iff
      apply LikeEquality.sameMembers (Value.allLikeEquality items allFormed)
      exact Value.not_agrees_of_apart apart
  | map entries =>
      obtain ⟨allFormed, distinct⟩ := formed
      have laws := Value.entriesLikeEquality entries allFormed
      apply LikeEquality.of_make Value.agrees_map_iff
      exact .sameBound (Value.isMapping_entries laws distinct)
  | filter tree =>
      apply LikeEquality.of_make Value.agrees_filter_iff
      exact Filter.likeEquality tree formed
  | clause text parameters =>
      obtain ⟨textFormed, allFormed, apart⟩ := formed
      have laws := Value.pairsLikeEquality parameters allFormed
      apply LikeEquality.of_makePair Value.agrees_clause_iff (Value.likeEquality text textFormed)
      exact .sameBound (Value.isMapping_pairs laws apart)
termination_by structural value

theorem Value.allLikeEquality (items : List Value) (formed : Value.AllFormed items) :
    ∀ item ∈ items, LikeEquality Value.Agrees item := by
  cases items with
  | nil => exact List.forall_mem_nil _
  | cons item items =>
      obtain ⟨itemFormed, allFormed⟩ := formed
      rw [List.forall_mem_cons]
      exact ⟨Value.likeEquality item itemFormed, Value.allLikeEquality items allFormed⟩
termination_by structural items

theorem Value.entriesLikeEquality (entries : List (String × Value))
    (formed : Value.EntriesFormed entries) :
    ∀ entry ∈ entries, LikeEquality Value.Agrees entry.2 := by
  cases entries with
  | nil => exact List.forall_mem_nil _
  | cons entry entries =>
      cases entry with
      | mk name value =>
          obtain ⟨valueFormed, allFormed⟩ := formed
          rw [List.forall_mem_cons]
          exact ⟨Value.likeEquality value valueFormed, Value.entriesLikeEquality entries allFormed⟩
termination_by structural entries

theorem Value.pairsLikeEquality (pairs : List (Value × Value)) (formed : Value.PairsFormed pairs) :
    ∀ pair ∈ pairs, LikeEquality Value.Agrees pair.1 ∧ LikeEquality Value.Agrees pair.2 := by
  cases pairs with
  | nil => exact List.forall_mem_nil _
  | cons pair pairs =>
      cases pair with
      | mk name value =>
          obtain ⟨⟨nameFormed, valueFormed⟩, allFormed⟩ := formed
          have both := And.intro (Value.likeEquality name nameFormed)
            (Value.likeEquality value valueFormed)
          exact List.forall_mem_cons.mpr ⟨both, Value.pairsLikeEquality pairs allFormed⟩
termination_by structural pairs

theorem Filter.likeEquality (filter : Filter) (formed : filter.IsFormed) :
    LikeEquality Filter.Same filter := by
  cases filter with
  | compare comparison key value =>
      apply LikeEquality.of_make (Filter.same_compare_iff comparison key)
      exact Value.likeEquality value formed
  | compareFolded comparison key value =>
      apply LikeEquality.of_make (Filter.same_compareFolded_iff comparison key)
      exact Value.likeEquality value formed
  | oneOf negated key values =>
      apply LikeEquality.of_make (Filter.same_oneOf_iff negated key)
      exact .forall₂ (Value.allLikeEquality values formed)
  | matching key pattern =>
      apply LikeEquality.of_make (Filter.same_matching_iff key)
      exact Value.likeEquality pattern formed
  | anyLabel first others =>
      obtain ⟨⟨firstFormed, allFormed⟩, apart⟩ := formed
      have laws := List.forall_mem_cons.mpr
        ⟨Value.likeEquality first firstFormed, Value.allLikeEquality others allFormed⟩
      have labels : LikeEquality (LikeEquality.SameMembers Value.Agrees) (first :: others) :=
        .sameMembers laws (Value.not_agrees_of_apart apart)
      have viewed := LikeEquality.comap (fun labels : Value × List Value => labels.1 :: labels.2)
        (first, others) labels
      exact .of_make Filter.same_anyLabel_iff viewed
  | all first others =>
      obtain ⟨firstFormed, allFormed⟩ := formed
      apply LikeEquality.of_makePair Filter.same_all_iff (Filter.likeEquality first firstFormed)
      exact .forall₂ (Filter.allLikeEquality others allFormed)
  | any first others =>
      obtain ⟨firstFormed, allFormed⟩ := formed
      apply LikeEquality.of_makePair Filter.same_any_iff (Filter.likeEquality first firstFormed)
      exact .forall₂ (Filter.allLikeEquality others allFormed)
  | negation part =>
      apply LikeEquality.of_make Filter.same_negation_iff
      exact Filter.likeEquality part formed
  | bare kind mark => exact .of_eq_iff (Filter.same_bare_iff kind mark)
termination_by structural filter

theorem Filter.allLikeEquality (parts : List Filter) (formed : Filter.AllFormed parts) :
    ∀ part ∈ parts, LikeEquality Filter.Same part := by
  cases parts with
  | nil => exact List.forall_mem_nil _
  | cons part parts =>
      obtain ⟨partFormed, allFormed⟩ := formed
      rw [List.forall_mem_cons]
      exact ⟨Filter.likeEquality part partFormed, Filter.allLikeEquality parts allFormed⟩
termination_by structural parts

end

/-! ### Equality -/

namespace Value

theorem agrees_of_same {left right : Value} (same : left.same right = true) :
    left.Agrees right := by
  rw [Agrees, agrees, same, Bool.true_or]

/-- Two values that are one `nan` equal nothing. -/
theorem not_same_of_sameMark {left right : Value} (marked : sameMark left right = true)
    (other : Value) : left.same other = false ∧ right.same other = false := by
  unfold sameMark at marked
  split at marked
  · exact ⟨rfl, rfl⟩
  · cases marked

private theorem same_of_agrees {left right : Value} (agree : left.Agrees right) {other : Value}
    (equalsOther : left.same other = true ∨ right.same other = true) :
    left.same right = true := by
  rcases Bool.or_eq_true_iff.mp agree with same | marked
  · exact same
  · obtain ⟨leftDiffers, rightDiffers⟩ := not_same_of_sameMark marked other
    simp [leftDiffers, rightDiffers] at equalsOther

theorem same_symm {left right : Value} (formed : left.IsFormed)
    (same : left.same right = true) : right.same left = true := by
  have back := (likeEquality left formed).symm right (agrees_of_same same)
  exact same_of_agrees back (.inr same)

theorem same_trans {left middle right : Value} (formed : left.IsFormed)
    (same : left.same middle = true) (further : middle.same right = true) :
    left.same right = true := by
  have agree := (likeEquality left formed).trans middle right (agrees_of_same same)
    (agrees_of_same further)
  exact same_of_agrees agree (.inl same)

/-- Two mappings are equal when they bind the same names, and to values that agree. -/
theorem same_map_iff (lefts rights : List (String × Value)) :
    (Value.map lefts).same (.map rights) = true ↔ lefts.length = rights.length ∧
      ∀ name left, (name, left) ∈ lefts →
        ∃ right, rights.lookup name = some right ∧ left.Agrees right := by
  have byBindings : (Value.map lefts).same (.map rights) =
      (lefts.length == rights.length && eachBound lefts rights) := rfl
  rw [byBindings, Bool.and_eq_true, beq_iff_eq, eachBound_iff, Prod.forall]
  simp only [lookup_eq_map_find?, Option.map_eq_some_iff, exists_exists_and_eq_and]

end Value

end QueryWarden
