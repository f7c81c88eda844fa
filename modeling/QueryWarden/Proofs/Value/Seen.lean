/-
What a query sees of a value. Truth values, integers and floating numbers are different types
there, and so one and the same number is up to three different values; lists have no other form,
and the entries of a mapping have no order. Equal values are seen as the same value exactly when
their numbers are of the same types in the same places.
-/

import QueryWarden.Value.Equality

namespace QueryWarden

open Number

/-- A value as a query is given it. What no query can be given stays as it is. -/
inductive Seen where
  | null
  | boolean (value : Bool)
  | integer (value : Int)
  | float (negative : Bool) (measure : Option Quantity)
  | text (value : String)
  | list (items : List Seen)
  | map (bound : String → Option Seen)
  | moment (kind : Moment) (written : String)
  | foreign (value : Value)

def Number.Double.isNegative : Double → Bool
  | .nan _ => false
  | .infinite negative => negative
  | .finite negative _ _ => negative

mutual

def Value.seen : Value → Seen
  | .null => .null
  | .bool value => .boolean value
  | .int value => .integer value
  | .float value => .float value.isNegative value.quantity
  | .text value => .text value
  | .list items | .tuple items => .list (Value.seenItems items)
  | .map entries => .map (Value.seenEntries entries)
  | .moment kind written => .moment kind written
  | .set items => .foreign (.set items)
  | .filter tree => .foreign (.filter tree)
  | .clause wording parameters => .foreign (.clause wording parameters)
termination_by structural value => value

def Value.seenItems : List Value → List Seen
  | [] => []
  | item :: items => item.seen :: Value.seenItems items
termination_by structural items => items

def Value.seenEntries : List (String × Value) → String → Option Seen
  | [], _ => none
  | (name, value) :: entries, wanted =>
      if wanted = name then some value.seen else Value.seenEntries entries wanted
termination_by structural entries => entries

end

mutual

/-- What is left when all numbers of one type are taken for the same. The sign of a floating
number is kept, since a zero can have either. -/
def Seen.form : Seen → Seen
  | .boolean _ => .boolean false
  | .integer _ => .integer 0
  | .float negative _ => .float negative none
  | .list items => .list (Seen.forms items)
  | .map bound => .map (fun name => Seen.form? (bound name))
  | seen => seen
termination_by structural seen => seen

def Seen.forms : List Seen → List Seen
  | [] => []
  | item :: items => item.form :: Seen.forms items
termination_by structural items => items

def Seen.form? : Option Seen → Option Seen
  | none => none
  | some seen => some seen.form
termination_by structural seen => seen

end

/-! ### Equal numbers -/

private theorem eq_of_sameQuantity {left right : Option Quantity}
    (same : sameQuantity left right = true) : left = right := by
  cases left with
  | none => cases same
  | some left =>
      cases right with
      | none => cases same
      | some right => exact congrArg some (of_decide_eq_true same)

private theorem Value.seen_of_agrees_float {left right : Double}
    (agree : (Value.float left).agrees (.float right) = true)
    (negative : left.isNegative = right.isNegative) :
    (Value.float left).seen = (Value.float right).seen := by
  rcases Bool.or_eq_true_iff.mp agree with same | sameMark
  · have quantity : left.quantity = right.quantity := eq_of_sameQuantity same
    simp only [Value.seen, negative, quantity]
  · cases left with
    | nan mark =>
        cases right with
        | nan other => rfl
        | infinite _ => cases sameMark
        | finite _ _ _ => cases sameMark
    | infinite _ => cases sameMark
    | finite _ _ _ => cases sameMark

/-! ### Equal values -/

theorem Value.lookup_seenEntries (entries : List (String × Value)) (name : String) :
    Value.seenEntries entries name = (entries.lookup name).map Value.seen := by
  induction entries with
  | nil => rfl
  | cons entry entries ih =>
      rw [Value.seenEntries, List.lookup_cons]
      by_cases same : name = entry.1
      · rw [if_pos same, beq_iff_eq.mpr same]
        rfl
      · rw [if_neg same, beq_eq_false_iff_ne.mpr same, ih]

private theorem Value.seen_of_agrees_int {left right : Int}
    (agree : (Value.int left).agrees (.int right) = true) :
    (Value.int left).seen = (Value.int right).seen := by
  rcases Bool.or_eq_true_iff.mp agree with same | sameMark
  · have measured : Quantity.rational left = .rational right :=
      Option.some.inj (eq_of_sameQuantity same)
    rw [Rat.intCast_inj.mp (Quantity.rational.inj measured)]
  · cases sameMark

mutual

/-- Equal values are seen alike as soon as their numbers are of the same types. -/
theorem Value.seen_eq_of_agrees (left right : Value) (agree : left.agrees right = true)
    (form : left.seen.form = right.seen.form) : left.seen = right.seen := by
  -- values of unlike types never agree, except for numbers, and these differ in form
  match left with
  | .null =>
      cases right with
      | null => rfl
      | _ => cases agree
  | .bool value =>
      cases right with
      | bool other =>
          cases value with
          | false =>
              cases other with
              | false => rfl
              | true => cases agree
          | true =>
              cases other with
              | false => cases agree
              | true => rfl
      | int _ => cases form
      | float _ => cases form
      | _ => cases agree
  | .int value =>
      cases right with
      | int other => exact Value.seen_of_agrees_int agree
      | bool _ => cases form
      | float _ => cases form
      | _ => cases agree
  | .float value =>
      cases right with
      | float other => exact Value.seen_of_agrees_float agree (Seen.float.inj form).1
      | _ => cases form
  | .text value =>
      cases right with
      | text other => rw [eq_of_beq ((Value.agrees_text value other).symm.trans agree)]
      | _ => cases agree
  | .list items =>
      cases right with
      | list others =>
          have sameItems := (Bool.or_eq_true_iff.mp agree).resolve_right Bool.false_ne_true
          exact congrArg Seen.list (Value.seenItems_eq_of_same items others sameItems
            (Seen.list.inj form))
      | _ => cases agree
  | .tuple items =>
      cases right with
      | tuple others =>
          have sameItems := (Bool.or_eq_true_iff.mp agree).resolve_right Bool.false_ne_true
          exact congrArg Seen.list (Value.seenItems_eq_of_same items others sameItems
            (Seen.list.inj form))
      | _ => cases agree
  | .map entries =>
      cases right with
      | map others =>
          have sameEntries := (Bool.or_eq_true_iff.mp agree).resolve_right Bool.false_ne_true
          apply congrArg Seen.map
          funext name
          exact Value.seenEntries_eq_of_same entries others
            (Bool.and_eq_true_iff.mp sameEntries).2 name (congrFun (Seen.map.inj form) name)
      | _ => cases agree
  | .moment kind written =>
      cases right with
      | moment otherKind other => exact form
      | _ => cases agree
  | .set items =>
      cases right with
      | set others => exact form
      | _ => cases agree
  | .filter tree =>
      cases right with
      | filter other => exact form
      | _ => cases agree
  | .clause wording parameters =>
      cases right with
      | clause otherWording otherParameters => exact form
      | _ => cases agree
termination_by structural left

theorem Value.seenItems_eq_of_same (lefts rights : List Value)
    (same : Value.sameItems lefts rights = true)
    (forms : Seen.forms (Value.seenItems lefts) = Seen.forms (Value.seenItems rights)) :
    Value.seenItems lefts = Value.seenItems rights := by
  match lefts with
  | [] =>
      cases rights with
      | nil => rfl
      | cons right rights => cases same
  | left :: lefts =>
      cases rights with
      | nil => cases same
      | cons right rights =>
          have both := Bool.and_eq_true_iff.mp same
          have parts := List.cons.inj forms
          rw [Value.seenItems, Value.seenItems,
            Value.seen_eq_of_agrees left right both.1 parts.1,
            Value.seenItems_eq_of_same lefts rights both.2 parts.2]
termination_by structural lefts

theorem Value.seenEntries_eq_of_same (lefts rights : List (String × Value))
    (same : Value.eachBound lefts rights = true) (wanted : String)
    (form : Seen.form? (Value.seenEntries lefts wanted) =
      Seen.form? (Value.seenEntries rights wanted)) :
    Value.seenEntries lefts wanted = Value.seenEntries rights wanted := by
  match lefts with
  | [] =>
      cases bound : Value.seenEntries rights wanted with
      | none => rfl
      | some right =>
          rw [bound] at form
          cases form
  | (name, left) :: lefts =>
      have both := Bool.and_eq_true_iff.mp same
      by_cases here : wanted = name
      · have agree := both.1
        rw [here, Value.seenEntries, if_pos rfl, Value.lookup_seenEntries] at form
        rw [here, Value.seenEntries, if_pos rfl, Value.lookup_seenEntries]
        cases found : rights.lookup name with
        | none =>
            rw [found] at agree
            cases agree
        | some right =>
            rw [found] at agree form
            exact congrArg some
              (Value.seen_eq_of_agrees left right agree (Option.some.inj form))
      · rw [Value.seenEntries, if_neg here] at form ⊢
        exact Value.seenEntries_eq_of_same lefts rights both.2 wanted form
termination_by structural lefts

end

end QueryWarden
