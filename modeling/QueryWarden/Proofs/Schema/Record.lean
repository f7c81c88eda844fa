/-
Records that are accepted. What an accepted record holds is exactly what its fields say: no
field is left out, and no value takes the place of another.
-/

import QueryWarden.Proofs.Result
import QueryWarden.Schema.Record

namespace QueryWarden

namespace Checked

variable {α β γ δ ε : Type}

theorem both_eq_ok_iff {left : Checked α} {right : Checked β} {pair : α × β} :
    both left right = .ok pair ↔ left = .ok pair.1 ∧ right = .ok pair.2 := by
  obtain ⟨first, second⟩ := pair
  cases left with
  | ok found =>
      cases right with
      | ok other => simp only [both, Except.ok.injEq, Prod.mk.injEq]
      | error problems => simp only [both, reduceCtorEq, and_false]
  | error problems =>
      cases right with
      | ok other => simp only [both, reduceCtorEq, false_and]
      | error more => simp only [both, reduceCtorEq, false_and]

/-- A record of four fields, each of which has to be right. -/
theorem four_eq_ok_iff {first : Checked α} {second : Checked β} {third : Checked γ}
    {fourth : Checked δ} {make : (α × β) × (γ × δ) → ε} {made : ε} :
    (both (both first second) (both third fourth)).map make = .ok made ↔
      ∃ one two three four, first = .ok one ∧ second = .ok two ∧ third = .ok three ∧
        fourth = .ok four ∧ make ((one, two), (three, four)) = made := by
  rw [map_eq_ok_iff]
  constructor
  · rintro ⟨⟨⟨one, two⟩, three, four⟩, passed, rfl⟩
    obtain ⟨left, right⟩ := both_eq_ok_iff.mp passed
    obtain ⟨passedOne, passedTwo⟩ := both_eq_ok_iff.mp left
    obtain ⟨passedThree, passedFour⟩ := both_eq_ok_iff.mp right
    exact ⟨one, two, three, four, passedOne, passedTwo, passedThree, passedFour, rfl⟩
  · rintro ⟨one, two, three, four, passedOne, passedTwo, passedThree, passedFour, rfl⟩
    exact ⟨((one, two), (three, four)),
      both_eq_ok_iff.mpr ⟨both_eq_ok_iff.mpr ⟨passedOne, passedTwo⟩,
        both_eq_ok_iff.mpr ⟨passedThree, passedFour⟩⟩, rfl⟩

theorem under_eq_ok_iff {step : Step} {checked : Checked α} {value : α} :
    under step checked = .ok value ↔ checked = .ok value :=
  mapError_eq_ok_iff

theorem text_eq_ok_iff {value : Value} {text : String} :
    Checked.text value = .ok text ↔ value = .text text := by
  cases value with
  | text found => simp only [Checked.text, Except.ok.injEq, Value.text.injEq]
  | _ => simp only [Checked.text, fail, reduceCtorEq]

theorem required_eq_ok_iff {name : String} {check : Value → Checked α} {value : Option Value}
    {made : α} :
    required name check value = .ok made ↔
      ∃ given, value = some given ∧ check given = .ok made := by
  unfold required
  rw [under_eq_ok_iff]
  cases value with
  | none => simp only [fail, reduceCtorEq, false_and, exists_false]
  | some given => simp only [Option.some.injEq, exists_eq_left']

theorem optional_eq_ok_iff {name : String} {check : Value → Checked α} {default made : α}
    {value : Option Value} :
    optional name check default value = .ok made ↔
      (value = none ∧ default = made) ∨ ∃ given, value = some given ∧ check given = .ok made := by
  unfold optional
  rw [under_eq_ok_iff]
  cases value with
  | none => simp only [Except.ok.injEq, true_and, reduceCtorEq, false_and, exists_false, or_false]
  | some given => simp only [Option.some.injEq, exists_eq_left', reduceCtorEq, false_and, false_or]

theorem items_text_eq_ok_iff {items : List Value} {place : Nat} {texts : List String} :
    Checked.items Checked.text place items = .ok texts ↔ items = texts.map .text := by
  induction items generalizing place texts with
  | nil =>
      cases texts with
      | nil => simp only [Checked.items, List.map_nil]
      | cons text texts => simp only [Checked.items, List.map_cons, reduceCtorEq, Except.ok.injEq]
  | cons item items ih =>
      rw [Checked.items, map_eq_ok_iff]
      constructor
      · rintro ⟨⟨first, others⟩, passed, rfl⟩
        obtain ⟨isText, areTexts⟩ := both_eq_ok_iff.mp passed
        rw [text_eq_ok_iff.mp (under_eq_ok_iff.mp isText), ih.mp areTexts]
        rfl
      · intro same
        cases texts with
        | nil => cases same
        | cons text texts =>
            obtain ⟨rfl, rfl⟩ := List.cons_eq_cons.mp same
            exact ⟨(text, texts), both_eq_ok_iff.mpr ⟨rfl, ih.mpr rfl⟩, rfl⟩

theorem required_text_eq_ok_iff {name text : String} {value : Option Value} :
    required name Checked.text value = .ok text ↔ value = some (.text text) := by
  rw [required_eq_ok_iff]
  constructor
  · rintro ⟨given, rfl, isText⟩
    rw [text_eq_ok_iff.mp isText]
  · rintro rfl
    exact ⟨_, rfl, rfl⟩

theorem optional_text_eq_ok_iff {name text : String} {value : Option Value} :
    optional name Checked.text "" value = .ok text ↔ value.getD (.text "") = .text text := by
  rw [optional_eq_ok_iff]
  cases value with
  | none =>
      simp only [true_and, reduceCtorEq, false_and, exists_false, or_false, Option.getD_none,
        Value.text.injEq]
  | some given =>
      simp only [reduceCtorEq, false_and, false_or, Option.some.injEq, exists_eq_left',
        Option.getD_some, text_eq_ok_iff]

end Checked

open Checked

/-- A node type from the labels it has been found to carry and the rest of its fields. -/
theorem NodeType.ofFields_eq_ok_iff {label : String} {labels : List String} {description : Value}
    {properties : List Value} {nodeType : NodeType} :
    NodeType.ofFields [("label", .text label), ("labels", .ofTexts labels),
      ("description", description), ("properties", .tuple properties)] = .ok nodeType ↔
      nodeType.label = label ∧ nodeType.labels = sortedSet labels ∧
        description = .text nodeType.description ∧
          properties = nodeType.properties.map .text := by
  have sorted : textSet (.ofTexts labels) = .ok (sortedSet labels) := by
    change (Checked.items Checked.text 0 (labels.map Value.text)).map sortedSet = _
    rw [items_text_eq_ok_iff.mpr rfl]
    rfl
  unfold NodeType.ofFields
  rw [four_eq_ok_iff]
  constructor
  · rintro ⟨_, _, _, _, isLabel, areLabels, described, listed, rfl⟩
    have areSorted := sorted.symm.trans (under_eq_ok_iff.mp areLabels)
    exact ⟨(Except.ok.inj isLabel).symm, (Except.ok.inj areSorted).symm,
      optional_text_eq_ok_iff.mp described,
      items_text_eq_ok_iff.mp (under_eq_ok_iff.mp listed)⟩
  · rintro ⟨rfl, areSorted, described, listed⟩
    refine ⟨_, _, _, _, rfl, under_eq_ok_iff.mpr sorted,
      optional_text_eq_ok_iff.mpr described,
      under_eq_ok_iff.mpr (items_text_eq_ok_iff.mpr listed), ?_⟩
    rw [← areSorted]

/-- A relationship type from its fields, of which the description may be missing. -/
theorem RelationshipType.ofFields_eq_ok_iff {fields : Bindings}
    {relationship : RelationshipType} :
    RelationshipType.ofFields fields = .ok relationship ↔
      fields.lookup "name" = some (.text relationship.name) ∧
        fields.lookup (givenName fields "from" "from_type") = some (.text relationship.source) ∧
        fields.lookup (givenName fields "to" "to_type") = some (.text relationship.target) ∧
        (fields.lookup "description").getD (.text "") = .text relationship.description := by
  unfold RelationshipType.ofFields requiredEither
  rw [four_eq_ok_iff]
  simp only [required_text_eq_ok_iff, optional_text_eq_ok_iff]
  constructor
  · rintro ⟨_, _, _, _, named, begins, ends, described, rfl⟩
    exact ⟨named, begins, ends, described⟩
  · rintro ⟨named, begins, ends, described⟩
    exact ⟨_, _, _, _, named, begins, ends, described, rfl⟩

end QueryWarden
