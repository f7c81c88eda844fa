/-
Strict and lenient checks of a schema. Both look at the same names, the labels before the
relationship types: the lenient check accepts every query and warns of each kind with unknown
names, and the strict one refuses just what the other warns of, in the words of its first
warning. The names stand in order there, in whatever order they were found.
-/

import QueryWarden.Proofs.Filter.References
import QueryWarden.Proofs.Validator.Adherence
import QueryWarden.Raised

namespace QueryWarden

open Pattern

/-! ### Sorted names -/

private theorem nodup_eraseDups (texts : List String) : texts.eraseDups.Nodup := by
  match texts with
  | [] => exact List.nodup_nil
  | text :: texts =>
      rw [List.eraseDups_cons, List.nodup_cons, List.mem_eraseDups]
      refine ⟨?_, nodup_eraseDups _⟩
      intro member
      have apart := (List.mem_filter.mp member).2
      rw [beq_self_eq_true] at apart
      cases apart
termination_by texts.length
decreasing_by exact Nat.lt_succ_of_le (List.length_filter_le _ _)

theorem sortedSet_ascending (texts : List String) : (sortedSet texts).Pairwise (· < ·) := by
  have sorted : (sortedSet texts).Pairwise (fun left right => decide (left ≤ right) = true) := by
    refine List.pairwise_mergeSort ?_ ?_ texts.eraseDups
    · intro first second third below further
      exact decide_eq_true (le_trans (of_decide_eq_true below) (of_decide_eq_true further))
    · intro left right
      rw [← Bool.decide_or]
      exact decide_eq_true (le_total left right)
  have different : (sortedSet texts).Nodup :=
    (List.mergeSort_perm texts.eraseDups _).nodup_iff.mpr (nodup_eraseDups texts)
  refine (sorted.and different).imp ?_
  intro left right both
  exact lt_of_le_of_ne (of_decide_eq_true both.1) both.2

/-- There is one order only in which distinct names can be sorted. -/
theorem Value.sort_of_perm {names shuffled : List String} (ascending : names.Pairwise (· < ·))
    (same : shuffled.Perm names) :
    Value.sort (shuffled.map .text) = .ok (names.map .text) := by
  have areTexts : ∀ item ∈ shuffled.map Value.text, ∃ name, item = .text name := by
    intro item member
    obtain ⟨name, _, rfl⟩ := List.mem_map.mp member
    exact ⟨name, rfl⟩
  obtain ⟨sorted, sorts⟩ : ∃ sorted, Value.sort (shuffled.map .text) = .ok sorted := by
    refine sort_texts (List.all_eq_true.mpr ?_)
    intro item member
    obtain ⟨name, rfl⟩ := areTexts item member
    rfl
  have ordered := Sorting.sort_pairwise orders_texts areTexts sorts
  have wanted : (names.map Value.text).Pairwise
      (fun left right => ∃ name other, left = .text name ∧ right = .text other ∧ name ≤ other) :=
    List.pairwise_map.mpr (ascending.imp fun below => ⟨_, _, rfl, rfl, le_of_lt below⟩)
  have shuffles : sorted.Perm (names.map Value.text) := (Sorting.sort_perm sorts).trans (same.map _)
  refine sorts.trans (congrArg Except.ok (shuffles.eq_of_pairwise ?_ ordered wanted))
  rintro _ _ _ _ ⟨name, other, rfl, rfl, below⟩ ⟨_, _, same, again, above⟩
  cases same
  cases again
  rw [le_antisymm below above]

private theorem Pattern.used_ascending (kind : Kind) (text : String) :
    (used kind text).Pairwise (· < ·) :=
  sortedSet_ascending _

theorem Pattern.Kind.known_ascending (schema : Schema) (kind : Kind) :
    (kind.known schema).Pairwise (· < ·) := by
  cases kind with
  | node => exact sortedSet_ascending _
  | relationship => exact sortedSet_ascending _

/-! ### Unknown names -/

def Validator.lenientAdherence : Validator :=
  .leaf (.adherence (.bool false))

namespace Adherence

variable (schema : Schema) (query : Query) (kind : Kind)

def unknownNames : List String :=
  undeclared (used kind query.text) (kind.known schema)

theorem mem_unknownNames {name : String} :
    name ∈ unknownNames schema query kind ↔
      name ∈ used kind query.text ∧ name ∉ kind.known schema := by
  simp [unknownNames, undeclared]

private theorem unknownNames_ascending : (unknownNames schema query kind).Pairwise (· < ·) :=
  (used_ascending kind query.text).filter _

private theorem unknownNames_disjoint :
    (unknownNames schema query kind).Disjoint (kind.known schema) :=
  fun _ unknown => ((mem_unknownNames schema query kind).mp unknown).2

def wording : String :=
  undeclaredWording (.text kind.noun) (writtenTexts (unknownNames schema query kind))
    (writtenTexts (kind.known schema))

def violation : Rejection :=
  .undeclared (.text kind.noun) ((unknownNames schema query kind).map .text)
    ((kind.known schema).map .text) (wording schema query kind)

def warningOf : List String :=
  if unknownNames schema query kind = [] then [] else [wording schema query kind]

def IsFirst : Kind → Prop
  | .node => unknownNames schema query .node ≠ []
  | .relationship =>
      unknownNames schema query .node = [] ∧ unknownNames schema query .relationship ≠ []

/-- A refusal is built from sets in any order, and it sorts what it is given. -/
theorem ofUndeclared_of_perm {unknown known : List String}
    (sameUnknown : unknown.Perm (unknownNames schema query kind))
    (sameKnown : known.Perm (kind.known schema)) :
    Rejection.ofUndeclared (.text kind.noun) (.set (unknown.map .text)) (.set (known.map .text)) =
      .ok (violation schema query kind) := by
  have unknownAscending := unknownNames_ascending schema query kind
  have knownAscending := Kind.known_ascending schema kind
  have writtenOf (names : List String) (ascending : names.Pairwise (· < ·)) :
      Rejection.ofUndeclared.written (names.map .text) = .ok (writtenTexts names) := by
    rw [Rejection.ofUndeclared.written, Value.sort_of_perm ascending (List.Perm.refl _)]
    exact congrArg writing (written?_ofTexts names)
  simp only [Rejection.ofUndeclared, Value.items, bind, Except.bind, accessing, Except.mapError,
    Value.sort_of_perm unknownAscending sameUnknown, Value.sort_of_perm knownAscending sameKnown,
    writtenOf _ unknownAscending, writtenOf _ knownAscending]
  rfl

/-! ### Both checks -/

def findingOf : Finding :=
  { kind := kind.noun, unknown := unknownNames schema query kind, known := kind.known schema }

private theorem findingsOf_used :
    findingsOf kind.noun (used kind query.text) (kind.known schema) =
      if unknownNames schema query kind = [] then [] else [findingOf schema query kind] := by
  unfold findingsOf findingOf
  simp only [List.isEmpty_iff]
  rfl

theorem findings_eq_append :
    findings schema query =
      (if unknownNames schema query .node = [] then [] else [findingOf schema query .node]) ++
        if unknownNames schema query .relationship = [] then []
          else [findingOf schema query .relationship] := by
  rw [← findingsOf_used, ← findingsOf_used]
  exact findings_eq schema query

theorem warnings_eq_append :
    warnings schema query =
      warningOf schema query .node ++ warningOf schema query .relationship := by
  unfold warnings warningOf
  rw [findings_eq_append, List.map_append, apply_ite (List.map Finding.message),
    apply_ite (List.map Finding.message)]
  rfl

private theorem findings_of_isFirst (first : IsFirst schema query kind) :
    ∃ others, findings schema query = findingOf schema query kind :: others := by
  rw [findings_eq_append]
  cases kind with
  | node =>
      rw [if_neg first]
      exact ⟨_, rfl⟩
  | relationship =>
      rw [if_pos first.1, if_neg first.2]
      exact ⟨[], rfl⟩

theorem warningOf_eq_nil_iff :
    warningOf schema query kind = [] ↔ unknownNames schema query kind = [] := by
  unfold warningOf
  split
  · next isNil => exact iff_of_true rfl isNil
  · next found => exact iff_of_false nofun found

theorem warnings_eq_nil_iff :
    warnings schema query = [] ↔ ∀ kind, unknownNames schema query kind = [] := by
  rw [warnings_eq_append, List.append_eq_nil_iff, warningOf_eq_nil_iff, warningOf_eq_nil_iff]
  constructor
  · intro ⟨noLabels, noTypes⟩ kind
    cases kind with
    | node => exact noLabels
    | relationship => exact noTypes
  · intro allKnown
    exact ⟨allKnown .node, allKnown .relationship⟩

private theorem exists_isFirst (warned : warnings schema query ≠ []) :
    ∃ kind, IsFirst schema query kind := by
  by_cases noLabels : unknownNames schema query .node = []
  · refine ⟨.relationship, noLabels, ?_⟩
    intro noTypes
    rw [Ne, warnings_eq_append, List.append_eq_nil_iff, warningOf_eq_nil_iff,
      warningOf_eq_nil_iff] at warned
    exact warned ⟨noLabels, noTypes⟩
  · exact ⟨.node, noLabels⟩

private theorem unknownNames_eq_nil_of_subset {wider : Schema}
    (more : kind.known schema ⊆ kind.known wider)
    (allKnown : unknownNames schema query kind = []) : unknownNames wider query kind = [] := by
  refine List.eq_nil_iff_forall_not_mem.mpr fun name member => ?_
  obtain ⟨isUsed, unknown⟩ := (mem_unknownNames wider query kind).mp member
  refine List.eq_nil_iff_forall_not_mem.mp allKnown name ?_
  exact (mem_unknownNames schema query kind).mpr ⟨isUsed, fun known => unknown (more known)⟩

private theorem validate_strict (submission : Submission) :
    Validator.strictAdherence.validate schema submission =
      (strict schema submission.query).mapError .rejected :=
  rfl

theorem validate_strict_eq_ok_iff (submission : Submission) :
    Validator.strictAdherence.validate schema submission = .ok () ↔
      warnings schema submission.query = [] := by
  rw [validate_strict, mapError_eq_ok_iff]
  exact strict_eq_ok_iff schema submission.query

/-- How the two checks agree on a submission. The lenient one accepts it and warns of its unknown
labels, then of its unknown relationship types; the strict one refuses it if there is a warning,
for the first kind with unknown names and in the words of the first warning. Its refusal is the
one that is built from the two sets of names in any order. A schema that has more names lets
through what was let through before. -/
structure Agreement (submission : Submission) : Prop where
  accepted : Validator.lenientAdherence.validate schema submission = .ok ()
  warned : (Validator.lenientAdherence.run schema submission).warnings =
    warningOf schema submission.query .node ++ warningOf schema submission.query .relationship
  passed : Validator.strictAdherence.validate schema submission = .ok () ↔
    (Validator.lenientAdherence.run schema submission).warnings = []
  refused : (Validator.lenientAdherence.run schema submission).warnings ≠ [] →
    ∃ (kind : Kind) (fault : Fault), IsFirst schema submission.query kind ∧
      fault = .rejected (violation schema submission.query kind) ∧
      Validator.strictAdherence.validate schema submission = .error fault ∧
      fault.message = (Validator.lenientAdherence.run schema submission).warnings.head?
  unknown : ∀ (kind : Kind) (name : String), name ∈ unknownNames schema submission.query kind ↔
    name ∈ used kind submission.query.text ∧ name ∉ kind.known schema
  sorted : ∀ kind : Kind, (unknownNames schema submission.query kind).Pairwise (· < ·) ∧
    (kind.known schema).Pairwise (· < ·) ∧
    (unknownNames schema submission.query kind).Disjoint (kind.known schema)
  built : ∀ (kind : Kind) (unknown known : List String),
    unknown.Perm (unknownNames schema submission.query kind) → known.Perm (kind.known schema) →
    Rejection.ofUndeclared (.text kind.noun) (.set (unknown.map .text)) (.set (known.map .text)) =
      .ok (violation schema submission.query kind)
  widened : ∀ wider : Schema, (∀ kind : Kind, kind.known schema ⊆ kind.known wider) →
    Validator.strictAdherence.validate schema submission = .ok () →
    Validator.strictAdherence.validate wider submission = .ok ()

theorem strict_lenient_agree (submission : Submission) : Agreement schema submission where
  accepted := rfl
  warned := warnings_eq_append schema submission.query
  passed := validate_strict_eq_ok_iff schema submission
  refused := by
    intro warned
    change warnings schema submission.query ≠ [] at warned
    obtain ⟨kind, first⟩ := exists_isFirst schema submission.query warned
    obtain ⟨others, found⟩ := findings_of_isFirst schema submission.query kind first
    refine ⟨kind, _, first, rfl, ?_, ?_⟩
    · rw [validate_strict, strict, found]
      rfl
    · change _ = (warnings schema submission.query).head?
      rw [warnings, found]
      rfl
  unknown := by
    intro kind name
    exact mem_unknownNames schema submission.query kind
  sorted := by
    intro kind
    exact ⟨unknownNames_ascending schema submission.query kind, Kind.known_ascending schema kind,
      unknownNames_disjoint schema submission.query kind⟩
  built := by
    intro kind unknown known sameUnknown sameKnown
    exact ofUndeclared_of_perm schema submission.query kind sameUnknown sameKnown
  widened := by
    intro wider more passed
    rw [validate_strict_eq_ok_iff, warnings_eq_nil_iff] at passed ⊢
    intro kind
    exact unknownNames_eq_nil_of_subset schema submission.query kind (more kind) (passed kind)

end Adherence

end QueryWarden
