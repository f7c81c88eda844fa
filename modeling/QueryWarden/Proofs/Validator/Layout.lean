/-
Validation and layout. Two queries that differ only in how long their runs of blanks are, and of
which blanks they are made, get the same verdict, whatever the schema. The read-only check does not
look at the case of ASCII letters either.
-/

import QueryWarden.Proofs.Query.Layout
import QueryWarden.Proofs.Validator.Chain

namespace QueryWarden

open Text

/-- Two outcomes that tell a caller the same. Where a query cannot be read, the token that is shown
of it may be cut off in the midst of blanks, and is not compared. -/
inductive SameVerdict : Except Fault Unit → Except Fault Unit → Prop where
  | accepted : SameVerdict (.ok ()) (.ok ())
  | mutation (keyword reason : Value) :
      SameVerdict (.error (.rejected (.mutation keyword reason)))
        (.error (.rejected (.mutation keyword reason)))
  | unreadable (token otherToken : String) (allowed : List String) :
      SameVerdict (.error (.rejected (.ofToken token allowed)))
        (.error (.rejected (.ofToken otherToken allowed)))
  | undeclared (kind : Value) (unknown known : List Value) (wording : String) :
      SameVerdict (.error (.rejected (.undeclared kind unknown known wording)))
        (.error (.rejected (.undeclared kind unknown known wording)))

namespace Mutation

/-- The check depends on the squeezed text in upper case alone, but for the token that it shows of
a text it cannot read. -/
theorem check_sameVerdict {left right : Query}
    (same : squeeze (upper left.text.toList) = squeeze (upper right.text.toList)) :
    SameVerdict ((check left).mapError .rejected) ((check right).mapError .rejected) := by
  have keyword : writeKeyword? (upper left.text.toList) = writeKeyword? (upper right.text.toList) := by
    rw [← writeKeyword?_squeeze, same, writeKeyword?_squeeze]
  have procedure : writeProcedure? (upper left.text.toList) =
      writeProcedure? (upper right.text.toList) := by
    rw [← writeProcedure?_squeeze, same, writeProcedure?_squeeze]
  have start : startToken (upper left.text.toList) = startToken (upper right.text.toList) := by
    rw [← startToken_squeeze, same, startToken_squeeze]
  unfold check refusal?
  rw [keyword, procedure]
  cases writeKeyword? (upper right.text.toList) with
  | some found => exact .mutation _ _
  | none =>
      cases writeProcedure? (upper right.text.toList) with
      | some found => exact .mutation _ _
      | none =>
          simp only [readStarts_firstToken, start]
          cases readStarts.contains (String.ofList (startToken (upper right.text.toList))) with
          | true => exact .accepted
          | false => exact .unreadable _ _ _

end Mutation

namespace Adherence

private theorem findings_of_squeeze {left right : Query}
    (same : squeeze left.text.toList = squeeze right.text.toList) (schema : Schema) :
    findings schema left = findings schema right := by
  have used : ∀ kind, Pattern.used kind left.text = Pattern.used kind right.text := by
    intro kind
    rw [Pattern.used, Pattern.used, ← Pattern.names_squeeze, same, Pattern.names_squeeze]
  unfold findings Query.labels Query.relationshipTypes
  rw [used, used]

private theorem strict_sameVerdict {left right : Query}
    (same : squeeze left.text.toList = squeeze right.text.toList) (schema : Schema) :
    SameVerdict ((strict schema left).mapError .rejected)
      ((strict schema right).mapError .rejected) := by
  unfold strict
  rw [findings_of_squeeze same]
  cases findings schema right with
  | nil => exact .accepted
  | cons finding others => exact .undeclared _ _ _ _

end Adherence

namespace Check

private theorem readOnly_sameVerdict {left right : Query}
    (respaced : Respaced Char.toUpper left.text.toList right.text.toList) (schema : Schema) :
    SameVerdict (Check.readOnly.judge schema left) (Check.readOnly.judge schema right) := by
  apply Mutation.check_sameVerdict
  rw [← upper_squeeze, ← upper_squeeze, ← upper_map_toUpper, respaced.squeeze_eq,
    upper_map_toUpper]

private theorem adherence_sameVerdict {left right : Query}
    (respaced : Respaced id left.text.toList right.text.toList) (schema : Schema)
    (strictness : Value) :
    SameVerdict ((Check.adherence strictness).judge schema left)
      ((Check.adherence strictness).judge schema right) := by
  unfold judge
  dsimp only
  split
  · have same := respaced.squeeze_eq
    rw [List.map_id, List.map_id] at same
    exact Adherence.strict_sameVerdict same schema
  · exact .accepted

end Check

/-- Texts that are alike letter by letter look alike, whatever is looked at. -/
theorem Text.Respaced.looked {α : Type} {look : Char → α} {lefts rights : List Char}
    (respaced : Respaced id lefts rights) : Respaced look lefts rights := by
  induction respaced with
  | nil => exact .nil
  | letter noBlank otherNoBlank same _ ih =>
      exact .letter noBlank otherNoBlank (congrArg look same) ih
  | blanks nonempty otherNonempty leading otherLeading _ ih =>
      exact .blanks nonempty otherNonempty leading otherLeading ih

namespace Validator

private theorem outcome_next (first : Run) (more : Unit → Run) :
    (first.next more).outcome =
      match first.outcome with
      | .ok () => (more ()).outcome
      | .error fault => .error fault := by
  cases passed : first.outcome with
  | ok done => rw [Run.next_of_ok more passed]
  | error fault => rw [Run.next_of_error more passed, passed]

private theorem validate_standard (strictness : Value) (schema : Schema) (query : Query) :
    (standard strictness).validate schema (.ready query) =
      match Check.readOnly.judge schema query with
      | .ok () => (Check.adherence strictness).judge schema query
      | .error fault => .error fault := by
  change ((Check.readOnly.run schema query).next fun _ =>
    ((Check.adherence strictness).run schema query).next fun _ => .nothing).outcome = _
  rw [outcome_next, Run.next_nothing]
  rfl

private theorem standard_sameVerdict {left right : Query}
    (respaced : Respaced id left.text.toList right.text.toList) (strictness : Value)
    (schema : Schema) :
    SameVerdict ((standard strictness).validate schema (.ready left))
      ((standard strictness).validate schema (.ready right)) := by
  have readOnly := Check.readOnly_sameVerdict respaced.looked schema
  have adherence := Check.adherence_sameVerdict respaced schema strictness
  rw [validate_standard, validate_standard]
  revert readOnly
  generalize Check.readOnly.judge schema left = judged
  generalize Check.readOnly.judge schema right = otherJudged
  intro readOnly
  cases readOnly with
  | accepted => exact adherence
  | mutation keyword reason => exact .mutation keyword reason
  | unreadable token otherToken allowed => exact .unreadable token otherToken allowed
  | undeclared kind unknown known wording => exact .undeclared kind unknown known wording

/-- Layout makes no difference to the standard chain, nor do layout and the case of ASCII letters
to the read-only check. -/
theorem validate_layout (left right : Query) (schema : Schema) :
    (Respaced id left.text.toList right.text.toList →
      ∀ strictness, SameVerdict ((standard strictness).validate schema (.ready left))
        ((standard strictness).validate schema (.ready right))) ∧
    (Respaced Char.toUpper left.text.toList right.text.toList →
      SameVerdict ((Validator.leaf .readOnly).validate schema (.ready left))
        ((Validator.leaf .readOnly).validate schema (.ready right))) := by
  constructor
  · intro respaced strictness
    exact standard_sameVerdict respaced strictness schema
  · intro respaced
    exact Check.readOnly_sameVerdict respaced schema

private def lineQuery : Query :=
  ⟨" MATCH (t :Town) RETURN t"⟩

private def linesQuery : Query :=
  ⟨"\n\tMATCH  (t\n:Town)\r\n RETURN\u00a0t"⟩

private def smallQuery : Query :=
  ⟨"  match (T\t:TOWN)\n return t"⟩

theorem validate_layout_lines :
    Respaced id lineQuery.text.toList linesQuery.text.toList ∧
      Respaced Char.toUpper lineQuery.text.toList smallQuery.text.toList ∧
      SameVerdict ((standard (.bool true)).validate .empty (.ready lineQuery))
        ((standard (.bool true)).validate .empty (.ready linesQuery)) ∧
      SameVerdict ((Validator.leaf .readOnly).validate .empty (.ready lineQuery))
        ((Validator.leaf .readOnly).validate .empty (.ready smallQuery)) := by
  have lines : Respaced id lineQuery.text.toList linesQuery.text.toList := by decide +kernel
  have small : Respaced Char.toUpper lineQuery.text.toList smallQuery.text.toList := by
    decide +kernel
  exact ⟨lines, small, (validate_layout lineQuery linesQuery .empty).1 lines (.bool true),
    (validate_layout lineQuery smallQuery .empty).2 small⟩

end Validator

end QueryWarden
