/-
The cap on rows. Of the queries that an agent writes for rows or values, only such texts are
sent as end in a limit: their own one, or that of the executor. A name between backticks can
look like the beginning of a string or a comment, and can so pass a comment off as the end of
a query; the cap is certain where no name does.
-/

import QueryWarden.Proofs.Query.RowLimit
import QueryWarden.Proofs.Tool.ReadOnly

namespace QueryWarden

open Text Number

namespace Executor

private theorem one_le_of_checkResultLimit {maximum : Int}
    (passed : checkResultLimit (.int maximum) = .ok ()) : 1 ≤ maximum := by
  by_contra small
  have below : (maximum : Rat) < ((1 : Int) : Rat) := Rat.intCast_lt_intCast.mpr (by omega)
  have less : (Value.int maximum).less (.int 1) = .ok true :=
    congrArg Except.ok (decide_eq_true below)
  rw [checkResultLimit, less] at passed
  exact refuse_ne_ok _ _ _ passed

theorem digits_of_one_le {maximum : Int} (positive : 1 ≤ maximum) :
    (toString maximum).toList ≠ [] ∧
      ∀ letter ∈ (toString maximum).toList, letter.isDigit = true := by
  have written : (toString maximum).toList = decimalDigits maximum.toNat := by
    rw [Int.toString_eq_repr, Int.repr_eq_if, if_pos (by omega)]
    rfl
  rw [written]
  exact ⟨decimalDigits_ne_nil _, fun _ => isDigit_of_mem_decimalDigits⟩

/-- With or without a text of the maximum, a query is sent as one that some number limits. -/
theorem exists_withLimit_of_limited {executor : Executor} {maximum : Int}
    (bounded : executor.maximum = .int maximum) (positive : 1 ≤ maximum) {ready : Query}
    {text : String} (limited : executor.limited ready = .ok text) :
    ∃ number : String, number.toList ≠ [] ∧ (∀ letter ∈ number.toList, letter.isDigit = true) ∧
      text = withLimit number ready.text := by
  obtain ⟨nonempty, digits⟩ := digits_of_one_le positive
  unfold Executor.limited at limited
  rw [bounded] at limited
  split at limited
  · next number shown =>
      cases limited
      refine ⟨number, ?_⟩
      change (if isUnwritable maximum then none else some (toString maximum)) = some number at shown
      split at shown
      · cases shown
      · cases shown
        exact ⟨nonempty, digits, rfl⟩
  · have own := writing_eq_ok_iff.mp limited
    unfold RowLimit.ownLimit? at own
    dsimp only at own
    split at own
    · next isLimited =>
        cases own
        exact ⟨toString maximum, nonempty, digits, (if_pos isLimited).symm⟩
    · cases own

/-- What is sent for rows or values ends in a limit, provided that its quotations and comments
are closed, that its names between backticks are plain, and that what passes for a limit at
its end is one. -/
theorem sent_endsInLimit {schema : Schema} {validator : Validator} {maximum : Int}
    {executor : Executor} (created : create schema validator (.int maximum) = .ok executor)
    (graph : Graph) {call : ToolCall} {query : Value}
    (asked : call = .rows query ∨ call = .values query) {request : Request}
    (sent : request ∈ (executor.perform graph call).sent) {found : List Lexeme}
    (closed : Lexeme.read request.query.toList = some found)
    (plain : ∀ lexeme ∈ found, lexeme.HasPlainName)
    (genuine : ∀ word count, Lexeme.LastWords found word count →
      RowLimit.PassesForLimit word count → RowLimit.IsLimit word count) :
    RowLimit.EndsInLimit found := by
  obtain ⟨passed, rfl⟩ := of_create_eq_ok created
  have positive := one_le_of_checkResultLimit passed
  have permitted := (mem_sent_iff _ graph call request).mp sent
  cases permitted with
  | rows accepted limited =>
      obtain ⟨_, nonempty, digits, rfl⟩ := exists_withLimit_of_limited rfl positive limited
      exact RowLimit.endsInLimit_withLimit nonempty digits closed plain genuine
  | values accepted limited =>
      obtain ⟨_, nonempty, digits, rfl⟩ := exists_withLimit_of_limited rfl positive limited
      exact RowLimit.endsInLimit_withLimit nonempty digits closed plain genuine
  | count accepted => rcases asked with impossible | impossible <;> cases impossible
  | find declared => rcases asked with impossible | impossible <;> cases impossible
  | list declared numeral => rcases asked with impossible | impossible <;> cases impossible

private def plainRequest (text : String) : Request :=
  { query := text, parameters := none }

private theorem plainRequest_sent {text : String}
    (judged : (townExecutor.validator.validate townSchema (.ready (.ofRaw text))).isOk = true)
    (limited : withLimit "100" (normalize text) = text) :
    plainRequest text ∈ (townExecutor.perform townGraph (.rows (.text text))).sent :=
  (mem_sent_iff townExecutor townGraph _ _).mpr
    (townExecutor_permits_rows judged limited)

private def limitedText : String :=
  "MATCH (t:Town) RETURN t.`a b`, '//' limit 5 //all"

theorem sent_endsInLimit_limitedText :
    ∃ found, create townSchema (.standard (.bool true)) (.int 100) = .ok townExecutor ∧
      plainRequest limitedText ∈
        (townExecutor.perform townGraph (.rows (.text limitedText))).sent ∧
      Lexeme.read limitedText.toList = some found ∧ (∀ lexeme ∈ found, lexeme.HasPlainName) ∧
      (∀ word count, Lexeme.LastWords found word count →
        RowLimit.PassesForLimit word count → RowLimit.IsLimit word count) ∧
      RowLimit.EndsInLimit found := by
  have created : create townSchema (.standard (.bool true)) (.int 100) = .ok townExecutor := rfl
  have sent : plainRequest limitedText ∈
      (townExecutor.perform townGraph (.rows (.text limitedText))).sent :=
    plainRequest_sent (by decide +kernel) (by decide +kernel)
  have checked : (Lexeme.read limitedText.toList).any (fun found =>
      found.all (fun lexeme => decide lexeme.HasPlainName) && found.all Lexeme.isAscii) = true := by
    decide +kernel
  obtain ⟨found, closed, checks⟩ := (Option.any_eq_true _ _).mp checked
  obtain ⟨plainNames, ascii⟩ := Bool.and_eq_true_iff.mp checks
  have plain : ∀ lexeme ∈ found, lexeme.HasPlainName := fun lexeme member =>
    of_decide_eq_true (List.all_eq_true.mp plainNames lexeme member)
  have genuine : ∀ word count, Lexeme.LastWords found word count →
      RowLimit.PassesForLimit word count → RowLimit.IsLimit word count :=
    fun _ _ words passes => RowLimit.isLimit_of_ascii ascii words passes
  exact ⟨found, created, sent, closed, plain, genuine,
    sent_endsInLimit created townGraph (Or.inl rfl) sent closed plain genuine⟩

private def nameText : String :=
  "MATCH (t:Town) RETURN t AS `it's` // ' LIMIT 5"

/-- What stands between the two marks is taken for a string and the end of the comment for
the end of the query, so that the query is sent without a limit. -/
theorem sent_nameText_unlimited :
    ∃ found, plainRequest nameText ∈
        (townExecutor.perform townGraph (.rows (.text nameText))).sent ∧
      Lexeme.read nameText.toList = some found ∧ ¬RowLimit.EndsInLimit found := by
  have sent : plainRequest nameText ∈
      (townExecutor.perform townGraph (.rows (.text nameText))).sent :=
    plainRequest_sent (by decide +kernel) (by decide +kernel)
  have checked : (Lexeme.read nameText.toList).any (fun found =>
      found.reverse.find? (fun lexeme => !lexeme.isTrailing) ==
        some (.quoted .name "it's".toList)) = true := by
    decide +kernel
  obtain ⟨found, closed, last⟩ := (Option.any_eq_true _ _).mp checked
  refine ⟨found, sent, closed, fun ends => ?_⟩
  obtain ⟨letter, isLetter⟩ := ends.find?_reverse
  rw [eq_of_beq last] at isLetter
  cases isLetter

end Executor

end QueryWarden
