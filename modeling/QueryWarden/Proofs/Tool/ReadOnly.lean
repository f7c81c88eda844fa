/-
What is sent is as read-only as what was validated. A query that an agent writes is sent
without the blanks around it and the semicolons behind it and perhaps with a limit on a line
of its own. None of these says anything to the read-only check, so that it accepts the text
that is sent if it accepted the text that was validated.
-/

import QueryWarden.Proofs.Number.Numeral
import QueryWarden.Proofs.Query.ReadOnly
import QueryWarden.Proofs.Tool.Boundary

namespace QueryWarden

open Text Number

namespace Mutation

/-! ### Blanks and semicolons behind a query -/

private theorem upperChar_of_isOutside {letter : Char} (outside : isOutside letter = true) :
    upperChar letter = [letter] := by
  rcases Bool.or_eq_true_iff.mp outside with blank | semicolon
  · exact upperChar_of_isBlank blank
  · rw [eq_of_beq semicolon]
    decide

private theorem inert_of_isOutside {tail : List Char}
    (outside : ∀ letter ∈ tail, isOutside letter = true) :
    Inert tail := by
  have within : ∀ letter ∈ (dropBlanks tail).head?, isOutside letter = true :=
    fun letter first =>
      outside letter ((List.dropWhile_sublist isBlank).subset (List.mem_of_head? first))
  have noProcedure : (dropBlanks tail).takeWhile isProcedurePart = [] :=
    takeWhile_append_of_head? [] (fun letter first =>
      isProcedurePart_of_isOutside (within letter first))
  have noToken : startToken tail = [] :=
    takeWhile_append_of_head? [] (fun letter first =>
      isTokenPart_of_isOutside (within letter first))
  refine ⟨fun letter first => outside letter (List.mem_of_head? first), ?_, ?_, ?_⟩
  · exact fun letter member => not_mem_of_isOutside (outside letter member) (by decide)
  · rw [noProcedure]
    rfl
  · rw [noToken]
    decide

/-- A query in place: blanks before it, blanks and semicolons behind it. -/
theorem exists_trimQuery (letters : List Char) :
    ∃ blanks tail, letters = blanks ++ (RowLimit.trimQuery letters ++ tail) ∧
      (∀ letter ∈ blanks, isBlank letter = true) ∧ ∀ letter ∈ tail, isOutside letter = true := by
  obtain ⟨cut, trimmed, cutBlank⟩ := exists_dropRightWhile isBlank (dropBlanks letters)
  obtain ⟨semicolons, bare, semicolon⟩ := exists_dropRightWhile RowLimit.isSemicolon (trim letters)
  refine ⟨letters.takeWhile isBlank, semicolons ++ cut, ?_, ?_, ?_⟩
  · have whole : dropBlanks letters = RowLimit.trimQuery letters ++ (semicolons ++ cut) := by
      rw [← List.append_assoc, RowLimit.trimQuery, ← bare]
      exact trimmed
    rw [← whole]
    exact List.takeWhile_append_dropWhile.symm
  · exact fun letter member => List.mem_takeWhile_imp member
  · intro letter member
    rcases List.mem_append.mp member with member | member
    · exact Bool.or_eq_true_iff.mpr (Or.inr (semicolon letter member))
    · exact Bool.or_eq_true_iff.mpr (Or.inl (cutBlank letter member))

private theorem isReadOnly_trimQuery {letters : List Char} (readOnly : IsReadOnly (upper letters)) :
    IsReadOnly (upper (RowLimit.trimQuery letters)) := by
  obtain ⟨blanks, tail, whole, blank, outside⟩ := exists_trimQuery letters
  rw [whole, upper_append, upper_append,
    upper_eq_self (fun letter member => upperChar_of_isBlank (blank letter member)),
    upper_eq_self (fun letter member => upperChar_of_isOutside (outside letter member))] at readOnly
  have withTail := (alike_blanks_append blank _).isReadOnly readOnly
  exact ((inert_of_isOutside outside).alike _).isReadOnly withTail

/-! ### The line of a limit -/

private theorem not_mem_tellingLetters_of_numeral {numeral : List Char} (plain : IsNumeral numeral)
    {letter : Char} (member : letter ∈ upper numeral) : letter ∉ tellingLetters := by
  obtain ⟨source, within, raised⟩ := List.mem_flatMap.mp member
  have silent : (upperChar source).all (fun raised => !tellingLetters.contains raised) = true := by
    rcases Bool.or_eq_true_iff.mp (plain source within) with digit | mark
    · exact of_between (fun source =>
        (upperChar source).all (fun raised => !tellingLetters.contains raised))
        (Char.isDigit_iff_toNat.mp digit) (by decide)
    · have every : numeralMarks.all (fun source =>
          (upperChar source).all (fun raised => !tellingLetters.contains raised)) = true := by
        decide
      exact List.all_eq_true.mp every source (List.contains_iff_mem.mp mark)
  intro tells
  have quiet := List.all_eq_true.mp silent letter raised
  rw [List.contains_iff_mem.mpr tells] at quiet
  cases quiet

private theorem dropBlanks_limitLine (count : List Char) :
    dropBlanks ("\nLIMIT ".toList ++ count) = "LIMIT".toList ++ ' ' :: count :=
  rfl

private theorem inert_limitLine {count : List Char}
    (silent : ∀ letter ∈ count, letter ∉ tellingLetters) :
    Inert ("\nLIMIT ".toList ++ count) := by
  have noProcedure : ("LIMIT".toList ++ ' ' :: count).takeWhile isProcedurePart =
      "LIMIT".toList.takeWhile isProcedurePart :=
    takeWhile_append_of_head? _ (fun _ first => by cases first; decide)
  have noToken : ("LIMIT".toList ++ ' ' :: count).takeWhile isTokenPart =
      "LIMIT".toList.takeWhile isTokenPart :=
    takeWhile_append_of_head? _ (fun _ first => by cases first; decide)
  refine ⟨fun _ first => by cases first; decide, ?_, ?_, ?_⟩
  · intro letter member
    rcases List.mem_append.mp member with member | member
    · have every : "\nLIMIT ".toList.all (fun letter =>
          !tellingLetters.contains letter) = true := by
        decide
      have quiet := List.all_eq_true.mp every letter member
      intro tells
      rw [List.contains_iff_mem.mpr tells] at quiet
      cases quiet
    · exact silent letter member
  · rw [dropBlanks_limitLine, noProcedure]
    decide
  · rw [startToken, dropBlanks_limitLine, noToken]
    decide

theorem toList_limitLine (maximum : String) :
    (RowLimit.limitLine maximum).toList = "\nLIMIT ".toList ++ maximum.toList := by
  rw [RowLimit.limitLine, String.toList_append]

private theorem isReadOnly_ownLimit {text own : String}
    (limited : RowLimit.ownLimit? text = some own)
    (readOnly : IsReadOnly (upper text.toList)) : IsReadOnly (upper own.toList) := by
  unfold RowLimit.ownLimit? at limited
  dsimp only at limited
  split at limited
  · cases limited
    rw [String.toList_ofList]
    exact isReadOnly_trimQuery readOnly
  · cases limited

private theorem isReadOnly_withLimit {text maximum : String} (plain : IsNumeral maximum.toList)
    (readOnly : IsReadOnly (upper text.toList)) :
    IsReadOnly (upper (withLimit maximum text).toList) := by
  have trimmed := isReadOnly_trimQuery readOnly
  unfold withLimit
  dsimp only
  split
  · rw [String.toList_ofList]
    exact trimmed
  · have line : upper "\nLIMIT ".toList = "\nLIMIT ".toList := by decide
    have inert : Inert ("\nLIMIT ".toList ++ upper maximum.toList) :=
      inert_limitLine (fun _ member => not_mem_tellingLetters_of_numeral plain member)
    rw [String.toList_append, String.toList_ofList, toList_limitLine, upper_append, upper_append,
      line]
    exact (inert.alike _).symm.isReadOnly trimmed

end Mutation

/-! ### What is sent -/

private theorem Run.next_outcome_eq_ok {first : Run} {more : Unit → Run}
    (passed : (first.next more).outcome = .ok ()) : first.outcome = .ok () := by
  cases outcome : first.outcome with
  | ok done => rfl
  | error fault =>
      rw [Run.next_of_error more outcome, outcome] at passed
      cases passed

theorem Validator.isReadOnly_of_standard {strictness : Value} {schema : Schema} {query : Query}
    (accepted : (Validator.standard strictness).validate schema (.ready query) = .ok ()) :
    Mutation.IsReadOnly (upper query.text.toList) := by
  have first : (Check.readOnly.run schema query).outcome = .ok () :=
    Run.next_outcome_eq_ok accepted
  refine (Mutation.check_eq_ok_iff query).mp ?_
  cases judged : Mutation.check query with
  | ok done => rfl
  | error rejection =>
      rw [Check.run, Check.judge, judged] at first
      cases first

private theorem Validator.validate_readOnly {schema : Schema} {query : Query}
    (readOnly : Mutation.IsReadOnly (upper query.text.toList)) :
    (Validator.leaf .readOnly).validate schema (.ready query) = .ok () := by
  have accepted := (Mutation.check_eq_ok_iff query).mpr readOnly
  change (Mutation.check query).mapError Fault.rejected = .ok ()
  rw [accepted]
  rfl

namespace Executor

theorem of_create_eq_ok {schema : Schema} {validator : Validator} {maximum : Value}
    {executor : Executor} (created : create schema validator maximum = .ok executor) :
    checkResultLimit maximum = .ok () ∧
      executor = { schema := schema, validator := validator, maximum := maximum } := by
  unfold create at created
  cases passed : checkResultLimit maximum with
  | ok done =>
      rw [passed] at created
      cases created
      exact ⟨rfl, rfl⟩
  | error fault =>
      rw [passed] at created
      cases created

private theorem create_eq_ok {schema : Schema} {validator : Validator} {maximum : Value}
    {executor : Executor} (created : create schema validator maximum = .ok executor) :
    executor.validator = validator ∧
      ∀ text, executor.maximum.shown? = some text → IsNumeral text.toList := by
  obtain ⟨passed, rfl⟩ := of_create_eq_ok created
  exact ⟨rfl, fun _ => isNumeral_of_checkResultLimit passed⟩

/-- A limit that has been put behind a query leaves it read-only, and so does its own. -/
theorem isReadOnly_limited {executor : Executor}
    (plain : ∀ text, executor.maximum.shown? = some text → IsNumeral text.toList)
    {ready : Query} {text : String} (limited : executor.limited ready = .ok text)
    (readOnly : Mutation.IsReadOnly (upper ready.text.toList)) :
    Mutation.IsReadOnly (upper text.toList) := by
  unfold Executor.limited at limited
  split at limited
  · next maximum shown =>
      cases limited
      exact Mutation.isReadOnly_withLimit (plain maximum shown) readOnly
  · exact Mutation.isReadOnly_ownLimit (writing_eq_ok_iff.mp limited) readOnly

/-- An executor with the standard validator, strict or not, sends of an agent's queries only
texts that are read-only themselves, whatever was cut from them or put behind them. -/
theorem sent_readOnly {schema : Schema} {strictness maximum : Value} {executor : Executor}
    (created : create schema (.standard strictness) maximum = .ok executor) (graph : Graph)
    {call : ToolCall} {query : Value} (written : call.query? = some query) {request : Request}
    (sent : request ∈ (executor.perform graph call).sent) :
    (Validator.leaf .readOnly).validate executor.schema (.ready ⟨request.query⟩) = .ok () := by
  obtain ⟨validator, plain⟩ := create_eq_ok created
  have permitted := (mem_sent_iff executor graph call request).mp sent
  refine Validator.validate_readOnly ?_
  cases permitted with
  | count accepted =>
      rw [validator] at accepted
      exact Validator.isReadOnly_of_standard accepted
  | rows accepted limited =>
      rw [validator] at accepted
      exact isReadOnly_limited plain limited (Validator.isReadOnly_of_standard accepted)
  | values accepted limited =>
      rw [validator] at accepted
      exact isReadOnly_limited plain limited (Validator.isReadOnly_of_standard accepted)
  | find declared => cases written
  | list declared numeral => cases written

def townCall : ToolCall :=
  .rows (.text " match (t:Town) return t ; ")

def townRequest : Request :=
  { query := "match (t:Town) return t \nLIMIT 100", parameters := none }

def townGraph : Graph :=
  fun _ => .ok { cells := .list [], header := .list [], statistics := .null }

theorem townExecutor_permits_rows {raw text : String}
    (judged : (townExecutor.validator.validate townSchema (.ready (.ofRaw raw))).isOk = true)
    (limited : withLimit "100" (normalize raw) = text) :
    townExecutor.Permits (.rows (.text raw)) { query := text, parameters := none } := by
  refine .rows (townExecutor_accepts judged) ?_
  rw [townExecutor_limited, limited]

theorem townExecutor_permits : townExecutor.Permits townCall townRequest :=
  townExecutor_permits_rows (by decide +kernel) (by decide +kernel)

theorem sent_readOnly_town :
    create townSchema (.standard (.bool true)) (.int 100) = .ok townExecutor ∧
      townCall.query? = some (.text " match (t:Town) return t ; ") ∧
      townRequest ∈ (townExecutor.perform townGraph townCall).sent ∧
      (Validator.leaf .readOnly).validate townSchema (.ready ⟨townRequest.query⟩) = .ok () := by
  have created : create townSchema (.standard (.bool true)) (.int 100) = .ok townExecutor := rfl
  have sent : townRequest ∈ (townExecutor.perform townGraph townCall).sent :=
    (mem_sent_iff townExecutor townGraph townCall _).mpr townExecutor_permits
  exact ⟨created, rfl, sent, sent_readOnly created townGraph rfl sent⟩

end Executor

end QueryWarden
