/-
The boundary between an agent and a graph. A call of a tool sends at most one request, and
only after everything that it brings has been checked. Its reply is a message of an error if
and only if a check failed, the graph raised a fault or the answer cannot be read. A call has
no reply if what it would tell holds an integer with too many digits.
-/

import QueryWarden.Proofs.Tool.ReplyText
import QueryWarden.Tool.Call

namespace QueryWarden

open Text

/-! ### What a call may send, and what it may tell -/

/-- The query of a call that an agent writes itself. -/
def ToolCall.query? : ToolCall → Option Value
  | .count query | .rows query | .values query => some query
  | .find _ _ | .list _ _ => none

/-- The request of a call whose checks have passed. A query of an agent was accepted by the
validator and is sent as it was validated, or with the executor's limit; the queries that
the tools write are about a declared label. -/
inductive Executor.Permits (executor : Executor) : ToolCall → Request → Prop where
  | count {raw : String}
      (accepted : executor.validator.validate executor.schema (.ready (.ofRaw raw)) = .ok ()) :
      Permits executor (.count (.text raw)) { query := normalize raw, parameters := none }
  | rows {raw text : String}
      (accepted : executor.validator.validate executor.schema (.ready (.ofRaw raw)) = .ok ())
      (limited : executor.limited (.ofRaw raw) = .ok text) :
      Permits executor (.rows (.text raw)) { query := text, parameters := none }
  | values {raw text : String}
      (accepted : executor.validator.validate executor.schema (.ready (.ofRaw raw)) = .ok ())
      (limited : executor.limited (.ofRaw raw) = .ok text) :
      Permits executor (.values (.text raw)) { query := text, parameters := none }
  | find {label : Identifier} {term : Value} {shown : String}
      (declared : executor.schema.hasLabel label.name = true)
      (hasText : term.shown? = some shown) :
      Permits executor (.find (.text label.name) term)
        { query := Executor.findText label "toLower(n.name) CONTAINS $_filter_0"
          parameters := some [("_filter_0", .text (lowerText shown))] }
  | list {label : Identifier} {limit : Value} {number : Int} {shown : String}
      (declared : executor.schema.hasLabel label.name = true)
      (numeral : limit.toInteger = .ok number)
      (hasText : (executor.boundedLimit number).shown? = some shown) :
      Permits executor (.list (.text label.name) limit)
        { query := Executor.listText label
          parameters := some [("limit", executor.boundedLimit number)] }

/-- Whether the answer to a call can be read: all of its rows, and for a count their one
number. Numbers and values are read as texts. -/
def ToolCall.Reads (call : ToolCall) (result : QueryResult) : Prop :=
  ∃ rows, result.rows = .ok rows ∧
    match call with
    | .count _ => ∃ number, QueryResult.count? rows = some number ∧ number.shown? ≠ none
    | .values _ => ∀ value ∈ Executor.valuesOf rows, value.shown? ≠ none
    | _ => True

def ToolCall.shownValues (call : ToolCall) (rows : List Row) : List Value :=
  match call with
  | .count _ | .values _ => []
  | .rows _ => rows.flatMap (fun row => row.flatMap (fun cell => [cell.1, cell.2]))
  | .find _ _ => rows.flatMap (Executor.entityValues "unknown")
  | .list _ _ => rows.flatMap (Executor.entityValues "?")

/-- Whether the reply would show a value that has no text. -/
def ToolCall.ShowsUntold (call : ToolCall) (result : QueryResult) : Prop :=
  ∃ rows, result.rows = .ok rows ∧ LacksText (call.shownValues rows)

/-- Whether a call is refused for a reason that has no text, or would list a label that has
none. -/
def Executor.RefusesUntold (executor : Executor) (call : ToolCall) : Prop :=
  (∃ raw fault, call.query? = some (.text raw) ∧ fault.text? = none ∧
    executor.validator.validate executor.schema (.ready (.ofRaw raw)) = .error fault) ∨
  ∃ label limit, call = .list label limit ∧ label.shown? = none

namespace Executor

/-! ### Checks -/

section

variable {executor : Executor} {query label term limit : Value}

theorem validated_eq_ok_iff (executor : Executor) (query : Value) (ready : Query) :
    executor.validated query = .ok ready ↔
      ∃ raw, query = .text raw ∧
        executor.validator.validate executor.schema (.ready (.ofRaw raw)) = .ok () ∧
        Query.ofRaw raw = ready := by
  unfold validated
  cases query with
  | text raw =>
      simp only [Value.textFor, Value.text.injEq, exists_eq_left']
      cases executor.validator.validate executor.schema (.ready (.ofRaw raw)) with
      | error fault => simp only [reduceCtorEq, false_and]
      | ok passed => simp only [Except.ok.injEq, true_and]
  | _ => simp only [Value.textFor, reduceCtorEq, false_and, exists_false]

/-- Why a query is refused has a text, unless it is the validator that has none. -/
theorem validated_untold_iff (executor : Executor) (query : Value) :
    (∃ fault, executor.validated query = .error fault ∧ fault.text? = none) ↔
      ∃ raw fault, query = .text raw ∧ fault.text? = none ∧
        executor.validator.validate executor.schema (.ready (.ofRaw raw)) = .error fault := by
  unfold validated
  cases query with
  | text raw =>
      simp only [Value.textFor, Value.text.injEq, exists_and_left, exists_eq_left']
      cases executor.validator.validate executor.schema (.ready (.ofRaw raw)) with
      | error fault => simp
      | ok passed => simp
  | _ => simp [Value.textFor, Fault.text?, Fault.message]

theorem declaredLabel_eq_ok_iff (schema : Schema) (label : Value) (identifier : Identifier) :
    declaredLabel schema label = .ok identifier ↔
      label = .text identifier.name ∧ schema.hasLabel identifier.name = true := by
  rw [← Identifier.ofValue_eq_ok_iff "label"]
  unfold declaredLabel
  cases Identifier.ofValue "label" label with
  | error fault => simp only [reduceCtorEq, false_and]
  | ok found =>
      simp only [Except.ok.injEq]
      split
      · next declared =>
          constructor
          · intro same
            cases same
            exact ⟨rfl, declared⟩
          · rintro ⟨same, _⟩
            rw [same]
      · next undeclared =>
          simp only [reduceCtorEq, false_iff]
          rintro ⟨same, declared⟩
          rw [← same] at declared
          exact undeclared declared

private theorem tellsFault_declaredLabel (schema : Schema) (label : Value) :
    TellsFault (declaredLabel schema label) := by
  have tells : TellsFault (Identifier.ofValue "label" label) := by
    unfold Identifier.ofValue
    split
    · exact .of_ok _
    · refine TellsFault.bind (.of_writing _) (fun written => ?_)
      rintro _ ⟨⟩
      simp [Fault.text?, Fault.message]
  unfold declaredLabel
  split
  · next fault failed =>
      rintro _ ⟨⟩
      exact tells fault failed
  · split
    · exact .of_ok _
    · rintro _ ⟨⟩
      simp [Fault.text?, Fault.message, Rejection.reason, Value.shown?]

def sentText (executor : Executor) (query : Value) : Except Fault String := do
  let ready ← executor.validated query
  executor.limited ready

theorem sentText_eq_ok_iff (executor : Executor) (query : Value) (text : String) :
    executor.sentText query = .ok text ↔
      ∃ raw, query = .text raw ∧
        executor.validator.validate executor.schema (.ready (.ofRaw raw)) = .ok () ∧
        executor.limited (.ofRaw raw) = .ok text := by
  simp only [sentText, bind_eq_ok_iff, validated_eq_ok_iff]
  constructor
  · rintro ⟨_, ⟨raw, same, accepted, rfl⟩, limited⟩
    exact ⟨raw, same, accepted, limited⟩
  · rintro ⟨raw, same, accepted, limited⟩
    exact ⟨_, ⟨raw, same, accepted, rfl⟩, limited⟩

private theorem tellsFault_limited (executor : Executor) (ready : Query) :
    TellsFault (executor.limited ready) := by
  unfold limited
  split
  · exact .of_ok _
  · exact .of_writing _

theorem sentText_untold_iff (executor : Executor) (query : Value) :
    (∃ fault, executor.sentText query = .error fault ∧ fault.text? = none) ↔
      ∃ fault, executor.validated query = .error fault ∧ fault.text? = none := by
  unfold sentText
  cases executor.validated query with
  | error fault =>
      have stays : (Except.error fault >>= fun ready => executor.limited ready) = .error fault := rfl
      rw [stays]
      simp
  | ok ready =>
      refine iff_of_false ?_ (by simp)
      rintro ⟨fault, failed, untold⟩
      exact tellsFault_limited executor ready fault failed untold

def labelAndClause (schema : Schema) (label term : Value) :
    Except Fault (Identifier × WhereClause) := do
  let label ← declaredLabel schema label
  let clause ← nodeCompiler.compile (some (nameFilter term))
  return (label, clause)

def nameClause (shown : String) : WhereClause :=
  { text := "toLower(n.name) CONTAINS $_filter_0"
    parameters := [("_filter_0", .text (lowerText shown))] }

private theorem compile_nameFilter (term : Value) :
    nodeCompiler.compile (some (nameFilter term)) = (writing term.shown?).map nameClause := by
  have literals : (nameFilter term).literals =
      (writing term.shown?).map (fun shown => [.text (lowerText shown)]) := by
    rw [nameFilter, Filter.literals]
  rw [Compiler.compile]
  cases told : term.shown? with
  | none =>
      rw [told] at literals
      rw [literals]
      rfl
  | some shown =>
      rw [told] at literals
      rw [literals]
      rfl

theorem labelAndClause_eq_ok_iff (schema : Schema) (label term : Value)
    (checked : Identifier × WhereClause) :
    labelAndClause schema label term = .ok checked ↔
      declaredLabel schema label = .ok checked.1 ∧
        ∃ shown, term.shown? = some shown ∧ nameClause shown = checked.2 := by
  simp only [labelAndClause, compile_nameFilter, bind_eq_ok_iff, map_eq_ok_iff, writing_eq_ok_iff]
  constructor
  · rintro ⟨identifier, passed, clause, told, same⟩
    cases same
    exact ⟨passed, told⟩
  · rintro ⟨passed, told⟩
    exact ⟨_, passed, _, told, rfl⟩

private theorem tellsFault_labelAndClause (schema : Schema) (label term : Value) :
    TellsFault (labelAndClause schema label term) := by
  rw [labelAndClause, compile_nameFilter]
  refine (tellsFault_declaredLabel schema label).bind (fun _ => ?_)
  exact ((TellsFault.of_writing _).map nameClause).bind (fun _ => .of_ok _)

def labelAndLimit (executor : Executor) (label limit : Value) :
    Except Fault (Identifier × Value) := do
  let label ← declaredLabel executor.schema label
  let number ← limit.toInteger.mapError .integer
  let bounded ← executor.announcedLimit number
  return (label, bounded)

theorem labelAndLimit_eq_ok_iff (executor : Executor) (label limit : Value)
    (checked : Identifier × Value) :
    executor.labelAndLimit label limit = .ok checked ↔
      declaredLabel executor.schema label = .ok checked.1 ∧
        ∃ number shown, limit.toInteger = .ok number ∧
          (executor.boundedLimit number).shown? = some shown ∧
          executor.boundedLimit number = checked.2 := by
  simp only [labelAndLimit, announcedLimit, bind_eq_ok_iff, mapError_eq_ok_iff, map_eq_ok_iff,
    writing_eq_ok_iff]
  constructor
  · rintro ⟨identifier, passed, number, numeral, bounded, ⟨shown, told, rfl⟩, same⟩
    cases same
    exact ⟨passed, number, shown, numeral, told, rfl⟩
  · rintro ⟨passed, number, shown, numeral, told, same⟩
    exact ⟨_, passed, number, numeral, _, ⟨shown, told, same⟩, rfl⟩

private theorem tellsFault_labelAndLimit (executor : Executor) (label limit : Value) :
    TellsFault (executor.labelAndLimit label limit) := by
  refine (tellsFault_declaredLabel executor.schema label).bind (fun _ => ?_)
  refine (TellsFault.of_integer limit.toInteger).bind (fun _ => ?_)
  exact ((TellsFault.of_writing _).map _).bind (fun _ => .of_ok _)

/-- A label without a text is not declared. -/
theorem exists_fault_of_shown_eq_none (schema : Schema) (untold : label.shown? = none) :
    ∃ fault, declaredLabel schema label = .error fault := by
  cases passed : declaredLabel schema label with
  | error fault => exact ⟨fault, rfl⟩
  | ok identifier =>
      obtain ⟨rfl, _⟩ := (declaredLabel_eq_ok_iff _ _ _).mp passed
      cases untold

end

/-! ### Guards of the tools -/

def rowsThen {β : Type} (use : List Row → Except Fault β) (result : QueryResult) :
    Except Fault β :=
  accessing result.rows >>= use

theorem rowsThen_eq_ok_iff {β : Type} {use : List Row → Except Fault β} {result : QueryResult}
    {value : β} :
    rowsThen use result = .ok value ↔ ∃ rows, result.rows = .ok rows ∧ use rows = .ok value := by
  simp only [rowsThen, accessing, bind_eq_ok_iff, mapError_eq_ok_iff]

theorem tellsFault_rowsThen {β : Type} {use : List Row → Except Fault β}
    (tells : ∀ rows, TellsFault (use rows)) (result : QueryResult) :
    TellsFault (rowsThen use result) :=
  (TellsFault.of_accessing _).bind tells

theorem rowsOf_bind_of {β : Type} (use : List Row → Except Fault β) (result : QueryResult) :
    (rowsOf result >>= fun rows => Attempt.of (use rows)) = .of (rowsThen use result) :=
  Attempt.of_bind_of (accessing result.rows) use

def countGuard (executor : Executor) (query : Value) : Guard Query String where
  check := executor.validated query
  request ready := { query := ready.text, parameters := none }
  read _ := rowsThen (fun rows => countOf rows >>= fun count => writing count.shown?)
  success count := some ("Count: " ++ count)
  failure fault :=
    fault.textOrKind?.map (fun message => failure message (countAdvice message))

def rowsGuard (executor : Executor) (query : Value) : Guard String (List Row) where
  check := executor.sentText query
  request text := { query := text, parameters := none }
  read _ := rowsThen .ok
  success := rowsText?
  failure fault := fault.textOrKind?.map (fun message => failure message (advice message))

def valuesGuard (executor : Executor) (query : Value) : Guard String (List String) where
  check := executor.sentText query
  request text := { query := text, parameters := none }
  read _ := rowsThen (fun rows => writing ((valuesOf rows).mapM Value.shown?))
  success values := some (valuesText values)
  failure fault :=
    fault.text?.map (fun text => failure ("Error executing values query: " ++ text) mendAdvice)

def findGuard (executor : Executor) (label term : Value) :
    Guard (Identifier × WhereClause) (Identifier × List Row) where
  check := labelAndClause executor.schema label term
  request checked :=
    { query := findText checked.1 checked.2.text, parameters := some checked.2.parameters }
  read checked := rowsThen (fun rows => .ok (checked.1, rows))
  success found := foundText? found.1.name term found.2
  failure fault :=
    fault.text?.map (fun text => failure ("Error finding entity: " ++ text)
      "Please check the label name and try again with a different search term.")

def listGuard (executor : Executor) (label limit : Value) :
    Guard (Identifier × Value) (Identifier × List Row) where
  check := executor.labelAndLimit label limit
  request checked := { query := listText checked.1, parameters := some [("limit", checked.2)] }
  read checked := rowsThen (fun rows => .ok (checked.1, rows))
  success listed := listedText? listed.1.name listed.2
  failure fault := do
    let label ← label.shown?
    let text ← fault.text?
    return "ERROR: Error listing " ++ label ++ ": " ++ text

private theorem rowsOf_eq (result : QueryResult) : rowsOf result = .of (rowsThen .ok result) := by
  unfold rowsOf rowsThen
  cases accessing result.rows with
  | error fault => rfl
  | ok rows => rfl

private theorem rowsAttempt_eq (executor : Executor) (graph : Graph) (query : Value) :
    executor.rowsAttempt graph query = (executor.rowsGuard query).attempt graph := by
  simp only [rowsAttempt, rowsOf_eq, Guard.attempt, rowsGuard, sentText, ← Attempt.of_bind_of,
    Attempt.bind_assoc]

private theorem valuesAttempt_eq (executor : Executor) (graph : Graph) (query : Value) :
    executor.valuesAttempt graph query = (executor.valuesGuard query).attempt graph := by
  simp only [valuesAttempt, rowsAttempt, Guard.attempt, valuesGuard, sentText,
    ← Attempt.of_bind_of, Attempt.bind_assoc, ← rowsOf_bind_of]

private theorem countTextAttempt_eq (executor : Executor) (graph : Graph) (query : Value) :
    executor.countTextAttempt graph query = (executor.countGuard query).attempt graph := by
  simp only [countTextAttempt, countAttempt, Guard.attempt, countGuard, Attempt.bind_assoc,
    ← Attempt.of_bind_of, ← rowsOf_bind_of]

private theorem findAttempt_eq (executor : Executor) (graph : Graph) (label term : Value) :
    executor.findAttempt graph label term = (executor.findGuard label term).attempt graph := by
  simp only [findAttempt, Guard.attempt, findGuard, labelAndClause, Attempt.bind_assoc,
    ← Attempt.of_bind_of, ← rowsOf_bind_of]
  rfl

private theorem listAttempt_eq (executor : Executor) (graph : Graph) (label limit : Value) :
    executor.listAttempt graph label limit = (executor.listGuard label limit).attempt graph := by
  simp only [listAttempt, Guard.attempt, listGuard, labelAndLimit, Attempt.bind_assoc,
    ← Attempt.of_bind_of, ← rowsOf_bind_of]
  rfl

/-! ### What the guards permit, read and cannot tell -/

theorem refusesUntold_iff (executor : Executor) (call : ToolCall) {query : Value}
    (written : call.query? = some query) :
    executor.RefusesUntold call ↔
      ∃ fault, executor.validated query = .error fault ∧ fault.text? = none := by
  have notListed : ¬∃ label limit, call = .list label limit ∧ label.shown? = none := by
    rintro ⟨label, limit, rfl, _⟩
    cases written
  rw [validated_untold_iff, RefusesUntold, written, or_iff_left notListed]
  simp only [Option.some.injEq]

theorem countOf_eq_ok_iff {rows : List Row} {number : Value} :
    countOf rows = .ok number ↔ QueryResult.count? rows = some number := by
  unfold countOf
  cases QueryResult.count? rows with
  | none => simp
  | some found => simp

theorem forall_shown_iff (values : List Value) :
    (∀ value ∈ values, value.shown? ≠ none) ↔
      ∃ texts, values.mapM Value.shown? = some texts := by
  rw [← Option.ne_none_iff_exists', ne_eq, mapM_eq_none_iff]
  simp only [not_exists, not_and, ne_eq]

theorem textOrKind?_eq_none_iff (fault : Fault) : fault.textOrKind? = none ↔ fault.text? = none :=
  Option.map_eq_none_iff

theorem exists_sentText_iff {executor : Executor} {query : Value} {sent : Request} :
    (∃ text, executor.sentText query = .ok text ∧
        { query := text, parameters := none } = sent) ↔
      ∃ raw text, query = .text raw ∧
        executor.validator.validate executor.schema (.ready (.ofRaw raw)) = .ok () ∧
        executor.limited (.ofRaw raw) = .ok text ∧ { query := text, parameters := none } = sent := by
  simp only [sentText_eq_ok_iff]
  grind

private theorem countGuard_fits (executor : Executor) (query : Value) :
    (executor.countGuard query).Fits (executor.Permits (.count query)) (ToolCall.count query).Reads
      (executor.RefusesUntold (.count query)) (ToolCall.count query).ShowsUntold where
  permits_iff sent := by
    constructor
    · intro permitted
      cases permitted with
      | count accepted =>
          exact ⟨_, (validated_eq_ok_iff _ _ _).mpr ⟨_, rfl, accepted, rfl⟩, rfl⟩
    · rintro ⟨ready, passed, rfl⟩
      obtain ⟨raw, rfl, accepted, rfl⟩ := (validated_eq_ok_iff _ _ _).mp passed
      exact .count accepted
  reads_iff _ result := by
    simp only [ToolCall.Reads, countGuard, rowsThen_eq_ok_iff, bind_eq_ok_iff, countOf_eq_ok_iff,
      writing_eq_ok_iff, Option.ne_none_iff_exists']
    grind
  refusesUntold_iff := by
    simp only [refusesUntold_iff executor (.count query) rfl, countGuard,
      Option.map_eq_none_iff, textOrKind?_eq_none_iff]
  failure_eq_none_iff _ _ fault := by
    simp only [countGuard, Option.map_eq_none_iff, textOrKind?_eq_none_iff]
  tellsFault _ := tellsFault_rowsThen fun rows => by
    refine TellsFault.bind ?_ (fun _ => .of_writing _)
    unfold countOf
    split
    · exact .of_ok _
    · rintro _ ⟨⟩
      simp [Fault.text?, Fault.message]
  showsUntold_iff _ result _ := by
    simp [ToolCall.ShowsUntold, ToolCall.shownValues, LacksText, countGuard]
  success count text told := by
    cases told
    have opens : OpensWith 'C' "Count: " := by decide
    exact (opens.append _).not_isErrorText (by decide)
  failure _ _ := isErrorText_of_failure

private theorem rowsGuard_fits (executor : Executor) (query : Value) :
    (executor.rowsGuard query).Fits (executor.Permits (.rows query)) (ToolCall.rows query).Reads
      (executor.RefusesUntold (.rows query)) (ToolCall.rows query).ShowsUntold where
  permits_iff sent := by
    rw [rowsGuard, exists_sentText_iff]
    constructor
    · intro permitted
      cases permitted with
      | rows accepted limited => exact ⟨_, _, rfl, accepted, limited, rfl⟩
    · rintro ⟨raw, text, rfl, accepted, limited, rfl⟩
      exact .rows accepted limited
  reads_iff _ result := by
    simp [ToolCall.Reads, rowsGuard, rowsThen_eq_ok_iff]
  refusesUntold_iff := by
    simp only [refusesUntold_iff executor (.rows query) rfl, rowsGuard,
      Option.map_eq_none_iff, textOrKind?_eq_none_iff, sentText_untold_iff]
  failure_eq_none_iff _ _ fault := by
    simp only [rowsGuard, Option.map_eq_none_iff, textOrKind?_eq_none_iff]
  tellsFault _ := tellsFault_rowsThen fun _ => .of_ok _
  showsUntold_iff _ result _ := by
    simp [ToolCall.ShowsUntold, ToolCall.shownValues, rowsGuard, rowsThen_eq_ok_iff,
      rowsText?_eq_none_iff]
  success _ _ := not_isErrorText_rowsText
  failure _ _ := isErrorText_of_failure

private theorem valuesGuard_fits (executor : Executor) (query : Value) :
    (executor.valuesGuard query).Fits (executor.Permits (.values query))
      (ToolCall.values query).Reads (executor.RefusesUntold (.values query))
      (ToolCall.values query).ShowsUntold where
  permits_iff sent := by
    rw [valuesGuard, exists_sentText_iff]
    constructor
    · intro permitted
      cases permitted with
      | values accepted limited => exact ⟨_, _, rfl, accepted, limited, rfl⟩
    · rintro ⟨raw, text, rfl, accepted, limited, rfl⟩
      exact .values accepted limited
  reads_iff _ result := by
    simp only [ToolCall.Reads, valuesGuard, rowsThen_eq_ok_iff, writing_eq_ok_iff,
      forall_shown_iff]
    grind
  refusesUntold_iff := by
    simp only [refusesUntold_iff executor (.values query) rfl, valuesGuard,
      Option.map_eq_none_iff, sentText_untold_iff]
  failure_eq_none_iff _ _ fault := by
    simp only [valuesGuard, Option.map_eq_none_iff]
  tellsFault _ := tellsFault_rowsThen fun _ => .of_writing _
  showsUntold_iff _ result _ := by
    simp [ToolCall.ShowsUntold, ToolCall.shownValues, LacksText, valuesGuard]
  success values text told := by
    cases told
    exact not_isErrorText_valuesText values
  failure _ _ := isErrorText_of_failure

private theorem findGuard_fits (executor : Executor) (label term : Value) :
    (executor.findGuard label term).Fits (executor.Permits (.find label term))
      (ToolCall.find label term).Reads (executor.RefusesUntold (.find label term))
      (ToolCall.find label term).ShowsUntold where
  permits_iff sent := by
    simp only [findGuard, labelAndClause_eq_ok_iff, declaredLabel_eq_ok_iff]
    constructor
    · intro permitted
      cases permitted with
      | find declared hasText =>
          exact ⟨(_, nameClause _), ⟨⟨rfl, declared⟩, _, hasText, rfl⟩, rfl⟩
    · rintro ⟨⟨identifier, _⟩, ⟨⟨rfl, declared⟩, _, hasText, rfl⟩, rfl⟩
      exact .find declared hasText
  reads_iff _ result := by
    simp [ToolCall.Reads, findGuard, rowsThen_eq_ok_iff]
  refusesUntold_iff := by
    refine iff_of_false ?_ ?_
    · rintro (⟨_, _, impossible, _⟩ | ⟨_, _, impossible, _⟩)
      · cases impossible
      · cases impossible
    · rintro ⟨fault, failed, untold⟩
      exact tellsFault_labelAndClause _ _ _ fault failed (Option.map_eq_none_iff.mp untold)
  failure_eq_none_iff _ _ fault := by
    simp only [findGuard, Option.map_eq_none_iff]
  tellsFault _ := tellsFault_rowsThen fun _ => .of_ok _
  showsUntold_iff checked result passed := by
    obtain ⟨_, shown, hasText, _⟩ := (labelAndClause_eq_ok_iff _ _ _ _).mp passed
    simp [ToolCall.ShowsUntold, ToolCall.shownValues, findGuard, rowsThen_eq_ok_iff,
      foundText?_eq_none_iff _ hasText]
  success _ _ := not_isErrorText_foundText
  failure _ _ := isErrorText_of_failure

theorem listFailure_eq_none_iff (label : Value) (fault : Fault) :
    (do let label ← label.shown?; let text ← fault.text?
        return "ERROR: Error listing " ++ label ++ ": " ++ text) = none ↔
      label.shown? = none ∨ fault.text? = none := by
  cases label.shown? with
  | none => simp
  | some label =>
      cases fault.text? with
      | none => simp
      | some text => simp

private theorem listGuard_fits (executor : Executor) (label limit : Value) :
    (executor.listGuard label limit).Fits (executor.Permits (.list label limit))
      (ToolCall.list label limit).Reads (executor.RefusesUntold (.list label limit))
      (ToolCall.list label limit).ShowsUntold where
  permits_iff sent := by
    simp only [listGuard, labelAndLimit_eq_ok_iff, declaredLabel_eq_ok_iff]
    constructor
    · intro permitted
      cases permitted with
      | list declared numeral hasText =>
          exact ⟨(_, _), ⟨⟨rfl, declared⟩, _, _, numeral, hasText, rfl⟩, rfl⟩
    · rintro ⟨⟨identifier, _⟩, ⟨⟨rfl, declared⟩, _, _, numeral, hasText, rfl⟩, rfl⟩
      exact .list declared numeral hasText
  reads_iff _ result := by
    simp [ToolCall.Reads, listGuard, rowsThen_eq_ok_iff]
  refusesUntold_iff := by
    simp only [RefusesUntold, ToolCall.query?, reduceCtorEq, false_and, exists_const, false_or,
      ToolCall.list.injEq]
    constructor
    · rintro ⟨_, _, ⟨rfl, _⟩, untold⟩
      obtain ⟨fault, failed⟩ := exists_fault_of_shown_eq_none executor.schema untold
      refine ⟨fault, ?_, ?_⟩
      · rw [listGuard, labelAndLimit, failed]
        rfl
      · rw [listGuard, untold]
        rfl
    · rintro ⟨fault, failed, untold⟩
      refine ⟨label, limit, ⟨rfl, rfl⟩, ?_⟩
      obtain noLabel | noText := (listFailure_eq_none_iff _ _).mp untold
      · exact noLabel
      · exact absurd noText (tellsFault_labelAndLimit _ _ _ _ failed)
  failure_eq_none_iff checked passed fault := by
    obtain ⟨declared, _⟩ := (labelAndLimit_eq_ok_iff _ _ _ _).mp passed
    obtain ⟨rfl, _⟩ := (declaredLabel_eq_ok_iff _ _ _).mp declared
    exact (listFailure_eq_none_iff _ _).trans (or_iff_right nofun)
  tellsFault _ := tellsFault_rowsThen fun _ => .of_ok _
  showsUntold_iff checked result passed := by
    simp [ToolCall.ShowsUntold, ToolCall.shownValues, listGuard, rowsThen_eq_ok_iff,
      listedText?_eq_none_iff]
  success _ _ := not_isErrorText_listedText
  failure fault text told := by
    obtain ⟨label, _, told⟩ := Option.bind_eq_some_iff.mp told
    obtain ⟨message, _, told⟩ := Option.bind_eq_some_iff.mp told
    cases told
    have start : isErrorText "ERROR: Error listing " := by
      refine ⟨"Error listing ".toList, ?_⟩
      decide
    exact ((start.append _).append ": ").append _

/-! ### The boundary -/

private theorem perform_count (executor : Executor) (graph : Graph) (query : Value) :
    executor.perform graph (.count query) = (executor.countGuard query).reply graph := by
  rw [perform, count, countTextAttempt_eq]
  rfl

private theorem perform_rows (executor : Executor) (graph : Graph) (query : Value) :
    executor.perform graph (.rows query) = (executor.rowsGuard query).reply graph := by
  rw [perform, rows, rowsAttempt_eq]
  rfl

private theorem perform_values (executor : Executor) (graph : Graph) (query : Value) :
    executor.perform graph (.values query) = (executor.valuesGuard query).reply graph := by
  rw [perform, values, valuesAttempt_eq]
  rfl

private theorem perform_find (executor : Executor) (graph : Graph) (label term : Value) :
    executor.perform graph (.find label term) = (executor.findGuard label term).reply graph := by
  rw [perform, find, findAttempt_eq]
  rfl

private theorem perform_list (executor : Executor) (graph : Graph) (label limit : Value) :
    executor.perform graph (.list label limit) =
      (executor.listGuard label limit).reply graph := by
  rw [perform, list, listAttempt_eq]
  rfl

/-- Each call has a guard that fits it. -/
theorem exists_guard (executor : Executor) (call : ToolCall) :
    ∃ (α β : Type) (guard : Guard α β),
      (∀ graph, executor.perform graph call = guard.reply graph) ∧
      guard.Fits (executor.Permits call) call.Reads (executor.RefusesUntold call)
        call.ShowsUntold := by
  cases call with
  | count query =>
      exact ⟨_, _, _, (perform_count executor · query), countGuard_fits executor query⟩
  | rows query => exact ⟨_, _, _, (perform_rows executor · query), rowsGuard_fits executor query⟩
  | values query =>
      exact ⟨_, _, _, (perform_values executor · query), valuesGuard_fits executor query⟩
  | find label term =>
      exact ⟨_, _, _, (perform_find executor · label term), findGuard_fits executor label term⟩
  | list label limit =>
      exact ⟨_, _, _, (perform_list executor · label limit), listGuard_fits executor label limit⟩

/-- What is sent is what is permitted. -/
theorem mem_sent_iff (executor : Executor) (graph : Graph) (call : ToolCall) (request : Request) :
    request ∈ (executor.perform graph call).sent ↔ executor.Permits call request := by
  obtain ⟨_, _, guard, same, fits⟩ := exists_guard executor call
  rw [same]
  exact (fits.bounded graph).permitted request

/-- The tools are a safe boundary, whatever the validator judges and whatever the graph
answers. A call sends at most one request, and the request it sends is the one that its
checks permit. The reply is the message of an error if and only if nothing is permitted, the
graph raised a fault or its answer cannot be read. There is a reply unless what it would tell
has no text. -/
theorem perform_boundary (executor : Executor) (graph : Graph) (call : ToolCall) :
    (executor.perform graph call).Bounded (executor.Permits call) call.Reads
      (executor.RefusesUntold call) call.ShowsUntold graph := by
  obtain ⟨_, _, guard, same, fits⟩ := exists_guard executor call
  rw [same]
  exact fits.bounded graph

/-! ### Answers that are read -/

theorem outcome_rows {executor : Executor} {graph : Graph} {query : Value} {text : String}
    {result : QueryResult} {rows : List Row} (passed : executor.sentText query = .ok text)
    (answered : graph { query := text, parameters := none } = .ok result)
    (read : result.rows = .ok rows) :
    (executor.perform graph (.rows query)).outcome = writing (rowsText? rows) := by
  have isRead : (executor.rowsGuard query).read text result = .ok rows :=
    rowsThen_eq_ok_iff.mpr ⟨rows, read, rfl⟩
  rw [perform_rows, Guard.reply_of_read passed answered isRead]
  rfl

theorem outcome_count {executor : Executor} {graph : Graph} {query : Value} {ready : Query}
    {result : QueryResult} {rows : List Row} {number : Value} {text : String}
    (passed : executor.validated query = .ok ready)
    (answered : graph { query := ready.text, parameters := none } = .ok result)
    (read : result.rows = .ok rows) (counted : QueryResult.count? rows = some number)
    (shown : number.shown? = some text) :
    (executor.perform graph (.count query)).outcome = .ok ("Count: " ++ text) := by
  have isRead : (executor.countGuard query).read ready result = .ok text :=
    rowsThen_eq_ok_iff.mpr ⟨rows, read, bind_eq_ok_iff.mpr
      ⟨number, countOf_eq_ok_iff.mpr counted, writing_eq_ok_iff.mpr shown⟩⟩
  rw [perform_count, Guard.reply_of_read passed answered isRead]
  rfl

private theorem outcome_values {executor : Executor} {graph : Graph} {query : Value} {text : String}
    {result : QueryResult} {rows : List Row} {texts : List String}
    (passed : executor.sentText query = .ok text)
    (answered : graph { query := text, parameters := none } = .ok result)
    (read : result.rows = .ok rows) (shown : (valuesOf rows).mapM Value.shown? = some texts) :
    (executor.perform graph (.values query)).outcome = .ok (valuesText texts) := by
  have isRead : (executor.valuesGuard query).read text result = .ok texts :=
    rowsThen_eq_ok_iff.mpr ⟨rows, read, writing_eq_ok_iff.mpr shown⟩
  rw [perform_values, Guard.reply_of_read passed answered isRead]
  rfl

/-! ### Towns -/

def townSchema : Schema :=
  { nodeTypes := [{ label := "Town", labels := ["Town"], description := "", properties := [] }]
    relationships := [] }

def townExecutor : Executor :=
  { schema := townSchema, validator := .standard (.bool true), maximum := .int 100 }

theorem townExecutor_accepts {raw : String}
    (judged : (townExecutor.validator.validate townSchema (.ready (.ofRaw raw))).isOk = true) :
    townExecutor.validator.validate townExecutor.schema (.ready (.ofRaw raw)) = .ok () := by
  change townExecutor.validator.validate townSchema (.ready (.ofRaw raw)) = .ok ()
  cases outcome : townExecutor.validator.validate townSchema (.ready (.ofRaw raw)) with
  | ok done => rfl
  | error fault =>
      rw [outcome] at judged
      cases judged

theorem townExecutor_limited (raw : String) :
    townExecutor.limited (.ofRaw raw) = .ok (withLimit "100" (normalize raw)) := by
  have shown : townExecutor.maximum.shown? = some "100" := by decide
  rw [limited, shown]
  rfl

private theorem townExecutor_sentText {raw text : String}
    (judged : (townExecutor.validator.validate townSchema (.ready (.ofRaw raw))).isOk = true)
    (limited : withLimit "100" (normalize raw) = text) :
    townExecutor.sentText (.text raw) = .ok text := by
  refine (sentText_eq_ok_iff _ _ _).mpr ⟨raw, rfl, townExecutor_accepts judged, ?_⟩
  rw [townExecutor_limited, limited]

private def oneCell (column : String) (cell : Value) : QueryResult :=
  { cells := .list [.list [cell]], header := .list [.text column], statistics := .null }

private theorem rows_oneCell (column : String) (cell : Value) :
    (oneCell column cell).rows = .ok [[(.text column, cell)]] :=
  rfl

private def namesText : String :=
  "MATCH (t:Town) RETURN t.name AS name"

private theorem townExecutor_namesText :
    townExecutor.sentText (.text namesText) = .ok (namesText ++ "\nLIMIT 100") :=
  townExecutor_sentText (by decide +kernel) (by decide +kernel)

/-- A row that holds an integer with too many digits is read but cannot be shown. Where the
values of a query are asked for and no row has any, nothing tells that their column is
missing. -/
theorem rows_untold_and_values_missed :
    (townExecutor.perform (fun _ => .ok (oneCell "name" (.int (10 ^ Number.longestInteger))))
      (.rows (.text namesText))).outcome = .error (.integer .unwritable) ∧
    (townExecutor.perform (fun _ => .ok (oneCell "name" (.text "Ulm")))
      (.values (.text namesText))).outcome = .ok "No values found." := by
  constructor
  · have large : ∀ digits, 10 ^ digits ≤ ((10 : Int) ^ digits).natAbs :=
      fun digits => Nat.le_of_eq (Int.natAbs_pow 10 digits).symm
    have untold := Value.shown?_of_large (large Number.longestInteger)
    have noText : rowsText? [[(.text "name", .int (10 ^ Number.longestInteger))]] = none :=
      (rowsText?_eq_none_iff _).mpr ⟨_, by simp, untold⟩
    rw [outcome_rows townExecutor_namesText rfl (rows_oneCell _ _), noText]
    rfl
  · rw [outcome_values townExecutor_namesText rfl (rows_oneCell _ _) rfl]
    rfl

end Executor

end QueryWarden
