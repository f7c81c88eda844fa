/-
Searching names whatever their case. The word that is searched for is bound in lower case
and looked for in the lower case of the name. It is found in every name that holds it as it
is written, except where a sigma stands at one of its ends.
-/

import QueryWarden.Proofs.Filter.Meaning
import QueryWarden.Proofs.Text.Sigma
import QueryWarden.Proofs.Tool.ReadOnly

namespace QueryWarden

open Text

/-! ### Clauses about lower case -/

namespace WhereClause

def foldedContains? (clause : WhereClause) (property held : String) : Option Bool :=
  match after? ("toLower(" ++ property ++ ") CONTAINS $").toList clause.text.toList with
  | none => none
  | some name =>
      match clause.parameters.lookup (String.ofList name) with
      | some (.text bound) => some (occurs bound.toList (lower held.toList))
      | _ => none

def Finds (clause : WhereClause) (property word : String) : Prop :=
  ∀ held : String, occurs word.toList held.toList = true →
    clause.foldedContains? property held = some true

/-- The clause speaks of lower case at every text, and it is true of every text that holds the
word as it is written if and only if the sigmas of the word are settled. -/
structure FindsSettled (clause : WhereClause) (property word : String) : Prop where
  reads : ∀ held, (clause.foldedContains? property held).isSome = true
  finds_iff : clause.Finds property word ↔ IsSettled word.toList

end WhereClause

def Compiler.foldedClause (compiler : Compiler) (key : Identifier) (word : String) : WhereClause :=
  { text := compiler.text (.compareFolded .contains key (.text word)) 0
    parameters := [(compiler.parameter 0, .text (lowerText word))] }

private theorem Compiler.compile_foldedContains (compiler : Compiler) (key : Identifier)
    {value : Value}
    {shown : String} (hasText : value.shown? = some shown) :
    compiler.compile (some (.compareFolded .contains key value)) =
      .ok (compiler.foldedClause key shown) := by
  have literals : (Filter.compareFolded .contains key value).literals =
      .ok [.text (lowerText shown)] := by
    rw [Filter.literals, hasText]
    rfl
  rw [Compiler.compile_of_literals _ literals]
  rfl

private theorem Compiler.text_foldedClause (compiler : Compiler) (key : Identifier)
    (word : String) :
    (compiler.foldedClause key word).text =
      "toLower(" ++ compiler.property key ++ ") CONTAINS $" ++ compiler.parameter 0 := by
  have written : (compiler.foldedClause key word).text =
      "toLower(" ++ compiler.property key ++ ") " ++ "CONTAINS" ++ " " ++
        ("$" ++ compiler.parameter 0) := rfl
  have joined : ") CONTAINS $" = ") " ++ ("CONTAINS" ++ (" " ++ "$")) := rfl
  rw [written, joined]
  simp only [String.append_assoc]

theorem Compiler.foldedContains?_foldedClause (compiler : Compiler) (key : Identifier)
    (word held : String) :
    (compiler.foldedClause key word).foldedContains? (compiler.property key) held =
      some (occurs (lower word.toList) (lower held.toList)) := by
  have split : after? ("toLower(" ++ compiler.property key ++ ") CONTAINS $").toList
      (compiler.foldedClause key word).text.toList = some (compiler.parameter 0).toList := by
    rw [after?_eq_some_iff, text_foldedClause, String.toList_append]
  have bound : (compiler.foldedClause key word).parameters.lookup
      (String.ofList (compiler.parameter 0).toList) = some (.text (lowerText word)) := by
    rw [String.ofList_toList]
    exact List.lookup_cons_self
  rw [WhereClause.foldedContains?, split]
  dsimp only
  rw [bound]
  dsimp only
  rw [lowerText, String.toList_ofList]

/-- A clause finds its word wherever it is written exactly if the sigmas of the word are
settled. -/
theorem Compiler.finds_foldedClause_iff (compiler : Compiler) (key : Identifier)
    (word : String) :
    (compiler.foldedClause key word).Finds (compiler.property key) word ↔
      IsSettled word.toList := by
  rw [← occurs_lower_iff_isSettled]
  unfold WhereClause.Finds
  simp only [foldedContains?_foldedClause, Option.some.injEq]
  constructor
  · intro finds letters found
    have here := finds (String.ofList letters) (by rwa [String.toList_ofList])
    rwa [String.toList_ofList] at here
  · intro finds held found
    exact finds held.toList found

theorem Compiler.findsSettled_foldedClause (compiler : Compiler) (key : Identifier)
    (word : String) :
    (compiler.foldedClause key word).FindsSettled (compiler.property key) word where
  reads held := by
    rw [foldedContains?_foldedClause]
    rfl
  finds_iff := compiler.finds_foldedClause_iff key word

/-! ### Requests for names -/

namespace Executor

private theorem exists_foldedClause_of_find {executor : Executor} {graph : Graph}
    {label term : Value}
    {request : Request} (sent : request ∈ (executor.find graph label term).sent) :
    ∃ (shown : String) (identifier : Identifier), term.shown? = some shown ∧
      label = .text identifier.name ∧
      request.query = findText identifier (nodeCompiler.foldedClause nameKey shown).text ∧
      request.parameters = some (nodeCompiler.foldedClause nameKey shown).parameters := by
  have permitted := (mem_sent_iff executor graph (.find label term) request).mp sent
  cases permitted with
  | find declared hasText => exact ⟨_, _, hasText, rfl, rfl, rfl⟩

/-- How a word is found whatever its case: by the clauses that are compiled and by those of
requests for a name, as far as its sigmas let them. Nothing but the form of a sigma is missed:
with one form for both, the word is found wherever it is. -/
structure FindsFolded (executor : Executor) (graph : Graph) (compiler : Compiler)
    (key : Identifier) (label word : Value) : Prop where
  compiled : ∀ shown, word.shown? = some shown →
    ∃ clause, compiler.compile (some (.compareFolded .contains key word)) = .ok clause ∧
      clause.FindsSettled (compiler.property key) shown
  requested : ∀ request ∈ (executor.find graph label word).sent,
    ∃ (shown : String) (identifier : Identifier) (clause : WhereClause),
      word.shown? = some shown ∧ label = .text identifier.name ∧
        request.query = findText identifier clause.text ∧
        request.parameters = some clause.parameters ∧ clause.FindsSettled "n.name" shown
  plain : ∀ shown, word.shown? = some shown → ∀ held, occurs shown.toList held = true →
    occurs ((lower shown.toList).map plainSigma) ((lower held).map plainSigma) = true

/-- Every word that has a text is found so, whatever the compiler, the key and the label. -/
theorem folded_finds_iff (compiler : Compiler) (key : Identifier) (executor : Executor)
    (graph : Graph) (label word : Value) :
    executor.FindsFolded graph compiler key label word where
  compiled shown hasText :=
    ⟨_, compiler.compile_foldedContains key hasText, compiler.findsSettled_foldedClause key shown⟩
  requested request sent := by
    obtain ⟨shown, identifier, hasText, named, query, parameters⟩ :=
      exists_foldedClause_of_find sent
    exact ⟨shown, identifier, _, hasText, named, query, parameters,
      nodeCompiler.findsSettled_foldedClause nameKey shown⟩
  plain _ _ _ := occurs_plain

private def townName : String := "ΠΑΤΡΑΣ "

theorem folded_finds_townName :
    ∃ request ∈ (townExecutor.find townGraph (.text "Town") (.text townName)).sent,
      ∃ (identifier : Identifier) (clause : WhereClause),
        request.query = findText identifier clause.text ∧
          request.parameters = some clause.parameters ∧ clause.Finds "n.name" townName := by
  have declared : townExecutor.schema.hasLabel "Town" = true := by decide +kernel
  have permitted : townExecutor.Permits (.find (.text "Town") (.text townName)) _ :=
    @Permits.find townExecutor ⟨"Town", by decide⟩ (.text townName) townName declared rfl
  have sent := (mem_sent_iff townExecutor townGraph (.find _ _) _).mpr permitted
  have found :=
    folded_finds_iff nodeCompiler nameKey townExecutor townGraph (.text "Town") (.text townName)
  obtain ⟨_, identifier, clause, ⟨⟩, -, query, parameters, findsSettled⟩ :=
    found.requested _ sent
  have settled : IsSettled townName.toList := by decide +kernel
  exact ⟨_, sent, identifier, clause, query, parameters, findsSettled.finds_iff.mpr settled⟩

/-- Alone, a word ends in a final sigma, which the same letters inside a name do not have. -/
theorem folded_misses_finalSigma :
    ∃ clause, nodeCompiler.compile (some (nameFilter (.text "ΚΩΣ"))) = .ok clause ∧
      occurs "ΚΩΣ".toList "ΚΩΣΤΑΣ".toList = true ∧
      clause.foldedContains? "n.name" "ΚΩΣΤΑΣ" = some false := by
  refine ⟨_, rfl, by decide, ?_⟩
  decide +kernel

end Executor

end QueryWarden
