/-
Values in queries. The texts that are sent are made of keys, labels and aliases, and of
names for parameters. A value is bound to such a name and has no other way into a query:
two runs that differ in their values alone give the same text and the same names.
-/

import QueryWarden.Proofs.Bindings
import QueryWarden.Proofs.Filter.Outline
import QueryWarden.Proofs.Scope.Narrowing
import QueryWarden.Proofs.Tool.ReadOnly

namespace QueryWarden

private theorem Scope.scopedToContext_same {scope next other : Scope}
    {context second aliasName : Value}
    (narrowed : scope.scopedToContext context aliasName = .ok next)
    (narrowedSecond : scope.scopedToContext second aliasName = .ok other) :
    next.clause = other.clause ∧
      Bindings.names next.parameters = Bindings.names other.parameters := by
  have step : scope.narrow (.mentioned context aliasName) = .ok next := narrowed
  have stepSecond : scope.narrow (.mentioned second aliasName) = .ok other := narrowedSecond
  obtain ⟨_, merged, clauses⟩ := of_narrow_eq_ok step
  obtain ⟨_, mergedSecond, clausesSecond⟩ := of_narrow_eq_ok stepSecond
  constructor
  · rw [clause, clause, clauses, clausesSecond]
    rfl
  · rw [((Bindings.merge_eq_ok_iff _ _ _).mp merged).2,
      ((Bindings.merge_eq_ok_iff _ _ _).mp mergedSecond).2]
    exact Bindings.names_put contextParameter context second scope.parameters

private theorem Executor.find_same {executor : Executor} {graph other : Graph}
    {label term second : Value}
    {request secondRequest : Request} (sent : request ∈ (executor.find graph label term).sent)
    (sentSecond : secondRequest ∈ (executor.find other label second).sent) :
    request.query = secondRequest.query ∧
      request.parameters.map Bindings.names = secondRequest.parameters.map Bindings.names := by
  have permitted := (mem_sent_iff executor graph (.find label term) _).mp sent
  have permittedSecond := (mem_sent_iff executor other (.find label second) _).mp sentSecond
  generalize isLabel : label = given at permittedSecond
  cases permitted with
  | @find first _ _ declared =>
      cases permittedSecond with
      | @find again _ _ declaredAgain =>
          have same : first = again := by
            cases first
            cases again
            cases isLabel
            rfl
          rw [same]
          exact ⟨rfl, rfl⟩

/-- Values never reach the text of a query. Filters of one outline compile to the same text
and the same names of parameters in the same order; a scope is narrowed to any context by the
same clause; and whatever a label is searched for, the same query is sent. -/
theorem text_of_outline :
    (∀ (compiler : Compiler) (first second : Filter) (clause other : WhereClause),
      first.outline = second.outline → compiler.compile (some first) = .ok clause →
      compiler.compile (some second) = .ok other →
        clause.text = other.text ∧
          Bindings.names clause.parameters = Bindings.names other.parameters) ∧
    (∀ (scope next other : Scope) (context second aliasName : Value),
      scope.scopedToContext context aliasName = .ok next →
      scope.scopedToContext second aliasName = .ok other →
        next.clause = other.clause ∧
          Bindings.names next.parameters = Bindings.names other.parameters) ∧
    ∀ (executor : Executor) (graph other : Graph) (label term second : Value),
      ∀ request ∈ (executor.find graph label term).sent,
      ∀ secondRequest ∈ (executor.find other label second).sent,
        request.query = secondRequest.query ∧
          request.parameters.map Bindings.names = secondRequest.parameters.map Bindings.names := by
  refine ⟨?_, ?_, ?_⟩
  · intro compiler first second clause other sameOutline compiled compiledSecond
    obtain ⟨text, names⟩ := compiler.compile_outline compiled
    obtain ⟨textSecond, namesSecond⟩ := compiler.compile_outline compiledSecond
    rw [text, textSecond, names, namesSecond, sameOutline]
    exact ⟨rfl, rfl⟩
  · intro scope next other context second aliasName narrowed narrowedSecond
    exact Scope.scopedToContext_same narrowed narrowedSecond
  · intro executor graph other label term second request sent secondRequest sentSecond
    exact Executor.find_same sent sentSecond

private def nameOrLabel (name : Value) (unwanted : List Value) (label : Value)
    (others : List Value) :
    Filter :=
  .any (.all (.compare .equal Executor.nameKey name) [.oneOf true Executor.nameKey unwanted])
    [.negation (.anyLabel label others)]

private def town : Identifier :=
  ⟨"Town", by decide⟩

private def findTown (word : String) : Request :=
  { query := Executor.findText town "toLower(n.name) CONTAINS $_filter_0"
    parameters := some [("_filter_0", .text (Text.lowerText word))] }

private theorem findTown_sent (word : String) :
    findTown word ∈
      (Executor.townExecutor.find Executor.townGraph (.text "Town") (.text word)).sent := by
  have declared : Executor.townSchema.hasLabel town.name = true := by decide +kernel
  have permitted : Executor.townExecutor.Permits (.find (.text town.name) (.text word))
      (findTown word) :=
    .find declared rfl
  exact (Executor.mem_sent_iff _ Executor.townGraph (.find _ _) _).mpr permitted

private theorem compile_nameOrLabel (name label : String) (unwanted : List Value)
    (others : List Value)
    (texts : others.all Value.isText = true) :
    ∃ clause, Executor.nodeCompiler.compile
      (some (nameOrLabel (.text name) unwanted (.text label) others)) = .ok clause := by
  have everyText : (Value.text label :: others).all Value.isText = true := texts
  obtain ⟨labels, sorted⟩ := Value.sort_texts everyText
  have literals : (nameOrLabel (.text name) unwanted (.text label) others).literals =
      .ok [.text name, .list unwanted, .list labels] := by
    simp only [nameOrLabel, Filter.literals, Filter.literalsOf, sorted]
    rfl
  exact ⟨_, Executor.nodeCompiler.compile_of_literals literals⟩

theorem text_of_outline_hostile :
    (∃ clause other,
      Executor.nodeCompiler.compile
        (some (nameOrLabel (.text "alice") [.int 1] (.text "Team") [.text "Town"])) = .ok clause ∧
      Executor.nodeCompiler.compile
        (some (nameOrLabel (.text "x' OR 1=1 //") [] (.text "Team') OR (1=1") [])) = .ok other ∧
      clause.text = other.text ∧
        Bindings.names clause.parameters = Bindings.names other.parameters) ∧
    (∃ next other, Scope.empty.scopedToContext (.text "ctx-42") (.text "n") = .ok next ∧
      Scope.empty.scopedToContext (.text "$x OR true") (.text "n") = .ok other ∧
      next.clause = other.clause ∧
        Bindings.names next.parameters = Bindings.names other.parameters) ∧
    (findTown "Ulm").query = (findTown "' OR 1=1 //").query := by
  obtain ⟨compiles, scopes, finds⟩ := text_of_outline
  obtain ⟨clause, compiled⟩ := compile_nameOrLabel "alice" "Team" [.int 1] [.text "Town"] rfl
  obtain ⟨other, compiledHostile⟩ := compile_nameOrLabel "x' OR 1=1 //" "Team') OR (1=1" [] [] rfl
  have sameText := compiles _ _ _ _ _ (by rfl) compiled compiledHostile
  have sameQuery := finds _ _ _ _ _ _ _ (findTown_sent "Ulm") _
    (findTown_sent "' OR 1=1 //")
  refine ⟨⟨clause, other, compiled, compiledHostile, sameText⟩, ⟨_, _, rfl, rfl, ?_⟩, sameQuery.1⟩
  exact scopes Scope.empty _ _ (.text "ctx-42") (.text "$x OR true") (.text "n") rfl rfl

end QueryWarden
