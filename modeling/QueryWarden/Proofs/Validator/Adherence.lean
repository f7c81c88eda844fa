/-
Adherence of queries that use one declared name. The scan of patterns knows names of ASCII
letters, digits and underscores only: of any other name it takes the longest start that is
such a name, and whether the query is let through hangs on whether that start is declared.
-/

import QueryWarden.Proofs.Identifier
import QueryWarden.Proofs.Query.Pattern
import QueryWarden.Proofs.Schema.Reading
import QueryWarden.Validator.Basic

namespace QueryWarden

open Text Pattern

namespace Pattern.Kind

def declared (schema : Schema) : Kind → List String
  | .node => schema.nodeTypes.map NodeType.label
  | .relationship => schema.relationships.map RelationshipType.name

def known (schema : Schema) : Kind → List String
  | .node => schema.allLabels
  | .relationship => schema.relationshipNames

def noun : Kind → String
  | .node => "entity"
  | .relationship => "relationship"

end Pattern.Kind

namespace Adherence

theorem findings_eq (schema : Schema) (query : Query) :
    findings schema query =
      findingsOf "entity" (used .node query.text) (Kind.known schema .node) ++
        findingsOf "relationship" (used .relationship query.text)
          (Kind.known schema .relationship) :=
  rfl

theorem findingsOf_nil (noun : String) (known : List String) : findingsOf noun [] known = [] :=
  rfl

private theorem findingsOf_singleton (noun name : String) (known : List String) :
    findingsOf noun [name] known =
      if name ∈ known then [] else [{ kind := noun, unknown := [name], known := known }] := by
  by_cases member : name ∈ known
  · simp [findingsOf, undeclared, member]
  · simp [findingsOf, undeclared, member]

private theorem findings_patternQuery (schema : Schema) (kind : Kind) {name : String}
    (word : ∀ letter ∈ name.toList, isWord letter = true) :
    findings schema (patternQuery kind name) =
      findingsOf kind.noun (scanned? name).toList (kind.known schema) := by
  cases kind with
  | node =>
      rw [findings_eq, used_patternQuery .node word, used_patternQuery_of_ne (by decide) word,
        findingsOf_nil, List.append_nil]
      rfl
  | relationship =>
      rw [findings_eq, used_patternQuery .relationship word,
        used_patternQuery_of_ne (by decide) word, findingsOf_nil, List.nil_append]
      rfl

/-- The refusal of a query for one name. -/
def refusal (schema : Schema) (kind : Kind) (name : String) : Rejection :=
  Finding.rejection { kind := kind.noun, unknown := [name], known := kind.known schema }

private theorem strict_patternQuery (schema : Schema) (kind : Kind) {name : String}
    (word : ∀ letter ∈ name.toList, isWord letter = true) :
    strict schema (patternQuery kind name) =
      match scanned? name with
      | none => .ok ()
      | some part =>
          if part ∈ kind.known schema then .ok () else .error (refusal schema kind part) := by
  unfold strict
  rw [findings_patternQuery schema kind word]
  cases scanned? name with
  | none => rfl
  | some part =>
      rw [Option.toList_some, findingsOf_singleton]
      by_cases known : part ∈ kind.known schema
      · simp only [if_pos known]
      · simp only [if_neg known, refusal]

end Adherence

def Validator.strictAdherence : Validator :=
  .leaf (.adherence (.bool true))

namespace Adherence

private theorem validate_patternQuery (schema : Schema) (kind : Kind) {name : String}
    (word : ∀ letter ∈ name.toList, isWord letter = true) :
    Validator.strictAdherence.validate schema (.ready (patternQuery kind name)) =
      match scanned? name with
      | none => .ok ()
      | some part =>
          if part ∈ kind.known schema then .ok ()
          else .error (.rejected (refusal schema kind part)) := by
  change (strict schema (patternQuery kind name)).mapError Fault.rejected = _
  rw [strict_patternQuery schema kind word]
  cases scanned? name with
  | none => rfl
  | some part =>
      by_cases known : part ∈ kind.known schema
      · simp only [if_pos known]
        rfl
      · simp only [if_neg known]
        rfl

private theorem known_of_declared {data : Value} {schema : Schema}
    (read : Schema.ofValue data = .ok schema) (kind : Kind) {name : String}
    (declared : name ∈ kind.declared schema) : name ∈ kind.known schema := by
  cases kind with
  | node =>
      obtain ⟨nodeType, member, rfl⟩ := List.mem_map.mp declared
      refine (mem_sortedSet _ _).mpr (List.mem_flatMap.mpr ⟨nodeType, member, ?_⟩)
      exact Schema.label_mem_labels read nodeType member
  | relationship => exact (mem_sortedSet _ _).mpr declared

private theorem scanned?_of_plain {name : String} (plain : PlainName name) :
    scanned? name = some name := by
  obtain ⟨first, rest, letters, start, parts⟩ := plain
  rw [scanned?, letters, takeName, if_pos start, List.takeWhile_eq_self_iff.mpr parts, ← letters]
  exact congrArg some String.ofList_toList

/-- A query that uses one declared name is let through if and only if what is scanned of the
name is declared, if anything is; a refusal is one for that part. A plain name is scanned as
a whole, and so a query that uses it is let through. -/
theorem declared_adheres {data : Value} {schema : Schema}
    (read : Schema.ofValue data = .ok schema) (kind : Kind) {name : String}
    (declared : name ∈ kind.declared schema)
    (word : ∀ letter ∈ name.toList, isWord letter = true) :
    (Validator.strictAdherence.validate schema (.ready (patternQuery kind name)) = .ok () ↔
      ∀ part, scanned? name = some part → part ∈ kind.known schema) ∧
    (∀ part, scanned? name = some part → part ∉ kind.known schema →
      Validator.strictAdherence.validate schema (.ready (patternQuery kind name)) =
        .error (.rejected (refusal schema kind part))) ∧
    (PlainName name →
      Validator.strictAdherence.validate schema (.ready (patternQuery kind name)) = .ok ()) := by
  rw [validate_patternQuery schema kind word]
  refine ⟨?_, ?_, ?_⟩
  · cases scanned? name with
    | none => exact iff_of_true rfl nofun
    | some part =>
        by_cases known : part ∈ kind.known schema
        · simp [known]
        · simp [known]
  · intro part scanned unknown
    rw [scanned]
    exact if_neg unknown
  · intro plain
    rw [scanned?_of_plain plain]
    exact if_pos (known_of_declared read kind declared)

private def loneType (label : String) : Value :=
  .map [("node_types", .map [(label, .map [])])]

private def loneSchema (label : String) : Schema :=
  { nodeTypes := [{ label := label, labels := [label], description := "", properties := [] }]
    relationships := [] }

private theorem ofValue_loneType (label : String) :
    Schema.ofValue (loneType label) = .ok (loneSchema label) :=
  Schema.ofValue_single label rfl rfl rfl

theorem declared_adheres_person :
    Schema.ofValue (loneType "Person") = .ok (loneSchema "Person") ∧
      "Person" ∈ Kind.declared (loneSchema "Person") .node ∧
      Validator.strictAdherence.validate (loneSchema "Person")
        (.ready ⟨"MATCH (n:Person) RETURN n"⟩) = .ok () := by
  have read := ofValue_loneType "Person"
  have declared : "Person" ∈ Kind.declared (loneSchema "Person") .node := by decide
  have parts : "erson".toList.all isNamePart = true := by decide
  have word : "Person".toList.all isWord = true := by decide +kernel
  have plain : PlainName "Person" :=
    ⟨'P', "erson".toList, by decide, by decide, List.all_eq_true.mp parts⟩
  exact ⟨read, declared,
    (declared_adheres read .node declared (List.all_eq_true.mp word)).2.2 plain⟩

/-- A declared label with a letter that is not ASCII is refused for what stands before it. -/
theorem umlaut_label_refused :
    Schema.ofValue (loneType "Größe") = .ok (loneSchema "Größe") ∧
      (∀ letter ∈ "Größe".toList, isWord letter = true) ∧
      Validator.strictAdherence.validate (loneSchema "Größe")
        (.ready ⟨"MATCH (n:Größe) RETURN n"⟩) =
          .error (.rejected (refusal (loneSchema "Größe") .node "Gr")) := by
  have inWord : "Größe".toList.all isWord = true := by decide +kernel
  have word : ∀ letter ∈ "Größe".toList, isWord letter = true := List.all_eq_true.mp inWord
  refine ⟨ofValue_loneType "Größe", word, ?_⟩
  have scanned : scanned? "Größe" = some "Gr" := by decide
  have unknown : "Gr" ∉ Kind.known (loneSchema "Größe") .node := by
    rw [Kind.known, Schema.allLabels, mem_sortedSet]
    decide
  refine (validate_patternQuery (loneSchema "Größe") .node word).trans ?_
  rw [scanned]
  exact if_neg unknown

end Adherence

end QueryWarden
