/-
The stages in which a schema is read from data: what node types there are and what each of
them extends, the labels that follow from that, the node types themselves and at last the
relationships.
-/

import QueryWarden.Proofs.Schema.Inheritance
import QueryWarden.Proofs.Schema.Record
import QueryWarden.Schema.Reader

namespace QueryWarden.Schema

theorem orEmpty_map (entries : Bindings) : (Value.map entries).orEmpty = .map entries := by
  cases entries with
  | nil => rfl
  | cons entry entries => rfl

/-! ### Stages -/

def readTypes (entries : Bindings) : Except Fault (List NodeType) := do
  let declarations ← accessing (declarations entries)
  let parents ← parentsOf (entries.map Prod.fst) declarations
  buildNodeTypes parents [] declarations

def readParts (types named : Value) : Except Fault Schema := do
  let types ← accessing types.orEmpty.entries
  let nodeTypes ← readTypes types
  let named ← accessing named.orEmpty.entries
  let relationships ← named.mapM fun entry =>
    buildRelationship (types.map Prod.fst) entry.1 entry.2
  return { nodeTypes := nodeTypes, relationships := relationships }

theorem ofValue_eq (data : Value) :
    ofValue data =
      accessing (data.field "node_types" (.map [])) >>= fun types =>
        accessing (data.field "relationships" (.map [])) >>= fun named =>
          readParts types named := by
  unfold ofValue readParts readTypes
  simp only [bind_assoc]

def readDeclaration (entry : String × Value) : Except AccessFault Declaration := do
  let extended ← entry.2.orEmpty.field "extends" (.tuple [])
  let parents ← extended.items
  return { label := entry.1, parents := parents, spec := entry.2.orEmpty }

theorem declarations_eq_mapM (entries : Bindings) :
    accessing (declarations entries) =
      entries.mapM (fun entry => accessing (readDeclaration entry)) := by
  induction entries with
  | nil => rfl
  | cons entry entries ih =>
      obtain ⟨label, spec⟩ := entry
      have unfolded : declarations ((label, spec) :: entries) = readDeclaration (label, spec) >>=
          fun first => declarations entries >>= fun others => pure (first :: others) := by
        rw [declarations, readDeclaration]
        simp only [bind_assoc, pure_bind]
      rw [unfolded, accessing_bind, List.mapM_cons, ← ih]
      refine congrArg _ (funext fun first => ?_)
      rw [accessing_bind]
      rfl

/-! ### Own labels -/

section

open Inheritance

variable {parents : Parents}

theorem buildNodeType_labels {declaration : Declaration} {labels : List String}
    {nodeType : NodeType} (built : buildNodeType declaration labels = .ok nodeType) :
    nodeType.label = declaration.label ∧ nodeType.labels = sortedSet labels := by
  obtain ⟨_, _, built⟩ := bind_eq_ok_iff.mp built
  obtain ⟨_, _, built⟩ := bind_eq_ok_iff.mp built
  obtain ⟨_, _, built⟩ := bind_eq_ok_iff.mp built
  obtain ⟨sameLabel, sameLabels, _⟩ :=
    NodeType.ofFields_eq_ok_iff.mp (mapError_eq_ok_iff.mp built)
  exact ⟨sameLabel, sameLabels⟩

private theorem buildNodeTypes_own {declarations : List Declaration} {resolved : Resolved}
    (own : OwnLabels resolved) {nodeTypes : List NodeType}
    (built : buildNodeTypes parents resolved declarations = .ok nodeTypes) :
    ∀ nodeType ∈ nodeTypes, nodeType.label ∈ nodeType.labels := by
  induction declarations generalizing resolved nodeTypes with
  | nil =>
      cases built
      exact nofun
  | cons declaration declarations ih =>
      rw [buildNodeTypes] at built
      cases outcome : labelsOf parents resolved declaration.label with
      | error cycle =>
          rw [outcome] at built
          cases built
      | ok pair =>
          rw [outcome] at built
          obtain ⟨inside, ownNext⟩ := resolve_own own outcome
          obtain ⟨nodeType, builtFirst, built⟩ := bind_eq_ok_iff.mp built
          obtain ⟨others, builtOthers, done⟩ := bind_eq_ok_iff.mp built
          cases done
          refine List.forall_mem_cons.mpr ⟨?_, ih ownNext builtOthers⟩
          obtain ⟨sameLabel, sameLabels⟩ := buildNodeType_labels builtFirst
          rw [sameLabel, sameLabels, mem_sortedSet]
          exact inside

end

/-- A node type that has been read carries its own label. -/
theorem label_mem_labels {data : Value} {schema : Schema} (read : ofValue data = .ok schema) :
    ∀ nodeType ∈ schema.nodeTypes, nodeType.label ∈ nodeType.labels := by
  rw [ofValue_eq] at read
  obtain ⟨types, _, read⟩ := bind_eq_ok_iff.mp read
  obtain ⟨named, _, read⟩ := bind_eq_ok_iff.mp read
  obtain ⟨entries, _, read⟩ := bind_eq_ok_iff.mp read
  obtain ⟨nodeTypes, readTypes, read⟩ := bind_eq_ok_iff.mp read
  obtain ⟨namedEntries, _, read⟩ := bind_eq_ok_iff.mp read
  obtain ⟨relationships, _, done⟩ := bind_eq_ok_iff.mp read
  cases done
  obtain ⟨declarations, _, built⟩ := bind_eq_ok_iff.mp readTypes
  obtain ⟨parents, _, built⟩ := bind_eq_ok_iff.mp built
  exact buildNodeTypes_own Inheritance.ownLabels_nil built

/-! ### A single node type -/

/-- A node type that stands alone and extends nothing is read as it is written. -/
theorem ofValue_single (label : String) {fields : Bindings} {description : String}
    {properties : List String} (root : fields.lookup "extends" = none)
    (described : (fields.lookup "description").getD (.text "") = .text description)
    (listed : ((fields.lookup "properties").getD (.tuple [])).items =
      .ok (properties.map .text)) :
    ofValue (.map [("node_types", .map [(label, .map fields)])]) = .ok
      { nodeTypes := [{ label := label, labels := [label], description := description
                        properties := properties }]
        relationships := [] } := by
  have read : declarations [(label, .map fields)] =
      .ok [{ label := label, parents := [], spec := .map fields }] := by
    rw [declarations, orEmpty_map, Value.field, root]
    rfl
  have labels : Inheritance.labelsOf [(label, [])] [] label =
      .ok ([label], [(label, [label])]) := by
    simp [Inheritance.labelsOf, Inheritance.resolve, Inheritance.resolveAll,
      Inheritance.parentsOf, List.eraseDups_cons]
  have built : buildNodeType { label := label, parents := [], spec := .map fields } [label] =
      .ok { label := label, labels := [label], description := description
            properties := properties } := by
    rw [buildNodeType, Value.field, described, Value.field]
    refine bind_eq_ok_iff.mpr ⟨_, rfl, bind_eq_ok_iff.mpr ⟨_, rfl, ?_⟩⟩
    refine bind_eq_ok_iff.mpr ⟨_, congrArg accessing listed, mapError_eq_ok_iff.mpr ?_⟩
    exact NodeType.ofFields_eq_ok_iff.mpr ⟨rfl, (sortedSet_singleton label).symm, rfl, rfl⟩
  have types : buildNodeTypes [(label, [])] []
      [{ label := label, parents := [], spec := .map fields }] =
        .ok [{ label := label, labels := [label], description := description
               properties := properties }] := by
    rw [buildNodeTypes, labels]
    exact bind_eq_ok_iff.mpr ⟨_, built, rfl⟩
  change (accessing (declarations [(label, .map fields)]) >>= _) = _
  rw [read]
  change (buildNodeTypes [(label, [])] [] _ >>= _) = _
  rw [types]
  rfl

end QueryWarden.Schema
