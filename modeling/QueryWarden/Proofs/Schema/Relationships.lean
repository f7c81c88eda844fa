/-
Relationships that have been read. There is one for each entry of the data, in the order of the
entries, and its ends are labels of node types that have been read. It goes by the name that its
fields give it, so that the names are those of the entries only where no fields say otherwise.
-/

import QueryWarden.Proofs.Bindings
import QueryWarden.Proofs.Schema.Reading

namespace QueryWarden.Schema

/-- The entries that stand in data under a name: none where there is nothing or what is there is
false. -/
def entriesOf (data : Value) (name : String) : Except AccessFault Bindings := do
  let part ← data.field name (.map [])
  part.orEmpty.entries

/-- The name that the fields of a relationship give it, of several the last one, or else the name
under which it stands. -/
def nameOf : String × Value → Value
  | (name, .map fields) => (fields.reverse.lookup "name").getD (.text name)
  | (name, _) => .text name

/-! ### Labels of node types -/

private theorem label_of_readDeclaration {entry : String × Value} {declaration : Declaration}
    (read : readDeclaration entry = .ok declaration) : declaration.label = entry.1 := by
  obtain ⟨extended, _, read⟩ := bind_eq_ok_iff.mp read
  obtain ⟨parents, _, done⟩ := bind_eq_ok_iff.mp read
  cases done
  rfl

private theorem labels_of_declarations {entries : Bindings} {read : List Declaration}
    (declared : accessing (declarations entries) = .ok read) :
    read.map Declaration.label = entries.map Prod.fst := by
  rw [declarations_eq_mapM] at declared
  have each := mapM_eq_ok_iff.mp declared
  clear declared
  induction each with
  | nil => rfl
  | cons first _ ih =>
      have label := label_of_readDeclaration (mapError_eq_ok_iff.mp first)
      rw [List.map_cons, List.map_cons, label, ih]

private theorem labels_of_buildNodeTypes {parents : Inheritance.Parents}
    {declarations : List Declaration}
    {resolved : Inheritance.Resolved} {nodeTypes : List NodeType}
    (built : buildNodeTypes parents resolved declarations = .ok nodeTypes) :
    nodeTypes.map NodeType.label = declarations.map Declaration.label := by
  induction declarations generalizing resolved nodeTypes with
  | nil =>
      cases built
      rfl
  | cons declaration declarations ih =>
      rw [buildNodeTypes] at built
      split at built
      · cases built
      · obtain ⟨nodeType, builtFirst, built⟩ := bind_eq_ok_iff.mp built
        obtain ⟨others, builtOthers, done⟩ := bind_eq_ok_iff.mp built
        cases done
        rw [List.map_cons, List.map_cons, (buildNodeType_labels builtFirst).1, ih builtOthers]

private theorem labels_of_readTypes {entries : Bindings} {nodeTypes : List NodeType}
    (read : readTypes entries = .ok nodeTypes) :
    nodeTypes.map NodeType.label = entries.map Prod.fst := by
  obtain ⟨declarations, declared, read⟩ := bind_eq_ok_iff.mp read
  obtain ⟨parents, _, built⟩ := bind_eq_ok_iff.mp read
  rw [labels_of_buildNodeTypes built, labels_of_declarations declared]

/-! ### Relationships -/

theorem checkEndpoint_eq_ok_iff {declared : List String} {relationship endpoint : String} :
    checkEndpoint declared relationship endpoint = .ok () ↔ endpoint ∈ declared := by
  unfold checkEndpoint
  split
  · next known => exact iff_of_true rfl (List.contains_iff_mem.mp known)
  · next unknown =>
      refine iff_of_false (fun impossible => by cases impossible) fun member => ?_
      exact unknown (List.contains_iff_mem.mpr member)

structure StemsFrom (declared : List String) (entry : String × Value)
    (relationship : RelationshipType) : Prop where
  named : nameOf entry = .text relationship.name
  source : relationship.source ∈ declared
  target : relationship.target ∈ declared

private theorem stemsFrom_of_buildRelationship {declared : List String} {entry : String × Value}
    {relationship : RelationshipType}
    (built : buildRelationship declared entry.1 entry.2 = .ok relationship) :
    StemsFrom declared entry relationship := by
  obtain ⟨name, spec⟩ := entry
  cases spec with
  | map fields =>
      obtain ⟨checked, read, built⟩ := bind_eq_ok_iff.mp built
      obtain ⟨_, source, built⟩ := bind_eq_ok_iff.mp built
      obtain ⟨_, target, done⟩ := bind_eq_ok_iff.mp built
      cases done
      refine ⟨?_, checkEndpoint_eq_ok_iff.mp source, checkEndpoint_eq_ok_iff.mp target⟩
      have named := (RelationshipType.ofFields_eq_ok_iff.mp (mapError_eq_ok_iff.mp read)).1
      rw [Bindings.lookup_override] at named
      cases own : fields.reverse.lookup "name" with
      | none =>
          rw [own] at named
          rw [nameOf, own]
          exact Option.some.inj named
      | some value =>
          rw [own] at named
          rw [nameOf, own]
          exact Option.some.inj named
  | _ => cases built

private theorem exists_entries {data : Value} {schema : Schema} (read : ofValue data = .ok schema) :
    ∃ entries, entriesOf data "relationships" = .ok entries ∧
      List.Forall₂ (StemsFrom (schema.nodeTypes.map NodeType.label)) entries
        schema.relationships := by
  rw [ofValue_eq] at read
  obtain ⟨types, _, read⟩ := bind_eq_ok_iff.mp read
  obtain ⟨part, found, read⟩ := bind_eq_ok_iff.mp read
  obtain ⟨typeEntries, _, read⟩ := bind_eq_ok_iff.mp read
  obtain ⟨nodeTypes, typesRead, read⟩ := bind_eq_ok_iff.mp read
  obtain ⟨entries, named, read⟩ := bind_eq_ok_iff.mp read
  obtain ⟨relationships, built, done⟩ := bind_eq_ok_iff.mp read
  cases done
  refine ⟨entries, bind_eq_ok_iff.mpr ⟨part, mapError_eq_ok_iff.mp found,
    mapError_eq_ok_iff.mp named⟩, ?_⟩
  rw [labels_of_readTypes typesRead]
  exact (mapM_eq_ok_iff.mp built).imp fun _ _ => stemsFrom_of_buildRelationship

private theorem map_nameOf {declared : List String} {entries : Bindings}
    {relationships : List RelationshipType}
    (each : List.Forall₂ (StemsFrom declared) entries relationships) :
    entries.map nameOf = relationships.map (fun relationship => .text relationship.name) := by
  induction each with
  | nil => rfl
  | cons first _ ih => rw [List.map_cons, List.map_cons, first.named, ih]

/-- The relationships that have been read are those of the data, one for one and in order, each
under the name that it is given and between node types that have been read. Their names are the
names under which they stand if and only if no fields say otherwise, and where none do the schema
allows exactly these. -/
theorem relationships_one_for_one {data : Value} {schema : Schema}
    (read : ofValue data = .ok schema) :
    ∃ entries, entriesOf data "relationships" = .ok entries ∧
      entries.map nameOf =
        schema.relationships.map (fun relationship => .text relationship.name) ∧
      (∀ relationship ∈ schema.relationships,
        relationship.source ∈ schema.nodeTypes.map NodeType.label ∧
          relationship.target ∈ schema.nodeTypes.map NodeType.label) ∧
      (schema.relationships.map RelationshipType.name = entries.map Prod.fst ↔
        ∀ entry ∈ entries, nameOf entry = .text entry.1) ∧
      ((∀ entry ∈ entries, nameOf entry = .text entry.1) →
        ∀ name, name ∈ schema.relationshipNames ↔ name ∈ entries.map Prod.fst) := by
  obtain ⟨entries, found, each⟩ := exists_entries read
  have named := map_nameOf each
  have keys : schema.relationships.map RelationshipType.name = entries.map Prod.fst ↔
      ∀ entry ∈ entries, nameOf entry = .text entry.1 := by
    rw [← List.map_inj_left (f := nameOf) (g := fun entry => .text entry.1), named]
    have texts : Function.Injective (List.map Value.text) :=
      List.map_injective_iff.mpr fun _ _ same => Value.text.inj same
    rw [← texts.eq_iff, List.map_map, List.map_map]
    rfl
  refine ⟨entries, found, named, fun relationship member => ?_, keys, fun unnamed name => ?_⟩
  · obtain ⟨_, _, built⟩ := exists_left_of_mem each member
    exact ⟨built.source, built.target⟩
  · rw [← keys.mpr unnamed, relationshipNames, mem_sortedSet]

/-! ### Roads and rails -/

private def townData (relationships : Bindings) : Value :=
  .map [("node_types", .map [("Town", .map [])]), ("relationships", .map relationships)]

private def townType : NodeType :=
  { label := "Town", labels := ["Town"], description := "", properties := [] }

private def betweenTowns (name : String) : RelationshipType :=
  { name := name, source := "Town", target := "Town", description := "" }

def townSchema (relationships : List RelationshipType) : Schema :=
  { nodeTypes := [townType], relationships := relationships }

private theorem readTypes_town : readTypes [("Town", .map [])] = .ok [townType] := by
  have alone : ofValue (.map [("node_types", .map [("Town", .map [])])]) = .ok (townSchema []) :=
    ofValue_single "Town" rfl rfl rfl
  rw [ofValue_eq] at alone
  obtain ⟨types, found, alone⟩ := bind_eq_ok_iff.mp alone
  obtain ⟨named, _, alone⟩ := bind_eq_ok_iff.mp alone
  obtain ⟨entries, listed, alone⟩ := bind_eq_ok_iff.mp alone
  obtain ⟨nodeTypes, read, alone⟩ := bind_eq_ok_iff.mp alone
  obtain ⟨_, _, alone⟩ := bind_eq_ok_iff.mp alone
  obtain ⟨_, _, done⟩ := bind_eq_ok_iff.mp alone
  cases found
  cases listed
  cases done
  exact read

private theorem ofValue_townData {relationships : Bindings} {built : List RelationshipType}
    (each : relationships.mapM (fun entry => buildRelationship ["Town"] entry.1 entry.2) =
      .ok built) :
    ofValue (townData relationships) = .ok (townSchema built) := by
  refine (ofValue_eq _).trans (bind_eq_ok_iff.mpr ⟨_, rfl, bind_eq_ok_iff.mpr ⟨_, rfl, ?_⟩⟩)
  refine bind_eq_ok_iff.mpr ⟨_, rfl, bind_eq_ok_iff.mpr ⟨_, readTypes_town, ?_⟩⟩
  have entries : accessing (Value.map relationships).orEmpty.entries = .ok relationships := by
    rw [orEmpty_map]
    rfl
  exact bind_eq_ok_iff.mpr ⟨_, entries, bind_eq_ok_iff.mpr ⟨_, each, rfl⟩⟩

private def roadAndRail : Bindings :=
  [("ROAD", .map [("from", .text "Town"), ("to", .text "Town")]),
    ("RAIL", .map [("name", .text "RAIL"), ("from_type", .text "Town"),
      ("to_type", .text "Town")])]

theorem relationships_one_for_one_roadAndRail :
    ofValue (townData roadAndRail) =
        .ok (townSchema [betweenTowns "ROAD", betweenTowns "RAIL"]) ∧
      ∀ name, name ∈ (townSchema [betweenTowns "ROAD", betweenTowns "RAIL"]).relationshipNames ↔
        name ∈ roadAndRail.map Prod.fst := by
  have read : ofValue (townData roadAndRail) =
      .ok (townSchema [betweenTowns "ROAD", betweenTowns "RAIL"]) :=
    ofValue_townData rfl
  obtain ⟨entries, found, _, _, _, allows⟩ := relationships_one_for_one read
  obtain rfl : roadAndRail = entries := Except.ok.inj found
  refine ⟨read, allows ?_⟩
  rintro entry member
  rcases List.mem_cons.mp member with rfl | member
  · rfl
  · cases List.mem_singleton.mp member
    rfl

private def roadAsRail : Bindings :=
  [("ROAD", .map [("from", .text "Town"), ("to", .text "Town"), ("name", .text "RAIL")])]

theorem road_read_as_rail :
    ofValue (townData roadAsRail) = .ok (townSchema [betweenTowns "RAIL"]) ∧
      entriesOf (townData roadAsRail) "relationships" = .ok roadAsRail ∧
      (townSchema [betweenTowns "RAIL"]).relationships.map RelationshipType.name ≠
        roadAsRail.map Prod.fst ∧
      "ROAD" ∉ (townSchema [betweenTowns "RAIL"]).relationshipNames := by
  refine ⟨ofValue_townData rfl, rfl, by decide, ?_⟩
  rw [relationshipNames, mem_sortedSet]
  decide

end QueryWarden.Schema
