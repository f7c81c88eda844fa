/-
What schema data is taken for. A list stands in the place of whatever else can be walked
through, so that a text is the list of its letters, and an empty object in the place of
whatever is false. The data is read as if it had been straightened in this way before.
-/

import QueryWarden.Proofs.Schema.Shape

namespace QueryWarden.Schema

/-! ### Straightened data -/

/-- A value that can be walked through, as the list of what is met. -/
def listed (value : Value) : Value :=
  match value.items with
  | .ok items => .list items
  | .error _ => value

def mapFields (change : String → Value → Value) : Value → Value
  | .map fields => .map (fields.map fun entry => (entry.1, change entry.1 entry.2))
  | value => value

def straightenField (name : String) (value : Value) : Value :=
  if name = "extends" ∨ name = "properties" then listed value else value

def straightenType (spec : Value) : Value :=
  mapFields straightenField spec.orEmpty

def straightenTypes (types : Value) : Value :=
  mapFields (fun _ spec => straightenType spec) types.orEmpty

def straightenPart (name : String) (value : Value) : Value :=
  if name = "node_types" then straightenTypes value
  else if name = "relationships" then value.orEmpty
  else value

/-- The data as it is taken: an object in the place of whatever is false, and a list in the
place of whatever else can be walked through. -/
def straighten (data : Value) : Value :=
  mapFields straightenPart data

private theorem items_listed (value : Value) : (listed value).items = value.items := by
  unfold listed
  cases walked : value.items with
  | ok items => rfl
  | error fault => exact walked

private theorem orEmpty_orEmpty (value : Value) : value.orEmpty.orEmpty = value.orEmpty := by
  by_cases isTrue : value.truthy = true
  · have kept : value.orEmpty = value := if_pos isTrue
    rw [kept, kept]
  · have emptied : value.orEmpty = .map [] := if_neg isTrue
    rw [emptied]
    rfl

private theorem orEmpty_mapFields (change : String → Value → Value) (value : Value) :
    (mapFields change value.orEmpty).orEmpty = mapFields change value.orEmpty := by
  have kept := orEmpty_orEmpty value
  cases same : value.orEmpty with
  | map fields => exact orEmpty_map _
  | _ =>
      rw [same] at kept
      exact kept

theorem lookup_mapFields (change : String → Value → Value) (fields : Bindings) (name : String) :
    (fields.map fun entry => (entry.1, change entry.1 entry.2)).lookup name =
      (fields.lookup name).map (change name) := by
  induction fields with
  | nil => rfl
  | cons entry fields ih =>
      rw [List.map_cons, List.lookup_cons, List.lookup_cons]
      by_cases same : name = entry.1
      · subst same
        rw [beq_self_eq_true]
        rfl
      · rw [beq_eq_false_iff_ne.mpr same]
        exact ih

theorem field_mapFields (change : String → Value → Value) (value : Value) {name : String}
    {default : Value} (kept : change name default = default) :
    (mapFields change value).field name default =
      (value.field name default).map (change name) := by
  cases value with
  | map fields =>
      change Except.ok _ = Except.ok _
      rw [lookup_mapFields]
      cases fields.lookup name with
      | none => exact congrArg Except.ok kept.symm
      | some found => rfl
  | _ => rfl

/-- What is walked through in a field is the same, whether or not it is a list before. -/
theorem field_items_straighten (spec : Value) {name : String}
    (walks : name = "extends" ∨ name = "properties") :
    ((mapFields straightenField spec).field name (.tuple []) >>= Value.items) =
      (spec.field name (.tuple []) >>= Value.items) := by
  cases spec with
  | map fields =>
      change Value.items _ = Value.items _
      rw [lookup_mapFields]
      cases fields.lookup name with
      | none => rfl
      | some found =>
          change (straightenField name found).items = found.items
          rw [straightenField, if_pos walks, items_listed]
  | _ => rfl

def straightenDeclaration (declaration : Declaration) : Declaration :=
  { declaration with spec := mapFields straightenField declaration.spec }

def straightenEntry (entry : String × Value) : String × Value :=
  (entry.1, straightenType entry.2)

private theorem readDeclaration_straighten (entry : String × Value) :
    accessing (readDeclaration (straightenEntry entry)) =
      (accessing (readDeclaration entry)).map straightenDeclaration := by
  have parents := field_items_straighten entry.2.orEmpty (.inl rfl)
  have spec : (straightenType entry.2).orEmpty = mapFields straightenField entry.2.orEmpty :=
    orEmpty_mapFields straightenField entry.2
  unfold readDeclaration
  rw [← bind_assoc, ← bind_assoc]
  change accessing (((straightenType entry.2).orEmpty.field "extends" _ >>= Value.items) >>= _) =
    (accessing ((entry.2.orEmpty.field "extends" _ >>= Value.items) >>= _)).map _
  rw [spec, parents]
  cases entry.2.orEmpty.field "extends" (.tuple []) >>= Value.items with
  | error fault => rfl
  | ok items =>
      change Except.ok _ = Except.ok _
      exact congrArg (fun spec => Except.ok (Declaration.mk entry.1 items spec)) spec

private theorem buildNodeType_straighten (declaration : Declaration) (labels : List String) :
    buildNodeType (straightenDeclaration declaration) labels =
      buildNodeType declaration labels := by
  have described : (mapFields straightenField declaration.spec).field "description" (.text "") =
      declaration.spec.field "description" (.text "") := by
    rw [field_mapFields straightenField declaration.spec rfl]
    cases declaration.spec.field "description" (.text "") with
    | ok value => rfl
    | error fault => rfl
  have properties := congrArg accessing (field_items_straighten declaration.spec (.inr rfl))
  rw [accessing_bind, accessing_bind] at properties
  unfold buildNodeType
  rw [straightenDeclaration, described]
  refine congrArg _ (funext fun description => ?_)
  rw [← bind_assoc, ← bind_assoc, properties]

private theorem buildNodeTypes_straighten (parents : Inheritance.Parents)
    (declarations : List Declaration) (resolved : Inheritance.Resolved) :
    buildNodeTypes parents resolved (declarations.map straightenDeclaration) =
      buildNodeTypes parents resolved declarations := by
  induction declarations generalizing resolved with
  | nil => rfl
  | cons declaration declarations ih =>
      have label : (straightenDeclaration declaration).label = declaration.label := rfl
      rw [List.map_cons, buildNodeTypes, buildNodeTypes, label]
      cases Inheritance.labelsOf parents resolved declaration.label with
      | error cycle => rfl
      | ok found =>
          simp only [buildNodeType_straighten, ih]

private theorem parentsOf_straighten (declared : List String) (declarations : List Declaration) :
    parentsOf declared (declarations.map straightenDeclaration) =
      parentsOf declared declarations := by
  unfold parentsOf
  rw [List.mapM_map]
  rfl

private theorem names_straighten (entries : Bindings) :
    (entries.map straightenEntry).map Prod.fst = entries.map Prod.fst := by
  rw [List.map_map]
  rfl

private theorem readTypes_straighten (entries : Bindings) :
    readTypes (entries.map straightenEntry) = readTypes entries := by
  have read : accessing (declarations (entries.map straightenEntry)) =
      (accessing (declarations entries)).map (List.map straightenDeclaration) := by
    rw [declarations_eq_mapM, declarations_eq_mapM, List.mapM_map, ← mapM_map_after]
    exact congrArg (fun change => entries.mapM change) (funext readDeclaration_straighten)
  unfold readTypes
  rw [read, names_straighten]
  cases accessing (declarations entries) with
  | error fault => rfl
  | ok declarations =>
      change (parentsOf _ (declarations.map straightenDeclaration) >>= fun parents =>
        buildNodeTypes parents [] (declarations.map straightenDeclaration)) = _
      simp only [parentsOf_straighten, buildNodeTypes_straighten]
      rfl

private theorem entries_straightenTypes (types : Value) :
    (straightenTypes types).orEmpty.entries =
      types.orEmpty.entries.map (List.map straightenEntry) := by
  rw [straightenTypes, orEmpty_mapFields]
  cases types.orEmpty with
  | map entries => rfl
  | _ => rfl

private theorem readParts_straighten (types named : Value) :
    readParts (straightenTypes types) named.orEmpty = readParts types named := by
  unfold readParts
  rw [entries_straightenTypes, orEmpty_orEmpty]
  cases types.orEmpty.entries with
  | error fault => rfl
  | ok entries =>
      change (readTypes (entries.map straightenEntry) >>= fun nodeTypes =>
        accessing named.orEmpty.entries >>= fun named => (named.mapM fun entry =>
          buildRelationship ((entries.map straightenEntry).map Prod.fst) entry.1 entry.2) >>=
            _) = _
      rw [readTypes_straighten, names_straighten]
      rfl

private theorem ofValue_straighten (data : Value) : ofValue (straighten data) = ofValue data := by
  rw [ofValue_eq, ofValue_eq, straighten, field_mapFields straightenPart data rfl,
    field_mapFields straightenPart data rfl]
  cases data.field "node_types" (.map []) with
  | error fault => rfl
  | ok types =>
      cases data.field "relationships" (.map []) with
      | error fault => rfl
      | ok named => exact readParts_straighten types named

theorem FieldIs.mapFields {fields : Bindings} {name : String} {fits better : Value → Prop}
    {change : String → Value → Value} (field : FieldIs fields name fits)
    (changed : ∀ value, fits value → better (change name value)) :
    FieldIs (fields.map fun entry => (entry.1, change entry.1 entry.2)) name better := by
  intro value found
  rw [lookup_mapFields] at found
  obtain ⟨old, foundOld, rfl⟩ := Option.map_eq_some_iff.mp found
  exact changed old (field old foundOld)

/-- What is taken for an object is read as one. -/
theorem Expectation.Object.straighten {each better : Bindings → Prop} {value : Value}
    {change : String → Value → Value} (object : taken.Object each value) (empty : better [])
    (changed : ∀ fields, each fields →
      better (fields.map fun entry => (entry.1, change entry.1 entry.2))) :
    documented.Object better (mapFields change value.orEmpty) := by
  rcases object with isFalse | ⟨fields, rfl, right⟩
  · have emptied : value.orEmpty = .map [] := if_neg (Bool.eq_false_iff.mp isFalse)
    rw [emptied]
    exact .inr ⟨[], rfl, empty⟩
  · rw [orEmpty_map]
    exact .inr ⟨_, rfl, changed fields right⟩

private theorem listed_of_walks {fits : Value → Prop} {value : Value} (walks : Walks fits value) :
    ∃ items, listed value = .list items ∧ ∀ item ∈ items, fits item := by
  obtain ⟨items, walked, right⟩ := walks
  refine ⟨items, ?_, right⟩
  rw [listed, walked]

private theorem documented_of_taken {data : Value} (isTaken : taken.Data data) :
    documented.Data (straighten data) := by
  obtain ⟨fields, rfl, types, named⟩ := isTaken
  refine ⟨_, rfl, types.mapFields fun value object => ?_, named.mapFields fun value object => ?_⟩
  · change documented.Object documented.NodeTypes
      (mapFields (fun _ spec => straightenType spec) value.orEmpty)
    refine object.straighten nofun fun entries right entry member => ?_
    obtain ⟨old, inside, rfl⟩ := List.mem_map.mp member
    refine (right old inside).straighten documented.nodeType_nil fun fields nodeType => ?_
    exact ⟨nodeType.parents.mapFields fun _ => listed_of_walks,
      nodeType.description.mapFields fun _ isText => isText,
      nodeType.properties.mapFields fun _ => listed_of_walks⟩
  · change documented.Object documented.Relationships value.orEmpty
    rcases object with isFalse | ⟨entries, rfl, right⟩
    · exact .inr ⟨[], if_neg (Bool.eq_false_iff.mp isFalse), nofun⟩
    · exact .inr ⟨entries, orEmpty_map entries, right⟩

/-! ### The shape of data -/

/-- Data is read as what it is taken for: a list in the place of whatever else can be walked
through, an empty object in the place of whatever is false. If a schema comes of it, then what
it was taken for is as it should be. If none does, the fault is one of the schema, or else the
data cannot be gone through, as all data can that is as it should be; and of data that cannot
be gone through no schema ever comes. -/
theorem ofValue_shape {data : Value} (json : data.isJson = true) :
    ofValue (straighten data) = ofValue data ∧
      (∀ schema, ofValue data = .ok schema →
        taken.Data data ∧ documented.Data (straighten data)) ∧
      (∀ fault, ofValue data = .error fault →
        fault.kindName = "SchemaDefinitionError" ∨
          ¬passable.Data data ∧ fault.kindName ∈ accessKinds) ∧
      (documented.Data data → passable.Data data) ∧
      (¬passable.Data data → ∃ fault, ofValue data = .error fault) := by
  have yields := ofValue_yields json
  refine ⟨ofValue_straighten data, ?_, ?_, ?_, ?_⟩
  · intro schema read
    rw [read] at yields
    exact ⟨yields, documented_of_taken yields⟩
  · intro fault read
    rw [read] at yields
    exact yields
  · intro right
    exact (right.mono documented_implies_taken).mono taken_implies_passable
  · intro stuck
    cases read : ofValue data with
    | error fault => exact ⟨fault, rfl⟩
    | ok schema =>
        rw [read] at yields
        exact absurd (Expectation.Data.mono yields taken_implies_passable) stuck

private def letterData : Value :=
  .map [("node_types", .map [("Person", .map [("properties", .text "id")])])]

private theorem ofValue_letterData :
    ofValue letterData = .ok
      { nodeTypes := [{ label := "Person", labels := ["Person"], description := ""
                        properties := ["i", "d"] }]
        relationships := [] } :=
  ofValue_single "Person" rfl rfl rfl

theorem ofValue_shape_letterData :
    letterData.isJson = true ∧ documented.Data (straighten letterData) ∧
      ofValue (straighten letterData) = ofValue letterData := by
  have json : letterData.isJson = true := by decide
  obtain ⟨same, accepted, _⟩ := ofValue_shape json
  exact ⟨json, (accepted _ ofValue_letterData).2, same⟩

/-- A text is taken for the list of its letters, and a list in the place of an object is met
with a fault that is none of the schema. -/
theorem letters_taken_for_list :
    letterData.isJson = true ∧ (∃ schema, ofValue letterData = .ok schema) ∧
      ¬documented.Data letterData ∧
      ∃ fault, ofValue (.map [("node_types", .list [.text "Person"])]) = .error fault ∧
        fault.kindName = "AttributeError" := by
  refine ⟨by decide, ⟨_, ofValue_letterData⟩, ?_, _, rfl, rfl⟩
  rintro ⟨_, ⟨⟩, types, _⟩
  rcases types _ rfl with impossible | ⟨_, ⟨⟩, each⟩
  · cases impossible
  rcases each _ List.mem_cons_self with impossible | ⟨_, ⟨⟩, nodeType⟩
  · cases impossible
  obtain ⟨_, impossible, _⟩ := nodeType.properties _ rfl
  cases impossible

end QueryWarden.Schema
