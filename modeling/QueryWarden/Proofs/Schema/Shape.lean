/-
The shape of the data that schemas are read from. What the data should be is one thing, what is
taken for it another: whatever is false is taken for an empty object, and whatever can be
walked through for the list of what is met on the way, so that a text stands for its letters.
Of data that cannot be walked through the reading ends with a fault of access, in the place
of a fault of the schema.
-/

import QueryWarden.Proofs.Schema.Reading
import QueryWarden.Proofs.Value.Json

namespace QueryWarden

namespace Schema

/-! ### Expectations -/

def IsText (value : Value) : Prop :=
  ∃ text, value = .text text

def FieldIs (fields : Bindings) (name : String) (fits : Value → Prop) : Prop :=
  ∀ value, fields.lookup name = some value → fits value

theorem fieldIs_nil (name : String) (fits : Value → Prop) : FieldIs [] name fits :=
  nofun

/-- What is expected of data: what may stand for an empty object, what the fields of a node
type may be, and what the fields of a relationship. -/
structure Expectation where
  nothing : Value → Prop
  parents : Value → Prop
  description : Value → Prop
  properties : Value → Prop
  relationship : Bindings → Prop

namespace Expectation

variable (expects : Expectation)

/-- An object with the right entries, or what may stand for an empty one. -/
def Object (each : Bindings → Prop) (value : Value) : Prop :=
  expects.nothing value ∨ ∃ entries, value = .map entries ∧ each entries

structure NodeType (fields : Bindings) : Prop where
  parents : FieldIs fields "extends" expects.parents
  description : FieldIs fields "description" expects.description
  properties : FieldIs fields "properties" expects.properties

theorem nodeType_nil : expects.NodeType [] :=
  ⟨fieldIs_nil _ _, fieldIs_nil _ _, fieldIs_nil _ _⟩

def NodeTypes (entries : Bindings) : Prop :=
  ∀ entry ∈ entries, expects.Object expects.NodeType entry.2

def Relationships (entries : Bindings) : Prop :=
  ∀ entry ∈ entries, ∃ fields, entry.2 = .map fields ∧ expects.relationship fields

def Data (data : Value) : Prop :=
  ∃ fields, data = .map fields ∧
    FieldIs fields "node_types" (expects.Object expects.NodeTypes) ∧
    FieldIs fields "relationships" (expects.Object expects.Relationships)

end Expectation

structure RelationshipFields (fields : Bindings) : Prop where
  name : FieldIs fields "name" IsText
  source : ∃ text, fields.lookup (givenName fields "from" "from_type") = some (.text text)
  target : ∃ text, fields.lookup (givenName fields "to" "to_type") = some (.text text)
  description : FieldIs fields "description" IsText

/-- The value can be walked through, and all that is met is right. -/
def Walks (fits : Value → Prop) (value : Value) : Prop :=
  ∃ items, value.items = .ok items ∧ ∀ item ∈ items, fits item

theorem walks_nothing (fits : Value → Prop) : Walks fits (.tuple []) :=
  ⟨[], rfl, nofun⟩

/-- What the data should be. -/
def documented : Expectation :=
  { nothing := fun value => value = .null
    parents := fun value => ∃ items, value = .list items ∧ ∀ item ∈ items, IsText item
    description := IsText
    properties := fun value => ∃ items, value = .list items ∧ ∀ item ∈ items, IsText item
    relationship := RelationshipFields }

/-- What is taken for it. -/
def taken : Expectation :=
  { nothing := fun value => value.truthy = false
    parents := Walks IsText
    description := IsText
    properties := Walks IsText
    relationship := RelationshipFields }

/-- Whether a value can be looked for among the labels, and be written if it is not there. -/
def CanBeSought (value : Value) : Prop :=
  value.hashable = .ok () ∧ ∃ text, value.shown? = some text

/-- What can be gone through to the end, right or wrong. -/
def passable : Expectation :=
  { nothing := fun value => value.truthy = false
    parents := Walks CanBeSought
    description := fun _ => True
    properties := Walks (fun _ => True)
    relationship := fun _ => True }

/-! ### Outcomes of reading -/

def accessKinds : List String :=
  ["AttributeError", "TypeError", "ValueError"]

theorem attributeError_mem : "AttributeError" ∈ accessKinds := by decide

theorem typeError_mem : "TypeError" ∈ accessKinds := by decide

section

variable {α β : Type} {good : α → Prop} {fine : β → Prop} {fits : Prop}

def Yields (good : α → Prop) (fits : Prop) : Except Fault α → Prop
  | .ok value => good value
  | .error fault =>
      fault.kindName = "SchemaDefinitionError" ∨ ¬fits ∧ fault.kindName ∈ accessKinds

theorem Yields.bind {first : Except Fault α} {next : α → Except Fault β}
    (yields : Yields good fits first)
    (others : ∀ value, good value → Yields fine fits (next value)) :
    Yields fine fits (first >>= next) := by
  cases first with
  | ok value => exact others value yields
  | error fault => exact yields

theorem Yields.mono {result : Except Fault α} {better : α → Prop} (yields : Yields good fits result)
    (implies : ∀ value, good value → better value) : Yields better fits result := by
  cases result with
  | ok value => exact implies value yields
  | error fault => exact yields

theorem Yields.of_checked {checked : Checked α}
    (sound : ∀ value, checked = .ok value → good value) :
    Yields good fits (checkedRecord checked) := by
  cases checked with
  | ok value => exact sound value rfl
  | error problems => exact .inl rfl

theorem Yields.mapM {change : α → Except Fault β} {each : α → β → Prop} {items : List α}
    (yields : ∀ item ∈ items, Yields (each item) fits (change item)) :
    Yields (List.Forall₂ each items) fits (items.mapM change) := by
  induction items with
  | nil => exact .nil
  | cons item items ih =>
      rw [List.mapM_cons]
      obtain ⟨first, others⟩ := List.forall_mem_cons.mp yields
      refine first.bind fun result right => ?_
      refine (ih others).bind fun results allRight => ?_
      exact .cons right allRight

end

/-! ### Objects -/

theorem Expectation.Object.exists_orEmpty {each : Bindings → Prop} {value : Value}
    (object : passable.Object each value) (empty : each []) :
    ∃ entries, value.orEmpty = .map entries ∧ each entries := by
  rcases object with isFalse | ⟨entries, rfl, right⟩
  · exact ⟨[], if_neg (Bool.eq_false_iff.mp isFalse), empty⟩
  · exact ⟨entries, orEmpty_map entries, right⟩

theorem object_of_orEmpty {each : Bindings → Prop} {value : Value} {entries : Bindings}
    (same : value.orEmpty = .map entries) (right : each entries) : taken.Object each value := by
  unfold Value.orEmpty at same
  split at same
  · exact .inr ⟨entries, same, right⟩
  · next isFalse => exact .inl (Bool.eq_false_iff.mpr isFalse)

theorem FieldIs.getD {fields : Bindings} {name : String} {fits : Value → Prop} {default : Value}
    (field : FieldIs fields name fits) (fitsDefault : fits default) :
    fits ((fields.lookup name).getD default) := by
  cases found : fields.lookup name with
  | none => exact fitsDefault
  | some value => exact field value found

theorem fieldIs_of_getD {fields : Bindings} {name : String} {fits : Value → Prop}
    {default : Value} (right : fits ((fields.lookup name).getD default)) :
    FieldIs fields name fits := by
  intro value found
  rw [found] at right
  exact right

/-! ### Stages of reading -/

section

variable {fits : Prop}

private theorem entries_yields {value : Value} (opens : fits → ∃ entries, value = .map entries) :
    Yields (fun entries => value = .map entries) fits (accessing value.entries) := by
  cases value with
  | map entries => exact rfl
  | _ =>
      refine .inr ⟨fun fit => ?_, attributeError_mem⟩
      obtain ⟨_, impossible⟩ := opens fit
      cases impossible

theorem field_yields {value : Value} (opens : fits → ∃ fields, value = .map fields)
    (name : String) (default : Value) :
    Yields (fun field => ∃ fields, value = .map fields ∧
      (fields.lookup name).getD default = field) fits (accessing (value.field name default)) := by
  cases value with
  | map fields => exact ⟨fields, rfl, rfl⟩
  | _ =>
      refine .inr ⟨fun fit => ?_, attributeError_mem⟩
      obtain ⟨_, impossible⟩ := opens fit
      cases impossible

private theorem items_yields {value : Value} (walks : fits → ∃ items, value.items = .ok items) :
    Yields (fun items => value.items = .ok items) fits (accessing value.items) := by
  cases read : value.items with
  | ok items => exact rfl
  | error fault =>
      refine .inr ⟨fun fit => ?_, ?_⟩
      · obtain ⟨_, walked⟩ := walks fit
        cases read.symm.trans walked
      · cases value <;> cases read <;> exact typeError_mem

structure ReadFrom (entry : String × Value) (declaration : Declaration) : Prop where
  label : declaration.label = entry.1
  spec : ∃ fields, entry.2.orEmpty = .map fields ∧ declaration.spec = .map fields ∧
    ((fields.lookup "extends").getD (.tuple [])).items = .ok declaration.parents
  json : ∀ parent ∈ declaration.parents, parent.isJson = true

/-- What is needed of an entry for a declaration to be read from it. -/
theorem readDeclaration_yields {entry : String × Value} (json : entry.2.isJson = true)
    (opens : fits → passable.Object passable.NodeType entry.2) :
    Yields (ReadFrom entry) fits (accessing (readDeclaration entry)) := by
  have opened : fits → ∃ fields, entry.2.orEmpty = .map fields ∧ passable.NodeType fields :=
    fun fit => (opens fit).exists_orEmpty passable.nodeType_nil
  rw [readDeclaration, accessing_bind]
  refine (field_yields (fun fit => ?_) "extends" (.tuple [])).bind ?_
  · obtain ⟨fields, same, _⟩ := opened fit
    exact ⟨fields, same⟩
  · rintro _ ⟨fields, same, rfl⟩
    rw [accessing_bind]
    refine (items_yields fun fit => ?_).bind fun parents walked => ?_
    · obtain ⟨others, sameOthers, passes⟩ := opened fit
      cases same.symm.trans sameOthers
      obtain ⟨items, walked, _⟩ := passes.parents.getD (walks_nothing _)
      exact ⟨items, walked⟩
    · have jsonFields : (Value.map fields).isJson = true := same ▸ Value.isJson_orEmpty json
      have jsonParents : FieldIs fields "extends" fun value =>
          ∀ items, value.items = .ok items → ∀ item ∈ items, item.isJson = true :=
        fun _ found _ walked =>
          Value.isJson_items (Value.isJson_of_lookup jsonFields found) walked
      refine ⟨rfl, ⟨fields, same, same, walked⟩, jsonParents.getD ?_ parents walked⟩
      rintro _ ⟨⟩ item member
      cases member

private theorem hashable_yields {value : Value} (json : value.isJson = true)
    (sought : fits → CanBeSought value) :
    Yields (fun _ => True) fits (accessing value.hashable) := by
  cases read : value.hashable with
  | ok _ => exact trivial
  | error fault =>
      refine .inr ⟨fun fit => ?_, ?_⟩
      · cases read.symm.trans (sought fit).1
      · cases value with
        | list _ | map _ =>
            cases read
            exact typeError_mem
        | null | bool _ | int _ | float _ | text _ => cases read
        | tuple _ | set _ | moment _ _ | filter _ | clause _ _ => cases json

private theorem refuse_yields {text : Option String} {fault : String → Fault}
    (ofSchema : ∀ shown, (fault shown).kindName = "SchemaDefinitionError")
    (shows : fits → ∃ shown, text = some shown) : Yields good fits (refuse text fault) := by
  cases text with
  | some shown => exact .inl (ofSchema shown)
  | none =>
      refine .inr ⟨fun fit => ?_, by decide⟩
      obtain ⟨_, impossible⟩ := shows fit
      cases impossible

/-- A parent that is declared is a text. -/
theorem declaredParent_yields (declared : List String) (label : String) {parent : Value}
    (json : parent.isJson = true) (sought : fits → CanBeSought parent) :
    Yields (fun name => parent = .text name) fits (declaredParent declared label parent) := by
  refine (hashable_yields json sought).bind fun _ _ => ?_
  cases parent with
  | text name =>
      change Yields _ fits (if declared.contains name then _ else _)
      split
      · exact rfl
      · exact .inl rfl
  | _ => exact refuse_yields (fun _ => rfl) fun fit => (sought fit).2

private theorem parentsOf_yields (declared : List String) {declarations : List Declaration}
    (json : ∀ declaration ∈ declarations, ∀ parent ∈ declaration.parents, parent.isJson = true)
    (sought : fits → ∀ declaration ∈ declarations, ∀ parent ∈ declaration.parents,
      CanBeSought parent) :
    Yields (List.Forall₂ (fun declaration _ => ∀ parent ∈ declaration.parents, IsText parent)
      declarations) fits (parentsOf declared declarations) := by
  refine .mapM fun declaration member => ?_
  have each : Yields (List.Forall₂ (fun parent name => parent = .text name) declaration.parents)
      fits (declaration.parents.mapM (declaredParent declared declaration.label)) :=
    .mapM fun parent listed => declaredParent_yields declared declaration.label
      (json declaration member parent listed)
      fun fit => sought fit declaration member parent listed
  refine each.bind fun names areNames parent listed => ?_
  rw [← List.forall₂_map_right_iff (f := Value.text), List.forall₂_eq_eq_eq] at areNames
  rw [areNames] at listed
  obtain ⟨name, _, rfl⟩ := List.mem_map.mp listed
  exact ⟨name, rfl⟩

structure BuiltFrom (fields : Bindings) : Prop where
  description : IsText ((fields.lookup "description").getD (.text ""))
  properties : Walks IsText ((fields.lookup "properties").getD (.tuple []))

private theorem buildNodeType_yields {declaration : Declaration} {fields : Bindings}
    (spec : declaration.spec = .map fields)
    (walks : fits → Walks (fun _ => True) ((fields.lookup "properties").getD (.tuple [])))
    (labels : List String) :
    Yields (fun _ => BuiltFrom fields) fits (buildNodeType declaration labels) := by
  rw [buildNodeType, spec]
  refine (field_yields (fun _ => ⟨fields, rfl⟩) "description" (.text "")).bind ?_
  rintro _ ⟨_, same, rfl⟩
  cases same
  refine (field_yields (fun _ => ⟨fields, rfl⟩) "properties" (.tuple [])).bind ?_
  rintro _ ⟨_, same, rfl⟩
  cases same
  refine (items_yields fun fit => ?_).bind fun items walked => ?_
  · obtain ⟨items, walked, _⟩ := walks fit
    exact ⟨items, walked⟩
  · refine .of_checked fun nodeType built => ?_
    obtain ⟨_, _, described, listed⟩ := NodeType.ofFields_eq_ok_iff.mp built
    refine ⟨⟨_, described⟩, items, walked, fun item member => ?_⟩
    rw [listed] at member
    obtain ⟨text, _, rfl⟩ := List.mem_map.mp member
    exact ⟨text, rfl⟩

/-- Node types are built one after the other; only the labels depend on what came before. -/
theorem buildNodeTypes_yields (parents : Inheritance.Parents) {declarations : List Declaration}
    {each : Declaration → Prop}
    (yields : ∀ declaration ∈ declarations, ∀ labels,
      Yields (fun _ => each declaration) fits (buildNodeType declaration labels))
    (resolved : Inheritance.Resolved) :
    Yields (fun _ => ∀ declaration ∈ declarations, each declaration) fits
      (buildNodeTypes parents resolved declarations) := by
  induction declarations generalizing resolved with
  | nil => exact nofun
  | cons declaration declarations ih =>
      obtain ⟨first, others⟩ := List.forall_mem_cons.mp yields
      rw [buildNodeTypes]
      cases Inheritance.labelsOf parents resolved declaration.label with
      | error cycle => exact .inl rfl
      | ok found =>
          refine (first found.1).bind fun nodeType built => ?_
          refine (ih others found.2).bind fun nodeTypes builtOthers => ?_
          exact List.forall_mem_cons.mpr ⟨built, builtOthers⟩

private theorem checkEndpoint_yields (declared : List String) (relationship endpoint : String) :
    Yields (fun _ => True) fits (checkEndpoint declared relationship endpoint) := by
  unfold checkEndpoint
  split
  · exact trivial
  · exact .inl rfl

/-- A relationship has the fields it is given, over the name under which it stands. -/
theorem lookup_named {fields : Bindings} (distinct : (Bindings.names fields).Nodup)
    (name field : String) :
    (Bindings.override [("name", .text name)] fields).lookup field =
      (fields.lookup field).or ([("name", Value.text name)].lookup field) := by
  rw [Bindings.lookup_override, Bindings.lookup_reverse distinct]

private theorem givenName_ne (fields : Bindings) {name other reserved : String}
    (first : name ≠ reserved)
    (second : other ≠ reserved) : givenName fields name other ≠ reserved := by
  unfold givenName
  split
  · exact second
  · exact first

private theorem relationshipFields_of_named {fields : Bindings} {name : String}
    {relationship : RelationshipType} (distinct : (Bindings.names fields).Nodup)
    (read : RelationshipType.ofFields (Bindings.override [("name", .text name)] fields) =
      .ok relationship) : RelationshipFields fields := by
  have own : ∀ field, field ≠ "name" →
      (Bindings.override [("name", .text name)] fields).lookup field = fields.lookup field := by
    intro field other
    rw [lookup_named distinct, List.lookup_cons, beq_eq_false_iff_ne.mpr other, List.lookup_nil,
      Option.or_none]
  obtain ⟨named, begins, ends, described⟩ := RelationshipType.ofFields_eq_ok_iff.mp read
  rw [lookup_named distinct] at named
  rw [givenName, own "from" (by decide), own "from_type" (by decide), ← givenName,
    own _ (givenName_ne fields (by decide) (by decide))] at begins
  rw [givenName, own "to" (by decide), own "to_type" (by decide), ← givenName,
    own _ (givenName_ne fields (by decide) (by decide))] at ends
  rw [own "description" (by decide)] at described
  refine ⟨fun value found => ?_, ⟨_, begins⟩, ⟨_, ends⟩, fieldIs_of_getD ⟨_, described⟩⟩
  rw [found, Option.some_or] at named
  exact ⟨_, Option.some.inj named⟩

private theorem buildRelationship_yields (declared : List String) {entry : String × Value}
    (json : entry.2.isJson = true) (opens : fits → ∃ fields, entry.2 = .map fields) :
    Yields (fun _ => ∃ fields, entry.2 = .map fields ∧ RelationshipFields fields) fits
      (buildRelationship declared entry.1 entry.2) := by
  obtain ⟨name, spec⟩ := entry
  cases spec with
  | map fields =>
      have checked : Yields (fun _ => RelationshipFields fields) fits
          (checkedRecord (RelationshipType.ofFields
            (Bindings.override [("name", .text name)] fields))) :=
        .of_checked fun _ read => relationshipFields_of_named (Value.nodup_of_isJson json) read
      refine checked.bind fun relationship right => ?_
      refine (checkEndpoint_yields declared name relationship.source).bind fun _ _ => ?_
      refine (checkEndpoint_yields declared name relationship.target).bind fun _ _ => ?_
      exact ⟨fields, rfl, right⟩
  | _ =>
      refine .inr ⟨fun fit => ?_, typeError_mem⟩
      obtain ⟨_, impossible⟩ := opens fit
      cases impossible

end

/-! ### Reading as a whole -/

private theorem isJson_getD {fields : Bindings} (json : (Value.map fields).isJson = true)
    (name : String) : ((fields.lookup name).getD (.map [])).isJson = true := by
  have jsonField : FieldIs fields name fun value => value.isJson = true :=
    fun _ found => Value.isJson_of_lookup json found
  exact jsonField.getD rfl

/-- The fields of a declaration that was read from a passable entry. -/
theorem ReadFrom.nodeType {entry : String × Value} {declaration : Declaration}
    (read : ReadFrom entry declaration) (passes : passable.Object passable.NodeType entry.2) :
    ∃ fields, declaration.spec = .map fields ∧ passable.NodeType fields ∧
      ((fields.lookup "extends").getD (.tuple [])).items = .ok declaration.parents := by
  obtain ⟨fields, same, spec, walked⟩ := read.spec
  obtain ⟨_, sameFields, right⟩ := passes.exists_orEmpty passable.nodeType_nil
  cases same.symm.trans sameFields
  exact ⟨fields, spec, right, walked⟩

private theorem ReadFrom.canBeSought {entry : String × Value} {declaration : Declaration}
    (read : ReadFrom entry declaration) (passes : passable.Object passable.NodeType entry.2) :
    ∀ parent ∈ declaration.parents, CanBeSought parent := by
  obtain ⟨fields, _, right, walked⟩ := read.nodeType passes
  obtain ⟨parents, walkedAgain, sought⟩ := right.parents.getD (walks_nothing _)
  cases walked.symm.trans walkedAgain
  exact sought

def IsBuilt (declaration : Declaration) : Prop :=
  ∃ fields, declaration.spec = .map fields ∧ BuiltFrom fields

private theorem ReadFrom.build_yields {fits : Prop} {entry : String × Value}
    {declaration : Declaration}
    (read : ReadFrom entry declaration)
    (passes : fits → passable.Object passable.NodeType entry.2) (labels : List String) :
    Yields (fun _ => IsBuilt declaration) fits (buildNodeType declaration labels) := by
  obtain ⟨fields, _, spec, _⟩ := read.spec
  refine (buildNodeType_yields spec (fun fit => ?_) labels).mono
    fun _ right => ⟨fields, spec, right⟩
  obtain ⟨_, sameSpec, right, _⟩ := read.nodeType (passes fit)
  cases spec.symm.trans sameSpec
  exact right.properties.getD (walks_nothing _)

/-- What an entry was read as and built from is all that is taken for a node type. -/
theorem object_of_isBuilt {entry : String × Value} {declaration : Declaration}
    (read : ReadFrom entry declaration) (areTexts : ∀ parent ∈ declaration.parents, IsText parent)
    (built : IsBuilt declaration) : taken.Object taken.NodeType entry.2 := by
  obtain ⟨fields, same, spec, walked⟩ := read.spec
  obtain ⟨_, sameSpec, right⟩ := built
  cases spec.symm.trans sameSpec
  have parents : Walks IsText ((fields.lookup "extends").getD (.tuple [])) :=
    ⟨_, walked, areTexts⟩
  exact object_of_orEmpty same ⟨fieldIs_of_getD parents, fieldIs_of_getD right.description,
    fieldIs_of_getD right.properties⟩

/-- The object that is read for a field of passable data. -/
theorem exists_field {fields : Bindings} {name : String} {each : Bindings → Prop}
    (field : FieldIs fields name (passable.Object each)) (empty : each []) :
    ∃ entries, ((fields.lookup name).getD (.map [])).orEmpty = .map entries ∧ each entries :=
  (field.getD (.inr ⟨[], rfl, empty⟩)).exists_orEmpty empty

private theorem readTypes_yields {fits : Prop} {entries : Bindings}
    (json : ∀ entry ∈ entries, entry.2.isJson = true) (passes : fits → passable.NodeTypes entries) :
    Yields (fun _ => taken.NodeTypes entries) fits (readTypes entries) := by
  unfold readTypes
  rw [declarations_eq_mapM]
  refine (Yields.mapM fun entry member => readDeclaration_yields (json entry member)
    fun fit => passes fit entry member).bind fun declarations read => ?_
  have readEach : ∀ declaration ∈ declarations,
      ∃ entry ∈ entries, ReadFrom entry declaration := fun _ => exists_left_of_mem read
  refine (parentsOf_yields _ (fun declaration member => ?_)
    (fun fit declaration member => ?_)).bind fun parents areTexts => ?_
  · obtain ⟨entry, _, readEntry⟩ := readEach declaration member
    exact readEntry.json
  · obtain ⟨entry, inside, readEntry⟩ := readEach declaration member
    exact readEntry.canBeSought (passes fit entry inside)
  have builds : ∀ declaration ∈ declarations, ∀ labels,
      Yields (fun _ => IsBuilt declaration) fits (buildNodeType declaration labels) := by
    intro declaration member
    obtain ⟨entry, inside, readEntry⟩ := readEach declaration member
    exact readEntry.build_yields fun fit => passes fit entry inside
  refine (buildNodeTypes_yields parents builds []).mono fun _ built entry member => ?_
  obtain ⟨declaration, inside, readEntry⟩ := exists_right_of_mem read member
  obtain ⟨_, _, texts⟩ := exists_right_of_mem areTexts inside
  exact object_of_isBuilt readEntry texts (built declaration inside)

private theorem readRelationships_yields {fits : Prop} (declared : List String) {entries : Bindings}
    (json : ∀ entry ∈ entries, entry.2.isJson = true)
    (passes : fits → passable.Relationships entries) :
    Yields (fun _ => taken.Relationships entries) fits
      (entries.mapM fun entry => buildRelationship declared entry.1 entry.2) := by
  refine (Yields.mapM fun entry member => buildRelationship_yields declared (json entry member)
    fun fit => ?_).mono fun _ right entry member => ?_
  · obtain ⟨fields, same, _⟩ := passes fit entry member
    exact ⟨fields, same⟩
  · obtain ⟨_, _, isRight⟩ := exists_right_of_mem right member
    exact isRight

/-- Stage after stage is passed by data that fits, and what is read shows what was taken. -/
theorem ofValue_yields {data : Value} (json : data.isJson = true) :
    Yields (fun _ => taken.Data data) (passable.Data data) (ofValue data) := by
  have opens : passable.Data data → ∃ fields, data = .map fields := by
    rintro ⟨fields, same, _⟩
    exact ⟨fields, same⟩
  rw [ofValue_eq]
  refine (field_yields opens "node_types" (.map [])).bind ?_
  rintro _ ⟨fields, rfl, rfl⟩
  refine (field_yields opens "relationships" (.map [])).bind ?_
  rintro _ ⟨_, same, rfl⟩
  cases same
  have opened : passable.Data (.map fields) →
      (∃ types, ((fields.lookup "node_types").getD (.map [])).orEmpty = .map types ∧
        passable.NodeTypes types) ∧
      ∃ named, ((fields.lookup "relationships").getD (.map [])).orEmpty = .map named ∧
        passable.Relationships named := by
    rintro ⟨_, same, types, named⟩
    cases same
    exact ⟨exists_field types nofun, exists_field named nofun⟩
  have jsonTypes := Value.isJson_orEmpty (isJson_getD json "node_types")
  have jsonNamed := Value.isJson_orEmpty (isJson_getD json "relationships")
  refine (entries_yields fun fit => ?_).bind fun types sameTypes => ?_
  · obtain ⟨⟨types, same, _⟩, _⟩ := opened fit
    exact ⟨types, same⟩
  rw [sameTypes] at opened jsonTypes
  refine (readTypes_yields (Value.entries_of_isJson jsonTypes) fun fit => ?_).bind
    fun nodeTypes typesTaken => ?_
  · obtain ⟨⟨_, same, passes⟩, _⟩ := opened fit
    cases same
    exact passes
  refine (entries_yields fun fit => ?_).bind fun named sameNamed => ?_
  · obtain ⟨_, named, same, _⟩ := opened fit
    exact ⟨named, same⟩
  rw [sameNamed] at opened jsonNamed
  refine (readRelationships_yields _ (Value.entries_of_isJson jsonNamed) fun fit => ?_).bind
    fun relationships namedTaken => ?_
  · obtain ⟨_, _, same, passes⟩ := opened fit
    cases same
    exact passes
  exact ⟨fields, rfl, fieldIs_of_getD (object_of_orEmpty sameTypes typesTaken),
    fieldIs_of_getD (object_of_orEmpty sameNamed namedTaken)⟩

/-! ### What follows from what -/

/-- Whatever the one expectation is content with, the other is. -/
structure Expectation.Implies (expects other : Expectation) : Prop where
  nothing : ∀ value, expects.nothing value → other.nothing value
  parents : ∀ value, expects.parents value → other.parents value
  description : ∀ value, expects.description value → other.description value
  properties : ∀ value, expects.properties value → other.properties value
  relationship : ∀ fields, expects.relationship fields → other.relationship fields

namespace Expectation

variable {expects other : Expectation}

theorem Object.mono {each better : Bindings → Prop} {value : Value}
    (object : expects.Object each value) (implies : expects.Implies other)
    (entriesImply : ∀ entries, each entries → better entries) : other.Object better value := by
  rcases object with nothing | ⟨entries, rfl, right⟩
  · exact .inl (implies.nothing value nothing)
  · exact .inr ⟨entries, rfl, entriesImply entries right⟩

theorem Data.mono {data : Value} (right : expects.Data data) (implies : expects.Implies other) :
    other.Data data := by
  obtain ⟨fields, rfl, types, named⟩ := right
  refine ⟨fields, rfl, fun value found => ?_, fun value found => ?_⟩
  · refine (types value found).mono implies fun entries each entry member => ?_
    refine (each entry member).mono implies fun fields nodeType => ?_
    exact ⟨fun value found => implies.parents value (nodeType.parents value found),
      fun value found => implies.description value (nodeType.description value found),
      fun value found => implies.properties value (nodeType.properties value found)⟩
  · refine (named value found).mono implies fun entries each entry member => ?_
    obtain ⟨fields, same, isRight⟩ := each entry member
    exact ⟨fields, same, implies.relationship fields isRight⟩

end Expectation

theorem documented_implies_taken : documented.Implies taken where
  nothing := by
    rintro _ rfl
    rfl
  parents := by
    rintro _ ⟨items, rfl, areTexts⟩
    exact ⟨items, rfl, areTexts⟩
  description := fun _ isText => isText
  properties := by
    rintro _ ⟨items, rfl, areTexts⟩
    exact ⟨items, rfl, areTexts⟩
  relationship := fun _ right => right

theorem taken_implies_passable : taken.Implies passable where
  nothing := fun _ isFalse => isFalse
  parents := by
    rintro value ⟨items, walked, areTexts⟩
    refine ⟨items, walked, fun item member => ?_⟩
    obtain ⟨text, rfl⟩ := areTexts item member
    exact ⟨rfl, text, rfl⟩
  description := fun _ _ => trivial
  properties := by
    rintro value ⟨items, walked, _⟩
    exact ⟨items, walked, fun _ _ => trivial⟩
  relationship := fun _ _ => trivial

end Schema

end QueryWarden
