/-
Schemas from data, as far as inheritance decides. A schema of node types is accepted if and
only if every listed parent is declared and no type inherits from itself; then each type
carries exactly the labels it inherits. All of this speaks of the graph that the data lists,
so that no order of declarations or of parents makes a difference.
-/

import QueryWarden.Proofs.Schema.Inheritance
import QueryWarden.Proofs.Schema.Record
import QueryWarden.Schema.Reader

namespace QueryWarden

open Inheritance

namespace Schema

structure TypedFields (fields : Bindings) (parents : List String) : Prop where
  extended : fields.lookup "extends" = some (.ofTexts parents) ∨
    fields.lookup "extends" = none ∧ parents = []
  described : ∀ value, fields.lookup "description" = some value → ∃ text, value = .text text
  listed : ∀ value, fields.lookup "properties" = some value → ∃ texts, value = .ofTexts texts

inductive Specifies : Value → List String → Prop where
  | nothing : Specifies .null []
  | fields {fields : Bindings} {parents : List String} (typed : TypedFields fields parents) :
      Specifies (.map fields) parents

abbrev SpecifyAll (entries : Bindings) (parents : Parents) : Prop :=
  List.Forall₂ (fun entry declared => entry.1 = declared.1 ∧ Specifies entry.2 declared.2)
    entries parents

/-- Data that declares node types with these parents, each under a name of its own, and no
relationships. -/
inductive Declares : Value → Parents → Prop where
  | types {fields entries : Bindings} {parents : Parents}
      (types : fields.lookup "node_types" = some (.map entries))
      (noRelationships : fields.lookup "relationships" = none ∨
        fields.lookup "relationships" = some .null ∨
        fields.lookup "relationships" = some (.map []))
      (distinct : (names parents).Nodup)
      (specified : SpecifyAll entries parents) : Declares (.map fields) parents

/-! ### Reading declarations -/

/-- A declaration that has been read for an entry of the graph. -/
structure Reads (declaration : Declaration) (entry : String × List String) : Prop where
  label : declaration.label = entry.1
  parents : declaration.parents = entry.2.map .text
  spec : ∃ fields, declaration.spec = .map fields ∧ TypedFields fields entry.2

theorem Specifies.orEmpty {spec : Value} {parents : List String}
    (specifies : Specifies spec parents) :
    ∃ fields, spec.orEmpty = .map fields ∧ TypedFields fields parents := by
  cases specifies with
  | nothing => exact ⟨[], rfl, ⟨.inr ⟨rfl, rfl⟩, by simp, by simp⟩⟩
  | @fields fields _ typed =>
      cases fields with
      | nil => exact ⟨[], rfl, typed⟩
      | cons entry fields => exact ⟨entry :: fields, rfl, typed⟩

private theorem TypedFields.extends_items {fields : Bindings} {parents : List String}
    (typed : TypedFields fields parents) :
    ((fields.lookup "extends").getD (.tuple [])).items = .ok (parents.map .text) := by
  rcases typed.extended with found | ⟨missing, rfl⟩
  · rw [found]
    rfl
  · rw [missing]
    rfl

private theorem exists_declarations {entries : Bindings} {parents : Parents}
    (specified : SpecifyAll entries parents) :
    ∃ read, declarations entries = .ok read ∧ List.Forall₂ Reads read parents := by
  induction specified with
  | nil => exact ⟨[], rfl, .nil⟩
  | @cons entry declared entries parents first _ ih =>
      obtain ⟨label, spec⟩ := entry
      obtain ⟨fields, shape, typed⟩ := first.2.orEmpty
      obtain ⟨others, readOthers, each⟩ := ih
      refine ⟨{ label := label, parents := declared.2.map .text, spec := .map fields } :: others,
        ?_, .cons ⟨first.1, rfl, fields, rfl, typed⟩ each⟩
      rw [declarations, shape, readOthers]
      change (((fields.lookup "extends").getD (.tuple [])).items >>= _) = _
      rw [typed.extends_items]
      rfl

private theorem names_of_specifyAll {entries : Bindings} {parents : Parents}
    (specified : SpecifyAll entries parents) : entries.map Prod.fst = names parents := by
  induction specified with
  | nil => rfl
  | cons first _ ih => exact congrArg₂ List.cons first.1 ih

/-! ### Reading parents -/

theorem declaredParent_text (declared : List String) (label name : String) :
    declaredParent declared label (.text name) =
      if declared.contains name then .ok name
      else .error (.schema (.unknownParent label name)) :=
  rfl

def IsUnknownParent (fault : Fault) : Prop :=
  ∃ label parent, fault = .schema (.unknownParent label parent)

private theorem declaredParents_eq_ok {declared : List String} (label : String)
    {parents : List String}
    (known : ∀ parent ∈ parents, parent ∈ declared) :
    (parents.map Value.text).mapM (declaredParent declared label) = .ok parents := by
  refine mapM_eq_ok_iff.mpr ?_
  rw [List.forall₂_map_left_iff, List.forall₂_same]
  intro parent member
  rw [declaredParent_text, if_pos (List.contains_iff_mem.mpr (known parent member))]

private theorem declaredParents_eq_error {declared : List String} (label : String)
    {parents : List String} {parent : String} (member : parent ∈ parents)
    (unknown : parent ∉ declared) :
    ∃ fault, (parents.map Value.text).mapM (declaredParent declared label) = .error fault ∧
      IsUnknownParent fault := by
  refine mapM_eq_error ?_ ⟨.text parent, List.mem_map_of_mem member, ?_⟩
  · intro item listed
    obtain ⟨name, _, rfl⟩ := List.mem_map.mp listed
    rw [declaredParent_text]
    split
    · exact .inl ⟨name, rfl⟩
    · exact .inr ⟨_, rfl, label, _, rfl⟩
  · have refused : declared.contains parent ≠ true := fun known =>
      unknown (List.contains_iff_mem.mp known)
    exact ⟨_, (declaredParent_text declared label parent).trans (if_neg refused)⟩

private theorem parentsOf_eq_ok {declared : List String} {read : List Declaration}
    {parents : Parents}
    (each : List.Forall₂ Reads read parents)
    (known : ∀ entry ∈ parents, ∀ parent ∈ entry.2, parent ∈ declared) :
    Schema.parentsOf declared read = .ok parents := by
  refine mapM_eq_ok_iff.mpr ?_
  induction each with
  | nil => exact .nil
  | @cons declaration entry _ _ reads _ ih =>
      refine .cons ?_ (ih fun other member => known other (List.mem_cons_of_mem entry member))
      rw [reads.parents, reads.label, declaredParents_eq_ok _ (known entry List.mem_cons_self)]
      rfl

private theorem parentsOf_eq_error {declared : List String} {read : List Declaration}
    {parents : Parents} (each : List.Forall₂ Reads read parents)
    (unknown : ¬∀ entry ∈ parents, ∀ parent ∈ entry.2, parent ∈ declared) :
    ∃ fault, Schema.parentsOf declared read = .error fault ∧ IsUnknownParent fault := by
  unfold Schema.parentsOf
  induction each with
  | nil => exact absurd (fun _ member => nomatch member) unknown
  | @cons declaration entry read parents reads _ ih =>
      rw [List.mapM_cons, reads.parents, reads.label]
      by_cases known : ∀ parent ∈ entry.2, parent ∈ declared
      · have others : ¬∀ other ∈ parents, ∀ parent ∈ other.2, parent ∈ declared :=
          fun others => unknown (List.forall_mem_cons.mpr ⟨known, others⟩)
        obtain ⟨fault, failed, isUnknown⟩ := ih others
        refine ⟨fault, ?_, isUnknown⟩
        rw [declaredParents_eq_ok _ known, failed]
        rfl
      · push Not at known
        obtain ⟨parent, member, notDeclared⟩ := known
        obtain ⟨fault, failed, isUnknown⟩ :=
          declaredParents_eq_error entry.1 member notDeclared
        refine ⟨fault, ?_, isUnknown⟩
        rw [failed]
        rfl

/-! ### Building node types -/

theorem TypedFields.description {fields : Bindings} {parents : List String}
    (typed : TypedFields fields parents) :
    ∃ text, (fields.lookup "description").getD (.text "") = .text text := by
  cases found : fields.lookup "description" with
  | none => exact ⟨"", rfl⟩
  | some value => exact typed.described value found

private theorem TypedFields.properties_items {fields : Bindings} {parents : List String}
    (typed : TypedFields fields parents) :
    ∃ texts : List String, ((fields.lookup "properties").getD (.tuple [])).items =
      .ok (texts.map Value.text) := by
  cases found : fields.lookup "properties" with
  | none => exact ⟨[], rfl⟩
  | some value =>
      obtain ⟨texts, rfl⟩ := typed.listed value found
      exact ⟨texts, rfl⟩

/-- A typed declaration always gives a node type, with the labels that are handed in. -/
theorem exists_buildNodeType {declaration : Declaration} {entry : String × List String}
    (reads : Reads declaration entry) (labels : List String) :
    ∃ nodeType, buildNodeType declaration labels = .ok nodeType ∧
      nodeType.label = entry.1 ∧ ∀ label, label ∈ nodeType.labels ↔ label ∈ labels := by
  obtain ⟨fields, shape, typed⟩ := reads.spec
  obtain ⟨description, isText⟩ := typed.description
  obtain ⟨properties, isTexts⟩ := typed.properties_items
  refine ⟨{ label := entry.1, labels := sortedSet labels, description := description,
            properties := properties }, ?_, rfl, fun label => mem_sortedSet label labels⟩
  rw [buildNodeType, shape, reads.label]
  change (accessing ((fields.lookup "properties").getD (.tuple [])).items >>= fun properties =>
    checkedRecord (NodeType.ofFields [("label", .text entry.1), ("labels", .ofTexts labels),
      ("description", (fields.lookup "description").getD (.text "")),
      ("properties", .tuple properties)])) = _
  rw [isTexts, isText]
  exact mapError_eq_ok_iff.mpr (NodeType.ofFields_eq_ok_iff.mpr ⟨rfl, rfl, rfl, rfl⟩)

def Carries (parents : Parents) (nodeType : NodeType) (entry : String × List String) : Prop :=
  nodeType.label = entry.1 ∧ ∀ label, label ∈ nodeType.labels ↔ Inherits parents entry.1 label

inductive Builds (parents entries : Parents) : Except Fault (List NodeType) → Prop where
  | built {nodeTypes : List NodeType}
      (grounded : ∀ entry ∈ entries, Grounded parents entry.1)
      (carry : List.Forall₂ (Carries parents) nodeTypes entries) :
      Builds parents entries (.ok nodeTypes)
  | cyclic {walk : List String} (revisits : Revisits parents walk) :
      Builds parents entries (.error (.schema (.cycle walk)))

/-- Type after type is built, each with the record of what was resolved before it. -/
theorem buildNodeTypes_builds {parents entries : Parents} (complete : Complete parents)
    (distinct : (names parents).Nodup) (declared : ∀ entry ∈ entries, entry.1 ∈ names parents)
    {read : List Declaration} (each : List.Forall₂ Reads read entries)
    {resolved : Resolved} (sound : Sound parents resolved) :
    Builds parents entries (buildNodeTypes parents resolved read) := by
  induction each generalizing resolved with
  | nil => exact .built (by simp) .nil
  | @cons declaration entry read entries reads _ ih =>
      have answers :=
        labelsOf_answers complete distinct (declared entry List.mem_cons_self) sound
      have declaredOthers := fun other member => declared other (List.mem_cons_of_mem entry member)
      rw [buildNodeTypes, reads.label]
      cases outcome : labelsOf parents resolved entry.1 with
      | error walk =>
          rw [outcome] at answers
          cases answers with
          | cyclic revisits => exact .cyclic revisits
      | ok pair =>
          obtain ⟨labels, resolved⟩ := pair
          rw [outcome] at answers
          cases answers with
          | found grounded exact sound =>
              have others := ih declaredOthers sound
              obtain ⟨nodeType, built, sameLabel, sameLabels⟩ := exists_buildNodeType reads labels
              simp only [built]
              cases outcome : buildNodeTypes parents resolved read with
              | error fault =>
                  rw [outcome] at others
                  cases others with
                  | cyclic revisits => exact .cyclic revisits
              | ok nodeTypes =>
                  rw [outcome] at others
                  cases others with
                  | built groundedOthers carry =>
                      refine .built (List.forall_mem_cons.mpr ⟨?_, groundedOthers⟩)
                        (.cons ⟨sameLabel, fun label => ?_⟩ carry)
                      · exact grounded entry.1 (List.mem_singleton_self _)
                      · rw [sameLabels, exact]
                        simp

/-! ### Whole schemas -/

private theorem exists_ofValue_eq {data : Value} {parents : Parents}
    (declares : Declares data parents) :
    ∃ read, List.Forall₂ Reads read parents ∧
      ofValue data = (do
        let listed ← Schema.parentsOf (names parents) read
        let nodeTypes ← buildNodeTypes listed [] read
        return { nodeTypes := nodeTypes, relationships := [] }) := by
  cases declares with
  | @types fields entries _ types noRelationships _ specified =>
      obtain ⟨read, isRead, each⟩ := exists_declarations specified
      refine ⟨read, each, ?_⟩
      have typeEntries : ((fields.lookup "node_types").getD (.map [])).orEmpty = .map entries := by
        rw [types]
        cases entries with
        | nil => rfl
        | cons entry entries => rfl
      have noEntries : ((fields.lookup "relationships").getD (.map [])).orEmpty = .map [] := by
        rcases noRelationships with absent | null | empty
        · rw [absent]
          rfl
        · rw [null]
          rfl
        · rw [empty]
          rfl
      unfold ofValue
      change (accessing ((fields.lookup "node_types").getD (.map [])).orEmpty.entries >>= _) = _
      rw [typeEntries]
      change (accessing (declarations entries) >>= _) = _
      rw [isRead]
      change (Schema.parentsOf (entries.map Prod.fst) read >>= _) = _
      rw [names_of_specifyAll specified]
      refine bind_congr fun listed => bind_congr fun nodeTypes => ?_
      rw [noEntries]
      rfl

inductive Outcome (parents : Parents) : Except Fault Schema → Prop where
  | accepted {nodeTypes : List NodeType} (complete : Complete parents)
      (grounded : ∀ entry ∈ parents, Grounded parents entry.1)
      (carry : List.Forall₂ (Carries parents) nodeTypes parents) :
      Outcome parents (.ok { nodeTypes := nodeTypes, relationships := [] })
  | unknownParent {fault : Fault} (incomplete : ¬Complete parents)
      (isUnknown : IsUnknownParent fault) : Outcome parents (.error fault)
  | cyclic {walk : List String} (revisits : Revisits parents walk) :
      Outcome parents (.error (.schema (.cycle walk)))

private theorem ofValue_outcome {data : Value} {parents : Parents}
    (declares : Declares data parents) :
    Outcome parents (ofValue data) := by
  obtain ⟨read, each, whole⟩ := exists_ofValue_eq declares
  have distinct : (names parents).Nodup := by
    cases declares with
    | types _ _ distinct _ => exact distinct
  rw [whole]
  by_cases known : ∀ entry ∈ parents, ∀ parent ∈ entry.2, parent ∈ names parents
  · have complete := (forall_extends_iff fun _ parent => parent ∈ names parents).mpr known
    have builds := buildNodeTypes_builds complete distinct
      (fun entry member => List.mem_map_of_mem member) each
      (show Sound parents [] from fun label labels found => nomatch found)
    rw [parentsOf_eq_ok each known]
    cases outcome : buildNodeTypes parents [] read with
    | ok nodeTypes =>
        rw [outcome] at builds
        cases builds with
        | built grounded carry =>
            change Outcome parents (buildNodeTypes parents [] read >>= _)
            rw [outcome]
            exact .accepted complete grounded carry
    | error fault =>
        rw [outcome] at builds
        cases builds with
        | cyclic revisits =>
            change Outcome parents (buildNodeTypes parents [] read >>= _)
            rw [outcome]
            exact .cyclic revisits
  · obtain ⟨fault, failed, isUnknown⟩ := parentsOf_eq_error each known
    rw [failed]
    exact .unknownParent (fun complete => known ((forall_extends_iff _).mp complete)) isUnknown

/-- A schema that is accepted or refused by the graph of its node types alone. -/
structure Resolves (parents : Parents) (outcome : Except Fault Schema) : Prop where
  accepted_iff : (∃ schema, outcome = .ok schema) ↔ Complete parents ∧ ¬Cyclic parents
  order : ∀ schema, outcome = .ok schema →
    schema.nodeTypes.map NodeType.label = names parents
  inherited : ∀ schema, outcome = .ok schema → ∀ nodeType ∈ schema.nodeTypes,
    ∀ label, label ∈ nodeType.labels ↔ Inherits parents nodeType.label label
  allLabels : ∀ schema, outcome = .ok schema →
    ∀ label, label ∈ schema.allLabels ↔ label ∈ names parents
  refused : ∀ fault, outcome = .error fault → fault.kindName = "SchemaDefinitionError"
  cycle : Complete parents → Cyclic parents → ∃ fault walk, outcome = .error fault ∧
    Revisits parents walk ∧
    fault.message = some ("Inheritance cycle in schema: " ++ separate " -> " walk)

theorem carries_of_mem {parents entries : Parents} {nodeTypes : List NodeType}
    (carry : List.Forall₂ (Carries parents) nodeTypes entries) :
    nodeTypes.map NodeType.label = names entries ∧
      ∀ nodeType ∈ nodeTypes, ∀ label,
        label ∈ nodeType.labels ↔ Inherits parents nodeType.label label := by
  induction carry with
  | nil => exact ⟨rfl, by simp⟩
  | cons first _ ih =>
      refine ⟨congrArg₂ List.cons first.1 ih.1, List.forall_mem_cons.mpr ⟨?_, ih.2⟩⟩
      rw [first.1]
      exact first.2

theorem mem_allLabels_iff {parents : Parents} {nodeTypes : List NodeType}
    (complete : Complete parents) (carry : List.Forall₂ (Carries parents) nodeTypes parents)
    (label : String) :
    label ∈ allLabels { nodeTypes := nodeTypes, relationships := [] } ↔ label ∈ names parents := by
  obtain ⟨order, inherited⟩ := carries_of_mem carry
  rw [allLabels, mem_sortedSet, List.mem_flatMap, ← order]
  constructor
  · rintro ⟨nodeType, member, carried⟩
    have declared : nodeType.label ∈ names parents := order ▸ List.mem_map_of_mem member
    rw [order]
    exact ((inherited nodeType member label).mp carried).declared complete declared
  · intro declared
    obtain ⟨nodeType, member, rfl⟩ := List.mem_map.mp declared
    exact ⟨nodeType, member, (inherited nodeType member _).mpr .refl⟩

theorem Outcome.resolves {parents : Parents} {outcome : Except Fault Schema}
    (result : Outcome parents outcome) : Resolves parents outcome := by
  cases result with
  | @accepted nodeTypes complete grounded carry =>
      have acyclic : ¬Cyclic parents := by
        refine not_cyclic_of_grounded fun label declared => ?_
        obtain ⟨entry, member, rfl⟩ := List.mem_map.mp declared
        exact grounded entry member
      have carried := carries_of_mem carry
      refine ⟨iff_of_true ⟨_, rfl⟩ ⟨complete, acyclic⟩, ?_, ?_, ?_, ?_, ?_⟩
      · rintro _ ⟨⟩
        exact carried.1
      · rintro _ ⟨⟩
        exact carried.2
      · rintro _ ⟨⟩
        exact mem_allLabels_iff complete carry
      · rintro _ ⟨⟩
      · intro _ cyclic
        exact absurd cyclic acyclic
  | unknownParent incomplete isUnknown =>
      obtain ⟨label, parent, rfl⟩ := isUnknown
      refine ⟨iff_of_false ?_ fun both => incomplete both.1, ?_, ?_, ?_, ?_, ?_⟩
      · rintro ⟨_, ⟨⟩⟩
      · rintro _ ⟨⟩
      · rintro _ ⟨⟩
      · rintro _ ⟨⟩
      · rintro _ ⟨⟩
        rfl
      · intro complete
        exact absurd complete incomplete
  | @cyclic walk revisits =>
      refine ⟨iff_of_false ?_ fun both => both.2 revisits.cyclic, ?_, ?_, ?_, ?_, ?_⟩
      · rintro ⟨_, ⟨⟩⟩
      · rintro _ ⟨⟩
      · rintro _ ⟨⟩
      · rintro _ ⟨⟩
      · rintro _ ⟨⟩
        rfl
      · exact fun _ _ => ⟨_, walk, rfl, revisits, rfl⟩

/-! ### Reordering -/

/-- The same declarations in any order, each with the same parents in any order. -/
def Reordered (parents others : Parents) : Prop :=
  ∃ shuffled, parents.Perm shuffled ∧
    List.Forall₂ (fun left right => left.1 = right.1 ∧ left.2.Perm right.2) shuffled others

theorem extends_cons_iff (entry : String × List String) (parents : Parents)
    (label parent : String) :
    Extends (entry :: parents) label parent ↔
      (label = entry.1 ∧ parent ∈ entry.2) ∨ Extends parents label parent := by
  unfold Extends
  constructor
  · rintro ⟨listed, member, inside⟩
    rcases List.mem_cons.mp member with rfl | member
    · exact .inl ⟨rfl, inside⟩
    · exact .inr ⟨listed, member, inside⟩
  · rintro (⟨rfl, inside⟩ | ⟨listed, member, inside⟩)
    · exact ⟨entry.2, List.mem_cons_self, inside⟩
    · exact ⟨listed, List.mem_cons_of_mem entry member, inside⟩

/-- The graph does not depend on any order. -/
theorem Reordered.graph_eq {parents others : Parents} (reordered : Reordered parents others) :
    Extends others = Extends parents ∧ ∀ label, label ∈ names others ↔ label ∈ names parents := by
  obtain ⟨shuffled, permuted, each⟩ := reordered
  have toShuffled : Extends parents = Extends shuffled := by
    funext label parent
    simp only [Extends, permuted.mem_iff]
  have namesShuffled : ∀ label, label ∈ names parents ↔ label ∈ names shuffled :=
    fun label => (permuted.map Prod.fst).mem_iff
  have fromShuffled : Extends others = Extends shuffled ∧ names others = names shuffled := by
    clear permuted toShuffled namesShuffled
    induction each with
    | nil => exact ⟨rfl, rfl⟩
    | cons first _ ih =>
        refine ⟨?_, congrArg₂ List.cons first.1.symm ih.2⟩
        funext label parent
        rw [extends_cons_iff, extends_cons_iff, ih.1, first.1, first.2.mem_iff]
  refine ⟨fromShuffled.1.trans toShuffled.symm, fun label => ?_⟩
  rw [fromShuffled.2, namesShuffled]

/-- Data that declares node types is accepted if and only if every listed parent is declared
and no type inherits from itself. The types then stand in the order of their declarations,
each with exactly the labels it inherits; a type that does inherit from itself is refused
with a walk that shows it. Neither the verdict nor any label set depends on the order of the
declarations or of the parents in them. -/
theorem ofValue_resolves {data : Value} {parents : Parents} (declares : Declares data parents) :
    Resolves parents (ofValue data) ∧
      ∀ other others, Declares other others → Reordered parents others →
        ((∃ schema, ofValue other = .ok schema) ↔ ∃ schema, ofValue data = .ok schema) ∧
        ∀ first second, ofValue data = .ok first → ofValue other = .ok second →
          ∀ nodeType ∈ first.nodeTypes, ∀ same ∈ second.nodeTypes, same.label = nodeType.label →
            ∀ label, label ∈ same.labels ↔ label ∈ nodeType.labels := by
  have resolves := (ofValue_outcome declares).resolves
  refine ⟨resolves, fun other others declaresOther reordered => ?_⟩
  have resolvesOther := (ofValue_outcome declaresOther).resolves
  obtain ⟨sameGraph, sameNames⟩ := reordered.graph_eq
  constructor
  · rw [resolves.accepted_iff, resolvesOther.accepted_iff]
    simp only [Complete, Cyclic, sameGraph, sameNames]
  · intro first second read readOther nodeType member same memberOther sameLabel label
    rw [resolves.inherited first read nodeType member label,
      resolvesOther.inherited second readOther same memberOther label, Inherits, Inherits,
      sameGraph, sameLabel]

private def staffParents : Parents :=
  [("Employee", ["Person", "Agent"]), ("Person", ["Entity"]), ("Agent", ["Entity"]),
    ("Entity", [])]

private def staffData : Value :=
  .map [("node_types", .map
    [("Employee", .map [("extends", .ofTexts ["Person", "Agent"]), ("description", .text "Staff")]),
      ("Person", .map [("extends", .ofTexts ["Entity"])]),
      ("Agent", .map [("extends", .ofTexts ["Entity"]), ("properties", .ofTexts ["id"])]),
      ("Entity", .null)])]

private def shuffledParents : Parents :=
  [("Entity", []), ("Agent", ["Entity"]), ("Employee", ["Agent", "Person"]),
    ("Person", ["Entity"])]

private def shuffledData : Value :=
  .map [("node_types", .map
    [("Entity", .null), ("Agent", .map [("extends", .ofTexts ["Entity"])]),
      ("Employee", .map [("extends", .ofTexts ["Agent", "Person"])]),
      ("Person", .map [("extends", .ofTexts ["Entity"])])])]

theorem specifies_extends (parents : List String) :
    Specifies (.map [("extends", .ofTexts parents)]) parents :=
  .fields ⟨.inl rfl, nofun, nofun⟩

private theorem declares_staffData : Declares staffData staffParents := by
  refine .types rfl (.inl rfl) (by decide) (.cons ⟨rfl, ?_⟩ (.cons ⟨rfl, specifies_extends _⟩
    (.cons ⟨rfl, ?_⟩ (.cons ⟨rfl, .nothing⟩ .nil))))
  · refine .fields ⟨.inl rfl, ?_, nofun⟩
    rintro _ ⟨⟩
    exact ⟨_, rfl⟩
  · refine .fields ⟨.inl rfl, nofun, ?_⟩
    rintro _ ⟨⟩
    exact ⟨_, rfl⟩

private theorem declares_shuffledData : Declares shuffledData shuffledParents :=
  .types rfl (.inl rfl) (by decide) (.cons ⟨rfl, .nothing⟩ (.cons ⟨rfl, specifies_extends _⟩
    (.cons ⟨rfl, specifies_extends _⟩ (.cons ⟨rfl, specifies_extends _⟩ .nil))))

private theorem reordered_staffParents : Reordered staffParents shuffledParents := by
  refine ⟨[("Entity", []), ("Agent", ["Entity"]), ("Employee", ["Person", "Agent"]),
    ("Person", ["Entity"])], by decide, ?_⟩
  simp only [shuffledParents, List.forall₂_cons, List.forall₂_nil_left_iff, true_and, and_true]
  decide

private theorem complete_staffParents : Complete staffParents :=
  (forall_extends_iff _).mpr (by decide)

private theorem not_cyclic_staffParents : ¬Cyclic staffParents :=
  not_cyclic_of_rank (fun label => ["Entity", "Agent", "Person", "Employee"].idxOf label)
    ((forall_extends_iff _).mpr (by decide))

private def loopParents : Parents :=
  [("Intern", ["Worker"]), ("Worker", ["Member"]), ("Member", ["Worker"])]

private def loopData : Value :=
  .map [("node_types", .map [("Intern", .map [("extends", .ofTexts ["Worker"])]),
    ("Worker", .map [("extends", .ofTexts ["Member"])]),
    ("Member", .map [("extends", .ofTexts ["Worker"])])]), ("relationships", .null)]

private theorem declares_loopData : Declares loopData loopParents :=
  .types rfl (.inr (.inl rfl)) (by decide) (.cons ⟨rfl, specifies_extends _⟩
    (.cons ⟨rfl, specifies_extends _⟩ (.cons ⟨rfl, specifies_extends _⟩ .nil)))

private theorem cyclic_loopParents : Cyclic loopParents := by
  have up : Extends loopParents "Worker" "Member" := ⟨["Member"], by decide, by decide⟩
  have back : Extends loopParents "Member" "Worker" := ⟨["Worker"], by decide, by decide⟩
  exact ⟨"Worker", .head up (.single back)⟩

theorem ofValue_resolves_staff :
    Declares staffData staffParents ∧ Declares shuffledData shuffledParents ∧
      Reordered staffParents shuffledParents ∧ Resolves staffParents (ofValue staffData) ∧
      (∃ schema, ofValue staffData = .ok schema) ∧ (∃ schema, ofValue shuffledData = .ok schema) ∧
      Declares loopData loopParents ∧
      ∃ fault walk, ofValue loopData = .error fault ∧ Revisits loopParents walk := by
  obtain ⟨resolves, reordering⟩ := ofValue_resolves declares_staffData
  have accepted := resolves.accepted_iff.mpr ⟨complete_staffParents, not_cyclic_staffParents⟩
  have shuffled := (reordering _ _ declares_shuffledData reordered_staffParents).1
  obtain ⟨fault, walk, refused, revisits, _⟩ := (ofValue_resolves declares_loopData).1.cycle
    ((forall_extends_iff _).mpr (by decide)) cyclic_loopParents
  exact ⟨declares_staffData, declares_shuffledData, reordered_staffParents, resolves, accepted,
    shuffled.mpr accepted, declares_loopData, fault, walk, refused, revisits⟩

end Schema

end QueryWarden
