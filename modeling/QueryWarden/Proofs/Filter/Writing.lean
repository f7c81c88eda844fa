/-
Trees in the form of data. Every tree that data can hold has a form from which it is read back,
and every tree that has been read is one of these: its fields are data, and its labels are
scalars of which no two agree.
-/

import QueryWarden.Proofs.Filter.Grammar

namespace QueryWarden

namespace Filter

/-! ### Writing -/

mutual

/-- A tree in the form of data. A filter that names no predicate has none. -/
def asData : Filter → Value
  | .compare comparison key value =>
      .map [((Operator.compare comparison).name,
        .map [("key", .text key.name), ("value", value)])]
  | .compareFolded comparison key value =>
      .map [((Operator.compareFolded comparison).name,
        .map [("key", .text key.name), ("value", value)])]
  | .oneOf negated key values =>
      .map [((Operator.oneOf negated).name,
        .map [("key", .text key.name), ("values", .list values)])]
  | .matching key pattern =>
      .map [(Operator.matching.name, .map [("key", .text key.name), ("pattern", pattern)])]
  | .anyLabel first others => .map [(Operator.anyLabel.name, .list (first :: others))]
  | .all first others =>
      .map [((Operator.joined .all).name, .list (first.asData :: allAsData others))]
  | .any first others =>
      .map [((Operator.joined .any).name, .list (first.asData :: allAsData others))]
  | .negation part => .map [(Operator.negation.name, part.asData)]
  | .bare _ _ => .null
termination_by structural filter => filter

def allAsData : List Filter → List Value
  | [] => []
  | part :: parts => part.asData :: allAsData parts
termination_by structural parts => parts

end

mutual

/-- A tree that data can hold: its fields are data, its labels are scalars of which no two
agree, and each of its filters names a predicate. -/
def IsWritable : Filter → Prop
  | .compare _ _ value | .compareFolded _ _ value | .matching _ value => value.isData = true
  | .oneOf _ _ values => Value.areData values = true
  | .anyLabel first others =>
      Value.areData (first :: others) = true ∧
        (∀ label ∈ first :: others, label.isScalar = true) ∧
        (first :: others).Pairwise (fun left right => left.agrees right = false)
  | .all first others | .any first others => first.IsWritable ∧ AreWritable others
  | .negation part => part.IsWritable
  | .bare _ _ => False
termination_by structural filter => filter

def AreWritable : List Filter → Prop
  | [] => True
  | part :: parts => part.IsWritable ∧ AreWritable parts
termination_by structural parts => parts

end

/-! ### The form of a tree -/

theorem isData_entry {name : String} {body : Value} (bodyData : body.isData = true) :
    (Value.map [(name, body)]).isData = true := by
  simp only [Value.isData, Value.entriesAreData, bodyData, Bool.and_true]

theorem isData_pair {first second : String} {text : String} {value : Value}
    (valueData : value.isData = true) :
    (Value.map [(first, .text text), (second, value)]).isData = true := by
  simp only [Value.isData, Value.entriesAreData, valueData, Bool.and_true]

mutual

theorem isData_asData (filter : Filter) (writable : filter.IsWritable) :
    filter.asData.isData = true := by
  match filter with
  | .compare _ _ value => exact isData_entry (isData_pair writable)
  | .compareFolded _ _ value => exact isData_entry (isData_pair writable)
  | .matching _ pattern => exact isData_entry (isData_pair writable)
  | .oneOf _ _ values => exact isData_entry (isData_pair writable)
  | .anyLabel first others => exact isData_entry writable.1
  | .all first others | .any first others =>
      have firstData := isData_asData first writable.1
      have othersData := areData_allAsData others writable.2
      exact isData_entry (Bool.and_eq_true_iff.mpr ⟨firstData, othersData⟩)
  | .negation part => exact isData_entry (isData_asData part writable)
  | .bare _ _ => cases writable
termination_by structural filter

private theorem areData_allAsData (filters : List Filter) (writable : AreWritable filters) :
    Value.areData (allAsData filters) = true := by
  match filters with
  | [] => rfl
  | filter :: filters =>
      have firstData := isData_asData filter writable.1
      have othersData := areData_allAsData filters writable.2
      exact Bool.and_eq_true_iff.mpr ⟨firstData, othersData⟩
termination_by structural filters

end

mutual

/-- A tree in the form of data denotes itself. -/
theorem denotes_asData (filter : Filter) (writable : filter.IsWritable) :
    Denotes filter.asData filter := by
  match filter with
  | .compare _ _ value => exact .leaf rfl (.compare rfl rfl)
  | .compareFolded _ _ value => exact .leaf rfl (.compareFolded rfl rfl)
  | .matching _ pattern => exact .leaf rfl (.matching rfl rfl)
  | .oneOf _ _ values => exact .leaf rfl (.oneOf rfl rfl)
  | .anyLabel first others =>
      exact .leaf rfl (.anyLabel writable.2.1 (Value.distinct_of_pairwise writable.2.2))
  | .all first others =>
      have denotes := denotes_asData first writable.1
      have denotesOthers := forall₂_allAsData others writable.2
      exact Denotes.joined (show _ = (Operator.joined .all).name from rfl)
        (.cons denotes denotesOthers)
  | .any first others =>
      have denotes := denotes_asData first writable.1
      have denotesOthers := forall₂_allAsData others writable.2
      exact Denotes.joined (show _ = (Operator.joined .any).name from rfl)
        (.cons denotes denotesOthers)
  | .negation part => exact .negation rfl (denotes_asData part writable)
  | .bare _ _ => cases writable
termination_by structural filter

theorem forall₂_allAsData (filters : List Filter) (writable : AreWritable filters) :
    List.Forall₂ Denotes (allAsData filters) filters := by
  match filters with
  | [] => exact .nil
  | filter :: filters =>
      exact .cons (denotes_asData filter writable.1) (forall₂_allAsData filters writable.2)
termination_by structural filters

end

/-! ### Trees that have been read -/

theorem areData_iff {items : List Value} :
    Value.areData items = true ↔ ∀ item ∈ items, item.isData = true := by
  refine ⟨Value.isData_of_mem, fun every => ?_⟩
  induction items with
  | nil => rfl
  | cons item items ih =>
      obtain ⟨first, others⟩ := List.forall_mem_cons.mp every
      exact Bool.and_eq_true_iff.mpr ⟨first, ih others⟩

theorem LeafDenotes.isWritable {operator : Operator} {body : Value} (isData : body.isData = true)
    {filter : Filter} (denotes : LeafDenotes operator body filter) : filter.IsWritable := by
  cases denotes with
  | compare hasKey hasValue => exact Value.isData_of_lookup isData hasValue
  | compareFolded hasKey hasValue => exact Value.isData_of_lookup isData hasValue
  | oneOf hasKey hasValues => exact Value.isData_of_lookup isData hasValues
  | matching hasKey hasPattern => exact Value.isData_of_lookup isData hasPattern
  | @anyLabel labels others first scalars set =>
      have within : ∀ label ∈ first :: others, label ∈ labels :=
        fun label member => Value.mem_of_mem_distinct (set ▸ member)
      refine ⟨?_, fun label member => scalars label (within label member),
        set ▸ Value.distinct_pairwise labels⟩
      exact areData_iff.mpr (fun label member =>
        Value.isData_of_mem isData label (within label member))

mutual

/-- What data denotes can be written as data again. -/
theorem Denotes.isWritable (data : Value) (isData : data.isData = true) {filter : Filter}
    (denotes : Denotes data filter) : filter.IsWritable := by
  match data with
  | .map [(name, body)] =>
      have bodyData := (Bool.and_eq_true_iff.mp isData).1
      obtain ⟨operator, rfl⟩ := denotes.exists_operator
      cases operator with
      | joined joint =>
          obtain ⟨items, first, others, listed, parts, rfl⟩ := denotes_joined_iff.mp denotes
          cases body with
          | list members =>
              rw [← Value.list.inj listed] at parts
              have writable := Denotes.areWritable members bodyData parts
              cases joint with
              | all => exact writable
              | any => exact writable
          | _ => cases listed
      | negation =>
          obtain ⟨part, denotesPart, rfl⟩ := denotes_negation_iff.mp denotes
          have writable := Denotes.isWritable body bodyData denotesPart
          exact writable
      | compare _ | compareFolded _ | oneOf _ | matching | anyLabel =>
          exact ((denotes_leaf_iff rfl).mp denotes).isWritable bodyData
  | .map [] | .map (_ :: _ :: _) => cases denotes
  | .null | .bool _ | .int _ | .float _ | .text _ | .list _ | .tuple _ | .set _ | .moment _ _
  | .filter _ | .clause _ _ => cases denotes
termination_by structural data

theorem Denotes.areWritable (items : List Value) (areData : Value.areData items = true)
    {filters : List Filter} (each : List.Forall₂ Denotes items filters) : AreWritable filters := by
  match items with
  | [] =>
      cases each
      exact trivial
  | item :: items =>
      have both := Bool.and_eq_true_iff.mp areData
      obtain ⟨filter, others, denotes, denotesOthers, rfl⟩ := List.forall₂_cons_left_iff.mp each
      exact ⟨Denotes.isWritable item both.1 denotes,
        Denotes.areWritable items both.2 denotesOthers⟩
termination_by structural items

end

/-! ### The reader -/

/-- Data is read if and only if it is a node, and what comes of it is the tree that the node
denotes, which can be written again; whatever is no node is refused as a filter that is not
valid. Every tree that can be written is read back from its own form. -/
theorem ofValue_grammar :
    (∀ data : Value, data.isData = true →
      ((∃ filter, ofValue data = .ok filter) ↔ IsNode data) ∧
      (∀ filter, ofValue data = .ok filter ↔ Denotes data filter) ∧
      (∀ filter, ofValue data = .ok filter → filter.IsWritable) ∧
      (¬ IsNode data →
        ∃ fault, ofValue data = .error fault ∧ fault.kindName = "InvalidFilterError")) ∧
    ∀ filter : Filter, filter.IsWritable →
      filter.asData.isData = true ∧ ofValue filter.asData = .ok filter := by
  constructor
  · intro data isData
    have reads := ofValue_eq_ok_iff_denotes data isData
    have accepts : (∃ filter, ofValue data = .ok filter) ↔ IsNode data := by
      constructor
      · intro read
        obtain ⟨filter, read⟩ := read
        exact Denotes.isNode data ((reads filter).mp read)
      · intro isNode
        obtain ⟨filter, denotes⟩ := isNode.exists_denotes
        exact ⟨filter, (reads filter).mpr denotes⟩
    refine ⟨accepts, reads, ?_, ?_⟩
    · intro filter read
      exact Denotes.isWritable data isData ((reads filter).mp read)
    · intro noNode
      have told := ofValue_told data isData
      cases read : ofValue data with
      | ok filter => exact absurd (accepts.mp ⟨filter, read⟩) noNode
      | error fault =>
          rw [read] at told
          obtain ⟨reported, rfl⟩ := told
          exact ⟨_, rfl, rfl⟩
  · intro filter writable
    have isData := isData_asData filter writable
    exact ⟨isData, (ofValue_eq_ok_iff_denotes _ isData _).mpr (denotes_asData filter writable)⟩

/-- Open entities that are persons or towns are a node, which is read and written again. -/
theorem ofValue_grammar_openPlaces :
    Compiler.openPlaces.isData = true ∧ IsNode Compiler.openPlaces ∧
      ∃ filter, ofValue Compiler.openPlaces = .ok filter ∧ filter.IsWritable ∧
        ofValue filter.asData = .ok filter := by
  have isData : Compiler.openPlaces.isData = true := rfl
  obtain ⟨accepts, _, writes, _⟩ := ofValue_grammar.1 Compiler.openPlaces isData
  obtain ⟨filter, read⟩ : ∃ filter, ofValue Compiler.openPlaces = .ok filter := ⟨_, rfl⟩
  have writable := writes filter read
  exact ⟨isData, accepts.mp ⟨filter, read⟩, filter, read, writable,
    (ofValue_grammar.2 filter writable).2⟩

end Filter

end QueryWarden
