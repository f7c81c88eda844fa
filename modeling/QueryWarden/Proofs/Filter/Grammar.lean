/-
The grammar of filters in the form of data. A node is an object with one entry whose name is an
operator, and what the operator takes is all that counts: the value of a key, a list, nodes in
a list, or one node. Data of this grammar is read to the tree that it denotes, and no other data
is read.
-/

import Mathlib.Data.List.Induction
import QueryWarden.Proofs.Filter.Labels
import QueryWarden.Proofs.Interpolation

namespace QueryWarden

/-! ### Names of operators -/

def Operator.name : Operator → String
  | .compare .equal => "eq"
  | .compare .notEqual => "ne"
  | .compare .greater => "gt"
  | .compare .greaterOrEqual => "gte"
  | .compare .less => "lt"
  | .compare .lessOrEqual => "lte"
  | .compare .contains => "contains"
  | .compare .startsWith => "starts_with"
  | .compare .endsWith => "ends_with"
  | .compareFolded .contains => "contains_ignore_case"
  | .compareFolded .equal => "eq_ignore_case"
  | .oneOf false => "in"
  | .oneOf true => "not_in"
  | .matching => "like"
  | .anyLabel => "has_any_label"
  | .joined .all => "and"
  | .joined .any => "or"
  | .negation => "not"

theorem Operator.ofName?_name (operator : Operator) :
    Operator.ofName? operator.name = some operator := by
  cases operator with
  | compare comparison => cases comparison <;> rfl
  | compareFolded comparison => cases comparison <;> rfl
  | oneOf negated => cases negated <;> rfl
  | joined joint => cases joint <;> rfl
  | matching => rfl
  | anyLabel => rfl
  | negation => rfl

/-- The operators are found by their names and by nothing else. -/
theorem Operator.ofName?_eq_some_iff (name : String) (operator : Operator) :
    Operator.ofName? name = some operator ↔ name = operator.name := by
  constructor
  · intro found
    obtain ⟨before, behind, whole, _⟩ := List.lookup_eq_some_iff.mp found
    have listed : (name, operator) ∈ operators := by simp [whole]
    have named : ∀ entry ∈ operators, entry.1 = entry.2.name := by decide
    exact named (name, operator) listed
  · rintro rfl
    exact operator.ofName?_name

theorem Operator.name_injective : Function.Injective Operator.name := by
  intro operator other same
  have found := operator.ofName?_name
  rw [same, other.ofName?_name] at found
  exact (Option.some.inj found).symm

def Operator.secondField? : Operator → Option String
  | .compare _ | .compareFolded _ => some "value"
  | .oneOf _ => some "values"
  | .matching => some "pattern"
  | .anyLabel | .joined _ | .negation => none

def Operator.hasParts : Operator → Bool
  | .joined _ | .negation => true
  | .compare _ | .compareFolded _ | .oneOf _ | .matching | .anyLabel => false

/-! ### Sets of values -/

namespace Value

theorem distinct_concat (items : List Value) (item : Value) :
    distinct (items ++ [item]) =
      if (distinct items).any (fun other => other.agrees item) then distinct items
      else distinct items ++ [item] := by
  unfold distinct
  rw [List.foldl_append, List.foldl_cons, List.foldl_nil, List.any_reverse]
  split
  · rfl
  · exact List.reverse_cons

theorem distinct_pairwise (items : List Value) :
    (distinct items).Pairwise (fun left right => left.agrees right = false) := by
  induction items using List.reverseRecOn with
  | nil => exact .nil
  | append_singleton items item ih =>
      rw [distinct_concat]
      split
      · exact ih
      · next absent =>
          refine List.pairwise_append.mpr ⟨ih, List.pairwise_singleton _ _, ?_⟩
          intro other member
          simp only [List.any_eq_true, not_exists, not_and, Bool.not_eq_true] at absent
          exact List.forall_mem_singleton.mpr (absent other member)

/-- Values of which no two agree are all of the set. -/
theorem distinct_of_pairwise {items : List Value}
    (apart : items.Pairwise (fun left right => left.agrees right = false)) :
    distinct items = items := by
  induction items using List.reverseRecOn with
  | nil => rfl
  | append_singleton items item ih =>
      obtain ⟨itemsApart, _, itemApart⟩ := List.pairwise_append.mp apart
      rw [distinct_concat, ih itemsApart, if_neg]
      simp only [List.any_eq_true, not_exists, not_and, Bool.not_eq_true]
      exact fun other member => itemApart other member item List.mem_cons_self

/-- Every item is in the set, or it agrees with a member. -/
theorem exists_of_mem_items {items : List Value} {item : Value} (member : item ∈ items) :
    item ∈ distinct items ∨ ∃ other ∈ distinct items, other.agrees item = true := by
  induction items using List.reverseRecOn with
  | nil => cases member
  | append_singleton items last ih =>
      rw [distinct_concat]
      split
      · next present =>
          rcases List.mem_append.mp member with inside | single
          · exact ih inside
          · rw [List.mem_singleton.mp single]
            exact .inr (List.any_eq_true.mp present)
      · rcases List.mem_append.mp member with inside | single
        · rcases ih inside with kept | ⟨other, kept, agreed⟩
          · exact .inl (List.mem_append_left _ kept)
          · exact .inr ⟨other, List.mem_append_left _ kept, agreed⟩
        · exact .inl (List.mem_append_right _ single)

theorem distinct_ne_nil {items : List Value} (nonempty : items ≠ []) : distinct items ≠ [] := by
  obtain ⟨item, member⟩ := List.exists_mem_of_ne_nil items nonempty
  rcases exists_of_mem_items member with kept | ⟨other, kept, _⟩
  · exact List.ne_nil_of_mem kept
  · exact List.ne_nil_of_mem kept

end Value

namespace Filter

/-! ### The grammar -/

/-- Data that is a node. -/
inductive IsNode : Value → Prop where
  | keyed {operator : Operator} {name second : String} {fields : Bindings} {key : Identifier}
      {value : Value} (named : name = operator.name) (takes : operator.secondField? = some second)
      (hasKey : fields.lookup "key" = some (.text key.name))
      (hasSecond : fields.lookup second = some value)
      (listed : ∀ negated, operator = .oneOf negated → ∃ items, value = .list items) :
      IsNode (.map [(name, .map fields)])
  | anyLabel {name : String} {labels : List Value} (named : name = Operator.anyLabel.name)
      (nonempty : labels ≠ []) (scalars : ∀ label ∈ labels, label.isScalar = true) :
      IsNode (.map [(name, .list labels)])
  | joined {joint : Joint} {name : String} {items : List Value}
      (named : name = (Operator.joined joint).name) (nonempty : items ≠ [])
      (parts : ∀ item ∈ items, IsNode item) : IsNode (.map [(name, .list items)])
  | negation {name : String} {body : Value} (named : name = Operator.negation.name)
      (part : IsNode body) : IsNode (.map [(name, body)])

/-- What the body of a node without further nodes denotes under its operator. -/
inductive LeafDenotes : Operator → Value → Filter → Prop where
  | compare {comparison : Comparison} {fields : Bindings} {key : Identifier} {value : Value}
      (hasKey : fields.lookup "key" = some (.text key.name))
      (hasValue : fields.lookup "value" = some value) :
      LeafDenotes (.compare comparison) (.map fields) (.compare comparison key value)
  | compareFolded {comparison : FoldedComparison} {fields : Bindings} {key : Identifier}
      {value : Value} (hasKey : fields.lookup "key" = some (.text key.name))
      (hasValue : fields.lookup "value" = some value) :
      LeafDenotes (.compareFolded comparison) (.map fields) (.compareFolded comparison key value)
  | oneOf {negated : Bool} {fields : Bindings} {key : Identifier} {values : List Value}
      (hasKey : fields.lookup "key" = some (.text key.name))
      (hasValues : fields.lookup "values" = some (.list values)) :
      LeafDenotes (.oneOf negated) (.map fields) (.oneOf negated key values)
  | matching {fields : Bindings} {key : Identifier} {pattern : Value}
      (hasKey : fields.lookup "key" = some (.text key.name))
      (hasPattern : fields.lookup "pattern" = some pattern) :
      LeafDenotes .matching (.map fields) (.matching key pattern)
  | anyLabel {labels others : List Value} {first : Value}
      (scalars : ∀ label ∈ labels, label.isScalar = true)
      (set : Value.distinct labels = first :: others) :
      LeafDenotes .anyLabel (.list labels) (.anyLabel first others)

/-- The tree that a node denotes. Its parts are those of the data, in the same order. -/
inductive Denotes : Value → Filter → Prop where
  | leaf {operator : Operator} {name : String} {body : Value} {filter : Filter}
      (named : name = operator.name) (denotes : LeafDenotes operator body filter) :
      Denotes (.map [(name, body)]) filter
  | joined {joint : Joint} {name : String} {items : List Value} {first : Filter}
      {others : List Filter} (named : name = (Operator.joined joint).name)
      (parts : List.Forall₂ Denotes items (first :: others)) :
      Denotes (.map [(name, .list items)]) (joint.join first others)
  | negation {name : String} {body : Value} {part : Filter}
      (named : name = Operator.negation.name) (denotes : Denotes body part) :
      Denotes (.map [(name, body)]) (.negation part)

/-! ### Reading a node without further nodes -/

theorem subscript_eq_ok_iff {body value : Value} {field : String} :
    body.subscript field = .ok value ↔
      ∃ fields, body = .map fields ∧ fields.lookup field = some value := by
  cases body with
  | map fields =>
      rw [Value.subscript]
      cases found : fields.lookup field with
      | none => simp [found]
      | some other => simp [found]
  | _ => simp [Value.subscript]

theorem accessing_eq_ok_iff {α : Type} {result : Except AccessFault α} {value : α} :
    accessing result = .ok value ↔ result = .ok value :=
  mapError_eq_ok_iff

theorem propertyKey_eq_ok_iff {value : Value} {key : Identifier} :
    propertyKey value = .ok key ↔ value = .text key.name :=
  Identifier.ofValue_eq_ok_iff _ _ _

/-- Two fields are taken, and something is made of them. -/
theorem keyed_eq_ok_iff {body : Value} {second : String}
    {build : Value → Value → Except Fault Filter} {filter : Filter} :
    (do
      let key ← accessing (body.subscript "key")
      let value ← accessing (body.subscript second)
      build key value) = .ok filter ↔
      ∃ fields key value, body = .map fields ∧ fields.lookup "key" = some key ∧
        fields.lookup second = some value ∧ build key value = .ok filter := by
  simp only [bind_eq_ok_iff, accessing_eq_ok_iff, subscript_eq_ok_iff]
  constructor
  · intro done
    obtain ⟨key, ⟨fields, rfl, hasKey⟩, value, ⟨_, same, hasValue⟩, built⟩ := done
    cases same
    exact ⟨fields, key, value, rfl, hasKey, hasValue, built⟩
  · intro done
    obtain ⟨fields, key, value, rfl, hasKey, hasValue, built⟩ := done
    exact ⟨key, ⟨fields, rfl, hasKey⟩, value, ⟨fields, rfl, hasValue⟩, built⟩

/-- The key has to be the name of an identifier if nothing else is asked of the fields. -/
theorem keyed_map_eq_ok_iff {body : Value} {second : String}
    {make : Identifier → Value → Filter} {filter : Filter} :
    (do
      let key ← accessing (body.subscript "key")
      let value ← accessing (body.subscript second)
      (propertyKey key).map (fun key => make key value)) = .ok filter ↔
      ∃ fields key value, body = .map fields ∧
        fields.lookup "key" = some (.text (Identifier.name key)) ∧
        fields.lookup second = some value ∧ filter = make key value := by
  rw [keyed_eq_ok_iff]
  constructor
  · intro done
    obtain ⟨fields, _, value, rfl, hasKey, hasValue, built⟩ := done
    obtain ⟨key, checked, rfl⟩ := map_eq_ok_iff.mp built
    rw [propertyKey_eq_ok_iff.mp checked] at hasKey
    exact ⟨fields, key, value, rfl, hasKey, hasValue, rfl⟩
  · intro done
    obtain ⟨fields, key, value, rfl, hasKey, hasValue, rfl⟩ := done
    exact ⟨fields, _, value, rfl, hasKey, hasValue,
      map_eq_ok_iff.mpr ⟨key, propertyKey_name key, rfl⟩⟩

theorem listBody_eq_ok_iff {name : String} {body : Value} (isData : body.isData = true)
    {items : List Value} : listBody name body = .ok items ↔ body = .list items := by
  cases body with
  | list others => simp [listBody]
  | tuple others => cases isData
  | _ => simp [listBody]

theorem buildOneOf_eq_ok_iff {negated : Bool} {key : Value} {items : List Value}
    {filter : Filter} :
    buildOneOf negated key (.tuple items) = .ok filter ↔
      ∃ identifier, key = .text (Identifier.name identifier) ∧
        filter = .oneOf negated identifier items := by
  rw [buildOneOf, bind_eq_ok_iff]
  refine exists_congr fun identifier => and_congr propertyKey_eq_ok_iff ?_
  constructor
  · intro done
    cases done
    rfl
  · rintro rfl
    rfl

/-! ### Sets of labels in data -/

private theorem hashableItems_of_scalars {items : List Value}
    (scalars : ∀ item ∈ items, item.isScalar = true) : Value.hashableItems items = .ok () := by
  induction items with
  | nil => rfl
  | cons item items ih =>
      obtain ⟨scalar, others⟩ := List.forall_mem_cons.mp scalars
      have hashed : item.hashable = .ok () := by
        cases item with
        | null | bool _ | int _ | float _ | text _ => rfl
        | _ => cases scalar
      rw [Value.hashableItems, hashed]
      exact ih others

/-- Items of data can be gathered in a set if and only if all of them are scalars. -/
theorem members_eq_ok_iff {items : List Value} (areData : Value.areData items = true)
    {members : List Value} :
    Value.members items = .ok members ↔
      (∀ item ∈ items, item.isScalar = true) ∧ Value.distinct items = members := by
  rw [Value.members, map_eq_ok_iff]
  constructor
  · intro done
    obtain ⟨_, hashed, same⟩ := done
    refine ⟨fun item member => ?_, same⟩
    exact Value.isScalar_of_hashable (Value.isData_of_mem areData item member)
      (Value.hashable_of_mem hashed item member)
  · intro done
    exact ⟨(), hashableItems_of_scalars done.1, done.2⟩

theorem buildAnyLabel_eq_ok_iff {labels : List Value} (areData : Value.areData labels = true)
    {filter : Filter} :
    buildAnyLabel (.tuple labels) = .ok filter ↔
      ∃ first others, ((∀ label ∈ labels, label.isScalar = true) ∧
        Value.distinct labels = first :: others) ∧ filter = .anyLabel first others := by
  rw [buildAnyLabel, bind_eq_ok_iff]
  constructor
  · intro done
    obtain ⟨_, walked, done⟩ := done
    cases walked
    obtain ⟨members, gathered, done⟩ := bind_eq_ok_iff.mp done
    have set := (members_eq_ok_iff areData).mp (accessing_eq_ok_iff.mp gathered)
    cases members with
    | nil => cases done
    | cons first others =>
        cases done
        exact ⟨first, others, set, rfl⟩
  · intro done
    obtain ⟨first, others, set, rfl⟩ := done
    refine ⟨labels, rfl, bind_eq_ok_iff.mpr ⟨first :: others, ?_, rfl⟩⟩
    exact accessing_eq_ok_iff.mpr ((members_eq_ok_iff areData).mpr set)

/-! ### Leaves -/

theorem readLeaf_eq_ok_iff {name : String} {operator : Operator} {body : Value}
    (isData : body.isData = true) {filter : Filter} :
    readLeaf name operator body = .ok filter ↔ LeafDenotes operator body filter := by
  cases operator with
  | compare comparison =>
      refine keyed_map_eq_ok_iff.trans ⟨fun done => ?_, fun denotes => ?_⟩
      · obtain ⟨fields, key, value, rfl, hasKey, hasValue, rfl⟩ := done
        exact .compare hasKey hasValue
      · cases denotes with
        | compare hasKey hasValue => exact ⟨_, _, _, rfl, hasKey, hasValue, rfl⟩
  | compareFolded comparison =>
      refine keyed_map_eq_ok_iff.trans ⟨fun done => ?_, fun denotes => ?_⟩
      · obtain ⟨fields, key, value, rfl, hasKey, hasValue, rfl⟩ := done
        exact .compareFolded hasKey hasValue
      · cases denotes with
        | compareFolded hasKey hasValue => exact ⟨_, _, _, rfl, hasKey, hasValue, rfl⟩
  | matching =>
      refine keyed_map_eq_ok_iff.trans ⟨fun done => ?_, fun denotes => ?_⟩
      · obtain ⟨fields, key, pattern, rfl, hasKey, hasPattern, rfl⟩ := done
        exact .matching hasKey hasPattern
      · cases denotes with
        | matching hasKey hasPattern => exact ⟨_, _, _, rfl, hasKey, hasPattern, rfl⟩
  | oneOf negated =>
      refine keyed_eq_ok_iff.trans ⟨fun done => ?_, fun denotes => ?_⟩
      · obtain ⟨fields, key, value, rfl, hasKey, hasValue, built⟩ := done
        obtain ⟨items, listed, built⟩ := bind_eq_ok_iff.mp built
        have valueData := Value.isData_of_lookup isData hasValue
        rw [(listBody_eq_ok_iff valueData).mp listed] at hasValue
        obtain ⟨identifier, rfl, rfl⟩ := buildOneOf_eq_ok_iff.mp built
        exact .oneOf hasKey hasValue
      · cases denotes with
        | oneOf hasKey hasValues =>
            refine ⟨_, _, _, rfl, hasKey, hasValues, bind_eq_ok_iff.mpr ⟨_, rfl, ?_⟩⟩
            exact buildOneOf_eq_ok_iff.mpr ⟨_, rfl, rfl⟩
  | anyLabel =>
      refine bind_eq_ok_iff.trans ⟨fun done => ?_, fun denotes => ?_⟩
      · obtain ⟨labels, listed, built⟩ := done
        obtain rfl := (listBody_eq_ok_iff isData).mp listed
        obtain ⟨first, others, ⟨scalars, set⟩, rfl⟩ := (buildAnyLabel_eq_ok_iff isData).mp built
        exact .anyLabel scalars set
      · cases denotes with
        | anyLabel scalars set =>
            refine ⟨_, rfl, ?_⟩
            exact (buildAnyLabel_eq_ok_iff isData).mpr ⟨_, _, ⟨scalars, set⟩, rfl⟩
  | joined joint =>
      refine ⟨fun done => ?_, fun denotes => ?_⟩
      · cases done
      · cases denotes
  | negation =>
      refine ⟨fun done => ?_, fun denotes => ?_⟩
      · cases done
      · cases denotes

/-! ### Trees -/

/-- The operator of a node is known, and has a name. -/
theorem Denotes.exists_operator {name : String} {body : Value} {filter : Filter}
    (denotes : Denotes (.map [(name, body)]) filter) :
    ∃ operator, name = Operator.name operator := by
  cases denotes with
  | leaf named _ => exact ⟨_, named⟩
  | joined named _ => exact ⟨_, named⟩
  | negation named _ => exact ⟨_, named⟩

theorem denotes_leaf_iff {operator : Operator} (leaf : operator.hasParts = false) {body : Value}
    {filter : Filter} :
    Denotes (.map [(operator.name, body)]) filter ↔ LeafDenotes operator body filter := by
  constructor
  · intro denotes
    cases denotes with
    | leaf named denotes => exact Operator.name_injective named ▸ denotes
    | joined named _ =>
        rw [Operator.name_injective named] at leaf
        cases leaf
    | negation named _ =>
        rw [Operator.name_injective named] at leaf
        cases leaf
  · exact .leaf rfl

theorem denotes_joined_iff {joint : Joint} {body : Value} {filter : Filter} :
    Denotes (.map [((Operator.joined joint).name, body)]) filter ↔
      ∃ items first others, body = .list items ∧
        List.Forall₂ Denotes items (first :: others) ∧ filter = joint.join first others := by
  constructor
  · intro denotes
    cases denotes with
    | leaf named denotes =>
        rw [← Operator.name_injective named] at denotes
        cases denotes
    | joined named parts =>
        cases Operator.name_injective named
        exact ⟨_, _, _, rfl, parts, rfl⟩
    | negation named _ => cases Operator.name_injective named
  · intro denotes
    obtain ⟨items, first, others, rfl, parts, rfl⟩ := denotes
    exact .joined rfl parts

theorem denotes_negation_iff {body : Value} {filter : Filter} :
    Denotes (.map [(Operator.negation.name, body)]) filter ↔
      ∃ part, Denotes body part ∧ filter = .negation part := by
  constructor
  · intro denotes
    cases denotes with
    | leaf named denotes =>
        rw [← Operator.name_injective named] at denotes
        cases denotes
    | joined named _ => cases Operator.name_injective named
    | negation _ denotes => exact ⟨_, denotes, rfl⟩
  · intro denotes
    obtain ⟨part, denotes, rfl⟩ := denotes
    exact .negation rfl denotes

private theorem ofValue_leaf {operator : Operator} (leaf : operator.hasParts = false)
    (body : Value) :
    ofValue (.map [(operator.name, body)]) =
      malformed operator.name (readLeaf operator.name operator body) := by
  rw [ofValue, operator.ofName?_name]
  cases operator with
  | compare _ | compareFolded _ | oneOf _ | matching | anyLabel => rfl
  | joined _ | negation => cases leaf

theorem ofValue_joined_eq_ok_iff {joint : Joint} {body : Value} (isData : body.isData = true)
    {filter : Filter} :
    ofValue (.map [((Operator.joined joint).name, body)]) = .ok filter ↔
      ∃ items first others, body = .list items ∧ ofValues items = .ok (first :: others) ∧
        filter = joint.join first others := by
  rw [ofValue, Operator.ofName?_name]
  cases body with
  | tuple items => cases isData
  | list items =>
      simp only
      cases read : ofValues items with
      | error fault => simp [read]
      | ok parts =>
          cases parts with
          | nil => simp [read, joinRead]
          | cons first others => simp [read, joinRead, eq_comm]
  | _ => simp

theorem ofValue_negation_eq_ok_iff {body : Value} {filter : Filter} :
    ofValue (.map [(Operator.negation.name, body)]) = .ok filter ↔
      ∃ part, ofValue body = .ok part ∧ filter = .negation part := by
  rw [ofValue, Operator.ofName?_name]
  cases read : ofValue body with
  | error fault => simp
  | ok part => simp [eq_comm]

theorem ofValues_cons_eq_ok_iff {item : Value} {items : List Value} {filters : List Filter} :
    ofValues (item :: items) = .ok filters ↔
      ∃ filter others, ofValue item = .ok filter ∧ ofValues items = .ok others ∧
        filters = filter :: others := by
  rw [ofValues]
  cases read : ofValue item with
  | error fault => simp
  | ok filter =>
      cases readOthers : ofValues items with
      | error fault => simp
      | ok others => simp [eq_comm]

mutual

/-- Data is read as a tree if and only if it denotes this tree. -/
theorem ofValue_eq_ok_iff_denotes (data : Value) (isData : data.isData = true)
    (filter : Filter) : ofValue data = .ok filter ↔ Denotes data filter := by
  match data with
  | .map [(name, body)] =>
      have bodyData := (Bool.and_eq_true_iff.mp isData).1
      cases named : Operator.ofName? name with
      | none =>
          refine iff_of_false ?_ ?_
          · rw [ofValue, named]
            exact nofun
          · intro denotes
            obtain ⟨operator, rfl⟩ := denotes.exists_operator
            rw [operator.ofName?_name] at named
            cases named
      | some operator =>
          obtain rfl := (Operator.ofName?_eq_some_iff name operator).mp named
          have ofLeaf (leaf : operator.hasParts = false) :
              ofValue (.map [(operator.name, body)]) = .ok filter ↔
                Denotes (.map [(operator.name, body)]) filter := by
            rw [ofValue_leaf leaf, malformed_eq_ok_iff, readLeaf_eq_ok_iff bodyData,
              denotes_leaf_iff leaf]
          cases operator with
          | joined joint =>
              rw [ofValue_joined_eq_ok_iff bodyData, denotes_joined_iff]
              cases body with
              | list items =>
                  have each := ofValues_eq_ok_iff_denotes items bodyData
                  refine exists_congr fun others => exists₂_congr fun first rest => ?_
                  constructor
                  · intro read
                    obtain ⟨same, read, joined⟩ := read
                    cases same
                    exact ⟨rfl, (each _).mp read, joined⟩
                  · intro denotes
                    obtain ⟨same, denotes, joined⟩ := denotes
                    cases same
                    exact ⟨rfl, (each _).mpr denotes, joined⟩
              | _ => simp
          | negation =>
              rw [ofValue_negation_eq_ok_iff, denotes_negation_iff]
              exact exists_congr fun part =>
                and_congr_left' (ofValue_eq_ok_iff_denotes body bodyData part)
          | compare _ | compareFolded _ | oneOf _ | matching | anyLabel => exact ofLeaf rfl
  | .map [] | .map (_ :: _ :: _) => exact iff_of_false (refuse_ne_ok _ _ filter) nofun
  | .null | .bool _ | .int _ | .float _ | .text _ | .list _ | .tuple _ | .set _ | .moment _ _
  | .filter _ | .clause _ _ => exact iff_of_false (refuse_ne_ok _ _ filter) nofun
termination_by structural data

private theorem ofValues_eq_ok_iff_denotes (items : List Value)
    (areData : Value.areData items = true)
    (filters : List Filter) :
    ofValues items = .ok filters ↔ List.Forall₂ Denotes items filters := by
  match items with
  | [] =>
      rw [List.forall₂_nil_left_iff]
      exact ⟨fun read => (Except.ok.inj read).symm, fun empty => congrArg Except.ok empty.symm⟩
  | item :: items =>
      have both := Bool.and_eq_true_iff.mp areData
      rw [ofValues_cons_eq_ok_iff, List.forall₂_cons_left_iff]
      refine exists₂_congr fun filter others => ?_
      rw [ofValue_eq_ok_iff_denotes item both.1, ofValues_eq_ok_iff_denotes items both.2]
termination_by structural items

end

/-! ### Nodes -/

theorem LeafDenotes.isNode {operator : Operator} {name : String} {body : Value} {filter : Filter}
    (named : name = operator.name) (denotes : LeafDenotes operator body filter) :
    IsNode (.map [(name, body)]) := by
  cases denotes with
  | compare hasKey hasValue => exact .keyed named rfl hasKey hasValue nofun
  | compareFolded hasKey hasValue => exact .keyed named rfl hasKey hasValue nofun
  | oneOf hasKey hasValues => exact .keyed named rfl hasKey hasValues (fun _ _ => ⟨_, rfl⟩)
  | matching hasKey hasPattern => exact .keyed named rfl hasKey hasPattern nofun
  | anyLabel scalars set =>
      refine .anyLabel named ?_ scalars
      rintro rfl
      cases set

mutual

theorem Denotes.isNode (data : Value) {filter : Filter} (denotes : Denotes data filter) :
    IsNode data := by
  match data with
  | .map [(name, body)] =>
      obtain ⟨operator, rfl⟩ := denotes.exists_operator
      cases operator with
      | joined joint =>
          obtain ⟨items, first, others, listed, parts, rfl⟩ := denotes_joined_iff.mp denotes
          cases body with
          | list members =>
              rw [← Value.list.inj listed] at parts
              refine .joined rfl ?_ (Denotes.isNode_of_mem members parts)
              intro noParts
              rw [noParts] at parts
              cases parts
          | _ => cases listed
      | negation =>
          obtain ⟨part, denotesPart, rfl⟩ := denotes_negation_iff.mp denotes
          exact .negation rfl (Denotes.isNode body denotesPart)
      | compare _ | compareFolded _ | oneOf _ | matching | anyLabel =>
          exact ((denotes_leaf_iff rfl).mp denotes).isNode rfl
  | .map [] | .map (_ :: _ :: _) => cases denotes
  | .null | .bool _ | .int _ | .float _ | .text _ | .list _ | .tuple _ | .set _ | .moment _ _
  | .filter _ | .clause _ _ => cases denotes
termination_by structural data

theorem Denotes.isNode_of_mem (items : List Value) {filters : List Filter}
    (each : List.Forall₂ Denotes items filters) : ∀ item ∈ items, IsNode item := by
  match items with
  | [] => exact fun item member => absurd member List.not_mem_nil
  | item :: items =>
      obtain ⟨filter, others, denotes, denotesOthers, rfl⟩ := List.forall₂_cons_left_iff.mp each
      exact List.forall_mem_cons.mpr
        ⟨Denotes.isNode item denotes, Denotes.isNode_of_mem items denotesOthers⟩
termination_by structural items

end

private theorem exists_leafDenotes {operator : Operator} {second : String}
    (takes : operator.secondField? = some second) {fields : Bindings} {key : Identifier}
    {value : Value} (hasKey : fields.lookup "key" = some (.text key.name))
    (hasSecond : fields.lookup second = some value)
    (listed : ∀ negated, operator = .oneOf negated → ∃ items, value = .list items) :
    ∃ filter, LeafDenotes operator (.map fields) filter := by
  cases operator with
  | compare comparison =>
      cases takes
      exact ⟨_, .compare hasKey hasSecond⟩
  | compareFolded comparison =>
      cases takes
      exact ⟨_, .compareFolded hasKey hasSecond⟩
  | oneOf negated =>
      cases takes
      obtain ⟨items, rfl⟩ := listed negated rfl
      exact ⟨_, .oneOf hasKey hasSecond⟩
  | matching =>
      cases takes
      exact ⟨_, .matching hasKey hasSecond⟩
  | anyLabel | joined _ | negation => cases takes

private theorem exists_forall₂ {items : List Value}
    (each : ∀ item ∈ items, ∃ filter, Denotes item filter) :
    ∃ filters, List.Forall₂ Denotes items filters := by
  induction items with
  | nil => exact ⟨[], .nil⟩
  | cons item items ih =>
      obtain ⟨⟨filter, denotes⟩, others⟩ := List.forall_mem_cons.mp each
      obtain ⟨filters, denotesOthers⟩ := ih others
      exact ⟨filter :: filters, .cons denotes denotesOthers⟩

/-- Every node denotes a tree. -/
theorem IsNode.exists_denotes {data : Value} (isNode : IsNode data) :
    ∃ filter, Denotes data filter := by
  induction isNode with
  | keyed named takes hasKey hasSecond listed =>
      obtain ⟨filter, denotes⟩ := exists_leafDenotes takes hasKey hasSecond listed
      exact ⟨filter, .leaf named denotes⟩
  | anyLabel named nonempty scalars =>
      obtain ⟨first, others, set⟩ := List.exists_cons_of_ne_nil (Value.distinct_ne_nil nonempty)
      exact ⟨_, .leaf named (.anyLabel scalars set)⟩
  | joined named nonempty _ ih =>
      obtain ⟨filters, parts⟩ := exists_forall₂ ih
      cases parts with
      | nil => exact absurd rfl nonempty
      | cons denotes others => exact ⟨_, .joined named (.cons denotes others)⟩
  | negation named _ ih =>
      obtain ⟨part, denotes⟩ := ih
      exact ⟨.negation part, .negation named denotes⟩

end Filter

end QueryWarden
