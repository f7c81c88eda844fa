/-
Names that are written into a query as they stand. A place that takes such a name takes any
plain name, and nothing besides but a plain name with one line break behind it, whatever else
it is given: all of these places ask whether the name is an identifier.
-/

import QueryWarden.Filter.Program
import QueryWarden.Proofs.Identifier
import QueryWarden.Proofs.Result
import QueryWarden.Proofs.Scope.Narrowing
import QueryWarden.Proofs.Tool.Boundary

namespace QueryWarden

open Text

/-! ### Identifiers from values -/

theorem exists_ofValue_eq_ok_iff (role name : String) :
    (∃ identifier, Identifier.ofValue role (.text name) = .ok identifier) ↔
      isIdentifier name.toList = true := by
  constructor
  · rintro ⟨identifier, read⟩
    have same := (Identifier.ofValue_eq_ok_iff _ _ _).mp read
    rw [Value.text.inj same]
    exact identifier.plain
  · intro plain
    exact ⟨⟨name, plain⟩, (Identifier.ofValue_eq_ok_iff _ _ _).mpr rfl⟩

/-! ### Filters with a key -/

theorem isIdentifier_of_propertyKey {name : String} {key : Identifier}
    (read : Filter.propertyKey (.text name) = .ok key) : isIdentifier name.toList = true := by
  refine (exists_ofValue_eq_ok_iff Filter.keyRole name).mp ?_
  unfold Filter.propertyKey at read
  cases found : Identifier.ofValue Filter.keyRole (.text name) with
  | error fault =>
      rw [found] at read
      cases read
  | ok identifier => exact ⟨identifier, rfl⟩

theorem propertyKey_name (key : Identifier) :
    Filter.propertyKey (.text key.name) = .ok key := by
  rw [Filter.propertyKey, (Identifier.ofValue_eq_ok_iff _ _ key).mpr rfl]

/-- What is made of a key is only made of an identifier. -/
theorem isIdentifier_of_bind {α : Type} {name : String} {made : α}
    {finish : Identifier → Except Fault α}
    (done : (Filter.propertyKey (.text name)).bind finish = .ok made) :
    isIdentifier name.toList = true := by
  cases read : Filter.propertyKey (.text name) with
  | ok key => exact isIdentifier_of_propertyKey read
  | error fault =>
      rw [read] at done
      cases done

section

open BuildOperation

def keyedOperations : List (String × BuildOperation) :=
  comparisons ++ foldedComparisons ++ memberships ++ patterns

structure ChecksKey (operation : BuildOperation) : Prop where
  asks : ∀ mark name others made, operation.apply mark (.text name :: others) = .ok made →
    isIdentifier name.toList = true
  content : ∀ key : Identifier, ∃ made, operation.apply 0 [.text key.name, .list []] = .ok made

/-- Making a filter from the key and whatever comes of the other values. -/
theorem checksKey_making {signature : Signature} {build : List Value → Except Fault Filter}
    (finish : List Value → Identifier → Except Fault Filter)
    (accepts : signature.check 2 = .ok ())
    (builds : ∀ operands,
      build operands = (Filter.propertyKey (value operands 0)).bind (finish operands))
    (finishes : ∀ key : Identifier, ∃ made,
      finish [.text key.name, .list []] key = .ok made) :
    ChecksKey (making signature build) where
  asks := by
    intro mark name others made applied
    unfold BuildOperation.apply at applied
    split at applied
    · cases applied
    · change (build (.text name :: others)).map Value.filter = _ at applied
      cases built : build (.text name :: others) with
      | error fault =>
          rw [built] at applied
          cases applied
      | ok filter =>
          rw [builds] at built
          exact isIdentifier_of_bind built
  content := by
    intro key
    obtain ⟨made, finished⟩ := finishes key
    have built : build [.text key.name, .list []] = .ok made := by
      rw [builds]
      change (Filter.propertyKey (.text key.name)).bind _ = _
      rw [propertyKey_name]
      exact finished
    refine ⟨.filter made, ?_⟩
    have accepted :
        (making signature build).accepts [Value.text key.name, .list []].length = .ok () :=
      accepts
    rw [BuildOperation.apply, accepted]
    change (build _).map Value.filter = _
    rw [built]
    rfl

theorem checksKey_pair {entry : String × BuildOperation} {helper className second : String}
    {build : List Value → Except Fault Filter}
    (finish : List Value → Identifier → Except Fault Filter)
    (member : entry ∈ pair helper className ["key", second] build)
    (builds : ∀ operands,
      build operands = (Filter.propertyKey (value operands 0)).bind (finish operands))
    (finishes : ∀ key : Identifier, ∃ made,
      finish [.text key.name, .list []] key = .ok made) :
    ChecksKey entry.2 := by
  rw [pair, List.mem_cons, List.mem_singleton] at member
  rcases member with rfl | rfl
  · exact checksKey_making finish rfl builds finishes
  · exact checksKey_making finish rfl builds finishes

theorem checksKey_of_mem {entry : String × BuildOperation} (member : entry ∈ keyedOperations) :
    ChecksKey entry.2 := by
  simp only [keyedOperations, comparisons, foldedComparisons, memberships, patterns,
    List.mem_append, List.mem_flatMap] at member
  rcases member with ((⟨comparison, _, member⟩ | ⟨comparison, _, member⟩) | member) | member
  · exact checksKey_pair (fun operands key => .ok (.compare comparison key (value operands 1)))
      member (fun _ => rfl) (fun _ => ⟨_, rfl⟩)
  · exact checksKey_pair
      (fun operands key => .ok (.compareFolded comparison key (value operands 1)))
      member (fun _ => rfl) (fun _ => ⟨_, rfl⟩)
  · obtain ⟨⟨helper, className, negated⟩, _, member⟩ := member
    rw [List.mem_cons, List.mem_singleton] at member
    rcases member with rfl | rfl
    · exact checksKey_making
        (fun operands key => (accessing (Filter.collect (operands.drop 1)).items).bind
          fun values => .ok (.oneOf negated key values))
        rfl (fun _ => rfl) (fun _ => ⟨_, rfl⟩)
    · exact checksKey_making
        (fun operands key => (accessing (value operands 1).items).bind
          fun values => .ok (.oneOf negated key values))
        rfl (fun _ => rfl) (fun _ => ⟨_, rfl⟩)
  · exact checksKey_pair (fun operands key => .ok (.matching key (value operands 1)))
      member (fun _ => rfl) (fun _ => ⟨_, rfl⟩)

end

/-! ### Filters in the form of data -/

def Operator.isKeyed : Operator → Bool
  | .compare _ | .compareFolded _ | .oneOf _ | .matching => true
  | .anyLabel | .joined _ | .negation => false

namespace Filter

/-- Data with a node in it: the data itself, or a node of what it joins or negates. -/
inductive HasNode (node : Value) : Value → Prop where
  | whole : HasNode node node
  | joined {name : String} {joint : Joint} {body item : Value} {items : List Value}
      (joins : Operator.ofName? name = some (.joined joint))
      (sequence : body = .list items ∨ body = .tuple items) (member : item ∈ items)
      (inside : HasNode node item) : HasNode node (.map [(name, body)])
  | negated {name : String} {body : Value} (negates : Operator.ofName? name = some .negation)
      (inside : HasNode node body) : HasNode node (.map [(name, body)])

theorem exists_ofValue_of_mem {items : List Value} {item : Value} (member : item ∈ items)
    {filters : List Filter} (read : ofValues items = .ok filters) :
    ∃ filter, ofValue item = .ok filter := by
  induction items generalizing filters with
  | nil => cases member
  | cons first items ih =>
      rw [ofValues] at read
      cases readFirst : ofValue first with
      | error fault =>
          rw [readFirst] at read
          cases read
      | ok filter =>
          rw [readFirst] at read
          cases readItems : ofValues items with
          | error fault =>
              rw [readItems] at read
              cases read
          | ok others =>
              rcases List.mem_cons.mp member with rfl | inside
              · exact ⟨filter, readFirst⟩
              · exact ih inside readItems

/-- In data that is read as a filter, every node is read as one. -/
theorem HasNode.exists_ofValue {node data : Value} (has : HasNode node data)
    (read : ∃ filter, ofValue data = .ok filter) : ∃ filter, ofValue node = .ok filter := by
  induction has with
  | whole => exact read
  | @joined name joint body item items joins sequence member _ ih =>
      obtain ⟨filter, read⟩ := read
      rw [ofValue, joins] at read
      cases readItems : ofValues items with
      | ok parts => exact ih (exists_ofValue_of_mem member readItems)
      | error fault =>
          rcases sequence with rfl | rfl
          · simp only [readItems] at read
            cases read
          · simp only [readItems] at read
            cases read
  | @negated name body negates _ ih =>
      obtain ⟨filter, read⟩ := read
      rw [ofValue, negates] at read
      cases readBody : ofValue body with
      | ok part => exact ih ⟨part, readBody⟩
      | error fault =>
          rw [readBody] at read
          cases read

/-- Nothing is made of a node with a key before the key has been checked. -/
theorem isIdentifier_of_readLeaf {name key : String} {operator : Operator}
    (keyed : operator.isKeyed = true) {fields : Bindings}
    (given : fields.lookup "key" = some (.text key)) {filter : Filter}
    (read : readLeaf name operator (.map fields) = .ok filter) :
    isIdentifier key.toList = true := by
  have afterKey : ∀ next : Value → Except Fault Filter,
      accessing ((Value.map fields).subscript "key") >>= next = .ok filter →
        next (.text key) = .ok filter := by
    intro next done
    rw [Value.subscript, given] at done
    exact done
  cases operator with
  | compare comparison =>
      obtain ⟨_, _, built⟩ := bind_eq_ok_iff.mp (afterKey _ read)
      obtain ⟨_, checked, _⟩ := map_eq_ok_iff.mp built
      exact isIdentifier_of_propertyKey checked
  | compareFolded comparison =>
      obtain ⟨_, _, built⟩ := bind_eq_ok_iff.mp (afterKey _ read)
      obtain ⟨_, checked, _⟩ := map_eq_ok_iff.mp built
      exact isIdentifier_of_propertyKey checked
  | oneOf negated =>
      obtain ⟨_, _, read⟩ := bind_eq_ok_iff.mp (afterKey _ read)
      obtain ⟨_, _, built⟩ := bind_eq_ok_iff.mp read
      obtain ⟨_, checked, _⟩ := bind_eq_ok_iff.mp built
      exact isIdentifier_of_propertyKey checked
  | matching =>
      obtain ⟨_, _, built⟩ := bind_eq_ok_iff.mp (afterKey _ read)
      obtain ⟨_, checked, _⟩ := map_eq_ok_iff.mp built
      exact isIdentifier_of_propertyKey checked
  | anyLabel | joined _ | negation => cases keyed

def keyedFields (key : Identifier) : Bindings :=
  [("key", .text key.name), ("value", .null), ("values", .list []), ("pattern", .null)]

private theorem exists_readLeaf (name : String) {operator : Operator}
    (keyed : operator.isKeyed = true)
    (key : Identifier) :
    ∃ filter, readLeaf name operator (.map (keyedFields key)) = .ok filter := by
  cases operator with
  | compare comparison =>
      exact ⟨_, map_eq_ok_iff.mpr ⟨key, propertyKey_name key, rfl⟩⟩
  | compareFolded comparison =>
      exact ⟨_, map_eq_ok_iff.mpr ⟨key, propertyKey_name key, rfl⟩⟩
  | oneOf negated =>
      have built : buildOneOf negated (.text key.name) (.tuple []) =
          .ok (.oneOf negated key []) :=
        bind_eq_ok_iff.mpr ⟨key, propertyKey_name key, rfl⟩
      exact ⟨_, built⟩
  | matching =>
      exact ⟨_, map_eq_ok_iff.mpr ⟨key, propertyKey_name key, rfl⟩⟩
  | anyLabel | joined _ | negation => cases keyed

private theorem ofValue_keyed {name : String} {operator : Operator}
    (named : Operator.ofName? name = some operator) (keyed : operator.isKeyed = true)
    (body : Value) :
    ofValue (.map [(name, body)]) = malformed name (readLeaf name operator body) := by
  rw [ofValue, named]
  cases operator with
  | compare _ | compareFolded _ | oneOf _ | matching => rfl
  | anyLabel | joined _ | negation => cases keyed

theorem malformed_eq_ok_iff {α : Type} {name : String} {result : Except Fault α} {value : α} :
    malformed name result = .ok value ↔ result = .ok value := by
  unfold malformed
  split
  · constructor
    · rintro ⟨⟩
    · rintro ⟨⟩
  · rfl

end Filter

/-! ### Places -/

/-- A place that writes a name into a query: the key of a filter, which is made by an operation
or read from a node of data; the alias and the stem of a compiler; the alias of a scope; the
label that a tool looks for or lists. -/
inductive Site where
  | operationKey (name : String) (operation : BuildOperation)
      (keyed : (name, operation) ∈ keyedOperations)
  | nodeKey (name : String) (operator : Operator)
      (named : Operator.ofName? name = some operator) (keyed : operator.isKeyed = true)
  | compilerAlias
  | compilerStem
  | scopeAlias
  | foundLabel
  | listedLabel

namespace Site

/-- The name passes the place, with some choice of all that is given beside it. -/
def Takes : Site → String → Prop
  | operationKey _ operation _, name =>
      ∃ mark others made, operation.apply mark (.text name :: others) = .ok made
  | nodeKey operator _ _ _, name =>
      ∃ fields data filter, fields.lookup "key" = some (.text name) ∧
        Filter.HasNode (.map [(operator, .map fields)]) data ∧ Filter.ofValue data = .ok filter
  | compilerAlias, name => ∃ stem compiler, Compiler.ofValues (.text name) stem = .ok compiler
  | compilerStem, name =>
      ∃ aliasName compiler, Compiler.ofValues aliasName (.text name) = .ok compiler
  | scopeAlias, name =>
      ∃ scope context narrowed, Scope.scopedToContext scope context (.text name) = .ok narrowed
  | foundLabel, name =>
      ∃ executor graph term request,
        request ∈ (Executor.find executor graph (.text name) term).sent
  | listedLabel, name =>
      ∃ executor graph limit request,
        request ∈ (Executor.list executor graph (.text name) limit).sent

private theorem isIdentifier_of_takes {site : Site} {name : String} (takes : site.Takes name) :
    isIdentifier name.toList = true := by
  cases site with
  | operationKey _ operation keyed =>
      obtain ⟨mark, others, made, applied⟩ := takes
      exact (checksKey_of_mem keyed).asks mark name others made applied
  | nodeKey operatorName operator named keyed =>
      obtain ⟨fields, data, filter, given, has, read⟩ := takes
      obtain ⟨node, readNode⟩ := has.exists_ofValue ⟨filter, read⟩
      rw [Filter.ofValue_keyed named keyed, Filter.malformed_eq_ok_iff] at readNode
      exact Filter.isIdentifier_of_readLeaf keyed given readNode
  | compilerAlias =>
      obtain ⟨stem, compiler, made⟩ := takes
      unfold Compiler.ofValues at made
      split at made
      · cases made
      · next identifier read => exact (exists_ofValue_eq_ok_iff _ _).mp ⟨identifier, read⟩
  | compilerStem =>
      obtain ⟨aliasName, compiler, made⟩ := takes
      unfold Compiler.ofValues at made
      split at made
      · cases made
      · split at made
        · cases made
        · next identifier read => exact (exists_ofValue_eq_ok_iff _ _).mp ⟨identifier, read⟩
  | scopeAlias =>
      obtain ⟨scope, context, narrowed, made⟩ := takes
      unfold Scope.scopedToContext at made
      split at made
      · next identifier read => exact (exists_ofValue_eq_ok_iff _ _).mp ⟨identifier, read⟩
      · cases made
  | foundLabel =>
      obtain ⟨executor, graph, term, request, sent⟩ := takes
      have permitted := (Executor.mem_sent_iff executor graph (.find _ term) request).mp sent
      generalize named : Value.text name = label at permitted
      cases permitted with
      | @find label _ _ _ =>
          rw [Value.text.inj named]
          exact label.plain
  | listedLabel =>
      obtain ⟨executor, graph, limit, request, sent⟩ := takes
      have permitted := (Executor.mem_sent_iff executor graph (.list _ limit) request).mp sent
      generalize named : Value.text name = label at permitted
      cases permitted with
      | @list label _ _ _ _ _ =>
          rw [Value.text.inj named]
          exact label.plain

private theorem not_blank_contextClause (aliasName : Identifier) :
    isBlankText (Scope.contextClause aliasName) = false := by
  have start : "EXISTS \x7b".toList.all isBlank = false := by decide
  rw [isBlankText, Scope.toList_contextClause, allBlank, List.all_append, start]
  rfl

def declaring (label : String) : Executor :=
  { schema :=
      { nodeTypes := [{ label := label, labels := [label], description := "", properties := [] }]
        relationships := [] }
    validator := .standard (.bool true)
    maximum := Executor.defaultMaximum }

private theorem hasLabel_declaring (label : String) :
    (declaring label).schema.hasLabel label = true := by
  rw [Schema.hasLabel, Schema.allLabels, List.contains_iff_mem, mem_sortedSet]
  exact List.mem_singleton.mpr rfl

private theorem takes_name (site : Site) (identifier : Identifier) :
    site.Takes identifier.name := by
  have read := fun role =>
    (Identifier.ofValue_eq_ok_iff role (.text identifier.name) identifier).mpr rfl
  cases site with
  | operationKey _ operation keyed =>
      obtain ⟨made, applied⟩ := (checksKey_of_mem keyed).content identifier
      exact ⟨0, _, made, applied⟩
  | nodeKey operatorName operator named keyed =>
      obtain ⟨filter, built⟩ := Filter.exists_readLeaf operatorName keyed identifier
      refine ⟨Filter.keyedFields identifier, _, filter, rfl, .whole, ?_⟩
      rw [Filter.ofValue_keyed named keyed, built]
      rfl
  | compilerAlias =>
      refine ⟨.text identifier.name, ⟨identifier, identifier⟩, ?_⟩
      rw [Compiler.ofValues, read, read]
  | compilerStem =>
      refine ⟨.text identifier.name, ⟨identifier, identifier⟩, ?_⟩
      rw [Compiler.ofValues, read, read]
  | scopeAlias =>
      refine ⟨.empty, .null,
        { clauses := [Scope.contextClause identifier]
          parameters := [(Scope.contextParameter, .null)] }, ?_⟩
      rw [Scope.scopedToContext, read]
      exact (Scope.narrowedBy_eq_ok_iff _ _ _ _).mpr
        ⟨by decide, not_blank_contextClause identifier, rfl, rfl⟩
  | foundLabel =>
      have permitted : (declaring identifier.name).Permits
          (.find (.text identifier.name) .null) _ :=
        .find (hasLabel_declaring identifier.name) rfl
      exact ⟨_, fun _ => .error .missingFile, .null, _,
        (Executor.mem_sent_iff _ _ (.find _ _) _).mpr permitted⟩
  | listedLabel =>
      have shown : ((declaring identifier.name).boundedLimit 1).shown? = some "1" := rfl
      have permitted : (declaring identifier.name).Permits
          (.list (.text identifier.name) (.int 1)) _ :=
        .list (hasLabel_declaring identifier.name) rfl shown
      exact ⟨_, fun _ => .error .missingFile, .int 1, _,
        (Executor.mem_sent_iff _ _ (.list _ _) _).mpr permitted⟩

/-- Every place takes the same names: the plain ones, and a plain one with a line break behind
it. Nothing else that is given beside the name lets another one through. -/
theorem takes_iff (site : Site) (name : String) :
    site.Takes name ↔ PlainName name ∨ ∃ plain, PlainName plain ∧ name = plain ++ "\n" := by
  rw [← isIdentifier_iff]
  exact ⟨isIdentifier_of_takes, fun plain => takes_name site ⟨name, plain⟩⟩

/-- A name that is not plain passes every place. -/
theorem broken_name_taken :
    ¬PlainName "owner\n" ∧ ∀ site : Site, site.Takes "owner\n" := by
  refine ⟨?_, fun site => takes_name site ⟨"owner\n", by decide⟩⟩
  rintro ⟨first, rest, letters, _, parts⟩
  have written : "owner\n".toList = 'o' :: "wner\n".toList := by decide
  obtain ⟨_, rfl⟩ := List.cons_eq_cons.mp (written.symm.trans letters)
  exact absurd (parts '\n' (by decide)) (by decide)

end Site

end QueryWarden
