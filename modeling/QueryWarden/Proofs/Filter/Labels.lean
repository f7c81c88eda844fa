/-
Filters that come as data. Whatever is wrong with the data is told when it is read, except for
one thing: labels need not be texts to be read, but they are sorted when they are bound. So a
filter that has been read can be compiled exactly when each set of labels in it can be sorted.
-/

import QueryWarden.Filter.Reader
import QueryWarden.Proofs.Filter.Meaning
import QueryWarden.Proofs.Value.Family

namespace QueryWarden

/-! ### Data -/

mutual

/-- What data can hold. An integer that is too long to be written is too long to be read. -/
def Value.isData : Value → Bool
  | .null | .bool _ | .float _ | .text _ => true
  | .int value => !Number.isUnwritable value
  | .list items => Value.areData items
  | .map entries => Value.entriesAreData entries
  | _ => false
termination_by structural value => value

def Value.areData : List Value → Bool
  | [] => true
  | item :: items => item.isData && Value.areData items
termination_by structural items => items

def Value.entriesAreData : List (String × Value) → Bool
  | [] => true
  | (_, value) :: entries => value.isData && Value.entriesAreData entries
termination_by structural entries => entries

end

namespace Value

theorem isData_of_mem {items : List Value} (data : areData items = true) :
    ∀ item ∈ items, item.isData = true := by
  induction items with
  | nil =>
      intro item member
      cases member
  | cons first items ih =>
      have both := Bool.and_eq_true_iff.mp data
      exact List.forall_mem_cons.mpr ⟨both.1, ih both.2⟩

theorem isData_of_lookup {fields : Bindings} (data : entriesAreData fields = true)
    {field : String} {value : Value} (found : fields.lookup field = some value) :
    value.isData = true := by
  induction fields with
  | nil => cases found
  | cons entry fields ih =>
      obtain ⟨name, first⟩ := entry
      have both := Bool.and_eq_true_iff.mp data
      rw [List.lookup_cons] at found
      split at found
      · cases found
        exact both.1
      · exact ih both.2 found

mutual

/-- Whatever data holds has a text. -/
theorem exists_written (value : Value) (data : value.isData = true) :
    ∃ text, value.written? = some text := by
  match value with
  | .null | .bool _ | .float _ | .text _ => exact ⟨_, rfl⟩
  | .int number =>
      have writable : Number.isUnwritable number = false := by simpa [isData] using data
      refine ⟨toString number, ?_⟩
      rw [written?, writable]
      rfl
  | .list items =>
      obtain ⟨texts, found⟩ := exists_writtenItems items data
      exact ⟨inBrackets texts, congrArg (Option.map inBrackets) found⟩
  | .map entries =>
      obtain ⟨texts, found⟩ := exists_writtenEntries entries data
      exact ⟨inBraces texts, congrArg (Option.map inBraces) found⟩
  | .tuple _ | .set _ | .moment _ _ | .filter _ | .clause _ _ => cases data
termination_by structural value

private theorem exists_writtenItems (items : List Value) (data : areData items = true) :
    ∃ texts, writtenItems? items = some texts := by
  match items with
  | [] => exact ⟨[], rfl⟩
  | item :: items =>
      have both := Bool.and_eq_true_iff.mp data
      obtain ⟨text, found⟩ := exists_written item both.1
      obtain ⟨texts, others⟩ := exists_writtenItems items both.2
      refine ⟨text :: texts, ?_⟩
      rw [writtenItems?, found, others]
      rfl
termination_by structural items

private theorem exists_writtenEntries (entries : List (String × Value))
    (data : entriesAreData entries = true) : ∃ texts, writtenEntries? entries = some texts := by
  match entries with
  | [] => exact ⟨[], rfl⟩
  | (name, value) :: entries =>
      have both := Bool.and_eq_true_iff.mp data
      obtain ⟨text, found⟩ := exists_written value both.1
      obtain ⟨texts, others⟩ := exists_writtenEntries entries both.2
      refine ⟨(Text.quoteText name ++ ": " ++ text) :: texts, ?_⟩
      rw [writtenEntries?, found, others]
      rfl
termination_by structural entries

end

theorem exists_shown {value : Value} (data : value.isData = true) :
    ∃ text, value.shown? = some text := by
  cases value with
  | text text => exact ⟨text, rfl⟩
  | _ => exact exists_written _ data

theorem hashable_of_mem {items : List Value} (hashed : hashableItems items = .ok ()) :
    ∀ item ∈ items, item.hashable = .ok () := by
  induction items with
  | nil =>
      intro item member
      cases member
  | cons first items ih =>
      rw [hashableItems] at hashed
      split at hashed
      · next single => exact List.forall_mem_cons.mpr ⟨single, ih hashed⟩
      · cases hashed

theorem isScalar_of_hashable {value : Value} (data : value.isData = true)
    (hashed : value.hashable = .ok ()) : value.isScalar = true := by
  cases value with
  | null | bool _ | int _ | float _ | text _ => rfl
  | list _ | map _ => cases hashed
  | tuple _ | set _ | moment _ _ | filter _ | clause _ _ => cases data

theorem mem_of_mem_distinct {items : List Value} {value : Value}
    (member : value ∈ distinct items) : value ∈ items := by
  have kept : ∀ rest found : List Value, (∀ item ∈ found, item ∈ items) →
      (∀ item ∈ rest, item ∈ items) → ∀ item ∈ rest.foldl (fun kept item =>
        if kept.any (fun other => other.agrees item) then kept else item :: kept) found,
        item ∈ items := by
    intro rest
    induction rest with
    | nil =>
        intro found inside _
        exact inside
    | cons next rest ih =>
        intro found inside others
        obtain ⟨nextInside, others⟩ := List.forall_mem_cons.mp others
        rw [List.foldl_cons]
        by_cases again : found.any (fun other => other.agrees next) = true
        · rw [if_pos again]
          exact ih found inside others
        · rw [if_neg again]
          exact ih (next :: found) (List.forall_mem_cons.mpr ⟨nextInside, inside⟩) others
  apply kept items [] (fun item impossible => absurd impossible List.not_mem_nil)
    (fun item inside => inside)
  exact List.mem_reverse.mp member

/-- Whatever of some data can be a member of a set is a scalar. -/
theorem isScalar_of_members {items found : List Value} (data : areData items = true)
    (members : Value.members items = .ok found) : ∀ item ∈ found, item.isScalar = true := by
  obtain ⟨_, hashed, rfl⟩ := Sorting.of_map_eq_ok members
  intro item member
  have inside := mem_of_mem_distinct member
  exact isScalar_of_hashable (isData_of_mem data item inside) (hashable_of_mem hashed item inside)

end Value

/-! ### Sets of labels -/

mutual

/-- The sets of labels that a filter tests for, from left to right. -/
def Filter.labelSets : Filter → List (List Value)
  | .anyLabel first others => [first :: others]
  | .all first others | .any first others => first.labelSets ++ Filter.labelSetsOf others
  | .negation part => part.labelSets
  | .compare _ _ _ | .compareFolded _ _ _ | .oneOf _ _ _ | .matching _ _ | .bare _ _ => []
termination_by structural filter => filter

def Filter.labelSetsOf : List Filter → List (List Value)
  | [] => []
  | part :: parts => part.labelSets ++ Filter.labelSetsOf parts
termination_by structural parts => parts

end

/-- What the literals come to: the literals if every set of labels is of one family, and the
fault of a comparison if one is not. -/
def Filter.Settles (sets : List (List Value)) (literals : Except Fault (List Value)) : Prop :=
  ((∀ labels ∈ sets, Sorting.OneKind Value.family? labels) ∧ ∃ values, literals = .ok values) ∨
    ((∃ labels ∈ sets, ¬ Sorting.OneKind Value.family? labels) ∧
      ∃ fault, literals = .error fault ∧ fault.kindName = "TypeError")

theorem Filter.Settles.append {sets more : List (List Value)}
    {left right : Except Fault (List Value)} (settles : Filter.Settles sets left)
    (others : Filter.Settles more right) :
    Filter.Settles (sets ++ more) (Filter.joinLiterals left right) := by
  rcases settles with ⟨alike, values, rfl⟩ | ⟨⟨labels, member, mixed⟩, fault, rfl, kindName⟩
  · rcases others with ⟨othersAlike, found, rfl⟩ | ⟨⟨labels, member, mixed⟩, fault, rfl, kindName⟩
    · exact .inl ⟨List.forall_mem_append.mpr ⟨alike, othersAlike⟩, values ++ found, rfl⟩
    · exact .inr ⟨⟨labels, List.mem_append_right sets member, mixed⟩, fault, rfl, kindName⟩
  · exact .inr ⟨⟨labels, List.mem_append_left more member, mixed⟩, fault, rfl, kindName⟩

theorem Filter.Settles.of_ok (values : List Value) : Filter.Settles [] (.ok values) :=
  .inl ⟨fun _ member => absurd member List.not_mem_nil, values, rfl⟩

theorem Filter.settles_anyLabel {first : Value} {others : List Value}
    (scalars : ∀ label ∈ first :: others, label.isScalar = true) :
    Filter.Settles [first :: others] (Filter.anyLabel first others).literals := by
  rw [Filter.literals]
  rcases Value.sortsAlike_of_scalars scalars with ⟨alike, sorted, done⟩ | ⟨mixed, fault, done, kindName⟩
  · rw [done]
    exact .inl ⟨List.forall_mem_singleton.mpr alike, [.list sorted], rfl⟩
  · rw [done]
    exact .inr ⟨⟨first :: others, List.mem_cons_self, mixed⟩, .access fault, rfl, kindName⟩

/-! ### Reading -/

namespace Filter

def Settled (filter : Filter) : Prop :=
  Settles filter.labelSets filter.literals

def SettledParts (parts : List Filter) : Prop :=
  Settles (labelSetsOf parts) (literalsOf parts)

section

variable {α β : Type} {good : α → Prop} {fine : β → Prop}

/-- What comes of reading is good, or else the fault of a filter. -/
def Told (good : α → Prop) : Except Fault α → Prop
  | .ok value => good value
  | .error fault => ∃ reported, fault = .filter reported

/-- Inside a node there are faults of access as well. -/
def Reads (good : α → Prop) : Except Fault α → Prop
  | .ok value => good value
  | .error fault => (∃ reported, fault = .access reported) ∨ ∃ reported, fault = .filter reported

theorem Told.of_refuse {text : Option String} {fault : String → FilterFault}
    (shows : ∃ shown, text = some shown) :
    Told good (refuse text fun shown => .filter (fault shown)) := by
  obtain ⟨shown, rfl⟩ := shows
  exact ⟨fault shown, rfl⟩

theorem Reads.of_filter (reported : FilterFault) : Reads good (.error (.filter reported)) :=
  .inr ⟨reported, rfl⟩

private theorem Reads.of_told {result : Except Fault α} (told : Told good result) :
    Reads good result := by
  cases result with
  | ok value => exact told
  | error fault => exact .inr told

theorem Reads.of_accessing {result : Except AccessFault α}
    (sound : ∀ value, result = .ok value → good value) : Reads good (accessing result) := by
  cases result with
  | ok value => exact sound value rfl
  | error reported => exact .inl ⟨reported, rfl⟩

theorem Reads.bind {first : Except Fault α} {next : α → Except Fault β} (reads : Reads good first)
    (others : ∀ value, good value → Reads fine (next value)) : Reads fine (first >>= next) := by
  cases first with
  | ok value => exact others value reads
  | error fault => exact reads

theorem Reads.map {change : α → β} {result : Except Fault α} (reads : Reads good result)
    (changed : ∀ value, good value → fine (change value)) : Reads fine (result.map change) := by
  cases result with
  | ok value => exact changed value reads
  | error fault => exact reads

/-- At the edge of its node a fault of access is told as one of the filter. -/
theorem Reads.told {operator : String} {result : Except Fault α} (reads : Reads good result) :
    Told good (malformed operator result) := by
  cases result with
  | ok value => exact reads
  | error fault =>
      rcases reads with ⟨reported, rfl⟩ | ⟨reported, rfl⟩
      · exact ⟨_, rfl⟩
      · exact ⟨_, rfl⟩

end

theorem subscript_reads {body : Value} (isData : body.isData = true) (name : String) :
    Reads (fun value => value.isData = true) (accessing (body.subscript name)) := by
  refine .of_accessing fun value found => ?_
  cases body with
  | map entries =>
      rw [Value.subscript] at found
      split at found
      · next isFound =>
          cases found
          exact Value.isData_of_lookup isData isFound
      · cases found
  | _ => cases found

theorem propertyKey_reads {key : Value} (isData : key.isData = true) :
    Reads (fun _ => True) (propertyKey key) := by
  rw [propertyKey, Identifier.ofValue]
  cases Identifier.ofValue? key with
  | some identifier => exact trivial
  | none => exact .of_told (.of_refuse (Value.exists_written key isData))

private theorem listBody_reads (name : String) (body : Value) :
    Reads (fun items => body = .list items ∨ body = .tuple items) (listBody name body) := by
  cases body with
  | list items => exact .inl rfl
  | tuple items => exact .inr rfl
  | _ => exact .of_filter _

private theorem buildAnyLabel_reads {labels : List Value} (areData : Value.areData labels = true) :
    Reads Settled (buildAnyLabel (.tuple labels)) := by
  have walked : Reads (fun items => items = labels) (accessing (Value.tuple labels).items) := by
    exact rfl
  have gathered : Reads (fun members => ∀ label ∈ members, label.isScalar = true)
      (accessing (Value.members labels)) :=
    .of_accessing (fun _ found => Value.isScalar_of_members areData found)
  refine walked.bind ?_
  rintro _ rfl
  refine gathered.bind ?_
  intro members scalars
  cases members with
  | nil => exact .of_filter .noLabels
  | cons first others => exact settles_anyLabel scalars

private theorem readLeaf_reads (name : String) (operator : Operator) {body : Value}
    (isData : body.isData = true) : Reads Settled (readLeaf name operator body) := by
  cases operator with
  | compare comparison =>
      refine (subscript_reads isData "key").bind (fun key keyData => ?_)
      refine (subscript_reads isData "value").bind (fun value _ => ?_)
      exact (propertyKey_reads keyData).map (fun key _ => .of_ok [value])
  | compareFolded comparison =>
      refine (subscript_reads isData "key").bind (fun key keyData => ?_)
      refine (subscript_reads isData "value").bind (fun value valueData => ?_)
      refine (propertyKey_reads keyData).map (fun key _ => ?_)
      obtain ⟨shown, found⟩ := Value.exists_shown valueData
      rw [Settled, literals, found]
      exact .of_ok _
  | matching =>
      refine (subscript_reads isData "key").bind (fun key keyData => ?_)
      refine (subscript_reads isData "pattern").bind (fun pattern _ => ?_)
      exact (propertyKey_reads keyData).map (fun key _ => .of_ok [pattern])
  | oneOf negated =>
      refine (subscript_reads isData "key").bind (fun key keyData => ?_)
      refine (subscript_reads isData "values").bind (fun values _ => ?_)
      refine (listBody_reads name values).bind (fun items _ => ?_)
      refine (propertyKey_reads keyData).bind (fun key _ => ?_)
      exact .of_ok _
  | anyLabel =>
      refine (listBody_reads name body).bind ?_
      intro labels listed
      rcases listed with rfl | rfl
      · exact buildAnyLabel_reads isData
      · cases isData
  | joined _ | negation => exact .of_filter _

private theorem joinRead_told {joint : Joint} {parts : List Filter} (settled : SettledParts parts) :
    Told Settled (joinRead joint parts) := by
  cases parts with
  | nil => exact ⟨_, rfl⟩
  | cons first others =>
      cases joint with
      | all => exact settled
      | any => exact settled

mutual

/-- Data is read to a filter whose labels decide, or refused with the fault of a filter. -/
theorem ofValue_told (data : Value) (isData : data.isData = true) :
    Told Settled (ofValue data) := by
  match data with
  | .map [(name, body)] =>
      have bodyData := (Bool.and_eq_true_iff.mp isData).1
      rw [ofValue]
      cases Operator.ofName? name with
      | none => exact ⟨_, rfl⟩
      | some operator =>
          cases operator with
          | joined joint =>
              cases body with
              | list items =>
                  have told := ofValues_told items bodyData
                  simp only
                  cases read : ofValues items with
                  | ok parts =>
                      rw [read] at told
                      exact joinRead_told told
                  | error fault =>
                      rw [read] at told
                      exact told
              | tuple items => cases bodyData
              | _ => exact ⟨_, rfl⟩
          | negation =>
              have told := ofValue_told body bodyData
              simp only
              cases read : ofValue body with
              | ok part =>
                  rw [read] at told
                  exact told
              | error fault =>
                  rw [read] at told
                  exact told
          | _ => exact (readLeaf_reads name _ bodyData).told
  | .map [] | .map (_ :: _ :: _) => exact .of_refuse (Value.exists_written _ isData)
  | .null | .bool _ | .int _ | .float _ | .text _ | .list _ =>
      exact .of_refuse (Value.exists_written _ isData)
  | .tuple _ | .set _ | .moment _ _ | .filter _ | .clause _ _ => cases isData
termination_by structural data

private theorem ofValues_told (items : List Value) (areData : Value.areData items = true) :
    Told SettledParts (ofValues items) := by
  match items with
  | [] => exact .of_ok []
  | item :: items =>
      have both := Bool.and_eq_true_iff.mp areData
      have first := ofValue_told item both.1
      have others := ofValues_told items both.2
      rw [ofValues]
      cases read : ofValue item with
      | error fault =>
          rw [read] at first
          exact first
      | ok filter =>
          rw [read] at first
          cases readOthers : ofValues items with
          | error fault =>
              rw [readOthers] at others
              exact others
          | ok filters =>
              rw [readOthers] at others
              exact first.append others
termination_by structural items

end

end Filter

namespace Compiler

theorem compile_eq_ok_iff (compiler : Compiler) (filter : Filter) :
    (∃ clause, compiler.compile (some filter) = .ok clause) ↔
      ∃ values, filter.literals = .ok values := by
  rw [compile]
  cases filter.literals with
  | ok values => exact iff_of_true ⟨_, rfl⟩ ⟨values, rfl⟩
  | error fault =>
      constructor
      · intro compiles
        obtain ⟨clause, compiled⟩ := compiles
        cases compiled
      · intro binds
        obtain ⟨values, bound⟩ := binds
        cases bound

/-- Of a filter that comes as data, nothing but the labels can fail behind the reader. -/
theorem compile_ofValue (compiler : Compiler) {data : Value} (isData : data.isData = true) :
    (∀ fault, Filter.ofValue data = .error fault → fault.kindName = "InvalidFilterError") ∧
      ∀ filter, Filter.ofValue data = .ok filter →
        ((∃ clause, compiler.compile (some filter) = .ok clause) ↔
          ∀ labels ∈ filter.labelSets, Sorting.OneKind Value.family? labels) ∧
        ∀ fault, compiler.compile (some filter) = .error fault → fault.kindName = "TypeError" := by
  have told := Filter.ofValue_told data isData
  constructor
  · intro fault failed
    rw [failed] at told
    obtain ⟨reported, rfl⟩ := told
    rfl
  · intro filter read
    rw [read] at told
    rw [compile_eq_ok_iff, compile]
    rcases told with ⟨alike, values, bound⟩ | ⟨⟨labels, member, mixed⟩, fault, failed, kindName⟩
    · rw [bound]
      refine ⟨iff_of_true ⟨values, rfl⟩ alike, ?_⟩
      intro fault compiled
      cases compiled
    · rw [failed]
      refine ⟨iff_of_false ?_ (fun alike => mixed (alike labels member)), ?_⟩
      · intro binds
        obtain ⟨values, bound⟩ := binds
        cases bound
      · intro other compiled
        cases compiled
        exact kindName

private def ofEntities : Compiler :=
  ⟨⟨"e", by decide⟩, ⟨"_label_", by decide⟩⟩

def openPlaces : Value :=
  .map [("and", .list [
    .map [("eq_ignore_case", .map [("key", .text "status"), ("value", .text "Open")])],
    .map [("has_any_label", .list [.text "Person", .text "Town", .text "Person"])]])]

theorem compile_ofValue_openPlaces :
    openPlaces.isData = true ∧ ∃ filter, Filter.ofValue openPlaces = .ok filter ∧
      ∃ clause, ofEntities.compile (some filter) = .ok clause := by
  obtain ⟨filter, read, labelSets⟩ : ∃ filter, Filter.ofValue openPlaces = .ok filter ∧
      filter.labelSets = [[.text "Person", .text "Town"]] := ⟨_, rfl, rfl⟩
  have texts : Sorting.OneKind Value.family? [.text "Person", .text "Town"] :=
    .inr ⟨.text, List.forall_mem_cons.mpr ⟨rfl, List.forall_mem_singleton.mpr rfl⟩⟩
  have alike : ∀ labels ∈ filter.labelSets, Sorting.OneKind Value.family? labels := by
    rw [labelSets]
    exact List.forall_mem_singleton.mpr texts
  exact ⟨rfl, filter, read, (((compile_ofValue ofEntities rfl).2 filter read).1.mpr alike)⟩

private def mixedLabels : Value :=
  .map [("has_any_label", .list [.text "Person", .int 1])]

/-- Labels without an order are read, and then the compiler fails. -/
theorem mixedLabels_uncompiled :
    mixedLabels.isData = true ∧ ∃ filter fault, Filter.ofValue mixedLabels = .ok filter ∧
      ofEntities.compile (some filter) = .error fault ∧ fault.kindName = "TypeError" := by
  have scalars : ∀ label ∈ [Value.text "Person", .int 1], label.isScalar = true :=
    List.forall_mem_cons.mpr ⟨rfl, List.forall_mem_singleton.mpr rfl⟩
  refine ⟨rfl, .anyLabel (.text "Person") [.int 1], ?_⟩
  rcases Filter.settles_anyLabel scalars with ⟨alike, _⟩ | ⟨_, fault, failed, kindName⟩
  · have labelsAlike := alike _ List.mem_cons_self
    have number := labelsAlike.forall_of_mem List.mem_cons_self rfl (.int 1)
      (List.mem_cons_of_mem _ List.mem_cons_self)
    cases number
  · refine ⟨fault, rfl, ?_, kindName⟩
    rw [compile, failed]

end Compiler

end QueryWarden
