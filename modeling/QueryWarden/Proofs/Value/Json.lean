/-
Values of JSON. Texts, numbers, truth values and nothing are such values, and so are lists of
them and objects, in which no name occurs twice.
-/

import QueryWarden.Proofs.Bindings

namespace QueryWarden

mutual

/-- What a JSON text can hold. The names in an object are all different. -/
def Value.isJson : Value → Bool
  | .null | .bool _ | .int _ | .float _ | .text _ => true
  | .list items => Value.areJson items
  | .map entries => decide (Bindings.names entries).Nodup && Value.entriesAreJson entries
  | _ => false
termination_by structural value => value

def Value.areJson : List Value → Bool
  | [] => true
  | item :: items => item.isJson && Value.areJson items
termination_by structural items => items

def Value.entriesAreJson : List (String × Value) → Bool
  | [] => true
  | (_, value) :: entries => value.isJson && Value.entriesAreJson entries
termination_by structural entries => entries

end

namespace Value

theorem isJson_of_mem {items : List Value} (json : areJson items = true) :
    ∀ item ∈ items, item.isJson = true := by
  induction items with
  | nil =>
      intro item member
      cases member
  | cons first items ih =>
      have both := Bool.and_eq_true_iff.mp json
      exact List.forall_mem_cons.mpr ⟨both.1, ih both.2⟩

private theorem isJson_of_mem_entries {entries : Bindings} (json : entriesAreJson entries = true) :
    ∀ entry ∈ entries, entry.2.isJson = true := by
  induction entries with
  | nil =>
      intro entry member
      cases member
  | cons first entries ih =>
      have both := Bool.and_eq_true_iff.mp json
      exact List.forall_mem_cons.mpr ⟨both.1, ih both.2⟩

theorem nodup_of_isJson {entries : Bindings} (json : (Value.map entries).isJson = true) :
    (Bindings.names entries).Nodup :=
  of_decide_eq_true (Bool.and_eq_true_iff.mp json).1

theorem entries_of_isJson {entries : Bindings} (json : (Value.map entries).isJson = true) :
    ∀ entry ∈ entries, entry.2.isJson = true :=
  isJson_of_mem_entries (Bool.and_eq_true_iff.mp json).2

theorem isJson_of_lookup {fields : Bindings} (json : (Value.map fields).isJson = true)
    {name : String} {value : Value} (found : fields.lookup name = some value) :
    value.isJson = true :=
  entries_of_isJson json (name, value) (Bindings.mem_of_lookup found)

theorem isJson_orEmpty {value : Value} (json : value.isJson = true) :
    value.orEmpty.isJson = true := by
  unfold orEmpty
  split
  · exact json
  · rfl

theorem isJson_items {value : Value} (json : value.isJson = true) {items : List Value}
    (walked : value.items = .ok items) : ∀ item ∈ items, item.isJson = true := by
  cases value with
  | text letters =>
      cases walked
      intro item member
      obtain ⟨_, _, rfl⟩ := List.mem_map.mp member
      rfl
  | list found =>
      cases walked
      exact isJson_of_mem json
  | map entries =>
      cases walked
      intro item member
      obtain ⟨_, _, rfl⟩ := List.mem_map.mp member
      rfl
  | null | bool _ | int _ | float _ => cases walked
  | tuple _ | set _ | moment _ _ | filter _ | clause _ _ => cases json

end Value

end QueryWarden
