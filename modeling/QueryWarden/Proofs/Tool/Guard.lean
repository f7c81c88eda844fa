/-
Guards: a check, the one request that comes of it, and the reading of the answer. What a guard
sends and how it replies follows from these, whatever they are.
-/

import QueryWarden.Tool.Attempt

namespace QueryWarden

def isErrorText (text : String) : Prop :=
  "ERROR: ".toList <+: text.toList

/-- A reply that crosses the boundary as it should: at most one request, which is the one that
is permitted, and the message of an error if nothing is permitted, the graph raised a fault
or its answer cannot be read, and only then. There is a fault in place of a text only where
what is to be told has no text: why nothing is permitted, the fault of the graph, or what the
answer shows. -/
structure Reply.Bounded (reply : Reply) (permits : Request → Prop) (reads : QueryResult → Prop)
    (refusesUntold : Prop) (showsUntold : QueryResult → Prop) (graph : Graph) : Prop where
  once : reply.sent.length ≤ 1
  permitted : ∀ request, request ∈ reply.sent ↔ permits request
  raised : ∀ fault, reply.outcome = .error fault ↔
    fault = .integer .unwritable ∧
      (refusesUntold ∨ ∃ request, permits request ∧
        ((∃ fault, graph request = .error fault ∧ fault.text? = none) ∨
          ∃ result, graph request = .ok result ∧ showsUntold result))
  error : ∀ text, reply.outcome = .ok text →
    (isErrorText text ↔
      (∀ request, ¬permits request) ∨ ∃ request, permits request ∧
        ((∃ fault, graph request = .error fault) ∨
          ∃ result, graph request = .ok result ∧ ¬reads result))

theorem writing_eq_error_iff {α : Type} {text : Option α} {fault : Fault} :
    writing text = .error fault ↔ fault = .integer .unwritable ∧ text = none := by
  cases text with
  | none =>
      constructor
      · rintro ⟨⟩
        exact ⟨rfl, rfl⟩
      · rintro ⟨rfl, _⟩
        rfl
  | some written => simp [writing]

/-! ### Faults that have a text -/

def TellsFault {α : Type} (result : Except Fault α) : Prop :=
  ∀ fault, result = .error fault → fault.text? ≠ none

namespace TellsFault

variable {α β : Type}

theorem of_ok (value : α) : TellsFault (.ok value) :=
  nofun

theorem bind {first : Except Fault α} {next : α → Except Fault β} (tells : TellsFault first)
    (tellsNext : ∀ value, TellsFault (next value)) : TellsFault (first >>= next) := by
  cases first with
  | error fault =>
      rintro _ ⟨⟩
      exact tells fault rfl
  | ok value => exact tellsNext value

theorem map {result : Except Fault α} (tells : TellsFault result) (change : α → β) :
    TellsFault (result.map change) := by
  cases result with
  | error fault =>
      rintro _ ⟨⟩
      exact tells fault rfl
  | ok value => exact nofun

theorem of_integer (result : Except IntegerFault α) : TellsFault (result.mapError .integer) := by
  cases result with
  | error fault =>
      rintro _ ⟨⟩
      simp [Fault.text?, Fault.message]
  | ok value => exact nofun

theorem of_accessing (result : Except AccessFault α) : TellsFault (accessing result) := by
  cases result with
  | error fault =>
      rintro _ ⟨⟩
      simp [Fault.text?, Fault.message]
  | ok value => exact nofun

theorem of_writing (text : Option α) : TellsFault (writing text) := by
  intro fault failed
  obtain ⟨rfl, _⟩ := writing_eq_error_iff.mp failed
  simp [Fault.text?, Fault.message]

end TellsFault

namespace Attempt

theorem bind_assoc {α β γ : Type} (first : Attempt α) (next : α → Attempt β)
    (last : β → Attempt γ) :
    first >>= next >>= last = first >>= fun value => next value >>= last := by
  cases outcome : first.result with
  | error fault => rw [bind_of_error next outcome, bind_of_error _ rfl, bind_of_error _ outcome]
  | ok value =>
      rw [bind_of_ok next outcome, bind_of_ok _ outcome]
      cases after : (next value).result with
      | error fault => rw [bind_of_error _ rfl, bind_of_error _ after]
      | ok made => rw [bind_of_ok _ rfl, bind_of_ok _ after, List.append_assoc]

theorem of_bind_of {α β : Type} (first : Except Fault α) (next : α → Except Fault β) :
    (Attempt.of first >>= fun value => Attempt.of (next value)) = .of (first >>= next) := by
  cases first with
  | error fault => rfl
  | ok value => rfl

end Attempt

structure Guard (α β : Type) where
  check : Except Fault α
  request : α → Request
  read : α → QueryResult → Except Fault β
  success : β → Option String
  failure : Fault → Option String

namespace Guard

variable {α β : Type}

def attempt (guard : Guard α β) (graph : Graph) : Attempt β := do
  let checked ← .of guard.check
  let result ← .send graph (guard.request checked)
  .of (guard.read checked result)

def reply (guard : Guard α β) (graph : Graph) : Reply :=
  (guard.attempt graph).reply guard.success guard.failure

section

variable {guard : Guard α β} {graph : Graph} {checked : α} {result : QueryResult} {fault : Fault}

private theorem reply_of_refused (failed : guard.check = .error fault) :
    guard.reply graph = { outcome := writing (guard.failure fault), sent := [] } := by
  rw [reply, attempt, failed]
  rfl

private theorem reply_of_raised (passed : guard.check = .ok checked)
    (raised : graph (guard.request checked) = .error fault) :
    guard.reply graph =
      { outcome := writing (guard.failure fault), sent := [guard.request checked] } := by
  rw [reply, attempt, passed, Attempt.bind_of_ok _ rfl, Attempt.bind_of_error _ raised]
  rfl

private theorem attempt_of_answered (passed : guard.check = .ok checked)
    (answered : graph (guard.request checked) = .ok result) :
    guard.attempt graph =
      { sent := [guard.request checked], result := guard.read checked result } := by
  rw [attempt, passed, Attempt.bind_of_ok _ rfl, Attempt.bind_of_ok _ answered]
  rfl

private theorem reply_of_unread (passed : guard.check = .ok checked)
    (answered : graph (guard.request checked) = .ok result)
    (unread : guard.read checked result = .error fault) :
    guard.reply graph =
      { outcome := writing (guard.failure fault), sent := [guard.request checked] } := by
  rw [reply, attempt_of_answered passed answered, unread]
  rfl

theorem reply_of_read (passed : guard.check = .ok checked)
    (answered : graph (guard.request checked) = .ok result) {value : β}
    (read : guard.read checked result = .ok value) :
    guard.reply graph =
      { outcome := writing (guard.success value), sent := [guard.request checked] } := by
  rw [reply, attempt_of_answered passed answered, read]
  rfl

end

/-- What a guard permits, reads and cannot tell, in the terms of its parts. -/
structure Fits (guard : Guard α β) (permits : Request → Prop) (reads : QueryResult → Prop)
    (refusesUntold : Prop) (showsUntold : QueryResult → Prop) : Prop where
  permits_iff : ∀ sent, permits sent ↔
    ∃ checked, guard.check = .ok checked ∧ guard.request checked = sent
  reads_iff : ∀ checked result, reads result ↔ ∃ value, guard.read checked result = .ok value
  refusesUntold_iff : refusesUntold ↔
    ∃ fault, guard.check = .error fault ∧ guard.failure fault = none
  failure_eq_none_iff : ∀ checked, guard.check = .ok checked →
    ∀ fault, guard.failure fault = none ↔ fault.text? = none
  tellsFault : ∀ checked result, TellsFault (guard.read checked result)
  showsUntold_iff : ∀ checked result, guard.check = .ok checked →
    (showsUntold result ↔
      ∃ value, guard.read checked result = .ok value ∧ guard.success value = none)
  success : ∀ value text, guard.success value = some text → ¬isErrorText text
  failure : ∀ fault text, guard.failure fault = some text → isErrorText text

namespace Fits

variable {guard : Guard α β} {permits : Request → Prop} {reads : QueryResult → Prop}
  {refusesUntold : Prop} {showsUntold : QueryResult → Prop} {graph : Graph}

private theorem eq_of_permits (fits : guard.Fits permits reads refusesUntold showsUntold)
    {checked : α}
    (passed : guard.check = .ok checked) {sent : Request} (permitted : permits sent) :
    sent = guard.request checked := by
  obtain ⟨_, same, rfl⟩ := (fits.permits_iff sent).mp permitted
  rw [passed] at same
  cases same
  rfl

/-- Nothing is permitted, and the check failed. -/
theorem bounded_of_refused (fits : guard.Fits permits reads refusesUntold showsUntold)
    {fault : Fault} (failed : guard.check = .error fault) :
    (guard.reply graph).Bounded permits reads refusesUntold showsUntold graph := by
  have nothing : ∀ sent, ¬permits sent := by
    intro sent permitted
    obtain ⟨_, passed, _⟩ := (fits.permits_iff sent).mp permitted
    rw [failed] at passed
    cases passed
  have untold : refusesUntold ↔ guard.failure fault = none := by
    rw [fits.refusesUntold_iff, failed]
    simp
  rw [reply_of_refused failed]
  refine ⟨Nat.zero_le 1, ?_, ?_, ?_⟩
  · intro sent
    exact iff_of_false List.not_mem_nil (nothing sent)
  · intro raised
    simp only [writing_eq_error_iff, untold, nothing, false_and, exists_false, or_false]
  · intro text told
    exact iff_of_true (fits.failure _ _ (writing_eq_ok_iff.mp told)) (Or.inl nothing)

/-- Once the check has passed, only the one request counts that comes of it. -/
private theorem bounded_of_sent (fits : guard.Fits permits reads refusesUntold showsUntold)
    {checked : α} (passed : guard.check = .ok checked) {outcome : Except Fault String}
    (raised : ∀ fault, outcome = .error fault ↔
      fault = .integer .unwritable ∧
        ((∃ fault, graph (guard.request checked) = .error fault ∧ fault.text? = none) ∨
          ∃ result, graph (guard.request checked) = .ok result ∧ showsUntold result))
    (error : ∀ text, outcome = .ok text →
      (isErrorText text ↔ (∃ fault, graph (guard.request checked) = .error fault) ∨
        ∃ result, graph (guard.request checked) = .ok result ∧ ¬reads result)) :
    Reply.Bounded { outcome := outcome, sent := [guard.request checked] }
      permits reads refusesUntold showsUntold graph := by
  have permitted : permits (guard.request checked) :=
    (fits.permits_iff _).mpr ⟨checked, passed, rfl⟩
  have only : ∀ sent, permits sent ↔ sent = guard.request checked := by
    intro sent
    exact ⟨fits.eq_of_permits passed, fun same => same ▸ permitted⟩
  have notRefused : ¬refusesUntold := by
    rw [fits.refusesUntold_iff, passed]
    rintro ⟨_, impossible, _⟩
    cases impossible
  refine ⟨Nat.le_refl 1, ?_, ?_, ?_⟩
  · intro sent
    exact List.mem_singleton.trans (only sent).symm
  · simpa [only, notRefused] using raised
  · simpa [only] using error

private theorem bounded_of_passed (fits : guard.Fits permits reads refusesUntold showsUntold)
    {checked : α} (passed : guard.check = .ok checked) :
    (guard.reply graph).Bounded permits reads refusesUntold showsUntold graph := by
  cases answered : graph (guard.request checked) with
  | error fault =>
      rw [reply_of_raised passed answered]
      apply fits.bounded_of_sent passed
      · simp [writing_eq_error_iff, answered, fits.failure_eq_none_iff checked passed]
      · intro text told
        exact iff_of_true (fits.failure _ _ (writing_eq_ok_iff.mp told))
          (Or.inl ⟨fault, answered⟩)
  | ok result =>
      have readable := fits.reads_iff checked result
      have shown := fits.showsUntold_iff checked result passed
      cases outcome : guard.read checked result with
      | error fault =>
          have told := fits.tellsFault checked result fault outcome
          rw [reply_of_unread passed answered outcome]
          apply fits.bounded_of_sent passed
          · simp [writing_eq_error_iff, answered, shown, outcome, told,
              fits.failure_eq_none_iff checked passed]
          · intro text written
            have unread : ¬reads result := by
              rw [readable, outcome]
              simp
            exact iff_of_true (fits.failure _ _ (writing_eq_ok_iff.mp written))
              (Or.inr ⟨result, answered, unread⟩)
      | ok value =>
          rw [reply_of_read passed answered outcome]
          apply fits.bounded_of_sent passed
          · simp [writing_eq_error_iff, answered, shown, outcome]
          · intro text told
            refine iff_of_false (fits.success _ _ (writing_eq_ok_iff.mp told)) ?_
            simp [answered, readable, outcome]

/-- Guards keep to the boundary, whatever is checked, sent and read. -/
theorem bounded (fits : guard.Fits permits reads refusesUntold showsUntold) (graph : Graph) :
    (guard.reply graph).Bounded permits reads refusesUntold showsUntold graph := by
  cases outcome : guard.check with
  | error fault => exact fits.bounded_of_refused outcome
  | ok checked => exact fits.bounded_of_passed outcome

end Fits

end Guard

end QueryWarden
