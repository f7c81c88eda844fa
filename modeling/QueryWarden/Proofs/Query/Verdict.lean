/-
The verdict of the read-only check, said of the words of a text. The check runs through the
text letter by letter and stops at the first thing it finds; what it comes to is told here
from the outside: which of the listed words are words of the text, which names occur in it,
which of its calls writes, and with which token it begins.
-/

import QueryWarden.Proofs.Query.ReadOnly
import QueryWarden.Proofs.Text.Words

namespace QueryWarden

open Text

namespace Mutation

/-! ### The first of a list -/

structure IsFirst (listed : List String) (holds : String → Prop) (text : String) : Prop where
  fits : holds text
  first : ∃ before after, listed = before ++ text :: after ∧ ∀ other ∈ before, ¬holds other

section

variable {listed : List String} {test : String → Bool} {holds : String → Prop}

theorem find?_eq_some_iff_isFirst (tests : ∀ text ∈ listed, test text = true ↔ holds text)
    (text : String) : listed.find? test = some text ↔ IsFirst listed holds text := by
  rw [List.find?_eq_some_iff_append]
  constructor
  · rintro ⟨passed, before, after, split, earlier⟩
    have within : text ∈ listed := by simp [split]
    refine ⟨(tests text within).mp passed, before, after, split, ?_⟩
    intro other member holds
    have inside : other ∈ listed := by simp [split, member]
    have failed := earlier other member
    rw [(tests other inside).mpr holds] at failed
    cases failed
  · rintro ⟨fits, before, after, split, earlier⟩
    have within : text ∈ listed := by simp [split]
    refine ⟨(tests text within).mpr fits, before, after, split, ?_⟩
    intro other member
    have inside : other ∈ listed := by simp [split, member]
    have failed : test other ≠ true := fun passed =>
      earlier other member ((tests other inside).mp passed)
    simpa using failed

private theorem find?_eq_none_iff_forall (tests : ∀ text ∈ listed, test text = true ↔ holds text) :
    listed.find? test = none ↔ ∀ text ∈ listed, ¬holds text := by
  rw [List.find?_eq_none]
  exact forall₂_congr fun text member => not_congr (tests text member)

end

/-! ### Names that write -/

/-- A name that has a point, and behind its last point a part that starts with the verb of a
write. -/
def NamesWrite (name : List Char) : Prop :=
  ∃ qualifier verb rest, name = qualifier ++ '.' :: (verb.toList ++ rest) ∧
    verb ∈ writeVerbs ∧ '.' ∉ verb.toList ++ rest

theorem lastSegment_append {segment : List Char} (noPoint : '.' ∉ segment)
    (qualifier : List Char) : lastSegment (qualifier ++ '.' :: segment) = segment := by
  have leading : LeadingRun (· != '.') segment.reverse ('.' :: qualifier.reverse) := by
    constructor
    · intro letter member
      have inside := List.mem_reverse.mp member
      exact bne_iff_ne.mpr (fun point => noPoint (point ▸ inside))
    · intro letter first
      cases first
      decide
  have turned : (qualifier ++ '.' :: segment).reverse =
      segment.reverse ++ '.' :: qualifier.reverse := by simp
  rw [lastSegment, turned, leading.takeWhile_eq, List.reverse_reverse]

private theorem exists_lastSegment {name : List Char} (point : '.' ∈ name) :
    ∃ qualifier, name = qualifier ++ '.' :: lastSegment name ∧ '.' ∉ lastSegment name := by
  obtain ⟨front, back, split, noPoint⟩ := List.eq_append_cons_of_mem (List.mem_reverse.mpr point)
  have whole : name = back.reverse ++ '.' :: front.reverse := by
    rw [← List.reverse_reverse name, split]
    simp
  have absent : '.' ∉ front.reverse := fun member => noPoint (List.mem_reverse.mp member)
  have last : lastSegment name = front.reverse := by
    rw [whole, lastSegment_append absent]
  exact ⟨back.reverse, last ▸ whole, last ▸ absent⟩

theorem startsWithVerb_iff (segment : List Char) :
    startsWithVerb segment = true ↔
      ∃ verb ∈ writeVerbs, ∃ rest, segment = verb.toList ++ rest := by
  simp only [startsWithVerb, List.any_eq_true, Option.isSome_iff_exists, after?_eq_some_iff]

theorem isWriteProcedure_iff (name : List Char) :
    isWriteProcedure name = true ↔ NamesWrite name := by
  rw [isWriteProcedure, Bool.and_eq_true, List.contains_iff_mem, startsWithVerb_iff]
  constructor
  · rintro ⟨point, verb, listed, rest, starts⟩
    obtain ⟨qualifier, split, noPoint⟩ := exists_lastSegment point
    rw [starts] at split noPoint
    exact ⟨qualifier, verb, rest, split, listed, noPoint⟩
  · rintro ⟨qualifier, verb, rest, split, listed, noPoint⟩
    refine ⟨by simp [split], verb, listed, rest, ?_⟩
    rw [split, lastSegment_append noPoint]

theorem NamesWrite.ne_nil {name : List Char} (writes : NamesWrite name) : name ≠ [] := by
  obtain ⟨qualifier, verb, rest, rfl, _⟩ := writes
  simp

/-! ### Calls -/

/-- What a call leads to: blanks, and behind them a longest run of the letters of names,
which names a write. -/
structure IsTarget (gap name back : List Char) : Prop where
  apart : gap ≠ []
  blank : ∀ letter ∈ gap, isBlank letter = true
  run : LeadingRun isProcedurePart name back
  writes : NamesWrite name

/-- The word for a call stands behind the front, and it leads to the name of a write. -/
def Calls (upper front name : List Char) : Prop :=
  ∃ gap back, upper = front ++ ("CALL".toList ++ (gap ++ (name ++ back))) ∧
    IsWordBetween front "CALL".toList (gap ++ (name ++ back)) ∧ IsTarget gap name back

/-- The name to which the leftmost of such calls leads. -/
def FirstCall (upper name : List Char) : Prop :=
  ∃ front, Calls upper front name ∧
    ∀ earlier other, Calls upper earlier other → front.length ≤ earlier.length

theorem IsTarget.leadingRun {gap name back : List Char} (target : IsTarget gap name back) :
    LeadingRun isBlank gap (name ++ back) where
  within := target.blank
  stops := by
    intro letter first
    obtain ⟨initial, others, rfl⟩ := List.exists_cons_of_ne_nil target.writes.ne_nil
    cases first
    have part := target.run.within letter List.mem_cons_self
    refine Bool.eq_false_iff.mpr (fun blank => ?_)
    rw [isProcedurePart_of_isOutside (Bool.or_eq_true_iff.mpr (.inl blank))] at part
    cases part

theorem writeTarget?_eq_some_iff (rest name : List Char) :
    writeTarget? rest = some name ↔
      ∃ gap back, rest = gap ++ (name ++ back) ∧ IsTarget gap name back := by
  constructor
  · intro found
    cases rest with
    | nil => cases found
    | cons letter rest =>
        rw [writeTarget?] at found
        split at found
        · next blank =>
            obtain ⟨taken, writes⟩ := Option.filter_eq_some_iff.mp found
            have run : (dropBlanks (letter :: rest)).takeWhile isProcedurePart = name :=
              Option.some.inj taken
            refine ⟨(letter :: rest).takeWhile isBlank,
              (dropBlanks (letter :: rest)).dropWhile isProcedurePart, ?_, ?_, ?_, ?_, ?_⟩
            · rw [← run, List.takeWhile_append_dropWhile]
              exact List.takeWhile_append_dropWhile.symm
            · simp [blank]
            · exact fun _ member => List.mem_takeWhile_imp member
            · exact run ▸ leadingRun_takeWhile _ _
            · exact (isWriteProcedure_iff _).mp writes
        · cases found
  · rintro ⟨gap, back, rfl, target⟩
    have dropped : dropBlanks (gap ++ (name ++ back)) = name ++ back :=
      target.leadingRun.dropWhile_eq
    obtain ⟨letter, blanks, rfl⟩ := List.exists_cons_of_ne_nil target.apart
    rw [List.cons_append] at dropped ⊢
    rw [writeTarget?, if_pos (target.blank letter List.mem_cons_self), dropped,
      target.run.takeWhile_eq, Option.filter_some, (isWriteProcedure_iff name).mpr target.writes]
    rfl

def CallsAfter (inWord : Bool) (letters front name : List Char) : Prop :=
  ∃ gap back, letters = front ++ ("CALL".toList ++ (gap ++ (name ++ back))) ∧
    endsInWord inWord front = false ∧ IsTarget gap name back

theorem isWordBetween_call {front gap name back : List Char} (target : IsTarget gap name back) :
    IsWordBetween front "CALL".toList (gap ++ (name ++ back)) ↔ endsInWord false front = false := by
  rw [endsInWord_eq_false_iff]
  constructor
  · exact fun word => word.before
  · intro before
    refine ⟨by decide, ?_, before, ?_⟩
    · intro letter member
      have plain : "CALL".toList.all isNamePart = true := by decide
      exact isWord_of_isNamePart (List.all_eq_true.mp plain letter member)
    · obtain ⟨letter, blanks, rfl⟩ := List.exists_cons_of_ne_nil target.apart
      intro first isFirst
      cases isFirst
      exact isWord_of_isBlank (target.blank letter List.mem_cons_self)

theorem calls_iff (upper front name : List Char) :
    Calls upper front name ↔ CallsAfter false upper front name := by
  refine exists_congr fun gap => exists_congr fun back => and_congr_right fun _ => ?_
  exact ⟨fun called => ⟨(isWordBetween_call called.2).mp called.1, called.2⟩,
    fun called => ⟨(isWordBetween_call called.2).mpr called.1, called.2⟩⟩

section

variable {inWord : Bool} {letter : Char} {letters : List Char}

/-- The call that stands at the very start is the one that the search looks at first. -/
theorem callsAfter_nil_iff (inWord : Bool) (letters name : List Char) :
    CallsAfter inWord letters [] name ↔
      (if inWord then none else (calledHere letters).filter isWriteProcedure) = some name := by
  cases inWord with
  | true => simp [CallsAfter, endsInWord]
  | false =>
      rw [if_neg Bool.false_ne_true, filter_calledHere, Option.bind_eq_some_iff]
      simp only [after?_eq_some_iff, writeTarget?_eq_some_iff]
      constructor
      · rintro ⟨gap, back, split, _, target⟩
        exact ⟨_, split, gap, back, rfl, target⟩
      · rintro ⟨rest, split, gap, back, rfl, target⟩
        exact ⟨gap, back, split, rfl, target⟩

theorem callsAfter_cons_iff (first : Char) (front name : List Char) :
    CallsAfter inWord (letter :: letters) (first :: front) name ↔
      letter = first ∧ CallsAfter (isWord letter) letters front name := by
  simp only [CallsAfter, List.cons_append, List.cons.injEq, endsInWord]
  constructor
  · rintro ⟨gap, back, ⟨rfl, split⟩, begins, target⟩
    exact ⟨rfl, gap, back, split, begins, target⟩
  · rintro ⟨rfl, gap, back, split, begins, target⟩
    exact ⟨gap, back, ⟨rfl, split⟩, begins, target⟩

theorem not_callsAfter_nil (front name : List Char) : ¬CallsAfter inWord [] front name := by
  rintro ⟨gap, back, split, _⟩
  simp at split

def FirstCallAfter (inWord : Bool) (letters name : List Char) : Prop :=
  ∃ front, CallsAfter inWord letters front name ∧
    ∀ earlier other, CallsAfter inWord letters earlier other → front.length ≤ earlier.length

/-- No call is further to the left than one that stands at the very start. -/
theorem firstCallAfter_of_start {found : List Char} (begins : CallsAfter inWord letters [] found)
    (name : List Char) :
    FirstCallAfter inWord letters name ↔ CallsAfter inWord letters [] name := by
  constructor
  · rintro ⟨front, called, leftmost⟩
    have atFront := List.eq_nil_of_length_eq_zero (Nat.le_zero.mp (leftmost [] found begins))
    rwa [atFront] at called
  · intro called
    exact ⟨[], called, fun _ _ _ => Nat.zero_le _⟩

/-- If no call stands at the very start, then the leftmost is the leftmost of what is behind. -/
theorem firstCallAfter_cons_iff
    (later : ∀ other, ¬CallsAfter inWord (letter :: letters) [] other) (name : List Char) :
    FirstCallAfter inWord (letter :: letters) name ↔
      FirstCallAfter (isWord letter) letters name := by
  constructor
  · rintro ⟨front, called, leftmost⟩
    cases front with
    | nil => exact absurd called (later name)
    | cons first front =>
        refine ⟨front, ((callsAfter_cons_iff first front name).mp called).2, ?_⟩
        intro earlier other calledEarlier
        have longer := leftmost (letter :: earlier) other
          ((callsAfter_cons_iff letter earlier other).mpr ⟨rfl, calledEarlier⟩)
        exact Nat.le_of_succ_le_succ longer
  · rintro ⟨front, called, leftmost⟩
    refine ⟨letter :: front, (callsAfter_cons_iff letter front name).mpr ⟨rfl, called⟩, ?_⟩
    intro earlier other calledEarlier
    cases earlier with
    | nil => exact absurd calledEarlier (later other)
    | cons first earlier =>
        have behind := (callsAfter_cons_iff first earlier other).mp calledEarlier
        exact Nat.succ_le_succ (leftmost earlier other behind.2)

/-- The search stops at the leftmost call. -/
theorem writeCallAfter_eq_some_iff (inWord : Bool) (letters name : List Char) :
    writeCallAfter inWord letters = some name ↔ FirstCallAfter inWord letters name := by
  induction letters generalizing inWord with
  | nil => simp [writeCallAfter, FirstCallAfter, not_callsAfter_nil]
  | cons letter letters ih =>
      have starts := callsAfter_nil_iff inWord (letter :: letters)
      rw [writeCallAfter]
      cases here : (if inWord then none else
          (calledHere (letter :: letters)).filter isWriteProcedure) with
      | some found =>
          rw [firstCallAfter_of_start ((starts found).mpr here), starts, here]
      | none =>
          have later : ∀ other, ¬CallsAfter inWord (letter :: letters) [] other := by
            intro other called
            rw [starts, here] at called
            cases called
          rw [ih, firstCallAfter_cons_iff later]

theorem writeCallAfter_eq_none_iff (inWord : Bool) (letters : List Char) :
    writeCallAfter inWord letters = none ↔ ∀ front name, ¬CallsAfter inWord letters front name := by
  induction letters generalizing inWord with
  | nil => simp [writeCallAfter, not_callsAfter_nil]
  | cons letter letters ih =>
      have starts := callsAfter_nil_iff inWord (letter :: letters)
      rw [writeCallAfter]
      cases here : (if inWord then none else
          (calledHere (letter :: letters)).filter isWriteProcedure) with
      | some found =>
          refine iff_of_false (fun impossible => by cases impossible) ?_
          exact fun noCall => noCall [] found ((starts found).mpr here)
      | none =>
          rw [ih]
          constructor
          · intro noCall front name called
            cases front with
            | nil =>
                rw [starts, here] at called
                cases called
            | cons first front =>
                exact noCall front name ((callsAfter_cons_iff first front name).mp called).2
          · intro noCall front name called
            exact noCall (letter :: front) name
              ((callsAfter_cons_iff letter front name).mpr ⟨rfl, called⟩)

end

/-! ### The verdict -/

def NoKeyword (upper : List Char) : Prop :=
  ∀ keyword ∈ writeKeywords, ¬IsWordOf keyword.toList upper

/-- If anything is called, no procedure of the list is named. -/
def NoProcedure (upper : List Char) : Prop :=
  IsWordOf "CALL".toList upper → ∀ procedure ∈ writeProcedures, ¬procedure.toList <:+: upper

structure Silent (upper : List Char) : Prop where
  keywords : NoKeyword upper
  procedures : NoProcedure upper
  calls : ∀ front name, ¬Calls upper front name

def Begins (trimmed token : List Char) : Prop :=
  ∃ rest, trimmed = token ++ rest ∧ LeadingRun isTokenPart token rest

/-- What is to be said of a text in upper case: the first keyword of the list that is a word of
it; then the first procedure of the list that is named in it, if anything is called; then the
leftmost call that writes; then the token at its start, unless reading begins with it. -/
inductive Verdict (upper : List Char) : Except Rejection Unit → Prop where
  | keyword {keyword : String}
      (first : IsFirst writeKeywords (fun keyword => IsWordOf keyword.toList upper) keyword) :
      Verdict upper (.error (.ofKeyword keyword))
  | procedure {procedure : String} (keywords : NoKeyword upper)
      (called : IsWordOf "CALL".toList upper)
      (first : IsFirst writeProcedures (fun procedure => procedure.toList <:+: upper) procedure) :
      Verdict upper (.error (.ofProcedure procedure))
  | call {name : List Char} (keywords : NoKeyword upper) (procedures : NoProcedure upper)
      (first : FirstCall upper name) : Verdict upper (.error (.ofProcedure (String.ofList name)))
  | unreadable {token : List Char} (silent : Silent upper) (begins : Begins (trim upper) token)
      (unknown : String.ofList token ∉ readStarts) :
      Verdict upper (.error (.ofToken
        (String.ofList (if token = [] then (trim upper).take 20 else token)) readStarts))
  | accepted {token : List Char} (silent : Silent upper) (begins : Begins (trim upper) token)
      (known : String.ofList token ∈ readStarts) : Verdict upper (.ok ())

/-! ### What the searches find -/

private theorem hasWord_iff_of_plain {word : String}
    (plain : (!word.toList.isEmpty && word.toList.all isNamePart) = true) (upper : List Char) :
    hasWord word.toList upper = true ↔ IsWordOf word.toList upper := by
  obtain ⟨nonempty, parts⟩ := Bool.and_eq_true_iff.mp plain
  refine hasWord_iff (by simpa using nonempty) ?_ upper
  exact fun letter member => isWord_of_isNamePart (List.all_eq_true.mp parts letter member)

private theorem keyword_tests (upper : List Char) : ∀ keyword ∈ writeKeywords,
    hasWord keyword.toList upper = true ↔ IsWordOf keyword.toList upper := by
  intro keyword member
  have every : writeKeywords.all (fun keyword =>
      !keyword.toList.isEmpty && keyword.toList.all isNamePart) = true := by decide
  exact hasWord_iff_of_plain (List.all_eq_true.mp every keyword member) upper

theorem call_test (upper : List Char) :
    hasWord "CALL".toList upper = true ↔ IsWordOf "CALL".toList upper :=
  hasWord_iff_of_plain (by decide) upper

theorem procedure_tests (upper : List Char) : ∀ procedure ∈ writeProcedures,
    occurs procedure.toList upper = true ↔ procedure.toList <:+: upper := by
  intro procedure _
  rw [occurs_iff]
  exact exists₂_congr fun front back => eq_comm

theorem writeKeyword?_eq_some_iff (upper : List Char) (keyword : String) :
    writeKeyword? upper = some keyword ↔
      IsFirst writeKeywords (fun keyword => IsWordOf keyword.toList upper) keyword :=
  find?_eq_some_iff_isFirst (keyword_tests upper) keyword

theorem writeKeyword?_eq_none_iff (upper : List Char) :
    writeKeyword? upper = none ↔ NoKeyword upper :=
  find?_eq_none_iff_forall (keyword_tests upper)

theorem firstCall_iff (upper name : List Char) :
    writeCallAfter false upper = some name ↔ FirstCall upper name := by
  rw [writeCallAfter_eq_some_iff]
  simp only [FirstCall, FirstCallAfter, calls_iff]

theorem Calls.word {upper front name : List Char} (called : Calls upper front name) :
    IsWordOf "CALL".toList upper := by
  obtain ⟨gap, back, split, word, _⟩ := called
  exact ⟨front, gap ++ (name ++ back), split, word⟩

theorem writeProcedure?_eq_some_iff (upper : List Char) (found : String) :
    writeProcedure? upper = some found ↔
      (IsWordOf "CALL".toList upper ∧
        IsFirst writeProcedures (fun procedure => procedure.toList <:+: upper) found) ∨
      (NoProcedure upper ∧ ∃ name, FirstCall upper name ∧ String.ofList name = found) := by
  unfold writeProcedure?
  split
  · next stands =>
      have called := (call_test upper).mp stands
      cases listed : writeProcedures.find? (fun procedure => occurs procedure.toList upper) with
      | some procedure =>
          have first := (find?_eq_some_iff_isFirst (procedure_tests upper) procedure).mp listed
          have named : ¬NoProcedure upper := by
            obtain ⟨fits, before, after, split, _⟩ := first
            exact fun noOther => noOther called procedure (by simp [split]) fits
          simp only [called, true_and, named, false_and, or_false]
          rw [← listed]
          exact find?_eq_some_iff_isFirst (procedure_tests upper) found
      | none =>
          have unnamed := (find?_eq_none_iff_forall (procedure_tests upper)).mp listed
          have notFirst : ¬IsFirst writeProcedures (fun procedure => procedure.toList <:+: upper)
              found := by
            rintro ⟨fits, before, after, split, _⟩
            exact unnamed found (by simp [split]) fits
          have quiet : NoProcedure upper := fun _ => unnamed
          simp only [notFirst, and_false, false_or, quiet, true_and, Option.map_eq_some_iff,
            firstCall_iff]
  · next silent =>
      have uncalled : ¬IsWordOf "CALL".toList upper := fun word =>
        silent ((call_test upper).mpr word)
      have never : ∀ name, ¬FirstCall upper name := by
        rintro name ⟨front, called, _⟩
        exact uncalled called.word
      simp only [uncalled, never, false_and, and_false, exists_false, or_false, reduceCtorEq]

private theorem writeProcedure?_eq_none_iff_silent (upper : List Char) :
    writeProcedure? upper = none ↔
      NoProcedure upper ∧ ∀ front name, ¬Calls upper front name := by
  have names : (∀ procedure ∈ writeProcedures, occurs procedure.toList upper = false) ↔
      ∀ procedure ∈ writeProcedures, ¬procedure.toList <:+: upper := by
    refine forall₂_congr fun procedure member => ?_
    rw [← procedure_tests upper procedure member, Bool.not_eq_true]
  rw [writeProcedure?_eq_none_iff, call_test, names, writeCallAfter_eq_none_iff]
  simp only [← calls_iff]
  constructor
  · intro both
    exact ⟨fun called => (both called).1,
      fun front name called => (both called.word).2 front name called⟩
  · exact fun both called => ⟨both.1 called, both.2⟩

/-! ### The token at the start -/

private theorem begins_startToken (upper : List Char) : Begins (trim upper) (startToken upper) := by
  rw [← takeWhile_trim]
  exact ⟨_, List.takeWhile_append_dropWhile.symm, leadingRun_takeWhile _ _⟩

theorem Begins.eq_startToken {upper token : List Char} (begins : Begins (trim upper) token) :
    token = startToken upper := by
  obtain ⟨rest, split, run⟩ := begins
  rw [← takeWhile_trim, split, run.takeWhile_eq]

private theorem firstToken_eq (upper : List Char) :
    firstToken upper =
      if startToken upper = [] then (trim upper).take 20 else startToken upper := by
  simp only [firstToken, takeWhile_trim, List.isEmpty_iff]

/-! ### The check and the verdict -/

def outcome (upper : List Char) : Except Rejection Unit :=
  match refusal? upper with
  | some rejection => .error rejection
  | none => .ok ()

theorem Silent.refusal?_eq {upper : List Char} (silent : Silent upper) :
    refusal? upper =
      if String.ofList (startToken upper) ∈ readStarts then none
      else some (.ofToken (String.ofList (firstToken upper)) readStarts) := by
  rw [refusal?, (writeKeyword?_eq_none_iff upper).mpr silent.keywords,
    (writeProcedure?_eq_none_iff_silent upper).mpr ⟨silent.procedures, silent.calls⟩]
  simp only [readStarts_firstToken, List.contains_iff_mem]

private theorem verdict_outcome (upper : List Char) : Verdict upper (outcome upper) := by
  cases keyword : writeKeyword? upper with
  | some found =>
      rw [outcome, refusal?, keyword]
      exact .keyword ((writeKeyword?_eq_some_iff upper found).mp keyword)
  | none =>
      have keywords := (writeKeyword?_eq_none_iff upper).mp keyword
      cases procedure : writeProcedure? upper with
      | some found =>
          rw [outcome, refusal?, keyword, procedure]
          rcases (writeProcedure?_eq_some_iff upper found).mp procedure with
            ⟨called, first⟩ | ⟨procedures, name, first, rfl⟩
          · exact .procedure keywords called first
          · exact .call keywords procedures first
      | none =>
          obtain ⟨procedures, calls⟩ := (writeProcedure?_eq_none_iff_silent upper).mp procedure
          have silent : Silent upper := ⟨keywords, procedures, calls⟩
          have begins := begins_startToken upper
          rw [outcome, silent.refusal?_eq]
          by_cases known : String.ofList (startToken upper) ∈ readStarts
          · rw [if_pos known]
            exact .accepted silent begins known
          · rw [if_neg known, firstToken_eq]
            exact .unreadable silent begins known

private theorem Verdict.outcome_eq {upper : List Char} {result : Except Rejection Unit}
    (verdict : Verdict upper result) : outcome upper = result := by
  unfold outcome
  cases verdict with
  | @keyword keyword first =>
      rw [refusal?, (writeKeyword?_eq_some_iff upper keyword).mpr first]
  | @procedure procedure keywords called first =>
      have found := (writeProcedure?_eq_some_iff upper procedure).mpr (.inl ⟨called, first⟩)
      rw [refusal?, (writeKeyword?_eq_none_iff upper).mpr keywords, found]
  | @call name keywords procedures first =>
      have found := (writeProcedure?_eq_some_iff upper (String.ofList name)).mpr
        (.inr ⟨procedures, name, first, rfl⟩)
      rw [refusal?, (writeKeyword?_eq_none_iff upper).mpr keywords, found]
  | @unreadable token silent begins unknown =>
      rw [begins.eq_startToken] at unknown ⊢
      rw [silent.refusal?_eq, if_neg unknown, firstToken_eq]
  | @accepted token silent begins known =>
      rw [begins.eq_startToken] at known
      rw [silent.refusal?_eq, if_pos known]

/-- The check comes to exactly what is to be said of the text of the query in upper case. -/
theorem check_eq_iff_verdict (query : Query) (result : Except Rejection Unit) :
    check query = result ↔ Verdict (upper query.text.toList) result := by
  change outcome (upper query.text.toList) = result ↔ _
  constructor
  · rintro rfl
    exact verdict_outcome _
  · exact Verdict.outcome_eq

end Mutation

end QueryWarden
