/-
What the read-only check says of a text that something is put behind. A text in upper case
is read-only when four things hold, and each of them is the same for the text with an inert
part behind it: a part that begins outside words, spells nothing that is refused and is no
procedure to call.
-/

import QueryWarden.Proofs.Condition.Names
import QueryWarden.Proofs.Text.Searching
import QueryWarden.Query.Mutation

namespace QueryWarden

open Text

namespace Mutation

/-! ### Letters of words and procedures -/

private theorem isNamePart_of_isTokenPart {letter : Char} (part : isTokenPart letter = true) :
    isNamePart letter = true := by
  rcases Bool.or_eq_true_iff.mp part with upper | line
  · exact isNamePart_of_isUpper upper
  · exact Bool.or_eq_true_iff.mpr (Or.inr line)

theorem isNamePart_of_isProcedurePart {letter : Char} (part : isProcedurePart letter = true) :
    isNamePart letter = true ∨ letter = '.' := by
  rcases Bool.or_eq_true_iff.mp part with part | point
  · rcases Bool.or_eq_true_iff.mp part with part | line
    · rcases Bool.or_eq_true_iff.mp part with upper | digit
      · exact Or.inl (isNamePart_of_isUpper upper)
      · exact Or.inl (isNamePart_of_isDigit digit)
    · exact Or.inl (Bool.or_eq_true_iff.mpr (Or.inr line))
  · exact Or.inr (eq_of_beq point)

def isOutside (letter : Char) : Bool :=
  isBlank letter || letter == ';'

theorem isWord_of_isOutside {letter : Char} (outside : isOutside letter = true) :
    isWord letter = false := by
  rcases Bool.or_eq_true_iff.mp outside with blank | semicolon
  · exact isWord_of_isBlank blank
  · rw [eq_of_beq semicolon]
    decide +kernel

theorem isTokenPart_of_isOutside {letter : Char} (outside : isOutside letter = true) :
    isTokenPart letter = false := by
  refine Bool.eq_false_iff.mpr (fun part => ?_)
  have word := isWord_of_isNamePart (isNamePart_of_isTokenPart part)
  rw [isWord_of_isOutside outside] at word
  cases word

theorem isProcedurePart_of_isOutside {letter : Char} (outside : isOutside letter = true) :
    isProcedurePart letter = false := by
  refine Bool.eq_false_iff.mpr (fun part => ?_)
  rcases isNamePart_of_isProcedurePart part with name | point
  · have word := isWord_of_isNamePart name
    rw [isWord_of_isOutside outside] at word
    cases word
  · rw [point] at outside
    revert outside
    decide

theorem not_mem_of_isOutside {letter : Char} (outside : isOutside letter = true)
    {word : List Char} (spelled : word.all isProcedurePart = true) : letter ∉ word := by
  intro member
  have part := List.all_eq_true.mp spelled letter member
  rw [isProcedurePart_of_isOutside outside] at part
  cases part

/-! ### The words that are refused -/

def tellingLetters : List Char :=
  "CDGSV".toList

def isTelling (word : String) : Bool :=
  word.toList.all isProcedurePart && word.toList.any tellingLetters.contains

theorem isTelling_of_mem_writeKeywords {keyword : String} (member : keyword ∈ writeKeywords) :
    isTelling keyword = true := by
  have every : writeKeywords.all isTelling = true := by decide
  exact List.all_eq_true.mp every keyword member

theorem isTelling_of_mem_writeProcedures {procedure : String}
    (member : procedure ∈ writeProcedures) : isTelling procedure = true := by
  have every : writeProcedures.all isTelling = true := by decide
  exact List.all_eq_true.mp every procedure member

theorem isTelling_call : isTelling "CALL" = true := by decide

theorem ne_nil_of_isTelling {word : String} (telling : isTelling word = true) :
    word.toList ≠ [] := by
  intro empty
  unfold isTelling at telling
  rw [empty] at telling
  cases telling

/-! ### What makes a text read-only -/

def startToken (upper : List Char) : List Char :=
  (dropBlanks upper).takeWhile isTokenPart

structure IsReadOnly (upper : List Char) : Prop where
  keywords : ∀ keyword ∈ writeKeywords, hasWord keyword.toList upper = false
  procedures : hasWord "CALL".toList upper = true →
    ∀ procedure ∈ writeProcedures, occurs procedure.toList upper = false
  calls : hasWord "CALL".toList upper = true → writeCallAfter false upper = none
  start : readStarts.contains (String.ofList (startToken upper)) = true

theorem takeWhile_trim (upper : List Char) :
    (trim upper).takeWhile isTokenPart = startToken upper := by
  obtain ⟨cut, same, blank⟩ := exists_dropRightWhile isBlank (dropBlanks upper)
  unfold startToken
  rw [same]
  refine (takeWhile_append_of_head? _ ?_).symm
  intro letter first
  have outside := blank letter (List.mem_of_head? first)
  exact isTokenPart_of_isOutside (Bool.or_eq_true_iff.mpr (Or.inl outside))

private theorem readStarts_head? :
    readStarts.all (fun start => start.toList.head?.any isTokenPart) = true := by decide

/-- The twenty letters that stand for a missing token are no token at which reading starts. -/
theorem readStarts_firstToken (upper : List Char) :
    readStarts.contains (String.ofList (firstToken upper)) =
      readStarts.contains (String.ofList (startToken upper)) := by
  unfold firstToken
  simp only [takeWhile_trim]
  cases token : startToken upper with
  | cons letter rest => rfl
  | nil =>
      rw [if_pos List.isEmpty_nil]
      have nothing : readStarts.contains (String.ofList []) = false := by decide
      rw [nothing]
      refine Bool.eq_false_iff.mpr (fun found => ?_)
      have starts := List.all_eq_true.mp readStarts_head? _ (List.contains_iff_mem.mp found)
      rw [String.toList_ofList] at starts
      have stopped := takeWhile_trim upper
      rw [token] at stopped
      cases trimmed : trim upper with
      | nil =>
          rw [trimmed] at starts
          cases starts
      | cons letter rest =>
          rw [trimmed] at starts stopped
          rw [List.takeWhile_cons] at stopped
          have part : isTokenPart letter = true := starts
          rw [part] at stopped
          cases stopped

theorem writeProcedure?_eq_none_iff (upper : List Char) :
    writeProcedure? upper = none ↔
      (hasWord "CALL".toList upper = true →
        (∀ procedure ∈ writeProcedures, occurs procedure.toList upper = false) ∧
          writeCallAfter false upper = none) := by
  unfold writeProcedure?
  cases called : hasWord "CALL".toList upper with
  | false => exact iff_of_true rfl (fun impossible => by cases impossible)
  | true =>
      simp only [if_true, forall_const]
      cases found : writeProcedures.find? (fun procedure => occurs procedure.toList upper) with
      | some procedure =>
          refine iff_of_false (fun impossible => by cases impossible) ?_
          rintro ⟨noneOccurs, _⟩
          have occurs := List.find?_some found
          rw [noneOccurs procedure (List.mem_of_find?_eq_some found)] at occurs
          cases occurs
      | none =>
          have noneOccurs := List.find?_eq_none.mp found
          simp only [Option.map_eq_none_iff]
          constructor
          · intro calls
            exact ⟨fun procedure member => Bool.eq_false_iff.mpr (noneOccurs procedure member), calls⟩
          · exact And.right

/-- The check refuses nothing but texts that are not read-only. -/
theorem refusal?_eq_none_iff (upper : List Char) :
    refusal? upper = none ↔ IsReadOnly upper := by
  unfold refusal?
  cases keyword : writeKeyword? upper with
  | some keyword =>
      refine iff_of_false (fun impossible => by cases impossible) ?_
      intro readOnly
      have stands := List.find?_some keyword
      rw [readOnly.keywords _ (List.mem_of_find?_eq_some keyword)] at stands
      cases stands
  | none =>
      have keywords := List.find?_eq_none.mp keyword
      cases procedure : writeProcedure? upper with
      | some name =>
          refine iff_of_false (fun impossible => by cases impossible) ?_
          intro readOnly
          rw [(writeProcedure?_eq_none_iff upper).mpr
            (fun called => ⟨readOnly.procedures called, readOnly.calls called⟩)] at procedure
          cases procedure
      | none =>
          have procedures := (writeProcedure?_eq_none_iff upper).mp procedure
          simp only [readStarts_firstToken]
          constructor
          · intro accepted
            refine ⟨fun keyword member => Bool.eq_false_iff.mpr (keywords keyword member),
              fun called => (procedures called).1, fun called => (procedures called).2, ?_⟩
            split at accepted
            · assumption
            · cases accepted
          · intro readOnly
            rw [readOnly.start]
            rfl

theorem check_eq_ok_iff (query : Query) :
    check query = .ok () ↔ IsReadOnly (upper query.text.toList) := by
  rw [← refusal?_eq_none_iff]
  unfold check
  cases refusal? (upper query.text.toList) with
  | some rejection => simp only [reduceCtorEq]
  | none => exact iff_of_true rfl rfl

/-! ### Texts alike -/

structure Alike (left right : List Char) : Prop where
  words : ∀ word, isTelling word = true → hasWord word.toList left = hasWord word.toList right
  names : ∀ word, isTelling word = true → occurs word.toList left = occurs word.toList right
  calls : writeCallAfter false left = writeCallAfter false right
  start : readStarts.contains (String.ofList (startToken left)) =
    readStarts.contains (String.ofList (startToken right))

theorem Alike.symm {left right : List Char} (alike : Alike left right) : Alike right left where
  words := fun word telling => (alike.words word telling).symm
  names := fun word telling => (alike.names word telling).symm
  calls := alike.calls.symm
  start := alike.start.symm

theorem Alike.isReadOnly {left right : List Char} (alike : Alike left right)
    (readOnly : IsReadOnly left) : IsReadOnly right where
  keywords := by
    intro keyword member
    rw [← alike.words keyword (isTelling_of_mem_writeKeywords member)]
    exact readOnly.keywords keyword member
  procedures := by
    intro called procedure member
    rw [← alike.words _ isTelling_call] at called
    rw [← alike.names procedure (isTelling_of_mem_writeProcedures member)]
    exact readOnly.procedures called procedure member
  calls := by
    intro called
    rw [← alike.words _ isTelling_call] at called
    rw [← alike.calls]
    exact readOnly.calls called
  start := by
    rw [← alike.start]
    exact readOnly.start

/-! ### Inert parts -/

/-- A part that can stand behind a text without a say in whether it is read-only. -/
structure Inert (tail : List Char) : Prop where
  opens : ∀ letter ∈ tail.head?, isOutside letter = true
  silent : ∀ letter ∈ tail, letter ∉ tellingLetters
  target : isWriteProcedure ((dropBlanks tail).takeWhile isProcedurePart) = false
  start : readStarts.contains (String.ofList (startToken tail)) = false

variable {tail : List Char}

theorem Inert.exists_telling (inert : Inert tail) {word : String}
    (telling : isTelling word = true) : ∃ letter ∈ word.toList, letter ∉ tail := by
  obtain ⟨letter, member, tells⟩ :=
    List.any_eq_true.mp (Bool.and_eq_true_iff.mp telling).2
  exact ⟨letter, member, fun within => inert.silent letter within (List.contains_iff_mem.mp tells)⟩

theorem Inert.parted (inert : Inert tail) {word : String} (telling : isTelling word = true) :
    Parted word.toList tail :=
  fun letter first =>
    not_mem_of_isOutside (inert.opens letter first) (Bool.and_eq_true_iff.mp telling).1

theorem Inert.startsOutsideWord (inert : Inert tail) : startsOutsideWord tail = true := by
  cases tail with
  | nil => rfl
  | cons letter tail =>
      have word := isWord_of_isOutside (inert.opens letter rfl)
      rw [Text.startsOutsideWord, word]
      rfl

theorem Inert.hasWord_append (inert : Inert tail) {word : String}
    (telling : isTelling word = true) (letters : List Char) :
    hasWord word.toList (letters ++ tail) = hasWord word.toList letters := by
  obtain ⟨letter, member, foreign⟩ := inert.exists_telling telling
  rw [Text.hasWord_append (ne_nil_of_isTelling telling) (inert.parted telling)
    inert.startsOutsideWord, hasWord_eq_false_of_not_mem member foreign, Bool.or_false]

theorem Inert.occurs_append (inert : Inert tail) {word : String}
    (telling : isTelling word = true) (letters : List Char) :
    occurs word.toList (letters ++ tail) = occurs word.toList letters := by
  obtain ⟨letter, member, foreign⟩ := inert.exists_telling telling
  rw [Text.occurs_append (ne_nil_of_isTelling telling) (inert.parted telling),
    occurs_eq_false_of_not_mem member foreign, Bool.or_false]

/-! ### Calls with an inert part behind them -/

def writeTarget? : List Char → Option (List Char)
  | [] => none
  | letter :: rest =>
      if isBlank letter then
        (some ((dropBlanks (letter :: rest)).takeWhile isProcedurePart)).filter isWriteProcedure
      else none

theorem filter_calledHere (letters : List Char) :
    (calledHere letters).filter isWriteProcedure =
      (after? "CALL".toList letters).bind writeTarget? := by
  unfold calledHere
  cases after? "CALL".toList letters with
  | none => rfl
  | some rest =>
      cases rest with
      | nil => rfl
      | cons letter rest =>
          simp only [Option.bind_some, writeTarget?]
          split
          · rfl
          · rfl

private theorem filter_isWriteProcedure_eq_none {name : List Char}
    (harmless : isWriteProcedure name = false) :
    (some name).filter isWriteProcedure = none := by
  rw [Option.filter_some, harmless]
  rfl

theorem Inert.writeTarget?_append (inert : Inert tail) (rest : List Char) :
    writeTarget? (rest ++ tail) = writeTarget? rest := by
  have stops : ∀ letter ∈ tail.head?, isProcedurePart letter = false :=
    fun letter first => isProcedurePart_of_isOutside (inert.opens letter first)
  have target := filter_isWriteProcedure_eq_none inert.target
  cases rest with
  | nil =>
      cases tail with
      | nil => rfl
      | cons letter tail =>
          rw [List.nil_append, writeTarget?, writeTarget?, target]
          split
          · rfl
          · rfl
  | cons letter rest =>
      rw [List.cons_append, writeTarget?, writeTarget?, ← List.cons_append, dropBlanks_append]
      by_cases blank : dropBlanks (letter :: rest) = []
      · have nothing := filter_isWriteProcedure_eq_none (rfl : isWriteProcedure [] = false)
        rw [if_pos blank, blank, target, List.takeWhile_nil, nothing]
      · rw [if_neg blank, takeWhile_append_of_head? _ stops]

theorem Inert.filter_calledHere_append (inert : Inert tail) (letters : List Char) :
    (calledHere (letters ++ tail)).filter isWriteProcedure =
      (calledHere letters).filter isWriteProcedure := by
  rw [filter_calledHere, filter_calledHere, after?_append (inert.parted isTelling_call)]
  cases after? "CALL".toList letters with
  | none => rfl
  | some rest => exact inert.writeTarget?_append rest

private theorem writeCallAfter_eq_none {letters : List Char}
    (silent : occurs "CALL".toList letters = false) (inWord : Bool) :
    writeCallAfter inWord letters = none := by
  induction letters generalizing inWord with
  | nil => rfl
  | cons letter letters ih =>
      rw [occurs, Bool.or_eq_false_iff] at silent
      have nothing : after? "CALL".toList (letter :: letters) = none :=
        Option.isNone_iff_eq_none.mp (Option.isSome_eq_false_iff.mp silent.1)
      rw [writeCallAfter, filter_calledHere, nothing, ih silent.2]
      cases inWord <;> rfl

theorem Inert.writeCallAfter_append (inert : Inert tail) (inWord : Bool) (letters : List Char) :
    writeCallAfter inWord (letters ++ tail) = writeCallAfter inWord letters := by
  induction letters generalizing inWord with
  | nil =>
      obtain ⟨letter, member, foreign⟩ := inert.exists_telling isTelling_call
      exact writeCallAfter_eq_none (occurs_eq_false_of_not_mem member foreign) inWord
  | cons letter letters ih =>
      rw [List.cons_append, writeCallAfter, writeCallAfter, ih, ← List.cons_append,
        inert.filter_calledHere_append]

/-! ### Texts with an inert part behind them -/

theorem Inert.readStarts_append (inert : Inert tail) (letters : List Char) :
    readStarts.contains (String.ofList (startToken (letters ++ tail))) =
      readStarts.contains (String.ofList (startToken letters)) := by
  unfold startToken
  rw [dropBlanks_append]
  by_cases blank : dropBlanks letters = []
  · have nothing : readStarts.contains (String.ofList []) = false := by decide
    have start := inert.start
    unfold startToken at start
    rw [if_pos blank, blank, start, List.takeWhile_nil, nothing]
  · rw [if_neg blank, takeWhile_append_of_head? _ (fun letter first =>
      isTokenPart_of_isOutside (inert.opens letter first))]

theorem Inert.alike (inert : Inert tail) (letters : List Char) :
    Alike (letters ++ tail) letters where
  words := fun _ telling => inert.hasWord_append telling letters
  names := fun _ telling => inert.occurs_append telling letters
  calls := inert.writeCallAfter_append false letters
  start := inert.readStarts_append letters

/-! ### Texts with blanks before them -/

theorem not_mem_of_isBlank {letter : Char} (blank : isBlank letter = true) {word : String}
    (telling : isTelling word = true) : letter ∉ word.toList :=
  not_mem_of_isOutside (Bool.or_eq_true_iff.mpr (Or.inl blank))
    (Bool.and_eq_true_iff.mp telling).1

theorem writeCallAfter_blanks_append {blanks : List Char}
    (blank : ∀ letter ∈ blanks, isBlank letter = true) (letters : List Char) :
    writeCallAfter false (blanks ++ letters) = writeCallAfter false letters := by
  induction blanks with
  | nil => rfl
  | cons letter blanks ih =>
      have here := blank letter List.mem_cons_self
      have parted : Parted "CALL".toList (letter :: (blanks ++ letters)) := by
        intro first same
        cases same
        exact not_mem_of_isBlank here isTelling_call
      rw [List.cons_append, writeCallAfter, filter_calledHere,
        parted.after?_eq_none (ne_nil_of_isTelling isTelling_call), isWord_of_isBlank here]
      exact ih (fun other member => blank other (List.mem_cons_of_mem letter member))

theorem alike_blanks_append {blanks : List Char}
    (blank : ∀ letter ∈ blanks, isBlank letter = true) (letters : List Char) :
    Alike (blanks ++ letters) letters where
  words := fun _ telling => hasWord_foreign_append (ne_nil_of_isTelling telling)
    (fun letter member =>
      ⟨isWord_of_isBlank (blank letter member), not_mem_of_isBlank (blank letter member) telling⟩)
    letters
  names := fun _ telling => occurs_foreign_append (ne_nil_of_isTelling telling)
    (fun letter member => not_mem_of_isBlank (blank letter member) telling) letters
  calls := writeCallAfter_blanks_append blank letters
  start := by
    unfold startToken
    rw [dropBlanks_blanks_append blank]

end Mutation

end QueryWarden
