/-
What the checks of a query see of its layout. The search for what writes looks for words, names of
procedures and a first token, the scan of patterns for names between marks. None of them looks at
more of a run of blanks than that it is there, so that each finds in a text what it finds in the
text with every run squeezed into one space.
-/

import Mathlib.Data.List.Find
import QueryWarden.Proofs.Query.Pattern
import QueryWarden.Proofs.Query.ReadOnly
import QueryWarden.Proofs.Text.Layout

namespace QueryWarden

open Text

namespace Mutation

/-! ### What writes -/

theorem isOutside_of_isBlank {letter : Char} (blank : isBlank letter = true) :
    isOutside letter = true :=
  Bool.or_eq_true_iff.mpr (Or.inl blank)

theorem noBlank_of_isTelling {word : String} (telling : isTelling word = true) :
    ∀ letter ∈ word.toList, isBlank letter = false := by
  intro letter member
  obtain ⟨spelled, _⟩ := Bool.and_eq_true_iff.mp telling
  cases blank : isBlank letter with
  | false => rfl
  | true => exact (not_mem_of_isOutside (isOutside_of_isBlank blank) spelled member).elim

theorem writeKeyword?_squeeze (upper : List Char) :
    writeKeyword? (squeeze upper) = writeKeyword? upper := by
  apply List.find?_congr
  intro keyword member
  have telling := isTelling_of_mem_writeKeywords member
  exact hasWord_squeeze (noBlank_of_isTelling telling) (ne_nil_of_isTelling telling) upper

private theorem calledHere_blank {letter : Char} (blank : isBlank letter = true)
    (letters : List Char) :
    calledHere (letter :: letters) = none := by
  have noBlank := noBlank_of_isTelling isTelling_call
  have absent : after? "CALL".toList (letter :: letters) = none := by
    apply Parted.after?_eq_none _ (ne_nil_of_isTelling isTelling_call)
    rintro _ ⟨⟩
    exact ne_of_isBlank noBlank blank
  rw [calledHere, absent]

private theorem calledHere_squeeze (letters : List Char) :
    calledHere (squeeze letters) = calledHere letters := by
  have part : ∀ letter, isBlank letter = true → isProcedurePart letter = false :=
    fun letter blank => isProcedurePart_of_isOutside (isOutside_of_isBlank blank)
  unfold calledHere
  rw [after?_squeeze (noBlank_of_isTelling isTelling_call)]
  cases after? "CALL".toList letters with
  | none => rfl
  | some rest =>
      cases rest with
      | nil => rfl
      | cons letter rest =>
          cases blank : isBlank letter with
          | false =>
              rw [Option.map_some, squeeze_letter blank]
              dsimp only
              rw [blank]
              rfl
          | true =>
              have behind := dropBlanks_squeeze (letter :: rest)
              rw [squeeze_blank blank] at behind
              rw [Option.map_some, squeeze_blank blank]
              dsimp only
              rw [behind, takeWhile_squeeze part, if_pos isBlank_space, if_pos blank]

/-- A text that goes on with blanks is searched from behind a blank, where no word is open. -/
theorem writeCallAfter_squeezeAfter {inRun inWord : Bool} (outside : inRun = true → inWord = false)
    (letters : List Char) :
    writeCallAfter inWord (squeezeAfter inRun letters) = writeCallAfter inWord letters := by
  induction letters generalizing inRun inWord with
  | nil => rfl
  | cons letter letters ih =>
      cases blank : isBlank letter with
      | true =>
          have skipped : ∀ other rest, isBlank other = true →
              writeCallAfter inWord (other :: rest) = writeCallAfter false rest := by
            intro other rest otherBlank
            rw [writeCallAfter, calledHere_blank otherBlank, isWord_of_isBlank otherBlank]
            cases inWord with
            | true => rfl
            | false => rfl
          have blankBefore : true = true → false = false := fun _ => rfl
          have later := ih blankBefore
          rw [skipped letter letters blank, ← later]
          cases inRun with
          | true => rw [squeezeAfter_true_blank blank, outside rfl]
          | false =>
              change writeCallAfter inWord (squeeze (letter :: letters)) = _
              rw [squeeze_blank blank, skipped ' ' _ isBlank_space]
      | false =>
          have here := calledHere_squeeze (letter :: letters)
          rw [squeeze_letter blank] at here
          have noneBefore : false = true → isWord letter = false :=
            fun run => absurd run Bool.false_ne_true
          have later := ih noneBefore
          rw [squeezeAfter_letter blank, writeCallAfter, writeCallAfter, here, squeeze, later]

theorem writeProcedure?_squeeze (upper : List Char) :
    writeProcedure? (squeeze upper) = writeProcedure? upper := by
  have called := hasWord_squeeze (noBlank_of_isTelling isTelling_call)
    (ne_nil_of_isTelling isTelling_call) upper
  have occurring : writeProcedures.find? (fun procedure =>
      occurs procedure.toList (squeeze upper)) =
        writeProcedures.find? (fun procedure => occurs procedure.toList upper) := by
    apply List.find?_congr
    intro procedure member
    have telling := isTelling_of_mem_writeProcedures member
    exact occurs_squeeze (noBlank_of_isTelling telling) (ne_nil_of_isTelling telling) upper
  have noneBefore : false = true → false = false := fun _ => rfl
  rw [writeProcedure?, writeProcedure?, called, occurring, squeeze,
    writeCallAfter_squeezeAfter noneBefore]

theorem startToken_squeeze (upper : List Char) : startToken (squeeze upper) = startToken upper := by
  have part : ∀ letter, isBlank letter = true → isTokenPart letter = false :=
    fun letter blank => isTokenPart_of_isOutside (isOutside_of_isBlank blank)
  rw [startToken, startToken, dropBlanks_squeeze, takeWhile_squeeze part]

end Mutation

namespace Pattern

/-! ### Names in patterns -/

theorem isBlank_of_dropBlanks {letters rest : List Char} {letter : Char}
    (shape : dropBlanks letters = letter :: rest) : isBlank letter = false := by
  apply (leadingRun_takeWhile isBlank letters).stops letter
  change letter ∈ (dropBlanks letters).head?
  rw [shape]
  rfl

private theorem labelSeparator_squeeze (letters : List Char) :
    labelSeparator (squeeze letters) = (labelSeparator letters).map squeeze := by
  unfold labelSeparator
  rw [dropBlanks_squeeze]
  cases shape : dropBlanks letters with
  | nil => rfl
  | cons letter rest =>
      rw [squeeze_letter (isBlank_of_dropBlanks shape)]
      dsimp only
      rw [dropBlanks_squeeze]
      split
      · rfl
      · rfl

private theorem typeSeparator_squeeze (letters : List Char) :
    typeSeparator (squeeze letters) = (typeSeparator letters).map squeeze := by
  unfold typeSeparator
  rw [dropBlanks_squeeze]
  cases shape : dropBlanks letters with
  | nil => rfl
  | cons letter rest =>
      rw [squeeze_letter (isBlank_of_dropBlanks shape)]
      by_cases bar : letter = '|'
      · subst bar
        simp only [dropBlanks_squeeze]
        cases inner : dropBlanks rest with
        | nil => rfl
        | cons next behind =>
            rw [squeeze_letter (isBlank_of_dropBlanks inner)]
            by_cases colon : next = ':'
            · subst colon
              simp only [dropBlanks_squeeze, Option.map_some]
            · simp [colon, squeeze_letter (isBlank_of_dropBlanks inner)]
      · simp [bar]

private theorem separator_squeeze (kind : Kind) (letters : List Char) :
    kind.separator (squeeze letters) = (kind.separator letters).map squeeze := by
  cases kind with
  | node => exact labelSeparator_squeeze letters
  | relationship => exact typeSeparator_squeeze letters

/-- Each further name is shorter than the text, and what stands behind it is squeezed too. -/
theorem moreNames_squeeze (kind : Kind) (letters : List Char) :
    moreNames kind (squeeze letters) = moreNames kind letters := by
  induction size : letters.length using Nat.strong_induction_on generalizing letters with
  | _ size ih =>
      rw [moreNames_eq, moreNames_eq, separator_squeeze]
      cases separated : kind.separator letters with
      | none => rfl
      | some rest =>
          rw [Option.map_some]
          dsimp only
          rw [takeName_squeeze]
          cases named : takeName rest with
          | none => rfl
          | some found =>
              have bound := Kind.separator_length_le separated
              have shorter := takeName_shorter named
              rw [Option.map_some]
              dsimp only
              rw [ih found.2.length (by omega) found.2 rfl]

private theorem skipVariable_squeeze (letters : List Char) :
    skipVariable (squeeze letters) = squeeze (skipVariable letters) := by
  unfold skipVariable
  rw [takeName_squeeze]
  cases takeName letters with
  | none => rfl
  | some found => rfl

private theorem namesHere_squeezeAfter (kind : Kind) (inRun : Bool) (letters : List Char) :
    namesHere kind (squeezeAfter inRun letters) = namesHere kind letters := by
  unfold namesHere
  rw [dropBlanks_squeezeAfter, skipVariable_squeeze, dropBlanks_squeeze]
  cases shape : dropBlanks (skipVariable (dropBlanks letters)) with
  | nil => rfl
  | cons letter rest =>
      rw [squeeze_letter (isBlank_of_dropBlanks shape)]
      by_cases colon : letter = ':'
      · subst colon
        simp only [dropBlanks_squeeze, takeName_squeeze]
        cases takeName (dropBlanks rest) with
        | none => rfl
        | some found =>
            rw [Option.map_some]
            dsimp only
            rw [moreNames_squeeze]
      · simp [colon]

private theorem isBlank_opening (kind : Kind) : isBlank kind.opening = false := by
  cases kind <;> decide

private theorem names_squeezeAfter (kind : Kind) (inRun : Bool) (letters : List Char) :
    names kind (squeezeAfter inRun letters) = names kind letters := by
  have skipped : ∀ other rest, isBlank other = true → names kind (other :: rest) = names kind rest := by
    intro other rest blank
    have noOpening : other ≠ kind.opening := by
      rintro rfl
      rw [isBlank_opening] at blank
      cases blank
    rw [names, if_neg noOpening, List.nil_append]
  induction letters generalizing inRun with
  | nil => rfl
  | cons letter letters ih =>
      cases blank : isBlank letter with
      | true =>
          rw [skipped letter letters blank, ← ih true]
          cases inRun with
          | true => rw [squeezeAfter_true_blank blank]
          | false =>
              change names kind (squeeze (letter :: letters)) = _
              rw [squeeze_blank blank, skipped ' ' _ isBlank_space]
      | false =>
          rw [squeezeAfter_letter blank, names, names, squeeze, ih, namesHere_squeezeAfter]

theorem names_squeeze (kind : Kind) (letters : List Char) :
    names kind (squeeze letters) = names kind letters :=
  names_squeezeAfter kind false letters

end Pattern

end QueryWarden
