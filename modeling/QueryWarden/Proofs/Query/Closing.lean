/-
How the text before an injected limit ends. Semicolons are cut off the end of a query only, and
those of its copy without comments are looked behind only once, so that a limit is put behind a
semicolon, or behind another limit, if a blank or a comment follows a semicolon. Where the query
closes with blanks and comments first and semicolons last, this cannot happen.
-/

import Mathlib.Data.List.Induction
import QueryWarden.Proofs.Query.Copy
import QueryWarden.Proofs.Query.RowLimit
import QueryWarden.Proofs.Text.Words

namespace QueryWarden

open Text

/-! ### Cutting the end off -/

namespace Text

variable {chosen : Char → Bool}

private theorem getLast?_dropRightWhile (chosen : Char → Bool) (letters : List Char) :
    ∀ last ∈ (dropRightWhile chosen letters).getLast?, chosen last = false := by
  unfold dropRightWhile
  rw [List.getLast?_reverse]
  exact (leadingRun_takeWhile chosen letters.reverse).stops

theorem dropRightWhile_append {kept cut : List Char} (inCut : ∀ letter ∈ cut, chosen letter = true)
    (stays : ∀ last ∈ kept.getLast?, chosen last = false) :
    dropRightWhile chosen (kept ++ cut) = kept := by
  have backwards : LeadingRun chosen cut.reverse kept.reverse := by
    constructor
    · exact fun letter member => inCut letter (List.mem_reverse.mp member)
    · rw [List.head?_reverse]
      exact stays
  unfold dropRightWhile
  rw [List.reverse_append, backwards.dropWhile_eq, List.reverse_reverse]

theorem dropRightWhile_eq_self {kept : List Char}
    (stays : ∀ last ∈ kept.getLast?, chosen last = false) : dropRightWhile chosen kept = kept := by
  have uncut : dropRightWhile chosen (kept ++ []) = kept := dropRightWhile_append nofun stays
  rwa [List.append_nil] at uncut

end Text

namespace RowLimit

/-! ### Ends of statements -/

/-- A semicolon stands at the end, apart from blanks. -/
def EndsStatement (letters : List Char) : Prop :=
  ∃ front blanks, letters = front ++ ';' :: blanks ∧ ∀ letter ∈ blanks, isBlank letter = true

/-- What passes for a limit stands at the end, apart from blanks and semicolons in any order. -/
def EndsLimited (letters : List Char) : Prop :=
  ∃ front word gap count closing,
    letters = front ++ (word ++ (gap ++ (count ++ closing))) ∧ PassesForLimit word count ∧
      (∀ last ∈ front.getLast?, isWord last = false) ∧ gap ≠ [] ∧
      (∀ letter ∈ gap, isBlank letter = true) ∧
      ∀ letter ∈ closing, isBlank letter = true ∨ letter = ';'

/-- Of the blanks and semicolons at the end, the blanks come first. -/
def ClosesPlainly (letters : List Char) : Prop :=
  ∃ code blanks semicolons, letters = code ++ (blanks ++ semicolons) ∧
    (∀ last ∈ code.getLast?, isBlank last = false ∧ last ≠ ';') ∧
    (∀ letter ∈ blanks, isBlank letter = true) ∧ ∀ letter ∈ semicolons, letter = ';'

private theorem EndsStatement.append_blank {letters : List Char} (ends : EndsStatement letters)
    {letter : Char} (blank : isBlank letter = true) : EndsStatement (letters ++ [letter]) := by
  obtain ⟨front, blanks, rfl, areBlank⟩ := ends
  refine ⟨front, blanks ++ [letter], List.append_assoc _ _ _, ?_⟩
  exact List.forall_mem_append.mpr ⟨areBlank, List.forall_mem_singleton.mpr blank⟩

/-- One semicolon among blanks and semicolons at the end is enough. -/
theorem endsStatement_of_closing {front closing : List Char}
    (closes : ∀ letter ∈ closing, isBlank letter = true ∨ letter = ';') :
    EndsStatement (front ++ ';' :: closing) := by
  induction closing using List.reverseRecOn with
  | nil => exact ⟨front, [], rfl, nofun⟩
  | append_singleton closing last ih =>
      obtain ⟨others, lastCloses⟩ := List.forall_mem_append.mp closes
      have ends := ih others
      rcases List.forall_mem_singleton.mp lastCloses with blank | rfl
      · have longer := ends.append_blank blank
        rwa [List.append_assoc] at longer
      · refine ⟨front ++ ';' :: closing, [], ?_, nofun⟩
        exact (List.append_assoc front (';' :: closing) [';']).symm

/-! ### Finding a limit -/

theorem skipSome_append {chosen : Char → Bool} {run rest : List Char} (nonempty : run ≠ [])
    (within : ∀ letter ∈ run, chosen letter = true)
    (stops : ∀ letter ∈ rest.head?, chosen letter = false) :
    skipSome chosen (run ++ rest) = some rest := by
  cases run with
  | nil => exact (nonempty rfl).elim
  | cons first run =>
      obtain ⟨inFirst, others⟩ := List.forall_mem_cons.mp within
      rw [List.cons_append, skipSome, if_pos inFirst, dropWhile_append_of_head? run stops,
        List.dropWhile_eq_nil_iff.mpr others, List.nil_append]

private theorem countAtEnd_of_isCount {count : List Char} (isCount : IsCount isDigit count) :
    countAtEnd count = true := by
  rcases isCount with ⟨nonempty, digits⟩ | ⟨name, rfl, nonempty, word⟩
  · have skipped : skipSome isDigit (count ++ []) = some [] :=
      skipSome_append nonempty digits nofun
    rw [List.append_nil] at skipped
    unfold countAtEnd
    split
    · next name =>
        have noDigit : isDigit '$' = false := by decide
        rw [digits '$' List.mem_cons_self] at noDigit
        cases noDigit
    · rw [skipped]
      rfl
  · have skipped : skipSome isWord (name ++ []) = some [] :=
      skipSome_append nonempty word nofun
    rw [List.append_nil] at skipped
    rw [countAtEnd, skipped]
    rfl

theorem toUpper_of_folded {letter upper : Char} (same : folded letter = upper)
    (other : upper ≠ 'I') : letter.toUpper = upper := by
  unfold folded at same
  split at same
  · exact (other same.symm).elim
  · exact same

private theorem isLetterI_of_folded {letter : Char} (same : folded letter = 'I') :
    afterLimitWord.isLetterI letter = true := by
  unfold folded at same
  split at same
  · next dotted =>
      rcases dotted with rfl | rfl
      · rfl
      · rfl
  · unfold afterLimitWord.isLetterI
    rw [same]
    rfl

theorem afterLimitWord_append {word : List Char} (spelled : word.map folded = limitWord)
    (rest : List Char) : afterLimitWord (word ++ rest) = some rest := by
  obtain ⟨first, word, rfl, isL, spelled⟩ := List.map_eq_cons_iff.mp spelled
  obtain ⟨second, word, rfl, isI, spelled⟩ := List.map_eq_cons_iff.mp spelled
  obtain ⟨third, word, rfl, isM, spelled⟩ := List.map_eq_cons_iff.mp spelled
  obtain ⟨fourth, word, rfl, isSecondI, spelled⟩ := List.map_eq_cons_iff.mp spelled
  obtain ⟨fifth, word, rfl, isT, spelled⟩ := List.map_eq_cons_iff.mp spelled
  obtain rfl := List.map_eq_nil_iff.mp spelled
  refine if_pos ⟨toUpper_of_folded isL (by decide), isLetterI_of_folded isI,
    toUpper_of_folded isM (by decide), isLetterI_of_folded isSecondI,
    toUpper_of_folded isT (by decide)⟩

theorem limitHere_append {word gap count : List Char} (passes : PassesForLimit word count)
    (nonempty : gap ≠ []) (gapBlank : ∀ letter ∈ gap, isBlank letter = true) :
    limitHere (word ++ (gap ++ count)) = true := by
  have skipped : skipSome isBlank (gap ++ count) = some count :=
    skipSome_append nonempty gapBlank fun letter first =>
      (passes.2.letters letter (List.mem_of_head? first)).1
  unfold limitHere
  rw [afterLimitWord_append passes.1]
  dsimp only
  rw [skipped]
  exact countAtEnd_of_isCount passes.2

theorem endsInLimitAfter_append {inWord : Bool} {front rest : List Char}
    (outside : endsInWord inWord front = false) (here : limitHere rest = true) :
    endsInLimitAfter inWord (front ++ rest) = true := by
  induction front generalizing inWord with
  | nil =>
      cases rest with
      | nil => cases here
      | cons letter rest =>
          have begins : inWord = false := outside
          rw [List.nil_append, endsInLimitAfter, here, begins]
          rfl
  | cons letter front ih =>
      rw [List.cons_append, endsInLimitAfter, ih outside, Bool.or_true]

/-- A limit behind which only blanks stand is found. -/
theorem isLimited_of_copy {letters front word gap count blanks : List Char}
    (copy : withoutComments letters = front ++ (word ++ (gap ++ (count ++ blanks))))
    (passes : PassesForLimit word count) (outside : ∀ last ∈ front.getLast?, isWord last = false)
    (nonempty : gap ≠ []) (gapBlank : ∀ letter ∈ gap, isBlank letter = true)
    (areBlank : ∀ letter ∈ blanks, isBlank letter = true) : isLimited letters = true := by
  have whole : withoutComments letters = (front ++ (word ++ (gap ++ count))) ++ blanks := by
    rw [copy]
    simp only [List.append_assoc]
  have last : ∀ last ∈ (front ++ (word ++ (gap ++ count))).getLast?, last ∈ count := by
    intro last isLast
    rw [← List.append_assoc, ← List.append_assoc, List.getLast?_append] at isLast
    cases ends : count.getLast? with
    | none => exact (passes.2.ne_nil (List.getLast?_eq_none_iff.mp ends)).elim
    | some other =>
        rw [ends, Option.some_or] at isLast
        cases isLast
        exact List.mem_of_getLast? ends
  have noSemicolon := passes.2.ne_semicolon (by decide)
  unfold isLimited
  have uncut : dropRightWhile (· == ';') (front ++ (word ++ (gap ++ count))) =
      front ++ (word ++ (gap ++ count)) :=
    dropRightWhile_eq_self
      fun letter isLast => beq_false_of_ne (noSemicolon letter (last letter isLast))
  rw [whole, dropRightWhile_append areBlank fun letter isLast =>
    (passes.2.letters letter (last letter isLast)).1]
  change endsInLimitAfter false (dropRightWhile (· == ';') _) = true
  rw [uncut]
  exact endsInLimitAfter_append ((endsInWord_eq_false_iff front).mpr outside)
    (limitHere_append passes nonempty gapBlank)

/-! ### The injected limit -/

section

variable {letters : List Char}

theorem getLast?_copy_trimQuery (letters : List Char) :
    ∀ last ∈ (withoutComments (trimQuery letters)).getLast?, last ≠ ';' := by
  rintro _ isLast rfl
  have ends := getLast?_of_withoutComments isLast (by decide)
  have cut := getLast?_dropRightWhile isSemicolon (trim letters) ';' ends
  cases cut

/-- The copy of a trimmed query with or without the semicolons that were cut off. -/
theorem exists_copy_trim (letters : List Char) :
    ∃ cut, withoutComments (trim letters) = withoutComments (trimQuery letters) ++ cut ∧
      ∀ letter ∈ cut, letter = ';' := by
  obtain ⟨cut, whole, semicolons⟩ := exists_dropRightWhile isSemicolon (trim letters)
  have areSemicolons : ∀ letter ∈ cut, letter = ';' := fun letter member =>
    eq_of_beq (semicolons letter member)
  have neutral : ∀ letter ∈ cut, IsNeutral letter := by
    intro letter member
    rw [areSemicolons letter member]
    exact ⟨by decide, by decide, by decide, by decide⟩
  obtain ⟨shown, isShown, copied⟩ := exists_withoutComments_append neutral (trimQuery letters)
  refine ⟨shown, ?_, ?_⟩
  · rw [← copied, trimQuery, ← whole]
  · cases isShown with
    | whole => exact areSemicolons
    | nextLine =>
        exact fun letter member =>
          areSemicolons letter ((List.dropWhile_sublist _).subset member)

private theorem closesPlainly_of_not_endsStatement {code cut : List Char}
    (unended : ¬EndsStatement code)
    (semicolons : ∀ letter ∈ cut, letter = ';') : ClosesPlainly (code ++ cut) := by
  obtain ⟨blanks, whole, areBlank⟩ := exists_dropRightWhile isBlank code
  refine ⟨dropRightWhile isBlank code, blanks, cut, ?_, ?_, areBlank, semicolons⟩
  · rw [← List.append_assoc, ← whole]
  · intro last isLast
    refine ⟨getLast?_dropRightWhile isBlank code last isLast, ?_⟩
    rintro rfl
    obtain ⟨front, same⟩ := List.getLast?_eq_some_iff.mp isLast
    refine unended ⟨front, blanks, ?_, areBlank⟩
    rw [List.append_cons, ← same, ← whole]

private theorem not_endsStatement_of_closesPlainly {code cut : List Char}
    (bare : ∀ last ∈ code.getLast?, last ≠ ';') (semicolons : ∀ letter ∈ cut, letter = ';')
    (plainly : ClosesPlainly (code ++ cut)) : ¬EndsStatement code := by
  rintro ⟨front, blanks, ends, areBlank⟩
  obtain ⟨kept, others, rest, whole, keptEnds, othersBlank, restSemicolons⟩ := plainly
  have noneLast : ∀ last ∈ (kept ++ others).getLast?, isSemicolon last = false := by
    intro last isLast
    rw [List.getLast?_append] at isLast
    cases othersEnd : others.getLast? with
    | none =>
        rw [othersEnd, Option.none_or] at isLast
        exact beq_false_of_ne (keptEnds last isLast).2
    | some other =>
        rw [othersEnd, Option.some_or] at isLast
        cases isLast
        refine beq_false_of_ne ?_
        rintro rfl
        cases othersBlank ';' (List.mem_of_getLast? othersEnd)
  -- cut back by semicolons and then by blanks, the two readings of the end have to meet
  have same : code = kept ++ others := by
    rw [← dropRightWhile_append (fun letter member => beq_iff_eq.mpr (semicolons letter member))
      (fun last isLast => beq_false_of_ne (bare last isLast)), whole, ← List.append_assoc]
    exact dropRightWhile_append (fun letter member => beq_iff_eq.mpr (restSemicolons letter member))
      noneLast
  have keptSame : kept = front ++ [';'] := by
    rw [← dropRightWhile_append othersBlank fun last isLast => (keptEnds last isLast).1, ← same,
      ends, List.append_cons]
    refine dropRightWhile_append areBlank ?_
    rintro _ isLast
    rw [List.getLast?_concat] at isLast
    cases isLast
    decide
  refine (keptEnds ';' ?_).2 rfl
  rw [keptSame, List.getLast?_concat]
  rfl

/-- Where a limit stands at the end and is not found, a semicolon stands behind it. -/
theorem endsStatement_of_endsLimited (unlimited : isLimited letters = false)
    (ends : EndsLimited (withoutComments letters)) : EndsStatement (withoutComments letters) := by
  obtain ⟨front, word, gap, count, closing, copy, passes, outside, nonempty, gapBlank, closes⟩ :=
    ends
  by_cases semicolon : ';' ∈ closing
  · obtain ⟨start, closing, rfl⟩ := List.append_of_mem semicolon
    have whole : withoutComments letters =
        (front ++ (word ++ (gap ++ (count ++ start)))) ++ ';' :: closing := by
      rw [copy]
      simp only [List.append_assoc]
    rw [whole]
    refine endsStatement_of_closing fun letter member => ?_
    exact closes letter (List.mem_append_right start (List.mem_cons_of_mem _ member))
  · have areBlank : ∀ letter ∈ closing, isBlank letter = true := by
      intro letter member
      refine (closes letter member).resolve_right ?_
      rintro rfl
      exact semicolon member
    rw [isLimited_of_copy copy passes outside nonempty gapBlank areBlank] at unlimited
    cases unlimited

end

private theorem isLimited_of_injected {maximum text : String}
    (injected : withLimit maximum text =
      String.ofList (trimQuery text.toList) ++ limitLine maximum) :
    isLimited (trimQuery text.toList) = false := by
  unfold withLimit at injected
  dsimp only at injected
  split at injected
  · have letters := congrArg String.toList injected
    rw [String.toList_append, String.toList_ofList] at letters
    have nothing : (limitLine maximum).toList = [] := List.self_eq_append_right.mp letters
    rw [limitLine, String.toList_append] at nothing
    cases nothing
  · next unlimited => exact Bool.not_eq_true _ |>.mp unlimited

/-- A limit that is put behind a query follows neither a semicolon nor another limit if and only
if the query, its comments being blanks, has no blank behind a semicolon at its end. It never
follows another limit without following a semicolon. -/
theorem injected_apart_iff {maximum text : String}
    (injected : withLimit maximum text =
      String.ofList (trimQuery text.toList) ++ limitLine maximum) :
    (¬EndsStatement (withoutComments (trimQuery text.toList)) ∧
        ¬EndsLimited (withoutComments (trimQuery text.toList)) ↔
      ClosesPlainly (withoutComments (trim text.toList))) ∧
    (EndsLimited (withoutComments (trimQuery text.toList)) →
      EndsStatement (withoutComments (trimQuery text.toList))) := by
  have behind := endsStatement_of_endsLimited (isLimited_of_injected injected)
  obtain ⟨cut, copy, semicolons⟩ := exists_copy_trim text.toList
  refine ⟨⟨fun apart => ?_, fun plainly => ?_⟩, behind⟩
  · rw [copy]
    exact closesPlainly_of_not_endsStatement apart.1 semicolons
  · rw [copy] at plainly
    have unended := not_endsStatement_of_closesPlainly (getLast?_copy_trimQuery text.toList)
      semicolons plainly
    exact ⟨unended, fun limited => unended (behind limited)⟩

private def closedText : String :=
  "MATCH (t:Town) RETURN t /* all towns */ ;"

theorem injected_apart_iff_closedText :
    withLimit "100" closedText = "MATCH (t:Town) RETURN t /* all towns */ \nLIMIT 100" ∧
      ClosesPlainly (withoutComments (trim closedText.toList)) ∧
      ¬EndsStatement (withoutComments (trimQuery closedText.toList)) ∧
      ¬EndsLimited (withoutComments (trimQuery closedText.toList)) := by
  have injected : withLimit "100" closedText =
      String.ofList (trimQuery closedText.toList) ++ limitLine "100" := by
    decide +kernel
  have copy : withoutComments (trim closedText.toList) =
      "MATCH (t:Town) RETURN t".toList ++ ("   ".toList ++ [';']) := by
    decide +kernel
  have last : "MATCH (t:Town) RETURN t".toList.getLast? = some 't' := by decide
  have blanks : "   ".toList.all isBlank = true := by decide
  have plainly : ClosesPlainly (withoutComments (trim closedText.toList)) := by
    refine ⟨_, _, _, copy, ?_, List.all_eq_true.mp blanks, List.forall_mem_singleton.mpr rfl⟩
    rw [last]
    rintro _ ⟨⟩
    decide
  exact ⟨by decide +kernel, plainly, (injected_apart_iff injected).1.mpr plainly⟩

private def endedText : String :=
  "MATCH (t:Town) RETURN t; // all towns"

/-- The semicolon is neither cut off the query nor looked behind for a limit. -/
theorem injected_behind_semicolon :
    withLimit "100" endedText = endedText ++ "\nLIMIT 100" ∧
      EndsStatement (withoutComments (trimQuery endedText.toList)) := by
  have copy : withoutComments (trimQuery endedText.toList) =
      "MATCH (t:Town) RETURN t".toList ++ ';' :: "  ".toList := by
    decide +kernel
  have blanks : "  ".toList.all isBlank = true := by decide
  exact ⟨by decide +kernel, _, _, copy, List.all_eq_true.mp blanks⟩

end RowLimit

end QueryWarden
