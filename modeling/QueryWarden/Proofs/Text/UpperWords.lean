/-
Upper case and the bounds of words. A letter that no word has becomes letters that no word
has, with one exception: the iota that is written below a vowel is a mark, and its upper case
is a letter. So a word stands by itself in upper case too, unless that mark is next to it.
-/

import QueryWarden.Proofs.Condition.Names
import QueryWarden.Proofs.Text.Words

namespace QueryWarden.Text

def iotaBelow : Char := '\u0345'

/-! ### The tables of upper case -/

section

variable {runs : List CaseRun} {sequences : List (Nat × List Nat)} {letter other : Char}

/-- A letter of the other case comes from the sequences, from a run, or it is the same. -/
theorem of_mem_mapCase (member : other ∈ mapCase runs sequences letter) :
    (∃ codes, (letter.toNat, codes) ∈ sequences ∧ other ∈ codes.map Char.ofNat) ∨
      (∃ run ∈ runs, run.holds letter.toNat = true ∧
        other = Char.ofNat ((letter.toNat : Int) + run.shift).toNat) ∨
      other = letter := by
  unfold mapCase at member
  split at member
  · next codes found =>
      obtain ⟨before, behind, whole, _⟩ := List.lookup_eq_some_iff.mp found
      refine .inl ⟨codes, ?_, member⟩
      rw [whole]
      exact List.mem_append_right before List.mem_cons_self
  · split at member
    · next code shifted =>
        obtain ⟨run, found, rfl⟩ := Option.map_eq_some_iff.mp shifted
        have holds := List.find?_some found
        refine .inr (.inl ⟨run, List.mem_of_find?_eq_some found, holds, ?_⟩)
        exact List.mem_singleton.mp member
    · exact .inr (.inr (List.mem_singleton.mp member))

theorem mapCase_ne_nil (filled : sequences.all (fun entry => !entry.2.isEmpty) = true) :
    mapCase runs sequences letter ≠ [] := by
  unfold mapCase
  split
  · next codes found =>
      obtain ⟨before, behind, whole, _⟩ := List.lookup_eq_some_iff.mp found
      have listed : (letter.toNat, codes) ∈ sequences := by simp [whole]
      have nonempty := List.all_eq_true.mp filled _ listed
      simpa using nonempty
  · split
    · exact List.cons_ne_nil _ _
    · exact List.cons_ne_nil _ _

end

/-- Each span lies within one of the ranges. Both lists are in ascending order, and they are
walked through side by side. -/
def coverAll : (spans ranges : List (Nat × Nat)) → Bool
  | [], _ => true
  | span :: spans, ranges =>
      match ranges.dropWhile (fun range => range.2 < span.1) with
      | [] => false
      | range :: ranges =>
          range.1 ≤ span.1 && span.2 ≤ range.2 && coverAll spans (range :: ranges)

private theorem inRanges_of_coverAll {spans ranges : List (Nat × Nat)}
    (covered : coverAll spans ranges = true) {span : Nat × Nat} (listed : span ∈ spans)
    {letter : Char} (low : span.1 ≤ letter.toNat) (high : letter.toNat ≤ span.2) :
    inRanges ranges letter = true := by
  induction spans generalizing ranges with
  | nil => cases listed
  | cons first spans ih =>
      unfold coverAll at covered
      split at covered
      · cases covered
      · next range ranges dropped =>
          simp only [Bool.and_eq_true, decide_eq_true_eq] at covered
          have found : inRanges (range :: ranges) letter = true := by
            rcases List.mem_cons.mp listed with rfl | later
            · rw [inRanges_iff]
              exact ⟨range, List.mem_cons_self, by omega, by omega⟩
            · exact ih covered.2 later
          obtain ⟨other, member, within⟩ := (inRanges_iff _ _).mp found
          refine (inRanges_iff _ _).mpr ⟨other, ?_, within⟩
          exact (List.dropWhile_sublist _).subset (dropped ▸ member)

/-- Where the runs begin that are not of words: at the iota below, and at the small letters in
circles. -/
def beginsOutsideWords (run : CaseRun) : Bool :=
  run.first == iotaBelow.toNat || run.first == 'ⓐ'.toNat

/-- The run moves its code points to places beyond ASCII among which there is no word character.
The iota below is excepted. -/
def CaseRun.isOfMarks (run : CaseRun) : Bool :=
  128 ≤ run.first + run.shift && run.last + run.shift < 0xd800 &&
    ((run.first == iotaBelow.toNat && run.last == iotaBelow.toNat) ||
      wordRanges.all (fun range =>
        range.2 < run.first + run.shift || run.last + run.shift < range.1))

theorem CaseRun.bounds {run : CaseRun} {code : Nat} (holds : run.holds code = true) :
    run.first ≤ code ∧ code ≤ run.last := by
  simp only [CaseRun.holds, Bool.and_eq_true, decide_eq_true_eq] at holds
  exact holds.1

private theorem ofMarks_moves {run : CaseRun} (ofMarks : run.isOfMarks = true) {letter other : Char}
    (holds : run.holds letter.toNat = true)
    (moved : other = Char.ofNat ((letter.toNat : Int) + run.shift).toNat) :
    128 ≤ other.toNat ∧ (letter = iotaBelow ∨ isWord other = false) := by
  have bounds := CaseRun.bounds holds
  simp only [CaseRun.isOfMarks, Bool.and_eq_true, decide_eq_true_eq] at ofMarks
  obtain ⟨⟨low, high⟩, marks⟩ := ofMarks
  have place : other.toNat = ((letter.toNat : Int) + run.shift).toNat := by
    rw [moved, Char.ofNat, dif_pos (.inl (by omega))]
    rfl
  refine ⟨by omega, ?_⟩
  rcases Bool.or_eq_true_iff.mp marks with onlyIota | apart
  · simp only [Bool.and_eq_true, beq_iff_eq] at onlyIota
    exact .inl (Char.toNat_inj.mp (by omega))
  · refine .inr (Bool.eq_false_iff.mpr (fun inWord => ?_))
    obtain ⟨range, listed, within⟩ := (inRanges_iff _ _).mp inWord
    have beyond := List.all_eq_true.mp apart range listed
    simp only [Bool.or_eq_true, decide_eq_true_eq] at beyond
    omega

private theorem upperSequences_of_words {entry : Nat × List Nat} (listed : entry ∈ upperSequences)
    {letter : Char} (same : letter.toNat = entry.1) : isWord letter = true := by
  have covered : coverAll (upperSequences.map (fun entry => (entry.1, entry.1))) wordRanges := by
    decide +kernel
  exact inRanges_of_coverAll covered (List.mem_map_of_mem listed) (Nat.le_of_eq same.symm)
    (Nat.le_of_eq same)

private theorem upperRuns_of_words {run : CaseRun} (listed : run ∈ upperRuns)
    (ofWords : beginsOutsideWords run = false) {letter : Char}
    (holds : run.holds letter.toNat = true) : isWord letter = true := by
  have covered : coverAll ((upperRuns.filter (fun run => !beginsOutsideWords run)).map
      (fun run => (run.first, run.last))) wordRanges := by
    decide +kernel
  have kept : run ∈ upperRuns.filter (fun run => !beginsOutsideWords run) :=
    List.mem_filter.mpr ⟨listed, by rw [ofWords]; rfl⟩
  have bounds := CaseRun.bounds holds
  exact inRanges_of_coverAll covered (List.mem_map_of_mem kept) bounds.1 bounds.2

private theorem upperRuns_of_marks {run : CaseRun} (listed : run ∈ upperRuns)
    (outside : beginsOutsideWords run = true) : run.isOfMarks = true := by
  have every : (upperRuns.filter beginsOutsideWords).all CaseRun.isOfMarks = true := by
    decide +kernel
  exact List.all_eq_true.mp every run (List.mem_filter.mpr ⟨listed, outside⟩)

/-! ### Letters -/

theorem upperChar_ne_nil (letter : Char) : upperChar letter ≠ [] := by
  unfold upperChar
  split
  · exact List.cons_ne_nil _ _
  · exact mapCase_ne_nil (by decide)

private theorem upperChar_iotaBelow : upperChar iotaBelow = ['Ι'] := by
  decide +kernel

private theorem upperChar_of_ascii {letter : Char} (ascii : letter.toNat < 128) :
    upperChar letter = [letter.toUpper] :=
  if_pos ascii

theorem toUpper_of_isLower_eq_false {letter : Char} (notLower : letter.isLower = false) :
    letter.toUpper = letter := by
  unfold Char.toUpper
  refine dif_neg (fun bounds => ?_)
  have lower : letter.isLower = true :=
    Bool.and_eq_true_iff.mpr ⟨decide_eq_true bounds.1, decide_eq_true bounds.2⟩
  rw [notLower] at lower
  cases lower

/-- A letter that no word has is its own upper case, or it is moved beyond ASCII: to a letter
that no word has either, or it is the iota below. -/
theorem of_mem_upperChar {letter other : Char} (outside : isWord letter = false)
    (member : other ∈ upperChar letter) :
    other = letter ∨ 128 ≤ other.toNat ∧ (letter = iotaBelow ∨ isWord other = false) := by
  unfold upperChar at member
  split at member
  · have notLower : letter.isLower = false := by
      refine Bool.eq_false_iff.mpr (fun lower => ?_)
      rw [isWord_of_isNamePart (isNamePart_of_isLower lower)] at outside
      cases outside
    exact .inl ((List.mem_singleton.mp member).trans (toUpper_of_isLower_eq_false notLower))
  · rcases of_mem_mapCase member with ⟨codes, listed, _⟩ | ⟨run, listed, holds, moved⟩ | same
    · rw [upperSequences_of_words listed rfl] at outside
      cases outside
    · cases begins : beginsOutsideWords run with
      | false =>
          rw [upperRuns_of_words listed begins holds] at outside
          cases outside
      | true => exact .inr (ofMarks_moves (upperRuns_of_marks listed begins) holds moved)
    · exact .inl same

/-- In upper case no letter but the iota below becomes one that belongs to words. -/
theorem isWord_of_mem_upperChar_iff {letter other : Char} (outside : isWord letter = false)
    (member : other ∈ upperChar letter) : isWord other = false ↔ letter ≠ iotaBelow := by
  constructor
  · intro stays same
    rw [same, upperChar_iotaBelow] at member
    rw [List.mem_singleton.mp member] at stays
    revert stays
    decide +kernel
  · intro apart
    rcases of_mem_upperChar outside member with rfl | ⟨_, iota | moved⟩
    · exact outside
    · exact absurd iota apart
    · exact moved

theorem upper_eq_map_toUpper {letters : List Char}
    (ascii : ∀ letter ∈ letters, letter.toNat < 128) :
    upper letters = letters.map Char.toUpper := by
  induction letters with
  | nil => rfl
  | cons letter letters ih =>
      obtain ⟨first, others⟩ := List.forall_mem_cons.mp ascii
      have rest := ih others
      unfold upper at rest ⊢
      rw [List.flatMap_cons, upperChar_of_ascii first, rest]
      rfl

/-! ### Bounds -/

/-- The upper case of a text that ends outside words does so too, unless an iota below ends
the text. -/
theorem getLast?_upper_iff {letters : List Char}
    (outside : ∀ letter ∈ letters.getLast?, isWord letter = false) :
    (∀ letter ∈ (upper letters).getLast?, isWord letter = false) ↔
      letters.getLast? ≠ some iotaBelow := by
  cases final : letters.getLast? with
  | none =>
      rw [List.getLast?_eq_none_iff.mp final]
      simp [upper]
  | some last =>
      obtain ⟨front, rfl⟩ := List.getLast?_eq_some_iff.mp final
      have ends : (upper (front ++ [last])).getLast? =
          some ((upperChar last).getLast (upperChar_ne_nil last)) := by
        rw [upper_append, List.getLast?_append, upper, List.flatMap_singleton,
          List.getLast?_eq_some_getLast (upperChar_ne_nil last), Option.some_or]
      simp only [ends, Option.mem_some_iff, forall_eq', ne_eq, Option.some.injEq]
      exact isWord_of_mem_upperChar_iff (outside last final) (List.getLast_mem _)

theorem head?_upper_cons (first : Char) (rest : List Char) :
    (upper (first :: rest)).head? = some ((upperChar first).head (upperChar_ne_nil first)) := by
  rw [upper, List.flatMap_cons, List.head?_append,
    List.head?_eq_some_head (upperChar_ne_nil first), Option.some_or]

/-- So it is with the start. -/
theorem head?_upper_iff {letters : List Char}
    (outside : ∀ letter ∈ letters.head?, isWord letter = false) :
    (∀ letter ∈ (upper letters).head?, isWord letter = false) ↔
      letters.head? ≠ some iotaBelow := by
  cases letters with
  | nil => simp [upper]
  | cons first rest =>
      simp only [head?_upper_cons, List.head?_cons, Option.mem_some_iff, forall_eq', ne_eq,
        Option.some.injEq]
      exact isWord_of_mem_upperChar_iff (outside first rfl) (List.head_mem _)

/-- No iota below stands next to a word. -/
def ApartFromIota (front back : List Char) : Prop :=
  front.getLast? ≠ some iotaBelow ∧ back.head? ≠ some iotaBelow

/-- A word of a text is one of the text in upper case just when no iota below is next to it. -/
theorem isWordBetween_upper_iff {front word back : List Char}
    (stands : IsWordBetween front word back)
    (within : ∀ letter ∈ upper word, isWord letter = true) :
    IsWordBetween (upper front) (upper word) (upper back) ↔ ApartFromIota front back := by
  rw [ApartFromIota, ← getLast?_upper_iff stands.before, ← head?_upper_iff stands.after]
  constructor
  · intro standsUpper
    exact ⟨standsUpper.before, standsUpper.after⟩
  · intro bounds
    refine ⟨?_, within, bounds.1, bounds.2⟩
    obtain ⟨letter, letters, rfl⟩ := List.exists_cons_of_ne_nil stands.nonempty
    simp [upper, upperChar_ne_nil]

/-! ### Spellings -/

def Spells (written : List Char) (word : String) : Prop :=
  written.map Char.toUpper = word.toList

private theorem ascii_of_toUpper {letter : Char} (ascii : letter.toUpper.toNat < 128) :
    letter.toNat < 128 := by
  cases lower : letter.isLower with
  | false => rwa [toUpper_of_isLower_eq_false lower] at ascii
  | true =>
      have bounds := toNat_of_isLower lower
      omega

theorem Spells.upper_eq {written : List Char} {word : String} (spells : Spells written word)
    (ascii : word.toList.all (fun letter => letter.toNat < 128) = true) :
    upper written = word.toList := by
  rw [upper_eq_map_toUpper, spells]
  intro letter member
  have listed : letter.toUpper ∈ word.toList := spells ▸ List.mem_map_of_mem member
  exact ascii_of_toUpper (of_decide_eq_true (List.all_eq_true.mp ascii _ listed))

end QueryWarden.Text
