/-
Words of a text. A word is a stretch of word characters that cannot be made longer at either
end. Searching for a word that stands by itself finds the words of a text and nothing else.
-/

import QueryWarden.Proofs.Text.Searching

namespace QueryWarden.Text

/-! ### Runs -/

structure LeadingRun (chosen : Char → Bool) (run rest : List Char) : Prop where
  within : ∀ letter ∈ run, chosen letter = true
  stops : ∀ letter ∈ rest.head?, chosen letter = false

variable {chosen : Char → Bool}

theorem leadingRun_takeWhile (chosen : Char → Bool) (letters : List Char) :
    LeadingRun chosen (letters.takeWhile chosen) (letters.dropWhile chosen) where
  within := fun _ member => List.mem_takeWhile_imp member
  stops := by
    intro letter first
    cases outside : chosen letter with
    | false => rfl
    | true =>
        have kept := List.head?_dropWhile_not chosen letters
        rw [Option.mem_def.mp first] at kept
        simp [outside] at kept

theorem LeadingRun.takeWhile_eq {run rest : List Char} (leading : LeadingRun chosen run rest) :
    (run ++ rest).takeWhile chosen = run := by
  rw [takeWhile_append_of_head? run leading.stops]
  exact List.takeWhile_eq_self_iff.mpr leading.within

theorem LeadingRun.dropWhile_eq {run rest : List Char} (leading : LeadingRun chosen run rest) :
    (run ++ rest).dropWhile chosen = rest := by
  have whole : run ++ (run ++ rest).dropWhile chosen = run ++ rest := by
    have parts := List.takeWhile_append_dropWhile (p := chosen) (l := run ++ rest)
    rwa [leading.takeWhile_eq] at parts
  exact List.append_cancel_left whole

/-! ### Words -/

/-- A word between what stands before and behind it. -/
structure IsWordBetween (front word back : List Char) : Prop where
  nonempty : word ≠ []
  within : ∀ letter ∈ word, isWord letter = true
  before : ∀ letter ∈ front.getLast?, isWord letter = false
  after : ∀ letter ∈ back.head?, isWord letter = false

def IsWordOf (word letters : List Char) : Prop :=
  ∃ front back, letters = front ++ (word ++ back) ∧ IsWordBetween front word back

def endsInWord : (inWord : Bool) → List Char → Bool
  | inWord, [] => inWord
  | _, letter :: letters => endsInWord (isWord letter) letters

theorem endsInWord_eq (inWord : Bool) (letters : List Char) :
    endsInWord inWord letters = (letters.getLast?.map isWord).getD inWord := by
  induction letters generalizing inWord with
  | nil => rfl
  | cons letter letters ih =>
      rw [endsInWord, ih, List.getLast?_cons]
      cases letters.getLast? with
      | none => rfl
      | some last => rfl

theorem endsInWord_eq_false_iff (letters : List Char) :
    endsInWord false letters = false ↔ ∀ letter ∈ letters.getLast?, isWord letter = false := by
  rw [endsInWord_eq]
  cases letters.getLast? with
  | none => simp
  | some last => simp

theorem startsOutsideWord_iff (letters : List Char) :
    startsOutsideWord letters = true ↔ ∀ letter ∈ letters.head?, isWord letter = false := by
  cases letters with
  | nil => simp [startsOutsideWord]
  | cons letter letters => simp [startsOutsideWord]

theorem standsHere_iff (word letters : List Char) :
    standsHere word letters = true ↔
      ∃ back, letters = word ++ back ∧ startsOutsideWord back = true := by
  unfold standsHere
  cases found : after? word letters with
  | none =>
      have absent : ∀ back, letters ≠ word ++ back := by
        intro back same
        rw [(after?_eq_some_iff word letters back).mpr same] at found
        cases found
      simp [absent]
  | some rest =>
      rw [(after?_eq_some_iff word letters rest).mp found]
      simp

/-- The search goes from letter to letter, and so does the induction: the word stands at the
first letter, or behind it in what is left. -/
theorem standsAfter_iff {word : List Char} (nonempty : word ≠ []) (inWord : Bool)
    (letters : List Char) :
    standsAfter word inWord letters = true ↔
      ∃ front back, letters = front ++ (word ++ back) ∧
        endsInWord inWord front = false ∧ startsOutsideWord back = true := by
  induction letters generalizing inWord with
  | nil => simp [standsAfter, nonempty]
  | cons letter letters ih =>
      rw [standsAfter, Bool.or_eq_true, Bool.and_eq_true, ih, standsHere_iff]
      constructor
      · rintro (⟨outside, back, split, ends⟩ | ⟨front, back, split, begins, ends⟩)
        · exact ⟨[], back, split, by simpa [endsInWord] using outside, ends⟩
        · exact ⟨letter :: front, back, by rw [split, List.cons_append], begins, ends⟩
      · rintro ⟨front, back, split, begins, ends⟩
        rcases List.cons_eq_append_iff.mp split with ⟨rfl, here⟩ | ⟨front, rfl, later⟩
        · exact .inl ⟨by simpa [endsInWord] using begins, back, here.symm, ends⟩
        · exact .inr ⟨front, back, later, begins, ends⟩

/-- A word is found if and only if it is one of the words of the text. -/
theorem hasWord_iff {word : List Char} (nonempty : word ≠ [])
    (within : ∀ letter ∈ word, isWord letter = true) (letters : List Char) :
    hasWord word letters = true ↔ IsWordOf word letters := by
  rw [hasWord, standsAfter_iff nonempty]
  constructor
  · rintro ⟨front, back, split, begins, ends⟩
    exact ⟨front, back, split, nonempty, within, (endsInWord_eq_false_iff front).mp begins,
      (startsOutsideWord_iff back).mp ends⟩
  · rintro ⟨front, back, split, stands⟩
    exact ⟨front, back, split, (endsInWord_eq_false_iff front).mpr stands.before,
      (startsOutsideWord_iff back).mpr stands.after⟩

end QueryWarden.Text
