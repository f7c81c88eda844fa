/-
Lower case of a part of a text. Every letter but the capital sigma has one lower case
wherever it stands; a sigma takes its final form if the last letter seen before it is cased
and the first letter seen behind it is not, where letters that are passed over do not count.
So the lower case of a part stands in the lower case of the whole, unless a sigma of the
part looks past an end of it.
-/

import QueryWarden.Text.Case
import QueryWarden.Text.Search

namespace QueryWarden.Text

/-! ### What a sigma sees -/

def firstSeen (letters : List Char) : Option Char :=
  letters.find? (fun letter => !isCaseIgnorable letter)

def lastSeen (letters : List Char) : Option Char :=
  firstSeen letters.reverse

def casedAhead (behind : Bool) (letters : List Char) : Bool :=
  (firstSeen letters).elim behind isCased

def casedBefore (before : Bool) (letters : List Char) : Bool :=
  (lastSeen letters).elim before isCased

theorem firstSeen_append (left right : List Char) :
    firstSeen (left ++ right) = (firstSeen left).or (firstSeen right) :=
  List.find?_append

theorem lastSeen_append (left right : List Char) :
    lastSeen (left ++ right) = (lastSeen right).or (lastSeen left) := by
  unfold lastSeen
  rw [List.reverse_append, firstSeen_append]

private theorem firstSeen_singleton (letter : Char) :
    firstSeen [letter] = if isCaseIgnorable letter then none else some letter := by
  unfold firstSeen
  rw [List.find?_cons]
  cases isCaseIgnorable letter with
  | false => rfl
  | true => rfl

private theorem elim_or {first second : Option Char} {otherwise : Bool} :
    (first.or second).elim otherwise isCased =
      first.elim (second.elim otherwise isCased) isCased := by
  cases first with
  | none => rfl
  | some letter => rfl

theorem casedAhead_append (behind : Bool) (left right : List Char) :
    casedAhead behind (left ++ right) = casedAhead (casedAhead behind right) left := by
  unfold casedAhead
  rw [firstSeen_append, elim_or]

theorem casedBefore_append (before : Bool) (left right : List Char) :
    casedBefore before (left ++ right) = casedBefore (casedBefore before left) right := by
  unfold casedBefore
  rw [lastSeen_append, elim_or]

private theorem casedBefore_singleton (before : Bool) (letter : Char) :
    casedBefore before [letter] = if isCaseIgnorable letter then before else isCased letter := by
  unfold casedBefore lastSeen
  rw [List.reverse_singleton, firstSeen_singleton]
  cases isCaseIgnorable letter with
  | false => rfl
  | true => rfl

private theorem casedFollows_eq (letters : List Char) :
    casedFollows letters = casedAhead false letters := by
  unfold casedFollows casedAhead firstSeen
  induction letters with
  | nil => rfl
  | cons letter letters ih =>
      rw [List.dropWhile_cons, List.find?_cons]
      cases isCaseIgnorable letter with
      | false => rfl
      | true => exact ih

/-! ### Lower case between two ends -/

def lowerLetter (before behind : Bool) (letter : Char) : List Char :=
  if letter = 'Σ' then (if before && !behind then ['ς'] else ['σ']) else lowerChar letter

/-- The lower case of letters that stand inside a text. The flags tell whether the letter
seen at either end of them is cased. -/
def lowerBetween (behind : Bool) : (before : Bool) → List Char → List Char
  | _, [] => []
  | before, letter :: rest =>
      lowerLetter before (casedAhead behind rest) letter ++
        lowerBetween behind (casedBefore before [letter]) rest

private theorem lowerAfter_eq (before : Bool) (letters : List Char) :
    lowerAfter before letters = lowerBetween false before letters := by
  induction letters generalizing before with
  | nil => rfl
  | cons letter letters ih =>
      rw [lowerAfter, lowerBetween, ih, casedFollows_eq, casedBefore_singleton]
      rfl

theorem lower_eq (letters : List Char) : lower letters = lowerBetween false false letters :=
  lowerAfter_eq false letters

theorem lowerBetween_append (behind before : Bool) (left right : List Char) :
    lowerBetween behind before (left ++ right) =
      lowerBetween (casedAhead behind right) before left ++
        lowerBetween behind (casedBefore before left) right := by
  induction left generalizing before with
  | nil => rfl
  | cons letter left ih =>
      have carried : casedBefore (casedBefore before [letter]) left =
          casedBefore before (letter :: left) := (casedBefore_append before [letter] left).symm
      rw [List.cons_append, lowerBetween, lowerBetween, ih, casedAhead_append, carried,
        List.append_assoc]

theorem firstSeen_sigma (letters : List Char) : firstSeen ('Σ' :: letters) = some 'Σ' := by
  have seen : firstSeen ['Σ'] = some 'Σ' := by decide +kernel
  rw [← List.singleton_append, firstSeen_append, seen, Option.some_or]

private theorem isCased_sigma : isCased 'Σ' = true := by decide +kernel

/-- A sigma parts what stands before it from what stands behind it. -/
theorem lowerBetween_sigma (behind before : Bool) (front rest : List Char) :
    lowerBetween behind before (front ++ 'Σ' :: rest) =
      lowerBetween true before front ++
        lowerLetter (casedBefore before front) (casedAhead behind rest) 'Σ' ++
          lowerBetween behind true rest := by
  have ahead : casedAhead behind ('Σ' :: rest) = true := by
    unfold casedAhead
    rw [firstSeen_sigma]
    exact isCased_sigma
  have past : casedBefore (casedBefore before front) ['Σ'] = true := by
    unfold casedBefore lastSeen
    rw [List.reverse_singleton, firstSeen_sigma]
    exact isCased_sigma
  rw [lowerBetween_append, lowerBetween, ahead, past, List.append_assoc]

/-! ### Settled texts -/

/-- A sigma whose form does not depend on what its text is put between: the letter seen
before it is not cased, the letter seen behind it is cased, or both are in the text. -/
def SettledAt (front rest : List Char) : Prop :=
  (lastSeen front).any (fun letter => !isCased letter) = true ∨
    (firstSeen rest).any isCased = true ∨
    ((lastSeen front).isSome = true ∧ (firstSeen rest).isSome = true)

/-- A text whose sigmas are all settled. -/
def IsSettled (letters : List Char) : Prop :=
  ∀ front rest, letters = front ++ 'Σ' :: rest → SettledAt front rest

instance (front rest : List Char) : Decidable (SettledAt front rest) :=
  inferInstanceAs (Decidable (_ = true ∨ _ = true ∨ (_ = true ∧ _ = true)))

private theorem isSettled_iff_index (letters : List Char) :
    IsSettled letters ↔ ∀ index < letters.length, letters[index]? = some 'Σ' →
      SettledAt (letters.take index) (letters.drop (index + 1)) := by
  constructor
  · intro settled index inside sigma
    apply settled
    rw [List.getElem?_eq_getElem inside] at sigma
    rw [← Option.some.inj sigma, List.getElem_cons_drop, List.take_append_drop]
  · rintro indices front rest rfl
    have settled := indices front.length (by simp) (by simp)
    rwa [List.take_left, ← List.singleton_append, ← List.append_assoc,
      List.drop_left' (by simp)] at settled

instance (letters : List Char) : Decidable (IsSettled letters) :=
  decidable_of_iff _ (isSettled_iff_index letters).symm

theorem isSettled_of_not_mem {letters : List Char} (without : 'Σ' ∉ letters) :
    IsSettled letters := by
  rintro front rest rfl
  exact absurd (List.mem_append_right front List.mem_cons_self) without

private theorem SettledAt.lowerLetter_sigma {front rest : List Char}
    (settled : SettledAt front rest)
    (before behind : Bool) :
    lowerLetter (casedBefore before front) (casedAhead behind rest) 'Σ' =
      lowerLetter (casedBefore false front) (casedAhead false rest) 'Σ' := by
  unfold SettledAt at settled
  unfold casedBefore casedAhead
  cases last : lastSeen front with
  | none =>
      cases first : firstSeen rest with
      | none => simp [last, first] at settled
      | some ahead =>
          have cased : isCased ahead = true := by simpa [last, first] using settled
          simp [lowerLetter, cased]
  | some ago =>
      cases first : firstSeen rest with
      | none =>
          have uncased : isCased ago = false := by simpa [last, first] using settled
          simp [lowerLetter, uncased]
      | some ahead => rfl

/-- The lower case of what is left of a settled text is the same between any ends. -/
theorem IsSettled.lowerBetween_eq {letters : List Char} (settled : IsSettled letters)
    (behind before : Bool) :
    lowerBetween behind before letters = lower letters := by
  have left (read rest : List Char) (whole : letters = read ++ rest) :
      lowerBetween behind (casedBefore before read) rest =
        lowerBetween false (casedBefore false read) rest := by
    induction rest generalizing read with
    | nil => rfl
    | cons letter rest ih =>
        have next := ih (read ++ [letter]) (by rw [whole, List.append_assoc]; rfl)
        rw [casedBefore_append, casedBefore_append] at next
        rw [lowerBetween, lowerBetween, next]
        congr 1
        by_cases sigma : letter = 'Σ'
        · subst sigma
          exact (settled read rest whole).lowerLetter_sigma before behind
        · rw [lowerLetter, lowerLetter, if_neg sigma, if_neg sigma]
  rw [lower_eq]
  exact left [] letters rfl

private theorem not_mem_of_firstSeen_eq_none {letters : List Char}
    (unseen : firstSeen letters = none) :
    'Σ' ∉ letters := by
  intro member
  obtain ⟨front, rest, rfl⟩ := List.append_of_mem member
  rw [firstSeen_append, firstSeen_sigma, Option.or_eq_none_iff] at unseen
  cases unseen.2

private theorem isSettled_of_firstSeen {letters : List Char} (unseen : firstSeen letters = none) :
    IsSettled letters :=
  isSettled_of_not_mem (not_mem_of_firstSeen_eq_none unseen)

private theorem isSettled_of_lastSeen {letters : List Char} (unseen : lastSeen letters = none) :
    IsSettled letters :=
  isSettled_of_not_mem
    (fun member => not_mem_of_firstSeen_eq_none unseen (List.mem_reverse.mpr member))

/-! ### Occurrences -/

private theorem occurs_lower_of_isSettled {word : List Char} (settled : IsSettled word)
    {letters : List Char}
    (found : occurs word letters = true) : occurs (lower word) (lower letters) = true := by
  obtain ⟨front, back, rfl⟩ := (occurs_iff _ _).mp found
  refine (occurs_iff _ _).mpr
    ⟨lowerBetween (casedAhead (casedAhead false back) word) false front,
      lowerBetween false (casedBefore false (front ++ word)) back, ?_⟩
  rw [lower_eq, lowerBetween_append, lowerBetween_append, settled.lowerBetween_eq]

private theorem count_le_of_occurs {word letters : List Char} (found : occurs word letters = true)
    (letter : Char) : word.count letter ≤ letters.count letter := by
  obtain ⟨front, back, rfl⟩ := (occurs_iff _ _).mp found
  rw [List.count_append, List.count_append]
  omega

/-- A cased letter behind the text takes the final form from a sigma at its end. -/
theorem not_occurs_behind {front rest : List Char} {ago : Char} (last : lastSeen front = some ago)
    (cased : isCased ago = true) (unseen : firstSeen rest = none) :
    occurs (lower (front ++ 'Σ' :: rest)) (lower ((front ++ 'Σ' :: rest) ++ ['Α'])) = false := by
  have alone : lower (front ++ 'Σ' :: rest) =
      lowerBetween true false front ++ ['ς'] ++ lower rest := by
    rw [lower_eq, lowerBetween_sigma, (isSettled_of_firstSeen unseen).lowerBetween_eq]
    simp [casedBefore, casedAhead, last, cased, unseen, lowerLetter]
  have ahead : casedAhead false ['Α'] = true := by decide +kernel
  have longer : lower ((front ++ 'Σ' :: rest) ++ ['Α']) =
      lowerBetween true false front ++ ['σ'] ++ lower rest ++ ['α'] := by
    have alpha (before : Bool) : lowerBetween false before ['Α'] = ['α'] := by
      cases before <;> decide +kernel
    rw [lower_eq, lowerBetween_append, ahead, alpha, lowerBetween_sigma,
      (isSettled_of_firstSeen unseen).lowerBetween_eq]
    simp [casedBefore, casedAhead, last, cased, unseen, lowerLetter]
  refine Bool.eq_false_iff.mpr (fun found => ?_)
  have counts := count_le_of_occurs found 'ς'
  rw [alone, longer] at counts
  simp only [List.count_append, List.count_singleton_self] at counts
  have noSigma : List.count 'ς' ['σ'] = 0 ∧ List.count 'ς' ['α'] = 0 := by decide
  omega

/-- A cased letter before the text gives the final form to a sigma at its start. -/
theorem not_occurs_before {front rest : List Char} (unseen : lastSeen front = none)
    (uncased : (firstSeen rest).any isCased = false) :
    occurs (lower (front ++ 'Σ' :: rest)) (lower ('Α' :: (front ++ 'Σ' :: rest))) = false := by
  have follows : casedAhead false rest = false := by
    unfold casedAhead
    cases first : firstSeen rest with
    | none => rfl
    | some ahead => simpa [first] using uncased
  have alone : lower (front ++ 'Σ' :: rest) =
      lower front ++ ['σ'] ++ lowerBetween false true rest := by
    rw [lower_eq, lowerBetween_sigma, (isSettled_of_lastSeen unseen).lowerBetween_eq]
    simp [casedBefore, unseen, lowerLetter]
  have past : casedBefore false ['Α'] = true := by decide +kernel
  have longer : lower ('Α' :: (front ++ 'Σ' :: rest)) =
      ['α'] ++ (lower front ++ ['ς'] ++ lowerBetween false true rest) := by
    have alpha (behind : Bool) : lowerBetween behind false ['Α'] = ['α'] := by
      cases behind <;> decide +kernel
    rw [lower_eq, ← List.singleton_append, lowerBetween_append, alpha, past, lowerBetween_sigma,
      (isSettled_of_lastSeen unseen).lowerBetween_eq]
    simp [casedBefore, unseen, lowerLetter, follows]
  refine Bool.eq_false_iff.mpr (fun found => ?_)
  have counts := count_le_of_occurs found 'σ'
  rw [alone, longer] at counts
  simp only [List.count_append, List.count_singleton_self] at counts
  have noSigma : List.count 'σ' ['ς'] = 0 ∧ List.count 'σ' ['α'] = 0 := by decide
  omega

/-- The lower case of a text is found wherever the text is if its sigmas are settled, and
only then. -/
theorem occurs_lower_iff_isSettled (word : List Char) :
    (∀ letters, occurs word letters = true → occurs (lower word) (lower letters) = true) ↔
      IsSettled word := by
  refine ⟨fun always => ?_, fun settled letters => occurs_lower_of_isSettled settled⟩
  rintro front rest rfl
  cases last : lastSeen front with
  | none =>
      cases cased : (firstSeen rest).any isCased with
      | true => exact Or.inr (Or.inl cased)
      | false =>
          have missed := not_occurs_before last cased
          rw [always _ ((occurs_iff _ _).mpr ⟨['Α'], [], by simp⟩)] at missed
          cases missed
  | some ago =>
      cases cased : isCased ago with
      | false => exact Or.inl (by simp [last, cased])
      | true =>
          refine Or.inr (Or.inr ⟨by rw [last]; rfl, ?_⟩)
          cases first : firstSeen rest with
          | some ahead => rfl
          | none =>
              have missed := not_occurs_behind last cased first
              rw [always _ ((occurs_iff _ _).mpr ⟨[], ['Α'], by simp⟩)] at missed
              cases missed

example : IsSettled "ΣΟΦΙΑ".toList ∧ ¬IsSettled "ΚΩΣ".toList := by decide +kernel

/-! ### One form of sigma -/

/-- Both forms of a small sigma as the one inside words. -/
def plainSigma (letter : Char) : Char :=
  if letter = 'ς' then 'σ' else letter

private theorem lowerLetter_plain (before behind : Bool) (letter : Char) :
    (lowerLetter before behind letter).map plainSigma =
      (lowerLetter false false letter).map plainSigma := by
  unfold lowerLetter
  split
  · cases before <;> cases behind <;> rfl
  · rfl

private theorem lowerBetween_plain (behind before : Bool) (letters : List Char) :
    (lowerBetween behind before letters).map plainSigma =
      letters.flatMap (fun letter => (lowerLetter false false letter).map plainSigma) := by
  induction letters generalizing before with
  | nil => rfl
  | cons letter letters ih =>
      rw [lowerBetween, List.map_append, ih, lowerLetter_plain, List.flatMap_cons]

/-- Nothing but the form of a sigma is ever missed. -/
theorem occurs_plain {word letters : List Char} (found : occurs word letters = true) :
    occurs ((lower word).map plainSigma) ((lower letters).map plainSigma) = true := by
  obtain ⟨front, back, rfl⟩ := (occurs_iff _ _).mp found
  refine (occurs_iff _ _).mpr
    ⟨(lower front).map plainSigma, (lower back).map plainSigma, ?_⟩
  simp only [lower_eq, lowerBetween_plain, List.flatMap_append]

end QueryWarden.Text
