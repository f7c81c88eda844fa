/-
Searching a text that something is put behind or before. A word that the first letter of
the appended part cannot belong to stands either in the text or in what was appended, and
never across the seam.
-/

import Mathlib.Data.List.TakeWhile
import QueryWarden.Text.Blank
import QueryWarden.Text.Case
import QueryWarden.Text.Search

namespace QueryWarden.Text

/-! ### Blank letters -/

/-- A test that every code point from one to another passes is passed by every letter
between them. -/
theorem of_between {first last : Nat} (test : Char → Bool) {letter : Char}
    (within : first ≤ letter.toNat ∧ letter.toNat ≤ last)
    (passed : (List.range' first (last + 1 - first)).all
      (fun code => test (Char.ofNat code)) = true) : test letter = true := by
  have code := List.all_eq_true.mp passed letter.toNat
    (List.mem_range'_1.mpr ⟨within.1, by omega⟩)
  rw [Char.ofNat_toNat] at code
  exact code

/-- A test that every code point of some ranges passes is passed by every letter of them. -/
theorem of_inRanges {ranges : List (Nat × Nat)} (test : Char → Bool)
    (passed : ranges.all (fun range => (List.range' range.1 (range.2 + 1 - range.1)).all
      (fun code => test (Char.ofNat code))) = true)
    {letter : Char} (member : inRanges ranges letter = true) : test letter = true := by
  obtain ⟨range, within, bounds⟩ := (inRanges_iff ranges letter).mp member
  exact of_between test bounds (List.all_eq_true.mp passed range within)

theorem upperChar_of_isBlank {letter : Char} (blank : isBlank letter = true) :
    upperChar letter = [letter] :=
  eq_of_beq (of_inRanges (fun letter => upperChar letter == [letter]) (by decide +kernel) blank)

theorem isWord_of_isBlank {letter : Char} (blank : isBlank letter = true) :
    isWord letter = false :=
  eq_of_beq (of_inRanges (fun letter => isWord letter == false) (by decide +kernel) blank)

theorem isBlank_of_isWord {letter : Char} (inWord : isWord letter = true) :
    isBlank letter = false := by
  cases blank : isBlank letter with
  | false => rfl
  | true =>
      rw [isWord_of_isBlank blank] at inWord
      cases inWord

/-- Upper case leaves a text alone when it leaves each of its letters alone. -/
theorem upper_eq_self {letters : List Char}
    (fixed : ∀ letter ∈ letters, upperChar letter = [letter]) : upper letters = letters := by
  induction letters with
  | nil => rfl
  | cons letter letters ih =>
      have rest := ih (fun other member => fixed other (List.mem_cons_of_mem letter member))
      unfold upper at rest ⊢
      rw [List.flatMap_cons, fixed letter List.mem_cons_self, rest]
      rfl

/-! ### Cutting -/

theorem exists_dropRightWhile (chosen : Char → Bool) (letters : List Char) :
    ∃ cut, letters = dropRightWhile chosen letters ++ cut ∧
      ∀ letter ∈ cut, chosen letter = true := by
  refine ⟨(letters.reverse.takeWhile chosen).reverse, ?_, ?_⟩
  · unfold dropRightWhile
    rw [← List.reverse_append, List.takeWhile_append_dropWhile, List.reverse_reverse]
  · intro letter member
    exact List.mem_takeWhile_imp (List.mem_reverse.mp member)

theorem takeWhile_append_of_head? {chosen : Char → Bool} (letters : List Char) {tail : List Char}
    (stops : ∀ letter ∈ tail.head?, chosen letter = false) :
    (letters ++ tail).takeWhile chosen = letters.takeWhile chosen := by
  induction letters with
  | nil =>
      cases tail with
      | nil => rfl
      | cons letter tail =>
          rw [List.nil_append, List.takeWhile_cons, stops letter rfl]
          rfl
  | cons letter letters ih => rw [List.cons_append, List.takeWhile_cons, List.takeWhile_cons, ih]

theorem dropWhile_append_of_head? {chosen : Char → Bool} (letters : List Char) {tail : List Char}
    (stops : ∀ letter ∈ tail.head?, chosen letter = false) :
    (letters ++ tail).dropWhile chosen = letters.dropWhile chosen ++ tail := by
  induction letters with
  | nil =>
      cases tail with
      | nil => rfl
      | cons letter tail =>
          rw [List.nil_append, List.dropWhile_cons, stops letter rfl]
          rfl
  | cons letter letters ih =>
      rw [List.cons_append, List.dropWhile_cons, List.dropWhile_cons, ih]
      split
      · rfl
      · rfl

theorem dropBlanks_append (letters tail : List Char) :
    dropBlanks (letters ++ tail) =
      if dropBlanks letters = [] then dropBlanks tail else dropBlanks letters ++ tail := by
  unfold dropBlanks
  induction letters with
  | nil => rfl
  | cons letter letters ih =>
      rw [List.cons_append, List.dropWhile_cons, List.dropWhile_cons]
      split
      · exact ih
      · rfl

theorem dropBlanks_eq_nil {blanks : List Char} (blank : ∀ letter ∈ blanks, isBlank letter = true) :
    dropBlanks blanks = [] :=
  List.dropWhile_eq_nil_iff.mpr blank

/-! ### Words and what follows them -/

def Parted (word tail : List Char) : Prop :=
  ∀ letter ∈ tail.head?, letter ∉ word

theorem Parted.of_cons {first : Char} {word tail : List Char}
    (parted : Parted (first :: word) tail) : Parted word tail :=
  fun letter member within => parted letter member (List.mem_cons_of_mem first within)

/-- No word begins in a part that its letters do not begin. -/
theorem Parted.after?_eq_none {word tail : List Char} (parted : Parted word tail)
    (nonempty : word ≠ []) : after? word tail = none := by
  cases word with
  | nil => exact absurd rfl nonempty
  | cons first word =>
      cases tail with
      | nil => rfl
      | cons letter tail =>
          have different : first ≠ letter := by
            intro same
            exact parted letter rfl (same ▸ List.mem_cons_self)
          rw [after?, if_neg different]

theorem after?_append {word tail : List Char} (parted : Parted word tail) (letters : List Char) :
    after? word (letters ++ tail) = (after? word letters).map (· ++ tail) := by
  induction word generalizing letters with
  | nil => rfl
  | cons first word ih =>
      cases letters with
      | nil => exact parted.after?_eq_none (List.cons_ne_nil first word)
      | cons letter letters =>
          rw [List.cons_append, after?, after?]
          split
          · exact ih parted.of_cons letters
          · rfl

theorem occurs_append {word tail : List Char} (nonempty : word ≠ []) (parted : Parted word tail)
    (letters : List Char) :
    occurs word (letters ++ tail) = (occurs word letters || occurs word tail) := by
  induction letters with
  | nil =>
      rw [List.nil_append, occurs, List.isEmpty_eq_false_iff.mpr nonempty]
      rfl
  | cons letter letters ih =>
      rw [List.cons_append, occurs, occurs, ih, ← List.cons_append, after?_append parted,
        Option.isSome_map, Bool.or_assoc]

theorem mem_of_occurs {word letters : List Char} (found : occurs word letters = true)
    {letter : Char} (member : letter ∈ word) : letter ∈ letters := by
  obtain ⟨front, back, same⟩ := (occurs_iff word letters).mp found
  rw [same]
  exact List.mem_append_left back (List.mem_append_right front member)

theorem occurs_eq_false_of_not_mem {word letters : List Char} {letter : Char}
    (member : letter ∈ word) (foreign : letter ∉ letters) : occurs word letters = false :=
  Bool.eq_false_iff.mpr (fun found => foreign (mem_of_occurs found member))

/-! ### Words that stand by themselves -/

theorem startsOutsideWord_append (letters : List Char) {tail : List Char}
    (outside : startsOutsideWord tail = true) :
    startsOutsideWord (letters ++ tail) = startsOutsideWord letters := by
  cases letters with
  | nil => exact outside
  | cons letter letters => rfl

theorem standsHere_append {word tail : List Char} (parted : Parted word tail)
    (outside : startsOutsideWord tail = true) (letters : List Char) :
    standsHere word (letters ++ tail) = standsHere word letters := by
  unfold standsHere
  rw [after?_append parted]
  cases after? word letters with
  | none => rfl
  | some rest => exact startsOutsideWord_append rest outside

theorem Parted.standsHere_eq_false {word tail : List Char} (parted : Parted word tail)
    (nonempty : word ≠ []) : standsHere word tail = false := by
  unfold standsHere
  rw [parted.after?_eq_none nonempty]

theorem standsAfter_append {word tail : List Char} (nonempty : word ≠ [])
    (parted : Parted word tail) (outside : startsOutsideWord tail = true) (inWord : Bool)
    (letters : List Char) :
    standsAfter word inWord (letters ++ tail) =
      (standsAfter word inWord letters || standsAfter word false tail) := by
  induction letters generalizing inWord with
  | nil =>
      cases tail with
      | nil => rfl
      | cons letter tail =>
          rw [List.nil_append, standsAfter, standsAfter, standsAfter,
            parted.standsHere_eq_false nonempty, Bool.and_false, Bool.and_false, Bool.false_or,
            Bool.false_or]
  | cons letter letters ih =>
      rw [List.cons_append, standsAfter, standsAfter, ih, ← List.cons_append,
        standsHere_append parted outside, Bool.or_assoc]

/-- A word stands in a text with a part behind it if it stands in one of the two. -/
theorem hasWord_append {word tail : List Char} (nonempty : word ≠ []) (parted : Parted word tail)
    (outside : startsOutsideWord tail = true) (letters : List Char) :
    hasWord word (letters ++ tail) = (hasWord word letters || hasWord word tail) :=
  standsAfter_append nonempty parted outside false letters

private theorem occurs_of_standsAfter {word letters : List Char} {inWord : Bool}
    (stands : standsAfter word inWord letters = true) : occurs word letters = true := by
  induction letters generalizing inWord with
  | nil => cases stands
  | cons letter letters ih =>
      rw [occurs, Bool.or_eq_true]
      rw [standsAfter, Bool.or_eq_true, Bool.and_eq_true] at stands
      rcases stands with ⟨_, here⟩ | later
      · refine Or.inl ?_
        unfold standsHere at here
        cases found : after? word (letter :: letters) with
        | none =>
            rw [found] at here
            cases here
        | some rest => rfl
      · exact Or.inr (ih later)

theorem hasWord_eq_false_of_not_mem {word letters : List Char} {letter : Char}
    (member : letter ∈ word) (foreign : letter ∉ letters) : hasWord word letters = false :=
  Bool.eq_false_iff.mpr (fun stands =>
    foreign (mem_of_occurs (occurs_of_standsAfter stands) member))

/-! ### Blanks before a text -/

theorem dropBlanks_blanks_append {blanks : List Char}
    (blank : ∀ letter ∈ blanks, isBlank letter = true) (letters : List Char) :
    dropBlanks (blanks ++ letters) = dropBlanks letters := by
  rw [dropBlanks_append, if_pos (dropBlanks_eq_nil blank)]

/-- Letters that are neither of a word nor word characters change nothing before a text. -/
theorem hasWord_foreign_append {word foreign : List Char} (nonempty : word ≠ [])
    (outside : ∀ letter ∈ foreign, isWord letter = false ∧ letter ∉ word) (letters : List Char) :
    hasWord word (foreign ++ letters) = hasWord word letters := by
  induction foreign with
  | nil => rfl
  | cons letter foreign ih =>
      have parted : Parted word (letter :: (foreign ++ letters)) := by
        intro first same
        cases same
        exact (outside letter List.mem_cons_self).2
      rw [← ih (fun other member => outside other (List.mem_cons_of_mem letter member)),
        List.cons_append, hasWord, standsAfter, parted.standsHere_eq_false nonempty,
        (outside letter List.mem_cons_self).1, Bool.and_false, Bool.false_or, ← hasWord]

theorem occurs_foreign_append {word foreign : List Char} (nonempty : word ≠ [])
    (outside : ∀ letter ∈ foreign, letter ∉ word) (letters : List Char) :
    occurs word (foreign ++ letters) = occurs word letters := by
  induction foreign with
  | nil => rfl
  | cons letter foreign ih =>
      have parted : Parted word (letter :: (foreign ++ letters)) := by
        intro first same
        cases same
        exact outside letter List.mem_cons_self
      rw [← ih (fun other member => outside other (List.mem_cons_of_mem letter member)),
        List.cons_append, occurs, parted.after?_eq_none nonempty]
      rfl

end QueryWarden.Text
