/-
The letters of numbers. The decimal text of a natural number consists of digits, and the
text of any number that can be a limit of digits and a few marks: a sign, a point, an
exponent, or the names of infinity, of what is no number and of the truth value that counts
as one.
-/

import Mathlib.Algebra.Ring.Int.Defs
import Mathlib.Algebra.Ring.Nat
import QueryWarden.Number.Shortest
import QueryWarden.Value.Integer

namespace QueryWarden.Number

/-! ### Digits -/

theorem decimalDigits_eq (number : Nat) : decimalDigits number = Nat.toDigits 10 number := by
  rw [decimalDigits, Nat.toString_eq_repr, Nat.toList_repr]

theorem decimalDigits_injective : Function.Injective decimalDigits := by
  intro number other same
  rw [decimalDigits_eq, decimalDigits_eq] at same
  have values := congrArg (fun digits => Nat.ofDigitChars 10 digits 0) same
  simpa only [Nat.ofDigitChars_ten_toDigits] using values

theorem isDigit_of_mem_decimalDigits {number : Nat} {letter : Char}
    (member : letter ∈ decimalDigits number) : letter.isDigit = true := by
  rw [decimalDigits_eq] at member
  exact Nat.isDigit_of_mem_toDigits (by decide) (Nat.le_refl 10) member

theorem decimalDigits_ne_nil (number : Nat) : decimalDigits number ≠ [] := by
  rw [decimalDigits_eq]
  exact Nat.toDigits_ne_nil

private theorem decimalDigits_of_ten_le {number : Nat} (large : 10 ≤ number) :
    decimalDigits number = decimalDigits (number / 10) ++ [(number % 10).digitChar] := by
  simp only [decimalDigits_eq]
  exact Nat.toDigits_of_base_le (by decide) large

theorem decimalDigits_tenfold {number : Nat} (positive : 0 < number) :
    decimalDigits (10 * number) = decimalDigits number ++ decimalDigits 0 := by
  have tenfold := Nat.toDigits_append_toDigits (b := 10) (d := 0) (by decide) positive (by decide)
  simp only [decimalDigits_eq]
  exact tenfold.symm

theorem isUnwritable_iff (integer : Int) :
    isUnwritable integer = true ↔ 10 ^ longestInteger ≤ integer.natAbs := by
  rw [isUnwritable, decide_eq_true_iff, Nat.toString_eq_repr, ← Nat.not_le,
    Nat.length_repr_le_iff (by decide), Nat.not_lt]

/-- Where the digits of a number are cut in two, those in front are the digits of a positive
number, and the whole is at least its tenfold. -/
theorem exists_leading {number : Nat} {front back : List Char} (nonempty : front ≠ [])
    (more : back ≠ []) (cut : decimalDigits number = front ++ back) :
    ∃ leading, 0 < leading ∧ front = decimalDigits leading ∧ 10 * leading ≤ number := by
  induction number using Nat.strongRecOn generalizing back with
  | ind number ih =>
      by_cases small : number < 10
      · have single : (decimalDigits number).length = 1 := by
          rw [decimalDigits_eq, Nat.toDigits_of_lt_base small]
          rfl
        have frontLength := List.length_pos_iff.mpr nonempty
        have backLength := List.length_pos_iff.mpr more
        rw [cut, List.length_append] at single
        omega
      · have large : 10 ≤ number := by omega
        obtain ⟨initial, last, rfl⟩ := (List.eq_nil_or_concat back).resolve_left more
        rw [decimalDigits_of_ten_le large, List.concat_eq_append, ← List.append_assoc] at cut
        have shorter := (List.append_inj' cut rfl).1
        by_cases whole : initial = []
        · subst whole
          rw [List.append_nil] at shorter
          exact ⟨number / 10, by omega, shorter.symm, by omega⟩
        · obtain ⟨leading, positive, same, bound⟩ := ih (number / 10) (by omega) whole shorter
          exact ⟨leading, positive, same, by omega⟩

/-! ### Numerals -/

def numeralMarks : List Char :=
  "+-.einfaTru".toList

def isNumeralLetter (letter : Char) : Bool :=
  letter.isDigit || numeralMarks.contains letter

def IsNumeral (letters : List Char) : Prop :=
  ∀ letter ∈ letters, isNumeralLetter letter = true

theorem IsNumeral.cons {letter : Char} {letters : List Char}
    (first : isNumeralLetter letter = true) (rest : IsNumeral letters) :
    IsNumeral (letter :: letters) := by
  intro other member
  rcases List.mem_cons.mp member with rfl | member
  · exact first
  · exact rest other member

theorem IsNumeral.append {left right : List Char} (first : IsNumeral left)
    (second : IsNumeral right) : IsNumeral (left ++ right) := by
  intro letter member
  rcases List.mem_append.mp member with member | member
  · exact first letter member
  · exact second letter member

theorem IsNumeral.sublist {letters part : List Char} (numeral : IsNumeral letters)
    (within : part.Sublist letters) : IsNumeral part :=
  fun letter member => numeral letter (within.subset member)

theorem isNumeral_nil : IsNumeral [] :=
  fun _ member => (List.not_mem_nil member).elim

theorem isNumeral_of_all {letters : List Char} (every : letters.all isNumeralLetter = true) :
    IsNumeral letters :=
  List.all_eq_true.mp every

theorem isNumeral_decimalDigits (number : Nat) : IsNumeral (decimalDigits number) :=
  fun _ member => Bool.or_eq_true_iff.mpr (Or.inl (isDigit_of_mem_decimalDigits member))

private theorem isNumeral_zeros (count : Nat) : IsNumeral (zeros count) := by
  intro letter member
  rw [List.eq_of_mem_replicate member]
  decide

private theorem isNumeral_exponentText (power : Int) : IsNumeral (exponentText power) := by
  unfold exponentText
  refine IsNumeral.cons ?_ ?_
  · split
    · decide
    · decide
  · split
    · exact (isNumeral_decimalDigits _).cons (by decide)
    · exact isNumeral_decimalDigits _

private theorem isNumeral_layOut {digits : List Char} (numeral : IsNumeral digits) (point : Int) :
    IsNumeral (layOut digits point) := by
  have start : IsNumeral ['0', '.'] := isNumeral_of_all (by decide)
  have finish : IsNumeral ['.', '0'] := isNumeral_of_all (by decide)
  unfold layOut
  split
  · split
    · exact (start.append (isNumeral_zeros _)).append numeral
    · split
      · exact (numeral.append (isNumeral_zeros _)).append finish
      · exact (numeral.sublist (List.take_sublist _ _)).append
          ((numeral.sublist (List.drop_sublist _ _)).cons (by decide))
  · have power := (isNumeral_exponentText (point - 1)).cons (by decide : isNumeralLetter 'e' = true)
    cases digits with
    | nil => exact isNumeral_nil
    | cons first rest =>
        have leading := numeral first List.mem_cons_self
        have others := numeral.sublist (List.sublist_cons_self first rest)
        cases rest with
        | nil => exact power.cons leading
        | cons second rest => exact ((others.append power).cons (by decide)).cons leading

private theorem isNumeral_dropFinalZeros {digits : List Char} (numeral : IsNumeral digits) :
    IsNumeral (dropFinalZeros digits) := by
  intro letter member
  have within := (List.dropWhile_sublist (· == '0')).subset (List.mem_reverse.mp member)
  exact numeral letter (List.mem_reverse.mp within)

private theorem isNumeral_shortest (significand : Nat) (exponent : Int) :
    IsNumeral (shortest significand exponent).1 := by
  unfold shortest
  dsimp only
  split
  · exact isNumeral_dropFinalZeros (isNumeral_decimalDigits _)
  · exact isNumeral_of_all (by decide)

private theorem isNumeral_double (number : Double) : IsNumeral number.text.toList := by
  cases number with
  | nan mark =>
      have every : "nan".toList.all isNumeralLetter = true := by decide
      exact isNumeral_of_all every
  | infinite negative =>
      cases negative with
      | true => exact isNumeral_of_all (by decide)
      | false => exact isNumeral_of_all (by decide)
  | finite negative significand exponent =>
      have body : IsNumeral (if significand = 0 then ['0', '.', '0']
          else layOut (shortest significand exponent).1 (shortest significand exponent).2) := by
        split
        · exact isNumeral_of_all (by decide)
        · exact isNumeral_layOut (isNumeral_shortest significand exponent) _
      unfold Double.text
      rw [String.toList_ofList]
      cases negative with
      | true => exact body.cons (by decide)
      | false => exact body

private theorem isNumeral_int (number : Int) : IsNumeral (toString number).toList := by
  rw [Int.toString_eq_repr, Int.repr_eq_if]
  split
  · exact isNumeral_decimalDigits number.toNat
  · rw [String.toList_append]
    exact (isNumeral_of_all (by decide)).append (isNumeral_decimalDigits (-number).toNat)

/-! ### Limits -/

/-- What has passed as a limit is written as a numeral. -/
theorem isNumeral_of_checkResultLimit {limit : Value} (passed : checkResultLimit limit = .ok ())
    {text : String} (shown : limit.shown? = some text) : IsNumeral text.toList := by
  cases limit with
  | bool value =>
      cases value with
      | true =>
          cases shown
          exact isNumeral_of_all (by decide)
      | false => cases passed
  | int value =>
      change (if isUnwritable value then none else some (toString value)) = some text at shown
      split at shown
      · cases shown
      · cases shown
        exact isNumeral_int value
  | float value =>
      cases shown
      exact isNumeral_double value
  | _ => cases passed

end QueryWarden.Number
