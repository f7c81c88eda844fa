/-
Names in conditions. An identifier is one word, and so are two of them with a point in
between. A parameter whose name is an identifier with a number behind it is one word too,
unless a line break comes before the number, which is then a word of its own.
-/

import QueryWarden.Identifier
import QueryWarden.Proofs.Condition.Token

namespace QueryWarden

open Text Condition

/-- The letters of an identifier without the line break that may be at its end. -/
def Identifier.word (identifier : Identifier) : List Char :=
  identifier.name.toList.takeWhile isNamePart

namespace Text

/-! The classes of ASCII letters by their code points. -/

private theorem toNat_of_isUpper {letter : Char} (upper : letter.isUpper = true) :
    65 ≤ letter.toNat ∧ letter.toNat ≤ 90 :=
  of_decide_eq_true upper

theorem toNat_of_isLower {letter : Char} (lower : letter.isLower = true) :
    97 ≤ letter.toNat ∧ letter.toNat ≤ 122 := by
  have bounds := Bool.and_eq_true_iff.mp lower
  exact ⟨of_decide_eq_true bounds.1, of_decide_eq_true bounds.2⟩

theorem toNat_of_isDigit {letter : Char} (digit : letter.isDigit = true) :
    48 ≤ letter.toNat ∧ letter.toNat ≤ 57 :=
  Char.isDigit_iff_toNat.mp digit

private theorem toNat_of_isAlpha {letter : Char} (alpha : letter.isAlpha = true) :
    65 ≤ letter.toNat ∧ letter.toNat ≤ 90 ∨ 97 ≤ letter.toNat ∧ letter.toNat ≤ 122 := by
  rcases Bool.or_eq_true_iff.mp alpha with upper | lower
  · exact .inl (toNat_of_isUpper upper)
  · exact .inr (toNat_of_isLower lower)

theorem isNamePart_of_isNameStart {letter : Char} (starts : isNameStart letter = true) :
    isNamePart letter = true := by
  rcases Bool.or_eq_true_iff.mp starts with alpha | line
  · exact Bool.or_eq_true_iff.mpr (.inl (Bool.or_eq_true_iff.mpr (.inl alpha)))
  · exact Bool.or_eq_true_iff.mpr (.inr line)

theorem isNamePart_of_isUpper {letter : Char} (upper : letter.isUpper = true) :
    isNamePart letter = true := by
  have alpha : letter.isAlpha = true := Bool.or_eq_true_iff.mpr (.inl upper)
  exact Bool.or_eq_true_iff.mpr (.inl (Bool.or_eq_true_iff.mpr (.inl alpha)))

theorem isNamePart_of_isLower {letter : Char} (lower : letter.isLower = true) :
    isNamePart letter = true := by
  have alpha : letter.isAlpha = true := Bool.or_eq_true_iff.mpr (.inr lower)
  exact Bool.or_eq_true_iff.mpr (.inl (Bool.or_eq_true_iff.mpr (.inl alpha)))

theorem isNamePart_of_isDigit {letter : Char} (digit : letter.isDigit = true) :
    isNamePart letter = true :=
  Bool.or_eq_true_iff.mpr (.inl (Bool.or_eq_true_iff.mpr (.inr digit)))

private theorem not_isDigit_of_isNameStart {letter : Char} (starts : isNameStart letter = true) :
    letter.isDigit = false := by
  cases digit : letter.isDigit with
  | false => rfl
  | true =>
      have low := toNat_of_isDigit digit
      rcases Bool.or_eq_true_iff.mp starts with alpha | line
      · have high := toNat_of_isAlpha alpha
        omega
      · rw [eq_of_beq line] at digit
        cases digit

theorem toNat_of_isNamePart {letter : Char} (part : isNamePart letter = true) :
    48 ≤ letter.toNat ∧ letter.toNat ≤ 57 ∨ 65 ≤ letter.toNat ∧ letter.toNat ≤ 90 ∨
      letter.toNat = 95 ∨ 97 ≤ letter.toNat ∧ letter.toNat ≤ 122 := by
  rcases Bool.or_eq_true_iff.mp part with alphanum | line
  · rcases Bool.or_eq_true_iff.mp alphanum with alpha | digit
    · have high := toNat_of_isAlpha alpha
      omega
    · exact .inl (toNat_of_isDigit digit)
  · rw [eq_of_beq line]
    decide

theorem isWord_of_isNamePart {letter : Char} (part : isNamePart letter = true) :
    isWord letter = true := by
  have codes := toNat_of_isNamePart part
  rw [isWord, inRanges_iff]
  rcases codes with digit | upper | line | lower
  · exact ⟨(48, 57), by decide +kernel, digit⟩
  · exact ⟨(65, 90), by decide +kernel, upper⟩
  · exact ⟨(95, 95), by decide +kernel, line ▸ Nat.le_refl 95, line ▸ Nat.le_refl 95⟩
  · exact ⟨(97, 122), by decide +kernel, lower⟩

theorem not_isBlank_of_isNamePart {letter : Char} (part : isNamePart letter = true) :
    isBlank letter = false := by
  have codes := toNat_of_isNamePart part
  rw [isBlank, inRanges, List.any_eq_false]
  intro range member
  have apart : range.2 < 48 ∨ 122 < range.1 := by
    have all : ∀ range ∈ blankRanges, range.2 < 48 ∨ 122 < range.1 := by decide
    exact all range member
  simp only [Bool.and_eq_true, decide_eq_true_eq]
  omega

end Text

/-! ### Identifiers -/

inductive NameTail : List Char → Prop where
  | nothing : NameTail []
  | lineBreak : NameTail ['\n']

theorem isNameRest_shape {letters : List Char} (plain : isNameRest letters = true) :
    ∃ word tail, letters = word ++ tail ∧ (∀ letter ∈ word, isNamePart letter = true) ∧
      NameTail tail := by
  induction letters with
  | nil => exact ⟨[], [], rfl, fun _ member => (nomatch member), .nothing⟩
  | cons letter letters ih =>
      by_cases last : letter = '\n' ∧ letters = []
      · obtain ⟨rfl, rfl⟩ := last
        exact ⟨[], ['\n'], rfl, fun _ member => (nomatch member), .lineBreak⟩
      · have parts : isNamePart letter = true ∧ isNameRest letters = true := by
          rw [isNameRest, Bool.and_eq_true] at plain
          · exact plain
          · exact fun isBreak isLast => last ⟨isBreak, isLast⟩
        obtain ⟨word, tail, rfl, wordParts, tailShape⟩ := ih parts.2
        refine ⟨letter :: word, tail, rfl, ?_, tailShape⟩
        intro other member
        rcases List.mem_cons.mp member with rfl | inside
        · exact parts.1
        · exact wordParts other inside

private theorem takeWhile_nameTail {word tail : List Char}
    (parts : ∀ letter ∈ word, isNamePart letter = true) (shape : NameTail tail) :
    (word ++ tail).takeWhile isNamePart = word := by
  rw [List.takeWhile_append_of_pos parts]
  cases shape with
  | nothing => exact List.append_nil word
  | lineBreak => exact List.append_nil word

/-- An identifier is its word, which starts with a letter or an underscore, and perhaps a
line break. -/
theorem Identifier.shape (identifier : Identifier) :
    ∃ first rest tail, identifier.word = first :: rest ∧
      identifier.name.toList = first :: rest ++ tail ∧ isNameStart first = true ∧
      (∀ letter ∈ first :: rest, isNamePart letter = true) ∧ NameTail tail := by
  have plain := identifier.plain
  cases letters : identifier.name.toList with
  | nil => rw [letters] at plain; cases plain
  | cons first others =>
      rw [letters, isIdentifier, Bool.and_eq_true] at plain
      obtain ⟨rest, tail, rfl, parts, shape⟩ := isNameRest_shape plain.2
      have all : ∀ letter ∈ first :: rest, isNamePart letter = true := by
        intro letter member
        rcases List.mem_cons.mp member with rfl | inside
        · exact isNamePart_of_isNameStart plain.1
        · exact parts letter inside
      refine ⟨first, rest, tail, ?_, rfl, plain.1, all, shape⟩
      rw [Identifier.word, letters, ← List.cons_append, takeWhile_nameTail all shape]

namespace Condition

/-! ### Names as tokens -/

theorem tokensWith_word {word : List Char} (before rest : List Char)
    (parts : ∀ letter ∈ word, isNamePart letter = true) :
    tokensWith (.word before) (word ++ rest) = tokensWith (.word (before ++ word)) rest := by
  induction word generalizing before with
  | nil => rw [List.append_nil, List.nil_append]
  | cons letter word ih =>
      have isWord := isWord_of_isNamePart (parts letter List.mem_cons_self)
      have further : Hand.advance (.word before) letter =
          some ([], .word (before ++ [letter])) := by
        simp only [Hand.advance, isWord, if_true]
      rw [List.cons_append, tokensWith_cons further,
        ih _ (fun other member => parts other (List.mem_cons_of_mem letter member)),
        List.append_assoc, List.singleton_append]
      exact Option.map_id'

theorem advance_lineBreak (word : List Char) :
    Hand.advance (.word word) '\n' = some ([], .blankBehind word) := by
  have notWord : isWord '\n' = false := by decide +kernel
  simp only [Hand.advance, notWord, isBlank_newline, Bool.false_eq_true, if_false, if_true]

private theorem tokensWith_nameTail {tail : List Char} (word : List Char) (shape : NameTail tail) :
    tokensWith (.word word) tail = some [.word word] := by
  cases shape with
  | nothing => rfl
  | lineBreak =>
      rw [tokensWith_cons (advance_lineBreak word)]
      rfl

private theorem tokensWith_nameTail_point {tail : List Char} (word rest : List Char)
    (shape : NameTail tail) :
    tokensWith (.word word) (tail ++ '.' :: rest) = tokensWith (.pointBehind word) rest := by
  have notWord : isWord '.' = false := by decide +kernel
  have notBlank : isBlank '.' = false := by decide
  cases shape with
  | nothing =>
      have further : Hand.advance (.word word) '.' = some ([], .pointBehind word) := by
        simp only [Hand.advance, notWord, notBlank, Bool.false_eq_true, if_false, if_true]
      rw [List.nil_append, tokensWith_cons further]
      exact Option.map_id'
  | lineBreak =>
      have point : Hand.advance (.blankBehind word) '.' = some ([], .pointBehind word) := by
        simp only [Hand.advance, notBlank, Bool.false_eq_true, if_false, if_true]
      rw [List.singleton_append, tokensWith_cons (advance_lineBreak word),
        tokensWith_cons point, Option.map_map]
      exact Option.map_id'

private theorem begun_namePart {letter : Char} (part : isNamePart letter = true) :
    begun letter = ([], .word [letter]) := by
  simp only [begun, not_isBlank_of_isNamePart part, isWord_of_isNamePart part, Bool.true_or,
    Bool.false_eq_true, if_false, if_true]

theorem tokens_namePart {word : List Char} {first : Char} (rest : List Char)
    (parts : ∀ letter ∈ first :: word, isNamePart letter = true) :
    tokens (first :: word ++ rest) = tokensWith (.word (first :: word)) rest := by
  have further : Hand.nothing.advance first = some ([], .word [first]) := by
    rw [Hand.advance, after, begun_namePart (parts first List.mem_cons_self)]
    rfl
  rw [tokens, List.cons_append, tokensWith_cons further,
    tokensWith_word _ _ (fun letter member => parts letter (List.mem_cons_of_mem first member))]
  exact Option.map_id'

theorem tokens_identifier (identifier : Identifier) :
    tokens identifier.name.toList = some [.word identifier.word] := by
  obtain ⟨first, rest, tail, word, letters, _, parts, shape⟩ := identifier.shape
  rw [word, letters, tokens_namePart tail parts, tokensWith_nameTail _ shape]

theorem tokens_property (node key : Identifier) :
    tokens (node.name.toList ++ '.' :: key.name.toList) =
      some [.word (node.word ++ '.' :: key.word)] := by
  obtain ⟨first, rest, tail, word, letters, _, parts, shape⟩ := node.shape
  obtain ⟨keyFirst, keyRest, keyTail, keyWord, keyLetters, keyStarts, keyParts, keyShape⟩ :=
    key.shape
  have isWord := isWord_of_isNamePart (keyParts keyFirst List.mem_cons_self)
  have joins : Hand.advance (.pointBehind (first :: rest)) keyFirst =
      some ([], .word (first :: rest ++ ['.', keyFirst])) := by
    simp only [Hand.advance, not_isDigit_of_isNameStart keyStarts, isWord, Bool.false_eq_true,
      if_false, if_true]
  rw [word, letters, List.append_assoc, tokens_namePart _ parts,
    tokensWith_nameTail_point _ _ shape, keyLetters, List.cons_append, tokensWith_cons joins,
    tokensWith_word _ _ (fun letter member => keyParts letter (List.mem_cons_of_mem _ member)),
    tokensWith_nameTail _ keyShape, keyWord, List.append_assoc]
  rfl

def parameterWords (stem : Identifier) (digits : List Char) : List Token :=
  if stem.name.toList = stem.word then [.word ('$' :: (stem.word ++ digits))]
  else [.word ('$' :: stem.word), .word digits]

/-- A numeral behind a line break is a word of its own. -/
theorem tokensWith_lineBreak {word digits : List Char} (nonempty : digits ≠ [])
    (numeral : ∀ letter ∈ digits, letter.isDigit = true) :
    tokensWith (.word word) ('\n' :: digits) = some [.word word, .word digits] := by
  have digitParts : ∀ letter ∈ digits, isNamePart letter = true :=
    fun letter member => isNamePart_of_isDigit (numeral letter member)
  cases digits with
  | nil => exact absurd rfl nonempty
  | cons digit digits =>
      have notBlank := not_isBlank_of_isNamePart (digitParts digit List.mem_cons_self)
      have notPoint : digit ≠ '.' := by
        rintro rfl
        exact absurd (numeral '.' List.mem_cons_self) (by decide)
      have apart : ∀ held, Hand.blankBehind word ≠ .word held := by
        intro held same
        cases same
      have done : (Hand.blankBehind word).complete = some [.word word] := rfl
      have anew := advance_anew done notBlank notPoint (.inr apart)
      have alone := tokens_namePart [] digitParts
      rw [List.append_nil] at alone
      rw [tokensWith_cons (advance_lineBreak word), tokensWith_anew digits anew, alone]
      rfl

theorem tokens_parameter (stem : Identifier) {digits : List Char} (nonempty : digits ≠ [])
    (numeral : ∀ letter ∈ digits, letter.isDigit = true) :
    tokens ('$' :: (stem.name.toList ++ digits)) = some (parameterWords stem digits) := by
  obtain ⟨first, rest, tail, word, letters, _, parts, shape⟩ := stem.shape
  have digitParts : ∀ letter ∈ digits, isNamePart letter = true :=
    fun letter member => isNamePart_of_isDigit (numeral letter member)
  have dollar : Hand.nothing.advance '$' = some ([], .word ['$']) := by decide +kernel
  rw [tokens, tokensWith_cons dollar, letters, List.append_assoc, tokensWith_word _ _ parts,
    parameterWords, word, letters]
  cases shape with
  | nothing =>
      rw [List.append_nil, if_pos rfl, List.nil_append, ← List.append_nil digits,
        tokensWith_word _ _ digitParts, List.append_nil]
      rfl
  | lineBreak =>
      have longer : ¬first :: rest ++ ['\n'] = first :: rest :=
        fun same => List.cons_ne_nil _ _ (List.append_right_eq_self.mp same)
      rw [if_neg longer]
      exact congrArg (Option.map _) (tokensWith_lineBreak nonempty numeral)

end Condition

end QueryWarden
