/-
The limit at the end of a query, as its lexemes show it. The search for a limit works on the
copy without comments, and finds one only if the last two words of the query are a limit, or
pass for one with letters and digits of another script. A limit that is put behind a query is
the last of its words whatever the query is.
-/

import QueryWarden.Proofs.Query.Comments
import QueryWarden.Proofs.Text.Searching

namespace QueryWarden

open Text

/-! ### The end of a query -/

namespace Lexeme

def isGap : Lexeme → Bool
  | .bare letter => isBlank letter
  | .quoted _ _ => false
  | .comment => true

def isAscii : Lexeme → Bool
  | .bare letter => letter.toNat < 128
  | .quoted _ _ | .comment => true

def isTrailing (lexeme : Lexeme) : Bool :=
  lexeme.isGap || lexeme == .bare ';'

/-- The last two words of a query, apart from what may stand behind them. They are no part of
a quotation or a comment; the second may be any letters without a blank. -/
inductive LastWords : List Lexeme → List Char → List Char → Prop where
  | intro {before gap behind : List Lexeme} {word count : List Char}
      (outside : ∀ letter, before.getLast? = some (.bare letter) → isWord letter = false)
      (inWord : ∀ letter ∈ word, isWord letter = true)
      (parted : gap ≠ []) (gaps : ∀ lexeme ∈ gap, lexeme.isGap = true)
      (noBlank : ∀ letter ∈ count, isBlank letter = false)
      (trailing : ∀ lexeme ∈ behind, lexeme.isTrailing = true) :
      LastWords (before ++ (word.map .bare ++ (gap ++ (count.map .bare ++ behind)))) word count

end Lexeme

namespace RowLimit

def limitWord : List Char :=
  "LIMIT".toList

def IsCount (digit : Char → Bool) (count : List Char) : Prop :=
  (count ≠ [] ∧ ∀ letter ∈ count, digit letter = true) ∨
    ∃ name, count = '$' :: name ∧ name ≠ [] ∧ ∀ letter ∈ name, isWord letter = true

def IsLimit (word count : List Char) : Prop :=
  word.map Char.toUpper = limitWord ∧ IsCount Char.isDigit count

def folded (letter : Char) : Char :=
  if letter = 'ı' ∨ letter = 'İ' then 'I' else letter.toUpper

/-- What the search takes for a limit: its letters may have a dot too many or too few, and its
digits may be of any script. -/
def PassesForLimit (word count : List Char) : Prop :=
  word.map folded = limitWord ∧ IsCount isDigit count

def EndsInLimit (found : List Lexeme) : Prop :=
  ∃ word count, Lexeme.LastWords found word count ∧ IsLimit word count

/-! ### The search for a limit -/

theorem exists_of_skipSome {chosen : Char → Bool} {letters rest : List Char}
    (skipped : skipSome chosen letters = some rest) :
    ∃ run, letters = run ++ rest ∧ run ≠ [] ∧ ∀ letter ∈ run, chosen letter = true := by
  cases letters with
  | nil => cases skipped
  | cons letter letters =>
      rw [skipSome] at skipped
      split at skipped
      · next first =>
          cases skipped
          refine ⟨letter :: letters.takeWhile chosen, ?_, List.cons_ne_nil _ _, ?_⟩
          · exact congrArg (List.cons letter) List.takeWhile_append_dropWhile.symm
          · exact List.forall_mem_cons.mpr ⟨first, fun other => List.mem_takeWhile_imp⟩
      · cases skipped

private theorem exists_of_countAtEnd {letters : List Char} (ends : countAtEnd letters = true) :
    ∃ count blanks, letters = count ++ blanks ∧ IsCount isDigit count ∧
      ∀ letter ∈ blanks, isBlank letter = true := by
  unfold countAtEnd at ends
  split at ends
  · next rest =>
      cases skipped : skipSome isWord rest with
      | none =>
          rw [skipped] at ends
          cases ends
      | some blanks =>
          rw [skipped] at ends
          obtain ⟨name, rfl, nonempty, word⟩ := exists_of_skipSome skipped
          exact ⟨'$' :: name, blanks, rfl, Or.inr ⟨name, rfl, nonempty, word⟩,
            List.all_eq_true.mp ends⟩
  · next =>
      cases skipped : skipSome isDigit letters with
      | none =>
          rw [skipped] at ends
          cases ends
      | some blanks =>
          rw [skipped] at ends
          obtain ⟨number, rfl, nonempty, digits⟩ := exists_of_skipSome skipped
          exact ⟨number, blanks, rfl, Or.inl ⟨nonempty, digits⟩, List.all_eq_true.mp ends⟩

private theorem folded_of_isLetterI {letter : Char} (isI : afterLimitWord.isLetterI letter = true) :
    folded letter = 'I' := by
  unfold afterLimitWord.isLetterI at isI
  unfold folded
  split
  · rfl
  · next other =>
      obtain ⟨noDotless, noDotted⟩ := not_or.mp other
      simpa only [beq_false_of_ne noDotless, beq_false_of_ne noDotted, Bool.or_false,
        beq_iff_eq] using isI

theorem folded_of_toUpper {letter upper : Char} (same : letter.toUpper = upper)
    (other : upper ≠ 'ı' ∧ upper ≠ 'İ') : folded letter = upper := by
  unfold folded
  split
  · next dotted =>
      rcases dotted with rfl | rfl
      · exact (other.1 same.symm).elim
      · exact (other.2 same.symm).elim
  · exact same

private theorem exists_of_afterLimitWord {letters rest : List Char}
    (found : afterLimitWord letters = some rest) :
    ∃ word, letters = word ++ rest ∧ word.map folded = limitWord := by
  unfold afterLimitWord at found
  split at found
  · next first second third fourth fifth letters =>
      split at found
      · next spelled =>
          cases found
          obtain ⟨isL, isI, isM, isSecondI, isT⟩ := spelled
          refine ⟨[first, second, third, fourth, fifth], rfl, ?_⟩
          simp only [List.map_cons, List.map_nil, folded_of_toUpper isL (by decide),
            folded_of_isLetterI isI, folded_of_toUpper isM (by decide),
            folded_of_isLetterI isSecondI, folded_of_toUpper isT (by decide)]
          rfl
      · cases found
  · cases found

theorem exists_of_limitHere {letters : List Char} (here : limitHere letters = true) :
    ∃ word gap count blanks, letters = word ++ (gap ++ (count ++ blanks)) ∧
      PassesForLimit word count ∧ gap ≠ [] ∧ (∀ letter ∈ gap, isBlank letter = true) ∧
      ∀ letter ∈ blanks, isBlank letter = true := by
  unfold limitHere at here
  cases behind : afterLimitWord letters with
  | none =>
      rw [behind] at here
      cases here
  | some rest =>
      rw [behind] at here
      obtain ⟨word, rfl, spelled⟩ := exists_of_afterLimitWord behind
      dsimp only at here
      cases skipped : skipSome isBlank rest with
      | none =>
          rw [skipped] at here
          cases here
      | some rest =>
          rw [skipped] at here
          obtain ⟨gap, rfl, nonempty, gapBlank⟩ := exists_of_skipSome skipped
          obtain ⟨count, blanks, rfl, isCount, blank⟩ := exists_of_countAtEnd here
          exact ⟨word, gap, count, blanks, rfl, ⟨spelled, isCount⟩, nonempty, gapBlank, blank⟩

theorem exists_of_endsInLimitAfter {inWord : Bool} {letters : List Char}
    (ends : endsInLimitAfter inWord letters = true) :
    ∃ front rest, letters = front ++ rest ∧ limitHere rest = true ∧
      (front.getLast?.map isWord).getD inWord = false := by
  induction letters generalizing inWord with
  | nil => cases ends
  | cons letter letters ih =>
      rcases Bool.or_eq_true_iff.mp ends with here | later
      · obtain ⟨outside, here⟩ := Bool.and_eq_true_iff.mp here
        exact ⟨[], letter :: letters, rfl, here, Bool.not_eq_true' _ |>.mp outside⟩
      · obtain ⟨front, rest, rfl, here, outside⟩ := ih later
        refine ⟨letter :: front, rest, rfl, here, ?_⟩
        rw [List.getLast?_cons]
        cases last : front.getLast? with
        | none =>
            rw [last] at outside
            exact outside
        | some other =>
            rw [last] at outside
            exact outside

private theorem exists_of_isLimited {letters : List Char} (limited : isLimited letters = true) :
    ∃ front word gap count behind,
      withoutComments letters = front ++ (word ++ (gap ++ (count ++ behind))) ∧
        PassesForLimit word count ∧ (∀ last ∈ front.getLast?, isWord last = false) ∧ gap ≠ [] ∧
        (∀ letter ∈ gap, isBlank letter = true) ∧
        ∀ letter ∈ behind, isBlank letter = true ∨ letter = ';' := by
  obtain ⟨cut, whole, cutBlank⟩ := exists_dropRightWhile isBlank (withoutComments letters)
  obtain ⟨semicolons, bare, semicolon⟩ :=
    exists_dropRightWhile isSemicolon (dropRightWhile isBlank (withoutComments letters))
  obtain ⟨front, rest, split, here, outside⟩ := exists_of_endsInLimitAfter limited
  obtain ⟨word, gap, count, blanks, rfl, passes, nonempty, gapBlank, blank⟩ :=
    exists_of_limitHere here
  refine ⟨front, word, gap, count, blanks ++ (semicolons ++ cut), ?_, passes, ?_, nonempty,
    gapBlank, ?_⟩
  · rw [whole, bare, split]
    simp only [List.append_assoc]
  · intro last isLast
    rw [Option.mem_def.mp isLast] at outside
    exact outside
  · intro letter member
    rcases List.mem_append.mp member with member | member
    · exact Or.inl (blank letter member)
    · rcases List.mem_append.mp member with member | member
      · exact Or.inr (eq_of_beq (semicolon letter member))
      · exact Or.inl (cutBlank letter member)

/-! ### Letters of a limit -/

/-- No letter of a kind that has no quotation mark opens a quotation. -/
theorem opened?_eq_none {chosen : Char → Bool}
    (noMark : ∀ quotation : Quotation, chosen quotation.mark = false) {letter : Char}
    (passes : chosen letter = true) : Quotation.opened? letter = none := by
  cases opened : Quotation.opened? letter with
  | none => rfl
  | some quotation =>
      rw [← Quotation.mark_of_opened? opened, noMark quotation] at passes
      cases passes

theorem opened?_of_isWord {letter : Char} (inWord : isWord letter = true) :
    Quotation.opened? letter = none := by
  have noMark : ∀ quotation : Quotation, isWord quotation.mark = false := by
    intro quotation
    cases quotation <;> decide +kernel
  exact opened?_eq_none noMark inWord

theorem opened?_of_isBlank {letter : Char} (blank : isBlank letter = true) :
    Quotation.opened? letter = none := by
  have noMark : ∀ quotation : Quotation, isBlank quotation.mark = false := by
    intro quotation
    cases quotation <;> decide
  exact opened?_eq_none noMark blank

private theorem isBlank_of_isDigit {letter : Char} (digit : isDigit letter = true) :
    isBlank letter = false :=
  eq_of_beq (of_inRanges (fun letter => isBlank letter == false) (by decide +kernel) digit)

private theorem opened?_of_isDigit {letter : Char} (digit : isDigit letter = true) :
    Quotation.opened? letter = none := by
  have noMark : ∀ quotation : Quotation, isDigit quotation.mark = false := by
    intro quotation
    cases quotation <;> decide
  exact opened?_eq_none noMark digit

private theorem isWord_of_mem_limitWord {letter : Char} (member : letter ∈ limitWord) :
    isWord letter = true := by
  have every : limitWord.all isWord = true := by decide +kernel
  exact List.all_eq_true.mp every letter member

private theorem isWord_of_folded {letter : Char} (member : folded letter ∈ limitWord) :
    isWord letter = true := by
  unfold folded at member
  split at member
  · next dotted =>
      rcases dotted with rfl | rfl
      · decide +kernel
      · decide +kernel
  · unfold Char.toUpper at member
    split at member
    · next lower =>
        have codes : 97 ≤ letter.toNat ∧ letter.toNat ≤ 122 := lower
        exact of_between isWord codes (by decide +kernel)
    · exact isWord_of_mem_limitWord member

theorem IsCount.letters {count : List Char} (isCount : IsCount isDigit count) :
    ∀ letter ∈ count, isBlank letter = false ∧ Quotation.opened? letter = none := by
  intro letter member
  rcases isCount with ⟨_, digits⟩ | ⟨name, rfl, _, words⟩
  · have digit := digits letter member
    exact ⟨isBlank_of_isDigit digit, opened?_of_isDigit digit⟩
  · rcases List.mem_cons.mp member with rfl | member
    · decide
    · have inWord := words letter member
      exact ⟨isBlank_of_isWord inWord, opened?_of_isWord inWord⟩

end RowLimit

/-! ### Lexemes of a limit -/

namespace Lexeme

variable {lexemes : List Lexeme} {letters : List Char}

private theorem isGap_of_shown (same : lexemes.flatMap shown = letters)
    (blank : ∀ letter ∈ letters, isBlank letter = true) :
    ∀ lexeme ∈ lexemes, lexeme.isGap = true := by
  intro lexeme member
  rcases comment_or_bare_of_shown same
      (fun letter inside => RowLimit.opened?_of_isBlank (blank letter inside)) member with
    ⟨rfl, _⟩ | ⟨letter, inside, rfl⟩
  · rfl
  · exact blank letter inside

private theorem isTrailing_of_shown (same : lexemes.flatMap shown = letters)
    (outside : ∀ letter ∈ letters, isBlank letter = true ∨ letter = ';') :
    ∀ lexeme ∈ lexemes, lexeme.isTrailing = true := by
  have unquoted : ∀ letter ∈ letters, Quotation.opened? letter = none := by
    intro letter inside
    rcases outside letter inside with blank | rfl
    · exact RowLimit.opened?_of_isBlank blank
    · rfl
  intro lexeme member
  rcases comment_or_bare_of_shown same unquoted member with ⟨rfl, _⟩ | ⟨letter, inside, rfl⟩
  · rfl
  · rcases outside letter inside with blank | rfl
    · exact Bool.or_eq_true_iff.mpr (Or.inl blank)
    · decide

end Lexeme

namespace RowLimit

open Lexeme in
/-- If the search finds a limit, then the last two words of the query are what it has found. -/
theorem lastWords_of_isLimited {letters : List Char} {found : List Lexeme}
    (closed : Lexeme.read letters = some found) (plain : ∀ lexeme ∈ found, lexeme.HasPlainName)
    (limited : isLimited letters = true) :
    ∃ word count, LastWords found word count ∧ PassesForLimit word count := by
  obtain ⟨front, word, gap, count, behind, copy, passes, outside, nonempty, gapBlank, trailing⟩ :=
    exists_of_isLimited limited
  rw [withoutComments_of_read closed plain] at copy
  have inWord : ∀ letter ∈ word, isWord letter = true := fun letter member =>
    isWord_of_folded (passes.1 ▸ List.mem_map_of_mem member)
  have behindUnquoted : ∀ letter ∈ behind, Quotation.opened? letter = none := by
    intro letter member
    rcases trailing letter member with blank | rfl
    · exact opened?_of_isBlank blank
    · rfl
  have countUnquoted : ∀ letter ∈ count ++ behind, Quotation.opened? letter = none :=
    List.forall_mem_append.mpr ⟨fun letter member => (passes.2.letters letter member).2,
      behindUnquoted⟩
  have gapUnquoted : ∀ letter ∈ gap ++ (count ++ behind), Quotation.opened? letter = none :=
    List.forall_mem_append.mpr ⟨fun letter member => opened?_of_isBlank (gapBlank letter member),
      countUnquoted⟩
  have wordUnquoted : ∀ letter ∈ word ++ (gap ++ (count ++ behind)),
      Quotation.opened? letter = none :=
    List.forall_mem_append.mpr ⟨fun letter member => opened?_of_isWord (inWord letter member),
      gapUnquoted⟩
  obtain ⟨before, rest, rfl, frontShown, restShown⟩ := exists_append_of_shown copy wordUnquoted
  obtain ⟨words, rest, rfl, wordShown, restShown⟩ := exists_append_of_shown restShown gapUnquoted
  obtain ⟨gaps, rest, rfl, gapShown, restShown⟩ := exists_append_of_shown restShown countUnquoted
  obtain ⟨counts, tail, rfl, countShown, tailShown⟩ :=
    exists_append_of_shown restShown behindUnquoted
  obtain rfl := eq_map_bare wordShown (fun letter member =>
    ⟨isBlank_of_isWord (inWord letter member), opened?_of_isWord (inWord letter member)⟩)
  obtain rfl := eq_map_bare countShown passes.2.letters
  refine ⟨word, count, .intro ?_ inWord ?_ (isGap_of_shown gapShown gapBlank)
    (fun letter member => (passes.2.letters letter member).1)
    (isTrailing_of_shown tailShown trailing), passes⟩
  · intro letter isLast
    refine outside letter ?_
    rw [← frontShown]
    obtain ⟨start, rfl⟩ := List.getLast?_eq_some_iff.mp isLast
    rw [List.flatMap_append]
    exact List.getLast?_concat
  · rintro rfl
    exact nonempty gapShown.symm

/-- The line that is put behind a query is its last two words, whatever the query is. -/
theorem endsInLimit_of_line {letters number : List Char} {found : List Lexeme}
    (closed : Lexeme.read (letters ++ '\n' :: (limitWord ++ ' ' :: number)) = some found)
    (nonempty : number ≠ []) (digits : ∀ letter ∈ number, letter.isDigit = true) :
    EndsInLimit found := by
  have plainDigit : ∀ letter ∈ number, isBlank letter = false ∧ Lexeme.IsPlain letter := by
    intro letter member
    have codes := Char.isDigit_iff_toNat.mp (digits letter member)
    exact of_decide_eq_true (of_between
      (fun letter => decide (isBlank letter = false ∧ Lexeme.IsPlain letter)) codes (by decide))
  have plain : ∀ letter ∈ limitWord ++ ' ' :: number, Lexeme.IsPlain letter := by
    have plainWord : limitWord.all (fun letter => decide (Lexeme.IsPlain letter)) = true := by
      decide
    refine List.forall_mem_append.mpr ⟨fun letter member =>
      of_decide_eq_true (List.all_eq_true.mp plainWord letter member), ?_⟩
    exact List.forall_mem_cons.mpr ⟨by decide, fun letter member => (plainDigit letter member).2⟩
  obtain ⟨before, rfl⟩ := Lexeme.readFrom_append_line plain closed
  refine ⟨limitWord, number, ?_, by decide, Or.inl ⟨nonempty, digits⟩⟩
  have words : Lexeme.LastWords ((before ++ [.bare '\n']) ++ (limitWord.map .bare ++
      ([.bare ' '] ++ (number.map .bare ++ [])))) limitWord number := by
    refine .intro ?_ (fun _ => isWord_of_mem_limitWord) (List.cons_ne_nil _ _) (by decide)
      (fun letter member => (plainDigit letter member).1) nofun
    intro letter last
    rw [List.getLast?_concat] at last
    cases last
    decide +kernel
  simpa only [List.map_append, List.map_cons, List.append_nil, List.append_assoc,
    List.cons_append, List.nil_append] using words

/-- A query that is given a limit ends in one, whether it had one or not. What the search takes
for a limit has to be one. -/
theorem endsInLimit_withLimit {maximum text : String} {found : List Lexeme}
    (nonempty : maximum.toList ≠ []) (digits : ∀ letter ∈ maximum.toList, letter.isDigit = true)
    (closed : Lexeme.read (withLimit maximum text).toList = some found)
    (plain : ∀ lexeme ∈ found, lexeme.HasPlainName)
    (genuine : ∀ word count, Lexeme.LastWords found word count →
      PassesForLimit word count → IsLimit word count) : EndsInLimit found := by
  unfold withLimit at closed
  dsimp only at closed
  split at closed
  · next limited =>
      rw [String.toList_ofList] at closed
      obtain ⟨word, count, words, passes⟩ := lastWords_of_isLimited closed plain limited
      exact ⟨word, count, words, genuine word count words passes⟩
  · rw [String.toList_append, String.toList_ofList, limitLine, String.toList_append] at closed
    exact endsInLimit_of_line closed nonempty digits

private theorem IsCount.of_ascii {count : List Char} (isCount : IsCount isDigit count)
    (ascii : ∀ letter ∈ count, letter.toNat < 128) : IsCount Char.isDigit count := by
  rcases isCount with ⟨nonempty, digits⟩ | parameter
  · refine Or.inl ⟨nonempty, fun letter member => ?_⟩
    have either := of_inRanges (fun letter => letter.isDigit || decide (128 ≤ letter.toNat))
      (by decide +kernel) (digits letter member)
    rcases Bool.or_eq_true_iff.mp either with digit | foreign
    · exact digit
    · have bound := ascii letter member
      have beyond := of_decide_eq_true foreign
      omega
  · exact Or.inr parameter

/-- In a query that is written in ASCII apart from its quotations and comments, nothing passes
for a limit but a limit. -/
theorem isLimit_of_ascii {found : List Lexeme} (ascii : found.all Lexeme.isAscii = true)
    {word count : List Char} (words : Lexeme.LastWords found word count)
    (passes : PassesForLimit word count) : IsLimit word count := by
  cases words with
  | intro outside inWord parted gaps noBlank trailing =>
      simp only [List.all_append, List.all_map, Bool.and_eq_true] at ascii
      obtain ⟨_, asciiWord, _, asciiCount, _⟩ := ascii
      constructor
      · rw [← passes.1]
        refine List.map_congr_left (fun letter member => ?_)
        have bound := of_decide_eq_true (List.all_eq_true.mp asciiWord letter member)
        refine (if_neg ?_).symm
        rintro (rfl | rfl)
        · exact absurd bound (by decide)
        · exact absurd bound (by decide)
      · exact passes.2.of_ascii (fun letter member =>
          of_decide_eq_true (List.all_eq_true.mp asciiCount letter member))

theorem IsCount.ne_nil {digit : Char → Bool} {count : List Char} (isCount : IsCount digit count) :
    count ≠ [] := by
  rcases isCount with ⟨nonempty, _⟩ | ⟨name, rfl, _, _⟩
  · exact nonempty
  · exact List.cons_ne_nil _ _

theorem IsCount.ne_semicolon {digit : Char → Bool} {count : List Char}
    (isCount : IsCount digit count) (noDigit : digit ';' = false) :
    ∀ letter ∈ count, letter ≠ ';' := by
  rintro letter member rfl
  rcases isCount with ⟨_, digits⟩ | ⟨name, rfl, _, words⟩
  · rw [digits ';' member] at noDigit
    cases noDigit
  · rcases List.mem_cons.mp member with impossible | member
    · cases impossible
    · have noWord : isWord ';' = false := by decide +kernel
      rw [words ';' member] at noWord
      cases noWord

/-- Where a query ends in a limit, the last lexeme that is neither blank nor comment nor
semicolon is a letter. -/
theorem EndsInLimit.find?_reverse {found : List Lexeme} (ends : EndsInLimit found) :
    ∃ letter, found.reverse.find? (fun lexeme => !lexeme.isTrailing) = some (.bare letter) := by
  obtain ⟨word, count, words, _, isCount⟩ := ends
  cases words with
  | @intro before gap behind _ _ outside inWord parted gaps noBlank trailing =>
      have nothing : behind.reverse.find? (fun lexeme => !lexeme.isTrailing) = none := by
        refine List.find?_eq_none.mpr (fun lexeme member => ?_)
        rw [trailing lexeme (List.mem_reverse.mp member)]
        decide
      rcases List.eq_nil_or_concat count with empty | ⟨start, last, rfl⟩
      · exact (isCount.ne_nil empty).elim
      · rw [List.concat_eq_append] at noBlank isCount ⊢
        have counts : Lexeme.isTrailing (.bare last) = false := by
          have noSemicolon : Lexeme.bare last ≠ .bare ';' := fun same =>
            isCount.ne_semicolon rfl last List.mem_concat_self (Lexeme.bare.inj same)
          rw [Lexeme.isTrailing, Lexeme.isGap, noBlank last List.mem_concat_self,
            beq_false_of_ne noSemicolon]
          rfl
        refine ⟨last, ?_⟩
        simp only [List.map_append, List.map_cons, List.map_nil, List.reverse_append,
          List.append_assoc, List.find?_append, nothing, Option.none_or, List.reverse_cons,
          List.reverse_nil, List.nil_append, List.find?_cons, counts, Bool.not_false,
          Option.some_or]

end RowLimit

end QueryWarden
