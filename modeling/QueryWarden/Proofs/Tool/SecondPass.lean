/-
One pass of limiting is enough. A query that has passed ends in a limit that is found again, its
own one or the one that was put behind it; what the second pass cuts off its end, more blanks and
semicolons, does not hide it. A limit is put behind a query as code, whatever the query leaves
open, and neither that nor the cutting touches what the query is made of.
-/

import QueryWarden.Proofs.Query.Closing
import QueryWarden.Proofs.Tool.RowCap

namespace QueryWarden

open Text

/-! ### Cutting more off -/

namespace Text

variable {chosen : Char → Bool}

private theorem dropRightWhile_append_of_all {cut : List Char}
    (inCut : ∀ letter ∈ cut, chosen letter = true) (letters : List Char) :
    dropRightWhile chosen (letters ++ cut) = dropRightWhile chosen letters := by
  unfold dropRightWhile
  rw [List.reverse_append, List.dropWhile_append_of_pos]
  intro letter member
  exact inCut letter (List.mem_reverse.mp member)

end Text

namespace RowLimit

variable {letters : List Char}

def IsCut (cut : List Char) : Prop :=
  ∃ semicolons blanks, cut = semicolons ++ blanks ∧ (∀ letter ∈ semicolons, letter = ';') ∧
    ∀ letter ∈ blanks, isBlank letter = true

theorem isNeutral_of_isBlank {letter : Char} (blank : isBlank letter = true) :
    IsNeutral letter := by
  constructor <;> rintro rfl <;> exact absurd blank (by decide)

theorem IsCut.neutral {cut : List Char} (isCut : IsCut cut) : ∀ letter ∈ cut, IsNeutral letter := by
  obtain ⟨semicolons, blanks, rfl, areSemicolons, areBlank⟩ := isCut
  intro letter member
  rcases List.mem_append.mp member with member | member
  · rw [areSemicolons letter member]
    exact ⟨by decide, by decide, by decide, by decide⟩
  · exact isNeutral_of_isBlank (areBlank letter member)

theorem IsCut.dropWhile {cut : List Char} (isCut : IsCut cut) :
    IsCut (cut.dropWhile (· != '\n')) := by
  obtain ⟨semicolons, blanks, rfl, areSemicolons, areBlank⟩ := isCut
  have inLine : ∀ letter ∈ semicolons, (letter != '\n') = true := by
    intro letter member
    rw [areSemicolons letter member]
    decide
  refine ⟨[], blanks.dropWhile (· != '\n'), ?_, nofun, ?_⟩
  · rw [List.dropWhile_append_of_pos inLine, List.nil_append]
  · exact fun letter member => areBlank letter ((List.dropWhile_sublist _).subset member)

private theorem IsCut.of_shown {cut shown : List Char} (isCut : IsCut cut)
    (isShown : Shown cut shown) :
    IsCut shown := by
  cases isShown with
  | whole => exact isCut
  | nextLine => exact isCut.dropWhile

/-- What is cut off a query, before and behind. -/
theorem exists_trimQuery (letters : List Char) :
    ∃ blanks cut, letters = blanks ++ (trimQuery letters ++ cut) ∧
      (∀ letter ∈ blanks, isBlank letter = true) ∧ IsCut cut := by
  obtain ⟨behind, begun, behindBlank⟩ := exists_dropRightWhile isBlank (dropBlanks letters)
  obtain ⟨semicolons, ended, areSemicolons⟩ := exists_dropRightWhile isSemicolon (trim letters)
  refine ⟨letters.takeWhile isBlank, semicolons ++ behind, ?_, ?_, semicolons, behind, rfl, ?_,
    behindBlank⟩
  · have rest : dropBlanks letters = trimQuery letters ++ (semicolons ++ behind) := by
      rw [← List.append_assoc, trimQuery, ← ended]
      exact begun
    rw [← rest]
    exact List.takeWhile_append_dropWhile.symm
  · exact fun letter member => List.mem_takeWhile_imp member
  · exact fun letter member => eq_of_beq (areSemicolons letter member)

private theorem head?_trimQuery (letters : List Char) :
    ∀ first ∈ (trimQuery letters).head?, isBlank first = false := by
  obtain ⟨behind, begun, _⟩ := exists_dropRightWhile isBlank (dropBlanks letters)
  obtain ⟨semicolons, ended, _⟩ := exists_dropRightWhile isSemicolon (trim letters)
  intro first isFirst
  apply (leadingRun_takeWhile isBlank letters).stops first
  change first ∈ (dropBlanks letters).head?
  rw [begun, ← trim, ended, ← trimQuery, List.append_assoc, List.head?_append,
    Option.mem_def.mp isFirst]
  rfl

/-- A query without blanks in front is cut behind only. -/
theorem exists_cut_of_head? (stops : ∀ first ∈ letters.head?, isBlank first = false) :
    ∃ cut, letters = trimQuery letters ++ cut ∧ IsCut cut := by
  obtain ⟨blanks, cut, whole, areBlank, isCut⟩ := exists_trimQuery letters
  cases blanks with
  | nil => exact ⟨cut, whole, isCut⟩
  | cons blank blanks =>
      rw [whole] at stops
      have first := stops blank rfl
      rw [areBlank blank List.mem_cons_self] at first
      cases first

/-! ### A limit that is found again -/

/-- A limit at the end of a query is still found when the end is cut off once more. -/
theorem isLimited_trimQuery (stops : ∀ first ∈ letters.head?, isBlank first = false)
    (limited : isLimited letters = true) : isLimited (trimQuery letters) = true := by
  obtain ⟨cut, whole, isCut⟩ := exists_cut_of_head? stops
  obtain ⟨shown, isShown, copied⟩ := exists_withoutComments_append isCut.neutral (trimQuery letters)
  obtain ⟨semicolons, blanks, rfl, areSemicolons, areBlank⟩ := isCut.of_shown isShown
  rw [← whole, ← List.append_assoc] at copied
  unfold isLimited at limited
  rw [copied, dropRightWhile_append_of_all areBlank] at limited
  cases semicolons with
  | nil =>
      rw [List.append_nil] at limited
      exact limited
  | cons semicolon semicolons =>
      have noBlank : ∀ last ∈ (withoutComments (trimQuery letters) ++
          semicolon :: semicolons).getLast?, isBlank last = false := by
        intro last isLast
        rw [List.getLast?_append, List.getLast?_cons, Option.some_or] at isLast
        have isSemicolon : last = ';' := by
          apply areSemicolons
          exact List.mem_of_getLast? (by rw [List.getLast?_cons]; exact isLast)
        rw [isSemicolon]
        decide
      have bare : ∀ last ∈ (withoutComments (trimQuery letters)).getLast?,
          isSemicolon last = false := by
        intro last isLast
        exact beq_false_of_ne (getLast?_copy_trimQuery letters last isLast)
      have inCut : ∀ letter ∈ semicolon :: semicolons, isSemicolon letter = true :=
        fun letter member => beq_iff_eq.mpr (areSemicolons letter member)
      rw [dropRightWhile_eq_self noBlank, dropRightWhile_append inCut bare] at limited
      obtain ⟨front, rest, split, here, outside⟩ := exists_of_endsInLimitAfter limited
      obtain ⟨word, gap, count, blanks, rfl, passes, nonempty, gapBlank, areBlank⟩ :=
        exists_of_limitHere here
      rw [← endsInWord_eq, endsInWord_eq_false_iff] at outside
      exact isLimited_of_copy split passes outside nonempty gapBlank areBlank

/-! ### The line that is put behind a query -/

section

variable {number : List Char}

def line (number : List Char) : List Char :=
  '\n' :: (limitWord ++ ' ' :: number)

theorem toList_limitLine (maximum : String) : (limitLine maximum).toList = line maximum.toList := by
  rw [limitLine, String.toList_append]
  rfl

private theorem isNeutral_of_isDigit {letter : Char} (digit : letter.isDigit = true) :
    IsNeutral letter := by
  constructor <;> rintro rfl <;> exact absurd digit (by decide)

private theorem isNeutral_of_mem_line (digits : ∀ letter ∈ number, letter.isDigit = true) :
    ∀ letter ∈ line number, IsNeutral letter := by
  have word : ∀ letter ∈ limitWord, IsNeutral letter := by
    intro letter member
    constructor <;> rintro rfl <;> exact absurd member (by decide)
  apply List.forall_mem_cons.mpr ⟨isNeutral_of_isBlank isBlank_newline, _⟩
  apply List.forall_mem_append.mpr ⟨word, _⟩
  apply List.forall_mem_cons.mpr ⟨isNeutral_of_isBlank isBlank_space, _⟩
  exact fun letter member => isNeutral_of_isDigit (digits letter member)

private theorem Continued.of_newline {rest : List Char} {found after : List Segment}
    (continued : Continued ('\n' :: rest) found after) :
    after = found ++ ('\n' :: rest).map .code := by
  cases continued with
  | behind => rfl
  | inLine before comment =>
      rw [List.takeWhile_cons_of_neg (by decide), List.dropWhile_cons_of_neg (by decide),
        List.append_nil, List.append_assoc]
      rfl

/-- Whatever a query leaves open, the line behind it is code, and the query is what it was. -/
theorem segments_append_line (digits : ∀ letter ∈ number, letter.isDigit = true)
    (letters : List Char) :
    segments (letters ++ line number) = segments letters ++ (line number).map .code :=
  (segments_append (isNeutral_of_mem_line digits) letters).of_newline

theorem passesForLimit_line (nonempty : number ≠ [])
    (digits : ∀ letter ∈ number, letter.isDigit = true) : PassesForLimit limitWord number := by
  have spelled : limitWord.map folded = limitWord := by decide
  refine ⟨spelled, Or.inl ⟨nonempty, fun letter member => ?_⟩⟩
  exact of_between isDigit (Char.isDigit_iff_toNat.mp (digits letter member)) (by decide)

private theorem isLimited_append_line (nonempty : number ≠ [])
    (digits : ∀ letter ∈ number, letter.isDigit = true) (letters : List Char) :
    isLimited (letters ++ line number) = true := by
  have copy : withoutComments (letters ++ line number) =
      (withoutComments letters ++ ['\n']) ++ (limitWord ++ ([' '] ++ (number ++ []))) := by
    rw [withoutComments_eq_flatMap, segments_append_line digits, List.flatMap_append,
      flatMap_shown_code, ← withoutComments_eq_flatMap, List.append_assoc, List.append_nil]
    rfl
  apply isLimited_of_copy copy (passesForLimit_line nonempty digits)
  · rw [List.getLast?_concat]
    rintro _ ⟨⟩
    exact isWord_of_isBlank isBlank_newline
  · exact List.cons_ne_nil _ _
  · exact List.forall_mem_singleton.mpr isBlank_space
  · exact nofun

/-- The line alone, which is what is left of a query that nothing stands in. -/
theorem isLimited_line (nonempty : number ≠ [])
    (digits : ∀ letter ∈ number, letter.isDigit = true) :
    isLimited (limitWord ++ ' ' :: number) = true := by
  have neutral : ∀ letter ∈ limitWord ++ ' ' :: number, IsNeutral letter :=
    fun letter member => isNeutral_of_mem_line digits letter (List.mem_cons_of_mem _ member)
  have copy : withoutComments (limitWord ++ ' ' :: number) =
      [] ++ (limitWord ++ ([' '] ++ (number ++ []))) := by
    rw [withoutComments_eq_flatMap, segments_code neutral, flatMap_shown_code, List.append_nil]
    rfl
  apply isLimited_of_copy copy (passesForLimit_line nonempty digits) nofun
  · exact List.cons_ne_nil _ _
  · exact List.forall_mem_singleton.mpr isBlank_space
  · exact nofun

private theorem trimQuery_eq_self {letters : List Char}
    (stops : ∀ first ∈ letters.head?, isBlank first = false)
    (ends : ∀ last ∈ letters.getLast?, isBlank last = false ∧ last ≠ ';') :
    trimQuery letters = letters := by
  have unled : LeadingRun isBlank [] letters := ⟨nofun, stops⟩
  have begun : dropBlanks letters = letters := unled.dropWhile_eq
  have bare : dropRightWhile isBlank letters = letters :=
    dropRightWhile_eq_self fun last isLast => (ends last isLast).1
  rw [trimQuery, trim, begun, bare]
  exact dropRightWhile_eq_self fun last isLast => beq_false_of_ne (ends last isLast).2

private theorem getLast?_append_number (nonempty : number ≠ [])
    (digits : ∀ letter ∈ number, letter.isDigit = true) (front : List Char) :
    ∀ last ∈ (front ++ number).getLast?, isBlank last = false ∧ last ≠ ';' := by
  intro last isLast
  have isCount := (passesForLimit_line nonempty digits).2
  have within : last ∈ number := by
    rw [List.getLast?_append] at isLast
    cases ends : number.getLast? with
    | none => exact (nonempty (List.getLast?_eq_none_iff.mp ends)).elim
    | some other =>
        rw [ends, Option.some_or] at isLast
        cases isLast
        exact List.mem_of_getLast? ends
  exact ⟨(isCount.letters last within).1, isCount.ne_semicolon (by decide) last within⟩

/-- The line is found behind the query, and in place of one that has nothing in it. -/
theorem isLimited_trimQuery_line (nonempty : number ≠ [])
    (digits : ∀ letter ∈ number, letter.isDigit = true) {letters : List Char}
    (stops : ∀ first ∈ letters.head?, isBlank first = false) :
    isLimited (trimQuery (letters ++ line number)) = true := by
  cases letters with
  | nil =>
      have begun : dropBlanks (line number) = dropBlanks (limitWord ++ ' ' :: number) :=
        List.dropWhile_cons_of_pos isBlank_newline
      have kept : trimQuery (limitWord ++ ' ' :: number) = limitWord ++ ' ' :: number := by
        apply trimQuery_eq_self
        · rintro _ ⟨⟩
          decide
        · rw [List.append_cons]
          exact getLast?_append_number nonempty digits (limitWord ++ [' '])
      rw [List.nil_append, trimQuery, trim, begun, ← trim, ← trimQuery, kept]
      exact isLimited_line nonempty digits
  | cons first letters =>
      have kept : trimQuery (first :: letters ++ line number) = first :: letters ++ line number := by
        apply trimQuery_eq_self
        · exact stops
        · have split : first :: letters ++ line number =
              (first :: letters ++ '\n' :: (limitWord ++ [' '])) ++ number := by
            simp [line]
          rw [split]
          exact getLast?_append_number nonempty digits _
      rw [kept]
      exact isLimited_append_line nonempty digits (first :: letters)

end

/-! ### Two passes -/

/-- The segments of a query as it came: blanks, then those of the trimmed query with what was cut
off behind it. -/
theorem segments_trimQuery (letters : List Char) :
    ∃ blanks cut kept, letters = blanks ++ (trimQuery letters ++ cut) ∧
      (∀ letter ∈ blanks, isBlank letter = true) ∧ IsCut cut ∧
        segments letters = blanks.map .code ++ kept ∧
          Continued cut (segments (trimQuery letters)) kept := by
  obtain ⟨blanks, cut, whole, areBlank, isCut⟩ := exists_trimQuery letters
  have neutral : ∀ letter ∈ blanks, IsNeutral letter :=
    fun letter member => isNeutral_of_isBlank (areBlank letter member)
  have continued := segments_append isCut.neutral (trimQuery letters)
  refine ⟨blanks, cut, _, whole, areBlank, isCut, ?_, continued⟩
  rw [← segments_code_append neutral, ← whole]

/-- What one pass makes of a query: it is trimmed, and a line may be put behind it, which then is
code and leaves the query as it was. A further pass does no more than trim the result. -/
structure LimitsOnce (limit : String → Except Fault String) (maximum text : String) : Prop where
  outcome : limit text = .ok (String.ofList (trimQuery text.toList)) ∨
    limit text = .ok (String.ofList (trimQuery text.toList) ++ limitLine maximum)
  again : ∀ limited, limit text = .ok limited →
    limit limited = .ok (String.ofList (trimQuery limited.toList))
  injected : ∀ limited, limit text = .ok limited →
    limited = String.ofList (trimQuery text.toList) ++ limitLine maximum →
      segments limited.toList =
        segments (trimQuery text.toList) ++ (limitLine maximum).toList.map .code
  trimmed : ∃ blanks cut kept, text.toList = blanks ++ (trimQuery text.toList ++ cut) ∧
    (∀ letter ∈ blanks, isBlank letter = true) ∧ IsCut cut ∧
      segments text.toList = blanks.map .code ++ kept ∧
        Continued cut (segments (trimQuery text.toList)) kept

theorem withLimit_eq_trimmed {maximum text : String}
    (limited : isLimited (trimQuery text.toList) = true) :
    withLimit maximum text = String.ofList (trimQuery text.toList) :=
  if_pos limited

private theorem limitsOnce_withLimit {maximum : String} (nonempty : maximum.toList ≠ [])
    (digits : ∀ letter ∈ maximum.toList, letter.isDigit = true) (text : String) :
    LimitsOnce (fun text => .ok (withLimit maximum text)) maximum text where
  outcome := by
    cases limited : isLimited (trimQuery text.toList) with
    | true => exact Or.inl (congrArg Except.ok (withLimit_eq_trimmed limited))
    | false => exact Or.inr (congrArg Except.ok (if_neg (Bool.eq_false_iff.mp limited)))
  again := by
    rintro _ ⟨⟩
    refine congrArg Except.ok (withLimit_eq_trimmed ?_)
    have stops := head?_trimQuery text.toList
    cases limited : isLimited (trimQuery text.toList) with
    | true =>
        rw [withLimit_eq_trimmed limited, String.toList_ofList]
        exact isLimited_trimQuery stops limited
    | false =>
        have injected : withLimit maximum text = _ := if_neg (Bool.eq_false_iff.mp limited)
        rw [injected, String.toList_append, String.toList_ofList, toList_limitLine]
        exact isLimited_trimQuery_line nonempty digits stops
  injected := by
    rintro _ _ rfl
    rw [String.toList_append, String.toList_ofList, toList_limitLine]
    exact segments_append_line digits (trimQuery text.toList)
  trimmed := segments_trimQuery text.toList

end RowLimit

namespace Executor

/-- Whatever the query, an executor that allows at least one row, and not more than it can
write, limits it in one pass. -/
theorem limited_limitsOnce {executor : Executor} {maximum : Int}
    (bounded : executor.maximum = .int maximum) (positive : 1 ≤ maximum)
    (writable : maximum < 10 ^ Number.longestInteger) (text : String) :
    RowLimit.LimitsOnce (fun text => executor.limited ⟨text⟩) (toString maximum) text := by
  obtain ⟨nonempty, digits⟩ := digits_of_one_le positive
  have shown : executor.maximum.shown? = some (toString maximum) := by
    rw [bounded]
    refine Value.shown?_of_small (Int.ofNat_lt.mp ?_)
    rw [Int.natCast_pow, Int.natAbs_of_nonneg (by omega)]
    exact writable
  have total : (fun text => executor.limited ⟨text⟩) =
      fun text => .ok (withLimit (toString maximum) text) := by
    funext text
    rw [limited, shown]
  rw [total]
  exact RowLimit.limitsOnce_withLimit nonempty digits text

def openText : String :=
  " MATCH (t:Town \x7bname: 'a\"\x7d) /* RETURN t \\; "

theorem limited_limitsOnce_openText :
    townExecutor.maximum = .int 100 ∧ (1 : Int) ≤ 100 ∧
      (100 : Int) < 10 ^ Number.longestInteger ∧
      townExecutor.limited ⟨openText⟩ =
        .ok "MATCH (t:Town \x7bname: 'a\"\x7d) /* RETURN t \\\nLIMIT 100" ∧
      RowLimit.LimitsOnce (fun text => townExecutor.limited ⟨text⟩) (toString (100 : Int))
        openText := by
  have writable : (100 : Int) < 10 ^ Number.longestInteger := by
    have larger : 10 ^ 3 ≤ 10 ^ Number.longestInteger :=
      Nat.pow_le_pow_right (by decide) (by decide)
    have small : (100 : Int) < ((10 ^ Number.longestInteger : Nat) : Int) := by omega
    rw [Int.natCast_pow] at small
    exact small
  have line : withLimit "100" openText =
      "MATCH (t:Town \x7bname: 'a\"\x7d) /* RETURN t \\\nLIMIT 100" := by
    decide +kernel
  refine ⟨rfl, by decide, writable, ?_, limited_limitsOnce rfl (by decide) writable openText⟩
  rw [limited, ← line]
  rfl

end Executor

end QueryWarden
