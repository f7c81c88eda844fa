/-
The segments of a query, as the search for comments sees them: a comment, a quotation, or a single
letter of code. A quotation or comment that is not closed is code letter by letter. Letters that
neither open nor close anything leave the segments of what stands before them alone when they are
put behind a query; they are code, or else the comment to the end of the line that the query ends
in takes them up to the next line.
-/

import QueryWarden.Proofs.Query.Comments
import QueryWarden.Proofs.Text.Searching

namespace QueryWarden

open Text

namespace RowLimit

/-! ### Quotations and comments with something behind them -/

structure IsNeutral (letter : Char) : Prop where
  noSingle : letter ≠ '\''
  noDouble : letter ≠ '"'
  noSlash : letter ≠ '/'
  noStar : letter ≠ '*'

theorem IsNeutral.noQuote {letter : Char} (neutral : IsNeutral letter) :
    ¬(letter = '\'' ∨ letter = '"') :=
  not_or.mpr ⟨neutral.noSingle, neutral.noDouble⟩

variable {tail : List Char}

theorem closeQuote_eq_none {mark : Char} {letters : List Char} (absent : mark ∉ letters) :
    closeQuote mark letters = none := by
  induction letters using closeQuote.induct mark with
  | case1 => rfl
  | case2 letter rest ih =>
      have absentBehind : mark ∉ rest := fun member =>
        absent (List.mem_cons_of_mem _ (List.mem_cons_of_mem _ member))
      rw [closeQuote, ih absentBehind]
      rfl
  | case3 rest _ => exact absurd List.mem_cons_self absent
  | case4 rest noEscape other =>
      rw [closeQuote, if_neg other, if_pos rfl]
      exact noEscape
  | case5 letter rest noEscape other noSlash ih =>
      rw [closeQuote, if_neg other, if_neg noSlash,
        ih fun member => absent (List.mem_cons_of_mem _ member)]
      · rfl
      · exact noEscape

/-- A quotation that is closed is closed where it was, and one that is open stays open. -/
theorem closeQuote_append {mark : Char} (noEscape : mark ≠ '\\') (absent : mark ∉ tail)
    (letters : List Char) :
    closeQuote mark (letters ++ tail) =
      (closeQuote mark letters).map (fun found => (found.1, found.2 ++ tail)) := by
  induction letters using closeQuote.induct mark with
  | case1 => exact closeQuote_eq_none absent
  | case2 letter rest ih =>
      rw [List.cons_append, List.cons_append, closeQuote, closeQuote, ih, Option.map_map,
        Option.map_map]
      rfl
  | case3 rest _ =>
      rw [List.cons_append, closeQuote, closeQuote, if_pos rfl, if_pos rfl]
      · rfl
      · exact fun _ _ same => (noEscape same).elim
      · exact fun _ _ same => (noEscape same).elim
  | case4 rest lone other =>
      obtain rfl : rest = [] := by
        cases rest with
        | nil => rfl
        | cons letter rest => exact (lone letter rest rfl rfl).elim
      have without : closeQuote mark ['\\'] = none :=
        closeQuote_eq_none fun member => other (List.mem_singleton.mp member).symm
      have within : closeQuote mark ('\\' :: tail) = none := by
        refine closeQuote_eq_none fun member => ?_
        rcases List.mem_cons.mp member with same | member
        · exact noEscape same
        · exact absent member
      rw [without]
      exact within
  | case5 letter rest noPair other noSlash ih =>
      rw [List.cons_append, closeQuote, closeQuote, if_neg other, if_neg other, if_neg noSlash,
        if_neg noSlash, ih, Option.map_map, Option.map_map]
      · rfl
      · exact noPair
      · exact fun _ _ same => (noSlash same).elim

private theorem closeBlock_eq_none {letters : List Char} (absent : '/' ∉ letters) :
    closeBlock letters = none := by
  induction letters using closeBlock.induct with
  | case1 => rfl
  | case2 rest => exact absurd (List.mem_cons_of_mem _ List.mem_cons_self) absent
  | case3 letter rest notEnd ih =>
      rw [closeBlock]
      · exact ih fun member => absent (List.mem_cons_of_mem _ member)
      · exact notEnd

theorem closeBlock_append (absent : '/' ∉ tail) (letters : List Char) :
    closeBlock (letters ++ tail) = (closeBlock letters).map (· ++ tail) := by
  induction letters using closeBlock.induct with
  | case1 => exact closeBlock_eq_none absent
  | case2 rest => rfl
  | case3 letter rest notEnd ih =>
      rw [List.cons_append, closeBlock, closeBlock, ih]
      · exact notEnd
      · rintro after star same
        cases rest with
        | nil =>
            rw [List.nil_append] at same
            exact absent (same ▸ List.mem_cons_self)
        | cons next rest =>
            cases same
            exact notEnd rest star rfl

/-! ### Segments -/

private theorem eq_append_of_closeQuote {mark : Char} {letters body after : List Char}
    (closes : closeQuote mark letters = some (body, after)) : letters = body ++ after := by
  induction letters using closeQuote.induct mark generalizing body after with
  | case1 => cases closes
  | case2 letter rest ih =>
      rw [closeQuote] at closes
      obtain ⟨found, inner, same⟩ := Option.map_eq_some_iff.mp closes
      cases same
      rw [ih inner]
      rfl
  | case3 rest noPair =>
      rw [closeQuote, if_pos rfl] at closes
      · cases closes
        rfl
      · exact noPair
  | case4 rest noPair other =>
      rw [closeQuote, if_neg other, if_pos rfl] at closes
      · cases closes
      · exact noPair
  | case5 letter rest noPair other noSlash ih =>
      rw [closeQuote, if_neg other, if_neg noSlash] at closes
      · obtain ⟨found, inner, same⟩ := Option.map_eq_some_iff.mp closes
        cases same
        rw [ih inner]
        rfl
      · exact noPair

private theorem exists_of_closeBlock {letters after : List Char}
    (closes : closeBlock letters = some after) : ∃ body, letters = body ++ after := by
  induction letters using closeBlock.induct with
  | case1 => cases closes
  | case2 rest =>
      cases closes
      exact ⟨['*', '/'], rfl⟩
  | case3 letter rest notEnd ih =>
      rw [closeBlock] at closes
      · obtain ⟨body, same⟩ := ih closes
        exact ⟨letter :: body, congrArg (List.cons letter) same⟩
      · exact notEnd

/-- A piece of a query that is looked at as a whole. -/
inductive Segment where
  | code (letter : Char)
  | quoted (letters : List Char)
  | comment (letters : List Char)
deriving DecidableEq

namespace Segment

def letters : Segment → List Char
  | .code letter => [letter]
  | .quoted letters => letters
  | .comment letters => letters

def shown : Segment → List Char
  | .code letter => [letter]
  | .quoted letters => letters
  | .comment _ => [' ']

end Segment

def segments : List Char → List Segment
  | [] => []
  | '/' :: '/' :: rest =>
      .comment ('/' :: '/' :: rest.takeWhile (· != '\n')) ::
        segments (rest.dropWhile (· != '\n'))
  | '/' :: '*' :: rest =>
      match _closed : closeBlock rest with
      | some after =>
          .comment ('/' :: '*' :: rest.take (rest.length - after.length)) :: segments after
      | none => .code '/' :: segments ('*' :: rest)
  | letter :: rest =>
      if letter = '\'' ∨ letter = '"' then
        match _closed : closeQuote letter rest with
        | some (body, after) => .quoted (letter :: body) :: segments after
        | none => .code letter :: segments rest
      else .code letter :: segments rest
termination_by letters => letters.length
decreasing_by
  · have bound := afterLine_length_le rest
    simp only [List.length_cons]
    omega
  · have bound := closeBlock_shorter _closed
    simp only [List.length_cons]
    omega
  · simp
  · have bound := closeQuote_shorter _closed
    simp only [List.length_cons]
    omega
  · simp
  · simp

theorem noSlash_of_quote {letter : Char} (quote : letter = '\'' ∨ letter = '"') :
    letter ≠ '/' := by
  rcases quote with rfl | rfl <;> decide

private theorem withoutComments_closedQuote {letter : Char} {rest body after : List Char}
    (quote : letter = '\'' ∨ letter = '"') (closes : closeQuote letter rest = some (body, after)) :
    withoutComments (letter :: rest) = letter :: (body ++ withoutComments after) := by
  rcases quote with rfl | rfl
  · have escapes : Quotation.single.hasEscapes = true := rfl
    exact withoutComments_quote escapes closes
  · have escapes : Quotation.double.hasEscapes = true := rfl
    exact withoutComments_quote escapes closes

/-! ### Segment by segment -/

theorem segments_line (rest : List Char) :
    segments ('/' :: '/' :: rest) =
      .comment ('/' :: '/' :: rest.takeWhile (· != '\n')) ::
        segments (rest.dropWhile (· != '\n')) := by
  rw [segments]

theorem segments_block {rest after : List Char} (closes : closeBlock rest = some after) :
    segments ('/' :: '*' :: rest) =
      .comment ('/' :: '*' :: rest.take (rest.length - after.length)) :: segments after := by
  rw [segments]
  split
  · next found =>
      rw [closes] at found
      cases found
      rfl
  · next found =>
      rw [closes] at found
      cases found

theorem segments_openBlock {rest : List Char} (isOpen : closeBlock rest = none) :
    segments ('/' :: '*' :: rest) = .code '/' :: segments ('*' :: rest) := by
  rw [segments]
  split
  · next found =>
      rw [isOpen] at found
      cases found
  · rfl

theorem segments_closedQuote {letter : Char} {rest body after : List Char}
    (quote : letter = '\'' ∨ letter = '"') (closes : closeQuote letter rest = some (body, after)) :
    segments (letter :: rest) = .quoted (letter :: body) :: segments after := by
  rw [segments, if_pos quote]
  · split
    · next found =>
        rw [closes] at found
        cases found
        rfl
    · next found =>
        rw [closes] at found
        cases found
  · exact fun _ slash _ => noSlash_of_quote quote slash
  · exact fun _ slash _ => noSlash_of_quote quote slash

theorem segments_openQuote {letter : Char} {rest : List Char}
    (quote : letter = '\'' ∨ letter = '"') (isOpen : closeQuote letter rest = none) :
    segments (letter :: rest) = .code letter :: segments rest := by
  rw [segments, if_pos quote]
  · split
    · next found =>
        rw [isOpen] at found
        cases found
    · rfl
  · exact fun _ slash _ => noSlash_of_quote quote slash
  · exact fun _ slash _ => noSlash_of_quote quote slash

theorem segments_bare {letter : Char} {rest : List Char}
    (noQuote : ¬(letter = '\'' ∨ letter = '"'))
    (noComment : letter = '/' → rest.head? ≠ some '/' ∧ rest.head? ≠ some '*') :
    segments (letter :: rest) = .code letter :: segments rest := by
  rw [segments, if_neg noQuote]
  · rintro tail slash rfl
    exact (noComment slash).1 rfl
  · rintro tail slash rfl
    exact (noComment slash).2 rfl

theorem noComment_of_neither {letter : Char} {rest : List Char}
    (noLine : ∀ after, letter = '/' → rest = '/' :: after → False)
    (noBlock : ∀ after, letter = '/' → rest = '*' :: after → False) :
    letter = '/' → rest.head? ≠ some '/' ∧ rest.head? ≠ some '*' := by
  intro slash
  constructor
  · intro first
    obtain ⟨after, same⟩ := List.head?_eq_some_iff.mp first
    exact noLine after slash same
  · intro first
    obtain ⟨after, same⟩ := List.head?_eq_some_iff.mp first
    exact noBlock after slash same

theorem segments_code_append {letters : List Char}
    (neutral : ∀ letter ∈ letters, IsNeutral letter) (rest : List Char) :
    segments (letters ++ rest) = letters.map .code ++ segments rest := by
  induction letters with
  | nil => rfl
  | cons letter letters ih =>
      obtain ⟨first, others⟩ := List.forall_mem_cons.mp neutral
      rw [List.cons_append, segments_bare first.noQuote fun slash => (first.noSlash slash).elim,
        ih others, List.map_cons, List.cons_append]

theorem segments_code {letters : List Char} (neutral : ∀ letter ∈ letters, IsNeutral letter) :
    segments letters = letters.map .code := by
  have alone := segments_code_append neutral []
  rwa [List.append_nil, segments, List.append_nil] at alone

private theorem take_append_of_closeBlock {letters after : List Char}
    (closes : closeBlock letters = some after) :
    letters.take (letters.length - after.length) ++ after = letters := by
  obtain ⟨body, rfl⟩ := exists_of_closeBlock closes
  have size : (body ++ after).length - after.length = body.length := by
    rw [List.length_append]
    omega
  rw [size, List.take_left]

/-- The segments are the query, piece by piece. -/
theorem flatMap_segments (letters : List Char) :
    (segments letters).flatMap Segment.letters = letters := by
  induction letters using segments.induct with
  | case1 => rw [segments, List.flatMap_nil]
  | case2 rest ih =>
      rw [segments_line, List.flatMap_cons, ih]
      exact congrArg (fun line => '/' :: '/' :: line) List.takeWhile_append_dropWhile
  | case3 rest after closes ih =>
      rw [segments_block closes, List.flatMap_cons, ih]
      exact congrArg (fun block => '/' :: '*' :: block) (take_append_of_closeBlock closes)
  | case4 rest isOpen ih =>
      rw [segments_openBlock isOpen, List.flatMap_cons, ih]
      rfl
  | case5 letter rest noLine noBlock quote body after closes ih =>
      rw [segments_closedQuote quote closes, List.flatMap_cons, ih,
        eq_append_of_closeQuote closes]
      rfl
  | case6 letter rest noLine noBlock quote isOpen ih =>
      rw [segments_openQuote quote isOpen, List.flatMap_cons, ih]
      rfl
  | case7 letter rest noLine noBlock noQuote ih =>
      rw [segments_bare noQuote (noComment_of_neither noLine noBlock), List.flatMap_cons, ih]
      rfl

/-- The copy shows each comment as a blank and everything else as it is. -/
theorem withoutComments_eq_flatMap (letters : List Char) :
    withoutComments letters = (segments letters).flatMap Segment.shown := by
  induction letters using segments.induct with
  | case1 => rw [segments, withoutComments, List.flatMap_nil]
  | case2 rest ih =>
      rw [segments_line, withoutComments, ih]
      rfl
  | case3 rest after closes ih =>
      rw [segments_block closes, withoutComments_block closes, ih]
      rfl
  | case4 rest isOpen ih =>
      rw [segments_openBlock isOpen, withoutComments]
      split
      · next found =>
          rw [isOpen] at found
          cases found
      · rw [ih]
        rfl
  | case5 letter rest noLine noBlock quote body after closes ih =>
      rw [segments_closedQuote quote closes, withoutComments_closedQuote quote closes, ih]
      rfl
  | case6 letter rest noLine noBlock quote isOpen ih =>
      rw [segments_openQuote quote isOpen, withoutComments, if_pos quote]
      · split
        · next found =>
            rw [isOpen] at found
            cases found
        · rw [ih]
          rfl
      · exact noLine
      · exact noBlock
  | case7 letter rest noLine noBlock noQuote ih =>
      have noComment := noComment_of_neither noLine noBlock
      rw [segments_bare noQuote noComment, withoutComments_bare noQuote noComment, ih]
      rfl

/-! ### Letters put behind a query -/

/-- The segments of a text before and after some letters are put behind it: the letters are code,
or the comment that the text ends in has taken those up to the next line. -/
inductive Continued (tail : List Char) : List Segment → List Segment → Prop where
  | behind (found : List Segment) : Continued tail found (found ++ tail.map .code)
  | inLine (before : List Segment) (line : List Char) :
      Continued tail (before ++ [.comment ('/' :: '/' :: line)])
        (before ++ .comment ('/' :: '/' :: (line ++ tail.takeWhile (· != '\n'))) ::
          (tail.dropWhile (· != '\n')).map .code)

theorem Continued.cons {tail : List Char} {found after : List Segment}
    (continued : Continued tail found after) (segment : Segment) :
    Continued tail (segment :: found) (segment :: after) := by
  cases continued with
  | behind => exact .behind (segment :: found)
  | inLine before line => exact .inLine (segment :: before) line

/-- A comment to the end of the line takes up what is put behind it if the query ends in that line,
and ends where it did otherwise. -/
theorem Continued.line {tail : List Char} (neutral : ∀ letter ∈ tail, IsNeutral letter)
    {rest : List Char}
    (continued : Continued tail (segments (rest.dropWhile (· != '\n')))
      (segments (rest.dropWhile (· != '\n') ++ tail))) :
    Continued tail (segments ('/' :: '/' :: rest)) (segments ('/' :: '/' :: (rest ++ tail))) := by
  rw [segments_line, segments_line, List.dropWhile_append, List.takeWhile_append]
  have parts := congrArg List.length
    (List.takeWhile_append_dropWhile (p := (· != '\n')) (l := rest))
  rw [List.length_append] at parts
  by_cases ended : rest.dropWhile (· != '\n') = []
  · have stays : ∀ letter ∈ tail.dropWhile (· != '\n'), IsNeutral letter :=
      fun letter member => neutral letter ((List.dropWhile_sublist _).subset member)
    have line : rest.takeWhile (· != '\n') = rest :=
      List.takeWhile_eq_self_iff.mpr (List.dropWhile_eq_nil_iff.mp ended)
    rw [ended, line, if_pos rfl, if_pos List.isEmpty_nil, segments_code stays, segments]
    exact .inLine [] rest
  · have goesOn : (rest.takeWhile (· != '\n')).length ≠ rest.length := by
      intro whole
      exact ended (List.eq_nil_of_length_eq_zero (by omega))
    rw [if_neg goesOn, if_neg fun empty => ended (List.isEmpty_iff.mp empty)]
    exact continued.cons _

private theorem closeBlock_append_eq_some {tail rest after : List Char} (absent : '/' ∉ tail)
    (closes : closeBlock rest = some after) :
    closeBlock (rest ++ tail) = some (after ++ tail) ∧
      (rest ++ tail).take ((rest ++ tail).length - (after ++ tail).length) =
        rest.take (rest.length - after.length) := by
  constructor
  · rw [closeBlock_append absent, closes, Option.map_some]
  · have size : (rest ++ tail).length - (after ++ tail).length = rest.length - after.length := by
      rw [List.length_append, List.length_append]
      omega
    rw [size, List.take_append_of_le_length (Nat.sub_le _ _)]

private theorem ne_backslash_of_quote {letter : Char} (quote : letter = '\'' ∨ letter = '"') :
    letter ≠ '\\' := by
  rcases quote with rfl | rfl <;> decide

theorem noComment_append {tail rest : List Char} (neutral : ∀ letter ∈ tail, IsNeutral letter)
    (opens : rest.head? ≠ some '/' ∧ rest.head? ≠ some '*') :
    (rest ++ tail).head? ≠ some '/' ∧ (rest ++ tail).head? ≠ some '*' := by
  cases rest with
  | nil =>
      exact ⟨fun first => (neutral '/' (List.mem_of_head? first)).noSlash rfl,
        fun first => (neutral '*' (List.mem_of_head? first)).noStar rfl⟩
  | cons next rest => exact opens

/-- The induction is on the segments of the query. Nothing that opens or closes stands in the part
behind it, so that each of them ends where it did. -/
theorem segments_append {tail : List Char} (neutral : ∀ letter ∈ tail, IsNeutral letter)
    (letters : List Char) : Continued tail (segments letters) (segments (letters ++ tail)) := by
  have noSlash : '/' ∉ tail := fun member => (neutral '/' member).noSlash rfl
  have noMark : ∀ letter, letter = '\'' ∨ letter = '"' → letter ∉ tail :=
    fun letter quote member => (neutral letter member).noQuote quote
  induction letters using segments.induct with
  | case1 =>
      rw [List.nil_append, segments_code neutral, segments]
      exact .behind []
  | case2 rest ih => exact ih.line neutral
  | case3 rest after closes ih =>
      obtain ⟨stillCloses, taken⟩ := closeBlock_append_eq_some noSlash closes
      rw [List.cons_append, List.cons_append, segments_block stillCloses, segments_block closes,
        taken]
      exact ih.cons _
  | case4 rest isOpen ih =>
      have stillOpen : closeBlock (rest ++ tail) = none := by
        rw [closeBlock_append noSlash, isOpen, Option.map_none]
      rw [List.cons_append, List.cons_append, segments_openBlock stillOpen,
        segments_openBlock isOpen]
      exact ih.cons (.code '/')
  | case5 letter rest noLine noBlock quote body after closes ih =>
      have stillCloses : closeQuote letter (rest ++ tail) = some (body, after ++ tail) := by
        rw [closeQuote_append (ne_backslash_of_quote quote) (noMark letter quote), closes,
          Option.map_some]
      rw [List.cons_append, segments_closedQuote quote stillCloses,
        segments_closedQuote quote closes]
      exact ih.cons (.quoted (letter :: body))
  | case6 letter rest noLine noBlock quote isOpen ih =>
      have stillOpen : closeQuote letter (rest ++ tail) = none := by
        rw [closeQuote_append (ne_backslash_of_quote quote) (noMark letter quote), isOpen,
          Option.map_none]
      rw [List.cons_append, segments_openQuote quote stillOpen, segments_openQuote quote isOpen]
      exact ih.cons (.code letter)
  | case7 letter rest noLine noBlock noQuote ih =>
      have opens := noComment_of_neither noLine noBlock
      have stillOpens := fun slash => noComment_append neutral (opens slash)
      rw [List.cons_append, segments_bare noQuote stillOpens, segments_bare noQuote opens]
      exact ih.cons (.code letter)

end RowLimit

end QueryWarden
