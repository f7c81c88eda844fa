/-
The limit on the rows of a query. A query that ends in a limit is left alone; any
other gets one on a line of its own, so that a comment at its end cannot hide it.
Comments do not count as part of a query, and texts between quotes are passed over
so that what they hold is not taken for a comment.
-/

import QueryWarden.Text.Blank
import QueryWarden.Text.Word

namespace QueryWarden

open Text

namespace RowLimit

/-- A quoted text up to its closing mark, and what follows. A backslash takes the next
character with it. -/
def closeQuote (mark : Char) : List Char → Option (List Char × List Char)
  | [] => none
  | '\\' :: letter :: rest =>
      (closeQuote mark rest).map (fun found => ('\\' :: letter :: found.1, found.2))
  | letter :: rest =>
      if letter = mark then some ([letter], rest)
      else if letter = '\\' then none
      else (closeQuote mark rest).map (fun found => (letter :: found.1, found.2))

def closeBlock : List Char → Option (List Char)
  | [] => none
  | '*' :: '/' :: rest => some rest
  | _ :: rest => closeBlock rest

theorem closeQuote_shorter {mark : Char} {letters body rest : List Char}
    (found : closeQuote mark letters = some (body, rest)) : rest.length < letters.length := by
  induction letters using closeQuote.induct mark generalizing body rest with
  | case1 => cases found
  | case2 letter tail ih =>
      unfold closeQuote at found
      obtain ⟨inner, innerFound, same⟩ := Option.map_eq_some_iff.mp found
      have shorter := ih innerFound
      cases same
      simp only [List.length_cons]
      omega
  | case3 tail _ =>
      unfold closeQuote at found
      simp only [if_true, Option.some.injEq, Prod.mk.injEq] at found
      rw [← found.2]
      simp
  | case4 tail _ notMark =>
      unfold closeQuote at found
      simp only [notMark, if_false, if_true] at found
      cases found
  | case5 letter tail _ notMark notSlash ih =>
      unfold closeQuote at found
      simp only [notMark, notSlash, if_false] at found
      obtain ⟨inner, innerFound, same⟩ := Option.map_eq_some_iff.mp found
      have shorter := ih innerFound
      cases same
      simp only [List.length_cons]
      omega

theorem closeBlock_shorter {letters rest : List Char}
    (found : closeBlock letters = some rest) : rest.length < letters.length := by
  induction letters using closeBlock.induct generalizing rest with
  | case1 => cases found
  | case2 tail =>
      simp only [closeBlock, Option.some.injEq] at found
      rw [← found]
      simp only [List.length_cons]
      omega
  | case3 letter tail notEnd ih =>
      rw [closeBlock] at found
      · have shorter := ih found
        simp only [List.length_cons]
        omega
      · exact notEnd

theorem afterLine_length_le (letters : List Char) :
    (letters.dropWhile (· != '\n')).length ≤ letters.length :=
  (List.dropWhile_sublist _).length_le

/-- A copy of the text in which each comment is one blank. A quote or a comment that is
not closed is no quote and no comment. -/
def withoutComments : List Char → List Char
  | [] => []
  | '/' :: '/' :: rest => ' ' :: withoutComments (rest.dropWhile (· != '\n'))
  | '/' :: '*' :: rest =>
      match _closed : closeBlock rest with
      | some rest => ' ' :: withoutComments rest
      | none => '/' :: withoutComments ('*' :: rest)
  | letter :: rest =>
      if letter = '\'' ∨ letter = '"' then
        match _closed : closeQuote letter rest with
        | some (body, rest) => letter :: body ++ withoutComments rest
        | none => letter :: withoutComments rest
      else letter :: withoutComments rest
termination_by letters => letters.length
decreasing_by
  · have bound := afterLine_length_le rest
    simp only [List.length_cons]
    omega
  · have bound := closeBlock_shorter _closed
    simp only [List.length_cons]
    omega
  · simp
  · have bound := closeQuote_shorter _closed
    simp only [List.length_cons]
    omega
  · simp
  · simp

def isSemicolon (letter : Char) : Bool :=
  letter == ';'

/-- Case is disregarded. The letter in the middle has two more forms, one without a dot
and one with a dot above. -/
def afterLimitWord : List Char → Option (List Char)
  | first :: second :: third :: fourth :: fifth :: rest =>
      if first.toUpper = 'L' ∧ isLetterI second ∧ third.toUpper = 'M' ∧ isLetterI fourth ∧
          fifth.toUpper = 'T' then some rest
      else none
  | _ => none
where
  isLetterI (letter : Char) : Bool :=
    letter.toUpper == 'I' || letter == 'ı' || letter == 'İ'

def skipSome (chosen : Char → Bool) : List Char → Option (List Char)
  | [] => none
  | letter :: rest => if chosen letter then some (rest.dropWhile chosen) else none

/-- A number or a parameter, behind which only blanks are left. -/
def countAtEnd (letters : List Char) : Bool :=
  match letters with
  | '$' :: rest =>
      match skipSome isWord rest with
      | some rest => allBlank rest
      | none => false
  | letters =>
      match skipSome isDigit letters with
      | some rest => allBlank rest
      | none => false

def limitHere (letters : List Char) : Bool :=
  match afterLimitWord letters with
  | none => false
  | some rest =>
      match skipSome isBlank rest with
      | some rest => countAtEnd rest
      | none => false

/-- Whether the text ends in a limit. The flag tells whether the character before the
text is a word character. -/
def endsInLimitAfter : (inWord : Bool) → List Char → Bool
  | _, [] => false
  | inWord, letter :: letters =>
      (!inWord && limitHere (letter :: letters)) || endsInLimitAfter (isWord letter) letters

/-- The query without blanks around it and semicolons behind it. -/
def trimQuery (letters : List Char) : List Char :=
  dropRightWhile isSemicolon (trim letters)

def isLimited (letters : List Char) : Bool :=
  endsInLimitAfter false
    (dropRightWhile isSemicolon (dropRightWhile isBlank (withoutComments letters)))

def limitLine (maximum : String) : String :=
  "\nLIMIT " ++ maximum

/-- A query that has its own limit, which needs no other. -/
def ownLimit? (text : String) : Option String :=
  let letters := trimQuery text.toList
  if isLimited letters then some (String.ofList letters) else none

end RowLimit

/-- The query with a limit at its end: its own one, or the given maximum. -/
def withLimit (maximum : String) (text : String) : String :=
  let letters := RowLimit.trimQuery text.toList
  if RowLimit.isLimited letters then String.ofList letters
  else String.ofList letters ++ RowLimit.limitLine maximum

end QueryWarden
