/-
The tokens of a condition. A text is read letter by letter: names, numbers and
parameters are words, a name that follows a point belongs to the word before it, quoted
texts and names are kept whole, brackets come in pairs of three kinds, and any other
letter is a sign. Blanks separate and are dropped. A comment is no part of a condition;
neither is a quotation that is not closed nor a point or a slash at the very end.
-/

import QueryWarden.Text.Blank
import QueryWarden.Text.Name
import QueryWarden.Text.Word

namespace QueryWarden

open Text

namespace Condition

inductive Bracket where
  | round
  | square
  | curly
deriving DecidableEq

inductive Token where
  | word (letters : List Char)
  | quoted (mark : Char) (letters : List Char)
  | sign (letter : Char)
  | opening (bracket : Bracket)
  | closing (bracket : Bracket)
deriving DecidableEq

/-- What a reader has in hand between two letters. Behind a point the letters are those of
the word before it, if there is one. -/
inductive Hand where
  | nothing
  | word (letters : List Char)
  | blankBehind (letters : List Char)
  | pointBehind (letters : List Char)
  | slash
  | quotation (mark : Char) (letters : List Char)
  | escape (mark : Char) (letters : List Char)
deriving DecidableEq

def wordTokens : List Char → List Token
  | [] => []
  | letters => [.word letters]

def begun (letter : Char) : List Token × Hand :=
  if isBlank letter then ([], .nothing)
  else if isWord letter || letter == '$' then ([], .word [letter])
  else
    match letter with
    | '.' => ([], .pointBehind [])
    | '/' => ([], .slash)
    | '\'' => ([], .quotation '\'' [])
    | '"' => ([], .quotation '"' [])
    | '\x60' => ([], .quotation '\x60' [])
    | '(' => ([.opening .round], .nothing)
    | ')' => ([.closing .round], .nothing)
    | '[' => ([.opening .square], .nothing)
    | ']' => ([.closing .square], .nothing)
    | '\x7b' => ([.opening .curly], .nothing)
    | '\x7d' => ([.closing .curly], .nothing)
    | letter => ([.sign letter], .nothing)

def after (complete : List Token) (letter : Char) : Option (List Token × Hand) :=
  some (complete ++ (begun letter).1, (begun letter).2)

def Hand.advance : Hand → Char → Option (List Token × Hand)
  | .nothing, letter => after [] letter
  | .word letters, letter =>
      if isWord letter then some ([], .word (letters ++ [letter]))
      else if isBlank letter then some ([], .blankBehind letters)
      else if letter = '.' then some ([], .pointBehind letters)
      else after [.word letters] letter
  | .blankBehind letters, letter =>
      if isBlank letter then some ([], .blankBehind letters)
      else if letter = '.' then some ([], .pointBehind letters)
      else after [.word letters] letter
  | .pointBehind letters, letter =>
      if letter.isDigit then some (wordTokens letters, .word ['.', letter])
      else if isWord letter then some ([], .word (letters ++ ['.', letter]))
      else if isBlank letter then some ([], .pointBehind letters)
      else after (wordTokens letters ++ [.sign '.']) letter
  | .slash, letter =>
      if letter = '/' ∨ letter = '*' then none else after [.sign '/'] letter
  | .quotation mark letters, letter =>
      if letter = mark then some ([.quoted mark letters], .nothing)
      else if letter = '\\' ∧ mark ≠ '\x60' then some ([], .escape mark (letters ++ [letter]))
      else some ([], .quotation mark (letters ++ [letter]))
  | .escape mark letters, letter => some ([], .quotation mark (letters ++ [letter]))

def Hand.complete : Hand → Option (List Token)
  | .nothing => some []
  | .word letters | .blankBehind letters => some [.word letters]
  | .pointBehind _ | .slash | .quotation _ _ | .escape _ _ => none

def tokensWith (hand : Hand) : List Char → Option (List Token)
  | [] => hand.complete
  | letter :: letters =>
      match hand.advance letter with
      | none => none
      | some (tokens, hand) => (tokensWith hand letters).map (tokens ++ ·)

def tokens (letters : List Char) : Option (List Token) :=
  tokensWith .nothing letters

/-! ### Reading on -/

theorem tokensWith_cons {hand next : Hand} {letter : Char} {letters : List Char}
    {tokens : List Token} (advanced : hand.advance letter = some (tokens, next)) :
    tokensWith hand (letter :: letters) = (tokensWith next letters).map (tokens ++ ·) := by
  rw [tokensWith, advanced]

/-- What is complete stays so when a blank follows, and nothing goes on with it. -/
theorem advance_blank {hand : Hand} {complete : List Token} {blank : Char}
    (done : hand.complete = some complete) (isBlank : isBlank blank = true)
    (notWord : isWord blank = false) :
    ∃ next, hand.advance blank = some ([], next) ∧ next.complete = some complete ∧
      ∀ letters, next ≠ .word letters := by
  cases hand with
  | nothing =>
      refine ⟨.nothing, ?_, done, fun _ same => by cases same⟩
      simp only [Hand.advance, after, begun, isBlank, if_true, List.append_nil]
  | word letters =>
      refine ⟨.blankBehind letters, ?_, done, fun _ same => by cases same⟩
      simp only [Hand.advance, notWord, isBlank, Bool.false_eq_true, if_true, if_false]
  | blankBehind letters =>
      refine ⟨.blankBehind letters, ?_, done, fun _ same => by cases same⟩
      simp only [Hand.advance, isBlank, if_true]
  | pointBehind letters => cases done
  | slash => cases done
  | quotation mark letters => cases done
  | escape mark letters => cases done

/-- A letter begins anew unless a word goes on with it. -/
theorem advance_anew {hand : Hand} {complete : List Token} {letter : Char}
    (done : hand.complete = some complete) (notBlank : isBlank letter = false)
    (notPoint : letter ≠ '.')
    (apart : isWord letter = false ∨ ∀ letters, hand ≠ .word letters) :
    hand.advance letter = after complete letter := by
  cases hand with
  | nothing => cases done; rfl
  | word letters =>
      cases done
      have notWord := apart.resolve_right (fun other => other letters rfl)
      simp only [Hand.advance, notWord, notBlank, notPoint, Bool.false_eq_true, if_false]
  | blankBehind letters =>
      cases done
      simp only [Hand.advance, notBlank, notPoint, Bool.false_eq_true, if_false]
  | pointBehind letters => cases done
  | slash => cases done
  | quotation mark letters => cases done
  | escape mark letters => cases done

theorem tokensWith_anew {hand : Hand} {complete : List Token} {letter : Char}
    (letters : List Char) (advanced : hand.advance letter = after complete letter) :
    tokensWith hand (letter :: letters) = (tokens (letter :: letters)).map (complete ++ ·) := by
  rw [tokensWith_cons advanced, tokens,
    tokensWith_cons (show Hand.nothing.advance letter = after [] letter from rfl), Option.map_map]
  refine congrArg (fun change => Option.map change _) ?_
  funext more
  simp only [Function.comp, List.nil_append, List.append_assoc]

/-- What holds of the letters behind a hand that can end a text holds behind every text
that can be read. -/
theorem tokensWith_append {left right : List Char} {more : Option (List Token)}
    (behind : ∀ (hand : Hand) (complete : List Token), hand.complete = some complete →
      tokensWith hand right = more.map (complete ++ ·))
    {hand : Hand} {found : List Token} (read : tokensWith hand left = some found) :
    tokensWith hand (left ++ right) = more.map (found ++ ·) := by
  induction left generalizing hand found with
  | nil => exact behind hand found read
  | cons first left ih =>
      cases advanced : hand.advance first with
      | none => rw [tokensWith, advanced] at read; cases read
      | some next =>
          rw [tokensWith_cons advanced] at read
          obtain ⟨rest, restRead, rfl⟩ := Option.map_eq_some_iff.mp read
          rw [List.cons_append, tokensWith_cons advanced, ih restRead, Option.map_map]
          refine congrArg (fun change => Option.map change _) ?_
          funext later
          simp only [Function.comp, List.append_assoc]

/-- A letter that ends a word separates the texts on both sides of it. -/
theorem tokens_append {left right : List Char} {letter : Char} {found more : List Token}
    (readLeft : tokens left = some found) (readRight : tokens (letter :: right) = some more)
    (notBlank : isBlank letter = false) (notPoint : letter ≠ '.')
    (notWord : isWord letter = false) :
    tokens (left ++ letter :: right) = some (found ++ more) := by
  refine (tokensWith_append ?_ readLeft).trans (congrArg (Option.map (found ++ ·)) readRight)
  intro hand complete done
  exact tokensWith_anew right (advance_anew done notBlank notPoint (.inl notWord))

/-- A blank separates any two texts, provided that the second begins with no point. -/
theorem tokens_append_blank {left right : List Char} {letter : Char}
    {found more : List Token}
    (readLeft : tokens left = some found) (readRight : tokens (letter :: right) = some more)
    (notBlank : isBlank letter = false) (notPoint : letter ≠ '.') :
    tokens (left ++ ' ' :: letter :: right) = some (found ++ more) := by
  refine (tokensWith_append ?_ readLeft).trans (congrArg (Option.map (found ++ ·)) readRight)
  intro hand complete done
  obtain ⟨next, advanced, stillDone, free⟩ :=
    advance_blank done isBlank_space (by decide +kernel)
  rw [tokensWith_cons advanced,
    tokensWith_anew right (advance_anew stillDone notBlank notPoint (.inr free)),
    Option.map_map]
  rfl

end Condition

end QueryWarden
