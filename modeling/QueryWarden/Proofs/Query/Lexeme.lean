/-
The lexemes of a query. A text is read letter by letter: what stands between two quotation
marks is kept whole, a comment goes to the end of its line or to its closing mark, and any
other letter stands for itself. Between quotes a backslash takes the next letter with it; in
a name between backticks it is a letter like any other. A text that ends in a quotation or
in a block comment has no lexemes.
-/

import QueryWarden.Query.RowLimit

namespace QueryWarden

inductive Quotation where
  | single
  | double
  | name
deriving DecidableEq

namespace Quotation

def mark : Quotation → Char
  | .single => '\''
  | .double => '"'
  | .name => '\x60'

def opened? (letter : Char) : Option Quotation :=
  [.single, .double, .name].find? (fun quotation => quotation.mark == letter)

def hasEscapes : Quotation → Bool
  | .single | .double => true
  | .name => false

theorem opened?_mark (quotation : Quotation) : opened? quotation.mark = some quotation := by
  cases quotation <;> rfl

theorem mark_of_opened? {letter : Char} {quotation : Quotation}
    (opened : opened? letter = some quotation) : quotation.mark = letter := by
  have found := List.find?_some opened
  exact eq_of_beq found

end Quotation

inductive Lexeme where
  | bare (letter : Char)
  | quoted (quotation : Quotation) (body : List Char)
  | comment
deriving DecidableEq

namespace Lexeme

/-- Where a reader stands between two letters. A slash may open a comment, and a star in a
block comment may be about to close it. -/
inductive Place where
  | code
  | slash
  | quoting (quotation : Quotation) (body : List Char)
  | escaping (quotation : Quotation) (body : List Char)
  | line
  | block
  | star
deriving DecidableEq

def begun (letter : Char) : List Lexeme × Place :=
  match Quotation.opened? letter with
  | some quotation => ([], .quoting quotation [])
  | none => if letter = '/' then ([], .slash) else ([.bare letter], .code)

def Place.advance : Place → Char → List Lexeme × Place
  | .code, letter => begun letter
  | .slash, letter =>
      if letter = '/' then ([], .line)
      else if letter = '*' then ([], .block)
      else (.bare '/' :: (begun letter).1, (begun letter).2)
  | .quoting quotation body, letter =>
      if letter = quotation.mark then ([.quoted quotation body], .code)
      else if letter = '\\' ∧ quotation.hasEscapes then ([], .escaping quotation (body ++ [letter]))
      else ([], .quoting quotation (body ++ [letter]))
  | .escaping quotation body, letter => ([], .quoting quotation (body ++ [letter]))
  | .line, letter => if letter = '\n' then ([.comment, .bare letter], .code) else ([], .line)
  | .block, letter => if letter = '*' then ([], .star) else ([], .block)
  | .star, letter =>
      if letter = '/' then ([.comment], .code)
      else if letter = '*' then ([], .star)
      else ([], .block)

def Place.complete : Place → Option (List Lexeme)
  | .code => some []
  | .slash => some [.bare '/']
  | .line => some [.comment]
  | .quoting _ _ | .escaping _ _ | .block | .star => none

def readFrom (place : Place) : List Char → Option (List Lexeme)
  | [] => place.complete
  | letter :: letters =>
      (readFrom (place.advance letter).2 letters).map ((place.advance letter).1 ++ ·)

def read (letters : List Char) : Option (List Lexeme) :=
  readFrom .code letters

/-! ### Reading on -/

variable {letters : List Char} {found : List Lexeme}

theorem readFrom_cons {place next : Place} {letter : Char} {lexemes : List Lexeme}
    (advanced : place.advance letter = (lexemes, next))
    (opened : readFrom place (letter :: letters) = some found) :
    ∃ rest, readFrom next letters = some rest ∧ found = lexemes ++ rest := by
  rw [readFrom, advanced] at opened
  obtain ⟨rest, closed, rfl⟩ := Option.map_eq_some_iff.mp opened
  exact ⟨rest, closed, rfl⟩

/-- A place at which nothing is complete hands everything on to the next. -/
theorem readFrom_cons_nil {place next : Place} {letter : Char}
    (advanced : place.advance letter = ([], next)) :
    readFrom place (letter :: letters) = readFrom next letters := by
  rw [readFrom, advanced]
  exact Option.map_id_apply

def IsPlain (letter : Char) : Prop :=
  Quotation.opened? letter = none ∧ letter ≠ '/'

instance (letter : Char) : Decidable (IsPlain letter) :=
  inferInstanceAs (Decidable (_ ∧ _))

theorem IsPlain.ne_mark {letter : Char} (plain : IsPlain letter) (quotation : Quotation) :
    letter ≠ quotation.mark := by
  rintro rfl
  have opened := quotation.opened?_mark
  rw [plain.1] at opened
  cases opened

theorem IsPlain.advance_code {letter : Char} (plain : IsPlain letter) :
    Place.code.advance letter = ([.bare letter], .code) := by
  rw [Place.advance, begun, plain.1]
  exact if_neg plain.2

/-- A slash that opens no comment is a letter. -/
theorem readFrom_slash (noLine : letters.head? ≠ some '/') (noBlock : letters.head? ≠ some '*')
    (opened : readFrom .slash letters = some found) :
    ∃ rest, read letters = some rest ∧ found = .bare '/' :: rest := by
  cases letters with
  | nil =>
      cases opened
      exact ⟨[], rfl, rfl⟩
  | cons letter letters =>
      have advanced : Place.slash.advance letter =
          (.bare '/' :: (begun letter).1, (begun letter).2) := by
        rw [Place.advance, if_neg (fun same => noLine (congrArg some same)),
          if_neg (fun same => noBlock (congrArg some same))]
      obtain ⟨rest, closed, rfl⟩ := readFrom_cons advanced opened
      refine ⟨(begun letter).1 ++ rest, ?_, rfl⟩
      rw [read, readFrom, Place.advance, closed]
      rfl

/-! ### Comments and quotations -/

theorem readFrom_line (opened : readFrom .line letters = some found) :
    ∃ rest, read (letters.dropWhile (· != '\n')) = some rest ∧ found = .comment :: rest := by
  induction letters with
  | nil =>
      cases opened
      exact ⟨[], rfl, rfl⟩
  | cons letter letters ih =>
      by_cases ends : letter = '\n'
      · rw [ends] at opened ⊢
        obtain ⟨rest, closed, rfl⟩ := readFrom_cons (show Place.line.advance '\n' = _ from rfl) opened
        refine ⟨.bare '\n' :: rest, ?_, rfl⟩
        rw [List.dropWhile_cons, if_neg (by decide), read, readFrom]
        exact Option.map_eq_some_iff.mpr ⟨rest, closed, rfl⟩
      · have advanced : Place.line.advance letter = ([], .line) := by
          rw [Place.advance, if_neg ends]
        rw [readFrom_cons_nil advanced] at opened
        rw [List.dropWhile_cons, if_pos (bne_iff_ne.mpr ends)]
        exact ih opened

/-- A block comment is closed where the text is closed that is searched for its end. Behind a
star that may close it, the star belongs to what is searched. -/
theorem readFrom_block (letters : List Char) {found : List Lexeme} :
    (readFrom .block letters = some found → ∃ after rest,
      RowLimit.closeBlock letters = some after ∧ read after = some rest ∧
        found = .comment :: rest) ∧
    (readFrom .star letters = some found → ∃ after rest,
      RowLimit.closeBlock ('*' :: letters) = some after ∧ read after = some rest ∧
        found = .comment :: rest) := by
  induction letters with
  | nil => exact ⟨nofun, nofun⟩
  | cons letter letters ih =>
      have further (noSlash : letter ≠ '/') : RowLimit.closeBlock ('*' :: letter :: letters) =
          RowLimit.closeBlock (letter :: letters) := by
        rw [RowLimit.closeBlock]
        exact fun rest _ same => noSlash (List.cons.inj same).1
      have onward (noStar : letter ≠ '*') : RowLimit.closeBlock (letter :: letters) =
          RowLimit.closeBlock letters := by
        rw [RowLimit.closeBlock]
        exact fun rest same _ => noStar same
      by_cases star : letter = '*'
      · subst star
        rw [readFrom_cons_nil (show Place.block.advance '*' = ([], .star) from rfl),
          readFrom_cons_nil (show Place.star.advance '*' = ([], .star) from rfl),
          further (by decide)]
        exact ⟨ih.2, ih.2⟩
      · have advanced : Place.block.advance letter = ([], .block) := by
          rw [Place.advance, if_neg star]
        rw [readFrom_cons_nil advanced, onward star]
        refine ⟨ih.1, fun opened => ?_⟩
        by_cases slash : letter = '/'
        · subst slash
          obtain ⟨rest, closed, rfl⟩ :=
            readFrom_cons (show Place.star.advance '/' = ([.comment], .code) from rfl) opened
          exact ⟨letters, rest, rfl, closed, rfl⟩
        · have advanced : Place.star.advance letter = ([], .block) := by
            rw [Place.advance, if_neg slash, if_neg star]
          rw [readFrom_cons_nil advanced] at opened
          rw [further slash, onward star]
          exact ih.1 opened

/-- A quotation is closed where the text is closed that is searched for its mark. -/
theorem readFrom_quotation {quotation : Quotation} (escapes : quotation.hasEscapes = true)
    {body : List Char} (opened : readFrom (.quoting quotation body) letters = some found) :
    ∃ more after rest,
      RowLimit.closeQuote quotation.mark letters = some (more ++ [quotation.mark], after) ∧
        read after = some rest ∧ found = .quoted quotation (body ++ more) :: rest := by
  have escaped (body : List Char) : (Place.quoting quotation body).advance '\\' =
      ([], .escaping quotation (body ++ ['\\'])) := by
    have noMark : '\\' ≠ quotation.mark := by cases quotation <;> decide
    rw [Place.advance, if_neg noMark, if_pos ⟨rfl, escapes⟩]
  induction letters using RowLimit.closeQuote.induct quotation.mark generalizing body with
  | case1 => cases opened
  | case2 letter letters ih =>
      rw [readFrom_cons_nil (escaped body),
        readFrom_cons_nil (show Place.advance (.escaping _ _) letter = ([], _) from rfl)] at opened
      obtain ⟨more, after, rest, closes, closed, rfl⟩ := ih opened
      refine ⟨'\\' :: letter :: more, after, rest, ?_, closed, ?_⟩
      · rw [RowLimit.closeQuote, closes]
        rfl
      · rw [List.append_assoc, List.append_assoc]
        rfl
  | case3 letters noEscape =>
      have closing : (Place.quoting quotation body).advance quotation.mark =
          ([.quoted quotation body], .code) := by
        rw [Place.advance, if_pos rfl]
      obtain ⟨rest, closed, rfl⟩ := readFrom_cons closing opened
      refine ⟨[], letters, rest, ?_, closed, ?_⟩
      · rw [RowLimit.closeQuote, if_pos rfl]
        · rfl
        · exact noEscape
      · rw [List.append_nil]
        rfl
  | case4 letters noEscape other =>
      cases letters with
      | nil =>
          rw [readFrom_cons_nil (escaped body)] at opened
          cases opened
      | cons letter letters => exact (noEscape letter letters rfl rfl).elim
  | case5 letter letters noEscape other noSlash ih =>
      have within : (Place.quoting quotation body).advance letter =
          ([], .quoting quotation (body ++ [letter])) := by
        rw [Place.advance, if_neg other, if_neg (fun both => noSlash both.1)]
      rw [readFrom_cons_nil within] at opened
      obtain ⟨more, after, rest, closes, closed, rfl⟩ := ih opened
      refine ⟨letter :: more, after, rest, ?_, closed, ?_⟩
      · rw [RowLimit.closeQuote, if_neg other, if_neg noSlash, closes]
        · rfl
        · exact noEscape
      · rw [List.append_assoc]
        rfl

/-- A name goes up to the next backtick. -/
theorem readFrom_name {body : List Char}
    (opened : readFrom (.quoting .name body) letters = some found) :
    ∃ more after rest, letters = more ++ Quotation.name.mark :: after ∧
      read after = some rest ∧ found = .quoted .name (body ++ more) :: rest := by
  induction letters generalizing body with
  | nil => cases opened
  | cons letter letters ih =>
      by_cases closes : letter = Quotation.name.mark
      · rw [closes] at opened ⊢
        obtain ⟨rest, closed, rfl⟩ := readFrom_cons
          (show Place.advance (.quoting .name body) Quotation.name.mark = _ from rfl) opened
        refine ⟨[], letters, rest, rfl, closed, ?_⟩
        rw [List.append_nil]
        rfl
      · have within : Place.advance (.quoting .name body) letter =
            ([], .quoting .name (body ++ [letter])) := by
          rw [Place.advance, if_neg closes, if_neg (fun both => by cases both.2)]
        rw [readFrom_cons_nil within] at opened
        obtain ⟨more, after, rest, rfl, closed, rfl⟩ := ih opened
        refine ⟨letter :: more, after, rest, rfl, closed, ?_⟩
        rw [List.append_assoc]
        rfl

example : read "`it's`/*'*/;".toList =
    some [.quoted .name "it's".toList, .comment, .bare ';'] := by
  decide

/-! ### A line behind a text -/

def Place.IsOpen : Place → Prop
  | .quoting _ _ | .escaping _ _ | .block | .star => True
  | .code | .slash | .line => False

private theorem advance_of_isOpen {place : Place} (isOpen : place.IsOpen) {letter : Char}
    (plain : IsPlain letter) : ∃ next, place.advance letter = ([], next) ∧ next.IsOpen := by
  cases place with
  | quoting quotation body =>
      rw [Place.advance, if_neg (plain.ne_mark quotation)]
      split
      · exact ⟨_, rfl, trivial⟩
      · exact ⟨_, rfl, trivial⟩
  | escaping quotation body => exact ⟨_, rfl, trivial⟩
  | block =>
      rw [Place.advance]
      split
      · exact ⟨_, rfl, trivial⟩
      · exact ⟨_, rfl, trivial⟩
  | star =>
      rw [Place.advance, if_neg plain.2]
      split
      · exact ⟨_, rfl, trivial⟩
      · exact ⟨_, rfl, trivial⟩
  | code => cases isOpen
  | slash => cases isOpen
  | line => cases isOpen

private theorem readFrom_of_isOpen {place : Place} (isOpen : place.IsOpen)
    (plain : ∀ letter ∈ letters, IsPlain letter) : readFrom place letters = none := by
  induction letters generalizing place with
  | nil =>
      cases place with
      | quoting quotation body => rfl
      | escaping quotation body => rfl
      | block => rfl
      | star => rfl
      | code => cases isOpen
      | slash => cases isOpen
      | line => cases isOpen
  | cons letter letters ih =>
      obtain ⟨next, advanced, nextOpen⟩ := advance_of_isOpen isOpen (plain letter List.mem_cons_self)
      rw [readFrom_cons_nil advanced]
      exact ih nextOpen (fun other member => plain other (List.mem_cons_of_mem letter member))

private theorem read_plain (plain : ∀ letter ∈ letters, IsPlain letter) :
    read letters = some (letters.map .bare) := by
  induction letters with
  | nil => rfl
  | cons letter letters ih =>
      have rest := ih (fun other member => plain other (List.mem_cons_of_mem letter member))
      rw [read] at rest
      rw [read, readFrom, (plain letter List.mem_cons_self).advance_code, rest]
      rfl

/-- If a text has lexemes that ends in a plain line of its own, then the letters of this line
are lexemes. -/
theorem readFrom_append_line {place : Place} {line : List Char}
    (plain : ∀ letter ∈ line, IsPlain letter)
    (opened : readFrom place (letters ++ '\n' :: line) = some found) :
    ∃ before, found = before ++ .bare '\n' :: line.map .bare := by
  induction letters generalizing place found with
  | nil =>
      have newline : IsPlain '\n' := by decide
      have unlessOpen (notOpen : ¬place.IsOpen) :
          ∃ before, place.advance '\n' = (before ++ [.bare '\n'], .code) := by
        cases place with
        | code => exact ⟨[], rfl⟩
        | slash => exact ⟨[.bare '/'], rfl⟩
        | line => exact ⟨[.comment], rfl⟩
        | quoting quotation body => exact (notOpen trivial).elim
        | escaping quotation body => exact (notOpen trivial).elim
        | block => exact (notOpen trivial).elim
        | star => exact (notOpen trivial).elim
      by_cases isOpen : place.IsOpen
      · have within : ∀ letter ∈ '\n' :: line, IsPlain letter :=
          List.forall_mem_cons.mpr ⟨newline, plain⟩
        rw [List.nil_append, readFrom_of_isOpen isOpen within] at opened
        cases opened
      · obtain ⟨before, advanced⟩ := unlessOpen isOpen
        obtain ⟨rest, closed, rfl⟩ := readFrom_cons advanced opened
        have lineRead := read_plain plain
        rw [read, closed] at lineRead
        cases lineRead
        exact ⟨before, List.append_assoc _ _ _⟩
  | cons letter letters ih =>
      obtain ⟨rest, closed, rfl⟩ := readFrom_cons rfl opened
      obtain ⟨before, rfl⟩ := ih closed
      exact ⟨(place.advance letter).1 ++ before, (List.append_assoc _ _ _).symm⟩

end Lexeme

end QueryWarden
