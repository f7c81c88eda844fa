/-
The copy of a query in which comments are blanks. It is made by passing over what looks like
a string, and knows nothing of names between backticks: such a name is copied letter by letter
and may look like the beginning of something else. Where no name does, the copy shows the
lexemes of the query one after the other, and can be cut where they can be.
-/

import QueryWarden.Proofs.Query.Lexeme
import QueryWarden.Text.Search

namespace QueryWarden

open Text

namespace Lexeme

def shown : Lexeme → List Char
  | .bare letter => [letter]
  | .quoted quotation body => quotation.mark :: (body ++ [quotation.mark])
  | .comment => [' ']

/-- A name between backticks with neither a quotation mark nor the opening of a comment. -/
structure IsPlainName (body : List Char) : Prop where
  noQuote : ∀ letter ∈ body, letter ≠ '\'' ∧ letter ≠ '"'
  noLine : occurs "//".toList body = false
  noBlock : occurs "/*".toList body = false

theorem isPlainName_iff (body : List Char) : IsPlainName body ↔
    body.all (fun letter => letter != '\'' && letter != '"') = true ∧
      occurs "//".toList body = false ∧ occurs "/*".toList body = false := by
  simp only [List.all_eq_true, Bool.and_eq_true, bne_iff_ne]
  constructor
  · exact fun plain => ⟨plain.noQuote, plain.noLine, plain.noBlock⟩
  · exact fun plain => ⟨plain.1, plain.2.1, plain.2.2⟩

instance (body : List Char) : Decidable (IsPlainName body) :=
  decidable_of_iff' _ (isPlainName_iff body)

def HasPlainName : Lexeme → Prop
  | .quoted .name body => IsPlainName body
  | _ => True

instance (lexeme : Lexeme) : Decidable lexeme.HasPlainName :=
  match lexeme with
  | .quoted .name body => inferInstanceAs (Decidable (IsPlainName body))
  | .quoted .single _ | .quoted .double _ | .bare _ | .comment => isTrue trivial

theorem IsPlainName.of_cons {letter : Char} {body : List Char}
    (plain : IsPlainName (letter :: body)) : IsPlainName body where
  noQuote := fun other member => plain.noQuote other (List.mem_cons_of_mem letter member)
  noLine := (Bool.or_eq_false_iff.mp plain.noLine).2
  noBlock := (Bool.or_eq_false_iff.mp plain.noBlock).2

end Lexeme

namespace RowLimit

/-! ### The copy without comments -/

theorem withoutComments_block {rest after : List Char} (closes : closeBlock rest = some after) :
    withoutComments ('/' :: '*' :: rest) = ' ' :: withoutComments after := by
  rw [withoutComments]
  split
  · next found =>
      rw [closes] at found
      cases found
      rfl
  · next found =>
      rw [closes] at found
      cases found

theorem withoutComments_bare {letter : Char} {rest : List Char}
    (noQuote : ¬(letter = '\'' ∨ letter = '"'))
    (noComment : letter = '/' → rest.head? ≠ some '/' ∧ rest.head? ≠ some '*') :
    withoutComments (letter :: rest) = letter :: withoutComments rest := by
  rw [withoutComments, if_neg noQuote]
  · rintro tail slash rfl
    exact (noComment slash).1 rfl
  · rintro tail slash rfl
    exact (noComment slash).2 rfl

theorem withoutComments_quote {quotation : Quotation} (escapes : quotation.hasEscapes = true)
    {rest body after : List Char}
    (closes : closeQuote quotation.mark rest = some (body, after)) :
    withoutComments (quotation.mark :: rest) = quotation.mark :: (body ++ withoutComments after) := by
  have quote : quotation.mark = '\'' ∨ quotation.mark = '"' := by
    cases quotation with
    | single => exact Or.inl rfl
    | double => exact Or.inr rfl
    | name => cases escapes
  have noSlash : quotation.mark ≠ '/' := by cases quotation <;> decide
  rw [withoutComments, if_pos quote]
  · split
    · next found =>
        rw [closes] at found
        cases found
        rfl
    · next found =>
        rw [closes] at found
        cases found
  · exact fun _ slash _ => noSlash slash
  · exact fun _ slash _ => noSlash slash

/-- Letters between backticks are copied as they are if the name is plain. -/
theorem withoutComments_name {body : List Char} (plain : Lexeme.IsPlainName body)
    (rest : List Char) :
    withoutComments (body ++ Quotation.name.mark :: rest) =
      body ++ Quotation.name.mark :: withoutComments rest := by
  induction body with
  | nil => exact withoutComments_bare (by decide) nofun
  | cons letter body ih =>
      have noComment : letter = '/' →
          (body ++ Quotation.name.mark :: rest).head? ≠ some '/' ∧
            (body ++ Quotation.name.mark :: rest).head? ≠ some '*' := by
        rintro rfl
        cases body with
        | nil => exact ⟨nofun, nofun⟩
        | cons next body =>
            constructor
            · intro same
              cases same
              exact Bool.noConfusion plain.noLine
            · intro same
              cases same
              exact Bool.noConfusion plain.noBlock
      have noQuote : ¬(letter = '\'' ∨ letter = '"') :=
        not_or.mpr (plain.noQuote letter List.mem_cons_self)
      rw [List.cons_append, withoutComments_bare noQuote noComment, ih plain.of_cons]
      rfl

def CopiesFirst (letters : List Char) (found : List Lexeme) : Prop :=
  ∃ lexeme after more, found = lexeme :: more ∧ Lexeme.read after = some more ∧
    (lexeme.HasPlainName → withoutComments letters = lexeme.shown ++ withoutComments after)

section

open Lexeme

variable {rest : List Char} {found : List Lexeme}

private theorem copiesFirst_quotation {quotation : Quotation}
    (closed : readFrom (.quoting quotation []) rest = some found) :
    CopiesFirst (quotation.mark :: rest) found := by
  by_cases escapes : quotation.hasEscapes = true
  · obtain ⟨body, after, more, closes, afterRead, rfl⟩ := readFrom_quotation escapes closed
    refine ⟨_, after, more, rfl, afterRead, fun _ => ?_⟩
    exact withoutComments_quote escapes closes
  · obtain rfl : quotation = .name := by
      cases quotation with
      | single => exact (escapes rfl).elim
      | double => exact (escapes rfl).elim
      | name => rfl
    obtain ⟨body, after, more, rfl, afterRead, rfl⟩ := readFrom_name closed
    refine ⟨_, after, more, rfl, afterRead, fun plain => ?_⟩
    have name : IsPlainName body := plain
    have first : withoutComments (Quotation.name.mark :: (body ++ Quotation.name.mark :: after)) =
        Quotation.name.mark :: withoutComments (body ++ Quotation.name.mark :: after) :=
      withoutComments_bare (by decide) (fun slash => by cases slash)
    rw [first, withoutComments_name name after]
    simp only [shown, List.nil_append, List.cons_append, List.append_assoc]

private theorem copiesFirst_slash (closed : readFrom .slash rest = some found) :
    CopiesFirst ('/' :: rest) found := by
  by_cases line : rest.head? = some '/'
  · obtain ⟨rest, rfl⟩ := List.head?_eq_some_iff.mp line
    have inLine : Place.slash.advance '/' = ([], .line) := rfl
    rw [readFrom_cons_nil inLine] at closed
    obtain ⟨more, afterRead, rfl⟩ := readFrom_line closed
    refine ⟨.comment, _, more, rfl, afterRead, fun _ => ?_⟩
    rw [withoutComments]
    rfl
  · by_cases block : rest.head? = some '*'
    · obtain ⟨rest, rfl⟩ := List.head?_eq_some_iff.mp block
      have inBlock : Place.slash.advance '*' = ([], .block) := rfl
      rw [readFrom_cons_nil inBlock] at closed
      obtain ⟨after, more, closes, afterRead, rfl⟩ := (readFrom_block rest).1 closed
      exact ⟨.comment, after, more, rfl, afterRead, fun _ => withoutComments_block closes⟩
    · obtain ⟨more, afterRead, rfl⟩ := readFrom_slash line block closed
      refine ⟨_, rest, more, rfl, afterRead, fun _ => ?_⟩
      exact withoutComments_bare (by decide) (fun _ => ⟨line, block⟩)

private theorem copiesFirst_of_read {letter : Char}
    (closed : Lexeme.read (letter :: rest) = some found) :
    CopiesFirst (letter :: rest) found := by
  cases opened : Quotation.opened? letter with
  | some quotation =>
      obtain rfl := Quotation.mark_of_opened? opened
      have begins : Place.code.advance quotation.mark = ([], .quoting quotation []) := by
        rw [Place.advance, begun, opened]
      rw [Lexeme.read, readFrom_cons_nil begins] at closed
      exact copiesFirst_quotation closed
  | none =>
      by_cases slash : letter = '/'
      · subst slash
        have begins : Place.code.advance '/' = ([], .slash) := rfl
        rw [Lexeme.read, readFrom_cons_nil begins] at closed
        exact copiesFirst_slash closed
      · have isPlain : IsPlain letter := ⟨opened, slash⟩
        obtain ⟨more, afterRead, rfl⟩ := readFrom_cons isPlain.advance_code closed
        refine ⟨_, rest, more, rfl, afterRead, fun _ => ?_⟩
        refine withoutComments_bare ?_ (fun same => (slash same).elim)
        exact not_or.mpr ⟨isPlain.ne_mark .single, isPlain.ne_mark .double⟩

end

/-- The copy of a text shows its lexemes one after the other. The induction is on them, as a
quotation or a comment is passed over in one step. -/
theorem withoutComments_of_read {letters : List Char} {found : List Lexeme}
    (closed : Lexeme.read letters = some found)
    (plain : ∀ lexeme ∈ found, lexeme.HasPlainName) :
    withoutComments letters = found.flatMap Lexeme.shown := by
  induction found generalizing letters with
  | nil =>
      cases letters with
      | nil =>
          rw [withoutComments]
          rfl
      | cons letter rest =>
          obtain ⟨lexeme, after, more, impossible, _⟩ := copiesFirst_of_read closed
          cases impossible
  | cons lexeme found ih =>
      cases letters with
      | nil => cases closed
      | cons letter rest =>
          obtain ⟨first, after, more, same, afterRead, copied⟩ := copiesFirst_of_read closed
          cases same
          obtain ⟨plainFirst, plainMore⟩ := List.forall_mem_cons.mp plain
          rw [copied plainFirst, ih afterRead plainMore]
          rfl

end RowLimit

/-! ### Cutting the copy -/

namespace Lexeme

variable {lexemes : List Lexeme} {letters : List Char}

/-- Where no letter opens a quotation, only letters of their own and comments are shown. -/
theorem comment_or_bare_of_shown (same : lexemes.flatMap shown = letters)
    (unquoted : ∀ letter ∈ letters, Quotation.opened? letter = none) {lexeme : Lexeme}
    (member : lexeme ∈ lexemes) :
    lexeme = .comment ∧ ' ' ∈ letters ∨ ∃ letter ∈ letters, lexeme = .bare letter := by
  have within : ∀ letter ∈ lexeme.shown, letter ∈ letters := by
    intro letter shows
    rw [← same]
    exact List.mem_flatMap.mpr ⟨lexeme, member, shows⟩
  cases lexeme with
  | bare letter => exact Or.inr ⟨letter, within letter List.mem_cons_self, rfl⟩
  | comment => exact Or.inl ⟨rfl, within ' ' List.mem_cons_self⟩
  | quoted quotation body =>
      have opened := unquoted quotation.mark (within _ List.mem_cons_self)
      rw [Quotation.opened?_mark] at opened
      cases opened

/-- A quotation ends in its mark, and any other lexeme shows one letter. -/
theorem nil_of_shown {lexeme : Lexeme} {letter : Char} {front rest : List Char}
    (whole : lexeme.shown = letter :: front ++ rest)
    (unquoted : ∀ other ∈ rest, Quotation.opened? other = none) : rest = [] := by
  cases lexeme with
  | bare only => exact (List.append_eq_nil_iff.mp (List.cons.inj whole).2.symm).2
  | comment => exact (List.append_eq_nil_iff.mp (List.cons.inj whole).2.symm).2
  | quoted quotation body =>
      rcases List.eq_nil_or_concat rest with nothing | ⟨start, last, rfl⟩
      · exact nothing
      · rw [List.concat_eq_append] at whole unquoted
        have ends : body ++ [quotation.mark] = front ++ start ++ [last] := by
          rw [List.append_assoc]
          exact (List.cons.inj whole).2
        obtain rfl := (List.cons.inj (List.append_inj' ends rfl).2).1
        have opened := unquoted quotation.mark List.mem_concat_self
        rw [Quotation.opened?_mark] at opened
        cases opened

/-- The lexemes can be cut where the copy is cut, if no quotation reaches behind the cut. -/
theorem exists_append_of_shown {front back : List Char}
    (same : lexemes.flatMap shown = front ++ back)
    (unquoted : ∀ letter ∈ back, Quotation.opened? letter = none) :
    ∃ before behind, lexemes = before ++ behind ∧ before.flatMap shown = front ∧
      behind.flatMap shown = back := by
  induction lexemes generalizing front with
  | nil =>
      obtain ⟨rfl, rfl⟩ := List.append_eq_nil_iff.mp same.symm
      exact ⟨[], [], rfl, rfl, rfl⟩
  | cons lexeme lexemes ih =>
      cases front with
      | nil => exact ⟨[], lexeme :: lexemes, rfl, rfl, same⟩
      | cons letter front =>
          rw [List.flatMap_cons] at same
          have beyond : ∃ rest, letter :: front = lexeme.shown ++ rest ∧
              lexemes.flatMap shown = rest ++ back := by
            rcases List.append_eq_append_iff.mp same with
              ⟨rest, whole, rests⟩ | ⟨rest, whole, rests⟩
            · exact ⟨rest, whole, rests⟩
            · obtain rfl : rest = [] := nil_of_shown whole (fun other member =>
                unquoted other (rests ▸ List.mem_append_left _ member))
              exact ⟨[], by rw [whole, List.append_nil, List.append_nil], rests.symm⟩
          obtain ⟨rest, whole, rests⟩ := beyond
          obtain ⟨before, behind, rfl, beforeSame, behindSame⟩ := ih rests
          refine ⟨lexeme :: before, behind, rfl, ?_, behindSame⟩
          rw [List.flatMap_cons, beforeSame, whole]

/-- Letters without a blank are lexemes of their own. -/
theorem eq_map_bare (same : lexemes.flatMap shown = letters)
    (plain : ∀ letter ∈ letters, isBlank letter = false ∧ Quotation.opened? letter = none) :
    lexemes = letters.map .bare := by
  have isBare : ∀ lexeme ∈ lexemes, ∃ letter, lexeme = .bare letter := by
    intro lexeme member
    rcases comment_or_bare_of_shown same (fun letter inside => (plain letter inside).2) member with
      ⟨_, space⟩ | ⟨letter, _, bare⟩
    · cases (plain ' ' space).1
    · exact ⟨letter, bare⟩
  rw [← same]
  clear same plain
  induction lexemes with
  | nil => rfl
  | cons lexeme lexemes ih =>
      obtain ⟨⟨letter, rfl⟩, others⟩ := List.forall_mem_cons.mp isBare
      exact congrArg (List.cons _) (ih others)

end Lexeme

end QueryWarden
