/-
Normal texts. A text is made normal by two passes, one for each escape. Neither of them
writes a backslash or a letter that ends an escape, so that no pass makes or breaks an
escape of the other one. Therefore both passes together are one pass that reads either
escape, in whichever order they are made, and a normal text has no escape left to read.
-/

import QueryWarden.Query.Normal

namespace QueryWarden

/-! ### Reading escapes -/

abbrev Meaning := Char → Option Char

namespace Meaning

def either (first second : Meaning) : Meaning :=
  fun mark => (first mark).or (second mark)

/-- Whether whatever is read by the first meaning makes no escape for the second one. -/
structure Apart (first second : Meaning) : Prop where
  slashFirst : first '\\' = none
  slashSecond : second '\\' = none
  meantNoSlash : ∀ mark, first mark ≠ some '\\'
  meantNoMark : ∀ mark meant, first mark = some meant → second meant = none

private theorem either_self (meaning : Meaning) : meaning.either meaning = meaning :=
  funext fun _ => Option.or_self

private theorem either_comm {first second : Meaning}
    (disjoint : ∀ mark, first mark = none ∨ second mark = none) :
    first.either second = second.either first := by
  funext mark
  rcases disjoint mark with noFirst | noSecond
  · simp [either, noFirst]
  · simp [either, noSecond]

end Meaning

/-- One pass from the left. An escape becomes what it stands for, and every other character is
copied. -/
def readEscapes (meaning : Meaning) : List Char → List Char
  | '\\' :: mark :: rest =>
      match meaning mark with
      | some meant => meant :: readEscapes meaning rest
      | none => '\\' :: readEscapes meaning (mark :: rest)
  | letter :: rest => letter :: readEscapes meaning rest
  | [] => []

section

open Meaning

variable {meaning first second : Meaning}

theorem readEscapes_escape {mark meant : Char} (found : meaning mark = some meant)
    (rest : List Char) :
    readEscapes meaning ('\\' :: mark :: rest) = meant :: readEscapes meaning rest := by
  simp [readEscapes, found]

theorem readEscapes_copy {letter : Char} {rest : List Char}
    (plain : letter = '\\' → ∀ mark ∈ rest.head?, meaning mark = none) :
    readEscapes meaning (letter :: rest) = letter :: readEscapes meaning rest := by
  by_cases slash : letter = '\\'
  · subst slash
    cases rest with
    | nil => rfl
    | cons mark rest => simp [readEscapes, plain rfl mark rfl]
  · simp [readEscapes, slash]

/-- What is written first was there before, or it is the meaning of an escape. -/
theorem head_readEscapes {letters : List Char} {head : Char}
    (member : head ∈ (readEscapes meaning letters).head?) :
    head ∈ letters.head? ∨ ∃ mark, meaning mark = some head := by
  fun_cases readEscapes meaning letters with
  | case1 mark rest meant found =>
      have same : meant = head := by simpa [readEscapes, found] using member
      exact .inr ⟨mark, same ▸ found⟩
  | case2 mark rest unread =>
      left
      simpa [readEscapes, unread] using member
  | case3 letter rest plain =>
      left
      simpa [readEscapes, plain] using member
  | case4 =>
      left
      exact member

/-- Reading by one meaning and then by another one is reading by either. -/
theorem readEscapes_readEscapes (apart : first.Apart second) (letters : List Char) :
    readEscapes second (readEscapes first letters) = readEscapes (first.either second) letters := by
  fun_induction readEscapes (first.either second) letters with
  | case1 mark rest meant found ih =>
      cases early : first mark with
      | some written =>
          have same : written = meant := by simpa [either, early] using found
          have plain : written ≠ '\\' := fun slash => apart.meantNoSlash mark (slash ▸ early)
          rw [readEscapes_escape early, readEscapes_copy (fun slash => absurd slash plain), ih, same]
      | none =>
          have late : second mark = some meant := by simpa [either, early] using found
          have plain : mark ≠ '\\' := by
            intro slash
            simp [slash, apart.slashSecond] at late
          rw [readEscapes_copy (by simp [early]), readEscapes_copy (fun slash => absurd slash plain),
            readEscapes_escape late, ih]
  | case2 mark rest unread ih =>
      have neither : first mark = none ∧ second mark = none := Option.or_eq_none_iff.mp unread
      rw [readEscapes_copy (by simp [neither]), readEscapes_copy, ih]
      intro _ head member
      rcases head_readEscapes member with before | ⟨other, written⟩
      · have same : mark = head := Option.some.inj before
        exact same ▸ neither.2
      · exact apart.meantNoMark other head written
  | case3 letter rest plain ih =>
      have lone : letter = '\\' → rest = [] := by
        intro slash
        cases rest with
        | nil => rfl
        | cons mark rest => exact (plain mark rest slash rfl).elim
      rw [readEscapes_copy, readEscapes_copy, ih]
      · intro slash
        simp [lone slash, readEscapes]
      · intro slash
        simp [lone slash]
  | case4 => rfl

theorem slash_infix_cons_iff {mark letter : Char} {rest : List Char} :
    ['\\', mark] <:+: letter :: rest ↔
      (letter = '\\' ∧ mark ∈ rest.head?) ∨ ['\\', mark] <:+: rest := by
  rw [List.infix_cons_iff, List.cons_prefix_cons]
  cases rest with
  | nil => simp
  | cons head rest => simp [List.cons_prefix_cons, eq_comm]

/-- What is written holds no escape that could be read. -/
theorem not_infix_readEscapes (apart : meaning.Apart meaning) {mark : Char}
    (means : meaning mark ≠ none) (letters : List Char) :
    ¬['\\', mark] <:+: readEscapes meaning letters := by
  fun_induction readEscapes meaning letters with
  | case1 other rest meant found ih =>
      have plain : meant ≠ '\\' := fun slash => apart.meantNoSlash other (slash ▸ found)
      simp [slash_infix_cons_iff, plain, ih]
  | case2 other rest unread ih =>
      have apartHead : mark ∉ (readEscapes meaning (other :: rest)).head? := by
        intro member
        rcases head_readEscapes member with before | ⟨start, written⟩
        · have same : other = mark := Option.some.inj before
          exact means (same ▸ unread)
        · exact means (apart.meantNoMark start mark written)
      simp [slash_infix_cons_iff, apartHead, ih]
  | case3 letter rest plain ih =>
      cases rest with
      | nil => simp [slash_infix_cons_iff, readEscapes]
      | cons next rest =>
          have noSlash : letter ≠ '\\' := fun slash => plain next rest slash rfl
          simp [slash_infix_cons_iff, noSlash, ih]
  | case4 => simp

end

/-! ### Normal texts -/

namespace Meaning

def only (mark meant : Char) : Meaning :=
  fun letter => if letter = mark then some meant else none

def lineOrTab : Meaning
  | 'n' => some '\n'
  | 't' => some '\t'
  | _ => none

private theorem apart_only {mark meant other : Char} (otherMeant : Char) (slash : mark ≠ '\\')
    (otherSlash : other ≠ '\\') (meantSlash : meant ≠ '\\') (meantOther : meant ≠ other) :
    (only mark meant).Apart (only other otherMeant) where
  slashFirst := if_neg slash.symm
  slashSecond := if_neg otherSlash.symm
  meantNoSlash := by simp [only, meantSlash]
  meantNoMark := by
    intro letter written found
    have same : meant = written := by
      by_cases here : letter = mark <;> simp_all [only]
    exact if_neg (same ▸ meantOther)

private theorem apart_lineOrTab : lineOrTab.Apart lineOrTab where
  slashFirst := rfl
  slashSecond := rfl
  meantNoSlash := by
    intro mark
    unfold lineOrTab
    split <;> decide
  meantNoMark := by
    intro mark meant found
    unfold lineOrTab at found
    split at found
    · cases found
      rfl
    · cases found
      rfl
    · cases found

private theorem line_either_tab : (only 'n' '\n').either (only 't' '\t') = lineOrTab := by
  funext letter
  unfold lineOrTab
  split
  · rfl
  · rfl
  · simp_all [either, only]

private theorem tab_either_line : (only 't' '\t').either (only 'n' '\n') = lineOrTab := by
  rw [either_comm, line_either_tab]
  intro mark
  by_cases tab : mark = 't' <;> simp [only, tab]

end Meaning

open Meaning

theorem unescape_eq_readEscapes (mark meant : Char) (letters : List Char) :
    unescape mark meant letters = readEscapes (only mark meant) letters := by
  fun_induction unescape mark meant letters with
  | case1 => rfl
  | case2 letter => simp [readEscapes]
  | case3 letter next rest escape ih =>
      obtain ⟨rfl, rfl⟩ := escape
      rw [readEscapes_escape (if_pos rfl), ih]
  | case4 letter next rest plain ih =>
      rw [readEscapes_copy (by simpa [only] using plain), ih]

/-- The two passes are one. -/
theorem normalLetters_eq_readEscapes (letters : List Char) :
    normalLetters letters = readEscapes lineOrTab letters := by
  have apart : (only 'n' '\n').Apart (only 't' '\t') :=
    apart_only '\t' (by decide) (by decide) (by decide) (by decide)
  rw [normalLetters, unescape_eq_readEscapes, unescape_eq_readEscapes,
    readEscapes_readEscapes apart, line_either_tab]

private theorem normalLetters_eq_tabs_first (letters : List Char) :
    normalLetters letters = unescape 'n' '\n' (unescape 't' '\t' letters) := by
  have apart : (only 't' '\t').Apart (only 'n' '\n') :=
    apart_only '\n' (by decide) (by decide) (by decide) (by decide)
  rw [normalLetters_eq_readEscapes, unescape_eq_readEscapes, unescape_eq_readEscapes,
    readEscapes_readEscapes apart, tab_either_line]

private theorem normalLetters_normalLetters (letters : List Char) :
    normalLetters (normalLetters letters) = normalLetters letters := by
  rw [normalLetters_eq_readEscapes, normalLetters_eq_readEscapes,
    readEscapes_readEscapes apart_lineOrTab, either_self]

private theorem not_infix_normalLetters {mark : Char} (means : lineOrTab mark ≠ none)
    (letters : List Char) : ¬['\\', mark] <:+: normalLetters letters := by
  rw [normalLetters_eq_readEscapes]
  exact not_infix_readEscapes apart_lineOrTab means letters

private theorem toList_normalize (text : String) :
    (normalize text).toList = normalLetters text.toList :=
  String.toList_ofList

private theorem normalize_normalize (text : String) :
    normalize (normalize text) = normalize text := by
  rw [normalize, toList_normalize, normalLetters_normalLetters, normalize]

/-- A text is made normal as by one pass that reads line breaks and tabs, and it does not matter
which of them is read first. No escape is left in a normal text, so that to make it normal again
changes nothing: a query that was made of a text can be handed on as a text. -/
theorem normalize_onePass (text : String) :
    (normalize text).toList = readEscapes lineOrTab text.toList ∧
      (normalize text).toList = unescape 'n' '\n' (unescape 't' '\t' text.toList) ∧
      ¬['\\', 'n'] <:+: (normalize text).toList ∧
      ¬['\\', 't'] <:+: (normalize text).toList ∧
      normalize (normalize text) = normalize text ∧
      (Submission.raw (Submission.raw text).query.text).query = (Submission.raw text).query := by
  have handedOn : (Submission.raw (Submission.raw text).query.text).query =
      (Submission.raw text).query := congrArg Query.mk (normalize_normalize text)
  rw [toList_normalize]
  exact ⟨normalLetters_eq_readEscapes _, normalLetters_eq_tabs_first _,
    not_infix_normalLetters (by decide) _, not_infix_normalLetters (by decide) _,
    normalize_normalize text, handedOn⟩

/-- A backslash in front of an escape is copied, and starts no escape afterwards. -/
example : normalLetters ['\\', '\\', 'n', '\\', '\\', 't'] = ['\\', '\n', '\\', '\t'] := by
  decide

end QueryWarden
