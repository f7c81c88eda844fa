/-
Searching a text: for a word at its start, for a word anywhere, and for a word that
stands by itself, with no word character on either side.
-/

import QueryWarden.Text.Word

namespace QueryWarden.Text

def after? : (word : List Char) → List Char → Option (List Char)
  | [], letters => some letters
  | _ :: _, [] => none
  | first :: word, letter :: letters => if first = letter then after? word letters else none

theorem after?_eq_some_iff (word letters rest : List Char) :
    after? word letters = some rest ↔ letters = word ++ rest := by
  induction word generalizing letters with
  | nil => simp [after?, eq_comm]
  | cons first word ih =>
      cases letters with
      | nil => simp [after?]
      | cons letter letters =>
          unfold after?
          by_cases same : first = letter
          · simp [same, ih]
          · simp [same, Ne.symm same]

def occurs (word : List Char) : List Char → Bool
  | [] => word.isEmpty
  | letter :: letters => (after? word (letter :: letters)).isSome || occurs word letters

theorem occurs_iff (word letters : List Char) :
    occurs word letters = true ↔ ∃ front back, letters = front ++ word ++ back := by
  induction letters with
  | nil =>
      simp only [occurs, List.isEmpty_iff, List.nil_eq, List.append_eq_nil_iff]
      constructor
      · intro empty; exact ⟨[], [], ⟨rfl, empty⟩, rfl⟩
      · rintro ⟨_, _, ⟨_, empty⟩, _⟩; exact empty
  | cons letter letters ih =>
      simp only [occurs, Bool.or_eq_true, ih]
      constructor
      · rintro (here | ⟨front, back, split⟩)
        · obtain ⟨rest, found⟩ := Option.isSome_iff_exists.mp here
          exact ⟨[], rest, by simpa using (after?_eq_some_iff _ _ _).mp found⟩
        · exact ⟨letter :: front, back, by simp [split]⟩
      · rintro ⟨front, back, split⟩
        cases front with
        | nil =>
            left
            exact Option.isSome_iff_exists.mpr
              ⟨back, (after?_eq_some_iff _ _ _).mpr (by simpa using split)⟩
        | cons first front =>
            right
            simp only [List.cons_append, List.cons.injEq] at split
            exact ⟨front, back, split.2⟩

def standsHere (word letters : List Char) : Bool :=
  match after? word letters with
  | some rest => startsOutsideWord rest
  | none => false

/-- Whether the word stands by itself somewhere. The flag tells whether the character
before the text is a word character. -/
def standsAfter (word : List Char) : (inWord : Bool) → List Char → Bool
  | _, [] => false
  | inWord, letter :: letters =>
      (!inWord && standsHere word (letter :: letters)) ||
        standsAfter word (isWord letter) letters

def hasWord (word letters : List Char) : Bool :=
  standsAfter word false letters

end QueryWarden.Text
