/-
The letters of plain names: ASCII letters, digits and the underscore, the first of
them no digit. A name at the start of a text is taken whole.
-/

namespace QueryWarden.Text

def isNameStart (letter : Char) : Bool :=
  letter.isAlpha || letter == '_'

def isNamePart (letter : Char) : Bool :=
  letter.isAlphanum || letter == '_'

/-- The longest name at the start of a text and what follows it. -/
def takeName : List Char → Option (List Char × List Char)
  | [] => none
  | letter :: rest =>
      if isNameStart letter then
        some (letter :: rest.takeWhile isNamePart, rest.dropWhile isNamePart)
      else none

theorem takeName_shorter {letters name rest : List Char}
    (found : takeName letters = some (name, rest)) : rest.length < letters.length := by
  cases letters with
  | nil => simp [takeName] at found
  | cons letter tail =>
      by_cases start : isNameStart letter = true
      · simp only [takeName, start, if_true, Option.some.injEq, Prod.mk.injEq] at found
        have bound := (List.dropWhile_sublist isNamePart (l := tail)).length_le
        rw [← found.2, List.length_cons]
        omega
      · simp [takeName, start] at found

theorem takeName_append {letters name rest : List Char}
    (found : takeName letters = some (name, rest)) : name ++ rest = letters := by
  cases letters with
  | nil => simp [takeName] at found
  | cons letter tail =>
      by_cases start : isNameStart letter = true
      · simp only [takeName, start, if_true, Option.some.injEq, Prod.mk.injEq] at found
        rw [← found.1, ← found.2, List.cons_append, List.takeWhile_append_dropWhile]
      · simp [takeName, start] at found

end QueryWarden.Text
