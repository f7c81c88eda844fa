/-
The copy of a query without comments. It shows the segments of the query one after the other, a
comment as a blank. Letters that neither open nor close anything are shown when they are put
behind a query, or else those up to the next line belong to the comment that the query ends in;
what a copy ends in, if it is no blank, is what the query ends in.
-/

import Mathlib.Data.List.Induction
import QueryWarden.Proofs.Query.Segment

namespace QueryWarden

open Text

namespace RowLimit

variable {tail : List Char}

/-! ### The copy of a query with something behind it -/

inductive Shown (tail : List Char) : List Char → Prop where
  | whole : Shown tail tail
  | nextLine : Shown tail (tail.dropWhile (· != '\n'))

theorem flatMap_shown_code (letters : List Char) :
    (letters.map Segment.code).flatMap Segment.shown = letters := by
  rw [List.flatMap_map]
  exact List.flatMap_singleton' letters

theorem Continued.exists_shown {found after : List Segment} (continued : Continued tail found after) :
    ∃ shown, Shown tail shown ∧
      after.flatMap Segment.shown = found.flatMap Segment.shown ++ shown := by
  cases continued with
  | behind =>
      refine ⟨tail, .whole, ?_⟩
      rw [List.flatMap_append, flatMap_shown_code]
  | inLine before line =>
      refine ⟨tail.dropWhile (· != '\n'), .nextLine, ?_⟩
      rw [List.flatMap_append, List.flatMap_append, List.append_assoc, List.flatMap_cons,
        flatMap_shown_code]
      rfl

theorem exists_withoutComments_append (neutral : ∀ letter ∈ tail, IsNeutral letter)
    (letters : List Char) :
    ∃ shown, Shown tail shown ∧
      withoutComments (letters ++ tail) = withoutComments letters ++ shown := by
  rw [withoutComments_eq_flatMap, withoutComments_eq_flatMap]
  exact (segments_append neutral letters).exists_shown

/-! ### The last letter of a copy -/

private theorem getLast?_of_flatMap_shown {found : List Segment} {last : Char}
    (isLast : (found.flatMap Segment.shown).getLast? = some last) (noSpace : last ≠ ' ') :
    (found.flatMap Segment.letters).getLast? = some last := by
  induction found using List.reverseRecOn with
  | nil => cases isLast
  | append_singleton before segment ih =>
      rw [List.flatMap_append, List.flatMap_singleton, List.getLast?_append] at isLast ⊢
      cases segment with
      | code letter => exact isLast
      | comment letters =>
          cases isLast
          exact (noSpace rfl).elim
      | quoted letters =>
          change letters.getLast?.or _ = _ at isLast
          change letters.getLast?.or _ = _
          cases ends : letters.getLast? with
          | none =>
              rw [ends, Option.none_or] at isLast
              rw [Option.none_or, ih isLast]
          | some other =>
              rw [ends, Option.some_or] at isLast
              rw [Option.some_or, isLast]

/-- What a copy ends in, if it is no blank, is what the text itself ends in. -/
theorem getLast?_of_withoutComments {letters : List Char} {last : Char}
    (isLast : (withoutComments letters).getLast? = some last) (noSpace : last ≠ ' ') :
    letters.getLast? = some last := by
  rw [withoutComments_eq_flatMap] at isLast
  rw [← flatMap_segments letters]
  exact getLast?_of_flatMap_shown isLast noSpace

end RowLimit

end QueryWarden
