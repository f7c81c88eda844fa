/-
Plain names and identifiers. A plain name is an identifier, and the only other identifiers are
plain names with one line break behind them.
-/

import QueryWarden.Proofs.Condition.Names

namespace QueryWarden

open Text

/-- A letter or an underscore and then letters, digits and underscores, all of them ASCII. -/
def PlainName (name : String) : Prop :=
  ∃ first rest, name.toList = first :: rest ∧ isNameStart first = true ∧
    ∀ letter ∈ rest, isNamePart letter = true

theorem isNameRest_append {word tail : List Char}
    (parts : ∀ letter ∈ word, isNamePart letter = true) (shape : NameTail tail) :
    isNameRest (word ++ tail) = true := by
  induction word with
  | nil =>
      cases shape with
      | nothing => rfl
      | lineBreak => rfl
  | cons letter word ih =>
      have inside := ih fun other member => parts other (List.mem_cons_of_mem letter member)
      rw [List.cons_append]
      unfold isNameRest
      split
      · rfl
      · rfl
      · next same =>
          cases same
          rw [parts letter List.mem_cons_self, inside]
          rfl

theorem isIdentifier_iff (name : String) :
    isIdentifier name.toList = true ↔
      PlainName name ∨ ∃ plain, PlainName plain ∧ name = plain ++ "\n" := by
  constructor
  · intro identifier
    cases letters : name.toList with
    | nil =>
        rw [letters] at identifier
        cases identifier
    | cons first others =>
        rw [letters, isIdentifier, Bool.and_eq_true] at identifier
        obtain ⟨word, tail, rfl, parts, shape⟩ := isNameRest_shape identifier.2
        cases shape with
        | nothing =>
            rw [List.append_nil] at letters
            exact .inl ⟨first, word, letters, identifier.1, parts⟩
        | lineBreak =>
            refine .inr ⟨String.ofList (first :: word),
              ⟨first, word, String.toList_ofList, identifier.1, parts⟩, ?_⟩
            apply String.toList_injective
            rw [letters, String.toList_append, String.toList_ofList]
            rfl
  · rintro (⟨first, rest, letters, start, parts⟩ | ⟨plain, isPlain, rfl⟩)
    · rw [letters, isIdentifier, start, ← List.append_nil rest,
        isNameRest_append parts .nothing]
      rfl
    · obtain ⟨first, rest, letters, start, parts⟩ := isPlain
      have broken : "\n".toList = ['\n'] := rfl
      rw [String.toList_append, letters, List.cons_append, isIdentifier, start, broken,
        isNameRest_append parts .lineBreak]
      rfl

end QueryWarden
