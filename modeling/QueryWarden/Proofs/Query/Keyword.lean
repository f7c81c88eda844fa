/-
Keywords of writes in the text that is given. The check looks for them in upper case, and the
bounds of words are those of the upper case too. A keyword that stands by itself in the text,
in whatever case, is found there unless an iota below stands next to it.
-/

import QueryWarden.Proofs.Query.Verdict
import QueryWarden.Proofs.Text.UpperWords

namespace QueryWarden

open Text

namespace Mutation

private theorem ascii_of_mem_writeKeywords {keyword : String} (listed : keyword ∈ writeKeywords) :
    keyword.toList.all (fun letter => letter.toNat < 128) = true := by
  have every : writeKeywords.all (fun keyword =>
      keyword.toList.all (fun letter => letter.toNat < 128)) = true := by decide
  exact List.all_eq_true.mp every keyword listed

private theorem isWord_of_mem_writeKeywords {keyword : String} (listed : keyword ∈ writeKeywords) :
    ∀ letter ∈ keyword.toList, isWord letter = true := by
  have every : writeKeywords.all (fun keyword => keyword.toList.all isNamePart) = true := by decide
  intro letter member
  exact isWord_of_isNamePart
    (List.all_eq_true.mp (List.all_eq_true.mp every keyword listed) letter member)

/-- A text in which a keyword of a write is a word is refused for the first such keyword. -/
theorem exists_check_eq_ofKeyword {query : Query} {keyword : String}
    (listed : keyword ∈ writeKeywords) (found : IsWordOf keyword.toList (upper query.text.toList)) :
    ∃ first ∈ writeKeywords, check query = .error (.ofKeyword first) := by
  have isFound : (writeKeyword? (upper query.text.toList)).isSome := by
    refine Option.isSome_iff_ne_none.mpr (fun notFound => ?_)
    exact (writeKeyword?_eq_none_iff _).mp notFound keyword listed found
  obtain ⟨first, isFirst⟩ := Option.isSome_iff_exists.mp isFound
  refine ⟨first, List.mem_of_find?_eq_some isFirst, ?_⟩
  exact (check_eq_iff_verdict query _).mpr (.keyword ((writeKeyword?_eq_some_iff _ _).mp isFirst))

/-- A keyword of a write that is a word of the text keeps its place as a word in upper case just
when no iota below is next to it, and the text is then refused as one that writes. -/
theorem keyword_refused {query : Query} {keyword : String} {front written back : List Char}
    (listed : keyword ∈ writeKeywords) (split : query.text.toList = front ++ (written ++ back))
    (spells : Spells written keyword) (stands : IsWordBetween front written back) :
    (IsWordBetween (upper front) keyword.toList (upper back) ↔ ApartFromIota front back) ∧
      (ApartFromIota front back →
        ∃ first ∈ writeKeywords, check query = .error (.ofKeyword first)) := by
  have same := spells.upper_eq (ascii_of_mem_writeKeywords listed)
  have kept : IsWordBetween (upper front) keyword.toList (upper back) ↔
      ApartFromIota front back := by
    rw [← same]
    exact isWordBetween_upper_iff stands (same ▸ isWord_of_mem_writeKeywords listed)
  refine ⟨kept, fun apart => exists_check_eq_ofKeyword listed ?_⟩
  refine ⟨upper front, upper back, ?_, kept.mpr apart⟩
  rw [split, upper_append, upper_append, same]

private def settingFront : List Char := "MATCH (n) ".toList

private def settingBack (mark : Char) : List Char := mark :: " n.x = 1".toList

private def settingLetters (mark : Char) : List Char :=
  settingFront ++ ("sEt".toList ++ settingBack mark)

private def settingQuery (mark : Char) : Query :=
  ⟨String.ofList (settingLetters mark)⟩

theorem spells_set : Spells "sEt".toList "SET" := by
  unfold Spells
  decide

private theorem stands_set {mark : Char} (outside : isWord mark = false) :
    IsWordBetween settingFront "sEt".toList (settingBack mark) := by
  have within : "sEt".toList.all isWord = true := by decide +kernel
  refine ⟨by decide, List.all_eq_true.mp within, ?_, ?_⟩
  · intro letter final
    cases final
    decide +kernel
  · intro letter first
    cases first
    exact outside

theorem keyword_refused_set :
    "SET" ∈ writeKeywords ∧
      (settingQuery ' ').text.toList = settingFront ++ ("sEt".toList ++ settingBack ' ') ∧
      Spells "sEt".toList "SET" ∧ IsWordBetween settingFront "sEt".toList (settingBack ' ') ∧
      ApartFromIota settingFront (settingBack ' ') ∧
      ∃ first ∈ writeKeywords,
        check (settingQuery ' ') = .error (.ofKeyword first) := by
  have listed : "SET" ∈ writeKeywords := by decide
  have stands := stands_set (show isWord ' ' = false by decide +kernel)
  have apart : ApartFromIota settingFront (settingBack ' ') := by
    unfold ApartFromIota
    decide
  exact ⟨listed, String.toList_ofList, spells_set, stands, apart,
    (keyword_refused listed String.toList_ofList spells_set stands).2 apart⟩

/-- With an iota below behind it the keyword stands by itself in the text, which is let
through all the same. -/
theorem set_hidden_by_iota :
    "SET" ∈ writeKeywords ∧
      (settingQuery iotaBelow).text.toList =
        settingFront ++ ("sEt".toList ++ settingBack iotaBelow) ∧
      Spells "sEt".toList "SET" ∧
      IsWordBetween settingFront "sEt".toList (settingBack iotaBelow) ∧
      check (settingQuery iotaBelow) = .ok () := by
  have stands := stands_set (show isWord iotaBelow = false by decide +kernel)
  have unseen : refusal? (upper (settingQuery iotaBelow).text.toList) = none := by
    have split : (settingQuery iotaBelow).text.toList = settingLetters iotaBelow :=
      String.toList_ofList
    rw [split]
    exact Option.isNone_iff_eq_none.mp (by decide +kernel)
  exact ⟨by decide, String.toList_ofList, spells_set, stands, by rw [check, unseen]⟩

end Mutation

end QueryWarden
