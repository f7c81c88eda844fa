/-
Calls in the text that is given. The word for a call leads to the name of a procedure over
blanks and comments. The check passes over blanks alone, so it finds a call that writes if
there is no comment in between.
-/

import QueryWarden.Proofs.Query.Keyword

namespace QueryWarden

open Text

namespace Mutation

/-! ### Layout -/

/-- Blanks and comments in any order. A line comment ends with its line, and a block comment
with the first mark that closes it. -/
inductive IsLayout : List Char → Prop where
  | nothing : IsLayout []
  | blank {letter : Char} {rest : List Char} (blank : isBlank letter = true)
      (further : IsLayout rest) : IsLayout (letter :: rest)
  | line {body rest : List Char} (within : '\n' ∉ body) (further : IsLayout rest) :
      IsLayout ('/' :: '/' :: (body ++ '\n' :: rest))
  | block {body rest : List Char} (within : occurs "*/".toList body = false)
      (further : IsLayout rest) : IsLayout ('/' :: '*' :: (body ++ '*' :: '/' :: rest))

/-- A layout is of blanks, or behind its first blanks a comment begins. -/
theorem IsLayout.blanks_or_comment {gap : List Char} (layout : IsLayout gap) :
    (∀ letter ∈ gap, isBlank letter = true) ∨
      ∃ blanks rest, gap = blanks ++ '/' :: rest ∧ ∀ letter ∈ blanks, isBlank letter = true := by
  induction layout with
  | nothing => exact .inl (fun letter member => absurd member List.not_mem_nil)
  | @blank letter rest blank further ih =>
      rcases ih with blanks | ⟨blanks, comment, rfl, every⟩
      · exact .inl (List.forall_mem_cons.mpr ⟨blank, blanks⟩)
      · exact .inr ⟨letter :: blanks, comment, rfl, List.forall_mem_cons.mpr ⟨blank, every⟩⟩
  | line within further ih =>
      exact .inr ⟨[], _, rfl, fun letter member => absurd member List.not_mem_nil⟩
  | block within further ih =>
      exact .inr ⟨[], _, rfl, fun letter member => absurd member List.not_mem_nil⟩

private theorem leadingRun_comment {blanks : List Char}
    (blank : ∀ letter ∈ blanks, isBlank letter = true)
    (rest : List Char) : LeadingRun isBlank blanks ('/' :: rest) where
  within := blank
  stops := by
    intro letter first
    cases first
    decide

/-! ### Written calls -/

/-- A call as it stands in a text: the word for it, a layout, and the longest name behind it,
which names a write in whatever case. -/
structure IsWrittenCall (letters front call gap name back : List Char) : Prop where
  split : letters = front ++ (call ++ (gap ++ (name ++ back)))
  spells : Spells call "CALL"
  stands : IsWordBetween front call (gap ++ (name ++ back))
  apart : gap ≠ []
  layout : IsLayout gap
  parts : ∀ letter ∈ name, isNamePart letter = true ∨ letter = '.'
  ends : ∀ letter ∈ back.head?, isWord letter = false ∧ letter ≠ '.'
  writes : NamesWrite (name.map Char.toUpper)

private theorem ascii_of_part {letter : Char} (part : isNamePart letter = true ∨ letter = '.') :
    letter.toNat < 128 := by
  rcases part with namePart | rfl
  · have codes := toNat_of_isNamePart namePart
    omega
  · decide

private theorem isProcedurePart_toUpper {letter : Char}
    (part : isNamePart letter = true ∨ letter = '.') :
    isProcedurePart letter.toUpper = true := by
  rcases part with namePart | rfl
  · have codes := toNat_of_isNamePart namePart
    have within : inRanges [(48, 57), (65, 90), (95, 95), (97, 122)] letter = true := by
      simp only [inRanges, List.any_cons, List.any_nil, Bool.or_eq_true, Bool.and_eq_true,
        decide_eq_true_eq]
      omega
    exact of_inRanges (fun letter => isProcedurePart letter.toUpper) (by decide) within
  · decide

/-- What is no part of a name in the text is none in upper case. -/
theorem not_isProcedurePart_of_mem_upperChar {letter other : Char}
    (outside : isWord letter = false) (noPoint : letter ≠ '.') (member : other ∈ upperChar letter) :
    isProcedurePart other = false := by
  refine Bool.eq_false_iff.mpr (fun part => ?_)
  rcases of_mem_upperChar outside member with rfl | ⟨beyond, _⟩
  · rcases isNamePart_of_isProcedurePart part with namePart | point
    · rw [isWord_of_isNamePart namePart] at outside
      cases outside
    · exact noPoint point
  · have codes := ascii_of_part (isNamePart_of_isProcedurePart part)
    omega

namespace IsWrittenCall

variable {letters front call gap name back : List Char}

private theorem upper_name (written : IsWrittenCall letters front call gap name back) :
    upper name = name.map Char.toUpper :=
  upper_eq_map_toUpper (fun letter member => ascii_of_part (written.parts letter member))

private theorem upper_split (written : IsWrittenCall letters front call gap name back) :
    upper letters =
      upper front ++ ("CALL".toList ++ (upper gap ++ (name.map Char.toUpper ++ upper back))) := by
  rw [written.split, upper_append, upper_append, upper_append, upper_append, written.upper_name,
    written.spells.upper_eq (by decide)]

/-- In upper case the name is still the longest at its place. -/
theorem leadingRun_name (written : IsWrittenCall letters front call gap name back) :
    LeadingRun isProcedurePart (name.map Char.toUpper) (upper back) where
  within := by
    intro letter member
    obtain ⟨original, listed, rfl⟩ := List.mem_map.mp member
    exact isProcedurePart_toUpper (written.parts original listed)
  stops := by
    intro letter first
    cases back with
    | nil => cases first
    | cons initial rest =>
        have ends := written.ends initial rfl
        rw [Option.mem_def, head?_upper_cons] at first
        obtain rfl := Option.some.inj first
        exact not_isProcedurePart_of_mem_upperChar ends.1 ends.2 (List.head_mem _)

/-- Behind the word for a call the check goes over blanks, and a comment stops it. -/
theorem blank_of_isTarget (written : IsWrittenCall letters front call gap name back)
    {blanks rest tail : List Char} (target : IsTarget blanks (name.map Char.toUpper) rest)
    (same : blanks ++ (name.map Char.toUpper ++ rest) = upper gap ++ tail) :
    ∀ letter ∈ gap, isBlank letter = true := by
  rcases written.layout.blanks_or_comment with every | ⟨before, comment, rfl, blank⟩
  · exact every
  · have fixed : upper (before ++ '/' :: comment) = before ++ '/' :: upper comment := by
      have same : upper before = before :=
        upper_eq_self (fun letter member => upperChar_of_isBlank (blank letter member))
      rw [upper_append, same]
      rfl
    rw [fixed, List.append_assoc, List.cons_append] at same
    have named : name.map Char.toUpper ++ rest = '/' :: (upper comment ++ tail) := by
      rw [← target.leadingRun.dropWhile_eq, same, (leadingRun_comment blank _).dropWhile_eq]
    obtain ⟨first, others, spelled⟩ := List.exists_cons_of_ne_nil target.writes.ne_nil
    rw [spelled, List.cons_append] at named
    have slash := target.run.within first (spelled ▸ List.mem_cons_self)
    rw [(List.cons.inj named).1] at slash
    cases slash

/-- The call is one of the text in upper case just when its layout is of blanks and no iota
below stands before it. -/
theorem calls_iff (written : IsWrittenCall letters front call gap name back) :
    Calls (upper letters) (upper front) (name.map Char.toUpper) ↔
      (∀ letter ∈ gap, isBlank letter = true) ∧ front.getLast? ≠ some iotaBelow := by
  rw [← getLast?_upper_iff written.stands.before]
  constructor
  · intro called
    obtain ⟨blanks, rest, split, stands, target⟩ := called
    rw [written.upper_split] at split
    have same := List.append_cancel_left (List.append_cancel_left split)
    exact ⟨written.blank_of_isTarget target same.symm, stands.before⟩
  · intro both
    have fixed : upper gap = gap :=
      upper_eq_self (fun letter member => upperChar_of_isBlank (both.1 letter member))
    have target : IsTarget gap (name.map Char.toUpper) (upper back) :=
      ⟨written.apart, both.1, written.leadingRun_name, written.writes⟩
    refine ⟨gap, upper back, fixed ▸ written.upper_split, ?_, target⟩
    exact (isWordBetween_call target).mpr ((endsInWord_eq_false_iff _).mpr both.2)

end IsWrittenCall

/-! ### Refusals -/

/-- A text with a call that writes is refused as one that writes. -/
theorem exists_refused_of_calls {query : Query} {front name : List Char}
    (called : Calls (upper query.text.toList) front name) :
    ∃ rejection, check query = .error rejection ∧
      rejection.kindName = "MutationRejectedError" := by
  have verdict := (check_eq_iff_verdict query _).mp rfl
  generalize check query = result at verdict
  cases verdict with
  | keyword first => exact ⟨_, rfl, rfl⟩
  | procedure keywords word first => exact ⟨_, rfl, rfl⟩
  | call keywords procedures first => exact ⟨_, rfl, rfl⟩
  | unreadable silent begins unknown => exact absurd called (silent.calls front name)
  | accepted silent begins known => exact absurd called (silent.calls front name)

/-- A written call of a procedure that writes is found at its place just when its layout is of
blanks and no iota below stands before it, and the text is then refused as one that writes. -/
theorem written_call_refused {query : Query} {front call gap name back : List Char}
    (written : IsWrittenCall query.text.toList front call gap name back) :
    (Calls (upper query.text.toList) (upper front) (name.map Char.toUpper) ↔
      (∀ letter ∈ gap, isBlank letter = true) ∧ front.getLast? ≠ some iotaBelow) ∧
    ((∀ letter ∈ gap, isBlank letter = true) ∧ front.getLast? ≠ some iotaBelow →
      ∃ rejection, check query = .error rejection ∧
        rejection.kindName = "MutationRejectedError") :=
  ⟨written.calls_iff, fun found => exists_refused_of_calls (written.calls_iff.mpr found)⟩

private def callingLetters (gap : List Char) : List Char :=
  "CaLL".toList ++ (gap ++ ("db.createLabel".toList ++ "('A')".toList))

private def callingQuery (gap : List Char) : Query :=
  ⟨String.ofList (callingLetters gap)⟩

private theorem isWrittenCall_calling {first : Char} {gap : List Char}
    (outside : isWord first = false)
    (layout : IsLayout (first :: gap)) :
    IsWrittenCall (callingQuery (first :: gap)).text.toList [] "CaLL".toList (first :: gap)
      "db.createLabel".toList "('A')".toList where
  split := String.toList_ofList
  spells := by
    unfold Spells
    decide
  stands := by
    have within : "CaLL".toList.all isWord = true := by decide +kernel
    refine ⟨by decide, List.all_eq_true.mp within, nofun, ?_⟩
    intro letter isFirst
    cases isFirst
    exact outside
  apart := List.cons_ne_nil first gap
  layout := layout
  parts := by
    have every : "db.createLabel".toList.all (fun letter => isNamePart letter || letter == '.') =
        true := by decide
    intro letter member
    simpa using List.all_eq_true.mp every letter member
  ends := by
    intro letter isFirst
    cases isFirst
    exact ⟨by decide +kernel, by decide⟩
  writes := by
    refine ⟨"DB".toList, "CREATE", "LABEL".toList, ?_⟩
    decide

theorem written_call_refused_blank :
    IsWrittenCall (callingQuery "\n ".toList).text.toList [] "CaLL".toList "\n ".toList
        "db.createLabel".toList "('A')".toList ∧
      (∀ letter ∈ "\n ".toList, isBlank letter = true) ∧
      ([] : List Char).getLast? ≠ some iotaBelow ∧
      ∃ rejection, check (callingQuery "\n ".toList) = .error rejection ∧
        rejection.kindName = "MutationRejectedError" := by
  have blank : "\n ".toList.all isBlank = true := by decide
  have layout : IsLayout "\n ".toList := .blank (by decide) (.blank (by decide) .nothing)
  have written := isWrittenCall_calling (by decide +kernel) layout
  have apart : ([] : List Char).getLast? ≠ some iotaBelow := nofun
  exact ⟨written, List.all_eq_true.mp blank, apart,
    (written_call_refused written).2 ⟨List.all_eq_true.mp blank, apart⟩⟩

/-- With a comment before the name of the procedure the text is let through. -/
theorem written_call_hidden_by_comment :
    IsWrittenCall (callingQuery "/* */ ".toList).text.toList [] "CaLL".toList "/* */ ".toList
        "db.createLabel".toList "('A')".toList ∧
      check (callingQuery "/* */ ".toList) = .ok () := by
  have layout : IsLayout "/* */ ".toList :=
    @IsLayout.block " ".toList " ".toList (by decide) (.blank (by decide) .nothing)
  have unseen : refusal? (upper (callingQuery "/* */ ".toList).text.toList) = none := by
    have split : (callingQuery "/* */ ".toList).text.toList = callingLetters "/* */ ".toList :=
      String.toList_ofList
    rw [split]
    exact Option.isNone_iff_eq_none.mp (by decide +kernel)
  exact ⟨isWrittenCall_calling (by decide +kernel) layout, by rw [check, unseen]⟩

end Mutation

end QueryWarden
