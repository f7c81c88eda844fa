/-
Texts of different layout. Where one has a run of blanks the other has one too, of other blanks or
of another length. The runs of a text can each be squeezed into one space, and two texts differ in
nothing but layout if they are one text then. So whatever is the same of a text and of its squeezed
form does not depend on layout: that is shown here of each search for letters that are no blanks.
-/

import QueryWarden.Proofs.Text.UpperWords
import QueryWarden.Text.Name

namespace QueryWarden.Text

/-- Two texts that are alike letter by letter, each longest run of blanks of one being some run of
blanks in the other. Letters are compared by what they look like. -/
inductive Respaced {α : Type} (look : Char → α) : List Char → List Char → Prop where
  | nil : Respaced look [] []
  | letter {left right : Char} {lefts rights : List Char} (noBlank : isBlank left = false)
      (otherNoBlank : isBlank right = false) (same : look left = look right)
      (rest : Respaced look lefts rights) : Respaced look (left :: lefts) (right :: rights)
  | blanks {run other lefts rights : List Char} (nonempty : run ≠ []) (otherNonempty : other ≠ [])
      (leading : LeadingRun isBlank run lefts) (otherLeading : LeadingRun isBlank other rights)
      (rest : Respaced look lefts rights) : Respaced look (run ++ lefts) (other ++ rights)

/-- The flag tells whether the text before ends in a blank. -/
def squeezeAfter : (inRun : Bool) → List Char → List Char
  | _, [] => []
  | inRun, letter :: letters =>
      if isBlank letter then
        if inRun then squeezeAfter true letters else ' ' :: squeezeAfter true letters
      else letter :: squeezeAfter false letters

def squeeze (letters : List Char) : List Char :=
  squeezeAfter false letters

/-! ### Runs of blanks -/

variable {inRun : Bool} {letter : Char} {letters : List Char}

theorem squeezeAfter_letter (noBlank : isBlank letter = false) :
    squeezeAfter inRun (letter :: letters) = letter :: squeeze letters := by
  rw [squeezeAfter, noBlank]
  rfl

theorem squeeze_blank (blank : isBlank letter = true) :
    squeeze (letter :: letters) = ' ' :: squeezeAfter true letters := by
  rw [squeeze, squeezeAfter, if_pos blank]
  rfl

theorem squeeze_letter (noBlank : isBlank letter = false) :
    squeeze (letter :: letters) = letter :: squeeze letters :=
  squeezeAfter_letter noBlank

theorem squeezeAfter_true_blank (blank : isBlank letter = true) :
    squeezeAfter true (letter :: letters) = squeezeAfter true letters := by
  rw [squeezeAfter, if_pos blank, if_pos rfl]

private theorem squeezeAfter_true {run rest : List Char} (leading : LeadingRun isBlank run rest) :
    squeezeAfter true (run ++ rest) = squeeze rest := by
  have blank := leading.within
  induction run with
  | nil =>
      cases rest with
      | nil => rfl
      | cons letter letters =>
          have noBlank := leading.stops letter rfl
          rw [List.nil_append, squeezeAfter_letter noBlank, squeeze_letter noBlank]
  | cons first run ih =>
      obtain ⟨firstBlank, others⟩ := List.forall_mem_cons.mp blank
      rw [List.cons_append, squeezeAfter_true_blank firstBlank]
      exact ih ⟨others, leading.stops⟩ others

theorem squeeze_run {run rest : List Char} (nonempty : run ≠ [])
    (leading : LeadingRun isBlank run rest) : squeeze (run ++ rest) = ' ' :: squeeze rest := by
  cases run with
  | nil => exact (nonempty rfl).elim
  | cons first run =>
      obtain ⟨firstBlank, others⟩ := List.forall_mem_cons.mp leading.within
      rw [List.cons_append, squeeze_blank firstBlank, squeezeAfter_true ⟨others, leading.stops⟩]

/-- Texts that differ in nothing but layout are one text when squeezed. -/
theorem Respaced.squeeze_eq {α : Type} {look : Char → α} {lefts rights : List Char}
    (respaced : Respaced look lefts rights) :
    (squeeze lefts).map look = (squeeze rights).map look := by
  induction respaced with
  | nil => rfl
  | letter noBlank otherNoBlank same _ ih =>
      rw [squeeze_letter noBlank, squeeze_letter otherNoBlank, List.map_cons, List.map_cons, same,
        ih]
  | blanks nonempty otherNonempty leading otherLeading _ ih =>
      rw [squeeze_run nonempty leading, squeeze_run otherNonempty otherLeading, List.map_cons,
        List.map_cons, ih]

private theorem exists_run {letter : Char} (blank : isBlank letter = true) (letters : List Char) :
    ∃ run rest, letter :: letters = run ++ rest ∧ run ≠ [] ∧ LeadingRun isBlank run rest ∧
      rest.length < (letter :: letters).length := by
  have bound := (List.dropWhile_sublist isBlank (l := letters)).length_le
  have leading := leadingRun_takeWhile isBlank letters
  refine ⟨letter :: letters.takeWhile isBlank, letters.dropWhile isBlank, ?_, List.cons_ne_nil _ _,
    ⟨List.forall_mem_cons.mpr ⟨blank, leading.within⟩, leading.stops⟩, ?_⟩
  · rw [List.cons_append, List.takeWhile_append_dropWhile]
  · rw [List.length_cons]
    omega

theorem squeeze_cons_ne_nil (letter : Char) (letters : List Char) :
    squeeze (letter :: letters) ≠ [] := by
  cases blank : isBlank letter with
  | true =>
      rw [squeeze_blank blank]
      exact List.cons_ne_nil _ _
  | false =>
      rw [squeeze_letter blank]
      exact List.cons_ne_nil _ _

/-- Squeezing gives two texts one form exactly when they differ in nothing but layout, unless some
letter looks like the space. -/
theorem respaced_iff {α : Type} {look : Char → α}
    (apart : ∀ letter, isBlank letter = false → look letter ≠ look ' ') (lefts rights : List Char) :
    Respaced look lefts rights ↔ (squeeze lefts).map look = (squeeze rights).map look := by
  refine ⟨Respaced.squeeze_eq, fun same => ?_⟩
  induction size : lefts.length using Nat.strong_induction_on generalizing lefts rights with
  | _ size ih =>
      cases lefts with
      | nil =>
          cases rights with
          | nil => exact .nil
          | cons right rights =>
              exact (squeeze_cons_ne_nil right rights (List.map_eq_nil_iff.mp same.symm)).elim
      | cons left lefts =>
          cases rights with
          | nil => exact (squeeze_cons_ne_nil left lefts (List.map_eq_nil_iff.mp same)).elim
          | cons right rights =>
              cases blank : isBlank left with
              | true =>
                cases otherBlank : isBlank right with
                | true =>
                  obtain ⟨run, rest, whole, nonempty, leading, shorter⟩ := exists_run blank lefts
                  obtain ⟨other, otherRest, otherWhole, otherNonempty, otherLeading, _⟩ :=
                    exists_run otherBlank rights
                  rw [whole] at size shorter
                  rw [whole, otherWhole, squeeze_run nonempty leading,
                    squeeze_run otherNonempty otherLeading] at same
                  rw [whole, otherWhole]
                  exact .blanks nonempty otherNonempty leading otherLeading
                    (ih rest.length (by omega) rest otherRest (List.cons.inj same).2 rfl)
                | false =>
                  rw [squeeze_blank blank, squeeze_letter otherBlank] at same
                  exact (apart right otherBlank (List.cons.inj same).1.symm).elim
              | false =>
                cases otherBlank : isBlank right with
                | true =>
                  rw [squeeze_letter blank, squeeze_blank otherBlank] at same
                  exact (apart left blank (List.cons.inj same).1).elim
                | false =>
                  rw [squeeze_letter blank, squeeze_letter otherBlank] at same
                  have parts := List.cons.inj same
                  rw [List.length_cons] at size
                  exact .letter blank otherBlank parts.1
                    (ih lefts.length (by omega) lefts rights parts.2 rfl)

private theorem ne_space_of_noBlank (noBlank : isBlank letter = false) : id letter ≠ id ' ' := by
  rintro rfl
  exact Bool.eq_false_iff.mp noBlank isBlank_space

private theorem toUpper_ne_space (noBlank : isBlank letter = false) :
    letter.toUpper ≠ Char.toUpper ' ' := by
  cases lower : letter.isLower with
  | false =>
      rw [toUpper_of_isLower_eq_false lower]
      exact ne_space_of_noBlank noBlank
  | true =>
      exact bne_iff_ne.mp (of_between (fun letter => letter.toUpper != ' ')
        (toNat_of_isLower lower) (by decide))

instance (lefts rights : List Char) : Decidable (Respaced id lefts rights) :=
  decidable_of_iff' _ (respaced_iff (fun _ => ne_space_of_noBlank) lefts rights)

instance (lefts rights : List Char) : Decidable (Respaced Char.toUpper lefts rights) :=
  decidable_of_iff' _ (respaced_iff (fun _ => toUpper_ne_space) lefts rights)

/-! ### Letters that are no blanks -/

theorem squeezeAfter_append {front : List Char} {inRun : Bool} (nonempty : front ≠ [])
    (plain : ∀ letter ∈ front, isBlank letter = false) (rest : List Char) :
    squeezeAfter inRun (front ++ rest) = front ++ squeeze rest := by
  induction front generalizing inRun with
  | nil => exact (nonempty rfl).elim
  | cons first front ih =>
      obtain ⟨firstPlain, others⟩ := List.forall_mem_cons.mp plain
      rw [List.cons_append, squeezeAfter_letter firstPlain]
      cases front with
      | nil => rfl
      | cons second front =>
          rw [squeeze, ih (List.cons_ne_nil second front) others]
          rfl

theorem dropBlanks_squeezeAfter (inRun : Bool) (letters : List Char) :
    dropBlanks (squeezeAfter inRun letters) = squeeze (dropBlanks letters) := by
  induction letters generalizing inRun with
  | nil => rfl
  | cons letter letters ih =>
      cases blank : isBlank letter with
      | true =>
          have dropped : dropBlanks (letter :: letters) = dropBlanks letters :=
            List.dropWhile_cons_of_pos blank
          have spaceless : dropBlanks (' ' :: squeezeAfter true letters) =
              dropBlanks (squeezeAfter true letters) := List.dropWhile_cons_of_pos isBlank_space
          rw [dropped]
          cases inRun with
          | true => rw [squeezeAfter_true_blank blank, ih]
          | false =>
              change dropBlanks (squeeze (letter :: letters)) = _
              rw [squeeze_blank blank, spaceless, ih]
      | false =>
          have kept : ∀ rest, dropBlanks (letter :: rest) = letter :: rest := fun rest =>
            List.dropWhile_cons_of_neg (Bool.eq_false_iff.mp blank)
          rw [squeezeAfter_letter blank, kept, kept, squeeze_letter blank]

theorem dropBlanks_squeeze (letters : List Char) :
    dropBlanks (squeeze letters) = squeeze (dropBlanks letters) :=
  dropBlanks_squeezeAfter false letters

section

variable {chosen : Char → Bool}
  (noBlank : ∀ letter, isBlank letter = true → chosen letter = false)

include noBlank

theorem takeWhile_squeeze (letters : List Char) :
    (squeeze letters).takeWhile chosen = letters.takeWhile chosen := by
  induction letters with
  | nil => rfl
  | cons letter letters ih =>
      cases blank : isBlank letter with
      | true =>
          rw [squeeze_blank blank, List.takeWhile_cons, List.takeWhile_cons, noBlank letter blank,
            noBlank ' ' isBlank_space]
          rfl
      | false => rw [squeeze_letter blank, List.takeWhile_cons, List.takeWhile_cons, ih]

private theorem dropWhile_squeeze (letters : List Char) :
    (squeeze letters).dropWhile chosen = squeeze (letters.dropWhile chosen) := by
  induction letters with
  | nil => rfl
  | cons letter letters ih =>
      cases blank : isBlank letter with
      | true =>
          rw [List.dropWhile_cons, noBlank letter blank, squeeze_blank blank, List.dropWhile_cons,
            noBlank ' ' isBlank_space]
          exact (squeeze_blank blank).symm
      | false =>
          rw [List.dropWhile_cons, squeeze_letter blank, List.dropWhile_cons, ih]
          split
          · rfl
          · exact (squeeze_letter blank).symm

end

/-! ### Words without blanks -/

private theorem startsOutsideWord_squeeze (letters : List Char) :
    startsOutsideWord (squeeze letters) = startsOutsideWord letters := by
  cases letters with
  | nil => rfl
  | cons letter letters =>
      cases blank : isBlank letter with
      | true =>
          rw [squeeze_blank blank, startsOutsideWord, startsOutsideWord, isWord_of_isBlank blank,
            isWord_of_isBlank isBlank_space]
      | false => rw [squeeze_letter blank, startsOutsideWord, startsOutsideWord]

section

variable {word : List Char} (plain : ∀ letter ∈ word, isBlank letter = false)

include plain

theorem ne_of_isBlank (blank : isBlank letter = true) : letter ∉ word := by
  intro member
  rw [plain letter member] at blank
  cases blank

theorem after?_squeeze (letters : List Char) :
    after? word (squeeze letters) = (after? word letters).map squeeze := by
  induction word generalizing letters with
  | nil => rfl
  | cons first word ih =>
      cases letters with
      | nil => rfl
      | cons letter letters =>
          cases blank : isBlank letter with
          | true =>
              have away : ∀ other, isBlank other = true → first ≠ other := fun other otherBlank =>
                fun same => ne_of_isBlank plain otherBlank (same ▸ List.mem_cons_self)
              rw [squeeze_blank blank, after?, after?, if_neg (away ' ' isBlank_space),
                if_neg (away letter blank)]
              rfl
          | false =>
              rw [squeeze_letter blank, after?, after?]
              split
              · exact ih (List.forall_mem_cons.mp plain).2 letters
              · rfl

private theorem standsHere_squeeze (letters : List Char) :
    standsHere word (squeeze letters) = standsHere word letters := by
  unfold standsHere
  rw [after?_squeeze plain]
  cases after? word letters with
  | none => rfl
  | some rest => exact startsOutsideWord_squeeze rest

/-- The letter before a text that goes on with blanks is a blank, and so belongs to no word. -/
theorem standsAfter_squeezeAfter (nonempty : word ≠ []) {inRun inWord : Bool}
    (outside : inRun = true → inWord = false) (letters : List Char) :
    standsAfter word inWord (squeezeAfter inRun letters) = standsAfter word inWord letters := by
  induction letters generalizing inRun inWord with
  | nil => rfl
  | cons letter letters ih =>
      cases blank : isBlank letter with
      | true =>
          have notHere : ∀ other rest, isBlank other = true →
              standsHere word (other :: rest) = false := by
            intro other rest otherBlank
            apply Parted.standsHere_eq_false _ nonempty
            rintro _ ⟨⟩
            exact ne_of_isBlank plain otherBlank
          have blankBefore : true = true → false = false := fun _ => rfl
          have later := ih blankBefore
          rw [standsAfter, notHere letter letters blank, Bool.and_false, Bool.false_or,
            isWord_of_isBlank blank, ← later]
          cases inRun with
          | true => rw [squeezeAfter_true_blank blank, outside rfl]
          | false =>
              change standsAfter word inWord (squeeze (letter :: letters)) = _
              rw [squeeze_blank blank, standsAfter, notHere ' ' _ isBlank_space, Bool.and_false,
                Bool.false_or, isWord_of_isBlank isBlank_space]
      | false =>
          have here := standsHere_squeeze plain (letter :: letters)
          rw [squeeze_letter blank] at here
          have noneBefore : false = true → isWord letter = false :=
            fun run => absurd run Bool.false_ne_true
          have later := ih noneBefore
          rw [squeezeAfter_letter blank, standsAfter, standsAfter, here, squeeze, later]

theorem hasWord_squeeze (nonempty : word ≠ []) (letters : List Char) :
    hasWord word (squeeze letters) = hasWord word letters := by
  have noneBefore : false = true → false = false := fun _ => rfl
  exact standsAfter_squeezeAfter plain nonempty noneBefore letters

private theorem occurs_squeezeAfter (nonempty : word ≠ []) (inRun : Bool) (letters : List Char) :
    occurs word (squeezeAfter inRun letters) = occurs word letters := by
  induction letters generalizing inRun with
  | nil => rfl
  | cons letter letters ih =>
      cases blank : isBlank letter with
      | true =>
          have notHere : ∀ other rest, isBlank other = true →
              after? word (other :: rest) = none := by
            intro other rest otherBlank
            apply Parted.after?_eq_none _ nonempty
            rintro _ ⟨⟩
            exact ne_of_isBlank plain otherBlank
          rw [occurs, notHere letter letters blank, Option.isSome_none, Bool.false_or]
          cases inRun with
          | true => rw [squeezeAfter_true_blank blank, ih]
          | false =>
              change occurs word (squeeze (letter :: letters)) = _
              rw [squeeze_blank blank, occurs, notHere ' ' _ isBlank_space, Option.isSome_none,
                Bool.false_or, ih]
      | false =>
          have here := congrArg Option.isSome (after?_squeeze plain (letter :: letters))
          rw [squeeze_letter blank, Option.isSome_map] at here
          rw [squeezeAfter_letter blank, occurs, occurs, here, squeeze, ih]

theorem occurs_squeeze (nonempty : word ≠ []) (letters : List Char) :
    occurs word (squeeze letters) = occurs word letters :=
  occurs_squeezeAfter plain nonempty false letters

end

/-! ### Names -/

private theorem isNamePart_of_isBlank (blank : isBlank letter = true) : isNamePart letter = false :=
  eq_of_beq (of_inRanges (fun letter => isNamePart letter == false) (by decide +kernel) blank)

private theorem isNameStart_of_isBlank (blank : isBlank letter = true) :
    isNameStart letter = false :=
  eq_of_beq (of_inRanges (fun letter => isNameStart letter == false) (by decide +kernel) blank)

theorem takeName_squeeze (letters : List Char) :
    takeName (squeeze letters) =
      (takeName letters).map fun found => (found.1, squeeze found.2) := by
  cases letters with
  | nil => rfl
  | cons letter letters =>
      cases blank : isBlank letter with
      | true =>
          rw [squeeze_blank blank, takeName, takeName, isNameStart_of_isBlank blank,
            isNameStart_of_isBlank isBlank_space]
          rfl
      | false =>
          have within : ∀ other, isBlank other = true → isNamePart other = false :=
            fun _ => isNamePart_of_isBlank
          rw [squeeze_letter blank, takeName, takeName, takeWhile_squeeze within,
            dropWhile_squeeze within]
          split
          · rfl
          · rfl

/-! ### Upper case -/

private theorem upperSequences_noBlank {entry : Nat × List Nat} (listed : entry ∈ upperSequences) :
    ∀ code ∈ entry.2, isBlank (Char.ofNat code) = false := by
  have every : upperSequences.all (fun entry =>
      entry.2.all (fun code => !isBlank (Char.ofNat code))) = true := by
    decide +kernel
  intro code member
  have plain := List.all_eq_true.mp (List.all_eq_true.mp every entry listed) code member
  rwa [Bool.not_eq_true'] at plain

/-- Where a run takes its letters there are no blanks. -/
theorem upperRuns_noBlank {run : CaseRun} (listed : run ∈ upperRuns) {code : Nat}
    (holds : run.holds code = true) :
    isBlank (Char.ofNat ((code : Int) + run.shift).toNat) = false := by
  have every : upperRuns.all (fun run => blankRanges.all (fun range =>
      range.2 < run.first + run.shift || run.last + run.shift < range.1)) = true := by
    decide +kernel
  have apart := List.all_eq_true.mp every run listed
  have bounds := CaseRun.bounds holds
  rw [Bool.eq_false_iff]
  intro blank
  obtain ⟨range, within, low, high⟩ := (inRanges_iff _ _).mp blank
  have beyond := List.all_eq_true.mp apart range within
  have positive : 0 < range.1 := by
    have all : blankRanges.all (fun range => 0 < range.1) = true := by decide
    exact of_decide_eq_true (List.all_eq_true.mp all range within)
  simp only [Bool.or_eq_true, decide_eq_true_eq] at beyond
  by_cases valid : ((code : Int) + run.shift).toNat.isValidChar
  · have place : (Char.ofNat ((code : Int) + run.shift).toNat).toNat =
        ((code : Int) + run.shift).toNat := by
      rw [Char.ofNat, dif_pos valid]
      rfl
    omega
  · have place : (Char.ofNat ((code : Int) + run.shift).toNat).toNat = 0 := by
      rw [Char.ofNat, dif_neg valid]
      rfl
    omega

private theorem isBlank_of_mem_upperChar {letter other : Char} (noBlank : isBlank letter = false)
    (member : other ∈ upperChar letter) : isBlank other = false := by
  unfold upperChar at member
  split at member
  · next ascii =>
      have codes : 0 ≤ letter.toNat ∧ letter.toNat ≤ 127 := by omega
      have either := of_between (fun letter => isBlank letter || !isBlank letter.toUpper) codes
        (by decide +kernel)
      rw [List.mem_singleton.mp member]
      simpa [noBlank] using either
  · rcases of_mem_mapCase member with ⟨codes, listed, moved⟩ | ⟨run, listed, holds, rfl⟩ | rfl
    · obtain ⟨code, among, rfl⟩ := List.mem_map.mp moved
      exact upperSequences_noBlank listed code among
    · exact upperRuns_noBlank listed holds
    · exact noBlank

theorem upper_cons (letter : Char) (letters : List Char) :
    upper (letter :: letters) = upperChar letter ++ upper letters :=
  List.flatMap_cons

private theorem upper_squeezeAfter (inRun : Bool) (letters : List Char) :
    upper (squeezeAfter inRun letters) = squeezeAfter inRun (upper letters) := by
  induction letters generalizing inRun with
  | nil => rfl
  | cons letter letters ih =>
      cases blank : isBlank letter with
      | true =>
          rw [upper_cons, upperChar_of_isBlank blank, List.singleton_append]
          cases inRun with
          | true => rw [squeezeAfter_true_blank blank, squeezeAfter_true_blank blank, ih]
          | false =>
              change upper (squeeze (letter :: letters)) = squeeze (letter :: upper letters)
              rw [squeeze_blank blank, squeeze_blank blank, upper_cons,
                upperChar_of_isBlank isBlank_space, List.singleton_append, ih]
      | false =>
          have plain : ∀ other ∈ upperChar letter, isBlank other = false :=
            fun other => isBlank_of_mem_upperChar blank
          rw [squeezeAfter_letter blank, upper_cons, upper_cons,
            squeezeAfter_append (upperChar_ne_nil letter) plain, squeeze, ih, squeeze]

theorem upper_squeeze (letters : List Char) : upper (squeeze letters) = squeeze (upper letters) :=
  upper_squeezeAfter false letters

private theorem upperChar_toUpper (letter : Char) :
    upperChar letter.toUpper = upperChar letter := by
  cases lower : letter.isLower with
  | false => rw [toUpper_of_isLower_eq_false lower]
  | true =>
      exact eq_of_beq (of_between (fun letter => upperChar letter.toUpper == upperChar letter)
        (toNat_of_isLower lower) (by decide +kernel))

/-- Upper case does not tell ASCII letters of different case apart. -/
theorem upper_map_toUpper (letters : List Char) : upper (letters.map Char.toUpper) = upper letters := by
  unfold upper
  rw [List.flatMap_map]
  exact congrArg (letters.flatMap ·) (funext upperChar_toUpper)


end QueryWarden.Text
