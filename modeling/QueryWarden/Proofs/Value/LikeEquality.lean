/-
Relations that are like equality: an item is related to itself, and it is all one which of two
related items is compared with a third. What holds of parts holds of what is made of them: of pairs,
of sequences, of sets without a member twice and of mappings without a name twice. Nothing has to be
known of the other side of a comparison.
-/

import Mathlib.Data.List.Forall2

namespace QueryWarden

/-- A relation treats an item like equality does, whatever the item is compared with. -/
structure LikeEquality {α : Type} (relates : α → α → Prop) (item : α) : Prop where
  refl : relates item item
  symm : ∀ other, relates item other → relates other item
  trans : ∀ other third, relates item other → relates other third → relates item third
  join : ∀ other third, relates item other → relates item third → relates other third

namespace LikeEquality

variable {α β γ : Type} {relates : α → α → Prop} {inner : β → β → Prop}
  {otherInner : γ → γ → Prop} {item : α}

theorem of_eq_iff (unique : ∀ other, relates item other ↔ other = item) :
    LikeEquality relates item := by
  have itself := (unique item).mpr rfl
  constructor
  · exact itself
  · intro other related
    rw [(unique other).mp related]
    exact itself
  · intro other third related further
    rw [(unique other).mp related] at further
    exact further
  · intro other third related again
    rw [(unique other).mp related, (unique third).mp again]
    exact itself

/-- Items of one make are compared by what they are made of. -/
theorem of_make {make : β → α} (made : ∀ part other,
      relates (make part) other ↔ ∃ otherPart, other = make otherPart ∧ inner part otherPart)
    {part : β} (laws : LikeEquality inner part) : LikeEquality relates (make part) := by
  constructor
  · exact (made part _).mpr ⟨part, rfl, laws.refl⟩
  · intro other related
    obtain ⟨otherPart, rfl, alike⟩ := (made part other).mp related
    exact (made otherPart _).mpr ⟨part, rfl, laws.symm otherPart alike⟩
  · intro other third related further
    obtain ⟨otherPart, rfl, alike⟩ := (made part other).mp related
    obtain ⟨thirdPart, rfl, alikeFurther⟩ := (made otherPart third).mp further
    exact (made part _).mpr ⟨thirdPart, rfl, laws.trans otherPart thirdPart alike alikeFurther⟩
  · intro other third related again
    obtain ⟨otherPart, rfl, alike⟩ := (made part other).mp related
    obtain ⟨thirdPart, rfl, alikeAgain⟩ := (made part third).mp again
    exact (made otherPart _).mpr ⟨thirdPart, rfl, laws.join otherPart thirdPart alike alikeAgain⟩

theorem pair {first : α} {second : β} (laws : LikeEquality relates first)
    (innerLaws : LikeEquality inner second) :
    LikeEquality (fun left right : α × β => relates left.1 right.1 ∧ inner left.2 right.2)
      (first, second) := by
  constructor
  · exact ⟨laws.refl, innerLaws.refl⟩
  · intro other related
    exact ⟨laws.symm _ related.1, innerLaws.symm _ related.2⟩
  · intro other third related further
    exact ⟨laws.trans _ _ related.1 further.1, innerLaws.trans _ _ related.2 further.2⟩
  · intro other third related again
    exact ⟨laws.join _ _ related.1 again.1, innerLaws.join _ _ related.2 again.2⟩

theorem of_makePair {make : β → γ → α} (made : ∀ first second other,
      relates (make first second) other ↔ ∃ otherFirst otherSecond,
        other = make otherFirst otherSecond ∧ inner first otherFirst ∧
          otherInner second otherSecond)
    {first : β} {second : γ} (laws : LikeEquality inner first)
    (otherLaws : LikeEquality otherInner second) : LikeEquality relates (make first second) := by
  have paired : ∀ (parts : β × γ) other, relates (make parts.1 parts.2) other ↔
      ∃ others : β × γ, other = make others.1 others.2 ∧
        inner parts.1 others.1 ∧ otherInner parts.2 others.2 := by
    intro parts other
    rw [made, Prod.exists]
  exact of_make paired (laws.pair otherLaws)

theorem comap (view : β → α) (whole : β) (laws : LikeEquality relates (view whole)) :
    LikeEquality (fun left right => relates (view left) (view right)) whole where
  refl := laws.refl
  symm := fun other => laws.symm (view other)
  trans := fun other third => laws.trans (view other) (view third)
  join := fun other third => laws.join (view other) (view third)

theorem forall₂ {items : List α} (laws : ∀ item ∈ items, LikeEquality relates item) :
    LikeEquality (List.Forall₂ relates) items := by
  induction items with
  | nil =>
      apply of_eq_iff
      intro others
      exact List.forall₂_nil_left_iff
  | cons item items ih =>
      obtain ⟨first, others⟩ := List.forall_mem_cons.mp laws
      apply of_makePair _ first (ih others)
      intro part parts other
      rw [List.forall₂_cons_left_iff]
      constructor
      · rintro ⟨otherItem, otherItems, alike, alikeItems, rfl⟩
        exact ⟨otherItem, otherItems, rfl, alike, alikeItems⟩
      · rintro ⟨otherItem, otherItems, rfl, alike, alikeItems⟩
        exact ⟨otherItem, otherItems, alike, alikeItems, rfl⟩

/-- Whatever an item is related to is related to the same others. -/
theorem relates_iff (laws : LikeEquality relates item) {other : α} (related : relates item other)
    (third : α) : relates other third ↔ relates item third :=
  ⟨laws.trans other third related, laws.join other third related⟩

/-! ### Sets -/

/-- As many items find as many others, no two of them the same one: then all others are found. -/
theorem exists_finder {finds : α → β → Prop} {items : List α} {others : List β}
    (size : items.length = others.length)
    (apart : items.Pairwise fun left right => ∀ other, finds left other → ¬finds right other)
    (found : ∀ item ∈ items, ∃ other ∈ others, finds item other) :
    ∀ other ∈ others, ∃ item ∈ items, finds item other := by
  induction items generalizing others with
  | nil =>
      rw [List.eq_nil_of_length_eq_zero size.symm]
      exact fun other member => absurd member List.not_mem_nil
  | cons item items ih =>
      obtain ⟨itemApart, itemsApart⟩ := List.pairwise_cons.mp apart
      obtain ⟨⟨taken, isOther, findsTaken⟩, laterFound⟩ := List.forall_mem_cons.mp found
      obtain ⟨before, behind, rfl⟩ := List.append_of_mem isOther
      have smaller : items.length = (before ++ behind).length := by
        simp only [List.length_append, List.length_cons] at size ⊢
        omega
      have stillFound : ∀ item ∈ items, ∃ other ∈ before ++ behind, finds item other := by
        intro later member
        obtain ⟨other, among, findsOther⟩ := laterFound later member
        refine ⟨other, ?_, findsOther⟩
        have different : other ≠ taken := by
          rintro rfl
          exact itemApart later member other findsTaken findsOther
        simpa [different] using among
      intro other member
      by_cases isTaken : other = taken
      · exact ⟨item, List.mem_cons_self, isTaken ▸ findsTaken⟩
      · have remains : other ∈ before ++ behind := by simpa [isTaken] using member
        obtain ⟨later, isLater, findsOther⟩ := ih smaller itemsApart stillFound other remains
        exact ⟨later, List.mem_cons_of_mem item isLater, findsOther⟩

def SameMembers (relates : α → α → Prop) (lefts rights : List α) : Prop :=
  lefts.length = rights.length ∧ ∀ left ∈ lefts, ∃ right ∈ rights, relates left right

theorem SameMembers.exists_left {lefts rights : List α}
    (laws : ∀ left ∈ lefts, LikeEquality relates left)
    (apart : lefts.Pairwise fun left right => ¬relates left right)
    (same : SameMembers relates lefts rights) :
    ∀ right ∈ rights, ∃ left ∈ lefts, relates left right := by
  apply exists_finder same.1 _ same.2
  apply apart.imp_of_mem
  intro left other isLeft isOther unrelated right related relatedOther
  have back := (laws other isOther).symm right relatedOther
  exact unrelated ((laws left isLeft).trans right other related back)

theorem sameMembers {items : List α} (laws : ∀ item ∈ items, LikeEquality relates item)
    (apart : items.Pairwise fun left right => ¬relates left right) :
    LikeEquality (SameMembers relates) items := by
  constructor
  · exact ⟨rfl, fun item member => ⟨item, member, (laws item member).refl⟩⟩
  · intro others same
    refine ⟨same.1.symm, fun other isOther => ?_⟩
    obtain ⟨item, member, related⟩ := same.exists_left laws apart other isOther
    exact ⟨item, member, (laws item member).symm other related⟩
  · intro others thirds same further
    refine ⟨same.1.trans further.1, fun item member => ?_⟩
    obtain ⟨other, isOther, related⟩ := same.2 item member
    obtain ⟨third, isThird, relatedFurther⟩ := further.2 other isOther
    exact ⟨third, isThird, (laws item member).trans other third related relatedFurther⟩
  · intro others thirds same again
    refine ⟨same.1.symm.trans again.1, fun other isOther => ?_⟩
    obtain ⟨item, member, related⟩ := same.exists_left laws apart other isOther
    obtain ⟨third, isThird, relatedAgain⟩ := again.2 item member
    exact ⟨third, isThird, (laws item member).join other third related relatedAgain⟩

/-! ### Mappings -/

variable {named : α → α → Bool}

def SameBound (named : α → α → Bool) (inner : β → β → Prop) (lefts rights : List (α × β)) : Prop :=
  lefts.length = rights.length ∧ ∀ left ∈ lefts, ∃ right,
    rights.find? (fun entry => named left.1 entry.1) = some right ∧ inner left.2 right.2

structure IsMapping (named : α → α → Bool) (inner : β → β → Prop) (entries : List (α × β)) :
    Prop where
  names : ∀ entry ∈ entries, LikeEquality (fun left right => named left right = true) entry.1
  bound : ∀ entry ∈ entries, LikeEquality inner entry.2
  apart : entries.Pairwise fun left right => named left.1 right.1 = false

variable {entries : List (α × β)}

theorem IsMapping.find?_self (mapping : IsMapping named inner entries) {entry : α × β}
    (member : entry ∈ entries) :
    entries.find? (fun other => named entry.1 other.1) = some entry := by
  obtain ⟨before, behind, rfl⟩ := List.append_of_mem member
  apply List.find?_eq_some_iff_append.mpr
  refine ⟨(mapping.names entry member).refl, before, behind, rfl, fun other isBefore => ?_⟩
  have apart := (List.pairwise_append.mp mapping.apart).2.2 other isBefore entry List.mem_cons_self
  rw [Bool.not_eq_true', Bool.eq_false_iff]
  intro same
  rw [(mapping.names entry member).symm other.1 same] at apart
  cases apart

theorem named_of_find? {name : α} {entry : α × β}
    (found : entries.find? (fun other => named name other.1) = some entry) :
    named name entry.1 = true := by
  obtain ⟨alike, _⟩ := List.find?_eq_some_iff_append.mp found
  exact alike

/-- A name finds what its namesake finds. -/
theorem find?_namesake {name other : α}
    (laws : LikeEquality (fun left right => named left right = true) name)
    (same : named name other = true) (entries : List (α × β)) :
    entries.find? (fun entry => named other entry.1) =
      entries.find? (fun entry => named name entry.1) := by
  congr 1
  funext entry
  exact Bool.eq_iff_iff.mpr (laws.relates_iff same entry.1)

theorem SameBound.exists_left (mapping : IsMapping named inner entries)
    {others : List (α × β)} (same : SameBound named inner entries others) :
    ∀ other ∈ others, ∃ entry ∈ entries, named entry.1 other.1 = true ∧
      inner entry.2 other.2 := by
  have found : ∀ entry ∈ entries, ∃ other ∈ others,
      others.find? (fun candidate => named entry.1 candidate.1) = some other := by
    intro entry member
    obtain ⟨other, isFound, _⟩ := same.2 entry member
    exact ⟨other, List.mem_of_find?_eq_some isFound, isFound⟩
  have apart : entries.Pairwise fun left right => ∀ other,
      others.find? (fun candidate => named left.1 candidate.1) = some other →
        ¬others.find? (fun candidate => named right.1 candidate.1) = some other := by
    apply mapping.apart.imp_of_mem
    intro left right isLeft isRight different other isFound isFoundAgain
    have back := (mapping.names right isRight).symm _ (named_of_find? isFoundAgain)
    have both := (mapping.names left isLeft).trans _ _ (named_of_find? isFound) back
    rw [both] at different
    cases different
  intro other isOther
  obtain ⟨entry, member, isFound⟩ := exists_finder same.1 apart found other isOther
  obtain ⟨again, isFoundAgain, related⟩ := same.2 entry member
  obtain rfl := Option.some.inj (isFound.symm.trans isFoundAgain)
  exact ⟨entry, member, named_of_find? isFound, related⟩

theorem sameBound (mapping : IsMapping named inner entries) :
    LikeEquality (SameBound named inner) entries := by
  constructor
  · refine ⟨rfl, fun entry member => ⟨entry, mapping.find?_self member, ?_⟩⟩
    exact (mapping.bound entry member).refl
  · intro others same
    refine ⟨same.1.symm, fun other isOther => ?_⟩
    obtain ⟨entry, member, alike, related⟩ := same.exists_left mapping other isOther
    refine ⟨entry, ?_, (mapping.bound entry member).symm _ related⟩
    rw [find?_namesake (mapping.names entry member) alike]
    exact mapping.find?_self member
  · intro others thirds same further
    refine ⟨same.1.trans further.1, fun entry member => ?_⟩
    obtain ⟨other, isFound, related⟩ := same.2 entry member
    obtain ⟨third, isThird, relatedFurther⟩ := further.2 other (List.mem_of_find?_eq_some isFound)
    refine ⟨third, ?_, (mapping.bound entry member).trans _ _ related relatedFurther⟩
    rw [← find?_namesake (mapping.names entry member) (named_of_find? isFound)]
    exact isThird
  · intro others thirds same again
    refine ⟨same.1.symm.trans again.1, fun other isOther => ?_⟩
    obtain ⟨entry, member, alike, related⟩ := same.exists_left mapping other isOther
    obtain ⟨third, isThird, relatedAgain⟩ := again.2 entry member
    refine ⟨third, ?_, (mapping.bound entry member).join _ _ related relatedAgain⟩
    rw [find?_namesake (mapping.names entry member) alike]
    exact isThird

end LikeEquality

end QueryWarden
