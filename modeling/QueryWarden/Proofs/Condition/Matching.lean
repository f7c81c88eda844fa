/-
Matching of brackets. It is described by a relation between tokens and items, in which
texts are put together without looking at how they are read: side by side, behind a blank
and into parentheses.
-/

import QueryWarden.Proofs.Condition.Reading

namespace QueryWarden.Condition

open Text

/-! ### Matched brackets -/

def Token.isBracket : Token → Bool
  | .opening _ | .closing _ => true
  | _ => false

inductive Nested : List Token → List Item → Prop where
  | nil : Nested [] []
  | single {token : Token} {tokens : List Token} {items : List Item}
      (plain : token.isBracket = false) (rest : Nested tokens items) :
      Nested (token :: tokens) (.single token :: items)
  | group {bracket : Bracket} {inner tokens : List Token} {innerItems items : List Item}
      (inside : Nested inner innerItems) (rest : Nested tokens items) :
      Nested (.opening bracket :: (inner ++ .closing bracket :: tokens))
        (.group bracket inner ((disjuncts innerItems).bind ofParts) :: items)

theorem Nested.itemTokens_eq {tokens : List Token} {items : List Item}
    (nested : Nested tokens items) : itemTokens items = tokens := by
  induction nested with
  | nil => rfl
  | single plain rest ih => exact congrArg (List.cons _) ih
  | @group bracket inner tokens innerItems items inside rest ihInside ihRest =>
      change (.opening bracket :: (inner ++ [.closing bracket])) ++ itemTokens items = _
      rw [ihRest, List.cons_append, List.append_assoc]
      rfl

theorem Nested.append {left right : List Token} {leftItems rightItems : List Item}
    (first : Nested left leftItems) (second : Nested right rightItems) :
    Nested (left ++ right) (leftItems ++ rightItems) := by
  induction first with
  | nil => exact second
  | single plain rest ih => exact .single plain ih
  | group inside rest ihInside ihRest =>
      rw [List.cons_append, List.append_assoc, List.cons_append]
      exact .group inside ihRest

private theorem nestWith_single (outer : List (Bracket × List Item)) (items : List Item)
    {token : Token} (tokens : List Token) (plain : token.isBracket = false) :
    nestWith outer items (token :: tokens) =
      nestWith outer (items ++ [.single token]) tokens := by
  cases token with
  | opening bracket => cases plain
  | closing bracket => cases plain
  | word letters => cases outer <;> rfl
  | quoted mark letters => cases outer <;> rfl
  | sign letter => cases outer <;> rfl

private theorem nestWith_opening (outer : List (Bracket × List Item)) (items : List Item)
    (bracket : Bracket) (tokens : List Token) :
    nestWith outer items (.opening bracket :: tokens) =
      nestWith ((bracket, items) :: outer) [] tokens := by
  cases outer <;> rfl

/-- Tokens with matched brackets add their items to those before them, inside whatever
brackets are open. -/
theorem Nested.nestWith_append {tokens : List Token} {items : List Item}
    (nested : Nested tokens items) (outer : List (Bracket × List Item)) (before : List Item)
    (behind : List Token) :
    nestWith outer before (tokens ++ behind) = nestWith outer (before ++ items) behind := by
  induction nested generalizing outer before behind with
  | nil => rw [List.append_nil, List.nil_append]
  | single plain rest ih =>
      rw [List.cons_append, nestWith_single outer before _ plain, ih, List.append_assoc]
      rfl
  | group inside rest ihInside ihRest =>
      rw [List.cons_append, List.append_assoc, List.cons_append, nestWith_opening, ihInside,
        List.nil_append, nestWith, if_pos rfl, ihRest, inside.itemTokens_eq, List.append_assoc]
      rfl

/-- How matching goes on once it has passed all items at one level: the text is at its end,
or the bracket that was opened last is closed. -/
inductive Closing (items new found : List Item) :
    List (Bracket × List Item) → List Token → Prop where
  | ended (whole : found = items ++ new) : Closing items new found [] []
  | closed {bracket : Bracket} {before : List Item} {outer : List (Bracket × List Item)}
      {behind : List Token}
      (goesOn : nestWith outer (before ++ [.group bracket (itemTokens (items ++ new))
        ((disjuncts (items ++ new)).bind ofParts)]) behind = some found) :
      Closing items new found ((bracket, before) :: outer) (.closing bracket :: behind)

theorem Closing.cons {item : Item} {items new found : List Item}
    {outer : List (Bracket × List Item)} {behind : List Token}
    (closing : Closing (items ++ [item]) new found outer behind) :
    Closing items (item :: new) found outer behind := by
  have same : items ++ [item] ++ new = items ++ item :: new := by
    rw [List.append_assoc, List.singleton_append]
  cases closing with
  | ended whole => exact .ended (whole.trans same)
  | closed goesOn => exact .closed (by rw [← same]; exact goesOn)

theorem nested_of_nestWith_nil {outer : List (Bracket × List Item)} {items found : List Item}
    (matched : nestWith outer items [] = some found) :
    ∃ inner new behind, [] = inner ++ behind ∧ Nested inner new ∧
      Closing items new found outer behind := by
  cases outer with
  | nil =>
      refine ⟨[], [], [], rfl, .nil, .ended ?_⟩
      rw [List.append_nil]
      exact (Option.some.inj matched).symm
  | cons entry outer => cases matched

private theorem nested_of_nestWith_closing {outer : List (Bracket × List Item)}
    {items found : List Item} {bracket : Bracket} {tokens : List Token}
    (matched : nestWith outer items (.closing bracket :: tokens) = some found) :
    ∃ inner new behind, .closing bracket :: tokens = inner ++ behind ∧ Nested inner new ∧
      Closing items new found outer behind := by
  cases outer with
  | nil => cases matched
  | cons entry outer =>
      obtain ⟨opened, before⟩ := entry
      rw [nestWith] at matched
      by_cases same : bracket = opened
      · subst same
        rw [if_pos rfl] at matched
        refine ⟨[], [], .closing bracket :: tokens, rfl, .nil, .closed ?_⟩
        rw [List.append_nil]
        exact matched
      · rw [if_neg same] at matched
        cases matched

/-- Whatever is matched consists of tokens with matched brackets, up to the end of the text
or to the bracket that closes the level. -/
theorem nested_of_nestWith (bound : Nat) (outer : List (Bracket × List Item))
    (items : List Item) (tokens : List Token) (found : List Item) (short : tokens.length ≤ bound)
    (matched : nestWith outer items tokens = some found) :
    ∃ inner new behind, tokens = inner ++ behind ∧ Nested inner new ∧
      Closing items new found outer behind := by
  -- the bound carries the induction: what follows a closed group is shorter, but no tail
  induction bound generalizing outer items tokens with
  | zero =>
      have empty : tokens = [] := List.eq_nil_of_length_eq_zero (Nat.le_zero.mp short)
      subst empty
      exact nested_of_nestWith_nil matched
  | succ bound ih =>
      cases tokens with
      | nil => exact nested_of_nestWith_nil matched
      | cons token tokens =>
          have shorter : tokens.length ≤ bound := Nat.le_of_succ_le_succ short
          cases bracketed : token.isBracket with
          | false =>
              rw [nestWith_single outer items tokens bracketed] at matched
              obtain ⟨inner, new, behind, rfl, nested, closing⟩ := ih _ _ _ shorter matched
              exact ⟨token :: inner, .single token :: new, behind, rfl,
                .single bracketed nested, closing.cons⟩
          | true =>
              cases token with
              | word letters => cases bracketed
              | quoted mark letters => cases bracketed
              | sign letter => cases bracketed
              | opening bracket =>
                  rw [nestWith_opening] at matched
                  obtain ⟨inner, new, behind, rfl, nested, closing⟩ := ih _ _ _ shorter matched
                  cases closing with
                  | closed goesOn =>
                      rw [List.length_append, List.length_cons] at shorter
                      obtain ⟨later, newer, rest, rfl, nestedLater, closing⟩ :=
                        ih _ _ _ (by omega) goesOn
                      rw [List.nil_append, nested.itemTokens_eq] at closing
                      refine ⟨_, _, rest, ?_, .group nested nestedLater, closing.cons⟩
                      rw [List.cons_append, List.append_assoc, List.cons_append]
              | closing bracket => exact nested_of_nestWith_closing matched

/-- Matching of a whole text is that relation. -/
theorem nestWith_eq_some_iff (tokens : List Token) (items : List Item) :
    nestWith [] [] tokens = some items ↔ Nested tokens items := by
  constructor
  · intro matched
    obtain ⟨inner, new, behind, rfl, nested, closing⟩ :=
      nested_of_nestWith _ _ _ _ _ (Nat.le_refl tokens.length) matched
    cases closing with
    | ended whole =>
        rw [List.append_nil, whole, List.nil_append]
        exact nested
  · intro nested
    have run := nested.nestWith_append [] [] []
    rw [List.append_nil, List.nil_append] at run
    exact run

/-! ### Texts side by side -/

/-- The text consists of the items, and the brackets in it are matched. -/
structure Scans (letters : List Char) (found : List Item) : Prop where
  tokens_eq : tokens letters = some (itemTokens found)
  nested : Nested (itemTokens found) found

theorem items_eq_some_iff (letters : List Char) (found : List Item) :
    items letters = some found ↔ Scans letters found := by
  constructor
  · intro matched
    obtain ⟨read, readEq, nested⟩ := Option.bind_eq_some_iff.mp matched
    have related := (nestWith_eq_some_iff read found).mp nested
    have same := related.itemTokens_eq
    exact ⟨by rw [same]; exact readEq, by rw [same]; exact related⟩
  · intro scans
    exact Option.bind_eq_some_iff.mpr
      ⟨_, scans.tokens_eq, (nestWith_eq_some_iff _ _).mpr scans.nested⟩

theorem itemTokens_append (left right : List Item) :
    itemTokens (left ++ right) = itemTokens left ++ itemTokens right :=
  List.flatMap_append

/-- Whether the text begins with something that stands apart from whatever is before it,
once a blank is between them. -/
def opens : List Char → Bool
  | [] => false
  | letter :: _ => !isBlank letter && letter != '.'

theorem opens_append {left : List Char} (right : List Char) (opening : opens left = true) :
    opens (left ++ right) = true := by
  cases left with
  | nil => cases opening
  | cons letter left => exact opening

theorem Scans.blank {left right : List Char} {found more : List Item}
    (first : Scans left found) (second : Scans right more) (opening : opens right = true) :
    Scans (left ++ ' ' :: right) (found ++ more) := by
  cases right with
  | nil => cases opening
  | cons letter right =>
      simp only [opens, Bool.and_eq_true, Bool.not_eq_true', bne_iff_ne] at opening
      refine ⟨?_, ?_⟩
      · rw [itemTokens_append]
        exact tokens_append_blank first.tokens_eq second.tokens_eq opening.1 opening.2
      · rw [itemTokens_append]
        exact first.nested.append second.nested

/-- A letter that ends words needs no blank before it. -/
theorem Scans.append {left right : List Char} {letter : Char} {found more : List Item}
    (first : Scans left found) (second : Scans (letter :: right) more)
    (opening : opens (letter :: right) = true) (notWord : isWord letter = false) :
    Scans (left ++ letter :: right) (found ++ more) := by
  simp only [opens, Bool.and_eq_true, Bool.not_eq_true', bne_iff_ne] at opening
  refine ⟨?_, ?_⟩
  · rw [itemTokens_append]
    exact tokens_append first.tokens_eq second.tokens_eq opening.1 opening.2 notWord
  · rw [itemTokens_append]
    exact first.nested.append second.nested

def enclosed (items : List Item) : Item :=
  .group .round (itemTokens items) ((disjuncts items).bind ofParts)

theorem tokens_opening (letters : List Char) :
    tokens ('(' :: letters) = (tokens letters).map (.opening .round :: ·) := by
  have begins : Hand.nothing.advance '(' = some ([.opening .round], .nothing) := by
    decide +kernel
  rw [tokens, tokensWith_cons begins]
  rfl

theorem Scans.enclosed {letters : List Char} {found : List Item}
    (inside : Scans letters found) :
    Scans ('(' :: (letters ++ [')'])) [Condition.enclosed found] := by
  have closes : tokens [')'] = some [.closing .round] := by decide +kernel
  have read := tokens_append inside.tokens_eq closes (by decide +kernel) (by decide +kernel)
    (by decide +kernel)
  have whole : itemTokens [Condition.enclosed found] =
      .opening .round :: (itemTokens found ++ [.closing .round]) :=
    List.append_nil _
  refine ⟨?_, ?_⟩
  · rw [tokens_opening, read, whole]
    rfl
  · rw [whole]
    exact .group inside.nested .nil

end QueryWarden.Condition
