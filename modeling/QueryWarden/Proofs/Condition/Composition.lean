/-
Composing conditions. Texts that can be read are put side by side, into parentheses and
behind connectives, and the outcome can be read from what its parts are, whatever these
are.
-/

import QueryWarden.Proofs.Condition.Matching

namespace QueryWarden.Condition

open Text

/-! ### Cutting at connectives -/

theorem mapM_eq_some_iff {α β : Type} (change : α → Option β) (items : List α)
    (results : List β) :
    items.mapM change = some results ↔ items.map change = results.map some := by
  induction items generalizing results with
  | nil =>
      rw [List.mapM_nil, List.map_nil, eq_comm (a := []), List.map_eq_nil_iff]
      exact ⟨fun same => (Option.some.inj same).symm, fun empty => empty ▸ rfl⟩
  | cons item items ih =>
      rw [List.mapM_cons, List.map_cons]
      constructor
      · intro found
        obtain ⟨first, firstFound, rest⟩ := Option.bind_eq_some_iff.mp found
        obtain ⟨others, othersFound, same⟩ := Option.bind_eq_some_iff.mp rest
        cases same
        rw [firstFound, (ih others).mp othersFound, List.map_cons]
      · intro mapped
        obtain ⟨first, others, rfl, firstFound, othersFound⟩ :=
          List.map_eq_cons_iff.mp mapped.symm
        rw [← firstFound, (ih others).mpr othersFound.symm]
        rfl

/-- Where a list is not cut, the piece before and the piece behind become one. -/
theorem splitOnP_append_of_not {α : Type} {cut : α → Bool} {left right : List α} {item : α}
    {before behind : List (List α)} {last first : List α}
    (cutLeft : left.splitOnP cut = before ++ [last])
    (cutRight : right.splitOnP cut = first :: behind) (stays : cut item = false) :
    (left ++ item :: right).splitOnP cut = before ++ (last ++ item :: first) :: behind := by
  induction left generalizing before last with
  | nil =>
      rw [List.splitOnP_nil, eq_comm, List.append_eq_singleton_iff] at cutLeft
      rcases cutLeft with ⟨rfl, same⟩ | ⟨_, same⟩
      · cases same
        rw [List.nil_append, List.splitOnP_cons_eq_if_modifyHead, stays, cutRight]
        rfl
      · cases same
  | cons head left ih =>
      rw [List.splitOnP_cons_eq_if_modifyHead] at cutLeft
      rw [List.cons_append, List.splitOnP_cons_eq_if_modifyHead]
      cases cuts : cut head with
      | true =>
          rw [cuts, if_pos rfl] at cutLeft
          rw [if_pos rfl]
          cases before with
          | nil =>
              have empty := (List.cons.inj cutLeft).2
              exact absurd empty (List.splitOnP_ne_nil cut left)
          | cons piece before =>
              obtain ⟨same, rest⟩ := List.cons.inj cutLeft
              rw [ih rest, ← same, List.cons_append]
      | false =>
          rw [cuts, if_neg Bool.false_ne_true] at cutLeft
          rw [if_neg Bool.false_ne_true]
          cases pieces : left.splitOnP cut with
          | nil => exact absurd pieces (List.splitOnP_ne_nil cut left)
          | cons piece rest =>
              rw [pieces, List.modifyHead_cons] at cutLeft
              cases before with
              | nil =>
                  obtain ⟨same, rfl⟩ := List.cons.inj cutLeft
                  have later := ih (show _ = [] ++ [piece] from pieces)
                  rw [later, ← same]
                  rfl
              | cons held before =>
                  obtain ⟨same, rfl⟩ := List.cons.inj cutLeft
                  have later := ih (show _ = (piece :: before) ++ [last] from pieces)
                  rw [later, ← same]
                  rfl

def keyword (name : String) : Item :=
  .single (.word name.toList)

theorem disjuncts_eq_some_iff (items : List Item) (parts : List (List Condition)) :
    disjuncts items = some parts ↔
      (items.splitOnP (Item.isKeyword "OR")).map factors = parts.map some :=
  mapM_eq_some_iff factors _ parts

theorem factors_eq_some_iff (items : List Item) (parts : List Condition) :
    factors items = some parts ↔
      (items.splitOnP (Item.isKeyword "AND")).map factor = parts.map some :=
  mapM_eq_some_iff factor _ parts

private theorem factors_and {left right : List Item} {first second : List Condition}
    (readLeft : factors left = some first) (readRight : factors right = some second) :
    factors (left ++ keyword "AND" :: right) = some (first ++ second) := by
  rw [factors_eq_some_iff] at *
  rw [List.splitOnP_append_cons left right (by decide), List.map_append, readLeft, readRight,
    List.map_append]

private theorem disjuncts_or {left right : List Item} {first second : List (List Condition)}
    (readLeft : disjuncts left = some first) (readRight : disjuncts right = some second) :
    disjuncts (left ++ keyword "OR" :: right) = some (first ++ second) := by
  rw [disjuncts_eq_some_iff] at *
  rw [List.splitOnP_append_cons left right (by decide), List.map_append, readLeft, readRight,
    List.map_append]

/-- An AND between two texts joins the last disjunct of the one to the first disjunct of
the other. -/
theorem disjuncts_and {left right : List Item} {before behind : List (List Condition)}
    {last first : List Condition} (readLeft : disjuncts left = some (before ++ [last]))
    (readRight : disjuncts right = some (first :: behind)) :
    disjuncts (left ++ keyword "AND" :: right) = some (before ++ (last ++ first) :: behind) := by
  rw [disjuncts_eq_some_iff] at *
  rw [List.map_append, List.map_eq_append_iff] at readLeft
  obtain ⟨beforeItems, lastItems, cutLeft, beforeRead, lastRead⟩ := readLeft
  obtain ⟨lastItem, ends, same, lastFactors, noMore⟩ := List.map_eq_cons_iff.mp lastRead
  cases List.map_eq_nil_iff.mp noMore
  subst same
  obtain ⟨firstItem, behindItems, cutRight, firstFactors, behindRead⟩ :=
    List.map_eq_cons_iff.mp readRight
  have middle := factors_and lastFactors firstFactors
  rw [splitOnP_append_of_not cutLeft cutRight (by decide), List.map_append, List.map_cons,
    beforeRead, middle, behindRead, List.map_append, List.map_cons]

private theorem disjuncts_of_uncut {items : List Item}
    (uncut : ∀ item ∈ items, item.isKeyword "OR" = false ∧ item.isKeyword "AND" = false) :
    disjuncts items = (factor items).map (fun part => [[part]]) := by
  have whole : items.splitOnP (Item.isKeyword "OR") = [items] :=
    List.splitOnP_eq_singleton (fun item member => (uncut item member).1)
  have whole' : items.splitOnP (Item.isKeyword "AND") = [items] :=
    List.splitOnP_eq_singleton (fun item member => (uncut item member).2)
  rw [disjuncts, whole, List.mapM_cons, factors, whole', List.mapM_cons]
  cases factor items <;> rfl

/-- What parentheses enclose is one part of the condition around them. -/
theorem disjuncts_enclosed {found : List Item} {parts : List (List Condition)}
    {inner : Condition} (inside : disjuncts found = some parts)
    (whole : ofParts parts = some inner) : disjuncts [enclosed found] = some [[inner]] := by
  have uncut : ∀ item ∈ [enclosed found],
      item.isKeyword "OR" = false ∧ item.isKeyword "AND" = false := by
    intro item member
    cases List.mem_singleton.mp member
    exact ⟨rfl, rfl⟩
  rw [disjuncts_of_uncut uncut]
  change ((disjuncts found).bind ofParts).map _ = _
  rw [inside]
  exact congrArg (Option.map _) whole

/-- NOT reaches over the one factor behind it. -/
theorem disjuncts_not {items : List Item} {part : Condition}
    (read : disjuncts items = some [[part]]) :
    disjuncts (keyword "NOT" :: items) = some [[.negation part]] := by
  rw [disjuncts_eq_some_iff] at *
  obtain ⟨disjunct, more, cutOr, factorsRead, noMore⟩ := List.map_eq_cons_iff.mp read
  cases List.map_eq_nil_iff.mp noMore
  have stays : (keyword "NOT").isKeyword "OR" = false := by decide
  rw [List.splitOnP_cons_eq_if_modifyHead, stays, cutOr]
  rw [factors_eq_some_iff] at factorsRead
  obtain ⟨piece, pieces, cutAnd, factorRead, noMore⟩ := List.map_eq_cons_iff.mp factorsRead
  cases List.map_eq_nil_iff.mp noMore
  have behind : factors (keyword "NOT" :: disjunct) = some [.negation part] := by
    have stays : (keyword "NOT").isKeyword "AND" = false := by decide
    rw [factors_eq_some_iff, List.splitOnP_cons_eq_if_modifyHead, stays, cutAnd]
    change [(factor piece).map Condition.negation] = [some (.negation part)]
    rw [factorRead]
    rfl
  change [factors (keyword "NOT" :: disjunct)] = [some [.negation part]]
  rw [behind]

/-! ### Atoms -/

theorem Item.isKeyword_of_isPlain {item : Item} {name : String} (plain : item.isPlain = true)
    (known : name ∈ connectives) : item.isKeyword name = false := by
  rw [Item.isPlain, Bool.not_eq_true', List.any_eq_false] at plain
  exact Bool.eq_false_iff.mpr (plain name known)

private theorem fitAtom_of_plain (behindIs : Bool) {items : List Item}
    (plain : ∀ item ∈ items, item.isPlain = true) : fitAtom behindIs items = true := by
  induction items generalizing behindIs with
  | nil => rfl
  | cons item items ih =>
      rw [fitAtom, plain item List.mem_cons_self, Bool.true_or, Bool.true_and]
      exact ih _ (fun other member => plain other (List.mem_cons_of_mem item member))

/-- Items are an atom if none is a connective, unless they are a condition in parentheses. -/
theorem disjuncts_of_plain {first : Item} {others : List Item}
    (plain : ∀ item ∈ first :: others, item.isPlain = true)
    (bare : others ≠ [] ∨ ∃ token, first = .single token) :
    disjuncts (first :: others) = some [[.atom (itemTokens (first :: others))]] := by
  have uncut : ∀ item ∈ first :: others,
      item.isKeyword "OR" = false ∧ item.isKeyword "AND" = false := fun item member =>
    ⟨Item.isKeyword_of_isPlain (plain item member) (by decide),
      Item.isKeyword_of_isPlain (plain item member) (by decide)⟩
  have notNegation : first.isKeyword "NOT" = false :=
    Item.isKeyword_of_isPlain (plain first List.mem_cons_self) (by decide)
  have fits := fitAtom_of_plain false plain
  have atom : operand (first :: others) = some (.atom (itemTokens (first :: others))) := by
    rw [operand, if_pos fits]
    · exact fun empty => List.cons_ne_nil _ _ empty
    · rintro tokens inner same
      cases same
      rcases bare with more | ⟨token, other⟩
      · exact more rfl
      · cases other
  rw [disjuncts_of_uncut uncut, factor, notNegation, if_neg Bool.false_ne_true, atom]
  rfl

/-! ### The value of disjuncts -/

def partsValue (valuation : Valuation) (parts : List (List Condition)) : Truth :=
  Truth.any (parts.map fun factors => Truth.all (factors.map (value valuation)))

private theorem value_joined_all {factors : List Condition} {condition : Condition}
    (whole : joined .all factors = some condition) (valuation : Valuation) :
    condition.value valuation = Truth.all (factors.map (value valuation)) := by
  match factors with
  | [] => cases whole
  | [only] =>
      cases whole
      rw [List.map_singleton, Truth.all_singleton]
  | first :: second :: others =>
      cases whole
      rw [value, values_eq_map]
      rfl

private theorem value_joined_any {parts : List Condition} {condition : Condition}
    (whole : joined .any parts = some condition) (valuation : Valuation) :
    condition.value valuation = Truth.any (parts.map (value valuation)) := by
  match parts with
  | [] => cases whole
  | [only] =>
      cases whole
      rw [List.map_singleton, Truth.any_singleton]
  | first :: second :: others =>
      cases whole
      rw [value, values_eq_map]
      rfl

theorem value_ofParts {parts : List (List Condition)} {condition : Condition}
    (whole : ofParts parts = some condition) (valuation : Valuation) :
    condition.value valuation = partsValue valuation parts := by
  obtain ⟨disjuncts, joinedAll, joinedAny⟩ := Option.bind_eq_some_iff.mp whole
  rw [mapM_eq_some_iff] at joinedAll
  rw [value_joined_any joinedAny, partsValue]
  refine congrArg Truth.any ?_
  clear joinedAny whole
  induction parts generalizing disjuncts with
  | nil =>
      cases List.map_eq_nil_iff.mp joinedAll.symm
      rfl
  | cons factors parts ih =>
      obtain ⟨first, others, rfl, firstJoined, othersJoined⟩ :=
        List.map_eq_cons_iff.mp joinedAll.symm
      rw [List.map_cons, List.map_cons, value_joined_all firstJoined.symm,
        ih others othersJoined.symm]

private theorem joined_exists (join : Condition → List Condition → Condition)
    {parts : List Condition}
    (nonempty : parts ≠ []) : ∃ condition, joined join parts = some condition := by
  match parts with
  | [] => exact absurd rfl nonempty
  | [only] => exact ⟨only, rfl⟩
  | first :: second :: others => exact ⟨join first (second :: others), rfl⟩

private theorem ofParts_exists {parts : List (List Condition)} (nonempty : parts ≠ [])
    (each : ∀ factors ∈ parts, factors ≠ []) : ∃ condition, ofParts parts = some condition := by
  obtain ⟨disjuncts, joinedAll⟩ :
      ∃ disjuncts : List Condition, parts.map (joined .all) = disjuncts.map some := by
    clear nonempty
    induction parts with
    | nil => exact ⟨[], rfl⟩
    | cons factors parts ih =>
        obtain ⟨first, firstJoined⟩ := joined_exists .all (each factors List.mem_cons_self)
        obtain ⟨others, othersJoined⟩ :=
          ih (fun factors member => each factors (List.mem_cons_of_mem _ member))
        exact ⟨first :: others, by rw [List.map_cons, firstJoined, othersJoined, List.map_cons]⟩
  have more : disjuncts ≠ [] := by
    rintro rfl
    exact nonempty (List.map_eq_nil_iff.mp joinedAll)
  obtain ⟨condition, joinedAny⟩ := joined_exists .any more
  refine ⟨condition, ?_⟩
  rw [ofParts, (mapM_eq_some_iff _ _ _).mpr joinedAll]
  exact joinedAny

theorem nonempty_of_disjuncts {items : List Item} {parts : List (List Condition)}
    (read : disjuncts items = some parts) :
    parts ≠ [] ∧ ∀ factors ∈ parts, factors ≠ [] := by
  rw [disjuncts_eq_some_iff] at read
  constructor
  · rintro rfl
    exact List.splitOnP_ne_nil _ _ (List.map_eq_nil_iff.mp read)
  · rintro factorsRead member rfl
    have listed : some ([] : List Condition) ∈ parts.map some := List.mem_map_of_mem member
    rw [← read] at listed
    obtain ⟨piece, _, noPieces⟩ := List.mem_map.mp listed
    rw [factors_eq_some_iff] at noPieces
    exact List.splitOnP_ne_nil _ _ (List.map_eq_nil_iff.mp noPieces)

/-! ### Texts -/

theorem parts_eq_some_iff (text : String) (found : List (List Condition)) :
    parts text = some found ↔
      ∃ scanned, Scans text.toList scanned ∧ disjuncts scanned = some found := by
  rw [parts, Option.bind_eq_some_iff]
  exact exists_congr fun scanned => and_congr_left' (items_eq_some_iff text.toList scanned)

/-- What has disjuncts is a condition, and these give its value. -/
theorem read_of_parts {text : String} {found : List (List Condition)}
    (partsRead : parts text = some found) :
    ∃ condition, read text = some condition ∧
      ∀ valuation, condition.value valuation = partsValue valuation found := by
  obtain ⟨scanned, _, cut⟩ := (parts_eq_some_iff text found).mp partsRead
  obtain ⟨nonempty, each⟩ := nonempty_of_disjuncts cut
  obtain ⟨condition, whole⟩ := ofParts_exists nonempty each
  exact ⟨condition, by rw [read, partsRead]; exact whole, value_ofParts whole⟩

theorem toList_spaced (left right : String) :
    (left ++ " " ++ right).toList = left.toList ++ ' ' :: right.toList := by
  rw [String.toList_append, String.toList_append, List.append_assoc]
  rfl

private theorem scans_keyword {name : String}
    (read : tokens name.toList = some [.word name.toList]) :
    Scans name.toList [keyword name] :=
  ⟨read, .single rfl .nil⟩

/-- A connective between two texts, with a blank on either side. -/
theorem scans_connective {left joiner right : String} {found more : List Item} {name : String}
    (spaced : joiner.toList = ' ' :: (name.toList ++ [' ']))
    (read : tokens name.toList = some [.word name.toList]) (begins : opens name.toList = true)
    (first : Scans left.toList found) (second : Scans right.toList more)
    (opening : opens right.toList = true) :
    Scans (left ++ joiner ++ right).toList (found ++ keyword name :: more) := by
  have behind := (scans_keyword read).blank second opening
  have whole := first.blank behind (opens_append _ begins)
  rw [String.toList_append, String.toList_append, spaced, List.append_assoc, List.cons_append,
    List.append_assoc, List.singleton_append]
  exact whole

theorem parts_and {left right : String} {before behind : List (List Condition)}
    {last first : List Condition} (readLeft : parts left = some (before ++ [last]))
    (readRight : parts right = some (first :: behind)) (opening : opens right.toList = true) :
    parts (left ++ " AND " ++ right) = some (before ++ (last ++ first) :: behind) := by
  obtain ⟨leftItems, leftScans, leftCut⟩ := (parts_eq_some_iff _ _).mp readLeft
  obtain ⟨rightItems, rightScans, rightCut⟩ := (parts_eq_some_iff _ _).mp readRight
  have word : tokens "AND".toList = some [.word "AND".toList] := by decide +kernel
  have spaced : " AND ".toList = ' ' :: ("AND".toList ++ [' ']) := by decide
  have scans := scans_connective spaced word (by decide +kernel) leftScans rightScans
    opening
  exact (parts_eq_some_iff _ _).mpr ⟨_, scans, disjuncts_and leftCut rightCut⟩

theorem parts_or {left right : String} {first second : List (List Condition)}
    (readLeft : parts left = some first) (readRight : parts right = some second)
    (opening : opens right.toList = true) :
    parts (left ++ " OR " ++ right) = some (first ++ second) := by
  obtain ⟨leftItems, leftScans, leftCut⟩ := (parts_eq_some_iff _ _).mp readLeft
  obtain ⟨rightItems, rightScans, rightCut⟩ := (parts_eq_some_iff _ _).mp readRight
  have word : tokens "OR".toList = some [.word "OR".toList] := by decide +kernel
  have spaced : " OR ".toList = ' ' :: ("OR".toList ++ [' ']) := by decide
  have scans := scans_connective spaced word (by decide +kernel) leftScans rightScans
    opening
  exact (parts_eq_some_iff _ _).mpr ⟨_, scans, disjuncts_or leftCut rightCut⟩

theorem parts_not {text : String} {part : Condition} (readText : parts text = some [[part]])
    (opening : opens text.toList = true) :
    parts ("NOT" ++ " " ++ text) = some [[.negation part]] := by
  obtain ⟨items, scans, cut⟩ := (parts_eq_some_iff _ _).mp readText
  have word : tokens "NOT".toList = some [.word "NOT".toList] := by decide +kernel
  have whole := (scans_keyword word).blank scans opening
  rw [← toList_spaced] at whole
  exact (parts_eq_some_iff _ _).mpr ⟨_, whole, disjuncts_not cut⟩

def parenthesized (text : String) : String :=
  "(" ++ text ++ ")"

theorem toList_parenthesized (text : String) :
    (parenthesized text).toList = '(' :: (text.toList ++ [')']) := by
  rw [parenthesized, String.toList_append, String.toList_append]
  rfl

theorem parts_parenthesized {text : String} {condition : Condition}
    (readText : read text = some condition) : parts (parenthesized text) = some [[condition]] := by
  obtain ⟨found, partsRead, whole⟩ := Option.bind_eq_some_iff.mp readText
  obtain ⟨items, scans, cut⟩ := (parts_eq_some_iff _ _).mp partsRead
  refine (parts_eq_some_iff _ _).mpr ⟨_, ?_, disjuncts_enclosed cut whole⟩
  rw [toList_parenthesized]
  exact scans.enclosed

end QueryWarden.Condition
