/-
The predicates of compiled filters. Whatever the names are, the text of a leaf is one atom:
none of its words outside brackets is a connective, not even where a property is called
like one. Its number can be told from its tokens, and so the atoms of leaves with different
numbers are different.
-/

import QueryWarden.Filter.Compile
import QueryWarden.Proofs.Condition.Composition
import QueryWarden.Proofs.Condition.Names
import QueryWarden.Proofs.Number.Numeral

namespace QueryWarden

open Text Condition Number

/-! ### Words that are no connectives -/

namespace Condition

/-- A letter that no connective has, in either case, makes a word plain. -/
theorem isPlain_word {letters : List Char} {letter : Char} (member : letter ∈ letters)
    (caseless : letter.toUpper = letter)
    (foreign : ∀ name ∈ connectives, letter ∉ name.toList) :
    (Item.single (.word letters)).isPlain = true := by
  rw [Item.isPlain, Bool.not_eq_true', List.any_eq_false]
  intro name known same
  have equal : letters.map Char.toUpper = name.toList := eq_of_beq same
  refine foreign name known ?_
  rw [← equal, ← caseless]
  exact List.mem_map_of_mem member

private theorem toUpper_of_isDigit {letter : Char} (digit : letter.isDigit = true) :
    letter.toUpper = letter := by
  have codes := toNat_of_isDigit digit
  have notLower : ¬(97 ≤ letter.toNat ∧ letter.toNat ≤ 122) := by omega
  exact dif_neg notLower

def Token.isParameter : Token → Bool
  | .word ('$' :: _) => true
  | _ => false

def Token.letters : Token → List Char
  | .word letters => letters
  | _ => []

/-! ### Pieces of atoms -/

/-- The text has these items, none of which is a connective, and it stands apart from what
is before it. -/
structure Piece (text : String) (found : List Item) : Prop where
  scans : Scans text.toList found
  opens : opens text.toList = true
  plain : ∀ item ∈ found, item.isPlain = true

theorem itemTokens_single (found : List Token) : itemTokens (found.map .single) = found := by
  rw [itemTokens, List.flatMap_map]
  exact List.flatMap_singleton' found

theorem Piece.of_tokens {text : String} {found : List Token}
    (read : tokens text.toList = some found) (opening : Condition.opens text.toList = true)
    (single : ∀ token ∈ found, token.isBracket = false)
    (plain : ∀ token ∈ found, (Item.single token).isPlain = true) :
    Piece text (found.map .single) := by
  have nested : Nested found (found.map .single) := by
    clear read plain
    induction found with
    | nil => exact .nil
    | cons token found ih =>
        exact .single (single token List.mem_cons_self)
          (ih (fun other member => single other (List.mem_cons_of_mem token member)))
  refine ⟨⟨?_, ?_⟩, opening, ?_⟩
  · rw [itemTokens_single]
    exact read
  · rw [itemTokens_single]
    exact nested
  · intro item member
    obtain ⟨token, inside, rfl⟩ := List.mem_map.mp member
    exact plain token inside

theorem plain_append {left right : List Item} (first : ∀ item ∈ left, item.isPlain = true)
    (second : ∀ item ∈ right, item.isPlain = true) :
    ∀ item ∈ left ++ right, item.isPlain = true := by
  intro item member
  rcases List.mem_append.mp member with inLeft | inRight
  · exact first item inLeft
  · exact second item inRight

theorem Piece.blank {left right : String} {found more : List Item} (first : Piece left found)
    (second : Piece right more) : Piece (left ++ " " ++ right) (found ++ more) := by
  refine ⟨?_, ?_, plain_append first.plain second.plain⟩
  · rw [toList_spaced]
    exact first.scans.blank second.scans second.opens
  · rw [toList_spaced]
    exact opens_append _ first.opens

/-- Parentheses need no blank before them, and what they hold need not be plain. -/
theorem Piece.call {left inner : String} {found more : List Item} (first : Piece left found)
    (inside : Scans inner.toList more) :
    Piece (left ++ ("(" ++ inner ++ ")")) (found ++ [enclosed more]) := by
  have letters : ("(" ++ inner ++ ")").toList = '(' :: (inner.toList ++ [')']) :=
    toList_parenthesized inner
  refine ⟨?_, ?_, plain_append first.plain ?_⟩
  · rw [String.toList_append, letters]
    exact first.scans.append inside.enclosed rfl (by decide +kernel)
  · rw [String.toList_append]
    exact opens_append _ first.opens
  · intro item member
    cases List.mem_singleton.mp member
    rfl

theorem Piece.disjuncts {text : String} {found : List Item} (piece : Piece text found)
    (several : 2 ≤ found.length) :
    Condition.disjuncts found = some [[.atom (itemTokens found)]] := by
  match found with
  | first :: second :: others =>
      exact disjuncts_of_plain piece.plain (.inl (List.cons_ne_nil second others))

end Condition

/-! ### Names and operators -/

namespace Compiler

variable (compiler : Compiler)

private theorem piece_property (key : Identifier) :
    Piece (compiler.property key)
      [.single (.word (compiler.node.word ++ '.' :: key.word))] := by
  have letters : (compiler.property key).toList =
      compiler.node.name.toList ++ '.' :: key.name.toList := by
    rw [property, String.toList_append, String.toList_append, List.append_assoc]
    rfl
  have read : tokens (compiler.property key).toList =
      some [.word (compiler.node.word ++ '.' :: key.word)] := by
    rw [letters, tokens_property]
  refine Piece.of_tokens read ?_ ?_ ?_
  · obtain ⟨first, rest, tail, _, shape, starts, _, _⟩ := compiler.node.shape
    have part := isNamePart_of_isNameStart starts
    have notPoint : first ≠ '.' := by
      rintro rfl
      cases starts
    rw [letters, shape]
    exact Bool.and_eq_true_iff.mpr
      ⟨(Bool.not_eq_true' _).mpr (not_isBlank_of_isNamePart part), bne_iff_ne.mpr notPoint⟩
  · intro token member
    cases List.mem_singleton.mp member
    rfl
  · intro token member
    cases List.mem_singleton.mp member
    exact isPlain_word (List.mem_append_right _ List.mem_cons_self) (by decide) (by decide)

def referenceTokens (index : Nat) : List Token :=
  parameterWords compiler.stem (decimalDigits index)

private theorem isPlain_numeral (index : Nat) :
    (Item.single (.word (decimalDigits index))).isPlain = true := by
  obtain ⟨digit, member⟩ := List.exists_mem_of_ne_nil _ (decimalDigits_ne_nil index)
  have numeral := isDigit_of_mem_decimalDigits member
  refine isPlain_word member (toUpper_of_isDigit numeral) ?_
  intro name known inside
  have letters : ∀ name ∈ connectives, name.toList.any Char.isDigit = false := by decide
  exact List.any_eq_false.mp (letters name known) digit inside numeral

theorem mem_parameterWords {stem : Identifier} {digits : List Char} {token : Token}
    (member : token ∈ parameterWords stem digits) :
    (∃ letters, token = .word ('$' :: letters)) ∨ token = .word digits := by
  unfold parameterWords at member
  split at member
  · cases List.mem_singleton.mp member
    exact .inl ⟨_, rfl⟩
  · rcases List.mem_cons.mp member with rfl | rest
    · exact .inl ⟨_, rfl⟩
    · exact .inr (List.mem_singleton.mp rest)

private theorem piece_reference (index : Nat) :
    Piece (compiler.reference index) ((compiler.referenceTokens index).map .single) := by
  have letters : (compiler.reference index).toList =
      '$' :: (compiler.stem.name.toList ++ decimalDigits index) := by
    rw [reference, parameter, String.toList_append, String.toList_append]
    rfl
  refine Piece.of_tokens ?_ ?_ ?_ ?_
  · rw [letters]
    exact tokens_parameter _ (decimalDigits_ne_nil index)
      (fun _ member => isDigit_of_mem_decimalDigits member)
  · rw [letters]
    rfl
  · intro token member
    rcases mem_parameterWords member with ⟨letters, rfl⟩ | rfl <;> rfl
  · intro token member
    rcases mem_parameterWords member with ⟨letters, rfl⟩ | rfl
    · exact isPlain_word List.mem_cons_self (by decide) (by decide)
    · exact isPlain_numeral index

/-! ### The numbers of atoms -/

def Numbered (index : Nat) (tokens : List Token) : Prop :=
  ∃ before behind, tokens = before ++ compiler.referenceTokens index ++ behind ∧
    (∀ token ∈ before, token.isParameter = false) ∧ behind.flatMap Token.letters = []

def number (tokens : List Token) : Nat :=
  Nat.ofDigitChars 10
    (((tokens.dropWhile fun token => !token.isParameter).flatMap Token.letters).drop
      (compiler.stem.word.length + 1)) 0

private theorem letters_parameterWords (stem : Identifier) (digits : List Char) :
    (parameterWords stem digits).flatMap Token.letters = '$' :: stem.word ++ digits := by
  unfold parameterWords
  split
  · exact List.append_nil _
  · exact congrArg (('$' :: stem.word) ++ ·) (List.append_nil digits)

theorem referenceTokens_starts (index : Nat) :
    ∃ letters others, compiler.referenceTokens index = .word ('$' :: letters) :: others := by
  unfold referenceTokens parameterWords
  split
  · exact ⟨_, _, rfl⟩
  · exact ⟨_, _, rfl⟩

theorem number_of_numbered {index : Nat} {tokens : List Token}
    (numbered : compiler.Numbered index tokens) : compiler.number tokens = index := by
  obtain ⟨before, behind, rfl, free, wordless⟩ := numbered
  have kept : (before ++ compiler.referenceTokens index ++ behind).dropWhile
      (fun token => !token.isParameter) = compiler.referenceTokens index ++ behind := by
    rw [List.append_assoc, List.dropWhile_append_of_pos]
    · obtain ⟨letters, others, starts⟩ := compiler.referenceTokens_starts index
      rw [starts]
      rfl
    · intro token member
      rw [free token member]
      rfl
  rw [number, kept, List.flatMap_append, wordless, List.append_nil, referenceTokens,
    letters_parameterWords, List.cons_append, List.drop_succ_cons, List.drop_left, decimalDigits_eq,
    Nat.ofDigitChars_ten_toDigits]

end Compiler

/-! ### Leaves -/

/-- The leaves that a clause writes as one atom. -/
def Filter.isPredicate : Filter → Bool
  | .compare _ _ _ | .compareFolded _ _ _ | .matching _ _ | .anyLabel _ _ => true
  | .oneOf negated _ _ => !negated
  | .all _ _ | .any _ _ | .negation _ | .bare _ _ => false

namespace Compiler

variable (compiler : Compiler)

def atom (leaf : Filter) (index : Nat) : List Token :=
  (tokens (compiler.text leaf index).toList).getD []

structure LeafText (text : String) (index : Nat) (found : List Item) : Prop where
  piece : Piece text found
  several : 2 ≤ found.length
  numbered : compiler.Numbered index (itemTokens found)

variable {compiler}

def Free (found : List Item) : Prop :=
  ∀ token ∈ itemTokens found, token.isParameter = false

theorem Free.append {left right : List Item} (first : Free left) (second : Free right) :
    Free (left ++ right) := by
  intro token member
  rw [itemTokens_append] at member
  rcases List.mem_append.mp member with inLeft | inRight
  · exact first token inLeft
  · exact second token inRight

theorem Free.enclosed {found : List Item} (free : Free found) :
    Free [Condition.enclosed found] := by
  intro token member
  have shape : token ∈ Token.opening .round :: (itemTokens found ++ [.closing .round]) := by
    rw [← List.append_nil (_ :: _)]
    exact member
  rcases List.mem_cons.mp shape with rfl | inside
  · rfl
  · rcases List.mem_append.mp inside with inner | last
    · exact free token inner
    · cases List.mem_singleton.mp last
      rfl

/-- What is compared with a parameter, and the operator in between. -/
theorem leafText_of_operator {left operator : String} {leftItems operatorItems : List Item}
    (index : Nat) (leftPiece : Piece left leftItems) (operatorPiece : Piece operator operatorItems)
    (nonempty : leftItems ≠ []) (leftFree : Free leftItems) (operatorFree : Free operatorItems) :
    compiler.LeafText (left ++ " " ++ operator ++ " " ++ compiler.reference index) index
      (leftItems ++ operatorItems ++ (compiler.referenceTokens index).map .single) := by
  refine ⟨(leftPiece.blank operatorPiece).blank (compiler.piece_reference index), ?_, ?_⟩
  · have left : 0 < leftItems.length := List.length_pos_iff.mpr nonempty
    have reference : 0 < (compiler.referenceTokens index).length := by
      unfold referenceTokens parameterWords
      split
      · exact Nat.one_pos
      · exact Nat.two_pos
    rw [List.length_append, List.length_append, List.length_map]
    omega
  · refine ⟨itemTokens (leftItems ++ operatorItems), [], ?_, leftFree.append operatorFree, rfl⟩
    rw [itemTokens_append, itemTokens_single, List.append_nil]

private theorem free_word {first : Char} {rest : List Char} (starts : isNameStart first = true) :
    Free [.single (.word (first :: rest))] := by
  intro token member
  cases List.mem_singleton.mp member
  have notDollar : first ≠ '$' := by
    rintro rfl
    cases starts
  unfold Token.isParameter
  split
  · next same => exact absurd (List.cons.inj (Token.word.inj same)).1 notDollar
  · rfl

private theorem free_property (key : Identifier) :
    Free [.single (.word (compiler.node.word ++ '.' :: key.word))] := by
  obtain ⟨first, rest, tail, word, _, starts, _, _⟩ := compiler.node.shape
  rw [word]
  exact free_word starts

private theorem scans_node (compiler : Compiler) :
    Scans compiler.node.name.toList [.single (.word compiler.node.word)] :=
  ⟨tokens_identifier compiler.node, .single rfl .nil⟩

private theorem free_node (compiler : Compiler) : Free [.single (.word compiler.node.word)] := by
  obtain ⟨first, rest, tail, word, _, starts, _, _⟩ := compiler.node.shape
  rw [word]
  exact free_word starts

def FreePiece (text : String) : Prop :=
  ∃ found, Piece text found ∧ Free found ∧ found ≠ []

def isFixed (token : Token) : Bool :=
  !token.isBracket && (Item.single token).isPlain && !token.isParameter

def isFixedText (text : String) : Bool :=
  match tokens text.toList with
  | some (first :: others) => opens text.toList && (first :: others).all isFixed
  | _ => false

theorem freePiece_of_fixed {text : String} (fixed : isFixedText text = true) :
    FreePiece text := by
  unfold isFixedText at fixed
  split at fixed
  · next first others read =>
      simp only [Bool.and_eq_true, List.all_eq_true, isFixed, Bool.not_eq_true'] at fixed
      obtain ⟨opening, each⟩ := fixed
      refine ⟨(first :: others).map .single, .of_tokens read opening
        (fun token member => (each token member).1.1)
        (fun token member => (each token member).1.2), ?_, List.cons_ne_nil _ _⟩
      intro token member
      rw [itemTokens_single] at member
      exact (each token member).2
  · cases fixed

private theorem freePiece_symbol (comparison : Comparison) : FreePiece comparison.symbol := by
  cases comparison <;> exact freePiece_of_fixed (by decide +kernel)

private theorem freePiece_foldedSymbol (comparison : FoldedComparison) :
    FreePiece comparison.symbol := by
  cases comparison <;> exact freePiece_of_fixed (by decide +kernel)

theorem freePiece_property (key : Identifier) : FreePiece (compiler.property key) :=
  ⟨_, compiler.piece_property key, free_property key, List.cons_ne_nil _ _⟩

theorem FreePiece.call {left inner : String} {more : List Item} (first : FreePiece left)
    (inside : Scans inner.toList more) (free : Free more) :
    FreePiece (left ++ ("(" ++ inner ++ ")")) := by
  obtain ⟨found, piece, leftFree, _⟩ := first
  exact ⟨_, piece.call inside, leftFree.append free.enclosed,
    List.append_ne_nil_of_right_ne_nil _ (List.cons_ne_nil _ _)⟩

theorem leafText_of_freePiece {left operator : String} (index : Nat)
    (leftPiece : FreePiece left) (operatorPiece : FreePiece operator) :
    ∃ found, compiler.LeafText (left ++ " " ++ operator ++ " " ++ compiler.reference index)
      index found := by
  obtain ⟨leftItems, leftRead, leftFree, nonempty⟩ := leftPiece
  obtain ⟨operatorItems, operatorRead, operatorFree, _⟩ := operatorPiece
  exact ⟨_, leafText_of_operator index leftRead operatorRead nonempty leftFree operatorFree⟩

/-- A leaf inside the parentheses of a function. -/
theorem LeafText.call {left inner : String} {index : Nat} {found : List Item}
    (leftPiece : FreePiece left) (inside : compiler.LeafText inner index found) :
    ∃ found, compiler.LeafText (left ++ ("(" ++ inner ++ ")")) index found := by
  obtain ⟨leftItems, leftRead, leftFree, nonempty⟩ := leftPiece
  refine ⟨_, leftRead.call inside.piece.scans, ?_, ?_⟩
  · have more : 0 < leftItems.length := List.length_pos_iff.mpr nonempty
    rw [List.length_append, List.length_singleton]
    omega
  · obtain ⟨before, behind, tokens, free, wordless⟩ := inside.numbered
    refine ⟨itemTokens leftItems ++ .opening .round :: before, behind ++ [.closing .round],
      ?_, ?_, ?_⟩
    · rw [itemTokens_append]
      change _ ++ (Token.opening .round :: (itemTokens found ++ [.closing .round]) ++ []) = _
      rw [tokens]
      simp only [List.append_assoc, List.cons_append, List.append_nil]
    · intro token member
      rcases List.mem_append.mp member with inLeft | rest
      · exact leftFree token inLeft
      · rcases List.mem_cons.mp rest with rfl | inBefore
        · rfl
        · exact free token inBefore
    · rw [List.flatMap_append, wordless]
      rfl

/-! The texts of leaves with their pieces told apart. -/

private theorem text_compareFolded (comparison : FoldedComparison) (key : Identifier)
    (value : Value)
    (index : Nat) :
    compiler.text (.compareFolded comparison key value) index =
      "toLower" ++ ("(" ++ compiler.property key ++ ")") ++ " " ++ comparison.symbol ++ " " ++
        compiler.reference index := by
  change "toLower(" ++ compiler.property key ++ ") " ++ comparison.symbol ++ " " ++
    compiler.reference index = _
  simp only [← String.toList_inj, String.toList_append, List.append_assoc]
  rfl

private theorem text_oneOf (key : Identifier) (values : List Value) (index : Nat) :
    compiler.text (.oneOf false key values) index =
      compiler.property key ++ " " ++ "IN" ++ " " ++ compiler.reference index := by
  change "" ++ compiler.property key ++ " IN " ++ compiler.reference index = _
  simp only [← String.toList_inj, String.toList_append, List.append_assoc]
  rfl

theorem text_notOneOf (key : Identifier) (values : List Value) (index : Nat) :
    compiler.text (.oneOf true key values) index =
      "NOT" ++ " " ++ compiler.text (.oneOf false key values) index := by
  change "NOT " ++ compiler.property key ++ " IN " ++ compiler.reference index =
    "NOT" ++ " " ++ ("" ++ compiler.property key ++ " IN " ++ compiler.reference index)
  simp only [← String.toList_inj, String.toList_append, List.append_assoc]
  rfl

private theorem text_matching (key : Identifier) (pattern : Value) (index : Nat) :
    compiler.text (.matching key pattern) index =
      compiler.property key ++ " " ++ "=~" ++ " " ++ compiler.reference index := by
  change compiler.property key ++ " =~ " ++ compiler.reference index = _
  simp only [← String.toList_inj, String.toList_append, List.append_assoc]
  rfl

private theorem text_anyLabel (first : Value) (others : List Value) (index : Nat) :
    compiler.text (.anyLabel first others) index =
      "ANY" ++ ("(" ++ ("label IN labels" ++ ("(" ++ compiler.node.name ++ ")") ++ " " ++
        "WHERE label IN" ++ " " ++ compiler.reference index) ++ ")") := by
  change "ANY(label IN labels(" ++ compiler.node.name ++ ") WHERE label IN " ++
    compiler.reference index ++ ")" = _
  simp only [← String.toList_inj, String.toList_append, List.append_assoc]
  rfl

/-- The text of every leaf is one numbered atom. -/
theorem leafText (leaf : Filter) (index : Nat) (predicate : leaf.isPredicate = true) :
    ∃ found, compiler.LeafText (compiler.text leaf index) index found := by
  cases leaf with
  | compare comparison key value =>
      exact leafText_of_freePiece index (freePiece_property key) (freePiece_symbol comparison)
  | compareFolded comparison key value =>
      have function : FreePiece "toLower" := freePiece_of_fixed (by decide +kernel)
      have lowered := function.call (compiler.piece_property key).scans (free_property key)
      rw [text_compareFolded]
      exact leafText_of_freePiece index lowered (freePiece_foldedSymbol comparison)
  | oneOf negated key values =>
      cases negated with
      | true => cases predicate
      | false =>
          have among : FreePiece "IN" := freePiece_of_fixed (by decide +kernel)
          rw [text_oneOf]
          exact leafText_of_freePiece index (freePiece_property key) among
  | matching key pattern =>
      have operator : FreePiece "=~" := freePiece_of_fixed (by decide +kernel)
      rw [text_matching]
      exact leafText_of_freePiece index (freePiece_property key) operator
  | anyLabel first others =>
      have quantifier : FreePiece "ANY" := freePiece_of_fixed (by decide +kernel)
      have function : FreePiece "label IN labels" := freePiece_of_fixed (by decide +kernel)
      have among : FreePiece "WHERE label IN" := freePiece_of_fixed (by decide +kernel)
      have labels := function.call (scans_node compiler) (free_node compiler)
      obtain ⟨found, inside⟩ := leafText_of_freePiece index labels among
      rw [text_anyLabel]
      exact inside.call quantifier
  | all first others => cases predicate
  | any first others => cases predicate
  | negation part => cases predicate
  | bare kind mark => cases predicate

end Compiler

end QueryWarden
