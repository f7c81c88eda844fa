/-
What the scan of patterns makes of a name. Of a name behind a colon it takes the longest start
of ASCII letters, digits and underscores, and the rest of the name ends the pattern; a name
that begins otherwise is not seen at all.
-/

import QueryWarden.Proofs.Condition.Names
import QueryWarden.Proofs.Text.Searching
import QueryWarden.Query.Pattern

namespace QueryWarden.Pattern

open Text

/-! ### Names before a stop -/

private theorem takeName_stop {stop : Char} (stops : isNamePart stop = false)
    (letters tail : List Char) :
    takeName (letters ++ stop :: tail) =
      (takeName letters).map (fun found => (found.1, found.2 ++ stop :: tail)) := by
  cases letters with
  | nil =>
      have noStart : isNameStart stop ≠ true := fun start =>
        Bool.false_ne_true (stops.symm.trans (isNamePart_of_isNameStart start))
      simp only [List.nil_append, takeName, if_neg noStart, Option.map_none]
  | cons letter letters =>
      have ends : ∀ other ∈ (stop :: tail).head?, isNamePart other = false := by
        rintro _ ⟨⟩
        exact stops
      rw [List.cons_append, takeName, takeName, takeWhile_append_of_head? letters ends,
        dropWhile_append_of_head? letters ends]
      split
      · rfl
      · rfl

theorem dropBlanks_eq_self {letters : List Char}
    (begins : ∀ letter ∈ letters.head?, isBlank letter = false) :
    dropBlanks letters = letters := by
  cases letters with
  | nil => rfl
  | cons letter letters =>
      rw [dropBlanks, List.dropWhile_cons, begins letter rfl]
      rfl

/-! ### One pattern -/

def EndsPattern (letter : Char) : Prop :=
  isBlank letter = false ∧ letter ≠ ':' ∧ letter ≠ '|' ∧ letter ≠ '&'

private theorem endsPattern_of_isWord {letter : Char} (inWord : isWord letter = true) :
    EndsPattern letter := by
  have marks : [':', '|', '&'].all (fun mark => isWord mark == false) = true := by decide +kernel
  have apart : ∀ mark ∈ [':', '|', '&'], letter ≠ mark := by
    rintro _ member rfl
    have noWord := eq_of_beq (List.all_eq_true.mp marks letter member)
    exact Bool.false_ne_true (noWord.symm.trans inWord)
  exact ⟨isBlank_of_isWord inWord, apart ':' (by decide), apart '|' (by decide),
    apart '&' (by decide)⟩

theorem separator_eq_none (kind : Kind) {letters : List Char}
    (ends : ∀ letter ∈ (dropBlanks letters).head?, EndsPattern letter) :
    kind.separator letters = none := by
  cases shape : dropBlanks letters with
  | nil =>
      cases kind with
      | node => simp only [Kind.separator, labelSeparator, shape]
      | relationship => simp only [Kind.separator, typeSeparator, shape]
  | cons letter rest =>
      rw [shape] at ends
      obtain ⟨_, noColon, noBar, noAnd⟩ := ends letter rfl
      cases kind with
      | node =>
          simp only [Kind.separator, labelSeparator, shape, noColon, noBar, noAnd, or_self,
            if_false]
      | relationship =>
          simp only [Kind.separator, typeSeparator, shape]
          split
          · next same =>
              cases same
              exact absurd rfl noBar
          · rfl

theorem moreNames_eq (kind : Kind) (letters : List Char) :
    moreNames kind letters =
      match kind.separator letters with
      | none => []
      | some rest =>
          match takeName rest with
          | none => []
          | some (name, rest) => name :: moreNames kind rest := by
  rw [moreNames]
  split
  · next separated => rw [separated]
  · next rest separated =>
      rw [separated]
      dsimp only
      split
      · next named => rw [named]
      · next name more named => rw [named]

theorem moreNames_of_none {kind : Kind} {letters : List Char}
    (ended : kind.separator letters = none) : moreNames kind letters = [] := by
  rw [moreNames_eq, ended]

theorem moreNames_eq_nil (kind : Kind) {letters : List Char}
    (ends : ∀ letter ∈ letters.head?, EndsPattern letter) : moreNames kind letters = [] := by
  have whole : dropBlanks letters = letters :=
    dropBlanks_eq_self fun letter first => (ends letter first).1
  exact moreNames_of_none (separator_eq_none kind (whole.symm ▸ ends))

def namesBehind (kind : Kind) (letters : List Char) : List (List Char) :=
  match takeName letters with
  | some (name, rest) => name :: moreNames kind rest
  | none => []

/-- A pattern with a variable of one letter. -/
theorem namesHere_variable (kind : Kind) {variableName : Char}
    (start : isNameStart variableName = true) (letters : List Char) :
    namesHere kind (variableName :: ':' :: letters) = namesBehind kind (dropBlanks letters) := by
  have whole : dropBlanks (variableName :: ':' :: letters) = variableName :: ':' :: letters := by
    refine dropBlanks_eq_self ?_
    rintro _ ⟨⟩
    exact not_isBlank_of_isNamePart (isNamePart_of_isNameStart start)
  have taken : takeName (variableName :: ':' :: letters) =
      some ([variableName], ':' :: letters) := by
    have noPart : isNamePart ':' = false := by decide
    simp only [takeName, start, if_true, List.takeWhile_cons, List.dropWhile_cons, noPart,
      Bool.false_eq_true, if_false]
  have skipped : skipVariable (variableName :: ':' :: letters) = ':' :: letters := by
    unfold skipVariable
    rw [taken]
  have colon : dropBlanks (':' :: letters) = ':' :: letters := by
    refine dropBlanks_eq_self ?_
    rintro _ ⟨⟩
    decide
  unfold namesHere namesBehind
  rw [whole, skipped, colon]
  rfl

/-- An empty pattern. -/
theorem namesHere_closing (kind : Kind) (letters : List Char) :
    namesHere kind (')' :: letters) = [] := by
  have whole : dropBlanks (')' :: letters) = ')' :: letters := by
    refine dropBlanks_eq_self ?_
    rintro _ ⟨⟩
    decide
  have untaken : takeName (')' :: letters) = none := rfl
  unfold namesHere skipVariable
  rw [whole, untaken]
  simp only [whole]
  rfl

/-- What the scan takes a name for. -/
def scanned? (name : String) : Option String :=
  (takeName name.toList).map (fun found => String.ofList found.1)

/-- A name of word characters and then the end of the pattern. -/
theorem namesBehind_word (kind : Kind) {name : String} {stop : Char} (ends : EndsPattern stop)
    (stops : isNamePart stop = false) (word : ∀ letter ∈ name.toList, isWord letter = true)
    (tail : List Char) :
    (namesBehind kind (dropBlanks (name.toList ++ stop :: tail))).map String.ofList =
      (scanned? name).toList := by
  have endsWord : ∀ letters : List Char, (∀ letter ∈ letters, isWord letter = true) →
      ∀ letter ∈ (letters ++ stop :: tail).head?, EndsPattern letter := by
    intro letters areWord letter first
    cases letters with
    | nil =>
        cases first
        exact ends
    | cons other letters =>
        cases first
        exact endsPattern_of_isWord (areWord letter List.mem_cons_self)
  have whole := dropBlanks_eq_self fun letter first => (endsWord _ word letter first).1
  unfold namesBehind scanned?
  rw [whole, takeName_stop stops]
  cases taken : takeName name.toList with
  | none => rfl
  | some found =>
      obtain ⟨part, rest⟩ := found
      have behind : ∀ letter ∈ rest, isWord letter = true := by
        intro letter member
        refine word letter ?_
        rw [← takeName_append taken]
        exact List.mem_append_right part member
      simp only [Option.map_some, moreNames_eq_nil kind (endsWord rest behind), List.map_cons,
        List.map_nil, Option.toList_some]

/-! ### Whole queries -/

theorem names_append_of_not_mem {kind : Kind} {before : List Char}
    (absent : kind.opening ∉ before) (rest : List Char) :
    names kind (before ++ rest) = names kind rest := by
  induction before with
  | nil => rfl
  | cons letter before ih =>
      obtain ⟨other, others⟩ := not_or.mp (fun member => absent (List.mem_cons.mpr member))
      rw [List.cons_append, names, if_neg fun same => other same.symm, List.nil_append, ih others]

theorem names_of_not_mem {kind : Kind} {letters : List Char} (absent : kind.opening ∉ letters) :
    names kind letters = [] := by
  rw [← List.append_nil letters, names_append_of_not_mem absent]
  rfl

theorem names_opening (kind : Kind) (rest : List Char) :
    names kind (kind.opening :: rest) = namesHere kind rest ++ names kind rest := by
  rw [names, if_pos rfl]

def patternQuery : Kind → String → Query
  | .node, name => ⟨"MATCH (n:" ++ name ++ ") RETURN n"⟩
  | .relationship, name => ⟨"MATCH ()-[r:" ++ name ++ "]->() RETURN r"⟩

theorem opening_not_mem (kind : Kind) {letters : List Char}
    (word : ∀ letter ∈ letters, isWord letter = true) : kind.opening ∉ letters := by
  have outside : isWord kind.opening = false := by
    cases kind with
    | node => decide +kernel
    | relationship => decide +kernel
  exact fun member => Bool.false_ne_true (outside.symm.trans (word _ member))

private theorem toList_patternQuery_node (name : String) :
    (patternQuery .node name).text.toList =
      "MATCH ".toList ++ '(' :: 'n' :: ':' :: (name.toList ++ ')' :: " RETURN n".toList) := by
  have start : "MATCH (n:".toList = "MATCH ".toList ++ ['(', 'n', ':'] := by decide
  have finish : ") RETURN n".toList = ')' :: " RETURN n".toList := by decide
  rw [patternQuery, String.toList_append, String.toList_append, start, finish, List.append_assoc,
    List.append_assoc]
  rfl

private theorem toList_patternQuery_relationship (name : String) :
    (patternQuery .relationship name).text.toList =
      "MATCH ()-".toList ++ '[' :: 'r' :: ':' ::
        (name.toList ++ ']' :: "->() RETURN r".toList) := by
  have start : "MATCH ()-[r:".toList = "MATCH ()-".toList ++ ['[', 'r', ':'] := by decide
  have finish : "]->() RETURN r".toList = ']' :: "->() RETURN r".toList := by decide
  rw [patternQuery, String.toList_append, String.toList_append, start, finish, List.append_assoc,
    List.append_assoc]
  rfl

def betweenNodes (name : String) : List Char :=
  ')' :: '-' :: '[' :: 'r' :: ':' :: (name.toList ++ ']' :: "->".toList)

private theorem toList_patternQuery_nodes (name : String) :
    (patternQuery .relationship name).text.toList =
      "MATCH ".toList ++ '(' :: (betweenNodes name ++ '(' :: ')' :: " RETURN r".toList) := by
  have first : "MATCH ()-".toList = "MATCH ".toList ++ ['(', ')', '-'] := by decide
  have second : "->() RETURN r".toList = "->".toList ++ '(' :: ')' :: " RETURN r".toList := by
    decide
  rw [toList_patternQuery_relationship, first, second]
  simp [betweenNodes]

variable {name : String}

/-- The one pattern with a name is the only one in which there is anything to be seen. -/
theorem map_names_patternQuery (kind : Kind) (word : ∀ letter ∈ name.toList, isWord letter = true) :
    (names kind (patternQuery kind name).text.toList).map String.ofList =
      (scanned? name).toList := by
  have clear := opening_not_mem kind word
  cases kind with
  | node =>
      have rest : names .node ('n' :: ':' :: (name.toList ++ ')' :: " RETURN n".toList)) = [] := by
        refine names_of_not_mem ?_
        simp only [List.mem_cons, List.mem_append, clear]
        decide
      rw [toList_patternQuery_node, names_append_of_not_mem (by decide)]
      change (names .node (Kind.opening .node :: _)).map _ = _
      rw [names_opening, rest, List.append_nil, namesHere_variable _ (by decide)]
      exact namesBehind_word .node ⟨by decide, by decide, by decide, by decide⟩ (by decide) word _
  | relationship =>
      have rest : names .relationship
          ('r' :: ':' :: (name.toList ++ ']' :: "->() RETURN r".toList)) = [] := by
        refine names_of_not_mem ?_
        simp only [List.mem_cons, List.mem_append, clear]
        decide
      rw [toList_patternQuery_relationship, names_append_of_not_mem (by decide)]
      change (names .relationship (Kind.opening .relationship :: _)).map _ = _
      rw [names_opening, rest, List.append_nil, namesHere_variable _ (by decide)]
      exact namesBehind_word .relationship ⟨by decide, by decide, by decide, by decide⟩
        (by decide) word _

private theorem names_patternQuery_of_ne {kind other : Kind} (different : other ≠ kind)
    (word : ∀ letter ∈ name.toList, isWord letter = true) :
    names other (patternQuery kind name).text.toList = [] := by
  have clear := opening_not_mem other word
  cases kind with
  | node =>
      cases other with
      | node => exact absurd rfl different
      | relationship =>
          rw [toList_patternQuery_node]
          refine names_of_not_mem ?_
          simp only [List.mem_cons, List.mem_append, clear]
          decide
  | relationship =>
      cases other with
      | relationship => exact absurd rfl different
      | node =>
          have absent : Kind.opening .node ∉ betweenNodes name := by
            simp only [betweenNodes, List.mem_cons, List.mem_append, clear]
            decide
          rw [toList_patternQuery_nodes, names_append_of_not_mem (by decide)]
          change names .node (Kind.opening .node :: (betweenNodes name ++ _)) = _
          rw [names_opening, names_append_of_not_mem absent]
          change namesHere .node (')' :: _) ++ names .node (Kind.opening .node :: _) = _
          rw [names_opening, namesHere_closing, namesHere_closing]
          exact names_of_not_mem (by decide)

theorem used_patternQuery (kind : Kind) (word : ∀ letter ∈ name.toList, isWord letter = true) :
    used kind (patternQuery kind name).text = (scanned? name).toList := by
  rw [used, map_names_patternQuery kind word]
  cases scanned? name with
  | none => exact sortedSet_nil
  | some part => exact sortedSet_singleton part

theorem used_patternQuery_of_ne {kind other : Kind} (different : other ≠ kind)
    (word : ∀ letter ∈ name.toList, isWord letter = true) :
    used other (patternQuery kind name).text = [] := by
  rw [used, names_patternQuery_of_ne different word, List.map_nil, sortedSet_nil]

end QueryWarden.Pattern
