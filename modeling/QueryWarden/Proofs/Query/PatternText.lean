/-
Texts that are made of patterns. A pattern is written with or without a variable, names and a
tail, with any blanks between them, and patterns stand in text without any opening. From such a
text the scan takes the names of each pattern, and nothing else.
-/

import QueryWarden.Proofs.Identifier
import QueryWarden.Proofs.Query.Pattern
import QueryWarden.Proofs.Text.Words

namespace QueryWarden.Pattern

open Text

/-! ### Patterns as they are written -/

def Kind.closing : Kind → Char
  | .node => ')'
  | .relationship => ']'

def NoOpening (letters : List Char) : Prop :=
  ∀ kind : Kind, kind.opening ∉ letters

def endingMarks : List Char :=
  ['{', '*', ')', ']']

def patternMarks : List Char :=
  [':', '|', '&'] ++ endingMarks

structure Blanks where
  letters : List Char
  blank : ∀ letter ∈ letters, isBlank letter = true

structure Name where
  text : String
  plain : PlainName text

def Name.letters (name : Name) : List Char :=
  name.text.toList

inductive Separator : Kind → Type where
  | label (before : Blanks) (mark : Char) (separates : mark = ':' ∨ mark = '|' ∨ mark = '&')
      (behind : Blanks) : Separator .node
  | bar (before behind : Blanks) : Separator .relationship
  | barColon (before between behind : Blanks) : Separator .relationship

def Separator.letters {kind : Kind} : Separator kind → List Char
  | .label before mark _ behind => before.letters ++ mark :: behind.letters
  | .bar before behind => before.letters ++ '|' :: behind.letters
  | .barColon before between behind =>
      before.letters ++ '|' :: (between.letters ++ ':' :: behind.letters)

structure NameList (kind : Kind) where
  before : Blanks
  behind : Blanks
  first : Name
  others : List (Separator kind × Name)

def furtherLetters {kind : Kind} (others : List (Separator kind × Name)) : List Char :=
  others.flatMap (fun other => other.1.letters ++ other.2.letters)

namespace NameList

variable {kind : Kind}

def letters (list : NameList kind) : List Char :=
  list.before.letters ++
    ':' :: (list.behind.letters ++ (list.first.letters ++ furtherLetters list.others))

def names (list : NameList kind) : List String :=
  list.first.text :: list.others.map (fun other => other.2.text)

end NameList

structure Tail where
  mark : Char
  rest : List Char
  begins : mark = '{' ∨ mark = '*'
  noOpening : NoOpening rest

def Tail.letters (tail : Tail) : List Char :=
  tail.mark :: tail.rest

/-- A pattern between its opening and its closing. -/
structure Written (kind : Kind) where
  opened : Blanks
  variableName : Option Name
  list : Option (NameList kind)
  before : Blanks
  tail : Option Tail
  behind : Blanks

namespace Written

variable {kind : Kind}

def ending (written : Written kind) : List Char :=
  written.before.letters ++
    (written.tail.elim [] Tail.letters ++ (written.behind.letters ++ [kind.closing]))

def body (written : Written kind) : List Char :=
  written.opened.letters ++ (written.variableName.elim [] Name.letters ++
    (written.list.elim [] NameList.letters ++ written.ending))

def names (written : Written kind) : List String :=
  written.list.elim [] NameList.names

end Written

inductive Piece where
  | between (letters : List Char) (noOpening : NoOpening letters)
  | pattern (kind : Kind) (written : Written kind)

namespace Piece

def letters : Piece → List Char
  | between letters _ => letters
  | pattern kind written => kind.opening :: written.body

def names (kind : Kind) : Piece → List String
  | between _ _ => []
  | pattern other written => if other = kind then written.names else []

end Piece

def queryOf (pieces : List Piece) : Query :=
  ⟨String.ofList (pieces.flatMap Piece.letters)⟩

/-! ### Blanks, names and marks -/

theorem not_isBlank_of_mark {mark : Char} (known : mark ∈ patternMarks) : isBlank mark = false := by
  have all : patternMarks.all (fun mark => !isBlank mark) = true := by decide
  exact Bool.not_eq_true' _ |>.mp (List.all_eq_true.mp all mark known)

private theorem not_isNamePart_of_mark {mark : Char} (known : mark ∈ patternMarks) :
    isNamePart mark = false := by
  have all : patternMarks.all (fun mark => !isNamePart mark) = true := by decide
  exact Bool.not_eq_true' _ |>.mp (List.all_eq_true.mp all mark known)

theorem mem_patternMarks_of_ends {mark : Char} (ends : mark ∈ endingMarks) :
    mark ∈ patternMarks :=
  List.mem_append_right _ ends

theorem endsPattern_of_mem {mark : Char} (ends : mark ∈ endingMarks) : EndsPattern mark := by
  have apart : endingMarks.all (fun mark => mark != ':' && mark != '|' && mark != '&') = true := by
    decide
  have each := List.all_eq_true.mp apart mark ends
  simp only [Bool.and_eq_true, bne_iff_ne] at each
  exact ⟨not_isBlank_of_mark (mem_patternMarks_of_ends ends), each.1.1, each.1.2, each.2⟩

theorem Kind.closing_mem (kind : Kind) : kind.closing ∈ endingMarks := by
  cases kind with
  | node => decide
  | relationship => decide

theorem Tail.mark_mem (tail : Tail) : tail.mark ∈ endingMarks := by
  rcases tail.begins with same | same
  · rw [same]
    decide
  · rw [same]
    decide

theorem mem_patternMarks_of_separates {mark : Char}
    (separates : mark = ':' ∨ mark = '|' ∨ mark = '&') : mark ∈ patternMarks := by
  rcases separates with rfl | rfl | rfl
  · decide
  · decide
  · decide

theorem Blanks.dropBlanks_append (blanks : Blanks) {rest : List Char}
    (begins : ∀ letter ∈ rest.head?, isBlank letter = false) :
    dropBlanks (blanks.letters ++ rest) = rest := by
  rw [dropBlanks_blanks_append blanks.blank, dropBlanks_eq_self begins]

theorem Blanks.dropBlanks_mark (blanks : Blanks) {mark : Char} (known : mark ∈ patternMarks)
    (rest : List Char) : dropBlanks (blanks.letters ++ mark :: rest) = mark :: rest := by
  refine blanks.dropBlanks_append fun letter first => ?_
  cases first
  exact not_isBlank_of_mark known

/-- No name goes on with blanks or with a mark. -/
theorem Blanks.stops (blanks : Blanks) {mark : Char} (known : mark ∈ patternMarks)
    (rest : List Char) :
    ∀ letter ∈ (blanks.letters ++ mark :: rest).head?, isNamePart letter = false := by
  intro letter first
  cases shape : blanks.letters with
  | nil =>
      rw [shape] at first
      cases first
      exact not_isNamePart_of_mark known
  | cons other others =>
      rw [shape] at first
      cases first
      have blank := blanks.blank letter (shape ▸ List.mem_cons_self)
      refine Bool.eq_false_iff.mpr fun part => ?_
      exact Bool.false_ne_true ((not_isBlank_of_isNamePart part).symm.trans blank)

theorem Name.parts (name : Name) : ∀ letter ∈ name.letters, isNamePart letter = true := by
  obtain ⟨first, others, same, start, parts⟩ := name.plain
  rw [Name.letters, same]
  exact List.forall_mem_cons.mpr ⟨isNamePart_of_isNameStart start, parts⟩

theorem Name.takeName_append (name : Name) {rest : List Char}
    (stops : ∀ letter ∈ rest.head?, isNamePart letter = false) :
    takeName (name.letters ++ rest) = some (name.letters, rest) := by
  obtain ⟨first, others, same, start, parts⟩ := name.plain
  have leading : LeadingRun isNamePart others rest := ⟨parts, stops⟩
  rw [Name.letters, same, List.cons_append, takeName, if_pos start, leading.takeWhile_eq,
    leading.dropWhile_eq]

theorem Name.head_isNamePart (name : Name) (rest : List Char) :
    ∀ letter ∈ (name.letters ++ rest).head?, isNamePart letter = true := by
  intro letter first
  obtain ⟨start, others, same, _⟩ := name.plain
  have parts := name.parts
  rw [Name.letters, same] at first parts
  cases first
  exact parts letter List.mem_cons_self

theorem Name.begins (name : Name) (rest : List Char) :
    ∀ letter ∈ (name.letters ++ rest).head?, isBlank letter = false :=
  fun letter first => not_isBlank_of_isNamePart (name.head_isNamePart rest letter first)

/-! ### Names behind one another -/

private theorem moreNames_of_some {kind : Kind} {letters rest name more : List Char}
    (separated : kind.separator letters = some rest) (taken : takeName rest = some (name, more)) :
    moreNames kind letters = name :: moreNames kind more := by
  rw [moreNames_eq, separated]
  dsimp only
  rw [taken]

variable {kind : Kind}

/-- A separator before a name is skipped together with its blanks. -/
theorem Separator.separator_append (separator : Separator kind) (name : Name) (rest : List Char) :
    kind.separator (separator.letters ++ (name.letters ++ rest)) = some (name.letters ++ rest) := by
  have begins := name.begins rest
  cases separator with
  | label before mark separates behind =>
      have known := mem_patternMarks_of_separates separates
      rw [Separator.letters, List.append_assoc, List.cons_append, Kind.separator, labelSeparator,
        before.dropBlanks_mark known]
      simp only [if_pos separates, behind.dropBlanks_append begins]
  | bar before behind =>
      rw [Separator.letters, List.append_assoc, List.cons_append, Kind.separator, typeSeparator,
        before.dropBlanks_mark (by decide)]
      simp only [behind.dropBlanks_append begins]
      split
      · next same =>
          have part := name.head_isNamePart rest ':' (by rw [same]; rfl)
          exact absurd part (by decide)
      · rfl
  | barColon before between behind =>
      have colon : ':' ∈ patternMarks := by decide
      rw [Separator.letters, List.append_assoc, List.cons_append, List.append_assoc,
        List.cons_append, Kind.separator, typeSeparator, before.dropBlanks_mark (by decide)]
      simp only [between.dropBlanks_mark colon, behind.dropBlanks_append begins]

theorem Separator.stops (separator : Separator kind) (rest : List Char) :
    ∀ letter ∈ (separator.letters ++ rest).head?, isNamePart letter = false := by
  cases separator with
  | label before mark separates behind =>
      rw [Separator.letters, List.append_assoc]
      exact before.stops (mem_patternMarks_of_separates separates) _
  | bar before behind =>
      rw [Separator.letters, List.append_assoc]
      exact before.stops (by decide) _
  | barColon before between behind =>
      rw [Separator.letters, List.append_assoc]
      exact before.stops (by decide) _

structure EndsNames (kind : Kind) (rest : List Char) : Prop where
  stops : ∀ letter ∈ rest.head?, isNamePart letter = false
  ended : kind.separator rest = none

private theorem furtherLetters_stops (others : List (Separator kind × Name)) {rest : List Char}
    (ends : EndsNames kind rest) :
    ∀ letter ∈ (furtherLetters others ++ rest).head?, isNamePart letter = false := by
  cases others with
  | nil => exact ends.stops
  | cons other others =>
      rw [furtherLetters, List.flatMap_cons, List.append_assoc, List.append_assoc]
      exact other.1.stops _

private theorem moreNames_furtherLetters (others : List (Separator kind × Name)) {rest : List Char}
    (ends : EndsNames kind rest) :
    moreNames kind (furtherLetters others ++ rest) =
      others.map (fun other => other.2.letters) := by
  induction others with
  | nil => exact moreNames_of_none ends.ended
  | cons other others ih =>
      have taken := other.2.takeName_append (furtherLetters_stops others ends)
      have separated := other.1.separator_append other.2 (furtherLetters others ++ rest)
      rw [List.map_cons, ← ih, ← moreNames_of_some separated taken, furtherLetters,
        List.flatMap_cons, List.append_assoc, List.append_assoc]
      rfl

/-! ### One pattern -/

def Blanks.append (first second : Blanks) : Blanks where
  letters := first.letters ++ second.letters
  blank := List.forall_mem_append.mpr ⟨first.blank, second.blank⟩

/-- Behind the names stand blanks and then one of the marks of an ending. -/
theorem Written.exists_ending (written : Written kind) (rest : List Char) :
    ∃ (blanks : Blanks) (mark : Char) (more : List Char),
      written.ending ++ rest = blanks.letters ++ mark :: more ∧ mark ∈ endingMarks := by
  unfold Written.ending
  cases written.tail with
  | none =>
      refine ⟨written.before.append written.behind, kind.closing, rest, ?_, kind.closing_mem⟩
      simp [Blanks.append]
  | some tail =>
      refine ⟨written.before, tail.mark,
        tail.rest ++ (written.behind.letters ++ [kind.closing]) ++ rest, ?_, tail.mark_mem⟩
      simp [Tail.letters]

private theorem Written.endsNames (written : Written kind) (rest : List Char) :
    EndsNames kind (written.ending ++ rest) := by
  obtain ⟨blanks, mark, more, shape, ends⟩ := written.exists_ending rest
  have known := mem_patternMarks_of_ends ends
  rw [shape]
  refine ⟨blanks.stops known more, separator_eq_none kind ?_⟩
  rw [blanks.dropBlanks_mark known]
  rintro _ ⟨⟩
  exact endsPattern_of_mem ends

/-- The scan comes to the first letter that is neither of the variable nor blank. -/
theorem skipVariable_append (opened blanks : Blanks) (variableName : Option Name) {mark : Char}
    (known : mark ∈ patternMarks) (more : List Char) :
    dropBlanks (skipVariable (dropBlanks (opened.letters ++
        (variableName.elim [] Name.letters ++ (blanks.letters ++ mark :: more))))) =
      mark :: more := by
  cases variableName with
  | none =>
      have noPart := not_isNamePart_of_mark known
      have noStart : isNameStart mark ≠ true := fun start =>
        Bool.false_ne_true (noPart.symm.trans (isNamePart_of_isNameStart start))
      have untaken : takeName (mark :: more) = none := by rw [takeName, if_neg noStart]
      rw [Option.elim_none, List.nil_append, dropBlanks_blanks_append opened.blank,
        blanks.dropBlanks_mark known, skipVariable, untaken]
      refine dropBlanks_eq_self fun letter first => ?_
      cases first
      exact not_isBlank_of_mark known
  | some name =>
      have taken := name.takeName_append (blanks.stops known more)
      rw [Option.elim_some, opened.dropBlanks_append (name.begins _), skipVariable, taken]
      exact blanks.dropBlanks_mark known more

/-- Whatever text follows a pattern, the names that are found in it are those of its list. -/
theorem Written.namesHere_append (written : Written kind) (rest : List Char) :
    namesHere kind (written.body ++ rest) = written.names.map String.toList := by
  unfold Written.body Written.names
  cases written.list with
  | none =>
      obtain ⟨blanks, mark, more, shape, ends⟩ := written.exists_ending rest
      rw [Option.elim_none, List.nil_append, List.append_assoc, List.append_assoc, shape, namesHere,
        skipVariable_append written.opened blanks _ (mem_patternMarks_of_ends ends)]
      split
      · next same =>
          cases same
          exact absurd ends (by decide)
      · rfl
  | some list =>
      have ends := written.endsNames rest
      have taken := list.first.takeName_append (furtherLetters_stops list.others ends)
      have body : written.opened.letters ++ (written.variableName.elim [] Name.letters ++
          (list.letters ++ written.ending)) ++ rest =
          written.opened.letters ++ (written.variableName.elim [] Name.letters ++
            (list.before.letters ++ ':' :: (list.behind.letters ++ (list.first.letters ++
              (furtherLetters list.others ++ (written.ending ++ rest)))))) := by
        simp only [NameList.letters, List.append_assoc, List.cons_append]
      rw [Option.elim_some, body, namesHere,
        skipVariable_append written.opened list.before _ (by decide)]
      simp only [list.behind.dropBlanks_append (list.first.begins _), taken,
        moreNames_furtherLetters list.others ends, Option.elim_some, NameList.names, List.map_cons,
        List.map_map]
      rfl

/-! ### Whole texts -/

theorem Blanks.noOpening (blanks : Blanks) : NoOpening blanks.letters := by
  intro kind member
  have blank := blanks.blank _ member
  cases kind with
  | node => exact absurd blank (by decide)
  | relationship => exact absurd blank (by decide)

theorem Name.noOpening (name : Name) : NoOpening name.letters :=
  fun kind => opening_not_mem kind
    fun letter member => isWord_of_isNamePart (name.parts letter member)

theorem NoOpening.append {first second : List Char} (firstClear : NoOpening first)
    (secondClear : NoOpening second) : NoOpening (first ++ second) := by
  intro kind member
  rcases List.mem_append.mp member with inFirst | inSecond
  · exact firstClear kind inFirst
  · exact secondClear kind inSecond

theorem NoOpening.cons {letter : Char} {letters : List Char}
    (other : letter ∈ patternMarks) (clear : NoOpening letters) :
    NoOpening (letter :: letters) := by
  intro kind member
  rcases List.mem_cons.mp member with same | within
  · rw [← same] at other
    cases kind with
    | node => exact absurd other (by decide)
    | relationship => exact absurd other (by decide)
  · exact clear kind within

theorem noOpening_nil : NoOpening [] :=
  fun _ => List.not_mem_nil

theorem Separator.noOpening (separator : Separator kind) : NoOpening separator.letters := by
  cases separator with
  | label before mark separates behind =>
      have known := mem_patternMarks_of_separates separates
      exact before.noOpening.append (behind.noOpening.cons known)
  | bar before behind => exact before.noOpening.append (behind.noOpening.cons (by decide))
  | barColon before between behind =>
      refine before.noOpening.append (NoOpening.cons (by decide) ?_)
      exact between.noOpening.append (behind.noOpening.cons (by decide))

private theorem noOpening_furtherLetters (others : List (Separator kind × Name)) :
    NoOpening (furtherLetters others) := by
  induction others with
  | nil => exact noOpening_nil
  | cons other others ih =>
      rw [furtherLetters, List.flatMap_cons]
      exact (other.1.noOpening.append other.2.noOpening).append ih

theorem NameList.noOpening (list : NameList kind) : NoOpening list.letters := by
  refine list.before.noOpening.append (NoOpening.cons (by decide) ?_)
  exact list.behind.noOpening.append
    (list.first.noOpening.append (noOpening_furtherLetters list.others))

private theorem Tail.noOpening_letters (tail : Tail) : NoOpening tail.letters :=
  tail.noOpening.cons (mem_patternMarks_of_ends tail.mark_mem)

theorem noOpening_elim {α : Type} {letters : α → List Char}
    (clear : ∀ part, NoOpening (letters part)) (part : Option α) :
    NoOpening (part.elim [] letters) := by
  cases part with
  | none => exact noOpening_nil
  | some part => exact clear part

theorem Written.noOpening_body (written : Written kind) : NoOpening written.body := by
  have closing : NoOpening [kind.closing] :=
    noOpening_nil.cons (mem_patternMarks_of_ends kind.closing_mem)
  have ending : NoOpening written.ending :=
    written.before.noOpening.append ((noOpening_elim Tail.noOpening_letters written.tail).append
      (written.behind.noOpening.append closing))
  exact written.opened.noOpening.append ((noOpening_elim Name.noOpening written.variableName).append
    ((noOpening_elim NameList.noOpening written.list).append ending))

theorem Kind.opening_injective : Function.Injective Kind.opening := by
  intro kind other same
  cases kind with
  | node =>
      cases other with
      | node => rfl
      | relationship => exact absurd same (by decide)
  | relationship =>
      cases other with
      | node => exact absurd same (by decide)
      | relationship => rfl

/-- A piece is read by itself, whatever follows it. -/
theorem Piece.names_append (kind : Kind) (piece : Piece) (rest : List Char) :
    Pattern.names kind (piece.letters ++ rest) =
      (piece.names kind).map String.toList ++ Pattern.names kind rest := by
  cases piece with
  | between letters noOpening => exact names_append_of_not_mem (noOpening kind) rest
  | pattern other written =>
      rw [Piece.letters, Piece.names]
      by_cases same : other = kind
      · subst same
        rw [if_pos rfl, List.cons_append, names_opening, written.namesHere_append,
          names_append_of_not_mem (written.noOpening_body other)]
      · have absent : kind.opening ∉ other.opening :: written.body := by
          intro member
          rcases List.mem_cons.mp member with opens | within
          · exact same (Kind.opening_injective opens).symm
          · exact written.noOpening_body kind within
        rw [if_neg same, names_append_of_not_mem absent]
        rfl

private theorem names_pieces (kind : Kind) (pieces : List Piece) :
    names kind (pieces.flatMap Piece.letters) =
      (pieces.flatMap (Piece.names kind)).map String.toList := by
  induction pieces with
  | nil => rfl
  | cons piece pieces ih =>
      rw [List.flatMap_cons, List.flatMap_cons, piece.names_append kind, ih, List.map_append]

private theorem used_queryOf (kind : Kind) (pieces : List Piece) :
    used kind (queryOf pieces).text = sortedSet (pieces.flatMap (Piece.names kind)) := by
  rw [used, queryOf, String.toList_ofList, names_pieces, List.map_map]
  simp only [Function.comp_def, String.ofList_toList, List.map_id']

theorem mem_used_queryOf {kind : Kind} {pieces : List Piece} {name : String} :
    name ∈ used kind (queryOf pieces).text ↔
      ∃ found : Written kind, .pattern kind found ∈ pieces ∧ name ∈ found.names := by
  rw [used_queryOf, mem_sortedSet, List.mem_flatMap]
  constructor
  · rintro ⟨piece, member, named⟩
    cases piece with
    | between letters noOpening => cases named
    | pattern other found =>
        rw [Piece.names] at named
        by_cases same : other = kind
        · subst same
          rw [if_pos rfl] at named
          exact ⟨found, member, named⟩
        · rw [if_neg same] at named
          cases named
  · rintro ⟨found, member, named⟩
    refine ⟨.pattern kind found, member, ?_⟩
    rw [Piece.names, if_pos rfl]
    exact named

/-- The labels and the relationship types of a query are the names in the lists of its patterns:
variables, tails and the text between patterns add none. -/
theorem labels_and_types_exact (pieces : List Piece) :
    (∀ label, label ∈ (queryOf pieces).labels ↔
      ∃ node : Written .node, .pattern .node node ∈ pieces ∧ label ∈ node.names) ∧
    (∀ name, name ∈ (queryOf pieces).relationshipTypes ↔
      ∃ relationship : Written .relationship,
        .pattern .relationship relationship ∈ pieces ∧ name ∈ relationship.names) :=
  ⟨fun _ => mem_used_queryOf, fun _ => mem_used_queryOf⟩

end QueryWarden.Pattern
