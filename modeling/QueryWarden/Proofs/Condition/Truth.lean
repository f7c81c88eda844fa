/-
Three-valued truth. A condition over a property that an entity lacks neither holds nor
fails, and the connectives go on with what is known: a conjunction fails as soon as one
part does, a disjunction holds as soon as one part does.
-/

namespace QueryWarden

inductive Truth where
  | holds
  | fails
  | unknown
deriving DecidableEq

namespace Truth

def not : Truth → Truth
  | .holds => .fails
  | .fails => .holds
  | .unknown => .unknown

def and : Truth → Truth → Truth
  | .holds, right => right
  | .fails, _ => .fails
  | .unknown, .fails => .fails
  | .unknown, _ => .unknown

def or : Truth → Truth → Truth
  | .holds, _ => .holds
  | .fails, right => right
  | .unknown, .holds => .holds
  | .unknown, _ => .unknown

def all (parts : List Truth) : Truth :=
  parts.foldr and .holds

def any (parts : List Truth) : Truth :=
  parts.foldr or .fails

theorem and_holds (left : Truth) : left.and .holds = left := by
  cases left <;> rfl

theorem or_fails (left : Truth) : left.or .fails = left := by
  cases left <;> rfl

theorem and_assoc (first second third : Truth) :
    (first.and second).and third = first.and (second.and third) := by
  cases first <;> cases second <;> cases third <;> rfl

theorem or_assoc (first second third : Truth) :
    (first.or second).or third = first.or (second.or third) := by
  cases first <;> cases second <;> cases third <;> rfl

theorem not_not (truth : Truth) : truth.not.not = truth := by
  cases truth <;> rfl

theorem all_append (left right : List Truth) :
    all (left ++ right) = (all left).and (all right) := by
  induction left with
  | nil => rfl
  | cons part parts ih =>
      change part.and (all (parts ++ right)) = (part.and (all parts)).and (all right)
      rw [ih, and_assoc]

theorem any_append (left right : List Truth) :
    any (left ++ right) = (any left).or (any right) := by
  induction left with
  | nil => rfl
  | cons part parts ih =>
      change part.or (any (parts ++ right)) = (part.or (any parts)).or (any right)
      rw [ih, or_assoc]

theorem all_singleton (part : Truth) : all [part] = part :=
  and_holds part

theorem any_singleton (part : Truth) : any [part] = part :=
  or_fails part

/-- Parts of one truth value, of which there is at least one, have that value together. -/
theorem all_of_same (truth first : Truth) (others : List Truth)
    (same : ∀ part ∈ first :: others, part = truth) : all (first :: others) = truth := by
  induction others generalizing first with
  | nil => rw [all_singleton, same first List.mem_cons_self]
  | cons second others ih =>
      have rest := ih second (fun part member => same part (List.mem_cons_of_mem _ member))
      change first.and (all (second :: others)) = truth
      rw [rest, same first List.mem_cons_self]
      cases truth <;> rfl

theorem any_of_same (truth first : Truth) (others : List Truth)
    (same : ∀ part ∈ first :: others, part = truth) : any (first :: others) = truth := by
  induction others generalizing first with
  | nil => rw [any_singleton, same first List.mem_cons_self]
  | cons second others ih =>
      have rest := ih second (fun part member => same part (List.mem_cons_of_mem _ member))
      change first.or (any (second :: others)) = truth
      rw [rest, same first List.mem_cons_self]
      cases truth <;> rfl

end Truth

end QueryWarden
