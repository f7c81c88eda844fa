/-
Clauses given by hand. Nothing is known of their parts: the text can be any value and
the parameters anything that pairs can be read from. A compiled clause is one whose
text is a text, and joining it to a fragment is the same in both forms.
-/

import QueryWarden.Fault
import QueryWarden.Filter.Clause
import QueryWarden.Value.Pairs

namespace QueryWarden

open Text

structure GivenClause where
  text : Value
  parameters : Pairs

namespace GivenClause

def ofClause (clause : WhereClause) : GivenClause :=
  { text := .text clause.text, parameters := Pairs.ofTexts clause.parameters }

def ofValues (text parameters : Value) : Except AccessFault GivenClause :=
  (Pairs.ofValue parameters).map (fun parameters => { text := text, parameters := parameters })

/-- Only the empty text stands for no condition. -/
def isEmpty (clause : GivenClause) : Bool :=
  match clause.text with
  | .text text => text == ""
  | _ => false

/-- Joins the clause to a fragment, which has to be a text unless the clause is empty. -/
def appendTo (clause : GivenClause) (existing : Value) : Except Fault Value :=
  if clause.isEmpty then .ok existing
  else
    match existing.textFor "strip" with
    | .error fault => .error (.access fault)
    | .ok fragment =>
        if isBlankText fragment then .ok clause.text
        else (writing clause.text.shown?).map (fun shown => .text (fragment ++ " AND " ++ shown))

def toValue (clause : GivenClause) : Value :=
  .clause clause.text clause.parameters

theorem appendTo_ofClause (clause : WhereClause) (existing : String) :
    (ofClause clause).appendTo (.text existing) = .ok (.text (clause.appendTo existing)) := by
  unfold appendTo WhereClause.appendTo
  change (if clause.isEmpty = true then _ else _) = _
  by_cases empty : clause.isEmpty = true
  · rw [if_pos empty, if_pos empty]
  · rw [if_neg empty, if_neg empty]
    change (if isBlankText existing = true then _ else _) = _
    by_cases blank : isBlankText existing = true
    · rw [if_pos blank, if_pos blank]
      rfl
    · rw [if_neg blank, if_neg blank]
      rfl

end GivenClause

end QueryWarden
