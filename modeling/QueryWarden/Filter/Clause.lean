/-
Where clauses: the text of a boolean expression, without the keyword, and the
parameters it refers to. The empty text stands for no condition at all.
-/

import QueryWarden.Bindings
import QueryWarden.Text.Blank

namespace QueryWarden

open Text

structure WhereClause where
  text : String
  parameters : Bindings

namespace WhereClause

def empty : WhereClause :=
  { text := "", parameters := [] }

def isEmpty (clause : WhereClause) : Bool :=
  clause.text == ""

/-- Joins the clause to an existing fragment. Nothing is added for an empty clause,
and the clause stands alone where the fragment is blank. -/
def appendTo (clause : WhereClause) (existing : String) : String :=
  if clause.isEmpty then existing
  else if isBlankText existing then clause.text
  else existing ++ " AND " ++ clause.text

end WhereClause

end QueryWarden
