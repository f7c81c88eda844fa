/-
How deep texts are followed whose parts hold parts of their own kind. A text that goes
deeper is refused, whatever it would have turned out to be.
-/

namespace QueryWarden

/-- What goes deeper than it is followed. -/
inductive Descent where
  | jsonArray
  | jsonObject
  | tomlValue
deriving DecidableEq

/-- The most arrays and objects of JSON that are open at once. -/
def jsonDepth : Nat := 990

/-- The depth of values in TOML. An array adds two to it and an inline table three. -/
def tomlDepth : Nat := 988

end QueryWarden
