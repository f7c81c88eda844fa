/-
Code units and the characters that they make. Two surrogates that match make one
character. One that stays alone makes none, but texts that differ in it are different,
so a character that the whole text has no use for stands in its place. Stand-ins are
chosen for each text, after all of its characters are known.
-/

namespace QueryWarden.Text

def isHighSurrogate (unit : Nat) : Bool :=
  0xd800 ≤ unit && unit ≤ 0xdbff

def isLowSurrogate (unit : Nat) : Bool :=
  0xdc00 ≤ unit && unit ≤ 0xdfff

def isSurrogate (unit : Nat) : Bool :=
  isHighSurrogate unit || isLowSurrogate unit

/-- Joins each pair of surrogates to one code point; a surrogate that is alone stays. -/
def joinUnits : List Nat → List Nat
  | [] => []
  | [unit] => [unit]
  | high :: low :: rest =>
      if isHighSurrogate high && isLowSurrogate low then
        (0x10000 + (high - 0xd800) * 0x400 + (low - 0xdc00)) :: joinUnits rest
      else high :: joinUnits (low :: rest)

/-- Code points of characters below a bound that are not used, from the bound down, as
many as are asked for. -/
def unusedPoints (used : List Nat) : (bound count : Nat) → List Nat
  | 0, _ => []
  | _ + 1, 0 => []
  | point + 1, count + 1 =>
      if isSurrogate point || used.contains point then unusedPoints used point (count + 1)
      else point :: unusedPoints used point count

abbrev StandIns := List (Nat × Char)

def pointCount : Nat := 0x110000

/-- Stand-ins for the surrogates that are alone among the code points of a text. -/
def StandIns.ofPoints (points : List Nat) : StandIns :=
  let alone := (points.filter isSurrogate).eraseDups
  alone.zip ((unusedPoints points pointCount alone.length).map Char.ofNat)

/-- The character of a code point, or else the one that stands for it. -/
def StandIns.character (standIns : StandIns) (point : Nat) : Char :=
  match standIns.lookup point with
  | some standIn => standIn
  | none => Char.ofNat point

def StandIns.textOfUnits (standIns : StandIns) (units : List Nat) : String :=
  String.ofList ((joinUnits units).map standIns.character)

end QueryWarden.Text
