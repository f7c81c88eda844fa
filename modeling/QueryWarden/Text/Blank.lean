/-
Blank characters: the ASCII controls that separate, the space, and every
space, line and paragraph separator of Unicode. Trimming and the test for blank
text are defined here on lists of characters.
-/

import QueryWarden.Text.Ranges

namespace QueryWarden.Text

def blankRanges : List (Nat × Nat) :=
  [(9, 13), (28, 32), (133, 133), (160, 160), (5760, 5760),
    (8192, 8202), (8232, 8233), (8239, 8239), (8287, 8287), (12288, 12288)]

def isBlank (letter : Char) : Bool :=
  inRanges blankRanges letter

def dropBlanks (letters : List Char) : List Char :=
  letters.dropWhile isBlank

/-- What remains of a text once its longest tail of chosen characters is cut off. -/
def dropRightWhile (chosen : Char → Bool) (letters : List Char) : List Char :=
  (letters.reverse.dropWhile chosen).reverse

def trim (letters : List Char) : List Char :=
  dropRightWhile isBlank (dropBlanks letters)

def allBlank (letters : List Char) : Bool :=
  letters.all isBlank

def isBlankText (text : String) : Bool :=
  allBlank text.toList

theorem isBlank_space : isBlank ' ' = true := by decide

theorem isBlank_newline : isBlank '\n' = true := by decide

end QueryWarden.Text
