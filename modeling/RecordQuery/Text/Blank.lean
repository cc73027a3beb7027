/-
# Blank characters

The property White_Space of Unicode, and trimming by it.  Only `isBlank`
characters are taken away, at the ends only.
-/
import RecordQuery.Text.CodePoints

namespace RecordQuery.Text

/-- The code points with the property White_Space. -/
def blankRanges : Ranges :=
  [(9, 13), (32, 32), (133, 133), (160, 160), (5760, 5760), (8192, 8202), (8232, 8233),
   (8239, 8239), (8287, 8287), (12288, 12288)]

/-- Does the character have the property White_Space? -/
def isBlank (c : Char) : Bool :=
  blankRanges.covers c.toNat

/-- The characters from the first that is not blank on. -/
def trimStart (cs : List Char) : List Char :=
  cs.dropWhile isBlank

/-- The characters up to the last that is not blank. -/
def trimEnd (cs : List Char) : List Char :=
  (cs.reverse.dropWhile isBlank).reverse

/-- The characters without blanks at either end. -/
def trim (cs : List Char) : List Char :=
  trimEnd (trimStart cs)

end RecordQuery.Text
