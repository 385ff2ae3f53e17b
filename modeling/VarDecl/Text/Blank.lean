/-
Blank characters: the Unicode property White_Space, which surrounds a statement without belonging to it.

The property has 25 code points, all of them listed here. Characters that only look blank (the zero width space U+200B,
the byte order mark U+FEFF, the Mongolian vowel separator U+180E, the information separators U+001C to U+001F) are not
in it.
-/
import VarDecl.Text.Basic

namespace VarDecl

namespace Text

/-- whether a character lies in one of the ranges of code points, ends included -/
def liesIn (ranges : List (Nat × Nat)) (c : Char) : Bool :=
  ranges.any fun r => r.1 ≤ c.toNat && c.toNat ≤ r.2

/-- the code points with the property White_Space -/
def blankRanges : List (Nat × Nat) :=
  [(0x9, 0xd), (0x20, 0x20), (0x85, 0x85), (0xa0, 0xa0), (0x1680, 0x1680), (0x2000, 0x200a), (0x2028, 0x2029),
   (0x202f, 0x202f), (0x205f, 0x205f), (0x3000, 0x3000)]

/-- whether a character is blank: space, tab, line breaks and the other spaces of Unicode -/
def isBlank (c : Char) : Bool := liesIn blankRanges c

example : (blankRanges.map fun r => r.2 + 1 - r.1).sum = 25 := by decide

end Text

end VarDecl
