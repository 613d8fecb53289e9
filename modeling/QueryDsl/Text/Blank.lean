/-!
# Blank text

`isWhiteSpace` is the Unicode property White_Space, and a text is blank when it holds no other character.
-/

namespace QueryDsl.Text

/-- Ranges of code points with the property White_Space, both ends included. -/
def whiteSpaceRanges : List (Nat × Nat) :=
  [(0x09, 0x0d), (0x20, 0x20), (0x85, 0x85), (0xa0, 0xa0), (0x1680, 0x1680), (0x2000, 0x200a), (0x2028, 0x2029),
   (0x202f, 0x202f), (0x205f, 0x205f), (0x3000, 0x3000)]

/-- Whether a character has the property White_Space. -/
def isWhiteSpace (c : Char) : Bool :=
  whiteSpaceRanges.any fun r => r.1 ≤ c.toNat && c.toNat ≤ r.2

/-- Whether a text holds white space only. The empty text is blank. -/
def isBlank (s : String) : Bool := s.toList.all isWhiteSpace

end QueryDsl.Text
