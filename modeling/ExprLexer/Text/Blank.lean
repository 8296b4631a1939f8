import ExprLexer.Text

/-!
# Blanks

The code points that separate tokens: those of category Zs or of bidirectional class WS, B or S, 29
in all. The zero-width space and the byte-order mark are not among them.
-/

namespace ExprLexer

namespace CodePoint

def blankRanges : List (Nat × Nat) := [(0x09, 0x0D), (0x1C, 0x20), (0x85, 0x85), (0xA0, 0xA0),
  (0x1680, 0x1680), (0x2000, 0x200A), (0x2028, 0x2029), (0x202F, 0x202F), (0x205F, 0x205F),
  (0x3000, 0x3000)]

def isBlank (c : CodePoint) : Bool :=
  c.isIn blankRanges

example : (blankRanges.map fun (first, last) => last + 1 - first).sum = 29 := by
  decide

end CodePoint

namespace Text

def trim (t : Text) : Text :=
  ((t.dropWhile CodePoint.isBlank).reverse.dropWhile CodePoint.isBlank).reverse

/-- The parts between blanks that are not empty. -/
def words (t : Text) : List Text :=
  (t.split CodePoint.isBlank).filter (· ≠ [])

end Text

end ExprLexer
