import ExprLexer.Text.Alphabet

/-!
# Hexadecimal numbers

Reading accepts both cases; writing uses lower-case digits and a fixed width.
-/

namespace ExprLexer

namespace CodePoint

def hexValue (c : CodePoint) : Nat :=
  if c.isDigit then c.val - 0x30
  else if c.between 'A' 'F' then c.val - 0x37
  else c.val - 0x57

def ofHexValue (n : Nat) : CodePoint :=
  Nat.digitChar n

theorem hexValue_ofHexValue : ∀ n < 16, (ofHexValue n).hexValue = n := by
  decide

theorem isHexDigit_ofHexValue : ∀ n < 16, (ofHexValue n).isHexDigit = true := by
  decide

end CodePoint

namespace Text

/-- The number that hexadecimal digits spell, the most significant first. -/
def hexValue (digits : Text) : Nat :=
  digits.foldl (fun n c => n * 16 + c.hexValue) 0

/-- The last `width` hexadecimal digits of `n`. -/
def hexDigits : (width n : Nat) → Text
  | 0, _ => []
  | width + 1, n => hexDigits width (n / 16) ++ [CodePoint.ofHexValue (n % 16)]

@[simp] theorem length_hexDigits (width n : Nat) : (hexDigits width n).length = width := by
  induction width generalizing n with
  | zero => rfl
  | succ width ih => simp [hexDigits, ih]

theorem hexValue_append (t : Text) (c : CodePoint) :
    hexValue (t ++ [c]) = hexValue t * 16 + c.hexValue := by
  simp [hexValue]

end Text

end ExprLexer
