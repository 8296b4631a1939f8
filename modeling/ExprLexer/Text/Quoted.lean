import ExprLexer.Text.Hex
import ExprLexer.Text.Printable

/-!
# Quoted text

The display of a text between quotes. A backslash and the quote in use are escaped, and so is every
code point that is not printable; the rest stands for itself. Which code points are printable is a
parameter, and `quoted` takes it from the Unicode table.
-/

namespace ExprLexer.Text

/-- Double quotes spare an escape when the text holds single quotes only. -/
def quoteMark (t : Text) : CodePoint :=
  if ('\'' : CodePoint) ∈ t ∧ ('"' : CodePoint) ∉ t then '"' else '\''

def numericEscape (c : CodePoint) : Text :=
  if c.val < 0x100 then '\\' :: 'x' :: hexDigits 2 c.val
  else if c.val < 0x10000 then '\\' :: 'u' :: hexDigits 4 c.val
  else '\\' :: 'U' :: hexDigits 8 c.val

def quotedUnit (printable : CodePoint → Bool) (mark c : CodePoint) : Text :=
  if c = mark ∨ c = '\\' then ['\\', c]
  else if c = '\n' then ['\\', 'n']
  else if c = '\r' then ['\\', 'r']
  else if c = '\t' then ['\\', 't']
  else if printable c then [c]
  else numericEscape c

def quotedWith (printable : CodePoint → Bool) (t : Text) : Text :=
  let mark := t.quoteMark
  mark :: (t.flatMap (quotedUnit printable mark) ++ [mark])

def quoted (t : Text) : Text :=
  t.quotedWith CodePoint.isPrintable

end ExprLexer.Text
