import ExprLexer.Text

/-!
# The alphabet of expressions

The classes of code points that symbols and numbers are made of. All of them hold ASCII only: a
digit or a letter of another script belongs to no class.
-/

namespace ExprLexer.CodePoint

variable (c : CodePoint)

def isDigit : Bool := c.between '0' '9'

def isOctalDigit : Bool := c.between '0' '7'

def isBinaryDigit : Bool := c.between '0' '1'

def isHexDigit : Bool :=
  c.isDigit || c.between 'A' 'F' || c.between 'a' 'f'

def isLetter : Bool :=
  c.between 'A' 'Z' || c.between 'a' 'z'

/-- The digits of a number with an explicit base; a quote is one of them. -/
def isRadixDigit : Bool :=
  c.isDigit || c.isLetter || c = '\'' || c = '"'

def isSymbolStart : Bool :=
  c.isLetter || c = '_' || c = '$'

def isSymbolPart : Bool :=
  c.isSymbolStart || c.isDigit

end ExprLexer.CodePoint
