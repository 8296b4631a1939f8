import ExprLexer.Lexeme
import ExprLexer.Text.Alphabet

/-!
# Symbols

A symbol is a name, and may carry a suffix for its arguments: `@`, then digits, a comma and digits,
each of which may be absent.
-/

namespace ExprLexer.Symbol

def name : Text → Text
  | [] => []
  | c :: t => if c.isSymbolStart then c :: t.takeWhile CodePoint.isSymbolPart else []

/-- The digits, and a comma with the digits behind it. -/
def counts (t : Text) : Text :=
  t.takeWhile CodePoint.isDigit ++
    match t.dropWhile CodePoint.isDigit with
    | [] => []
    | c :: t => if c = ',' then c :: t.takeWhile CodePoint.isDigit else []

def suffix : Text → Text
  | [] => []
  | c :: t => if c = '@' then c :: counts t else []

def lexeme (name input : Text) : Lexeme :=
  let after := input.drop name.length
  let args := suffix after
  if args = [] then .plain .symbol name after
  else .plain .symbolWithArgs (name ++ args) (after.drop args.length)

end ExprLexer.Symbol
