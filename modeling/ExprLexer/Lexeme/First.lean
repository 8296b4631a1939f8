import ExprLexer.Bracket
import ExprLexer.Lexeme.Number
import ExprLexer.Lexeme.StringLiteral
import ExprLexer.Lexeme.Symbol
import ExprLexer.Vocabulary

/-!
# The first lexeme

Which lexeme an input starts with. Quotes, brackets and the separator are decided by one code point.
Elsewhere the longest name competes with the longest operator, which wins unless it is shorter, and
a number is read where neither stands.
-/

namespace ExprLexer

def separator : CodePoint := ','

/-- The first lexeme of an input that starts with `c`, which is no blank. -/
def Vocabulary.firstLexeme (v : Vocabulary) (c : CodePoint) (t : Text) : Except Fault Lexeme :=
  if c ∈ StringLiteral.delimiters then StringLiteral.lexeme c t
  else if (Bracket.ofOpening? c).isSome then .ok (.plain .leftBracket [c] t)
  else if (Bracket.ofClosing? c).isSome then .ok (.plain .rightBracket [c] t)
  else if c = separator then .ok (.plain .separator [c] t)
  else
    let name := Symbol.name (c :: t)
    let operator? := (v.longest? (c :: t)).filter fun op => name.length ≤ op.length
    match operator? with
    | some op => .ok (.plain .operator op ((c :: t).drop op.length))
    | none =>
      if name ≠ [] then .ok (Symbol.lexeme name (c :: t))
      else
        match NumberForm.first? (c :: t) with
        | some number => .ok number
        | none => .error .unrecognized

end ExprLexer
