import ExprLexer.Token
import ExprLexer.Fault

/-!
# Lexemes

A lexeme is a token together with the part of the input it was read from and the input that is left.
-/

namespace ExprLexer

structure Lexeme where
  token : Token
  raw : Text
  rest : Text
  deriving DecidableEq

namespace Lexeme

def plain (kind : Kind) (raw rest : Text) : Lexeme :=
  ⟨⟨kind, raw⟩, raw, rest⟩

/-- All of the input at which the lexeme was found. -/
def input (l : Lexeme) : Text :=
  l.raw ++ l.rest

end Lexeme

end ExprLexer
