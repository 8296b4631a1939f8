import ExprLexer.Text

/-!
# Brackets

The three pairs of brackets. An opening bracket and a closing bracket each determine their pair.
-/

namespace ExprLexer

inductive Bracket
  | round
  | curly
  | square
  deriving DecidableEq

namespace Bracket

def all : List Bracket := [round, curly, square]

def opening : Bracket → CodePoint
  | round => '('
  | curly => '\x7b'
  | square => '['

def closing : Bracket → CodePoint
  | round => ')'
  | curly => '\x7d'
  | square => ']'

def ofOpening? (c : CodePoint) : Option Bracket :=
  all.find? (·.opening = c)

def ofClosing? (c : CodePoint) : Option Bracket :=
  all.find? (·.closing = c)

theorem ofOpening?_opening (b : Bracket) : ofOpening? b.opening = some b := by
  cases b <;> rfl

theorem ofClosing?_closing (b : Bracket) : ofClosing? b.closing = some b := by
  cases b <;> rfl

end Bracket

end ExprLexer
