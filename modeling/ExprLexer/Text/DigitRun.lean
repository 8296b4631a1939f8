import ExprLexer.Text.Alphabet

/-!
# Runs of digits

The longest run of digits at the start of a text, and the exponent of a number. An underscore may
stand between two digits.
-/

namespace ExprLexer.Text

/-- What follows a run of digits that has begun. -/
def moreDigits (isDigit : CodePoint → Bool) : Text → Text
  | [] => []
  | c :: t =>
    if isDigit c then moreDigits isDigit t
    else
      match t with
      | [] => [c]
      | d :: rest =>
        if c = '_' ∧ isDigit d then moreDigits isDigit rest else c :: d :: rest

def digitRun? (isDigit : CodePoint → Bool) : Text → Option Text
  | [] => none
  | c :: t => if isDigit c then some (moreDigits isDigit t) else none

def dropSign : Text → Text
  | [] => []
  | c :: t => if c = '+' ∨ c = '-' then t else c :: t

def exponent? : Text → Option Text
  | [] => none
  | c :: t => if c = 'e' ∨ c = 'E' then digitRun? CodePoint.isDigit (dropSign t) else none

end ExprLexer.Text
