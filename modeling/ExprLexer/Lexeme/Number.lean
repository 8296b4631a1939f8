import ExprLexer.Lexeme
import ExprLexer.Text.Alphabet

/-!
# Numbers

Five forms of number are tried in a fixed order. Each is a lead, then digits, then a point with
digits of the same class if at least one follows it. The lead of a number with an explicit base is
the base and `#`, and belongs to the token; that of the others only tells the form.
-/

namespace ExprLexer

inductive NumberForm
  | radix
  | hex
  | octal
  | binary
  | decimal
  deriving DecidableEq

namespace NumberForm

/-- The order in which the forms are tried. -/
def all : List NumberForm := [radix, hex, octal, binary, decimal]

def kind : NumberForm → Kind
  | radix => .radixNumber
  | hex => .hexNumber
  | octal => .octalNumber
  | binary => .binaryNumber
  | decimal => .decimalNumber

def isDigit : NumberForm → CodePoint → Bool
  | radix => CodePoint.isRadixDigit
  | hex => CodePoint.isHexDigit
  | octal => CodePoint.isOctalDigit
  | binary => CodePoint.isBinaryDigit
  | decimal => CodePoint.isDigit

def fixedLead? (lead t : Text) : Option (Text × Text) :=
  (Text.after? lead t).map fun rest => (lead, rest)

def lead? (form : NumberForm) (t : Text) : Option (Text × Text) :=
  match form with
  | radix =>
    match t.takeWhile CodePoint.isDigit, t.dropWhile CodePoint.isDigit with
    | base, c :: rest => if base ≠ [] ∧ c = '#' then some (base ++ [c], rest) else none
    | _, [] => none
  | hex => fixedLead? ['0', 'x'] t
  | octal => fixedLead? ['0'] t
  | binary => fixedLead? ['0', 'b'] t
  | decimal => some ([], t)

/-- The fraction at the start of the input: a point and the digits after it, if there are any. -/
def fraction (isDigit : CodePoint → Bool) : Text → Text
  | [] => []
  | c :: t =>
    let digits := t.takeWhile isDigit
    if c = '.' ∧ digits ≠ [] then c :: digits else []

def digits? (isDigit : CodePoint → Bool) (t : Text) : Option (Text × Text) :=
  let whole := t.takeWhile isDigit
  let after := t.dropWhile isDigit
  let tail := fraction isDigit after
  if whole = [] then none else some (whole ++ tail, after.drop tail.length)

def lexeme? (form : NumberForm) (t : Text) : Option Lexeme :=
  (form.lead? t).bind fun (lead, t) =>
    (digits? form.isDigit t).map fun (digits, rest) =>
      { token := ⟨form.kind, if form = radix then lead ++ digits else digits⟩
        raw := lead ++ digits
        rest := rest }

def first? (t : Text) : Option Lexeme :=
  all.findSome? (·.lexeme? t)

end NumberForm

end ExprLexer
