import ExprLexer.Lexeme

/-!
# String literals

A literal stands between two equal quotes. Its body is a sequence of units: a code point that is
neither that quote nor a backslash, an escape from the table, or an escape by number. An escape may
spell a surrogate, and surrogates are never joined.
-/

namespace ExprLexer

def HexEscape.decode (escape : HexEscape) (digits : Text) : Except Fault CodePoint :=
  if digits.length = escape.width ∧ digits.all CodePoint.isHexDigit then
    match CodePoint.ofNat? digits.hexValue with
    | some c => .ok c
    | none => .error (.beyondUnicode escape digits)
  else .error (.malformedHex escape digits)

namespace StringLiteral

def delimiters : Text := ['\'', '"']

def escapes : List (CodePoint × CodePoint) :=
  [('\\', '\\'), ('\'', '\''), ('"', '"'), ('0', '\x00'), ('b', '\x08'), ('t', '\t'), ('n', '\n'),
    ('f', '\x0c'), ('r', '\r')]

inductive Item
  | close
  /-- A unit, with the number of code points that it takes after its first. -/
  | unit (value : CodePoint) (more : Nat)
  | fault (f : Fault)
  deriving DecidableEq

def escape : Text → Item
  | [] => .fault .unterminatedEscape
  | c :: t =>
    match HexEscape.ofLetter? c with
    | some e =>
      match e.decode (t.take e.width) with
      | .ok value => .unit value (e.width + 1)
      | .error f => .fault f
    | none =>
      match escapes.lookup c with
      | some value => .unit value 1
      | none => .fault (.unknownEscape c)

def item (mark c : CodePoint) (t : Text) : Item :=
  if c = mark then .close
  else if c = '\\' then escape t
  else .unit c 0

/-- The decoded body, the body with its closing quote as it was read, and the input after it. -/
structure Body where
  value : Text
  raw : Text
  rest : Text
  deriving DecidableEq

/-- Reads up to the closing quote `mark`, after passing over `pending` code points that belong to
the unit before. -/
def body (mark : CodePoint) : (pending : Nat) → Text → Except Fault Body
  | _, [] => .error .unterminatedString
  | pending + 1, c :: t => (body mark pending t).map fun b => { b with raw := c :: b.raw }
  | 0, c :: t =>
    match item mark c t with
    | .close => .ok ⟨[], [c], t⟩
    | .unit value more =>
      (body mark more t).map fun b => ⟨value :: b.value, c :: b.raw, b.rest⟩
    | .fault f => .error f

def lexeme (mark : CodePoint) (t : Text) : Except Fault Lexeme :=
  (body mark 0 t).map fun b => ⟨⟨.stringLiteral, b.value⟩, mark :: b.raw, b.rest⟩

end StringLiteral

end ExprLexer
