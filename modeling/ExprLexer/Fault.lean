import ExprLexer.Text.Quoted

/-!
# Lexical faults

Why no token starts at a place of the input. The first cause holds outside string literals, the
others inside one.
-/

namespace ExprLexer

/-- An escape by number in a string literal, told apart by its number of digits. -/
inductive HexEscape
  | two
  | four
  | eight
  deriving DecidableEq

namespace HexEscape

def all : List HexEscape := [two, four, eight]

def letter : HexEscape → CodePoint
  | two => 'x'
  | four => 'u'
  | eight => 'U'

def width : HexEscape → Nat
  | two => 2
  | four => 4
  | eight => 8

def ofLetter? (c : CodePoint) : Option HexEscape :=
  all.find? (·.letter = c)

theorem ofLetter?_letter (h : HexEscape) : ofLetter? h.letter = some h := by
  cases h <;> rfl

end HexEscape

inductive Fault
  | unrecognized
  | unterminatedString
  | unterminatedEscape
  /-- No escape is written with this code point. -/
  | unknownEscape (c : CodePoint)
  /-- The digits are too few, or not all of them are hexadecimal. -/
  | malformedHex (escape : HexEscape) (digits : Text)
  /-- The digits spell a number of 0x110000 or more. -/
  | beyondUnicode (escape : HexEscape) (digits : Text)
  deriving DecidableEq

namespace Fault

def message : Fault → Text
  | unrecognized => "Unrecognized token"
  | unterminatedString => "Unterminated string"
  | unterminatedEscape => "Unterminated escape sequence"
  | unknownEscape c => "Invalid escape sequence '\\" ++ [c] ++ "'"
  | malformedHex escape digits =>
    "Expected " ++ Text.ofNat escape.width ++ " hex digits after '\\" ++ [escape.letter] ++
      "', got " ++ digits.quoted
  | beyondUnicode escape digits =>
    "Code point '\\" ++ [escape.letter] ++ digits ++ "' is outside the Unicode range"

end Fault

end ExprLexer
