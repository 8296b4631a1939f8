import ExprLexer.Text.Hex
import ExprLexer.Token

/-!
# Tokens as JSON

A list of tokens on one line of printable ASCII. What lies outside ASCII is escaped in units of
sixteen bits, so a code point beyond U+FFFF becomes a pair of surrogates.
-/

namespace ExprLexer.Json

/-- The units of sixteen bits of a code point. -/
def units (c : CodePoint) : List Nat :=
  if c.val < 0x10000 then [c.val]
  else [0xD800 + (c.val - 0x10000) / 0x400, 0xDC00 + (c.val - 0x10000) % 0x400]

def unitEscape (unit : Nat) : Text :=
  '\\' :: 'u' :: Text.hexDigits 4 unit

def shortEscapes : List (CodePoint × CodePoint) :=
  [('"', '"'), ('\\', '\\'), ('\n', 'n'), ('\r', 'r'), ('\t', 't'), ('\x08', 'b'), ('\x0c', 'f')]

def escaped (c : CodePoint) : Text :=
  match shortEscapes.lookup c with
  | some letter => ['\\', letter]
  | none => if c.between ' ' '~' then [c] else (units c).flatMap unitEscape

def mark : CodePoint := '"'

def string (t : Text) : Text :=
  mark :: (t.flatMap escaped ++ [mark])

def token (t : Token) : Text :=
  "\x7b\"kind\": " ++ string t.kind.name ++ ", \"text\": " ++ string t.text ++ "\x7d"

def tokens (ts : List Token) : Text :=
  "[" ++ Text.join ", " (ts.map token) ++ "]"

end ExprLexer.Json
