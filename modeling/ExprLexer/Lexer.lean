import ExprLexer.Lexeme.First
import ExprLexer.Text.Blank

/-!
# Lexers

A lexer stands at a position of its source and is pulled for one token after the other. Blanks
before a token are passed over, also when no token follows them. The end of the source and a
failure both end it for good.
-/

namespace ExprLexer

/-- A fault with the position at which it arose and the input from there on. -/
structure Failure where
  fault : Fault
  position : Nat
  remaining : Text
  deriving DecidableEq

inductive Pull
  | token (t : Token)
  | stop
  | failure (f : Failure)
  deriving DecidableEq

structure Lexer where
  position : Nat
  rest : Text
  live : Bool
  deriving DecidableEq

inductive Ending
  | stop
  | failure (f : Failure)
  /-- As many tokens as asked for were pulled. -/
  | limit
  deriving DecidableEq

structure Walk where
  tokens : List (Token × Nat)
  ending : Ending
  lexer : Lexer
  deriving DecidableEq

namespace Lexer

def start (source : Text) : Lexer := ⟨0, source, true⟩

/-- One token, with the operators that the vocabulary holds at this moment. -/
def pull (v : Vocabulary) (l : Lexer) : Pull × Lexer :=
  if l.live then
    let position := l.position + (l.rest.takeWhile CodePoint.isBlank).length
    match l.rest.dropWhile CodePoint.isBlank with
    | [] => (.stop, ⟨position, [], false⟩)
    | c :: t =>
      match v.firstLexeme c t with
      | .ok lexeme => (.token lexeme.token, ⟨position + lexeme.raw.length, lexeme.rest, true⟩)
      | .error fault => (.failure ⟨fault, position, c :: t⟩, ⟨position, c :: t, false⟩)
  else (.stop, l)

def take (v : Vocabulary) : (n : Nat) → Lexer → Walk
  | 0, l => ⟨[], .limit, l⟩
  | n + 1, l =>
    match l.pull v with
    | (.token t, next) =>
      let others := next.take v n
      { others with tokens := (t, next.position) :: others.tokens }
    | (.stop, next) => ⟨[], .stop, next⟩
    | (.failure f, next) => ⟨[], .failure f, next⟩

/-- Pulls to the end. A token takes at least one code point, so the limit is never reached. -/
def walk (v : Vocabulary) (l : Lexer) : Walk :=
  l.take v (l.rest.length + 1)

end Lexer

/-- All tokens, or the failure, which loses the tokens before it. -/
def Walk.result (w : Walk) : Except Failure (List Token) :=
  match w.ending with
  | .failure f => .error f
  | _ => .ok (w.tokens.map Prod.fst)

namespace Vocabulary

def walk (v : Vocabulary) (source : Text) : Walk :=
  (Lexer.start source).walk v

def tokens (v : Vocabulary) (source : Text) : Except Failure (List Token) :=
  (v.walk source).result

end Vocabulary

end ExprLexer
