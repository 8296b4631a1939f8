import ExprLexer.Text

/-!
# Paths

A path is a root and the names below it. Reading drops what does not change where a path leads:
empty names, the name `.`, and a slash at the end. The name `..` stays.
-/

namespace ExprLexer

structure Path where
  root : Text
  names : List Text
  deriving DecidableEq

namespace Path

def isSlash (c : CodePoint) : Bool := c = '/'

/-- Two slashes at the start are a root of their own; one, three or more are the plain root. -/
def rootOf (t : Text) : Text :=
  match (t.takeWhile isSlash).length with
  | 0 => []
  | 2 => "//"
  | _ => "/"

def parse (t : Text) : Path where
  root := rootOf t
  names := (t.split isSlash).filter fun name => name ≠ [] ∧ name ≠ (['.'] : Text)

def display (p : Path) : Text :=
  if p.root = [] ∧ p.names = [] then "."
  else p.root ++ Text.join ['/'] p.names

def child (p : Path) (name : Text) : Path :=
  { p with names := p.names ++ [name] }

end Path

end ExprLexer
