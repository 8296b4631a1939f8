import ExprLexer.Text.Blank
import ExprLexer.Text.Width

/-!
# Lines of limited width

A text that is too wide is broken between its words. A word that is wider than a line is cut, and
a mark stands where the cut is.
-/

namespace ExprLexer.Text

def ellipsis : CodePoint := '…'

def gappedWords : Text → List Text
  | [] => []
  | c :: t =>
    match gappedWords t with
    | [] => [[c]]
    | word :: rest =>
      match c.isBlank, word.takeWhile CodePoint.isBlank, word.dropWhile CodePoint.isBlank with
      | false, b :: gap, d :: next => (c :: b :: gap) :: (d :: next) :: rest
      | _, _, _ => (c :: word) :: rest

def trimRight (t : Text) : Text :=
  (t.reverse.dropWhile CodePoint.isBlank).reverse

/-- Fills lines with words; `line`, which takes `used` columns, is the one under way. -/
def fillLines (columns : Nat) : (line : Text) → (used : Nat) → List Text → List Text
  | line, _, [] => [line]
  | line, used, word :: rest =>
    if used + word.trimRight.width ≤ columns ∨ line = [] then
      fillLines columns (line ++ word) (used + word.width) rest
    else line :: fillLines columns word word.width rest

/-- Takes away blanks at the end, but none of the first `length` code points. -/
def dropGap (length : Nat) (t : Text) : Text :=
  t.take (max length t.trimRight.length)

def cut (columns : Nat) (t : Text) : Text :=
  let fits (n : Nat) : Bool := width (t.take n) ≤ columns
  padRight columns (t.take (((List.range (t.length + 1)).filter fits).getLastD 0))

def shorten (columns : Nat) (t : Text) : Text :=
  if t.width ≤ columns then t else t.cut (columns - 1) ++ [ellipsis]

def wrap (columns : Nat) (t : Text) : List Text :=
  (fillLines columns [] 0 t.gappedWords).map fun line => (line.dropGap columns).shorten columns

end ExprLexer.Text
