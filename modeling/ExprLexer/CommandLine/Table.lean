import ExprLexer.Console.Markup
import ExprLexer.Text.Wrap
import ExprLexer.Token

/-!
# The table of tokens

A numbered row for each token, under a title and a header, in a frame. A column is as wide as its
widest cell, with a space on each side, as long as the table fits into the terminal; otherwise texts
are wrapped. The width of a cell is that of its whole text, but it is filled up by the widths of its
runs, so a selector that starts a run widens nothing before it.
-/

namespace ExprLexer.Table

structure Row where
  number : Text
  kind : Text
  text : Markup.Rendered

def header : Row := ⟨"#", "Kind", .ofText "Text"⟩

def row (number : Nat) (t : Token) : Except Markup.Fault Row :=
  (Markup.render t.text.quoted).map fun text => ⟨Text.ofNat number, t.kind.name, text⟩

structure Widths where
  number : Nat
  kind : Nat
  text : Nat

def widths (rows : List Row) : Widths :=
  let widest (cell : Row → Text) : Nat :=
    rows.foldl (fun n row => max n (cell row).width) (cell header).width
  ⟨widest Row.number, widest Row.kind, widest fun row => row.text.text⟩

/-- A horizontal line of the frame: its left end, its crossings, its right end and what lies
between. -/
def rule (left cross right fill : Char) (w : Widths) : Text :=
  let part (n : Nat) : Text := Text.repeated (n + 2) fill
  [CodePoint.ofChar left] ++ part w.number ++ [CodePoint.ofChar cross] ++ part w.kind ++
    [CodePoint.ofChar cross] ++ part w.text ++ [CodePoint.ofChar right]

/-- A rendered text with spaces on the right up to the given width, run by run. -/
def fill (width : Nat) (r : Markup.Rendered) : Text :=
  r.text ++ Text.repeated (width - (r.runs.map Text.width).foldl (· + ·) 0) ' '

def cellLines (width : Nat) (r : Markup.Rendered) : List Text :=
  if r.text.width ≤ width then [fill width r] else (r.text.wrap width).map (Text.padRight width)

def cellsLine (bar : Char) (w : Widths) (number kind text : Text) : Text :=
  let bar : Text := [CodePoint.ofChar bar]
  let cell (t : Text) : Text := " " ++ t ++ " "
  bar ++ cell (number.padLeft w.number) ++ bar ++ cell (kind.padRight w.kind) ++ bar ++
    cell text ++ bar

def rowLines (bar : Char) (w : Widths) (row : Row) : List Text :=
  match cellLines w.text row.text with
  | [] => []
  | first :: rest =>
    cellsLine bar w row.number row.kind first :: rest.map (cellsLine bar w [] [])

def columns : Nat := 80

def frameWidth : Nat := 10

def totalWidth (w : Widths) : Nat :=
  w.number + w.kind + w.text + frameWidth

/-- Only the column of texts gives way in a table that is too wide. The two others never fill the
terminal by themselves. -/
def Widths.limited (w : Widths) : Widths :=
  { w with text := min w.text (columns - (w.number + w.kind + frameWidth)) }

def lines (title : Text) (rows : List Row) : List Text :=
  let w := (widths rows).limited
  [title.center (totalWidth w), rule '┏' '┳' '┓' '━' w] ++ rowLines '┃' w header ++
    [rule '┡' '╇' '┩' '━' w] ++ rows.flatMap (rowLines '│' w) ++ [rule '└' '┴' '┘' '─' w]

/-- The table of a list of tokens, unless the markup of a text is faulty. A bad color among the
parameters of a tag comes to light only when all texts have been read. -/
def ofTokens (ts : List Token) : Except Markup.Fault Text := do
  let rows ← ts.zipIdx.mapM fun (t, n) => row n t
  if rows.all fun row => row.text.hasGoodColors then
    let title := Text.ofNat ts.length ++ " token(s)"
    return (lines title rows).flatMap fun line => line ++ ("\n" : Text)
  else throw .badColor

end ExprLexer.Table
