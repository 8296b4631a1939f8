import ExprLexer.Text.Width

/-!
# Notices

Text that is printed on lines of its own. Bell, backspace, vertical tab, form feed and carriage
return are left out, and a tab is filled up with spaces to the next stop.
-/

namespace ExprLexer.Notice

def isLeftOut (c : CodePoint) : Bool :=
  c.val == 0x07 || c.val == 0x08 || c.val == 0x0B || c.val == 0x0C || c.val == 0x0D

/-- The columns between two stops. -/
def tabSize : Nat := 8

/-- Joins the parts between tabs from `column` on. A tab takes one column at least. -/
def fillTabs (column : Nat) : List Text → Text
  | [] => []
  | [part] => part
  | part :: rest =>
    let part : Text := part ++ " "
    let column := column + part.width
    let fill := (tabSize - column % tabSize) % tabSize
    part ++ Text.repeated fill ' ' ++ fillTabs (column + fill) rest

def isTab (c : CodePoint) : Bool := c = '\t'

def isNewline (c : CodePoint) : Bool := c = '\n'

def expandTabs (t : Text) : Text :=
  Text.join "\n" ((t.split isNewline).map fun line => fillTabs 0 (line.split isTab))

def display (t : Text) : Text :=
  expandTabs (t.filter fun c => !isLeftOut c)

end ExprLexer.Notice
