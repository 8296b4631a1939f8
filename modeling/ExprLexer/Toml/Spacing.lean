import ExprLexer.Toml.Fault

/-!
# Space between TOML tokens

Spaces, tabs, comments and line ends. A comment reaches to the end of its line and may hold no
control character but the tab.
-/

namespace ExprLexer.Toml

def newline : CodePoint := '\n'

def isSpace (c : CodePoint) : Bool :=
  c = ' ' || c = '\t'

def isSpaceOrNewline (c : CodePoint) : Bool :=
  isSpace c || c = newline

/-- A control character other than the tab. The line end is one. -/
def isControl (c : CodePoint) : Bool :=
  (c.val < 0x20 && c.val != 0x09) || c.val == 0x7F

def skipSpace (t : Text) : Text :=
  t.dropWhile isSpace

def skipLines : (inComment : Bool) → Text → Except Halt Text
  | _, [] => .ok []
  | true, c :: t =>
    if c = newline then skipLines false t
    else if isControl c then .error ⟨.invalidCharacter c, c :: t⟩
    else skipLines true t
  | false, c :: t =>
    if isSpaceOrNewline c then skipLines false t
    else if c = '#' then skipLines true t
    else .ok (c :: t)

/-- Passes over what may end a line: space, a comment, and the line end or the end of the text. -/
def endLine (t : Text) : Except Halt Text :=
  match skipSpace t with
  | [] => .ok []
  | c :: t =>
    if c = newline then .ok t
    else if c = '#' then
      match t.dropWhile fun c => !isControl c with
      | [] => .ok []
      | c :: t => if c = newline then .ok t else .error ⟨.invalidCharacter c, c :: t⟩
    else .error ⟨.afterStatement, c :: t⟩

end ExprLexer.Toml
