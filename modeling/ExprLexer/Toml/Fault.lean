import ExprLexer.Text.Quoted
import ExprLexer.Toml.Value

/-!
# TOML faults

Why a text is no TOML document: the reason, and the place in the text that it is about. Whatever
stops while it reads reports the text from that place on, from which line and column follow.
-/

namespace ExprLexer.Toml

inductive Reason
  | statement
  | afterStatement
  /-- A control character in a comment or in a literal string. -/
  | invalidCharacter (c : CodePoint)
  /-- A control character in a basic string. -/
  | illegalCharacter (c : CodePoint)
  | keyPart
  | equals
  | value
  | moment
  | stringEnd
  | literalEnd (quotes : Text)
  | escape
  | hexDigits
  | scalarValue
  | arrayEnd
  | inlineTableEnd
  | headerEnd
  | tablesHeaderEnd
  | declaredTwice (path : List Text)
  | redefined (path : List Text)
  | immutable (path : List Text)
  | overwritten
  | duplicateKey (key : Text)
  deriving DecidableEq

/-- The keys of a path in parentheses. A single one has a comma behind it. -/
def pathDisplay (path : List Text) : Text :=
  "(" ++ Text.join ", " (path.map Text.quoted) ++ (if path.length = 1 then "," else "") ++ ")"

def Reason.message : Reason → Text
  | statement => "Invalid statement"
  | afterStatement => "Expected newline or end of document after a statement"
  | invalidCharacter c => "Found invalid character " ++ Text.quoted [c]
  | illegalCharacter c => "Illegal character " ++ Text.quoted [c]
  | keyPart => "Invalid initial character for a key part"
  | equals => "Expected '=' after a key in a key/value pair"
  | value => "Invalid value"
  | moment => "Invalid date or datetime"
  | stringEnd => "Unterminated string"
  | literalEnd quotes => "Expected " ++ quotes.quoted
  | escape => "Unescaped '\\' in a string"
  | hexDigits => "Invalid hex value"
  | scalarValue => "Escaped character is not a Unicode scalar value"
  | arrayEnd => "Unclosed array"
  | inlineTableEnd => "Unclosed inline table"
  | headerEnd => "Expected ']' at the end of a table declaration"
  | tablesHeaderEnd => "Expected ']]' at the end of an array declaration"
  | declaredTwice path => "Cannot declare " ++ pathDisplay path ++ " twice"
  | redefined path => "Cannot redefine namespace " ++ pathDisplay path
  | immutable path => "Cannot mutate immutable namespace " ++ pathDisplay path
  | overwritten => "Cannot overwrite a value"
  | duplicateKey key => "Duplicate inline table key " ++ key.quoted

/-- A reason with the text from the place on that it is about. -/
structure Halt where
  reason : Reason
  rest : Text

structure Fault where
  reason : Reason
  /-- The line and the column, unless the place is the end of the document. -/
  place? : Option (Nat × Nat)
  deriving DecidableEq

namespace Fault

def ofHalt (source : Text) (h : Halt) : Fault where
  reason := h.reason
  place? :=
    if h.rest = [] then none
    else
      let read := source.take (source.length - h.rest.length)
      let isLineEnd (c : CodePoint) : Bool := c = '\n'
      some (read.countP isLineEnd + 1,
        (read.reverse.takeWhile fun c => !isLineEnd c).length + 1)

def message (f : Fault) : Text :=
  let place : Text :=
    match f.place? with
    | none => "end of document"
    | some (line, column) => "line " ++ Text.ofNat line ++ ", column " ++ Text.ofNat column
  f.reason.message ++ " (at " ++ place ++ ")"

end Fault

end ExprLexer.Toml
