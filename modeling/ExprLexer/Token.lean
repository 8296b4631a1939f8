import ExprLexer.Datum

/-!
# Tokens

A token is a kind with a text: the input it was read from, less the mark of its base for
hexadecimal, octal and binary numbers, and with the escapes decoded for string literals.
-/

namespace ExprLexer

inductive Kind
  | leftBracket
  | rightBracket
  | separator
  | symbol
  | symbolWithArgs
  | operator
  | stringLiteral
  | decimalNumber
  | hexNumber
  | octalNumber
  | binaryNumber
  | radixNumber
  deriving DecidableEq

namespace Kind

def all : List Kind :=
  [leftBracket, rightBracket, separator, symbol, symbolWithArgs, operator, stringLiteral,
    decimalNumber, hexNumber, octalNumber, binaryNumber, radixNumber]

def name : Kind → String
  | leftBracket => "left_bracket"
  | rightBracket => "right_bracket"
  | separator => "separator"
  | symbol => "symbol"
  | symbolWithArgs => "symbol_with_args"
  | operator => "operator"
  | stringLiteral => "string_literal"
  | decimalNumber => "decimal_number"
  | hexNumber => "hex_number"
  | octalNumber => "octal_number"
  | binaryNumber => "binary_number"
  | radixNumber => "radix_number"

def upperName (k : Kind) : String :=
  k.name.map Char.toUpper

def isNumber : Kind → Bool
  | decimalNumber | hexNumber | octalNumber | binaryNumber | radixNumber => true
  | _ => false

def ofName? (t : Text) : Option Kind :=
  all.find? fun k => Text.ofString k.name = t

theorem mem_all (k : Kind) : k ∈ all := by
  cases k <;> simp [all]

theorem ofName?_name : ∀ k ∈ all, ofName? k.name = some k := by
  decide

theorem eq_of_name_eq {k k' : Kind} (h : Text.ofString k.name = Text.ofString k'.name) :
    k = k' := by
  apply Option.some.inj
  rw [← ofName?_name k k.mem_all, h, ofName?_name k' k'.mem_all]

end Kind

structure Token where
  kind : Kind
  text : Text
  deriving DecidableEq

namespace Token

/-- The kind, and the quoted text in parentheses. -/
def display (t : Token) : Text :=
  t.kind.name ++ "(" ++ t.text.quoted ++ ")"

/-- The display with both fields named and the kind spelled in full. -/
def describe (t : Token) : Text :=
  "Token(kind=<TokenKind." ++ t.kind.upperName ++ ": '" ++ t.kind.name ++ "'>, text=" ++
    t.text.quoted ++ ")"

inductive FieldFault
  | missing
  | notAKind
  | notAText
  | readOnly
  deriving DecidableEq

def readKind : Option Datum → Except FieldFault Kind
  | none => .error .missing
  | some (.text t) =>
    match Kind.ofName? t with
    | some k => .ok k
    | none => .error .notAKind
  | some _ => .error .notAKind

def readText : Option Datum → Except FieldFault Text
  | none => .error .missing
  | some (.text t) => .ok t
  | some _ => .error .notAText

def kindField : Text := "kind"

def textField : Text := "text"

/-- A token from named fields, of which the others are ignored. Both fields are checked, and the
faults come in the order kind, text. -/
def ofFields (fields : List (Text × Datum)) : Except (List (Text × FieldFault)) Token :=
  match readKind (fields.lookup kindField), readText (fields.lookup textField) with
  | .ok kind, .ok text => .ok ⟨kind, text⟩
  | .error k, .ok _ => .error [(kindField, k)]
  | .ok _, .error t => .error [(textField, t)]
  | .error k, .error t => .error [(kindField, k), (textField, t)]

/-- A token never changes, so every assignment to a field fails. -/
def assign (_ : Token) (field : Text) : List (Text × FieldFault) :=
  [(field, .readOnly)]

end Token

end ExprLexer
