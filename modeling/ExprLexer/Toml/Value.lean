import ExprLexer.Text

/-!
# TOML values

The values of a TOML document. A number or a moment keeps the spelling it was written with.
-/

namespace ExprLexer.Toml

inductive Value
  | text (t : Text)
  | boolean (b : Bool)
  | number (spelling : Text)
  | moment (spelling : Text)
  | array (items : List Value)
  | table (entries : List (Text × Value))

/-- The keys of a document with their values. -/
abbrev Document := List (Text × Value)

namespace Value

def text? : Value → Option Text
  | text t => some t
  | _ => none

def items? : Value → Option (List Value)
  | array items => some items
  | _ => none

def entries? : Value → Option (List (Text × Value))
  | table entries => some entries
  | _ => none

/-- The items of an array that holds nothing but texts. -/
def texts? (v : Value) : Option (List Text) :=
  v.items?.bind fun items => items.mapM text?

theorem text?_eq_some {v : Value} {t : Text} : v.text? = some t ↔ v = .text t := by
  cases v <;> simp [text?]

theorem entries?_eq_some {v : Value} {entries : List (Text × Value)} :
    v.entries? = some entries ↔ v = .table entries := by
  cases v <;> simp [entries?]

end Value

end ExprLexer.Toml
