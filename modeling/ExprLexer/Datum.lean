import ExprLexer.Binary64
import ExprLexer.Text.Quoted

/-!
# Data offered as operators

A vocabulary is built from data of any shape, and refuses what is not a text. A refusal shows the
datum it refuses, so every datum has a display.
-/

namespace ExprLexer

inductive Datum
  | null
  | bool (b : Bool)
  | int (i : Int)
  | float (x : Binary64)
  | text (t : Text)
  | list (items : List Datum)
  | dict (entries : List (Text × Datum))

namespace Datum

mutual

def display : Datum → Text
  | null => "None"
  | bool b => if b then "True" else "False"
  | int i => Text.ofInt i
  | float x => x.display
  | text t => t.quoted
  | list items => "[" ++ Text.join ", " (displayItems items) ++ "]"
  | dict entries => "\x7b" ++ Text.join ", " (displayEntries entries) ++ "\x7d"

def displayItems : List Datum → List Text
  | [] => []
  | d :: ds => display d :: displayItems ds

def displayEntries : List (Text × Datum) → List Text
  | [] => []
  | (key, d) :: rest => (key.quoted ++ ": " ++ display d) :: displayEntries rest

end

/-- The members of a collection of operators. A text is the collection of its code points, and a
datum that is no collection has none. -/
def items? : Datum → Option (List Datum)
  | list items => some items
  | text t => some (t.map fun c => text [c])
  | dict entries => some (entries.map fun (key, _) => text key)
  | _ => none

/-- A list or a dictionary cannot be looked up in a table. -/
def isKey : Datum → Bool
  | list _ | dict _ => false
  | _ => true

end Datum

end ExprLexer
