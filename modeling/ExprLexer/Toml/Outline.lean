import ExprLexer.Toml.Value

/-!
# The outline of a document under construction

Tables that are still open, as a tree. A table is open until a header or a dotted key of an earlier
section has claimed it; a value, also one that is an inline table or an array, is closed at once. In
an array of tables only the last one can grow.
-/

namespace ExprLexer.Toml

inductive Node
  | value (v : Value)
  | table (claimed : Bool) (entries : List (Text × Node))
  /-- An array of tables: the finished ones and the last. -/
  | tables (earlier : List (List (Text × Node))) (last : List (Text × Node))

abbrev Outline := List (Text × Node)

mutual

def Node.toValue : Node → Value
  | .value v => v
  | .table _ entries => .table (entriesToValues entries)
  | .tables earlier last => .array (tablesToValues earlier ++ [.table (entriesToValues last)])

def entriesToValues : List (Text × Node) → List (Text × Value)
  | [] => []
  | (key, node) :: rest => (key, node.toValue) :: entriesToValues rest

def tablesToValues : List (List (Text × Node)) → List Value
  | [] => []
  | entries :: rest => .table (entriesToValues entries) :: tablesToValues rest

end

def Node.isTable : Node → Bool
  | .table _ _ | .tables _ _ => true
  | .value _ => false

def Node.isClosed : Node → Bool
  | .value v => v.items?.isSome || v.entries?.isSome
  | .table _ _ | .tables _ _ => false

/-- What stands in the way of a change: on the way to the last key, with the keys that lead there,
or under the last key. -/
inductive Clash
  | onTheWay (keys : List Text) (node : Node)
  | atTheEnd (node : Node)

namespace Clash

def node : Clash → Node
  | onTheWay _ node | atTheEnd node => node

def below (key : Text) : Clash → Clash
  | onTheWay keys node => onTheWay (key :: keys) node
  | atTheEnd node => atTheEnd node

end Clash

namespace Outline

def modify (key : Text) (f : Option Node → Except Clash Node) : Outline → Except Clash Outline
  | [] => (f none).map fun node => [(key, node)]
  | (k, node) :: rest =>
    if k = key then (f (some node)).map fun node => (k, node) :: rest
    else (modify key f rest).map ((k, node) :: ·)

/-- Changes the table at a path, adding the tables on the way that are missing. -/
def within (f : Outline → Except Clash Outline) :
    (path : List Text) → Outline → Except Clash Outline
  | [], o => f o
  | key :: path, o =>
    let change (o : Outline) : Except Clash Outline := (within f path o).mapError (Clash.below key)
    o.modify key fun
      | none => (change []).map (.table false)
      | some (.table claimed entries) => (change entries).map (.table claimed)
      | some (.tables earlier last) => (change last).map (.tables earlier)
      | some node => .error (.onTheWay [key] node)

def modifyAt (f : Option Node → Except Clash Node) (path : List Text) (o : Outline) :
    Except Clash Outline :=
  match path.getLast? with
  | none => .ok o
  | some key => o.within (modify key f) path.dropLast

def openTable (path : List Text) (o : Outline) : Except Clash Outline :=
  o.modifyAt (fun
    | none => .ok (.table true [])
    | some (.table false entries) => .ok (.table true entries)
    | some node => .error (.atTheEnd node)) path

def appendTable (path : List Text) (o : Outline) : Except Clash Outline :=
  o.modifyAt (fun
    | none => .ok (.tables [] [])
    | some (.tables earlier last) => .ok (.tables (earlier ++ [last]) [])
    | some node => .error (.atTheEnd node)) path

/-- Claims a table that dotted keys of a section have used. -/
def claim (path : List Text) (o : Outline) : Outline :=
  (o.modifyAt (fun
    | none => .ok (.table true [])
    | some (.table _ entries) => .ok (.table true entries)
    | some node => .ok node) path).toOption.getD o

/-- Gives a dotted key its value. The tables on the way must not be claimed, and the last key must
be new. -/
def assign (v : Value) : (keys : List Text) → Outline → Except Clash Outline
  | [], o => .ok o
  | [key], o =>
    o.modify key fun
      | none => .ok (.value v)
      | some node => .error (.atTheEnd node)
  | key :: keys, o =>
    let change (o : Outline) : Except Clash Outline :=
      (assign v keys o).mapError (Clash.below key)
    o.modify key fun
      | none => (change []).map (.table false)
      | some (.table false entries) => (change entries).map (.table false)
      | some node => .error (.onTheWay [key] node)

end Outline

end ExprLexer.Toml
