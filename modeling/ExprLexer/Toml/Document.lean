import ExprLexer.Toml.Outline
import ExprLexer.Toml.Quotation
import ExprLexer.Toml.Scalar

/-!
# TOML documents

A document is a sequence of lines that each hold a header, a key with its value, or nothing. The
main function reads a text as a table, or reports the first fault. Recursion is bounded by the
length of the text, since every step takes at least one code point of it.
-/

namespace ExprLexer.Toml

def isBareKeyPart (c : CodePoint) : Bool :=
  c.isLetter || c.isDigit || c = '-' || c = '_'

def keyPart (t : Text) : Except Halt (Text × Text) :=
  match t.takeWhile isBareKeyPart with
  | [] => (lineString? t).getD (.error ⟨.keyPart, t⟩)
  | part => .ok (part, t.dropWhile isBareKeyPart)

/-- A key of at most `limit` parts between points, and the text after it and its space. -/
def key : (limit : Nat) → Text → Except Halt (List Text × Text)
  | 0, t => .error ⟨.keyPart, t⟩
  | limit + 1, t => do
    let (part, t) ← keyPart t
    let t := skipSpace t
    match Text.after? ['.'] t with
    | none => return ([part], t)
    | some t =>
      let (parts, t) ← key limit (skipSpace t)
      return (part :: parts, t)

def spelling (t rest : Text) : Text :=
  t.take (t.length - rest.length)

def boolean? (t : Text) : Option (Value × Text) :=
  match Text.after? ['t', 'r', 'u', 'e'] t with
  | some rest => some (.boolean true, rest)
  | none =>
    (Text.after? ['f', 'a', 'l', 's', 'e'] t).map fun rest => (.boolean false, rest)

/-- A moment or a number. What starts like a date has to be one. -/
def scalar (t : Text) : Except Halt (Value × Text) :=
  match date? t with
  | some (date, rest) =>
    let rest := (joinedTime? rest).getD rest
    if date.isValid then .ok (.moment (spelling t rest), rest) else .error ⟨.moment, t⟩
  | none =>
    match time? t with
    | some rest => .ok (.moment (spelling t rest), rest)
    | none =>
      match number? t with
      | some rest => .ok (.number (spelling t rest), rest)
      | none => .error ⟨.value, t⟩

def inlineReason (keys : List Text) (clash : Clash) : Reason :=
  if clash.node.isClosed then .immutable keys
  else
    match clash with
    | .onTheWay _ _ => .overwritten
    | .atTheEnd _ => .duplicateKey (keys.getLastD [])

mutual

def value : (fuel : Nat) → Text → Except Halt (Value × Text)
  | 0, t => .error ⟨.value, t⟩
  | _, [] => .error ⟨.value, []⟩
  | fuel + 1, c :: t =>
    match string? (c :: t) with
    | some r => r.map fun (s, rest) => (.text s, rest)
    | none =>
      if c = '[' then do
        let t ← skipLines false t
        match Text.after? [']'] t with
        | some rest => return (.array [], rest)
        | none =>
          let (vs, rest) ← items fuel t
          return (.array vs, rest)
      else if c = '\x7b' then
        let t := skipSpace t
        match Text.after? ['\x7d'] t with
        | some rest => .ok (.table [], rest)
        | none => do
          let (entries, rest) ← members fuel [] t
          return (.table (entriesToValues entries), rest)
      else
        match boolean? (c :: t) with
        | some r => .ok r
        | none => scalar (c :: t)

def items : (fuel : Nat) → Text → Except Halt (List Value × Text)
  | 0, t => .error ⟨.arrayEnd, t⟩
  | fuel + 1, t => do
    let (v, t) ← value fuel t
    let t ← skipLines false t
    match Text.after? [']'] t, Text.after? [','] t with
    | some rest, _ => return ([v], rest)
    | none, none => throw ⟨.arrayEnd, t⟩
    | none, some t =>
      let t ← skipLines false t
      match Text.after? [']'] t with
      | some rest => return ([v], rest)
      | none =>
        let (vs, rest) ← items fuel t
        return (v :: vs, rest)

/-- The entries of an inline table up to its closing brace, before which no comma may stand. -/
def members : (fuel : Nat) → Outline → Text → Except Halt (Outline × Text)
  | 0, _, t => .error ⟨.inlineTableEnd, t⟩
  | fuel + 1, entries, t => do
    let ((keys, v), t) ← pair fuel t
    let entries ← (entries.assign v keys).mapError fun clash => ⟨inlineReason keys clash, t⟩
    let t := skipSpace t
    match Text.after? ['\x7d'] t, Text.after? [','] t with
    | some rest, _ => return (entries, rest)
    | none, none => throw ⟨.inlineTableEnd, t⟩
    | none, some t => members fuel entries (skipSpace t)

def pair : (fuel : Nat) → Text → Except Halt ((List Text × Value) × Text)
  | 0, t => .error ⟨.keyPart, t⟩
  | fuel + 1, t => do
    let (keys, t) ← key (t.length + 1) t
    match Text.after? ['='] t with
    | none => throw ⟨.equals, t⟩
    | some t =>
      let (v, rest) ← value fuel (skipSpace t)
      return ((keys, v), rest)

end

/-- Enough for the deepest nesting that a text can hold: no more than three steps take the same code
point. -/
def fuelFor (t : Text) : Nat :=
  3 * (t.length + 1)

/-- What has been read: the tables so far, the path of the current section, and the paths that its
dotted keys have used. -/
structure Draft where
  outline : Outline
  path : List Text
  dotted : List (List Text)

namespace Draft

def empty : Draft := ⟨[], [], []⟩

def dottedPaths (path keys : List Text) : List (List Text) :=
  (List.range (keys.length - 1)).map fun n => path ++ keys.take (n + 1)

def dottedReason (path keys : List Text) : Clash → Reason
  | .onTheWay used node =>
    if node.isTable then .redefined used
    else if node.isClosed then .immutable (path ++ keys.dropLast)
    else .overwritten
  | .atTheEnd _ => .overwritten

def assign (d : Draft) (keys : List Text) (v : Value) : Except Reason Draft :=
  match d.outline.within (Outline.assign v keys) d.path with
  | .error clash => .error (dottedReason d.path keys clash)
  | .ok outline => .ok { d with outline, dotted := d.dotted ++ dottedPaths d.path keys }

def close (d : Draft) : Outline :=
  d.dotted.foldl (fun o path => o.claim path) d.outline

structure Header where
  opening : Text
  closing : Text
  enter : List Text → Outline → Except Clash Outline
  reason : List Text → Clash → Reason
  unclosed : Reason

def Header.table : Header where
  opening := "["
  closing := "]"
  enter := Outline.openTable
  reason path clash :=
    if clash.node.isTable || clash.node.isClosed then .declaredTwice path else .overwritten
  unclosed := .headerEnd

def Header.tables : Header where
  opening := "[["
  closing := "]]"
  enter := Outline.appendTable
  reason path clash := if clash.node.isClosed then .immutable path else .overwritten
  unclosed := .tablesHeaderEnd

def header (d : Draft) (h : Header) (t : Text) : Except Halt (Draft × Text) := do
  let (path, t) ← key (t.length + 1) (skipSpace t)
  match h.enter path d.close with
  | .error clash => throw ⟨h.reason path clash, t⟩
  | .ok outline =>
    match Text.after? h.closing t with
    | none => throw ⟨h.unclosed, t⟩
    | some rest => return (⟨outline, path, []⟩, rest)

def dottedPair (d : Draft) (t : Text) : Except Halt (Draft × Text) := do
  let ((keys, v), rest) ← pair (fuelFor t) t
  match d.assign keys v with
  | .error reason => throw ⟨reason, rest⟩
  | .ok d => return (d, rest)

/-- The statement at the start of a line, if there is one. -/
def statement (d : Draft) (t : Text) : Except Halt (Draft × Text) :=
  match Text.after? Header.tables.opening t, Text.after? Header.table.opening t, t with
  | some rest, _, _ => d.header .tables rest
  | none, some rest, _ => d.header .table rest
  | none, none, [] => .ok (d, [])
  | none, none, c :: t =>
    if c = newline ∨ c = '#' then .ok (d, c :: t)
    else if isBareKeyPart c ∨ c = '"' ∨ c = '\'' then d.dottedPair (c :: t)
    else .error ⟨.statement, c :: t⟩

def lines : (limit : Nat) → Draft → Text → Except Halt Draft
  | _, d, [] => .ok d
  | 0, _, t => .error ⟨.statement, t⟩
  | limit + 1, d, t => do
    let (d, t) ← d.statement (skipSpace t)
    let t ← endLine t
    lines limit d t

end Draft

def parse (t : Text) : Except Fault Document :=
  match Draft.empty.lines (t.length + 1) t with
  | .error halt => .error (.ofHalt t halt)
  | .ok d => .ok (entriesToValues d.outline)

end ExprLexer.Toml
