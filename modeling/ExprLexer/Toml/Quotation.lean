import ExprLexer.Text.Hex
import ExprLexer.Toml.Spacing

/-!
# TOML strings

Basic strings stand between double quotes and have escapes, literal strings stand between single
quotes and have none. Either may stand between triple quotes and then span lines.
-/

namespace ExprLexer.Toml

def isForbidden (multiline : Bool) (c : CodePoint) : Bool :=
  isControl c && !(multiline && c = newline)

def shortEscapes : List (CodePoint × CodePoint) :=
  [('b', '\x08'), ('t', '\t'), ('n', '\n'), ('f', '\x0c'), ('r', '\r'), ('"', '"'), ('\\', '\\')]

def scalarValue (width : Nat) (t : Text) : Except Halt CodePoint :=
  let digits := t.take width
  if digits.length = width ∧ digits.all CodePoint.isHexDigit then
    match (CodePoint.ofNat? (Text.hexValue digits)).filter fun c => c.toChar?.isSome with
    | some c => .ok c
    | none => .error ⟨.scalarValue, t.drop width⟩
  else .error ⟨.hexDigits, t⟩

/-- The length of the line break that a backslash at the end of a line hides, together with the
space around it. At the end of the text no break is needed. -/
def hiddenBreak (t : Text) : Except Halt Nat :=
  let space := t.takeWhile isSpace
  match t.drop space.length with
  | [] => .ok space.length
  | c :: rest =>
    if c = newline then .ok (space.length + 1 + (rest.takeWhile isSpaceOrNewline).length)
    else .error ⟨.escape, c :: rest⟩

def escape (multiline : Bool) : Text → Except Halt (Text × Nat)
  | [] => .error ⟨.escape, []⟩
  | c :: t =>
    if multiline && isSpaceOrNewline c then (hiddenBreak (c :: t)).map fun n => ([], n)
    else if c = 'u' then (scalarValue 4 t).map fun c => ([c], 5)
    else if c = 'U' then (scalarValue 8 t).map fun c => ([c], 9)
    else
      match shortEscapes.lookup c with
      | some c => .ok ([c], 1)
      | none => .error ⟨.escape, t⟩

def prepend (decoded : Text) (r : Text × Text) : Text × Text :=
  (decoded ++ r.1, r.2)

def basicBody (multiline : Bool) (t : Text) : Except Halt (Text × Text) :=
  match t with
  | [] => .error ⟨.stringEnd, []⟩
  | c :: t =>
    if c = '"' then
      if multiline then
        match Text.after? ['"', '"'] t with
        | some rest => .ok ([], rest)
        | none => (basicBody multiline t).map (prepend [c])
      else .ok ([], t)
    else if c = '\\' then
      match escape multiline t with
      | .ok (decoded, n) => (basicBody multiline (t.drop n)).map (prepend decoded)
      | .error halt => .error halt
    else if isForbidden multiline c then .error ⟨.illegalCharacter c, c :: t⟩
    else (basicBody multiline t).map (prepend [c])
termination_by t.length
decreasing_by all_goals simp only [List.length_cons, List.length_drop]; omega

def literalQuotes (multiline : Bool) : Text :=
  if multiline then "'''" else "'"

def closes (quotes : Text) : Text → Bool
  | [] => false
  | c :: t => quotes.isPrefixOf (c :: t) || closes quotes t

/-- The rest of a literal string, and the text after its closing quotes. That these are missing is
reported before what the string may not hold. -/
def literalBody (multiline : Bool) : Text → Except Halt (Text × Text)
  | [] => .error ⟨.literalEnd (literalQuotes multiline), []⟩
  | c :: t =>
    match Text.after? (literalQuotes multiline) (c :: t) with
    | some rest => .ok ([], rest)
    | none =>
      if isForbidden multiline c then
        if closes (literalQuotes multiline) t then .error ⟨.invalidCharacter c, c :: t⟩
        else .error ⟨.literalEnd (literalQuotes multiline), []⟩
      else (literalBody multiline t).map (prepend [c])

/-- Up to two quotes right before the closing triple belong to the string. -/
def absorbQuotes (mark : CodePoint) (r : Text × Text) : Text × Text :=
  let extra := (r.2.takeWhile (· == mark)).take 2
  (r.1 ++ extra, r.2.drop extra.length)

/-- A line end right after the opening quotes is dropped. -/
def dropNewline : Text → Text
  | [] => []
  | c :: t => if c = newline then t else c :: t

def lineString? : Text → Option (Except Halt (Text × Text))
  | [] => none
  | c :: t =>
    if c = '"' then some (basicBody false t)
    else if c = '\'' then some (literalBody false t)
    else none

def string? (t : Text) : Option (Except Halt (Text × Text)) :=
  match Text.after? ['"', '"', '"'] t with
  | some body => some ((basicBody true (dropNewline body)).map (absorbQuotes '"'))
  | none =>
    match Text.after? (literalQuotes true) t with
    | some body => some ((literalBody true (dropNewline body)).map (absorbQuotes '\''))
    | none => lineString? t

end ExprLexer.Toml
