import ExprLexer.Text.Alphabet
import ExprLexer.Text.Case
import ExprLexer.Text.Decimal
import ExprLexer.Text.DigitRun

/-!
# Literals

Whether a text on one line without square brackets spells a constant: a number, a string, a truth
value, or a tuple, a set or a table of constants. All there is to compute are the sign before a
number, the sum of a real and an imaginary one, and the empty set, which has no braces of its own.
-/

namespace ExprLexer.Literal

inductive Piece
  | number (isImaginary : Bool)
  | string (isBytes : Bool)
  | word (t : Text)
  | mark (c : CodePoint)
  | ellipsis

def isNamePart (c : CodePoint) : Bool :=
  c.isLetter || c.isDigit || c = '_' || 0x80 ≤ c.val

def isUnderscore (c : CodePoint) : Bool := c = '_'

/-! ## Numbers -/

def basedNumber? (letters : List CodePoint) (isDigit : CodePoint → Bool) : Text → Option Text
  | c :: letter :: t =>
    if c = '0' ∧ letter ∈ letters then
      Text.digitRun? isDigit (if t.head?.any isUnderscore then t.tail else t)
    else none
  | _ => none

def fraction? (t : Text) : Option Text :=
  (Text.after? ['.'] t).map fun t => (Text.digitRun? CodePoint.isDigit t).getD t

def imaginaryUnit? : Text → Option Text
  | [] => none
  | c :: t => if c = 'j' ∨ c = 'J' then some t else none

/-- Whether digits are a whole number: one that starts with a zero holds nothing else, and any other
is not too long. -/
def isWhole (digits : Text) : Bool :=
  let digits := digits.filter fun c => !isUnderscore c
  if digits.head? = some (CodePoint.ofChar '0') then digits.all fun c => c = '0'
  else digits.length ≤ Text.maxDigits

def realTail? (t : Text) : Option (Bool × Text) :=
  let fraction := fraction? t
  let exponent := Text.exponent? (fraction.getD t)
  let rest := exponent.getD (fraction.getD t)
  match imaginaryUnit? rest with
  | some rest => some (true, rest)
  | none => if fraction.isSome || exponent.isSome then some (false, rest) else none

def decimalNumber? (t : Text) : Option (Bool × Text) :=
  match Text.digitRun? CodePoint.isDigit t with
  | some rest =>
    (realTail? rest).or
      (if isWhole (t.take (t.length - rest.length)) then some (false, rest) else none)
  | none =>
    match t with
    | [] => none
    | _ :: digits => (Text.digitRun? CodePoint.isDigit digits).bind fun _ => realTail? t

/-- A number, which no name may follow directly. -/
def number? (t : Text) : Option (Piece × Text) :=
  let whole := (basedNumber? ['x', 'X'] CodePoint.isHexDigit t).or
    ((basedNumber? ['o', 'O'] CodePoint.isOctalDigit t).or
      (basedNumber? ['b', 'B'] CodePoint.isBinaryDigit t))
  let read := (whole.map fun rest => (false, rest)).or (decimalNumber? t)
  (read.filter fun (_, rest) => !rest.head?.any isNamePart).map fun (isImaginary, rest) =>
    (.number isImaginary, rest)

/-! ## Strings -/

/-- A string up to its closing quotes, and what follows them. A backslash takes the next code point
with it. -/
def stringBody? (quotes : Text) : Text → Option (Text × Text)
  | [] => none
  | c :: t =>
    match Text.after? quotes (c :: t) with
    | some rest => some ([], rest)
    | none =>
      if c = '\\' then
        match t with
        | [] => none
        | d :: t => (stringBody? quotes t).map fun (body, rest) => (c :: d :: body, rest)
      else (stringBody? quotes t).map fun (body, rest) => (c :: body, rest)

/-- A string between single or triple quotes. Only text may hold code points beyond ASCII. -/
def quoted? (isBytes : Bool) (quote : CodePoint) (t : Text) : Option (Piece × Text) :=
  let body := match Text.after? [quote, quote, quote] t with
    | some t => stringBody? [quote, quote, quote] t
    | none => (Text.after? [quote] t).bind (stringBody? [quote])
  (body.filter fun (body, _) => !isBytes || body.all fun c => c.val < 0x80).map fun (_, rest) =>
    (.string isBytes, rest)

def textMarks : List Text := ["", "r", "u"]

def bytesMarks : List Text := ["b", "br", "rb"]

def isQuote (c : CodePoint) : Bool :=
  c = '"' || c = '\''

def string? (mark : Text) : Text → Option (Piece × Text)
  | [] => none
  | quote :: t =>
    if mark.lower ∈ textMarks then quoted? false quote (quote :: t)
    else if mark.lower ∈ bytesMarks then quoted? true quote (quote :: t)
    else none

/-! ## Pieces -/

def marks : List CodePoint := ['(', ')', '\x7b', '\x7d', ',', ':', '+', '-']

def wordOrString? (t : Text) : Option (Piece × Text) :=
  let name := t.takeWhile isNamePart
  let rest := t.drop name.length
  if rest.head?.any isQuote then string? name rest
  else if name = [] then none
  else some (.word name, rest)

def piece? : Text → Option (Piece × Text)
  | [] => none
  | c :: t =>
    if c.isDigit then number? (c :: t)
    else if c = '.' then
      ((Text.after? ['.', '.'] t).map fun rest => (.ellipsis, rest)).or (number? (c :: t))
    else if c ∈ marks then some (.mark c, t)
    else wordOrString? (c :: t)

/-- The pieces of a text. Spaces part them, and a comment reaches to the end. -/
def pieces? (t : Text) : Option (List Piece) :=
  match t with
  | [] => some []
  | c :: t =>
    if c = ' ' then pieces? t
    else if c = '#' then some []
    else
      match piece? (c :: t) with
      | none => none
      | some (p, rest) =>
        if _h : rest.length ≤ t.length then (pieces? rest).map (p :: ·) else none
termination_by t.length
decreasing_by all_goals simp only [List.length_cons]; omega

def maxDepth : Nat := 200

def isShallow (depth : Nat) : List Piece → Bool
  | [] => true
  | .mark c :: ps =>
    if c = '(' ∨ c = '\x7b' then depth < maxDepth && isShallow (depth + 1) ps
    else if c = ')' ∨ c = '\x7d' then isShallow (depth - 1) ps
    else isShallow depth ps
  | _ :: ps => isShallow depth ps

/-! ## Grammar -/

/-- What a piece of text spells, as far as it matters to what it may stand in. -/
inductive Form
  | number (isImaginary isSigned : Bool)
  | constant
  /-- A set, a table, or a tuple with one of them in it. -/
  | container
  /-- The name of the set, to which parentheses must follow. -/
  | setName

namespace Form

/-- Whether it may be in a set or be a key of a table. -/
def isKey : Form → Bool
  | number _ _ | constant => true
  | container | setName => false

def isValue : Form → Bool
  | number _ _ | constant | container => true
  | setName => false

end Form

def skip? (c : CodePoint) : List Piece → Option (List Piece)
  | .mark d :: ps => if c = d then some ps else none
  | _ => none

def skipSign? (ps : List Piece) : Option (List Piece) :=
  (skip? '+' ps).or (skip? '-' ps)

/-- What follows strings in a row, which must be of one kind. -/
def moreStrings? (isBytes : Bool) : List Piece → Option (List Piece)
  | .string b :: ps => if b = isBytes then moreStrings? isBytes ps else none
  | ps => some ps

def isConstantName (t : Text) : Bool :=
  t = "True" || t = "False" || t = "None"

def setLetters : List (List Nat) := [
  [0x73, 0x17F, 0x2E2, 0x209B, 0xFF53, 0x1D42C, 0x1D460, 0x1D494, 0x1D4C8, 0x1D4FC, 0x1D530,
    0x1D564, 0x1D598, 0x1D5CC, 0x1D600, 0x1D634, 0x1D668, 0x1D69C],
  [0x65, 0x1D49, 0x2091, 0x212F, 0x2147, 0xFF45, 0x1D41E, 0x1D452, 0x1D486, 0x1D4EE, 0x1D522,
    0x1D556, 0x1D58A, 0x1D5BE, 0x1D5F2, 0x1D626, 0x1D65A, 0x1D68E],
  [0x74, 0x1D57, 0x209C, 0xFF54, 0x1D42D, 0x1D461, 0x1D495, 0x1D4C9, 0x1D4FD, 0x1D531, 0x1D565,
    0x1D599, 0x1D5CD, 0x1D601, 0x1D635, 0x1D669, 0x1D69D]]

def isSetName (t : Text) : Bool :=
  t.length == setLetters.length &&
    (t.zip setLetters).all fun (c, letters) => letters.contains c.val

mutual

def atom? : (fuel : Nat) → List Piece → Option (Form × List Piece)
  | 0, _ | _, [] => none
  | n + 1, p :: ps =>
    match p with
    | .number isImaginary => some (.number isImaginary false, ps)
    | .string isBytes => (moreStrings? isBytes ps).map fun ps => (.constant, ps)
    | .ellipsis => some (.constant, ps)
    | .word t =>
      if isConstantName t then some (.constant, ps)
      else if isSetName t then some (.setName, ps)
      else none
    | .mark c =>
      if c = '(' then group? n ps
      else if c = '\x7b' then braces? n ps
      else none

def primary? : (fuel : Nat) → List Piece → Option (Form × List Piece)
  | 0, _ => none
  | n + 1, ps =>
    match atom? n ps with
    | some (.setName, ps) =>
      match (skip? '(' ps).bind (skip? ')') with
      | some ps => some (.container, ps)
      | none => some (.setName, ps)
    | read => read

def signed? : (fuel : Nat) → List Piece → Option (Form × List Piece)
  | 0, _ => none
  | n + 1, ps =>
    match skipSign? ps with
    | none => primary? n ps
    | some ps =>
      match atom? n ps with
      | some (.number isImaginary false, ps) => some (.number isImaginary true, ps)
      | _ => none

def sum? : (fuel : Nat) → List Piece → Option (Form × List Piece)
  | 0, _ => none
  | n + 1, ps =>
    match signed? n ps with
    | none => none
    | some (left, ps) =>
      match skipSign? ps with
      | none => some (left, ps)
      | some ps =>
        match left, atom? n ps with
        | .number false _, some (.number true false, ps) => some (.constant, ps)
        | _, _ => none

def value? : (fuel : Nat) → List Piece → Option (Form × List Piece)
  | 0, _ => none
  | n + 1, ps => (sum? n ps).filter fun (form, _) => form.isValue

/-- The rest of a tuple or a set: constants with commas between them up to the closing bracket. -/
def items? (closing : CodePoint) : (fuel : Nat) → List Piece → Option (List Form × List Piece)
  | 0, _ => none
  | n + 1, ps =>
    match skip? closing ps with
    | some ps => some ([], ps)
    | none =>
      match value? n ps with
      | none => none
      | some (form, ps) =>
        match skip? closing ps with
        | some ps => some ([form], ps)
        | none =>
          match skip? ',' ps with
          | none => none
          | some ps => (items? closing n ps).map fun (forms, ps) => (form :: forms, ps)

def group? : (fuel : Nat) → List Piece → Option (Form × List Piece)
  | 0, _ => none
  | n + 1, ps =>
    match skip? ')' ps with
    | some ps => some (.constant, ps)
    | none =>
      match sum? n ps with
      | none => none
      | some (form, ps) =>
        match skip? ')' ps with
        | some ps => some (form, ps)
        | none =>
          if form.isValue then
            ((skip? ',' ps).bind (items? ')' n)).map fun (forms, ps) =>
              (if (form :: forms).all Form.isKey then .constant else .container, ps)
          else none

def tableRest? : (fuel : Nat) → List Piece → Option (List Piece)
  | 0, _ => none
  | n + 1, ps =>
    match value? n ps with
    | none => none
    | some (_, ps) =>
      match skip? '\x7d' ps with
      | some ps => some ps
      | none =>
        match skip? ',' ps with
        | none => none
        | some ps =>
          match skip? '\x7d' ps with
          | some ps => some ps
          | none =>
            match value? n ps with
            | none => none
            | some (key, ps) => if key.isKey then (skip? ':' ps).bind (tableRest? n) else none

/-- A set or a table. Braces with nothing between them are a table. -/
def braces? : (fuel : Nat) → List Piece → Option (Form × List Piece)
  | 0, _ => none
  | n + 1, ps =>
    match skip? '\x7d' ps with
    | some ps => some (.container, ps)
    | none =>
      match value? n ps with
      | none => none
      | some (first, ps) =>
        if first.isKey then
          match skip? ':' ps with
          | some ps => (tableRest? n ps).map fun ps => (.container, ps)
          | none =>
            match skip? '\x7d' ps with
            | some ps => some (.container, ps)
            | none =>
              match (skip? ',' ps).bind (items? '\x7d' n) with
              | none => none
              | some (forms, ps) => if forms.all Form.isKey then some (.container, ps) else none
        else none

end

/-- A text that spells a constant, or the items of a tuple without its parentheses. -/
def isLiteral (t : Text) : Bool :=
  match pieces? t with
  | none | some [] => false
  | some ps =>
    isShallow 0 ps &&
      match group? (8 * (ps.length + 2)) (ps ++ [.mark ')']) with
      | some (form, []) => form.isValue
      | _ => false

end ExprLexer.Literal
