import ExprLexer.Console.Emoji
import ExprLexer.Console.Literal
import ExprLexer.Console.Style
import ExprLexer.Text.Word

/-!
# Console markup

Text in which a tag in square brackets changes the style and is not shown. A tag starts with a small
letter, `#`, `/` or `@`. One that starts with `/` closes the latest open tag, or the latest of its
name, where names are compared by the canonical form of the style. One that starts with `@` is an
action, whose parameters are read when it is closed. A backslash before a tag makes it plain text,
and two stand for one. Emoji codes are replaced in each stretch of plain text.
-/

namespace ExprLexer.Markup

/-! ## Tags and the text between them -/

inductive Piece
  | plain (t : Text)
  /-- A tag in its brackets, behind backslashes. -/
  | tag (backslashes : Nat) (content : Text)
  deriving DecidableEq

def isTagStart (c : CodePoint) : Bool :=
  c.between 'a' 'z' || c = '#' || c = '/' || c = '@'

def isTagPart (c : CodePoint) : Bool :=
  !(c = '[' || c = ']')

/-- The content of a tag whose opening bracket stands before the text, and the text after it. -/
def tag? : Text → Option (Text × Text)
  | [] => none
  | c :: t =>
    if isTagStart c then
      (Text.after? [']'] (t.dropWhile isTagPart)).map fun rest => (c :: t.takeWhile isTagPart, rest)
    else none

theorem tag?_length {t content rest : Text} (h : tag? t = some (content, rest)) :
    rest.length < t.length := by
  cases t with
  | nil => simp [tag?] at h
  | cons c t =>
    simp only [tag?] at h
    split at h
    · obtain ⟨u, hu, hr⟩ := Option.map_eq_some_iff.1 h
      have hd := (Text.after?_eq_some.1 hu)
      have hl := congrArg List.length hd
      have hs := (List.dropWhile_sublist (l := t) isTagPart).length_le
      simp only [Prod.mk.injEq] at hr
      obtain ⟨_, rfl⟩ := hr
      simp only [List.length_append, List.length_cons, List.length_nil] at hl
      simp only [List.length_cons]
      omega
    · simp at h

def prepend (t : Text) : List Piece → List Piece
  | .plain u :: rest => .plain (t ++ u) :: rest
  | pieces => .plain t :: pieces

/-- Splits text at its tags, after `count` backslashes. A bracket that opens no tag hides the
backslash before it. -/
def pieces (count : Nat) (t : Text) : List Piece :=
  match t with
  | [] => [.plain (Text.repeated count '\\')]
  | c :: t =>
    if c = '\\' then pieces (count + 1) t
    else if c = '[' then
      match h : tag? t with
      | some (content, rest) =>
        have := tag?_length h
        .tag count content :: pieces 0 rest
      | none => prepend (Text.repeated (count - 1) '\\' ++ [c]) (pieces 0 t)
    else prepend (Text.repeated count '\\' ++ [c]) (pieces 0 t)
termination_by t.length
decreasing_by all_goals simp only [List.length_cons]; omega

def bracketed (content : Text) : Text :=
  "[" ++ content ++ "]"

/-! ## Open tags -/

inductive Fault
  /-- A tag closes what is not open. -/
  | notOpen
  /-- The parameters of an action are no constant. -/
  | badParameters
  /-- A color of a style has a part that cannot be read. -/
  | badColor
  deriving DecidableEq

structure OpenTag where
  name : Text
  parameters? : Option Text

/-- The name and the parameters of a tag: what stands before the first equals sign, and after it. -/
def splitContent (content : Text) : Text × Option Text :=
  let name := content.takeWhile (· != CodePoint.ofChar '=')
  (name, Text.after? ['='] (content.drop name.length))

def OpenTag.isAction (tag : OpenTag) : Bool :=
  tag.name.head? = some (CodePoint.ofChar '@')

def OpenTag.style (tag : OpenTag) : Text :=
  match tag.parameters? with
  | none => tag.name
  | some parameters => tag.name ++ " " ++ parameters

def isHandlerPart (c : CodePoint) : Bool :=
  c.isWordPart || c = '.'

/-- Whether the parameters of an action are a constant, a name, or a name before a constant in
parentheses. -/
def areParameters (t : Text) : Bool :=
  match t.dropWhile isHandlerPart with
  | [] => true
  | c :: rest =>
    if c = '(' ∧ (c :: rest).getLast? = some (CodePoint.ofChar ')') then
      Literal.isLiteral (c :: rest)
    else Literal.isLiteral t

def OpenTag.close (tag : OpenTag) : Except Fault (List Text) :=
  if tag.isAction then
    match tag.parameters? with
    | none | some [] => .ok []
    | some parameters => if areParameters parameters.trim then .ok [] else .error .badParameters
  else .ok [tag.style]

def normalName (name : Text) : Except Fault Text :=
  (Style.normalForm name).mapError fun _ => .badColor

def closeLatest (fits : OpenTag → Bool) (opened : List OpenTag) :
    Except Fault (List OpenTag × List Text) :=
  match opened.find? fits with
  | none => .error .notOpen
  | some tag => tag.close.map fun styles => (opened.eraseP fits, styles)

def closeTag (name : Text) (opened : List OpenTag) : Except Fault (List OpenTag × List Text) :=
  if name = [] then closeLatest (fun _ => true) opened
  else (normalName name).bind fun name => closeLatest (fun tag => tag.name == name) opened

/-- The open tags after a tag, the latest first, and the style of one that it closes. -/
def follow (opened : List OpenTag) (content : Text) : Except Fault (List OpenTag × List Text) :=
  let (name, parameters?) := splitContent content
  match Text.after? ['/'] name with
  | some name => closeTag name.trim opened
  | none => (normalName name).map fun name => (⟨name, parameters?⟩ :: opened, [])

/-! ## What is shown -/

/-- Shown text as the runs between tags, with the styles in it. -/
structure Rendered where
  runs : List Text
  styles : List Text

namespace Rendered

def ofText (t : Text) : Rendered := ⟨[t], []⟩

def text (r : Rendered) : Text := r.runs.flatten

def prepend (t : Text) (r : Rendered) : Rendered :=
  match r.runs with
  | [] => { r with runs := [t] }
  | run :: runs => { r with runs := (t ++ run) :: runs }

def hasGoodColors (r : Rendered) : Bool :=
  r.styles.all fun style =>
    match Style.ofText style with
    | .error .notANumber => false
    | .ok _ | .error .unknown => true

end Rendered

def renderPieces (opened : List OpenTag) : List Piece → Except Fault Rendered
  | [] => .ok ⟨[[]], opened.map OpenTag.style⟩
  | .plain t :: rest => (renderPieces opened rest).map (Rendered.prepend (Emoji.expand t))
  | .tag backslashes content :: rest =>
    let half := Text.repeated (backslashes / 2) '\\'
    if backslashes % 2 = 1 then
      (renderPieces opened rest).map
        (Rendered.prepend (half ++ Emoji.expand (bracketed content)))
    else do
      let (opened, closed) ← follow opened content
      let r ← renderPieces opened rest
      return ⟨half :: r.runs, closed ++ r.styles⟩

def render (t : Text) : Except Fault Rendered :=
  renderPieces [] (pieces 0 t)

/-! ## Escaping -/

/-- Puts a backslash before each tag and doubles those that stand there, after `count`
backslashes. -/
def escapeTags (count : Nat) (t : Text) : Text :=
  match t with
  | [] => Text.repeated count '\\'
  | c :: t =>
    if c = '\\' then escapeTags (count + 1) t
    else if c = '[' then
      match h : tag? t with
      | some (content, rest) =>
        have := tag?_length h
        Text.repeated (2 * count + 1) '\\' ++ bracketed content ++ escapeTags 0 rest
      | none => Text.repeated count '\\' ++ c :: escapeTags 0 t
    else Text.repeated count '\\' ++ c :: escapeTags 0 t
termination_by t.length
decreasing_by all_goals simp only [List.length_cons]; omega

/-- Escapes tags, and a single backslash at the end, behind which a tag might be put. -/
def escape (t : Text) : Text :=
  let escaped := escapeTags 0 t
  if escaped.getLast? = some ('\\' : CodePoint) ∧
      escaped.dropLast.getLast? ≠ some ('\\' : CodePoint) then escaped ++ ("\\" : Text)
  else escaped

end ExprLexer.Markup
