import ExprLexer.Console.Emoji.Names
import ExprLexer.Text.Blank
import ExprLexer.Text.Case

/-!
# Emoji codes

A code is a name between two colons, with no blank between them. The name may end in `-text` or
`-emoji`, which asks for that look. A code whose name is in the table stands for its picture; any
other stays as it is.
-/

namespace ExprLexer.Emoji

def pairs : List Text → List (Text × Text)
  | name :: picture :: rest => (name, picture) :: pairs rest
  | _ => []

def table : List (Text × Text) :=
  nameRows.flatMap fun row => pairs (Text.ofString row).words

def isCodePart (c : CodePoint) : Bool :=
  !(c = ':' || c.isBlank)

/-- The code whose first colon stands before the text, and the text after it. -/
def code? (t : Text) : Option (Text × Text) :=
  (Text.after? [':'] (t.dropWhile isCodePart)).map fun rest => (t.takeWhile isCodePart, rest)

/-- The endings of a name that ask for a look, with the selectors that they add. -/
def looks : List (Text × CodePoint) :=
  [("-emoji", '\uFE0F'), ("-text", '\uFE0E')]

def splitLook (code : Text) : Text × Text :=
  (looks.findSome? fun (ending, selector) =>
    (Text.before? ending code).map fun name => (name, [selector])).getD (code, [])

def picture? (code : Text) : Option Text :=
  let (name, selector) := splitLook code
  (table.lookup name.lower).map fun picture => picture ++ selector

theorem code?_length {t code rest : Text} (h : code? t = some (code, rest)) :
    rest.length < t.length := by
  obtain ⟨u, hu, hr⟩ := Option.map_eq_some_iff.1 h
  have hd := congrArg List.length (Text.after?_eq_some.1 hu)
  have hs := (List.dropWhile_sublist (l := t) isCodePart).length_le
  simp only [Prod.mk.injEq] at hr
  obtain ⟨_, rfl⟩ := hr
  simp only [List.length_append, List.length_cons, List.length_nil] at hd
  omega

/-- Replaces the codes of a text, from left to right. The second colon of a code starts no other. -/
def expand (t : Text) : Text :=
  match t with
  | [] => []
  | c :: t =>
    if c = ':' then
      match h : code? t with
      | some (code, rest) =>
        have := code?_length h
        (picture? code).getD (":" ++ code ++ ":") ++ expand rest
      | none => c :: expand t
    else c :: expand t
termination_by t.length
decreasing_by all_goals simp only [List.length_cons]; omega

end ExprLexer.Emoji
