import ExprLexer.Console.Color

/-!
# Styles

A style is written as words: attributes, `not` before an attribute, a color, `on` before the color
of the background and `link` before an address. Of two words on one matter the later counts. Styles
with one meaning have one canonical form.
-/

namespace ExprLexer

inductive Attribute
  | bold
  | dim
  | italic
  | underline
  | blink
  | blink2
  | reverse
  | conceal
  | strike
  | underline2
  | frame
  | encircle
  | overline
  deriving DecidableEq

namespace Attribute

def all : List Attribute :=
  [bold, dim, italic, underline, blink, blink2, reverse, conceal, strike, underline2, frame,
    encircle, overline]

def name : Attribute → Text
  | bold => "bold"
  | dim => "dim"
  | italic => "italic"
  | underline => "underline"
  | blink => "blink"
  | blink2 => "blink2"
  | reverse => "reverse"
  | conceal => "conceal"
  | strike => "strike"
  | underline2 => "underline2"
  | frame => "frame"
  | encircle => "encircle"
  | overline => "overline"

def abbreviations : List (Text × Attribute) :=
  [("b", bold), ("d", dim), ("i", italic), ("u", underline), ("r", reverse), ("c", conceal),
    ("s", strike), ("uu", underline2), ("o", overline)]

def ofWord? (w : Text) : Option Attribute :=
  (all.find? fun a => a.name = w).or (abbreviations.lookup w)

end Attribute

/-- The settings of a style. The attributes are those that it sets or clears, the latest first. -/
structure Style where
  attributes : List (Attribute × Bool)
  color? : Option Color
  background? : Option Color
  link? : Option Text

namespace Style

def plain : Style := ⟨[], none, none, none⟩

/-- Adds the settings of the words to a style. The keywords and the attributes may be written with
capitals, an attribute after `not` may not. -/
def addWords (s : Style) : List Text → Except Color.Fault Style
  | [] => .ok s
  | w :: ws =>
    let word := w.lower
    if word = "on" then
      match ws with
      | [] => .error .unknown
      | color :: ws =>
        match Color.ofText color with
        | .error f => .error f
        | .ok color => addWords { s with background? := some color } ws
    else if word = "not" then
      match ws with
      | [] => .error .unknown
      | w :: ws =>
        match Attribute.ofWord? w with
        | none => .error .unknown
        | some a => addWords { s with attributes := (a, false) :: s.attributes } ws
    else if word = "link" then
      match ws with
      | [] => .error .unknown
      | address :: ws => addWords { s with link? := some address } ws
    else
      match Attribute.ofWord? word with
      | some a => addWords { s with attributes := (a, true) :: s.attributes } ws
      | none =>
        match Color.ofText word with
        | .error f => .error f
        | .ok color => addWords { s with color? := some color } ws

def ofText (t : Text) : Except Color.Fault Style :=
  if t.trim = "none" then .ok plain else plain.addWords t.words

def attributeWords? (s : Style) (a : Attribute) : Option Text :=
  (s.attributes.lookup a).map fun isSet => if isSet then a.name else "not " ++ a.name

def display (s : Style) : Text :=
  let words : List Text :=
    Attribute.all.filterMap s.attributeWords? ++ (s.color?.map Color.name).toList ++
      (s.background?.map fun color => ("on " : Text) ++ color.name).toList ++
      (s.link?.map fun address => ("link " : Text) ++ address).toList
  if words = [] then "none" else Text.join " " words

/-- The canonical form of a text, which need not be a style. -/
def normalForm (t : Text) : Except Color.Fault Text :=
  match ofText t with
  | .ok s => .ok s.display
  | .error .unknown => .ok t.trim.lower
  | .error .notANumber => .error .notANumber

end Style

end ExprLexer
