import ExprLexer.Lexer

/-!
# Diagnostics

The errors that users see. Each belongs to a class, the classes form a tree, and a diagnostic
carries what its class calls for: a path, a place in the input, an offending code point or digits.
-/

namespace ExprLexer

inductive ErrorClass
  | general
  | config
  | manifest
  | tokenization
  | unrecognizedToken
  | unterminatedString
  | unterminatedEscape
  | invalidEscapeChar
  | invalidHexEscape
  deriving DecidableEq

namespace ErrorClass

def all : List ErrorClass :=
  [general, config, manifest, tokenization, unrecognizedToken, unterminatedString,
    unterminatedEscape, invalidEscapeChar, invalidHexEscape]

/-- The classes above a class, the nearest first. -/
def ancestors : ErrorClass → List ErrorClass
  | general => []
  | config | tokenization => [general]
  | manifest => [config, general]
  | unrecognizedToken | unterminatedString | unterminatedEscape | invalidEscapeChar
  | invalidHexEscape => [tokenization, general]

end ErrorClass

structure Site where
  remaining : Text
  position : Int
  deriving DecidableEq

inductive Detail
  | general
  | config
  | manifest (path? : Option Path)
  | tokenization (site : Site)
  | unrecognizedToken (site : Site)
  | unterminatedString (site : Site)
  | unterminatedEscape (site : Site)
  | invalidEscapeChar (site : Site) (char : Text)
  | invalidHexEscape (site : Site) (digits : Text)
  deriving DecidableEq

namespace Detail

def errorClass : Detail → ErrorClass
  | general => .general
  | config => .config
  | manifest _ => .manifest
  | tokenization _ => .tokenization
  | unrecognizedToken _ => .unrecognizedToken
  | unterminatedString _ => .unterminatedString
  | unterminatedEscape _ => .unterminatedEscape
  | invalidEscapeChar _ _ => .invalidEscapeChar
  | invalidHexEscape _ _ => .invalidHexEscape

def site? : Detail → Option Site
  | general | config | manifest _ => none
  | tokenization s | unrecognizedToken s | unterminatedString s | unterminatedEscape s
  | invalidEscapeChar s _ | invalidHexEscape s _ => some s

end Detail

structure Diagnostic where
  message : Text
  detail : Detail
  deriving DecidableEq

namespace Diagnostic

/-- The message with the place it is about: a path before it, or a position and the input there
after it. -/
def display (d : Diagnostic) : Text :=
  match d.detail with
  | .manifest (some path) => path.display ++ ": " ++ d.message
  | detail =>
    match detail.site? with
    | some site =>
      d.message ++ " at position " ++ Text.ofInt site.position ++ ": '" ++ site.remaining ++ "'"
    | none => d.message

def ofRefusal (r : Refusal) : Diagnostic := ⟨r.message, .config⟩

def ofFailure (f : Failure) : Diagnostic where
  message := f.fault.message
  detail :=
    let site : Site := ⟨f.remaining, f.position⟩
    match f.fault with
    | .unrecognized => .unrecognizedToken site
    | .unterminatedString => .unterminatedString site
    | .unterminatedEscape => .unterminatedEscape site
    | .unknownEscape c => .invalidEscapeChar site [c]
    | .malformedHex _ digits | .beyondUnicode _ digits => .invalidHexEscape site digits

def unrecognizedAt (source : Text) (position : Int) : Diagnostic :=
  ⟨Fault.unrecognized.message, .unrecognizedToken ⟨source.sliceFrom position, position⟩⟩

end Diagnostic

end ExprLexer
