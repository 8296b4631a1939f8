import ExprLexer.Diagnostic
import ExprLexer.Files
import ExprLexer.Toml.Document

/-!
# Manifests

A manifest is a TOML file that lists operators as `operators` in the table `tokenizer`. Either may
be absent, and then there are none.
-/

namespace ExprLexer

structure Manifest where
  operators : List Text
  path : Path
  deriving DecidableEq

/-- Why no manifest is read. Of two reasons the earlier one in this list is given. -/
inductive ManifestFault
  | notFound
  | unreadable (cause : Text)
  | invalidToml (cause : Text)
  | notATable
  | notTexts
  deriving DecidableEq

namespace ManifestFault

def message : ManifestFault → Text
  | notFound => "Manifest not found"
  | unreadable cause => "Cannot read manifest: " ++ cause
  | invalidToml cause => "Invalid TOML: " ++ cause
  | notATable => "[tokenizer] must be a table"
  | notTexts => "tokenizer.operators must be a list of strings"

def ofReadFault : ReadFault → ManifestFault
  | .access .missing => notFound
  | .access (.unreadable cause) => unreadable cause
  | .notUtf8 u => unreadable u.message

def diagnostic (f : ManifestFault) (path : Path) : Diagnostic :=
  ⟨f.message, .manifest (some path)⟩

end ManifestFault

namespace Manifest

def defaultName : Text := "calclex.toml"

def tableKey : Text := "tokenizer"

def operatorsKey : Text := "operators"

def declared (document : Toml.Document) : Except ManifestFault (List Text) :=
  match document.lookup tableKey with
  | none => .ok []
  | some v =>
    match v.entries? with
    | none => .error .notATable
    | some entries =>
      match entries.lookup operatorsKey with
      | none => .ok []
      | some v =>
        match v.texts? with
        | none => .error .notTexts
        | some operators => .ok operators

def ofText (t : Text) : Except ManifestFault (List Text) :=
  match Toml.parse t with
  | .error fault => .error (.invalidToml fault.message)
  | .ok document => declared document

def load (reader : Reader) (path : Path) : Except ManifestFault Manifest :=
  match reader.text path with
  | .error f => .error (.ofReadFault f)
  | .ok t => (ofText t).map fun operators => ⟨operators, path⟩

def loadRecord (m : Manifest) : Record :=
  .loaded m.operators.length m.path

/-- The manifest of a directory, if it has a regular file of the default name. -/
def find? (reader : Reader) (directory : Path) : Option Path :=
  let path := directory.child defaultName
  if reader.isFile path then some path else none

def build (m : Manifest) : Registration :=
  Vocabulary.build (m.operators.map .text)

end Manifest

end ExprLexer
