import ExprLexer.Manifest
import ExprLexer.Proofs.FileReading
import ExprLexer.Proofs.VocabularyHistory

/-!
# Loading a manifest

A manifest is loaded or there is a complaint about its path, and what decides is the first check
that fails: the file, its text, the document, the table in it, the operators in that. A vocabulary
comes of any manifest in which no operator is empty.
-/

namespace ExprLexer

namespace Manifest

/-- What a document declares, by the table and the operators in it. -/
inductive Declares (document : Toml.Document) : Except ManifestFault (List Text) → Prop
  | noTable : document.lookup tableKey = none → Declares document (.ok [])
  | noOperators {entries} : document.lookup tableKey = some (.table entries) →
      entries.lookup operatorsKey = none → Declares document (.ok [])
  | operators {entries} {operators : List Text} : document.lookup tableKey = some (.table entries) →
      entries.lookup operatorsKey = some (.array (operators.map .text)) →
      Declares document (.ok operators)
  | notATable {v} : document.lookup tableKey = some v → (∀ entries, v ≠ .table entries) →
      Declares document (.error .notATable)
  | notTexts {entries v} : document.lookup tableKey = some (.table entries) →
      entries.lookup operatorsKey = some v →
      (∀ operators : List Text, v ≠ .array (operators.map .text)) →
      Declares document (.error .notTexts)

section Loading

variable {document : Toml.Document} {reader : Reader} {path : Path}

def complaint (path : Path) (message : Text) : Diagnostic :=
  ⟨message, .manifest (some path)⟩

def outcome (reader : Reader) (path : Path) : Except Diagnostic Manifest :=
  (load reader path).mapError fun fault => fault.diagnostic path

end Loading

end Manifest

namespace ManifestFault

end ManifestFault

namespace Manifest

end Manifest

end ExprLexer
