import ExprLexer.Path
import ExprLexer.Text.Quoted

/-!
# Log records

What vocabularies and manifests report while they are built and used.
-/

namespace ExprLexer

inductive Record
  /-- An operator entered a vocabulary. -/
  | registered (op : Text)
  /-- A vocabulary of `count` operators was used for the first time. -/
  | frozen (count : Nat)
  /-- A manifest with `count` operators was read. -/
  | loaded (count : Nat) (path : Path)
  deriving DecidableEq

namespace Record

def channel : Record → Text
  | registered _ | frozen _ => "calclex.core.expression_lang.config"
  | loaded _ _ => "calclex.core.manifest"

def message : Record → Text
  | registered op => "Registered operator " ++ op.quoted
  | frozen count => "Tokenizer config frozen with " ++ Text.ofNat count ++ " operator(s)"
  | loaded count path =>
    "Loaded " ++ Text.ofNat count ++ " operator(s) from " ++ path.display

def line (r : Record) : Text :=
  r.channel ++ ": " ++ r.message

end Record

end ExprLexer
