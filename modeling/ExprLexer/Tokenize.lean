import ExprLexer.Diagnostic

/-!
# Tokenizing in one call

A list of operators makes a vocabulary, and its first use reads the whole source. Either there are
all tokens, or there is the diagnostic of the first failure.
-/

namespace ExprLexer

def Vocabulary.extended (v : Vocabulary) (ds : List Datum) : Except Diagnostic Vocabulary :=
  let registration := v.registerAll ds
  match registration.refusal? with
  | some refusal => .error (.ofRefusal refusal)
  | none => .ok registration.vocabulary

def tokenize (source : Text) (operators : List Datum) : Except Diagnostic (List Token) :=
  (Vocabulary.empty.extended operators).bind fun v =>
    (v.freeze.1.tokens source).mapError .ofFailure

end ExprLexer
