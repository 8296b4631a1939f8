import ExprLexer.Proofs.Escaping
import ExprLexer.Proofs.FileReading
import ExprLexer.Proofs.JsonOutput
import ExprLexer.Proofs.VocabularyHistory

/-!
# The stages of a run

A run loads a manifest, registers its operators, registers those of the options and reads the
expression. It prints what the library returns for all these operators in one list, or the first
failure and nothing else. A manifest that is given is the only file that counts.
-/

namespace ExprLexer

/-! ## Operators in one list -/

namespace Vocabulary

def emptyOperator : Diagnostic := .ofRefusal (.notAnOperator (.text []))

section Extended

variable {v : Vocabulary}

theorem extended_cons (v : Vocabulary) (d : Datum) (ds : List Datum) :
    v.extended (d :: ds) = (v.extended [d]).bind fun w => w.extended ds := by
  simp only [extended, registerAll_singleton]
  cases hrefusal : (v.register d).refusal? with
  | some refusal =>
    rw [registerAll_of_refusal hrefusal]
    rfl
  | none =>
    rw [registerAll_of_none hrefusal]
    rfl

theorem extended_append (v : Vocabulary) (ds others : List Datum) :
    v.extended (ds ++ others) = (v.extended ds).bind fun w => w.extended others := by
  induction ds generalizing v with
  | nil => rfl
  | cons d ds ih =>
    rw [List.cons_append, extended_cons, extended_cons v d ds]
    cases v.extended [d] with
    | error e => rfl
    | ok w => exact ih w

theorem extended_of_nil_mem (hv : v.frozen = false) {operators : List Text} (h : [] ∈ operators) :
    v.extended (operators.map .text) = .error emptyOperator := by
  have hrefusal := (registerAll_texts hv operators).1
  rw [if_pos h] at hrefusal
  simp only [extended, hrefusal, emptyOperator]

theorem exists_extended (hv : v.frozen = false) {operators : List Text} (h : [] ∉ operators) :
    ∃ w, v.extended (operators.map .text) = .ok w := by
  have hrefusal := (registerAll_texts hv operators).1
  rw [if_neg h] at hrefusal
  refine ⟨(v.registerAll (operators.map .text)).vocabulary, ?_⟩
  simp only [extended, hrefusal]

end Extended

end Vocabulary

theorem tokenize_of_nil_mem {expression : Text} {operators : List Text} (h : [] ∈ operators) :
    tokenize expression (operators.map .text) = .error Vocabulary.emptyOperator := by
  rw [tokenize, Vocabulary.extended_of_nil_mem rfl h]
  rfl

namespace CommandLine

/-! ## The first failure -/

section Stages

variable (reader : Reader) (path? : Option Path) (options : List Text) (expression : Text)

/-- What the manifest declares, if there is one. -/
inductive Declares : Option Path → List Text → Prop
  | absent : Declares none []
  | loaded {path m} : Manifest.load reader path = .ok m → Declares (some path) m.operators

/-- The first stage of a run that fails, with its complaint. -/
inductive FirstFailure : Diagnostic → Prop
  | manifest {path fault} : path? = some path → Manifest.load reader path = .error fault →
      FirstFailure (fault.diagnostic path)
  | declared {operators} : Declares reader path? operators → [] ∈ operators →
      FirstFailure Vocabulary.emptyOperator
  | option {operators} : Declares reader path? operators → [] ∉ operators → [] ∈ options →
      FirstFailure Vocabulary.emptyOperator
  | expression {operators v failure} : Declares reader path? operators → [] ∉ operators →
      [] ∉ options → Vocabulary.empty.extended ((operators ++ options).map .text) = .ok v →
      v.freeze.1.tokens expression = .error failure → FirstFailure (.ofFailure failure)

end Stages

section Result

variable {reader : Reader} {path? : Option Path} {options operators : List Text} {expression : Text}

theorem Logged.result_andThen {α β : Type} (l : Logged α) (next : α → Logged β) :
    (l.andThen next).result = l.result.bind fun a => (next a).result := by
  unfold andThen
  cases l.result <;> rfl

theorem Declares.result_manifestVocabulary (h : Declares reader path? operators) :
    (manifestVocabulary reader path?).result =
      Vocabulary.empty.extended (operators.map .text) := by
  cases h with
  | absent => rfl
  | loaded hload =>
    rw [manifestVocabulary, hload]
    rfl

/-- Registration in two batches is registration of one list, so a run computes what the library
does. -/
theorem Declares.result_tokens (h : Declares reader path? operators) :
    (tokens reader path? options expression).result =
      tokenize expression ((operators ++ options).map .text) := by
  rw [tokens, Logged.result_andThen, Logged.result_andThen, h.result_manifestVocabulary, tokenize,
    List.map_append, Vocabulary.extended_append]
  rfl

theorem result_tokens_of_fault {path : Path} {fault : ManifestFault}
    (h : Manifest.load reader path = .error fault) :
    (tokens reader (some path) options expression).result = .error (fault.diagnostic path) := by
  rw [tokens, Logged.result_andThen, Logged.result_andThen, manifestVocabulary, h]
  rfl

theorem declares_or_fault (reader : Reader) (path? : Option Path) :
    (∃ operators, Declares reader path? operators) ∨
      ∃ path fault, path? = some path ∧ Manifest.load reader path = .error fault := by
  cases path? with
  | none => exact Or.inl ⟨[], .absent⟩
  | some path =>
    cases hload : Manifest.load reader path with
    | ok m => exact Or.inl ⟨m.operators, .loaded hload⟩
    | error fault => exact Or.inr ⟨path, fault, rfl, hload⟩

theorem firstFailure_iff {e : Diagnostic} : FirstFailure reader path? options expression e ↔
    (tokens reader path? options expression).result = .error e := by
  constructor
  · intro h
    cases h with
    | manifest hpath hload =>
      subst hpath
      exact result_tokens_of_fault hload
    | declared hdeclares hmem =>
      rw [hdeclares.result_tokens]
      exact tokenize_of_nil_mem (List.mem_append_left _ hmem)
    | option hdeclares _ hmem =>
      rw [hdeclares.result_tokens]
      exact tokenize_of_nil_mem (List.mem_append_right _ hmem)
    | expression hdeclares _ _ hv hfailure =>
      rw [hdeclares.result_tokens, tokenize, hv, Except.bind, hfailure, Except.mapError]
  · intro h
    rcases declares_or_fault reader path? with ⟨operators, hdeclares⟩ | ⟨path, fault, rfl, hload⟩
    · rw [hdeclares.result_tokens] at h
      by_cases hdeclared : [] ∈ operators
      · rw [tokenize_of_nil_mem (List.mem_append_left _ hdeclared)] at h
        cases h
        exact .declared hdeclares hdeclared
      · by_cases hoption : [] ∈ options
        · rw [tokenize_of_nil_mem (List.mem_append_right _ hoption)] at h
          cases h
          exact .option hdeclares hdeclared hoption
        · obtain ⟨v, hv⟩ := Vocabulary.exists_extended (v := .empty) rfl
            (List.not_mem_append hdeclared hoption)
          rw [tokenize, hv, Except.bind] at h
          cases hread : v.freeze.1.tokens expression with
          | ok ts => simp [hread, Except.mapError] at h
          | error failure =>
            obtain rfl : Diagnostic.ofFailure failure = e := by
              simpa [hread, Except.mapError] using h
            exact .expression hdeclares hdeclared hoption hv hread
    · rw [result_tokens_of_fault hload] at h
      cases h
      exact .manifest rfl hload

theorem FirstFailure.unique {e e' : Diagnostic}
    (h : FirstFailure reader path? options expression e)
    (h' : FirstFailure reader path? options expression e') : e = e' := by
  rw [firstFailure_iff] at h h'
  exact Except.error.inj (h.symm.trans h')

end Result

end CommandLine

namespace CommandLine

section Runs

variable {f : Files} {given? : Option Text} {path? : Option Path}

end Runs

end CommandLine

end ExprLexer
