import ExprLexer.Proofs.Segmentation
import ExprLexer.Proofs.VocabularyHistory

/-!
# Relevant operators

An operator can only be read where it stands in the source. It cannot be read at all if it starts
with a blank, a quote, a bracket or a separator, for these are decided before any operator is
looked up. The operators that are left are the relevant ones, and vocabularies that agree on them
give the same walk, whatever else they hold and however they came to hold it.
-/

namespace ExprLexer

instance : DecidablePred CodePoint.Ordinary := fun c =>
  decidable_of_iff (c.isBlank = false ∧ c ∉ StringLiteral.delimiters ∧
      Bracket.ofOpening? c = none ∧ Bracket.ofClosing? c = none ∧ c ≠ separator) <| by
    rw [Bracket.ofOpening?_eq_none, Bracket.ofClosing?_eq_none]
    constructor
    · rintro ⟨hblank, hquote, hopening, hclosing, hseparator⟩
      exact ⟨hblank, hquote, hopening, hclosing, hseparator⟩
    · intro h
      exact ⟨h.not_blank, h.not_delimiter, h.not_opening, h.not_closing, h.not_separator⟩

instance : DecidablePred Text.StartsOrdinary
  | [] => isFalse (by simp [Text.StartsOrdinary])
  | c :: u => decidable_of_iff c.Ordinary ⟨fun h => ⟨c, u, rfl, h⟩, Text.StartsOrdinary.head⟩

/-- The operator stands somewhere in the source, and does not start with a code point that decides
by itself. -/
def Relevant (source op : Text) : Prop :=
  op.StartsOrdinary ∧ op <:+: source

instance (source op : Text) : Decidable (Relevant source op) :=
  inferInstanceAs (Decidable (_ ∧ _))

def Vocabulary.relevant (v : Vocabulary) (source : Text) : Set Text :=
  {op | op ∈ v.operators ∧ Relevant source op}

/-- Both sets hold the same of the operators that are relevant to the source. -/
def AgreeOn (source : Text) (O O' : Set Text) : Prop :=
  ∀ op, Relevant source op → (op ∈ O ↔ op ∈ O')

theorem Text.StartsOrdinary.of_prefix {op input : Text} (h : input.StartsOrdinary) (hop : op ≠ [])
    (hbegins : op <+: input) : op.StartsOrdinary := by
  obtain ⟨c, u, rfl⟩ := List.exists_cons_of_ne_nil hop
  obtain ⟨rest, rfl⟩ := hbegins
  exact ⟨c, u, rfl, h.head⟩

section Agreement

variable {O O' : Set Text} {source input : Text}

theorem AgreeOn.mono (h : AgreeOn source O O') (hinput : input <:+: source) :
    AgreeOn input O O' := by
  intro op hop
  exact h op ⟨hop.1, hop.2.trans hinput⟩

theorem AgreeOn.mem_iff (h : AgreeOn input O O') (hO : [] ∉ O) (hO' : [] ∉ O')
    (hord : input.StartsOrdinary) {op : Text} (hbegins : op <+: input) : op ∈ O ↔ op ∈ O' := by
  by_cases hne : op = []
  · subst hne
    exact iff_of_false hO hO'
  · exact h op ⟨hord.of_prefix hne hbegins, hbegins.isInfix⟩

theorem Reads.congr_operators {r : Except Fault Lexeme} (h : Reads O input r)
    (hagree : input.StartsOrdinary → ∀ op, op <+: input → (op ∈ O ↔ op ∈ O')) :
    Reads O' input r := by
  cases h with
  | literal hmark hs => exact .literal hmark hs
  | faultyLiteral hmark hf => exact .faultyLiteral hmark hf
  | opening b rest => exact .opening b rest
  | closing b rest => exact .closing b rest
  | separator rest => exact .separator rest
  | operator hord hname hop hlen => exact .operator hord hname (hop.congr (hagree hord)) hlen
  | symbol hord hne hname hops hsuffix =>
    refine .symbol hord hne hname ?_ hsuffix
    intro op hop hbegins
    exact hops op ((hagree hord op hbegins).mpr hop) hbegins
  | symbolWithArgs hord hne hname hops hsuffix =>
    refine .symbolWithArgs hord hne hname ?_ hsuffix
    intro op hop hbegins
    exact hops op ((hagree hord op hbegins).mpr hop) hbegins
  | number hord hname hops hfirst hlong =>
    refine .number hord hname ?_ hfirst hlong
    intro op hop hbegins
    exact hops op ((hagree hord op hbegins).mpr hop) hbegins
  | unrecognized hord hname hops hforms =>
    refine .unrecognized hord hname ?_ hforms
    intro op hop hbegins
    exact hops op ((hagree hord op hbegins).mpr hop) hbegins

theorem Scans.congr_operators {segments : List Segment} {gap : Text} {remnant : Remnant}
    (hO : [] ∉ O) (hO' : [] ∉ O') (h : Scans O source segments gap remnant)
    (hagree : AgreeOn source O O') : Scans O' source segments gap remnant := by
  induction h with
  | stop hgap => exact .stop hgap
  | @fault gap rest f hgap hread =>
    have hrest := hagree.mono (List.suffix_append gap rest).isInfix
    refine .fault hgap (hread.congr_operators ?_)
    intro hord op hbegins
    exact hrest.mem_iff hO hO' hord hbegins
  | @token s rest segments gap remnant hgap hread _ ih =>
    have hlexeme := hagree.mono (List.suffix_append s.gap (s.raw ++ rest)).isInfix
    have hrest := hlexeme.mono (List.suffix_append s.raw rest).isInfix
    refine .token hgap (hread.congr_operators ?_) (ih hrest)
    intro hord op hbegins
    exact hlexeme.mem_iff hO hO' hord hbegins

end Agreement

namespace Vocabulary

variable {v v' : Vocabulary} {source op : Text}

theorem Filed.walk_eq_of_agreeOn (hv : v.Filed) (hv' : v'.Filed)
    (h : AgreeOn source v.operatorSet v'.operatorSet) : v.walk source = v'.walk source := by
  obtain ⟨segments, gap, remnant, hscans⟩ := hv.exists_scans source
  have hscans' := hscans.congr_operators hv.nil_not_mem hv'.nil_not_mem h
  rw [hscans.walk_eq hv, hscans'.walk_eq hv']

theorem relevant_eq_iff : v.relevant source = v'.relevant source ↔
    (∀ op ∈ v.operators, Relevant source op → op ∈ v'.operators) ∧
      ∀ op ∈ v'.operators, Relevant source op → op ∈ v.operators := by
  simp only [Set.ext_iff, relevant, Set.mem_ofPred_eq]
  constructor
  · intro h
    refine ⟨?_, ?_⟩
    · intro op hop hrel
      exact ((h op).mp ⟨hop, hrel⟩).1
    · intro op hop hrel
      exact ((h op).mpr ⟨hop, hrel⟩).1
  · rintro ⟨hsub, hsub'⟩ op
    constructor
    · rintro ⟨hop, hrel⟩
      exact ⟨hsub op hop hrel, hrel⟩
    · rintro ⟨hop, hrel⟩
      exact ⟨hsub' op hop hrel, hrel⟩

theorem agreeOn_of_relevant_eq (h : v.relevant source = v'.relevant source) :
    AgreeOn source v.operatorSet v'.operatorSet := by
  obtain ⟨hsub, hsub'⟩ := relevant_eq_iff.mp h
  intro op hrel
  constructor
  · intro hop
    exact hsub op hop hrel
  · intro hop
    exact hsub' op hop hrel

theorem mem_operators_after_add {d : Datum} (hop : d ≠ .text op) :
    op ∈ (v.after (.add d)).operators ↔ op ∈ v.operators := by
  rw [after_add]
  rcases register_cases v d with h | ⟨o, rfl, -, -, -, h⟩ <;> rw [h]
  have hne : op ≠ o := by
    rintro rfl
    exact hop rfl
  simp [Vocabulary.insert, hne]

end Vocabulary

/-- Two vocabularies with any histories, refused registrations among them, that agree on the
operators relevant to a source give the same walk over it. So neither the order of registration nor
a repetition matters, and no more does an operator that does not stand in the source or that starts
with what decides by itself. -/
theorem walk_eq_of_relevant_eq (ds ds' : List Datum) (actions actions' : List Action)
    (source : Text) :
    let v := (Vocabulary.build ds).vocabulary.afterAll actions
    let v' := (Vocabulary.build ds').vocabulary.afterAll actions'
    (v.relevant source = v'.relevant source → v.walk source = v'.walk source) ∧
      ((∀ op, op ∈ v.operators ↔ op ∈ v'.operators) → v.walk source = v'.walk source) ∧
      ∀ op, ¬ Relevant source op → (v.after (.add (.text op))).walk source = v.walk source := by
  intro v v'
  have hv : v.Reachable := (Vocabulary.reachable_build ds).afterAll actions
  have hv' : v'.Reachable := (Vocabulary.reachable_build ds').afterAll actions'
  refine ⟨?_, ?_, ?_⟩
  · intro h
    exact hv.filed.walk_eq_of_agreeOn hv'.filed (Vocabulary.agreeOn_of_relevant_eq h)
  · intro h
    apply hv.filed.walk_eq_of_agreeOn hv'.filed
    intro op _
    exact h op
  · intro op hirrelevant
    apply (hv.after _).filed.walk_eq_of_agreeOn hv.filed
    intro o hrel
    apply Vocabulary.mem_operators_after_add
    rintro ⟨⟩
    exact hirrelevant hrel

/-- One history is orderly. The other one has the operators in another order, between refusals, and
with them one that does not stand in the source and one that starts with a blank. -/
theorem walk_eq_of_relevant_eq_after_refusals :
    let v := (Vocabulary.build [.text "<=", .text "<"]).vocabulary.afterAll []
    let v' := (Vocabulary.build [.text "a < b"]).vocabulary.afterAll
      [.addAll (.list [.text "<", .text "<=", .text "<", .null, .text "?"]), .add (.text " b"),
        .add (.text "")]
    v.relevant "a<= b ?" = v'.relevant "a<= b ?" ∧ v.walk "a<= b ?" = v'.walk "a<= b ?" ∧
      v'.walk "a<= b ?" =
        ⟨[(⟨.symbol, "a"⟩, 1), (⟨.operator, "<="⟩, 3), (⟨.symbol, "b"⟩, 5)],
          .failure ⟨.unrecognized, 6, "?"⟩, ⟨6, "?", false⟩⟩ := by
  intro v v'
  have hrelevant : v.relevant "a<= b ?" = v'.relevant "a<= b ?" :=
    Vocabulary.relevant_eq_iff.mpr (by decide)
  refine ⟨hrelevant, ?_, by decide⟩
  exact (walk_eq_of_relevant_eq _ _ _ _ "a<= b ?").1 hrelevant

end ExprLexer
