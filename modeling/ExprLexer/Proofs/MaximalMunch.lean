import ExprLexer.Lexer
import ExprLexer.Proofs.NumberGrammar
import ExprLexer.Proofs.OperatorTable
import ExprLexer.Proofs.StringGrammar
import ExprLexer.Proofs.SymbolGrammar

/-!
# Maximal munch

Which token an input starts with, said without scanners: by the longest name, the longest operator,
the longest suffix and the longest number at its start. The first lexeme of an input is the token of
this reference, for every vocabulary, and so is what a lexer pulls at any place of a source.

The reference looks at an input only through its beginnings in a few languages. So a token is found
again wherever its lexeme stands before an input that brings in no further such beginning.
-/

namespace ExprLexer

/-- A code point that does not decide by itself what stands at its place. -/
structure CodePoint.Ordinary (c : CodePoint) : Prop where
  not_blank : c.isBlank = false
  not_delimiter : c ∉ StringLiteral.delimiters
  not_opening : ∀ b : Bracket, c ≠ b.opening
  not_closing : ∀ b : Bracket, c ≠ b.closing
  not_separator : c ≠ separator

def Text.StartsOrdinary (t : Text) : Prop :=
  ∃ c u, t = c :: u ∧ c.Ordinary

theorem Text.StartsOrdinary.head {c : CodePoint} {t : Text} (h : StartsOrdinary (c :: t)) :
    c.Ordinary := by
  obtain ⟨d, u, heq, hd⟩ := h
  exact (List.cons.inj heq).1 ▸ hd

/-- What the input starts with when `O` are the operators: a token with its lexeme and the input
after it, or a fault. No blank stands at the start. -/
inductive Reads (O : Set Text) : Text → Except Fault Lexeme → Prop
  | literal {mark units value rest} : mark ∈ StringLiteral.delimiters →
      StringLiteral.Spells mark units value →
      Reads O (mark :: (units ++ mark :: rest))
        (.ok ⟨⟨.stringLiteral, value⟩, mark :: (units ++ [mark]), rest⟩)
  | faultyLiteral {mark t f} : mark ∈ StringLiteral.delimiters → StringLiteral.Faulty mark t f →
      Reads O (mark :: t) (.error f)
  | opening (b : Bracket) (rest) :
      Reads O (b.opening :: rest) (.ok ⟨⟨.leftBracket, [b.opening]⟩, [b.opening], rest⟩)
  | closing (b : Bracket) (rest) :
      Reads O (b.closing :: rest) (.ok ⟨⟨.rightBracket, [b.closing]⟩, [b.closing], rest⟩)
  | separator (rest) :
      Reads O (separator :: rest) (.ok ⟨⟨.separator, [separator]⟩, [separator], rest⟩)
  | operator {op name rest : Text} : (op ++ rest).StartsOrdinary →
      IsLongest Symbol.names (op ++ rest) name → IsLongest O (op ++ rest) op →
      name.length ≤ op.length →
      Reads O (op ++ rest) (.ok ⟨⟨.operator, op⟩, op, rest⟩)
  | symbol {name rest : Text} : (name ++ rest).StartsOrdinary → name ≠ [] →
      IsLongest Symbol.names (name ++ rest) name →
      (∀ op ∈ O, op <+: name ++ rest → op.length < name.length) →
      (∀ suffix ∈ Symbol.suffixes, ¬ suffix <+: rest) →
      Reads O (name ++ rest) (.ok ⟨⟨.symbol, name⟩, name, rest⟩)
  | symbolWithArgs {name suffix rest : Text} : (name ++ suffix ++ rest).StartsOrdinary →
      name ≠ [] → IsLongest Symbol.names (name ++ suffix ++ rest) name →
      (∀ op ∈ O, op <+: name ++ suffix ++ rest → op.length < name.length) →
      IsLongest Symbol.suffixes (suffix ++ rest) suffix →
      Reads O (name ++ suffix ++ rest)
        (.ok ⟨⟨.symbolWithArgs, name ++ suffix⟩, name ++ suffix, rest⟩)
  | number {form : NumberForm} {text rest : Text} :
      (form.mark ++ text ++ rest).StartsOrdinary →
      IsLongest Symbol.names (form.mark ++ text ++ rest) [] →
      (∀ op ∈ O, ¬ op <+: form.mark ++ text ++ rest) →
      form.IsFirst (form.mark ++ text ++ rest) →
      IsLongest form.language (form.mark ++ text ++ rest) (form.mark ++ text) →
      Reads O (form.mark ++ text ++ rest) (.ok ⟨⟨form.kind, text⟩, form.mark ++ text, rest⟩)
  | unrecognized {t : Text} : t.StartsOrdinary → IsLongest Symbol.names t [] →
      (∀ op ∈ O, ¬ op <+: t) → (∀ form : NumberForm, ¬ form.Fits t) →
      Reads O t (.error .unrecognized)

namespace Bracket

theorem mem_all (b : Bracket) : b ∈ all := by
  cases b <;> simp [all]

theorem ofOpening?_eq_none {c : CodePoint} :
    ofOpening? c = none ↔ ∀ b : Bracket, c ≠ b.opening := by
  rw [ofOpening?, List.find?_eq_none]
  simp [mem_all, eq_comm]

theorem ofClosing?_eq_none {c : CodePoint} :
    ofClosing? c = none ↔ ∀ b : Bracket, c ≠ b.closing := by
  rw [ofClosing?, List.find?_eq_none]
  simp [mem_all, eq_comm]

end Bracket

namespace Vocabulary

variable {v : Vocabulary} {c : CodePoint} {t : Text} {r : Except Fault Lexeme}

theorem Filed.competitor_eq_none (hv : v.Filed) {n : Nat} {input : Text}
    (h : ∀ op ∈ v.operatorSet, op <+: input → op.length < n) :
    ((v.longest? input).filter fun op => decide (n ≤ op.length)) = none := by
  cases hl : v.longest? input with
  | none => rfl
  | some op =>
    have hop := hv.longest?_eq_some hl
    simpa using h op hop.mem hop.begins

/-- Outside the quotes, brackets and separators the name and the operator compete. -/
theorem firstLexeme_ordinary (hc : c.Ordinary) (v : Vocabulary) (t : Text) :
    v.firstLexeme c t =
      match (v.longest? (c :: t)).filter fun op =>
          decide ((Symbol.name (c :: t)).length ≤ op.length) with
      | some op => .ok (.plain .operator op ((c :: t).drop op.length))
      | none =>
        if Symbol.name (c :: t) ≠ [] then .ok (Symbol.lexeme (Symbol.name (c :: t)) (c :: t))
        else
          match NumberForm.first? (c :: t) with
          | some number => .ok number
          | none => .error .unrecognized := by
  have hopening := Bracket.ofOpening?_eq_none.mpr hc.not_opening
  have hclosing := Bracket.ofClosing?_eq_none.mpr hc.not_closing
  unfold firstLexeme
  refine (if_neg hc.not_delimiter).trans ?_
  refine (if_neg (by simp [hopening])).trans ?_
  refine (if_neg (by simp [hclosing])).trans ?_
  exact if_neg hc.not_separator

theorem opening_not_delimiter (b : Bracket) : b.opening ∉ StringLiteral.delimiters := by
  cases b <;> decide

theorem closing_not_delimiter (b : Bracket) : b.closing ∉ StringLiteral.delimiters := by
  cases b <;> decide

theorem closing_ne_opening (b d : Bracket) : b.closing ≠ d.opening := by
  cases b <;> cases d <;> decide

theorem Filed.firstLexeme_eq (hv : v.Filed) (h : Reads v.operatorSet (c :: t) r) :
    v.firstLexeme c t = r := by
  generalize hinput : c :: t = input at h
  cases h with
  | literal hmark hs =>
    obtain ⟨rfl, rfl⟩ := List.cons.inj hinput
    rw [firstLexeme, if_pos hmark, StringLiteral.lexeme_of_spells hmark hs]
  | faultyLiteral hmark hf =>
    obtain ⟨rfl, rfl⟩ := List.cons.inj hinput
    rw [firstLexeme, if_pos hmark, StringLiteral.lexeme_of_faulty hmark hf]
  | opening b =>
    obtain ⟨rfl, rfl⟩ := List.cons.inj hinput
    simp [firstLexeme, opening_not_delimiter, Bracket.ofOpening?_opening, Lexeme.plain]
  | closing b =>
    obtain ⟨rfl, rfl⟩ := List.cons.inj hinput
    have hno := Bracket.ofOpening?_eq_none.mpr (closing_ne_opening b)
    simp [firstLexeme, closing_not_delimiter, hno, Bracket.ofClosing?_closing, Lexeme.plain]
  | separator =>
    obtain ⟨rfl, rfl⟩ := List.cons.inj hinput
    rfl
  | @operator op name rest hord hname hop hlen =>
    have hc := (hinput ▸ hord).head
    have hwins : (some op).filter (fun o => decide (name.length ≤ o.length)) = some op :=
      Option.filter_some_pos (decide_eq_true hlen)
    rw [firstLexeme_ordinary hc, hinput, (Symbol.name_isLongest _).unique hname,
      hv.longest?_of_isLongest hop, hwins]
    simp [Lexeme.plain]
  | @symbol name rest hord hne hname hops hsuffix =>
    have hc := (hinput ▸ hord).head
    rw [firstLexeme_ordinary hc, hinput, (Symbol.name_isLongest _).unique hname,
      hv.competitor_eq_none hops]
    simp [hne, Symbol.lexeme, Symbol.suffix_eq_nil.mpr hsuffix, Lexeme.plain]
  | @symbolWithArgs name suffix rest hord hne hname hops hsuffix =>
    have hc := (hinput ▸ hord).head
    rw [firstLexeme_ordinary hc, hinput, (Symbol.name_isLongest _).unique hname,
      hv.competitor_eq_none hops]
    simp [hne, Symbol.lexeme, Symbol.suffix_of_isLongest hsuffix,
      Symbol.ne_nil_of_mem_suffixes hsuffix.mem, Lexeme.plain]
  | @number form text rest hord hname hops hfirst hlong =>
    have hc := (hinput ▸ hord).head
    rw [firstLexeme_ordinary hc, hinput, (Symbol.name_isLongest _).unique hname,
      hv.longest?_eq_none.mpr hops, NumberForm.first?_of_isFirst hfirst
        (NumberForm.lexeme?_of_isLongest hlong)]
    rfl
  | unrecognized hord hname hops hforms =>
    have hc := (hinput ▸ hord).head
    rw [firstLexeme_ordinary hc, hinput, (Symbol.name_isLongest _).unique hname,
      hv.longest?_eq_none.mpr hops, NumberForm.first?_eq_none.mpr hforms]
    rfl

theorem exists_reads_of_shorter {O : Set Text} {input : Text} (hord : input.StartsOrdinary)
    (hops : ∀ op ∈ O, op <+: input → op.length < (Symbol.name input).length) :
    ∃ r, Reads O input r := by
  have hname := Symbol.name_isLongest input
  generalize Symbol.name input = name at hname hops
  by_cases hne : name = []
  · subst hne
    have hno : ∀ op ∈ O, ¬ op <+: input := fun op hop h => absurd (hops op hop h) (by simp)
    cases hfirst : NumberForm.first? input with
    | none => exact ⟨_, .unrecognized hord hname hno (NumberForm.first?_eq_none.mp hfirst)⟩
    | some l =>
      obtain ⟨form, hform, hl⟩ := NumberForm.first?_isFirst hfirst
      obtain ⟨text, -, hlong, hinput⟩ := NumberForm.lexeme?_isLongest hl
      rw [hinput] at hord hname hno hform hlong ⊢
      exact ⟨_, .number hord hname hno hform hlong⟩
  · obtain ⟨rest, rfl⟩ := hname.begins
    by_cases hsuffix : Symbol.suffix rest = []
    · exact ⟨_, .symbol hord hne hname hops (Symbol.suffix_eq_nil.mp hsuffix)⟩
    · have hlong := Symbol.suffix_isLongest hsuffix
      obtain ⟨after, hafter⟩ := hlong.begins
      generalize Symbol.suffix rest = suffix at hlong hafter
      subst hafter
      rw [← List.append_assoc] at hord hname hops ⊢
      exact ⟨_, .symbolWithArgs hord hne hname hops hlong⟩

theorem Filed.exists_reads_ordinary (hv : v.Filed) {input : Text} (hord : input.StartsOrdinary) :
    ∃ r, Reads v.operatorSet input r := by
  cases hl : v.longest? input with
  | none =>
    have hno := hv.longest?_eq_none.mp hl
    exact exists_reads_of_shorter hord fun op hop h => absurd h (hno op hop)
  | some op =>
    have hop := hv.longest?_eq_some hl
    by_cases hlen : (Symbol.name input).length ≤ op.length
    · have hname := Symbol.name_isLongest input
      generalize Symbol.name input = name at hname hlen
      obtain ⟨rest, rfl⟩ := hop.begins
      exact ⟨_, .operator hord hname hop hlen⟩
    · apply exists_reads_of_shorter hord
      intro o ho h
      have := hop.longest o ho h
      omega

theorem Filed.exists_reads (hv : v.Filed) (hc : c.isBlank = false) (t : Text) :
    ∃ r, Reads v.operatorSet (c :: t) r := by
  by_cases hmark : c ∈ StringLiteral.delimiters
  · rcases StringLiteral.spells_or_faulty c t with ⟨units, value, rest, hs, rfl⟩ | ⟨f, hf⟩
    · exact ⟨_, .literal hmark hs⟩
    · exact ⟨_, .faultyLiteral hmark hf⟩
  by_cases hopening : ∃ b : Bracket, c = b.opening
  · obtain ⟨b, rfl⟩ := hopening
    exact ⟨_, .opening b t⟩
  by_cases hclosing : ∃ b : Bracket, c = b.closing
  · obtain ⟨b, rfl⟩ := hclosing
    exact ⟨_, .closing b t⟩
  by_cases hseparator : c = separator
  · subst hseparator
    exact ⟨_, .separator t⟩
  have hord : c.Ordinary :=
    ⟨hc, hmark, not_exists.mp hopening, not_exists.mp hclosing, hseparator⟩
  exact hv.exists_reads_ordinary ⟨c, t, rfl, hord⟩

end Vocabulary

namespace Reads

variable {O : Set Text} {input : Text} {l : Lexeme}

theorem input_eq (h : Reads O input (.ok l)) : input = l.raw ++ l.rest := by
  cases h <;> simp

theorem input_head {r : Except Fault Lexeme} (h : Reads O input r) :
    ∃ c u, input = c :: u ∧ c.isBlank = false := by
  have hord : ∀ {t : Text}, t.StartsOrdinary → ∃ c u, t = c :: u ∧ c.isBlank = false := by
    rintro t ⟨c, u, rfl, hc⟩
    exact ⟨c, u, rfl, hc.not_blank⟩
  cases h with
  | literal hmark => exact ⟨_, _, rfl, StringLiteral.delimiter_not_blank _ hmark⟩
  | faultyLiteral hmark => exact ⟨_, _, rfl, StringLiteral.delimiter_not_blank _ hmark⟩
  | opening b rest => exact ⟨_, rest, rfl, by cases b <;> decide⟩
  | closing b rest => exact ⟨_, rest, rfl, by cases b <;> decide⟩
  | separator rest => exact ⟨_, rest, rfl, by decide⟩
  | operator h => exact hord h
  | symbol h => exact hord h
  | symbolWithArgs h => exact hord h
  | number h => exact hord h
  | unrecognized h => exact hord h

theorem raw_ne_nil (hO : [] ∉ O) (h : Reads O input (.ok l)) : l.raw ≠ [] := by
  cases h with
  | operator _ _ hop =>
    rintro rfl
    exact hO hop.mem
  | symbol _ hne => exact hne
  | symbolWithArgs _ hne => simp [hne]
  | number _ _ _ _ hlong => exact NumberForm.ne_nil_of_mem_language hlong.mem
  | _ => simp

theorem raw_head (hO : [] ∉ O) (h : Reads O input (.ok l)) :
    ∃ c u, l.raw = c :: u ∧ c.isBlank = false := by
  obtain ⟨d, t, hinput, hd⟩ := h.input_head
  obtain ⟨c, u, hraw⟩ := List.exists_cons_of_ne_nil (h.raw_ne_nil hO)
  have hcons := h.input_eq.symm.trans hinput
  rw [hraw, List.cons_append] at hcons
  exact ⟨c, u, hraw, (List.cons.inj hcons).1 ▸ hd⟩

end Reads

/-- One pull of the reference at a place of a source, and the lexer after it. -/
inductive Pulls (O : Set Text) (source : Text) (position : Nat) : Pull → Lexer → Prop
  | stop {gap} : IsLongest (runs CodePoint.isBlank) (source.drop position) gap →
      source.drop (position + gap.length) = [] →
      Pulls O source position .stop ⟨position + gap.length, [], false⟩
  | token {gap l} : IsLongest (runs CodePoint.isBlank) (source.drop position) gap →
      Reads O (source.drop (position + gap.length)) (.ok l) →
      Pulls O source position (.token l.token)
        ⟨position + gap.length + l.raw.length,
          source.drop (position + gap.length + l.raw.length), true⟩
  | failure {gap f} : IsLongest (runs CodePoint.isBlank) (source.drop position) gap →
      Reads O (source.drop (position + gap.length)) (.error f) →
      Pulls O source position
        (.failure ⟨f, position + gap.length, source.drop (position + gap.length)⟩)
        ⟨position + gap.length, source.drop (position + gap.length), false⟩

section Pull

variable {v : Vocabulary} {source gap t : Text} {position : Nat} {p : Pull} {next : Lexer}

theorem Lexer.pull_skip (hgap : gap ∈ runs CodePoint.isBlank) (t : Text) (position : Nat) :
    (Lexer.mk position (gap ++ t) true).pull v =
      (Lexer.mk (position + gap.length) t true).pull v := by
  simp [Lexer.pull, takeWhile_run hgap, dropWhile_run hgap, Nat.add_assoc]

theorem Lexer.pull_end (position : Nat) :
    (Lexer.mk position [] true).pull v = (.stop, ⟨position, [], false⟩) := by
  simp [Lexer.pull]

theorem Reads.pull_token (hv : v.Filed) {l : Lexeme} (h : Reads v.operatorSet t (.ok l))
    (position : Nat) : (Lexer.mk position t true).pull v =
      (.token l.token, ⟨position + l.raw.length, l.rest, true⟩) := by
  obtain ⟨c, u, rfl, hc⟩ := h.input_head
  simp [Lexer.pull, hc, hv.firstLexeme_eq h]

theorem Reads.pull_failure (hv : v.Filed) {f : Fault} (h : Reads v.operatorSet t (.error f))
    (position : Nat) : (Lexer.mk position t true).pull v =
      (.failure ⟨f, position, t⟩, ⟨position, t, false⟩) := by
  obtain ⟨c, u, rfl, hc⟩ := h.input_head
  simp [Lexer.pull, hc, hv.firstLexeme_eq h]

theorem gap_append_drop (hgap : IsLongest (runs CodePoint.isBlank) (source.drop position) gap) :
    source.drop position = gap ++ source.drop (position + gap.length) := by
  rw [← List.drop_drop, List.prefix_iff_eq_append.mp hgap.begins]

theorem Pulls.pull_eq (hv : v.Filed) (h : Pulls v.operatorSet source position p next) :
    (Lexer.mk position (source.drop position) true).pull v = (p, next) := by
  cases h with
  | stop hgap hend =>
    rw [gap_append_drop hgap, Lexer.pull_skip hgap.mem, hend, Lexer.pull_end]
  | @token gap l hgap hread =>
    have hrest : l.rest = source.drop (position + gap.length + l.raw.length) := by
      rw [← List.drop_drop, hread.input_eq, List.drop_left]
    rw [gap_append_drop hgap, Lexer.pull_skip hgap.mem, hread.pull_token hv, hrest]
  | failure hgap hread =>
    rw [gap_append_drop hgap, Lexer.pull_skip hgap.mem, hread.pull_failure hv]

theorem exists_pulls (hv : v.Filed) (source : Text) (position : Nat) :
    ∃ p next, Pulls v.operatorSet source position p next := by
  have hgap := takeWhile_isLongest CodePoint.isBlank (source.drop position)
  have hrest : (source.drop position).dropWhile CodePoint.isBlank =
      source.drop (position + ((source.drop position).takeWhile CodePoint.isBlank).length) := by
    apply List.append_cancel_left
    rw [List.takeWhile_append_dropWhile]
    exact gap_append_drop hgap
  cases hdrop : (source.drop position).dropWhile CodePoint.isBlank with
  | nil => exact ⟨_, _, .stop hgap (hrest ▸ hdrop)⟩
  | cons c t =>
    obtain ⟨r, hr⟩ := hv.exists_reads (of_dropWhile_eq_cons hdrop) t
    rw [← hdrop, hrest] at hr
    cases r with
    | ok l => exact ⟨_, _, .token hgap hr⟩
    | error f => exact ⟨_, _, .failure hgap hr⟩

/-- For each finite set of operators there are vocabularies, and at every place of every source a
lexer pulls with them what the reference says for the set, and stands then where it says. -/
theorem pull_eq_iff_pulls (O : Finset Text) (hO : [] ∉ O) :
    (∃ v : Vocabulary, v.Reachable ∧ v.operatorSet = O) ∧
      ∀ v : Vocabulary, v.Reachable → v.operatorSet = O →
        ∀ (source : Text) (position : Nat) (p : Pull) (next : Lexer),
          (Lexer.mk position (source.drop position) true).pull v = (p, next) ↔
            Pulls O source position p next := by
  refine ⟨Vocabulary.exists_reachable O hO, ?_⟩
  intro v hreach hset source position p next
  have hv := hreach.filed
  rw [← hset]
  constructor
  · intro hpull
    obtain ⟨p', next', h⟩ := exists_pulls hv source position
    obtain ⟨rfl, rfl⟩ := Prod.mk.inj (hpull.symm.trans (h.pull_eq hv))
    exact h
  · exact Pulls.pull_eq hv

/-- Of two operators that fit after the blank, the longer one is pulled. -/
theorem pulls_longer_operator :
    [] ∉ ({("<" : Text), ("<=" : Text)} : Finset Text) ∧
      Pulls ({("<" : Text), ("<=" : Text)} : Finset Text) "1 <=b" 1
        (.token ⟨.operator, "<="⟩) ⟨4, "b", true⟩ := by
  have hne : [] ∉ ({("<" : Text), ("<=" : Text)} : Finset Text) := by decide
  refine ⟨hne, ?_⟩
  have hset : (Vocabulary.build [.text "<", .text "<="]).vocabulary.operatorSet =
      ({("<" : Text), ("<=" : Text)} : Finset Text) := by
    ext op
    have hops : (Vocabulary.build [.text "<", .text "<="]).vocabulary.operators =
        ["<", "<="] := by decide
    simp [Vocabulary.operatorSet, hops]
  apply ((pull_eq_iff_pulls _ hne).2 _ (Vocabulary.reachable_build _) hset _ _ _ _).mp
  decide

end Pull

end ExprLexer
