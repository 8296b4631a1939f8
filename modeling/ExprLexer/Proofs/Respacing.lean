import ExprLexer.Proofs.Joining
import ExprLexer.Proofs.UsableOperators

/-!
# Blanks between tokens

Blanks divide tokens and mean nothing else, except inside literals and inside operators that hold
some. In every vocabulary only these tokens hold blanks, and the blanks after a token may be
replaced by others unless an operator reaches over the new ones. The vocabularies in which no
further exception is needed are exactly those in which no operator that can be read holds a blank.
-/

namespace ExprLexer

namespace Vocabulary

def gapAfter (v : Vocabulary) (source : Text) (k : Nat) : Text :=
  (source.drop ((v.walk source).boundary k)).takeWhile CodePoint.isBlank

def restAfter (v : Vocabulary) (source : Text) (k : Nat) : Text :=
  (source.drop ((v.walk source).boundary k)).dropWhile CodePoint.isBlank

def upTo (v : Vocabulary) (source : Text) (k : Nat) : Text :=
  source.take ((v.walk source).boundary k)

/-- The source with `gap` in place of the blanks after its first `k` tokens. -/
def respaced (v : Vocabulary) (source : Text) (k : Nat) (gap : Text) : Text :=
  v.upTo source k ++ (gap ++ v.restAfter source k)

/-- Blanks occur only in literals, and the blanks at a token boundary may be replaced. -/
structure IgnoresBlanks (v : Vocabulary) (source : Text) : Prop where
  not_blank : ∀ t ∈ (v.walk source).tokens.map Prod.fst, t.kind ≠ .stringLiteral →
    ∀ c ∈ t.text, c.isBlank = false
  walk_respaced : ∀ k, 0 < k → k < (v.walk source).tokens.length → v.gapAfter source k ≠ [] →
    ∀ gap ∈ runs CodePoint.isBlank, gap ≠ [] →
      (v.walk (v.respaced source k gap)).ending = .stop ∧
        (v.walk (v.respaced source k gap)).tokens.map Prod.fst =
          (v.walk source).tokens.map Prod.fst

end Vocabulary

section Tokens

variable {O : Set Text} {input : Text} {l : Lexeme}

theorem Reads.text_not_blank (h : Reads O input (.ok l)) (hliteral : l.token.kind ≠ .stringLiteral)
    (hoperator : l.token.kind ≠ .operator) : ∀ c ∈ l.token.text, c.isBlank = false := by
  cases h with
  | literal => exact absurd rfl hliteral
  | opening b =>
    intro c hc
    obtain rfl := List.mem_singleton.mp hc
    cases b <;> decide
  | closing b =>
    intro c hc
    obtain rfl := List.mem_singleton.mp hc
    cases b <;> decide
  | separator =>
    intro c hc
    obtain rfl := List.mem_singleton.mp hc
    decide
  | operator => exact absurd rfl hoperator
  | symbol _ _ hname => exact not_blank_of_mem_words (Or.inl hname.mem)
  | symbolWithArgs _ _ hname _ hsuffix =>
    exact not_blank_of_mem_words (Or.inr (Or.inl ⟨_, hname.mem, _, hsuffix.mem, rfl⟩))
  | @number form _ _ _ _ _ _ hlong =>
    intro c hc
    apply not_blank_of_mem_words (Or.inr (Or.inr ⟨form, hlong.mem⟩))
    exact List.mem_append_right _ hc

end Tokens

section Walks

theorem Walk.map_fst_shift (n : Nat) (w : Walk) :
    (w.shift n).tokens.map Prod.fst = w.tokens.map Prod.fst := by
  simp [Walk.shift, Function.comp_def]

theorem Walk.shift_ending_eq_stop (n : Nat) (w : Walk) :
    (w.shift n).ending = .stop ↔ w.ending = .stop := by
  obtain ⟨tokens, ending, final⟩ := w
  cases ending <;> simp [Walk.shift, Ending.shift]

theorem Walk.ofSegments_ending_eq_stop (start : Nat) (segments : List Segment) (last : Text)
    (remnant : Remnant) :
    (Walk.ofSegments start segments last remnant).ending = .stop ↔ remnant = .nothing := by
  cases remnant <;> simp [Walk.ofSegments]

theorem Walk.map_fst_append (first : Walk) (n : Nat) (second : Walk) :
    (first.append n second).tokens.map Prod.fst =
      first.tokens.map Prod.fst ++ second.tokens.map Prod.fst := by
  rw [Walk.append, List.map_append, Walk.map_fst_shift]

variable {v : Vocabulary} {source gap : Text} {k : Nat}

theorem Vocabulary.Filed.walk_drop_boundary (hv : v.Filed) :
    v.walk (source.drop ((v.walk source).boundary k)) =
      (v.walk (v.restAfter source k)).shift (v.gapAfter source k).length := by
  rw [Vocabulary.gapAfter, Vocabulary.restAfter, ← hv.walk_skip (takeWhile_mem_runs _ _),
    List.takeWhile_append_dropWhile]

theorem Vocabulary.Filed.walk_parts (hv : v.Filed) (hstop : (v.walk source).ending = .stop)
    (hk : k ≤ (v.walk source).tokens.length) :
    (v.walk (v.upTo source k)).ending = .stop ∧
      (v.walk (v.restAfter source k)).ending = .stop ∧
        (v.walk (v.upTo source k)).tokens.map Prod.fst ++
          (v.walk (v.restAfter source k)).tokens.map Prod.fst =
            (v.walk source).tokens.map Prod.fst := by
  obtain ⟨first, second, last, remnant, rfl, h⟩ := hv.exists_scans_cut hk
  have hwalk := h.walk_eq hv
  obtain ⟨rest, hsource, hafter⟩ := h.after_cut
  have hbefore := (h.before_cut hv.nil_not_mem).walk_eq hv
  have hrest := hafter.walk_eq hv
  have hboundary : (v.walk source).boundary first.length = (Segment.consumed first).length := by
    rw [hwalk, Walk.boundary_ofSegments]
  have hupTo : v.upTo source first.length = Segment.consumed first := by
    rw [Vocabulary.upTo, hboundary, hsource, List.take_left]
  have hskip : v.walk rest = (v.walk (v.restAfter source first.length)).shift
      (v.gapAfter source first.length).length := by
    rw [← hv.walk_drop_boundary, hboundary, hsource, List.drop_left]
  rw [hwalk, Walk.ofSegments_ending_eq_stop] at hstop
  refine ⟨?_, ?_, ?_⟩
  · rw [hupTo, hbefore, Walk.ofSegments_ending_eq_stop]
  · rw [← Walk.shift_ending_eq_stop (v.gapAfter source first.length).length, ← hskip, hrest,
      Walk.ofSegments_ending_eq_stop]
    exact hstop
  · rw [← Walk.map_fst_shift _ (v.walk (v.restAfter source first.length)), ← hskip, hrest, hupTo,
      hbefore, hwalk]
    simp [Walk.ofSegments, Segment.map_fst_marks]

/-- The gap at a token boundary may be replaced, or one put in, if no operator reaches from before
it into the new gap. -/
theorem Vocabulary.Filed.walk_respaced (hv : v.Filed) (hstop : (v.walk source).ending = .stop)
    (hk : k ≤ (v.walk source).tokens.length) (hgap : gap ∈ runs CodePoint.isBlank) (hne : gap ≠ [])
    (hops : Sealed v.operatorSet (v.upTo source k) (gap ++ v.restAfter source k)) :
    (v.walk (v.respaced source k gap)).ending = .stop ∧
      (v.walk (v.respaced source k gap)).tokens.map Prod.fst =
        (v.walk source).tokens.map Prod.fst := by
  obtain ⟨hfirst, hsecond, htokens⟩ := hv.walk_parts hstop hk
  have hwords : Sealed words (v.upTo source k) (gap ++ v.restAfter source k) := by
    obtain ⟨c, u, rfl⟩ := List.exists_cons_of_ne_nil hne
    exact sealed_words_cons (Or.inl (hgap c List.mem_cons_self)) _ _
  have hwalk := hv.walk_append hfirst hops hwords
  rw [hv.walk_skip hgap] at hwalk
  rw [Vocabulary.respaced, hwalk]
  constructor
  · exact (Walk.shift_ending_eq_stop _ _).mpr ((Walk.shift_ending_eq_stop _ _).mpr hsecond)
  · rw [Walk.map_fst_append, Walk.map_fst_shift, htokens]

theorem mem_of_straddles {op a t : Text} {c : CodePoint} (h : Straddles op a (c :: t)) :
    c ∈ op := by
  obtain ⟨i, hi, hlen, hbegins⟩ := h
  by_contra hno
  rw [List.drop_append_of_le_length hi.le] at hbegins
  have hshort := (prefix_of_not_mem hno hbegins).length_le
  rw [List.length_drop] at hshort
  omega

end Walks

namespace Vocabulary

variable {v : Vocabulary} {source : Text}

theorem Filed.operator_of_blank (hv : v.Filed) {t : Token} {c : CodePoint} (ht : v.Emits t)
    (hliteral : t.kind ≠ .stringLiteral) (hc : c ∈ t.text) (hblank : c.isBlank = true) :
    t.kind = .operator ∧ t.text ∈ v.operators ∧ t.text.StartsOrdinary := by
  obtain ⟨l, input, hread, rfl⟩ := hv.reads_of_emits ht
  by_cases hkind : l.token.kind = .operator
  · exact ⟨hkind, hread.of_operator hv.nil_not_mem hkind⟩
  · have hno := hread.text_not_blank hliteral hkind c hc
    rw [hblank] at hno
    cases hno

theorem Reachable.walk_respaced (hv : v.Reachable) (hstop : (v.walk source).ending = .stop)
    {k : Nat} (hk : k ≤ (v.walk source).tokens.length) {gap : Text}
    (hgap : gap ∈ runs CodePoint.isBlank) (hne : gap ≠ [])
    (hops : ∀ op ∈ v.operators, op.StartsOrdinary →
      ¬ Straddles op (v.upTo source k) (gap ++ v.restAfter source k)) :
    (v.walk (v.respaced source k gap)).ending = .stop ∧
      (v.walk (v.respaced source k gap)).tokens.map Prod.fst =
        (v.walk source).tokens.map Prod.fst := by
  obtain ⟨v', hv', hmem, hwalk⟩ := hv.exists_usable
  have hupTo : v'.upTo source k = v.upTo source k := by
    rw [upTo, upTo, hwalk]
  have hrest : v'.restAfter source k = v.restAfter source k := by
    rw [restAfter, restAfter, hwalk]
  have hrespaced : v'.respaced source k gap = v.respaced source k gap := by
    rw [respaced, respaced, hupTo, hrest]
  have hsealed : Sealed v'.operatorSet (v'.upTo source k) (gap ++ v'.restAfter source k) := by
    apply sealed_of_not_straddles
    intro op hop
    rw [hupTo, hrest]
    obtain ⟨hop, hord⟩ := (hmem op).mp hop
    exact hops op hop hord
  rw [← hwalk source] at hstop hk ⊢
  rw [← hwalk, ← hrespaced]
  exact hv'.filed.walk_respaced hstop hk hgap hne hsealed

end Vocabulary

/-- In every vocabulary a token with a blank is a literal or an operator, and blanks may be replaced
where no operator that can be read reaches over the new ones. Blanks mean nothing at all outside
literals, for every source, exactly if no operator that can be read holds one. -/
theorem ignoresBlanks_iff {v : Vocabulary} (hv : v.Reachable) :
    (∀ source, (v.walk source).ending = .stop →
      (∀ t ∈ (v.walk source).tokens.map Prod.fst, t.kind ≠ .stringLiteral →
        ∀ c ∈ t.text, c.isBlank = true →
          t.kind = .operator ∧ t.text ∈ v.operators ∧ t.text.StartsOrdinary) ∧
      ∀ k ≤ (v.walk source).tokens.length, ∀ gap ∈ runs CodePoint.isBlank, gap ≠ [] →
        (∀ op ∈ v.operators, op.StartsOrdinary →
          ¬ Straddles op (v.upTo source k) (gap ++ v.restAfter source k)) →
        (v.walk (v.respaced source k gap)).ending = .stop ∧
          (v.walk (v.respaced source k gap)).tokens.map Prod.fst =
            (v.walk source).tokens.map Prod.fst) ∧
    ((∀ source, (v.walk source).ending = .stop → v.IgnoresBlanks source) ↔
      ∀ op ∈ v.operators, op.StartsOrdinary → ∀ c ∈ op, c.isBlank = false) := by
  refine ⟨?_, ?_, ?_⟩
  · intro source hstop
    refine ⟨?_, ?_⟩
    · intro t ht hliteral c hc hblank
      exact hv.filed.operator_of_blank ⟨source, ht⟩ hliteral hc hblank
    · intro k hk gap hgap hne hops
      exact hv.walk_respaced hstop hk hgap hne hops
  · intro h op hop hord
    -- the operator alone is a source that shows its blanks
    have hwalk := hv.filed.walk_operator hop hord
    have halone := (h op (by rw [hwalk])).not_blank
    rw [hwalk] at halone
    exact halone ⟨.operator, op⟩ (by simp) (by simp)
  · intro hops source hstop
    constructor
    case not_blank =>
      intro t ht hliteral c hc
      by_contra hblank
      obtain ⟨-, hop, hord⟩ :=
        hv.filed.operator_of_blank ⟨source, ht⟩ hliteral hc (by simpa using hblank)
      exact hblank (hops t.text hop hord c hc)
    case walk_respaced =>
      intro k _ hk _ gap hgap hne
      refine hv.walk_respaced hstop hk.le hgap hne ?_
      intro op hop hord hstraddles
      obtain ⟨c, u, rfl⟩ := List.exists_cons_of_ne_nil hne
      have hblank := hgap c List.mem_cons_self
      rw [hops op hop hord c (mem_of_straddles hstraddles)] at hblank
      cases hblank

/-- The operator `a b` keeps its blank. The other operator reaches into the new gap, but it starts
with a blank, so it cannot be read and does not count. -/
theorem ignoresBlanks_iff_of_blank_operator :
    let v := (Vocabulary.build [.text "a b", .text " b\t"]).vocabulary
    v.Reachable ∧ v.respaced "a b c" 1 "\t " = "a b\t c" ∧
      (v.walk "a b\t c").tokens.map Prod.fst = [⟨.operator, "a b"⟩, ⟨.symbol, "c"⟩] ∧
      ¬ ∀ source, (v.walk source).ending = .stop → v.IgnoresBlanks source := by
  intro v
  have hv : v.Reachable := Vocabulary.reachable_build _
  obtain ⟨hevery, hiff⟩ := ignoresBlanks_iff hv
  refine ⟨hv, by decide, ?_, ?_⟩
  · have htokens := ((hevery "a b c" (by decide)).2 1 (by decide) "\t " (by decide) (by decide)
      (by decide)).2
    exact htokens.trans (by decide)
  · rw [hiff]
    decide

/-- With the operator `a b`, respacing `a  b` to `a b` makes two tokens one. -/
theorem not_ignoresBlanks :
    let v := (Vocabulary.build [.text "a b"]).vocabulary
    v.Reachable ∧
      v.walk "a b" = ⟨[(⟨.operator, "a b"⟩, 3)], .stop, ⟨3, [], false⟩⟩ ∧
      ¬ v.IgnoresBlanks "a b" ∧
      v.walk "a  b" = ⟨[(⟨.symbol, "a"⟩, 1), (⟨.symbol, "b"⟩, 4)], .stop, ⟨4, [], false⟩⟩ ∧
      v.respaced "a  b" 1 " " = "a b" ∧
      ¬ v.IgnoresBlanks "a  b" := by
  intro v
  have hone : v.walk "a b" = ⟨[(⟨.operator, "a b"⟩, 3)], .stop, ⟨3, [], false⟩⟩ := by decide
  have htwo : v.walk "a  b" =
      ⟨[(⟨.symbol, "a"⟩, 1), (⟨.symbol, "b"⟩, 4)], .stop, ⟨4, [], false⟩⟩ := by decide
  refine ⟨Vocabulary.reachable_build _, hone, ?_, htwo, by decide, ?_⟩
  · intro h
    have hblank := h.not_blank
    rw [hone] at hblank
    exact absurd (hblank ⟨.operator, "a b"⟩ (by decide) (by decide) ' ' (by decide)) (by decide)
  · intro h
    obtain ⟨-, htokens⟩ := h.walk_respaced 1 (by decide) (by decide) (by decide) " " (by decide)
      (by decide)
    exact absurd htokens (by decide)

end ExprLexer
