import ExprLexer.Proofs.TokenBoundaries

/-!
# Joining sources

A source that is read to its end may be continued. If no operator reaches over the seam, and a blank
or a bracket stands at one side of it, then no token looks over it either: the walk over the whole
is the walk over the first part and then the walk over the second, moved behind it.
-/

namespace ExprLexer

def CodePoint.IsDivider (c : CodePoint) : Prop :=
  c.isBlank = true ∨ ∃ b : Bracket, c = b.opening ∨ c = b.closing

/-- Somewhere in `a ++ b` stands the text `op`, which begins in `a` and ends in `b`. -/
def Straddles (op a b : Text) : Prop :=
  ∃ i < a.length, a.length < i + op.length ∧ op <+: (a ++ b).drop i

instance (op a b : Text) : Decidable (Straddles op a b) :=
  inferInstanceAs (Decidable (∃ i < a.length, a.length < i + op.length ∧ op <+: (a ++ b).drop i))

/-- A text of `L` that begins in `a` does not reach into `b`. -/
def Sealed (L : Set Text) (a b : Text) : Prop :=
  ∀ s, s ≠ [] → s <:+ a → ∀ q ∈ L, q <+: s ++ b → q <+: s

def Bracket.enclose (bracket : Bracket) (inner : Text) : Text :=
  bracket.opening :: (inner ++ [bracket.closing])

/-- The tokens of a first walk, and then a second one `n` further on. -/
def Walk.append (first : Walk) (n : Nat) (second : Walk) : Walk :=
  { second.shift n with tokens := first.tokens ++ (second.shift n).tokens }

section Seams

variable {L : Set Text} {a b t : Text} {c : CodePoint}

theorem sealed_of_not_straddles (h : ∀ op ∈ L, ¬ Straddles op a b) : Sealed L a b := by
  rintro s hs ⟨u, rfl⟩ q hq hqs
  by_contra hno
  have hlong : s.length < q.length := by
    by_contra hle
    exact hno (List.prefix_of_prefix_length_le hqs (List.prefix_append s b) (Nat.not_lt.mp hle))
  refine h q hq ⟨u.length, ?_, ?_, ?_⟩
  · simpa using List.length_pos_iff.mpr hs
  · simpa using hlong
  · simpa using hqs

theorem Sealed.of_append {u : Text} (h : Sealed L (u ++ a) b) : Sealed L a b :=
  fun s hs hsuffix => h s hs (hsuffix.trans (List.suffix_append u a))

theorem not_isDivider_of_isWordSign (h : c.isWordSign = true) : ¬ c.IsDivider := by
  rintro (hblank | ⟨b, rfl | rfl⟩)
  · rw [isWordSign_not_blank h] at hblank
    cases hblank
  · revert h
    cases b <;> decide
  · revert h
    cases b <;> decide

theorem not_mem_of_isDivider {q : Text} (hq : q ∈ words) (hc : c.IsDivider) : c ∉ q :=
  fun hmem => not_isDivider_of_isWordSign (words_subset hq c hmem) hc

theorem sealed_words_cons (hc : c.IsDivider) (a t : Text) : Sealed words a (c :: t) :=
  fun _ _ _ _ hq hqs => prefix_of_not_mem (not_mem_of_isDivider hq hc) hqs

theorem sealed_words_concat (hc : c.IsDivider) (a b : Text) : Sealed words (a ++ [c]) b := by
  intro s hs hsuffix q hq hqs
  obtain rfl | ⟨s, rfl, -⟩ := List.suffix_concat_iff.mp hsuffix
  · exact absurd rfl hs
  · rw [List.append_assoc] at hqs
    exact (prefix_of_not_mem (not_mem_of_isDivider hq hc) hqs).trans (List.prefix_append s [c])

end Seams

section Join

variable {v : Vocabulary} {a b gap : Text} {segments : List Segment}

theorem Scans.take_append (hv : v.Filed) (h : Scans v.operatorSet a segments gap .nothing)
    (hops : Sealed v.operatorSet a b) (hwords : Sealed words a b) (start n : Nat) :
    (Lexer.mk start (a ++ b) true).take v (segments.length + (n + 1)) =
      let second := (Lexer.mk (start + a.length) b true).take v (n + 1)
      { second with tokens := Segment.marks start segments ++ second.tokens } := by
  generalize hremnant : Remnant.nothing = remnant at h
  induction h generalizing start with
  | stop hgap => simp [Lexer.take, Lexer.pull_skip hgap, Segment.marks]
  | fault => cases hremnant
  | @token s rest segments gap remnant hgap hread _ ih =>
    have hops' := hops.of_append
    have hwords' := hwords.of_append
    have hne : s.raw ++ rest ≠ [] := by simp [hread.raw_ne_nil hv.nil_not_mem]
    have hself := List.suffix_refl (s.raw ++ rest)
    -- no operator and no word reaches from this token over the seam
    have hread' : Reads v.operatorSet (s.raw ++ (rest ++ b)) (.ok ⟨s.token, s.raw, rest ++ b⟩) :=
      hread.change_rest hv.nil_not_mem
        (fun op hop hb => hops' _ hne hself op hop (by simpa using hb))
        (fun q hq hb => hwords' _ hne hself q hq (by simpa using hb))
    have hothers := ih hops'.of_append hwords'.of_append (start + s.gap.length + s.raw.length)
      hremnant
    have hcount : (s :: segments).length + (n + 1) = segments.length + (n + 1) + 1 := by
      simp only [List.length_cons]
      omega
    have hpull : (Lexer.mk start (s.gap ++ (s.raw ++ (rest ++ b))) true).pull v =
        (.token s.token, ⟨start + s.gap.length + s.raw.length, rest ++ b, true⟩) := by
      rw [Lexer.pull_skip hgap, hread'.pull_token hv]
    rw [List.append_assoc, List.append_assoc, hcount, Lexer.take_of_token hpull, hothers]
    simp only [Segment.marks, Segment.text, List.length_append, List.cons_append, Nat.add_assoc]

theorem Vocabulary.Filed.walk_append (hv : v.Filed) (ha : (v.walk a).ending = .stop)
    (hops : Sealed v.operatorSet a b) (hwords : Sealed words a b) :
    v.walk (a ++ b) = (v.walk a).append a.length (v.walk b) := by
  obtain ⟨first, gap, remnant, hfirst⟩ := hv.exists_scans a
  obtain ⟨second, last, left, hsecond⟩ := hv.exists_scans b
  rw [hfirst.walk_eq hv] at ha ⊢
  cases remnant with
  | fault f rest => cases ha
  | nothing =>
    have hlen := hfirst.length_le hv.nil_not_mem
    have hlen' := hsecond.length_le hv.nil_not_mem
    have hlimit :
        (a ++ b).length + 1 = first.length + (a.length - first.length + b.length + 1) := by
      rw [List.length_append]
      omega
    rw [Vocabulary.walk, Lexer.walk, Lexer.start, hlimit, hfirst.take_append hv hops hwords,
      hsecond.take_eq hv _ _ (by omega), hsecond.walk_eq hv, Walk.append, Walk.shift_ofSegments,
      Nat.zero_add, Nat.add_zero]
    rfl

theorem Walk.shift_shift (m n : Nat) (w : Walk) : (w.shift m).shift n = w.shift (n + m) := by
  obtain ⟨tokens, ending, lexer⟩ := w
  cases ending <;> simp [Walk.shift, Ending.shift, Nat.add_assoc]

theorem Vocabulary.Filed.walk_skip (hv : v.Filed) (hgap : gap ∈ runs CodePoint.isBlank) (b : Text) :
    v.walk (gap ++ b) = (v.walk b).shift gap.length := by
  obtain ⟨segments, last, remnant, h⟩ := hv.exists_scans b
  have hlen := h.length_le hv.nil_not_mem
  have hpull := Lexer.pull_skip (v := v) hgap b 0
  have htake : (Lexer.mk 0 (gap ++ b) true).take v ((gap ++ b).length + 1) =
      (Lexer.mk (0 + gap.length) b true).take v ((gap ++ b).length + 1) := by
    simp only [Lexer.take, hpull]
  have hlimit : segments.length < (gap ++ b).length + 1 := by
    rw [List.length_append]
    omega
  rw [Vocabulary.walk, Lexer.walk, Lexer.start, htake, h.take_eq hv _ _ hlimit, h.walk_eq hv,
    Walk.shift_ofSegments, Nat.add_comm]

end Join

/-- A source that is read to its end, continued by a text that starts with a blank or a bracket, is
read as both parts are read alone, if no operator reaches over the seam. So blanks and bracketed
groups may be put in without a change to what stands around them. -/
theorem walk_append_of_divider {v : Vocabulary} (hv : v.Reachable) {a : Text}
    (ha : (v.walk a).ending = .stop) :
    (∀ (c : CodePoint) (t : Text), c.IsDivider →
      (∀ op ∈ v.operators, ¬ Straddles op a (c :: t)) →
        v.walk (a ++ c :: t) = (v.walk a).append a.length (v.walk (c :: t))) ∧
    (∀ gap b : Text, gap ≠ [] → gap ∈ runs CodePoint.isBlank →
      (∀ op ∈ v.operators, ¬ Straddles op a (gap ++ b)) →
        v.walk (a ++ (gap ++ b)) = (v.walk a).append (a.length + gap.length) (v.walk b)) ∧
    ∀ (bracket : Bracket) (inner b : Text),
      let group := bracket.enclose inner
      (v.walk group).ending = .stop →
      (∀ op ∈ v.operators, ¬ Straddles op a (group ++ b)) →
      (∀ op ∈ v.operators, ¬ Straddles op (a ++ group) b) →
        v.walk (a ++ (group ++ b)) =
          (v.walk a).append a.length ((v.walk group).append group.length (v.walk b)) := by
  have hfiled := hv.filed
  have hfirst : ∀ (c : CodePoint) (t : Text), c.IsDivider →
      (∀ op ∈ v.operators, ¬ Straddles op a (c :: t)) →
        v.walk (a ++ c :: t) = (v.walk a).append a.length (v.walk (c :: t)) :=
    fun c t hc hops =>
      hfiled.walk_append ha (sealed_of_not_straddles hops) (sealed_words_cons hc a t)
  refine ⟨hfirst, ?_, ?_⟩
  · intro gap b hne hgap hops
    obtain ⟨c, t, rfl⟩ := List.exists_cons_of_ne_nil hne
    have hwalk := hfirst c (t ++ b) (Or.inl (hgap c List.mem_cons_self)) hops
    have hskip := hfiled.walk_skip hgap b
    rw [List.cons_append] at hskip ⊢
    rw [hwalk, hskip, Walk.append, Walk.append, Walk.shift_shift]
  · intro bracket inner b group hgroup hops hops'
    have hopen := hfirst bracket.opening (inner ++ [bracket.closing] ++ b)
      (Or.inr ⟨bracket, Or.inl rfl⟩) hops
    have hclose := sealed_words_concat (Or.inr ⟨bracket, Or.inr rfl⟩)
      (bracket.opening :: inner) b
    have hinner := hfiled.walk_append hgroup (sealed_of_not_straddles hops').of_append hclose
    rw [← hinner]
    exact hopen

/-- After a number with a quote among its digits come an open bracket and a failure, a blank and an
open literal, or a group and a suffix without a name. -/
theorem walk_append_of_divider_after_radix :
    let v := (Vocabulary.build [.text "<=", .text "a@"]).vocabulary
    (v.walk "12#a'").ending = .stop ∧
      v.walk "12#a'(<= ?" =
        ⟨[(⟨.radixNumber, "12#a'"⟩, 5), (⟨.leftBracket, "("⟩, 6), (⟨.operator, "<="⟩, 8)],
          .failure ⟨.unrecognized, 9, "?"⟩, ⟨9, "?", false⟩⟩ ∧
      v.walk "12#a'\t'b" =
        ⟨[(⟨.radixNumber, "12#a'"⟩, 5)], .failure ⟨.unterminatedString, 6, "'b"⟩,
          ⟨6, "'b", false⟩⟩ ∧
      v.walk "12#a'(a)@" =
        ⟨[(⟨.radixNumber, "12#a'"⟩, 5), (⟨.leftBracket, "("⟩, 6), (⟨.symbol, "a"⟩, 7),
            (⟨.rightBracket, ")"⟩, 8)],
          .failure ⟨.unrecognized, 8, "@"⟩, ⟨8, "@", false⟩⟩ := by
  intro v
  have hv : v.Reachable := Vocabulary.reachable_build _
  have ha : (v.walk "12#a'").ending = .stop := by decide
  obtain ⟨hdivider, hgap, hgroup⟩ := walk_append_of_divider hv ha
  refine ⟨ha, ?_, ?_, ?_⟩
  · have hwalk := hdivider '(' "<= ?" (Or.inr ⟨.round, Or.inl rfl⟩) (by decide)
    exact hwalk.trans (by decide)
  · have hwalk := hgap "\t" "'b" (by decide) (by decide) (by decide)
    exact hwalk.trans (by decide)
  · have hwalk := hgroup .round "a" "@" (by decide) (by decide) (by decide)
    exact hwalk.trans (by decide)

end ExprLexer
