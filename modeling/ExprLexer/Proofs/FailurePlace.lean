import ExprLexer.Diagnostic
import ExprLexer.Proofs.LiteralDecoding
import ExprLexer.Proofs.NumberPriority
import ExprLexer.Proofs.TokenBoundaries

/-!
# Where a walk fails

A walk looks for tokens at the first visible place of its source and at the first visible place
after each token. Of these places the first at which no token starts ends it, and the error shows
the source from there on. There are two ways to get there: nothing starts with the code point and no
operator stands there, or a literal starts there that is not well formed.
-/

namespace ExprLexer

/-- A code point that neither decides by itself nor starts a name or a number. -/
structure CodePoint.Unclaimed (c : CodePoint) : Prop extends c.Ordinary where
  not_symbolStart : c.isSymbolStart = false
  not_digit : c.isDigit = false

/-- The first code point at or after `start` that is no blank stands at `p`. -/
structure FirstVisible (source : Text) (start p : Nat) : Prop where
  le : start ≤ p
  visible : ∃ c, source[p]? = some c ∧ c.isBlank = false
  blank : ∀ i c, start ≤ i → i < p → source[i]? = some c → c.isBlank = true

/-- A literal stands at `p`: units between two equal quotes. -/
def HoldsLiteral (source : Text) (p : Nat) : Prop :=
  ∃ mark ∈ StringLiteral.delimiters, ∃ units value rest : Text,
    source.drop p = mark :: (units ++ mark :: rest) ∧ StringLiteral.Spells mark units value

def literalErrors : List ErrorClass :=
  [.unterminatedString, .unterminatedEscape, .invalidEscapeChar, .invalidHexEscape]

namespace Vocabulary

/-- The walk looks for a token at `p`: behind one of its tokens, or at the start, blanks apart. -/
def Reaches (v : Vocabulary) (source : Text) (p : Nat) : Prop :=
  ∃ k ≤ (v.walk source).tokens.length, FirstVisible source ((v.walk source).boundary k) p

/-- Nothing starts at `p`, not even an operator. -/
structure Unrecognized (v : Vocabulary) (source : Text) (p : Nat) : Prop where
  unclaimed : ∃ c, source[p]? = some c ∧ c.Unclaimed
  no_operator : ∀ op ∈ v.operators, ¬ op <+: source.drop p

/-- What the failure at `p` reports, and why nothing is read there. -/
structure FailsAt (v : Vocabulary) (source : Text) (p : Nat) (f : Failure) : Prop where
  position_eq : f.position = p
  remaining_eq : f.remaining = source.drop p
  remaining_ne_nil : source.drop p ≠ []
  lexer_eq : (v.walk source).lexer = ⟨p, source.drop p, false⟩
  site_eq : (Diagnostic.ofFailure f).detail.site? = some ⟨source.drop p, p⟩
  display_eq : (Diagnostic.ofFailure f).display =
    (Diagnostic.ofFailure f).message ++ " at position " ++ Text.ofNat p ++ ": '" ++
      source.drop p ++ "'"
  unrecognized_iff :
    (Diagnostic.ofFailure f).detail.errorClass = .unrecognizedToken ↔ v.Unrecognized source p
  literal_otherwise : (Diagnostic.ofFailure f).detail.errorClass ≠ .unrecognizedToken →
    (∃ mark ∈ StringLiteral.delimiters, source[p]? = some mark) ∧
      (Diagnostic.ofFailure f).detail.errorClass ∈ literalErrors

end Vocabulary

section FirstVisible

variable {source gap t : Text} {c : CodePoint} {start p q : Nat}

theorem FirstVisible.not_lt (h : FirstVisible source start p) (h' : FirstVisible source start q) :
    ¬ p < q := by
  intro hlt
  obtain ⟨c, hc, hvisible⟩ := h.visible
  rw [h'.blank p c h.le hlt hc] at hvisible
  cases hvisible

theorem FirstVisible.unique (h : FirstVisible source start p) (h' : FirstVisible source start q) :
    p = q :=
  Nat.le_antisymm (Nat.not_lt.mp (h'.not_lt h)) (Nat.not_lt.mp (h.not_lt h'))

theorem getElem?_of_drop (hdrop : source.drop start = t) (hle : start ≤ p) :
    source[p]? = t[p - start]? := by
  rw [← hdrop, List.getElem?_drop, Nat.add_sub_cancel' hle]

theorem firstVisible_of_drop (hdrop : source.drop start = gap ++ c :: t)
    (hgap : gap ∈ runs CodePoint.isBlank) (hc : c.isBlank = false) :
    FirstVisible source start (start + gap.length) where
  le := Nat.le_add_right start gap.length
  visible := by
    refine ⟨c, ?_, hc⟩
    rw [getElem?_of_drop hdrop (Nat.le_add_right start gap.length), Nat.add_sub_cancel_left]
    simp
  blank := by
    intro i d hle hlt hd
    have hin : i - start < gap.length := by omega
    rw [getElem?_of_drop hdrop hle, List.getElem?_append_left hin] at hd
    exact hgap d (List.mem_of_getElem? hd)

theorem not_firstVisible_of_drop (hdrop : source.drop start ∈ runs CodePoint.isBlank) :
    ¬ FirstVisible source start p := by
  intro h
  obtain ⟨c, hc, hvisible⟩ := h.visible
  rw [getElem?_of_drop rfl h.le] at hc
  rw [hdrop c (List.mem_of_getElem? hc)] at hvisible
  cases hvisible

end FirstVisible

section Errors

variable {O : Set Text} {c : CodePoint} {t : Text} {f : Fault}

theorem NumberForm.isDigit_of_fits {form : NumberForm} (h : form.Fits (c :: t)) :
    c.isDigit = true := by
  have hzero : CodePoint.isDigit '0' = true := by decide
  rw [fits_iff_shows] at h
  cases form with
  | radix =>
    obtain ⟨base, d, rest, hne, hlong, heq, -⟩ := h
    obtain ⟨b, base, rfl⟩ := List.exists_cons_of_ne_nil hne
    obtain ⟨rfl, -⟩ := List.cons.inj heq
    exact hlong.mem c List.mem_cons_self
  | decimal =>
    obtain ⟨d, rest, heq, hd⟩ := h
    obtain ⟨rfl, -⟩ := List.cons.inj heq
    exact hd
  | _ =>
    obtain ⟨d, rest, heq, -⟩ := h
    obtain ⟨rfl, -⟩ := List.cons.inj heq
    exact hzero

theorem reads_unrecognized_iff : Reads O (c :: t) (.error .unrecognized) ↔
    c.Unclaimed ∧ ∀ op ∈ O, ¬ op <+: c :: t := by
  constructor
  · intro h
    generalize hinput : c :: t = input at h
    cases h with
    | faultyLiteral _ hf =>
      obtain ⟨_, _, _, -, hobstacle, -⟩ := hf
      cases hobstacle
    | unrecognized hord hname hops hforms =>
      subst hinput
      refine ⟨⟨hord.head, isLongest_names_nil_iff.mp hname, ?_⟩, hops⟩
      by_contra hdigit
      have hshows : NumberForm.decimal.Shows (c :: t) := ⟨c, t, rfl, by simpa using hdigit⟩
      exact hforms .decimal (NumberForm.fits_iff_shows.mpr hshows)
  · rintro ⟨hc, hops⟩
    have hname : IsLongest Symbol.names (c :: t) [] :=
      isLongest_names_nil_iff.mpr hc.not_symbolStart
    refine .unrecognized ⟨c, t, rfl, hc.toOrdinary⟩ hname hops ?_
    intro form hfits
    have hdigit := NumberForm.isDigit_of_fits hfits
    rw [hc.not_digit] at hdigit
    cases hdigit

theorem Reads.error_cases (h : Reads O (c :: t) (.error f)) :
    f = .unrecognized ∨ c ∈ StringLiteral.delimiters ∧
      ∀ position remaining,
        (Diagnostic.ofFailure ⟨f, position, remaining⟩).detail.errorClass ∈ literalErrors := by
  generalize hinput : c :: t = input at h
  cases h with
  | faultyLiteral hmark hf =>
    obtain ⟨rfl, -⟩ := List.cons.inj hinput
    obtain ⟨_, _, _, -, hobstacle, -⟩ := hf
    refine Or.inr ⟨hmark, ?_⟩
    intro position remaining
    cases hobstacle <;> simp [Diagnostic.ofFailure, Detail.errorClass, literalErrors]
  | unrecognized => exact Or.inl rfl

end Errors

namespace Diagnostic

theorem site?_ofFailure (f : Failure) :
    (ofFailure f).detail.site? = some ⟨f.remaining, f.position⟩ := by
  obtain ⟨fault, position, remaining⟩ := f
  cases fault <;> rfl

theorem display_of_site {d : Diagnostic} {site : Site} (h : d.detail.site? = some site) :
    d.display = d.message ++ " at position " ++ Text.ofInt site.position ++ ": '" ++
      site.remaining ++ "'" := by
  obtain ⟨message, detail⟩ := d
  cases detail <;> cases h <;> rfl

theorem errorClass_ofFailure (f : Failure) :
    (ofFailure f).detail.errorClass = .unrecognizedToken ↔ f.fault = .unrecognized := by
  obtain ⟨fault, position, remaining⟩ := f
  cases fault <;> simp [ofFailure, Detail.errorClass]

end Diagnostic

section Places

variable {v : Vocabulary} {source : Text} {p : Nat}

theorem Reads.exists_at {O : Set Text} {r : Except Fault Lexeme} (h : Reads O (source.drop p) r) :
    ∃ c, source[p]? = some c ∧ source.drop p = c :: source.drop (p + 1) := by
  obtain ⟨c, t, hdrop, -⟩ := h.input_head
  have hc : source[p]? = some c := by
    rw [← List.head?_drop, hdrop]
    rfl
  exact ⟨c, hc, drop_eq_cons hc⟩

theorem Vocabulary.Filed.reads_unique (hv : v.Filed) {input : Text} {r r' : Except Fault Lexeme}
    (h : Reads v.operatorSet input r) (h' : Reads v.operatorSet input r') : r = r' := by
  obtain ⟨c, t, rfl, -⟩ := h.input_head
  rw [← hv.firstLexeme_eq h, hv.firstLexeme_eq h']

theorem Vocabulary.Filed.spells_of_reads (hv : v.Filed) {mark : CodePoint} {t : Text} {l : Lexeme}
    (h : Reads v.operatorSet (mark :: t) (.ok l)) (hmark : mark ∈ StringLiteral.delimiters) :
    ∃ units value rest, t = units ++ mark :: rest ∧ StringLiteral.Spells mark units value := by
  rcases StringLiteral.spells_or_faulty mark t with ⟨units, value, rest, hs, ht⟩ | ⟨f, hf⟩
  · exact ⟨units, value, rest, ht, hs⟩
  · cases hv.reads_unique h (.faultyLiteral hmark hf)

theorem Scans.reads_behind {O : Set Text} {first second : List Segment} {gap : Text}
    {remnant : Remnant} (h : Scans O source (first ++ second) gap remnant)
    (hp : FirstVisible source (Segment.consumed first).length p) :
    (∃ l, Reads O (source.drop p) (.ok l)) ∨
      ∃ f, Reads O (source.drop p) (.error f) ∧ second = [] ∧
        remnant = .fault f (source.drop p) ∧ p = (Segment.consumed first ++ gap).length := by
  obtain ⟨rest, rfl, hrest⟩ := h.after_cut
  have hdrop : (Segment.consumed first ++ rest).drop (Segment.consumed first).length = rest :=
    List.drop_left
  have hplace : ∀ {blanks lexeme : Text} {r : Except Fault Lexeme},
      rest = blanks ++ lexeme → blanks ∈ runs CodePoint.isBlank → Reads O lexeme r →
        p = (Segment.consumed first ++ blanks).length ∧
          (Segment.consumed first ++ rest).drop p = lexeme := by
    rintro blanks lexeme r rfl hblanks hread
    obtain ⟨c, t, rfl, hc⟩ := hread.input_head
    obtain rfl := hp.unique (firstVisible_of_drop hdrop hblanks hc)
    rw [← List.length_append, ← List.append_assoc]
    exact ⟨rfl, List.drop_left⟩
  cases hrest with
  | stop hgap =>
    rw [← hdrop] at hgap
    exact absurd hp (not_firstVisible_of_drop hgap)
  | fault hgap hread =>
    obtain ⟨hp, hdrop⟩ := hplace rfl hgap hread
    rw [hdrop]
    exact Or.inr ⟨_, hread, rfl, rfl, hp⟩
  | token hgap hread _ =>
    obtain ⟨-, hdrop⟩ := hplace rfl hgap hread
    rw [hdrop]
    exact Or.inl ⟨_, hread⟩

theorem Vocabulary.Filed.reads_of_reaches (hv : v.Filed) (hp : v.Reaches source p) :
    (∃ l, Reads v.operatorSet (source.drop p) (.ok l)) ∨
      ∃ f, Reads v.operatorSet (source.drop p) (.error f) ∧
        (v.walk source).ending = .failure ⟨f, p, source.drop p⟩ := by
  obtain ⟨k, hk, hp⟩ := hp
  obtain ⟨first, second, gap, remnant, rfl, h⟩ := hv.exists_scans_cut hk
  have hwalk := h.walk_eq hv
  rw [hwalk, Walk.boundary_ofSegments] at hp
  rcases h.reads_behind hp with hread | ⟨f, hread, rfl, rfl, hplace⟩
  · exact Or.inl hread
  · refine Or.inr ⟨f, hread, ?_⟩
    rw [hwalk]
    simp [Walk.ofSegments, ← hplace]

theorem Vocabulary.Filed.stops_or_fails (hv : v.Filed) (source : Text) :
    (v.walk source).ending = .stop ∨ ∃ f, (v.walk source).ending = .failure f := by
  obtain ⟨segments, gap, remnant, h⟩ := hv.exists_scans source
  rw [h.walk_eq hv]
  cases remnant with
  | nothing => exact Or.inl rfl
  | fault f rest => exact Or.inr ⟨_, rfl⟩

theorem Vocabulary.Filed.reads_of_failure (hv : v.Filed) {f : Failure}
    (h : (v.walk source).ending = .failure f) :
    ∃ p, FirstVisible source ((v.walk source).boundary (v.walk source).tokens.length) p ∧
      f = ⟨f.fault, p, source.drop p⟩ ∧ (v.walk source).lexer = ⟨p, source.drop p, false⟩ ∧
        Reads v.operatorSet (source.drop p) (.error f.fault) := by
  obtain ⟨segments, gap, remnant, hscans⟩ := hv.exists_scans source
  rw [hscans.walk_eq hv] at h ⊢
  cases remnant with
  | nothing => cases h
  | fault fault rest =>
    cases h
    have hread := hscans.remnant_reads
    have hsource : source = Segment.consumed segments ++ gap ++ rest := hscans.input_eq
    have hdrop : source.drop (Segment.consumed segments ++ gap).length = rest := by
      rw [hsource]
      exact List.drop_left
    have hbehind : source.drop (Segment.consumed segments).length = gap ++ rest := by
      rw [hsource, List.append_assoc]
      exact List.drop_left
    obtain ⟨c, t, hrest, hc⟩ := hread.input_head
    have hvisible := firstVisible_of_drop (hrest ▸ hbehind) hscans.gap_mem hc
    rw [← List.length_append] at hvisible
    rw [Walk.boundary_length_ofSegments]
    refine ⟨_, hvisible, ?_, ?_, ?_⟩
    · rw [hdrop, Nat.zero_add]
    · rw [hdrop]
      simp [Walk.ofSegments, Remnant.text]
    · rwa [hdrop]

theorem Vocabulary.unrecognized_iff_reads :
    v.Unrecognized source p ↔ Reads v.operatorSet (source.drop p) (.error .unrecognized) := by
  constructor
  · rintro ⟨⟨c, hc, hunclaimed⟩, hops⟩
    rw [drop_eq_cons hc] at hops ⊢
    exact reads_unrecognized_iff.mpr ⟨hunclaimed, hops⟩
  · intro h
    obtain ⟨c, hc, hdrop⟩ := h.exists_at
    rw [hdrop] at h
    obtain ⟨hunclaimed, hops⟩ := reads_unrecognized_iff.mp h
    rw [← hdrop] at hops
    exact ⟨⟨c, hc, hunclaimed⟩, hops⟩

theorem Vocabulary.Filed.failsAt (hv : v.Filed) {f : Fault}
    (hread : Reads v.operatorSet (source.drop p) (.error f))
    (hlexer : (v.walk source).lexer = ⟨p, source.drop p, false⟩) :
    v.FailsAt source p ⟨f, p, source.drop p⟩ := by
  obtain ⟨c, hc, hdrop⟩ := hread.exists_at
  have hsite := Diagnostic.site?_ofFailure ⟨f, p, source.drop p⟩
  constructor
  case position_eq => rfl
  case remaining_eq => rfl
  case remaining_ne_nil => simp [hdrop]
  case lexer_eq => exact hlexer
  case site_eq => exact hsite
  case display_eq => exact Diagnostic.display_of_site hsite
  case unrecognized_iff =>
    rw [Diagnostic.errorClass_ofFailure, unrecognized_iff_reads]
    constructor
    · rintro rfl
      exact hread
    · intro h
      exact Except.error.inj (hv.reads_unique hread h)
  case literal_otherwise =>
    intro hother
    rw [Ne, Diagnostic.errorClass_ofFailure] at hother
    rw [hdrop] at hread
    rcases hread.error_cases with hnone | ⟨hmark, hclass⟩
    · exact absurd hnone hother
    · exact ⟨⟨c, hmark, hc⟩, hclass p (source.drop p)⟩

theorem Vocabulary.Filed.ending_eq_stop_iff (hv : v.Filed) : (v.walk source).ending = .stop ↔
    ∀ p, v.Reaches source p → ¬ v.Unrecognized source p ∧
      ∀ mark ∈ StringLiteral.delimiters, source[p]? = some mark → HoldsLiteral source p := by
  constructor
  · intro hstop p hp
    rcases hv.reads_of_reaches hp with ⟨l, hread⟩ | ⟨f, -, hfailure⟩
    · refine ⟨?_, ?_⟩
      · intro hnone
        cases hv.reads_unique hread (unrecognized_iff_reads.mp hnone)
      · intro mark hmark hat
        rw [drop_eq_cons hat] at hread
        obtain ⟨units, value, rest, ht, hs⟩ := hv.spells_of_reads hread hmark
        exact ⟨mark, hmark, units, value, rest, by rw [drop_eq_cons hat, ht], hs⟩
    · rw [hstop] at hfailure
      cases hfailure
  · intro h
    rcases hv.stops_or_fails source with hstop | ⟨f, hf⟩
    · exact hstop
    · -- what is read at the place of the failure contradicts what is assumed of it
      obtain ⟨p, hp, -, -, hread⟩ := hv.reads_of_failure hf
      obtain ⟨hrecognized, hliteral⟩ := h p ⟨_, Nat.le_refl _, hp⟩
      obtain ⟨c, hc, hdrop⟩ := hread.exists_at
      rcases (hdrop ▸ hread).error_cases with hnone | ⟨hmark, -⟩
      · rw [hnone] at hread
        exact absurd (unrecognized_iff_reads.mpr hread) hrecognized
      · obtain ⟨mark, hmark', units, value, rest, hspelled, hs⟩ := hliteral c hmark hc
        rw [hspelled] at hread
        cases hv.reads_unique hread (.literal hmark' hs)

end Places

theorem CodePoint.unclaimed_of_beyond_ascii {c : CodePoint} (hc : 0x7F < c.val)
    (hblank : c.isBlank = false) : c.Unclaimed where
  toOrdinary := by
    refine @ordinary_of_class c (fun d => decide (0x7F < d.val)) (by decide) ?_ (by decide) hblank
      (decide_eq_true hc)
    intro b
    cases b <;> decide
  not_symbolStart := by
    by_contra hstart
    have hpart : c.isSymbolPart = true := by simp_all [isSymbolPart]
    have hvisible := isWordSign_visible (isWordSign_of_isSymbolPart hpart)
    omega
  not_digit := by
    by_contra hc'
    have hdigit : c.isDigit = true := by simpa using hc'
    have hvisible := isWordSign_visible (@isWordSign_of_isDigit c .decimal hdigit)
    omega

/-- A walk that fails does so at the first visible place behind its last token, and its error shows
the source from there on. Nothing is recognized there, or it is a quote whose literal fails. A walk
that reaches a place at which nothing is recognized fails there, so it stops exactly if it reaches
none and every quote that it reaches opens a literal. Outside ASCII only operators are
recognized. -/
theorem walk_failure_place {v : Vocabulary} (hv : v.Reachable) (source : Text) :
    let w := v.walk source
    (∀ f, w.ending = .failure f →
      ∃ p, FirstVisible source (w.boundary w.tokens.length) p ∧ v.FailsAt source p f) ∧
    (∀ p, v.Reaches source p → v.Unrecognized source p →
      w.ending = .failure ⟨.unrecognized, p, source.drop p⟩) ∧
    (w.ending = .stop ↔ ∀ p, v.Reaches source p → ¬ v.Unrecognized source p ∧
      ∀ mark ∈ StringLiteral.delimiters, source[p]? = some mark → HoldsLiteral source p) ∧
    ∀ p c, source[p]? = some c → 0x7F < c.val → c.isBlank = false →
      (v.Unrecognized source p ↔ ∀ op ∈ v.operators, ¬ op <+: source.drop p) := by
  refine ⟨?_, ?_, hv.filed.ending_eq_stop_iff, ?_⟩
  · intro f hf
    obtain ⟨p, hp, hfault, hlexer, hread⟩ := hv.filed.reads_of_failure hf
    rw [hfault]
    exact ⟨p, hp, hv.filed.failsAt hread hlexer⟩
  · intro p hp hnone
    rw [Vocabulary.unrecognized_iff_reads] at hnone
    rcases hv.filed.reads_of_reaches hp with ⟨l, hread⟩ | ⟨f, hread, hfailure⟩
    · cases hv.filed.reads_unique hread hnone
    · cases hv.filed.reads_unique hread hnone
      exact hfailure
  · intro p c hat hc hblank
    constructor
    · intro h
      exact h.no_operator
    · intro hops
      exact ⟨⟨c, hat, CodePoint.unclaimed_of_beyond_ascii hc hblank⟩, hops⟩

/-- Of two code points beyond ASCII the first is an operator. The other one is a digit of another
script, at which the walk fails with everything before it read. -/
theorem walk_failure_place_of_foreign_digit :
    let v := (Vocabulary.build [.text "\u03C0", .text "<="]).vocabulary
    let source : Text := "x<='q' \u03C0 \u0663 y"
    v.Reachable ∧ (v.walk source).tokens.length = 4 ∧
      FirstVisible source ((v.walk source).boundary 4) 9 ∧ v.Reaches source 9 ∧
      v.Unrecognized source 9 ∧ ¬ v.Unrecognized source 7 ∧
      v.FailsAt source 9 ⟨.unrecognized, 9, source.drop 9⟩ := by
  intro v source
  have hv : v.Reachable := Vocabulary.reachable_build _
  have hlen : (v.walk source).tokens.length = 4 := by decide
  have hending : (v.walk source).ending = .failure ⟨.unrecognized, 9, source.drop 9⟩ := by decide
  obtain ⟨hfails, -, -, hforeign⟩ := walk_failure_place hv source
  obtain ⟨p, hvisible, hat⟩ := hfails _ hending
  obtain rfl : 9 = p := hat.position_eq
  rw [hlen] at hvisible
  have hreached : v.Reaches source 9 := ⟨4, hlen.ge, hvisible⟩
  refine ⟨hv, hlen, hvisible, hreached, hat.unrecognized_iff.mp rfl, ?_, hat⟩
  rw [hforeign 7 (CodePoint.ofChar '\u03C0') (by decide) (by decide) (by decide)]
  decide

end ExprLexer
