import ExprLexer.Proofs.Segmentation
import ExprLexer.Text.Hex
import Mathlib.Algebra.Group.Nat.Defs

/-!
# Printing tokens

A token has one canonical spelling. Where no operator holds a blank, tokens printed with blanks in
between are found again, whatever walks they come from: no word and no operator reaches over a
blank, so the new surroundings complete none that the lexeme does not hold itself.
-/

namespace ExprLexer

def CodePoint.isSurrogate (c : CodePoint) : Bool :=
  0xD800 ≤ c.val && c.val ≤ 0xDFFF

namespace StringLiteral

def renderUnit (c : CodePoint) : Text :=
  if c = '"' ∨ c = '\\' then ['\\', c]
  else if c.isSurrogate then '\\' :: 'u' :: Text.hexDigits 4 c.val
  else [c]

end StringLiteral

def Token.render (t : Token) : Text :=
  match t.kind with
  | .hexNumber => "0x" ++ t.text
  | .octalNumber => "0" ++ t.text
  | .binaryNumber => "0b" ++ t.text
  | .stringLiteral => '"' :: (t.text.flatMap StringLiteral.renderUnit ++ [('"' : CodePoint)])
  | _ => t.text

/-- Texts in a row with blanks between neighbours. -/
inductive Spaced : List Text → Text → Prop
  | nil : Spaced [] []
  | single (t) : Spaced [t] t
  | cons (t gap : Text) {texts joined} : gap ∈ runs CodePoint.isBlank → gap ≠ [] → texts ≠ [] →
      Spaced texts joined → Spaced (t :: texts) (t ++ (gap ++ joined))

/-- Tokens printed in a row, with blanks in between and perhaps around them. -/
def Printed (ts : List Token) (source : Text) : Prop :=
  ∃ before ∈ runs CodePoint.isBlank, ∃ after ∈ runs CodePoint.isBlank, ∃ joined,
    Spaced (ts.map Token.render) joined ∧ source = before ++ joined ++ after

/-- Some walk, however it ends, comes upon the token. -/
def Vocabulary.Emits (v : Vocabulary) (t : Token) : Prop :=
  ∃ source, t ∈ (v.walk source).tokens.map Prod.fst

namespace Text

theorem hexValue_hexDigits (width n : Nat) : hexValue (hexDigits width n) = n % 16 ^ width := by
  induction width generalizing n with
  | zero => simp [hexDigits, hexValue, Nat.mod_one]
  | succ width ih =>
    rw [hexDigits, hexValue_append, ih,
      CodePoint.hexValue_ofHexValue _ (Nat.mod_lt _ (by decide)), Nat.pow_succ,
      Nat.mul_comm (16 ^ width) 16, Nat.mod_mul]
    omega

theorem all_isHexDigit_hexDigits (width n : Nat) :
    (hexDigits width n).all CodePoint.isHexDigit = true := by
  induction width generalizing n with
  | zero => rfl
  | succ width ih =>
    have hlast := CodePoint.isHexDigit_ofHexValue (n % 16) (Nat.mod_lt n (by decide))
    simp only [hexDigits, List.all_append, ih, List.all_cons, hlast, List.all_nil, Bool.and_self]

/-- Only code points from U+0020 to U+007E. -/
def IsAsciiLine (t : Text) : Prop :=
  ∀ c ∈ t, c.between ' ' '~' = true

theorem isAsciiLine_append {t u : Text} : IsAsciiLine (t ++ u) ↔ IsAsciiLine t ∧ IsAsciiLine u :=
  List.forall_mem_append

theorem between_of_isHexDigit {c : CodePoint} (h : c.isHexDigit = true) :
    c.between ' ' '~' = true := by
  simp only [CodePoint.isHexDigit, CodePoint.isDigit, Bool.or_eq_true, CodePoint.between_iff] at h ⊢
  have hbounds : ' '.toNat = 32 ∧ '~'.toNat = 126 ∧ '0'.toNat = 48 ∧ 'A'.toNat = 65 ∧
      'F'.toNat = 70 ∧ '9'.toNat = 57 ∧ 'a'.toNat = 97 ∧ 'f'.toNat = 102 := by decide
  omega

theorem isAsciiLine_hexDigits (width n : Nat) : IsAsciiLine (hexDigits width n) := fun c hc =>
  between_of_isHexDigit (List.all_eq_true.mp (all_isHexDigit_hexDigits width n) c hc)

end Text

namespace StringLiteral

theorem spellsUnit_hexDigits (mark : CodePoint) (e : HexEscape) {c : CodePoint}
    (h : c.val < 16 ^ e.width) :
    SpellsUnit mark ('\\' :: e.letter :: Text.hexDigits e.width c.val) c := by
  have hvalue : Text.hexValue (Text.hexDigits e.width c.val) = c.val := by
    rw [Text.hexValue_hexDigits]
    exact Nat.mod_eq_of_lt h
  exact .number (Text.length_hexDigits e.width c.val)
    (Text.all_isHexDigit_hexDigits e.width c.val) hvalue

theorem spellsUnit_renderUnit (c : CodePoint) : SpellsUnit '"' (renderUnit c) c := by
  unfold renderUnit
  split_ifs with hkey hsurrogate
  · apply SpellsUnit.escape
    rcases hkey with rfl | rfl <;> decide
  · apply spellsUnit_hexDigits '"' .four
    simp only [CodePoint.isSurrogate, Bool.and_eq_true, decide_eq_true_eq] at hsurrogate
    simp only [HexEscape.width]
    omega
  · exact .plain (fun h => hkey (Or.inl h)) (fun h => hkey (Or.inr h))

theorem spells_render (value : Text) : Spells '"' (value.flatMap renderUnit) value :=
  spells_flatMap spellsUnit_renderUnit value

end StringLiteral

theorem Token.Spelled.render_eq {t : Token} {raw : Text} (h : t.Spelled raw)
    (hkind : t.kind ≠ .stringLiteral) : t.render = raw := by
  obtain ⟨kind, text⟩ := t
  cases kind with
  | stringLiteral => exact absurd rfl hkind
  | _ => exact Eq.symm h

section Surroundings

variable {O : Set Text} {input rest : Text} {l : Lexeme}

theorem prefix_of_not_blank {q raw : Text} (hq : ∀ c ∈ q, c.isBlank = false)
    (hrest : ∀ c ∈ rest.head?, c.isBlank = true) (h : q <+: raw ++ rest) : q <+: raw := by
  cases rest with
  | nil => simpa using h
  | cons c u =>
    refine prefix_of_not_mem (fun hc => ?_) h
    have hblank := hrest c rfl
    rw [hq c hc] at hblank
    cases hblank

theorem Reads.render (hO : [] ∉ O) (hops : ∀ op ∈ O, ∀ c ∈ op, c.isBlank = false)
    (h : Reads O input (.ok l)) (hrest : ∀ c ∈ rest.head?, c.isBlank = true) :
    Reads O (l.token.render ++ rest) (.ok ⟨l.token, l.token.render, rest⟩) := by
  by_cases hkind : l.token.kind = .stringLiteral
  · obtain ⟨⟨kind, value⟩, raw, after⟩ := l
    obtain rfl : kind = .stringLiteral := hkind
    have hmark : CodePoint.ofChar '"' ∈ StringLiteral.delimiters := by decide
    have hliteral := @Reads.literal O _ _ _ rest hmark (StringLiteral.spells_render value)
    simpa [Token.render] using hliteral
  · have hbegins : ∀ q : Text, (∀ c ∈ q, c.isBlank = false) → q <+: l.raw ++ rest →
        q <+: input := by
      intro q hq hqr
      rw [h.input_eq]
      exact (prefix_of_not_blank hq hrest hqr).trans (List.prefix_append l.raw l.rest)
    rw [h.spelled.render_eq hkind]
    exact h.change_rest hO (fun op hop => hbegins op (hops op hop))
      (fun q hq => hbegins q (not_blank_of_mem_words hq))

theorem scans_spaced (hO : [] ∉ O) (hops : ∀ op ∈ O, ∀ c ∈ op, c.isBlank = false)
    {ts : List Token} (hts : ∀ t ∈ ts, ∃ l input, Reads O input (.ok l) ∧ l.token = t)
    {before joined after : Text} (hbefore : before ∈ runs CodePoint.isBlank)
    (hafter : after ∈ runs CodePoint.isBlank) (hjoined : Spaced (ts.map Token.render) joined) :
    ∃ segments gap, Scans O (before ++ (joined ++ after)) segments gap .nothing ∧
      segments.map Segment.token = ts := by
  induction ts generalizing before joined with
  | nil =>
    cases hjoined
    exact ⟨[], _, .stop (append_mem_runs.mpr ⟨hbefore, hafter⟩), rfl⟩
  | cons t ts ih =>
    obtain ⟨l, input, hl, rfl⟩ := hts t List.mem_cons_self
    have hothers := fun t ht => hts t (List.mem_cons_of_mem _ ht)
    rw [List.map_cons] at hjoined
    generalize htexts : ts.map Token.render = texts at hjoined
    cases hjoined with
    | single =>
      obtain rfl := List.map_eq_nil_iff.mp htexts
      have hread := hl.render hO hops fun c hc => hafter c (List.mem_of_head? hc)
      refine ⟨[⟨before, l.token.render, l.token⟩], after, ?_, rfl⟩
      exact .token (s := ⟨before, l.token.render, l.token⟩) hbefore hread (.stop hafter)
    | @cons _ gap _ joined hgap hne _ hrest =>
      subst htexts
      obtain ⟨segments, last, hscans, hsegments⟩ := ih hothers hgap hrest
      have hhead : ∀ c ∈ (gap ++ (joined ++ after)).head?, c.isBlank = true := by
        rw [List.head?_append_of_ne_nil gap hne]
        exact fun c hc => hgap c (List.mem_of_head? hc)
      have hread := hl.render hO hops hhead
      refine ⟨⟨before, l.token.render, l.token⟩ :: segments, last, ?_, by simp [hsegments]⟩
      rw [List.append_assoc, List.append_assoc]
      exact .token (s := ⟨before, l.token.render, l.token⟩) hbefore hread hscans

end Surroundings

namespace Vocabulary

variable {v : Vocabulary}

theorem Filed.reads_of_emits (hv : v.Filed) {t : Token} (ht : v.Emits t) :
    ∃ l input, Reads v.operatorSet input (.ok l) ∧ l.token = t := by
  obtain ⟨source, hsource⟩ := ht
  obtain ⟨segments, gap, remnant, h⟩ := hv.exists_scans source
  rw [h.walk_eq hv] at hsource
  obtain ⟨s, hs, rfl⟩ := List.mem_map.mp (Segment.map_fst_marks 0 segments ▸ hsource)
  obtain ⟨-, rest, hread⟩ := h.of_mem hs
  exact ⟨_, _, hread, rfl⟩

theorem Filed.walk_of_printed (hv : v.Filed)
    (hops : ∀ op ∈ v.operators, ∀ c ∈ op, c.isBlank = false) {ts : List Token} {source : Text}
    (hts : ∀ t ∈ ts, v.Emits t) (hsource : Printed ts source) :
    (v.walk source).ending = .stop ∧ (v.walk source).tokens.map Prod.fst = ts := by
  obtain ⟨before, hbefore, after, hafter, joined, hjoined, rfl⟩ := hsource
  have hreads := fun t ht => hv.reads_of_emits (hts t ht)
  obtain ⟨segments, gap, h, hsegments⟩ :=
    scans_spaced hv.nil_not_mem hops hreads hbefore hafter hjoined
  rw [List.append_assoc, h.walk_eq hv]
  exact ⟨rfl, (Segment.map_fst_marks 0 segments).trans hsegments⟩

end Vocabulary

/-- Where no operator holds a blank, tokens of any walks are found again where they are printed, and
no other token is; in particular the tokens of one walk. -/
theorem walk_printed {v : Vocabulary} (hv : v.Reachable)
    (hops : ∀ op ∈ v.operators, ∀ c ∈ op, c.isBlank = false) :
    (∀ (ts : List Token) (source : Text), (∀ t ∈ ts, v.Emits t) → Printed ts source →
      (v.walk source).ending = .stop ∧ (v.walk source).tokens.map Prod.fst = ts) ∧
    ∀ source printed : Text, Printed ((v.walk source).tokens.map Prod.fst) printed →
      (v.walk printed).ending = .stop ∧
        (v.walk printed).tokens.map Prod.fst = (v.walk source).tokens.map Prod.fst := by
  constructor
  · exact fun ts source hts hsource => hv.filed.walk_of_printed hops hts hsource
  · exact fun source printed hprinted =>
      hv.filed.walk_of_printed hops (fun t ht => ⟨source, ht⟩) hprinted

/-- Tokens of two walks, the first of which fails after them, are printed with a tab in between. -/
theorem walk_printed_of_two_walks :
    let v := (Vocabulary.build [.text "<="]).vocabulary
    v.Reachable ∧ (∀ op ∈ v.operators, ∀ c ∈ op, c.isBlank = false) ∧
      (v.walk " <= 0x1F\t\"a\\\"\"").ending = .stop ∧
      (v.walk " <= 0x1F\t\"a\\\"\"").tokens.map Prod.fst =
        [⟨.operator, "<="⟩, ⟨.hexNumber, "1F"⟩, ⟨.stringLiteral, "a\""⟩] := by
  intro v
  have hv : v.Reachable := Vocabulary.reachable_build _
  have hops : ∀ op ∈ v.operators, ∀ c ∈ op, c.isBlank = false := by decide
  refine ⟨hv, hops, ?_⟩
  apply (walk_printed hv hops).1
  · have hfirst : ∀ t ∈ ([⟨.operator, "<="⟩, ⟨.hexNumber, "1F"⟩] : List Token),
        t ∈ (v.walk "<=0x1F?").tokens.map Prod.fst := by decide
    have hsecond : ⟨.stringLiteral, "a\""⟩ ∈ (v.walk "'a\"'").tokens.map Prod.fst := by decide
    simp only [List.forall_mem_cons]
    exact ⟨⟨_, hfirst _ (by simp)⟩, ⟨_, hfirst _ (by simp)⟩, ⟨_, hsecond⟩, by simp⟩
  · refine ⟨" ", by decide, "", by decide, "<= 0x1F\t\"a\\\"\"", ?_, rfl⟩
    have hlast : Spaced [("0x1F" : Text), ("\"a\\\"\"" : Text)] "0x1F\t\"a\\\"\"" :=
      .cons _ "\t" (by decide) (by decide) (by decide) (.single _)
    exact .cons _ " " (by decide) (by decide) (by decide) hlast

end ExprLexer
