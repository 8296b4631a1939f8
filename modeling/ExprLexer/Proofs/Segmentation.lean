import ExprLexer.Proofs.Lookahead

/-!
# Segmentation

A walk cuts its source into blanks and lexemes. Read without positions, the cuts form a derivation
that follows the reference from token to token; every source has one, and the walk is read off it.
Nothing of the source is lost, and each lexeme alone determines its token.
-/

namespace ExprLexer

/-- A token of a walk, with its lexeme and the blanks before it. -/
structure Segment where
  gap : Text
  raw : Text
  token : Token

namespace Segment

def text (s : Segment) : Text :=
  s.gap ++ s.raw

/-- The tokens of segments in a row that begin at `start`, each with the position after it. -/
def marks : (start : Nat) → List Segment → List (Token × Nat)
  | _, [] => []
  | start, s :: rest =>
    (s.token, start + s.text.length) :: marks (start + s.text.length) rest

def consumed (segments : List Segment) : Text :=
  segments.flatMap text

@[simp] theorem consumed_nil : consumed [] = [] := rfl

@[simp] theorem consumed_cons (s : Segment) (segments : List Segment) :
    consumed (s :: segments) = s.gap ++ (s.raw ++ consumed segments) := by
  simp [consumed, text]

@[simp] theorem length_marks (start : Nat) (segments : List Segment) :
    (marks start segments).length = segments.length := by
  induction segments generalizing start with
  | nil => rfl
  | cons s segments ih => simp [marks, ih]

theorem map_fst_marks (start : Nat) (segments : List Segment) :
    (marks start segments).map Prod.fst = segments.map token := by
  induction segments generalizing start with
  | nil => rfl
  | cons s segments ih => simp [marks, ih]

theorem marks_lt {start : Nat} {segments : List Segment} (h : ∀ s ∈ segments, s.raw ≠ []) :
    (∀ m ∈ marks start segments, start < m.2) ∧
      ((marks start segments).map Prod.snd).Pairwise (· < ·) := by
  induction segments generalizing start with
  | nil => simp [marks]
  | cons s segments ih =>
    obtain ⟨hlt, hsorted⟩ := @ih (start + s.text.length) fun a ha => h a (by simp [ha])
    have hraw := List.length_pos_iff.mpr (h s (by simp))
    have hpos : start < start + s.text.length := by
      simp only [text, List.length_append]
      omega
    refine ⟨?_, ?_⟩
    · intro m hm
      rcases List.mem_cons.mp hm with rfl | hm
      · exact hpos
      · exact hpos.trans (hlt m hm)
    · simp only [marks, List.map_cons, List.pairwise_cons]
      refine ⟨?_, hsorted⟩
      intro q hq
      obtain ⟨m, hm, rfl⟩ := List.mem_map.mp hq
      exact hlt m hm

end Segment

inductive Remnant
  | nothing
  | fault (f : Fault) (rest : Text)

def Remnant.text : Remnant → Text
  | nothing => []
  | fault _ rest => rest

/-- The walk over an input when `O` are the operators, without positions: its segments, the blanks
after them, and what is left. -/
inductive Scans (O : Set Text) : Text → List Segment → Text → Remnant → Prop
  | stop {gap} : gap ∈ runs CodePoint.isBlank → Scans O gap [] gap .nothing
  | fault {gap rest f} : gap ∈ runs CodePoint.isBlank → Reads O rest (.error f) →
      Scans O (gap ++ rest) [] gap (.fault f rest)
  | token {s : Segment} {rest segments gap remnant} : s.gap ∈ runs CodePoint.isBlank →
      Reads O (s.raw ++ rest) (.ok ⟨s.token, s.raw, rest⟩) → Scans O rest segments gap remnant →
      Scans O (s.gap ++ (s.raw ++ rest)) (s :: segments) gap remnant

def Walk.ofSegments (start : Nat) (segments : List Segment) (gap : Text) (remnant : Remnant) :
    Walk :=
  let position := start + (Segment.consumed segments ++ gap).length
  { tokens := Segment.marks start segments
    ending :=
      match remnant with
      | .nothing => .stop
      | .fault f rest => .failure ⟨f, position, rest⟩
    lexer := ⟨position, remnant.text, false⟩ }

theorem Lexer.take_of_token {v : Vocabulary} {l next : Lexer} {t : Token}
    (h : l.pull v = (.token t, next)) (n : Nat) :
    l.take v (n + 1) =
      { next.take v n with tokens := (t, next.position) :: (next.take v n).tokens } := by
  simp only [take, h]

namespace Scans

variable {O : Set Text} {v : Vocabulary} {input gap : Text} {segments : List Segment}
  {remnant : Remnant}

theorem input_eq (h : Scans O input segments gap remnant) :
    input = Segment.consumed segments ++ gap ++ remnant.text := by
  induction h with
  | stop => simp [Remnant.text]
  | fault => simp [Remnant.text]
  | token _ _ _ ih => rw [ih]; simp

theorem of_mem (h : Scans O input segments gap remnant) {s : Segment} (hs : s ∈ segments) :
    s.gap ∈ runs CodePoint.isBlank ∧
      ∃ rest, Reads O (s.raw ++ rest) (.ok ⟨s.token, s.raw, rest⟩) := by
  induction h with
  | stop => cases hs
  | fault => cases hs
  | token hgap hread _ ih =>
    rcases List.mem_cons.mp hs with rfl | hs
    · exact ⟨hgap, _, hread⟩
    · exact ih hs

theorem gap_mem (h : Scans O input segments gap remnant) : gap ∈ runs CodePoint.isBlank := by
  induction h with
  | stop hgap => exact hgap
  | fault hgap => exact hgap
  | token _ _ _ ih => exact ih

theorem remnant_reads {f : Fault} {rest : Text} (h : Scans O input segments gap (.fault f rest)) :
    Reads O rest (.error f) := by
  generalize hremnant : Remnant.fault f rest = remnant at h
  induction h with
  | stop => cases hremnant
  | fault _ hread =>
    cases hremnant
    exact hread
  | token _ _ _ ih => exact ih hremnant

theorem length_le (hO : [] ∉ O) (h : Scans O input segments gap remnant) :
    segments.length ≤ input.length := by
  induction h with
  | stop => simp
  | fault => simp
  | token _ hread _ ih =>
    have hraw := List.length_pos_iff.mpr (hread.raw_ne_nil hO)
    simp only [List.length_cons, List.length_append]
    dsimp only at hraw
    omega

theorem take_eq (hv : v.Filed) (h : Scans v.operatorSet input segments gap remnant) (start n : Nat)
    (hn : segments.length < n) :
    (Lexer.mk start input true).take v n = Walk.ofSegments start segments gap remnant := by
  induction h generalizing start n with
  | @stop gap hgap =>
    obtain ⟨n, rfl⟩ := Nat.exists_eq_succ_of_ne_zero (Nat.ne_zero_of_lt hn)
    have hpull := Lexer.pull_skip (v := v) hgap [] start
    rw [List.append_nil, Lexer.pull_end] at hpull
    simp [Lexer.take, hpull, Walk.ofSegments, Segment.marks, Remnant.text]
  | @fault gap rest f hgap hread =>
    obtain ⟨n, rfl⟩ := Nat.exists_eq_succ_of_ne_zero (Nat.ne_zero_of_lt hn)
    simp [Lexer.take, Lexer.pull_skip hgap, hread.pull_failure hv, Walk.ofSegments, Segment.marks,
      Remnant.text]
  | @token s rest segments gap remnant hgap hread _ ih =>
    obtain ⟨n, rfl⟩ := Nat.exists_eq_succ_of_ne_zero (Nat.ne_zero_of_lt hn)
    have hnext := ih (start + s.gap.length + s.raw.length) n (by simpa using hn)
    simp only [Lexer.take, Lexer.pull_skip hgap, hread.pull_token hv, hnext]
    simp [Walk.ofSegments, Segment.marks, Segment.text, Nat.add_assoc]

theorem walk_eq (hv : v.Filed) (h : Scans v.operatorSet input segments gap remnant) :
    v.walk input = Walk.ofSegments 0 segments gap remnant := by
  apply h.take_eq hv
  exact Nat.lt_succ_of_le (h.length_le hv.nil_not_mem)

end Scans

theorem Vocabulary.Filed.exists_scans {v : Vocabulary} (hv : v.Filed) (input : Text) :
    ∃ segments gap remnant, Scans v.operatorSet input segments gap remnant := by
  have hgap := takeWhile_mem_runs CodePoint.isBlank input
  have hsplit : input.takeWhile CodePoint.isBlank ++ input.dropWhile CodePoint.isBlank = input :=
    List.takeWhile_append_dropWhile
  cases hdrop : input.dropWhile CodePoint.isBlank with
  | nil =>
    rw [hdrop, List.append_nil] at hsplit
    exact ⟨[], input, .nothing, .stop (hsplit ▸ hgap)⟩
  | cons c t =>
    obtain ⟨r, hr⟩ := hv.exists_reads (of_dropWhile_eq_cons hdrop) t
    rw [← hdrop] at hr
    cases r with
    | error f =>
      have h := Scans.fault hgap hr
      rw [hsplit] at h
      exact ⟨_, _, _, h⟩
    | ok l =>
      have hraw := List.length_pos_iff.mpr (hr.raw_ne_nil hv.nil_not_mem)
      have hinput := hr.input_eq
      obtain ⟨segments, gap, remnant, h⟩ := hv.exists_scans l.rest
      rw [hinput] at hr hsplit
      have htoken := Scans.token (s := ⟨_, l.raw, l.token⟩) hgap hr h
      rw [hsplit] at htoken
      exact ⟨_, _, _, htoken⟩
termination_by input.length
decreasing_by
  rw [← hsplit, hinput]
  simp only [List.length_append]
  omega

/-- What a lexeme looks like when it stands for the token. -/
def Token.Spelled (t : Token) (raw : Text) : Prop :=
  match t.kind with
  | .hexNumber => raw = NumberForm.hex.mark ++ t.text
  | .octalNumber => raw = NumberForm.octal.mark ++ t.text
  | .binaryNumber => raw = NumberForm.binary.mark ++ t.text
  | .stringLiteral => ∃ mark ∈ StringLiteral.delimiters, ∃ units,
      StringLiteral.Spells mark units t.text ∧ raw = mark :: (units ++ [mark])
  | _ => raw = t.text

theorem Reads.spelled {O : Set Text} {input : Text} {l : Lexeme} (h : Reads O input (.ok l)) :
    l.token.Spelled l.raw := by
  cases h with
  | literal hmark hs => exact ⟨_, hmark, _, hs, rfl⟩
  | @number form => cases form <;> rfl
  | _ => rfl

theorem Reads.scans_raw {O : Set Text} {input : Text} {l : Lexeme} (hO : [] ∉ O)
    (h : Reads O input (.ok l)) :
    Scans O l.raw [⟨[], l.raw, l.token⟩] [] .nothing := by
  have hread := h.cut_rest hO List.nil_prefix
  simpa using Scans.token (s := ⟨[], l.raw, l.token⟩) nil_mem_runs hread (.stop nil_mem_runs)

/-- The segments of a source and what the walk makes of them. -/
structure Segmentation (v : Vocabulary) (source : Text) (segments : List Segment) (gap : Text) :
    Prop where
  tokens_eq : (v.walk source).tokens = Segment.marks 0 segments
  increasing : ((v.walk source).tokens.map Prod.snd).Pairwise (· < ·)
  gap_blank : ∀ s ∈ segments, ∀ c ∈ s.gap, c.isBlank = true
  raw_starts : ∀ s ∈ segments, ∃ c u, s.raw = c :: u ∧ c.isBlank = false
  spelled : ∀ s ∈ segments, s.token.Spelled s.raw
  /-- A lexeme alone is its token. -/
  tokens_raw : ∀ s ∈ segments, v.tokens s.raw = .ok [s.token]
  last_blank : ∀ c ∈ gap, c.isBlank = true
  source_eq : source = Segment.consumed segments ++ gap ++ (v.walk source).lexer.rest
  position_eq : (v.walk source).lexer.position = (Segment.consumed segments ++ gap).length
  /-- All of the source is consumed, or a failure shows what is left. -/
  ending : (v.walk source).ending = .stop ∧ (v.walk source).lexer.rest = [] ∧
      (v.walk source).lexer.position = source.length ∨
    ∃ fault c rest, (v.walk source).lexer.rest = c :: rest ∧ c.isBlank = false ∧
      (v.walk source).ending = .failure ⟨fault, (v.walk source).lexer.position, c :: rest⟩

theorem Scans.segmentation {v : Vocabulary} {source : Text} {segments : List Segment} {gap : Text}
    {remnant : Remnant} (hv : v.Filed) (h : Scans v.operatorSet source segments gap remnant) :
    Segmentation v source segments gap := by
  have hO := hv.nil_not_mem
  have hwalk := h.walk_eq hv
  have hraw : ∀ s ∈ segments, ∃ c u, s.raw = c :: u ∧ c.isBlank = false := by
    intro s hs
    obtain ⟨-, _, hread⟩ := h.of_mem hs
    exact hread.raw_head hO
  constructor
  case tokens_eq => rw [hwalk]; rfl
  case increasing =>
    rw [hwalk]
    refine (Segment.marks_lt fun s hs => ?_).2
    obtain ⟨c, u, hcu, -⟩ := hraw s hs
    simp [hcu]
  case gap_blank => exact fun s hs => (h.of_mem hs).1
  case raw_starts => exact hraw
  case spelled =>
    intro s hs
    obtain ⟨-, _, hread⟩ := h.of_mem hs
    exact hread.spelled
  case tokens_raw =>
    intro s hs
    obtain ⟨-, _, hread⟩ := h.of_mem hs
    rw [Vocabulary.tokens, (hread.scans_raw hO).walk_eq hv]
    rfl
  case last_blank => exact h.gap_mem
  case source_eq =>
    rw [hwalk]
    exact h.input_eq
  case position_eq =>
    rw [hwalk]
    exact Nat.zero_add _
  case ending =>
    rw [hwalk]
    cases remnant with
    | nothing =>
      refine Or.inl ⟨rfl, rfl, ?_⟩
      rw [h.input_eq]
      simp [Walk.ofSegments, Remnant.text]
    | fault f rest =>
      obtain ⟨c, t, rfl, hc⟩ := h.remnant_reads.input_head
      exact Or.inr ⟨f, c, t, rfl, hc, rfl⟩

/-- A walk loses nothing of its source and reaches the end or a failure. -/
theorem exists_segmentation {v : Vocabulary} (hv : v.Reachable) (source : Text) :
    ∃ segments gap, Segmentation v source segments gap := by
  obtain ⟨segments, gap, remnant, h⟩ := hv.filed.exists_scans source
  exact ⟨segments, gap, h.segmentation hv.filed⟩

/-- A walk that fails on its last code point still accounts for what stands before. -/
theorem exists_segmentation_of_failing :
    let v := (Vocabulary.build [.text "<="]).vocabulary
    v.Reachable ∧ ∃ segments gap, Segmentation v "x@1,<=  0x1F'\\t' ?" segments gap ∧
      segments.map Segment.token = [⟨.symbolWithArgs, "x@1,"⟩, ⟨.operator, "<="⟩,
        ⟨.hexNumber, "1F"⟩, ⟨.stringLiteral, "\t"⟩] := by
  intro v
  have hv : v.Reachable := Vocabulary.reachable_build _
  obtain ⟨segments, gap, h⟩ := exists_segmentation hv "x@1,<=  0x1F'\\t' ?"
  refine ⟨hv, segments, gap, h, ?_⟩
  rw [← Segment.map_fst_marks 0, ← h.tokens_eq]
  decide

end ExprLexer
