import ExprLexer.Proofs.Segmentation

/-!
# Cutting a walk at a token boundary

A walk may be cut after any of its tokens. What comes before the cut is a source of its own that
gives the tokens before it and stops, for no token needs the text behind its end. What comes after
the cut is a source of its own that gives the others, moved to the front.
-/

namespace ExprLexer

/-- The position after the first `k` tokens of a walk. -/
def Walk.boundary (w : Walk) (k : Nat) : Nat :=
  ((w.tokens.take k).map Prod.snd).getLastD 0

def Ending.shift (n : Nat) : Ending → Ending
  | .failure f => .failure { f with position := n + f.position }
  | ending => ending

def Walk.shift (n : Nat) (w : Walk) : Walk where
  tokens := w.tokens.map fun (t, position) => (t, n + position)
  ending := w.ending.shift n
  lexer := { w.lexer with position := n + w.lexer.position }

namespace Segment

theorem marks_append (start : Nat) (first second : List Segment) :
    marks start (first ++ second) =
      marks start first ++ marks (start + (consumed first).length) second := by
  induction first generalizing start with
  | nil => rfl
  | cons s first ih => simp [marks, ih, text, Nat.add_assoc]

theorem marks_shift (n start : Nat) (segments : List Segment) :
    marks (n + start) segments =
      (marks start segments).map fun (t, position) => (t, n + position) := by
  induction segments generalizing start with
  | nil => rfl
  | cons s segments ih => simp [marks, ← ih, Nat.add_assoc]

theorem getLastD_marks (start : Nat) (segments : List Segment) :
    ((marks start segments).map Prod.snd).getLastD start = start + (consumed segments).length := by
  induction segments generalizing start with
  | nil => rfl
  | cons s segments ih =>
    rw [marks, List.map_cons, List.getLastD_cons, ih]
    simp [text, Nat.add_assoc]

theorem consumed_append (first second : List Segment) :
    consumed (first ++ second) = consumed first ++ consumed second :=
  List.flatMap_append

end Segment

theorem Walk.shift_ofSegments (n start : Nat) (segments : List Segment) (gap : Text)
    (remnant : Remnant) : (Walk.ofSegments start segments gap remnant).shift n =
      Walk.ofSegments (n + start) segments gap remnant := by
  cases remnant <;>
    simp [Walk.ofSegments, Walk.shift, Ending.shift, Segment.marks_shift, Nat.add_assoc]

section Cut

variable (first second : List Segment) (gap : Text) (remnant : Remnant)

theorem Walk.take_ofSegments :
    (Walk.ofSegments 0 (first ++ second) gap remnant).tokens.take first.length =
      Segment.marks 0 first := by
  simp [Walk.ofSegments, Segment.marks_append]

theorem Walk.drop_ofSegments :
    (Walk.ofSegments 0 (first ++ second) gap remnant).tokens.drop first.length =
      Segment.marks (Segment.consumed first).length second := by
  simp [Walk.ofSegments, Segment.marks_append]

theorem Walk.boundary_ofSegments :
    (Walk.ofSegments 0 (first ++ second) gap remnant).boundary first.length =
      (Segment.consumed first).length := by
  rw [Walk.boundary, Walk.take_ofSegments, Segment.getLastD_marks, Nat.zero_add]

theorem Walk.boundary_length_ofSegments :
    let w := Walk.ofSegments 0 first gap remnant
    w.boundary w.tokens.length = (Segment.consumed first).length := by
  have hlen : (Walk.ofSegments 0 first gap remnant).tokens.length = first.length :=
    Segment.length_marks 0 first
  have hboundary := Walk.boundary_ofSegments first [] gap remnant
  rw [List.append_nil] at hboundary
  dsimp only
  rw [hlen, hboundary]

end Cut

namespace Scans

variable {O : Set Text} {input gap : Text} {first second : List Segment} {remnant : Remnant}

/-- The segments after a cut are those of what the segments before it leave. -/
theorem after_cut (h : Scans O input (first ++ second) gap remnant) :
    ∃ rest, input = Segment.consumed first ++ rest ∧ Scans O rest second gap remnant := by
  induction first generalizing input with
  | nil => exact ⟨input, rfl, h⟩
  | cons s first ih =>
    cases h with
    | token _ _ hrest =>
      obtain ⟨rest, rfl, hsecond⟩ := ih hrest
      exact ⟨rest, by simp, hsecond⟩

theorem before_cut (hO : [] ∉ O) (h : Scans O input (first ++ second) gap remnant) :
    Scans O (Segment.consumed first) first [] .nothing := by
  induction first generalizing input with
  | nil => exact .stop nil_mem_runs
  | cons s first ih =>
    cases h with
    | token hgap hread hrest =>
      obtain ⟨rest, rfl, -⟩ := after_cut hrest
      have hread' := hread.cut_rest hO (List.prefix_append (Segment.consumed first) rest)
      rw [Segment.consumed_cons]
      exact .token hgap hread' (ih hrest)

end Scans

theorem Vocabulary.Filed.exists_scans_cut {v : Vocabulary} (hv : v.Filed) {source : Text} {k : Nat}
    (hk : k ≤ (v.walk source).tokens.length) :
    ∃ first second gap remnant, first.length = k ∧
      Scans v.operatorSet source (first ++ second) gap remnant := by
  obtain ⟨segments, gap, remnant, h⟩ := hv.exists_scans source
  have hlen : (segments.take k).length = k := by
    rw [h.walk_eq hv] at hk
    simpa [Walk.ofSegments] using hk
  rw [← List.take_append_drop k segments] at h
  exact ⟨_, _, gap, remnant, hlen, h⟩

/-- A walk can be cut after any number of its tokens: the source up to there gives these tokens and
stops, and the source from there on gives the others, with the positions that much smaller, and ends
in the same way. -/
theorem walk_cut {v : Vocabulary} (hv : v.Reachable) (source : Text) {k : Nat}
    (hk : k ≤ (v.walk source).tokens.length) :
    let w := v.walk source
    let p := w.boundary k
    v.walk (source.take p) = ⟨w.tokens.take k, .stop, ⟨p, [], false⟩⟩ ∧
      (v.walk (source.drop p)).shift p = { w with tokens := w.tokens.drop k } := by
  obtain ⟨segments, gap, remnant, h⟩ := hv.filed.exists_scans source
  have hwalk := h.walk_eq hv.filed
  have hlen : (segments.take k).length = k := by
    rw [hwalk] at hk
    simpa [Walk.ofSegments] using hk
  rw [← List.take_append_drop k segments] at h hwalk
  generalize segments.take k = first at h hwalk hlen
  generalize segments.drop k = second at h hwalk
  subst hlen
  obtain ⟨rest, hsource, hafter⟩ := h.after_cut
  have hbefore := h.before_cut hv.filed.nil_not_mem
  dsimp only
  rw [hwalk, Walk.boundary_ofSegments, Walk.take_ofSegments, Walk.drop_ofSegments]
  constructor
  · rw [hsource, List.take_left, hbefore.walk_eq hv.filed]
    simp [Walk.ofSegments, Remnant.text]
  · rw [hsource, List.drop_left, hafter.walk_eq hv.filed, Walk.shift_ofSegments]
    simp [Walk.ofSegments, Segment.consumed_append]

/-- The cut after the octal digits leaves an operator with digits, a blank and a quote. -/
theorem walk_cut_before_operator :
    let v := (Vocabulary.build [.text "8.5 '"]).vocabulary
    2 ≤ (v.walk "x 078.5 'q").tokens.length ∧
      v.walk "x 07" = ⟨[(⟨.symbol, "x"⟩, 1), (⟨.octalNumber, "7"⟩, 4)], .stop, ⟨4, [], false⟩⟩ ∧
      (v.walk "8.5 'q").shift 4 =
        ⟨[(⟨.operator, "8.5 '"⟩, 9), (⟨.symbol, "q"⟩, 10)], .stop, ⟨10, [], false⟩⟩ := by
  intro v
  have hk : 2 ≤ (v.walk "x 078.5 'q").tokens.length := by decide
  have hp : (v.walk "x 078.5 'q").boundary 2 = 4 := by decide
  have hv : v.Reachable := Vocabulary.reachable_build _
  obtain ⟨hbefore, hafter⟩ := walk_cut hv "x 078.5 'q" hk
  rw [hp] at hbefore hafter
  exact ⟨hk, hbefore.trans (by decide), hafter.trans (by decide)⟩

end ExprLexer
