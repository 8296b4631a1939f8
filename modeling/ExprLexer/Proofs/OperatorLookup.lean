import ExprLexer.Proofs.VocabularyHistory

/-!
# Looking an operator up at a position

A lookup at a position finds the longest operator that begins there. A position may be counted from
the end, but the two bounds of a slice wrap around separately: a slice that would reach the end of
the source comes out too short. So only operators that stop before the end are found in this way,
and a position before the start finds nothing.
-/

namespace ExprLexer

/-- The outcome of a search at the start of `t`: the longest text of `L` there, or nothing where no
text of `L` begins `t`. -/
def LongestIn (L : Set Text) (t : Text) : Option Text → Prop
  | some p => IsLongest L t p
  | none => ∀ q ∈ L, ¬ q <+: t

theorem LongestIn.unique {L : Set Text} {t : Text} {p? q? : Option Text} (hp : LongestIn L t p?)
    (hq : LongestIn L t q?) : p? = q? := by
  cases p? with
  | none =>
    cases q? with
    | none => rfl
    | some q => exact absurd hq.begins (hp q hq.mem)
  | some p =>
    cases q? with
    | none => exact absurd hp.begins (hq p hp.mem)
    | some q => rw [IsLongest.unique hp hq]

namespace Text

variable {t p : Text}

theorem length_slice_le (t : Text) (lo hi : Int) :
    (t.slice lo hi).length ≤ bound t.length hi - bound t.length lo := by
  unfold slice
  exact List.length_take_le _ _

theorem slice_ofNat (t : Text) (start size : Nat) :
    t.slice start (start + size) = (t.drop start).take size := by
  have hhi : bound t.length (start + size) = min (start + size) t.length :=
    bound_ofNat t.length (start + size)
  simp only [slice, hhi, bound_ofNat]
  rcases Nat.le_total start t.length with h | h
  · rw [Nat.min_eq_left h, List.take_eq_take_iff, List.length_drop]
    omega
  · rw [Nat.min_eq_right h, List.drop_length, List.drop_eq_nil_of_le h]
    simp only [List.take_nil]

theorem slice_neg {back size : Nat} (hback : back ≤ t.length) (hsize : size < back) :
    t.slice (-back) (-back + size) = (t.drop (t.length - back)).take size := by
  have hlo : bound t.length (-back) = t.length - back := by
    unfold bound
    split <;> omega
  have hhi : bound t.length (-back + size) = t.length - back + size := by
    unfold bound
    split <;> omega
  simp only [slice, hlo, hhi, Nat.add_sub_cancel_left]

/-- Any other slice counted from the end is too short: either its start was moved up to the start of
the text, or its end wrapped around to the front. -/
theorem length_slice_neg_lt {back size : Nat} (hback : 0 < back) (hsize : 0 < size)
    (h : t.length < back ∨ back ≤ size) : (t.slice (-back) (-back + size)).length < size := by
  refine (length_slice_le t _ _).trans_lt ?_
  unfold bound
  split <;> split <;> omega

theorem slice_neg_eq_iff {back : Nat} (hback : 0 < back) (hp : p ≠ []) :
    t.slice (-back) (-back + p.length) = p ↔
      back ≤ t.length ∧ p.length < back ∧ p <+: t.drop (t.length - back) := by
  have hsize : 0 < p.length := List.length_pos_of_ne_nil hp
  by_cases hin : back ≤ t.length ∧ p.length < back
  · rw [slice_neg hin.1 hin.2, List.prefix_iff_eq_take, eq_comm]
    simp only [hin, true_and]
  · have hshort := length_slice_neg_lt (t := t) hback hsize (by omega)
    constructor
    · intro heq
      rw [heq] at hshort
      omega
    · intro h
      exact absurd ⟨h.1, h.2.1⟩ hin

end Text

namespace Vocabulary

def operatorsBelow (v : Vocabulary) (n : Int) : Set Text :=
  {op | op ∈ v.operators ∧ op.length < n}

/-- What lookups in a vocabulary find, at each position in each source. -/
structure FindsLongest (v : Vocabulary) : Prop where
  answers : ∀ source position,
    v.reply (.matchAt source position) = .operator (v.matchAt source position) ∧
      v.after (.matchAt source position) = v
  from_start : ∀ source position, 0 ≤ position → ∀ op?,
    v.matchAt source position = op? ↔ LongestIn v.operatorSet (source.drop position.toNat) op?
  past_end : ∀ (source : Text) (position : Int), source.length ≤ position →
    v.matchAt source position = none
  before_start : ∀ (source : Text) (position : Int), source.length + position < 0 →
    v.matchAt source position = none
  from_end : ∀ (source : Text) (position : Int), position < 0 → 0 ≤ source.length + position →
    ∀ op?, v.matchAt source position = op? ↔
      LongestIn (v.operatorsBelow (-position)) (source.drop (source.length + position).toNat) op?
  /-- A position counted from the end never finds an operator that reaches the end. -/
  stops_before_end : ∀ (source : Text) (position : Int), position < 0 →
    ∀ op, v.matchAt source position = some op → op ∈ v.operatorSet ∧
      ∃ before rest, source = before ++ op ++ rest ∧
        before.length = source.length + position ∧ rest ≠ []

section Lookup

variable {v : Vocabulary} {candidate : Nat → Text} {source : Text}

theorem Filed.longestIn_find? (h : v.Filed) {L : Set Text} {t : Text}
    (hL : L ⊆ v.operatorSet)
    (hcand : ∀ op ∈ v.operatorSet, candidate op.length = op ↔ op ∈ L ∧ op <+: t) :
    LongestIn L t (v.find? candidate) := by
  cases hfound : v.find? candidate with
  | none =>
    intro op hop hbegins
    exact h.find?_eq_none.mp hfound op (hL hop) ((hcand op (hL hop)).mpr ⟨hop, hbegins⟩)
  | some op =>
    obtain ⟨hmem, heq, hmax⟩ := h.find?_eq_some hfound
    obtain ⟨hopL, hbegins⟩ := (hcand op hmem).mp heq
    refine ⟨hbegins, hopL, ?_⟩
    intro o ho hot
    exact hmax o (hL ho) ((hcand o (hL ho)).mpr ⟨ho, hot⟩)

theorem Filed.matchAt_from_start (h : v.Filed) (source : Text) (start : Nat) :
    LongestIn v.operatorSet (source.drop start) (v.matchAt source start) := by
  apply h.longestIn_find? Set.Subset.rfl
  intro op hop
  rw [Text.slice_ofNat, List.prefix_iff_eq_take, eq_comm]
  simp only [hop, true_and]

theorem Filed.matchAt_from_end (h : v.Filed) (source : Text) (back : Nat) (hpos : 0 < back)
    (hback : back ≤ source.length) :
    LongestIn (v.operatorsBelow back) (source.drop (source.length - back))
      (v.matchAt source (-back)) := by
  apply h.longestIn_find? fun op hop => hop.1
  intro op hop
  rw [Text.slice_neg_eq_iff hpos (h.ne_nil op hop)]
  have hbelow : op ∈ v.operatorsBelow back ↔ op.length < back :=
    ⟨fun h => Int.ofNat_lt.mp h.2, fun h => ⟨hop, Int.ofNat_lt.mpr h⟩⟩
  simp only [hback, true_and, hbelow]

theorem Filed.matchAt_before_start (h : v.Filed) {back : Nat} (hback : source.length < back) :
    v.matchAt source (-back) = none := by
  rw [matchAt, h.find?_eq_none]
  intro op hop heq
  have hin := (Text.slice_neg_eq_iff (by omega) (h.ne_nil op hop)).mp heq
  omega

theorem Filed.findsLongest (h : v.Filed) : v.FindsLongest where
  answers _ _ := ⟨rfl, rfl⟩
  from_start := by
    intro source position hpos op?
    obtain ⟨start, rfl⟩ := Int.eq_ofNat_of_zero_le hpos
    have hfound := h.matchAt_from_start source start
    exact ⟨fun heq => heq ▸ hfound, hfound.unique⟩
  past_end := by
    intro source position hend
    obtain ⟨start, rfl⟩ := Int.eq_ofNat_of_zero_le (Int.le_trans (by omega) hend)
    have hfound := h.matchAt_from_start source start
    have hrest : source.drop start = [] := List.drop_eq_nil_of_le (by omega)
    rw [hrest] at hfound
    -- an operator is not empty, so it does not begin the empty text
    refine hfound.unique ?_
    intro op hop hbegins
    exact h.ne_nil op hop (List.prefix_nil.mp hbegins)
  before_start := by
    intro source position hstart
    obtain ⟨back, rfl⟩ := Int.exists_eq_neg_ofNat (show position ≤ 0 by omega)
    exact h.matchAt_before_start (by omega)
  from_end := by
    intro source position hneg hstart op?
    obtain ⟨back, rfl⟩ := Int.exists_eq_neg_ofNat hneg.le
    have hfound := h.matchAt_from_end source back (by omega) (by omega)
    have hplace : (source.length + -(back : Int)).toNat = source.length - back := by omega
    rw [hplace, Int.neg_neg]
    exact ⟨fun heq => heq ▸ hfound, hfound.unique⟩
  stops_before_end := by
    intro source position hneg op hop
    obtain ⟨back, rfl⟩ := Int.exists_eq_neg_ofNat hneg.le
    rcases Nat.lt_or_ge source.length back with hback | hback
    · rw [h.matchAt_before_start hback] at hop
      cases hop
    · have hfound := h.matchAt_from_end source back (by omega) hback
      rw [hop] at hfound
      obtain ⟨rest, hrest⟩ := hfound.begins
      have hshort : (op.length : Int) < back := hfound.mem.2
      refine ⟨hfound.mem.1, source.take (source.length - back), rest, ?_, ?_, ?_⟩
      · rw [List.append_assoc, hrest, List.take_append_drop]
      · rw [List.length_take]
        omega
      · rintro rfl
        have hlen := congrArg List.length hrest
        simp only [List.append_nil, List.length_drop] at hlen
        omega

end Lookup

/-- A lookup at a position is the longest-beginning rule there, whatever was registered before and
whatever the position. Counted from the end, an operator has to stop before the end. -/
theorem matchAt_findsLongest (ds : List Datum) (actions : List Action) :
    ((build ds).vocabulary.afterAll actions).FindsLongest :=
  ((reachable_build ds).afterAll actions).filed.findsLongest

/-- One and the same place, counted from the start and from the end. -/
example :
    let v := (build [.text "<", .text "<="]).vocabulary
    let source : Text := "a<="
    v.matchAt source 1 = some ("<=" : Text) ∧ v.matchAt source (-2) = some ("<" : Text) := by
  decide

end Vocabulary

end ExprLexer
