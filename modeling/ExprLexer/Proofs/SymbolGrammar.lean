import ExprLexer.Lexeme.Symbol
import ExprLexer.Proofs.LongestPrefix

/-!
# The grammar of symbols

Names and argument suffixes as languages, stated without a scanner. The scanners take the longest
beginning of their input that lies in the language.
-/

namespace ExprLexer.Symbol

/-- A letter, underscore or dollar, then any of these or digits; or nothing. -/
def names : Set Text :=
  {t | t = [] ∨ ∃ c u, t = c :: u ∧ c.isSymbolStart = true ∧ u ∈ runs CodePoint.isSymbolPart}

/-- `@`, digits, at most one comma, digits. -/
def suffixes : Set Text :=
  {t | ∃ first comma second : Text, first ∈ runs CodePoint.isDigit ∧
    (comma = [] ∨ comma = [(',' : CodePoint)]) ∧ second ∈ runs CodePoint.isDigit ∧
      t = ('@' : CodePoint) :: (first ++ comma ++ second)}

theorem name_isLongest (t : Text) : IsLongest names t (name t) := by
  cases t with
  | nil => exact ⟨List.nil_prefix, Or.inl rfl, fun q _ hq => hq.length_le⟩
  | cons c t =>
    rw [name]
    split_ifs with hc
    · refine ⟨?_, Or.inr ⟨c, _, rfl, hc, takeWhile_mem_runs _ t⟩, ?_⟩
      · exact List.cons_prefix_cons.mpr ⟨rfl, List.takeWhile_prefix _⟩
      · rintro q (rfl | ⟨d, u, rfl, -, hu⟩) hq
        · simp
        · exact Nat.succ_le_succ (length_le_takeWhile hu (List.cons_prefix_cons.mp hq).2)
    · refine ⟨List.nil_prefix, Or.inl rfl, ?_⟩
      rintro q (rfl | ⟨d, u, rfl, hd, -⟩) hq
      · simp
      · exact absurd ((List.cons_prefix_cons.mp hq).1 ▸ hd) hc

theorem comma_not_digit : CodePoint.isDigit ',' = false := by
  decide

/-- The counts of a suffix, `first` up to the first code point that is no digit. -/
theorem counts_append {first second rest : Text} (hfirst : first ∈ runs CodePoint.isDigit)
    (hsecond : second ∈ runs CodePoint.isDigit) :
    counts (first ++ (',' : CodePoint) :: (second ++ rest)) =
      first ++ (',' : CodePoint) :: (second ++ rest.takeWhile CodePoint.isDigit) := by
  simp [counts, takeWhile_run_cons hfirst comma_not_digit,
    dropWhile_run_cons hfirst comma_not_digit, takeWhile_run hsecond]

theorem counts_begins (t : Text) : counts t <+: t := by
  unfold counts
  split
  · simpa using List.takeWhile_prefix _
  · rename_i c u hdrop
    conv_rhs => rw [← List.takeWhile_append_dropWhile (p := CodePoint.isDigit) (l := t), hdrop]
    rw [List.prefix_append_right_inj]
    split_ifs
    · exact List.cons_prefix_cons.mpr ⟨rfl, List.takeWhile_prefix _⟩
    · exact List.nil_prefix

theorem suffix_mem {t : Text} (h : suffix t ≠ []) : suffix t ∈ suffixes := by
  cases t with
  | nil => exact absurd rfl h
  | cons c t =>
    simp only [suffix] at h ⊢
    split_ifs at h ⊢ with hc
    · subst hc
      unfold counts
      split
      · exact ⟨_, [], [], takeWhile_mem_runs _ t, Or.inl rfl, by simp, by simp⟩
      · rename_i d u _
        split_ifs with hd
        · subst hd
          exact ⟨_, [','], _, takeWhile_mem_runs _ t, Or.inr rfl, takeWhile_mem_runs _ u, by simp⟩
        · exact ⟨_, [], [], takeWhile_mem_runs _ t, Or.inl rfl, by simp, by simp⟩
    · exact absurd rfl h

theorem length_le_suffix {t q : Text} (hq : q ∈ suffixes) (hqt : q <+: t) :
    q.length ≤ (suffix t).length := by
  obtain ⟨first, comma, second, hfirst, hcomma, hsecond, rfl⟩ := hq
  obtain ⟨rest, rfl⟩ := hqt
  simp only [List.cons_append, suffix, if_pos, List.length_cons, Nat.succ_le_succ_iff]
  rcases hcomma with rfl | rfl
  · -- without a comma the two runs of digits are one
    have hrun : first ++ second ∈ runs CodePoint.isDigit := append_mem_runs.mpr ⟨hfirst, hsecond⟩
    have hlen := length_le_takeWhile hrun (List.prefix_append _ rest)
    simp only [counts, List.append_nil, List.length_append] at hlen ⊢
    omega
  · simp only [List.append_assoc, List.cons_append, List.nil_append, counts_append hfirst hsecond]
    simp

theorem suffix_isLongest {t : Text} (h : suffix t ≠ []) : IsLongest suffixes t (suffix t) := by
  refine ⟨?_, suffix_mem h, fun q hq hqt => length_le_suffix hq hqt⟩
  cases t with
  | nil => exact List.nil_prefix
  | cons c t =>
    rw [suffix]
    split_ifs
    · exact List.cons_prefix_cons.mpr ⟨rfl, counts_begins t⟩
    · exact List.nil_prefix

theorem ne_nil_of_mem_suffixes {s : Text} (hs : s ∈ suffixes) : s ≠ [] := by
  obtain ⟨_, _, _, _, _, _, rfl⟩ := hs
  simp

theorem suffix_eq_nil {t : Text} : suffix t = [] ↔ ∀ s ∈ suffixes, ¬ s <+: t := by
  constructor
  · intro h s hs hst
    have hlen := length_le_suffix hs hst
    rw [h, List.length_nil, Nat.le_zero, List.length_eq_zero_iff] at hlen
    exact ne_nil_of_mem_suffixes hs hlen
  · intro h
    by_contra hne
    exact h _ (suffix_mem hne) (suffix_isLongest hne).begins

theorem suffix_of_isLongest {t s : Text} (h : IsLongest suffixes t s) : suffix t = s := by
  have hne : suffix t ≠ [] := fun hnil => suffix_eq_nil.mp hnil s h.mem h.begins
  exact (suffix_isLongest hne).unique h

end ExprLexer.Symbol
