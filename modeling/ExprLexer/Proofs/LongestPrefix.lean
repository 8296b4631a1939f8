import ExprLexer.Text
import Mathlib.Data.List.TakeWhile
import Mathlib.Data.Set.Basic

/-!
# Longest beginnings

A language is a set of texts. A scanner that takes as much as it can finds the longest beginning of
its input that lies in its language. There is at most one, and it survives a change of the input
that brings in no further beginning of the language.
-/

namespace ExprLexer

/-- `p` is the longest beginning of `t` that lies in the language `L`. -/
structure IsLongest (L : Set Text) (t p : Text) : Prop where
  begins : p <+: t
  mem : p ∈ L
  longest : ∀ q ∈ L, q <+: t → q.length ≤ p.length

namespace IsLongest

variable {L : Set Text} {t u p q : Text}

theorem unique (hp : IsLongest L t p) (hq : IsLongest L t q) : p = q := by
  have hlen := hp.longest q hq.mem hq.begins
  have hpq := List.prefix_of_prefix_length_le hq.begins hp.begins hlen
  exact (hpq.eq_of_length_le (hq.longest p hp.mem hp.begins)).symm

theorem transfer (h : IsLongest L t p) (hp : p <+: u) (hu : ∀ q ∈ L, q <+: u → q <+: t) :
    IsLongest L u p :=
  ⟨hp, h.mem, fun q hq hqu => h.longest q hq (hu q hq hqu)⟩

/-- Languages that agree on the beginnings of the input have the same longest one there. -/
theorem congr {L' : Set Text} (h : IsLongest L t p) (hL : ∀ q, q <+: t → (q ∈ L ↔ q ∈ L')) :
    IsLongest L' t p := by
  refine ⟨h.begins, (hL p h.begins).mp h.mem, ?_⟩
  intro q hq hqt
  exact h.longest q ((hL q hqt).mpr hq) hqt

end IsLongest

/-- The texts all of whose code points satisfy `f`. -/
def runs (f : CodePoint → Bool) : Set Text :=
  {t | ∀ c ∈ t, f c = true}

section Runs

variable {f : CodePoint → Bool} {c : CodePoint} {t u : Text}

instance : Decidable (t ∈ runs f) :=
  decidable_of_iff (∀ c ∈ t, f c = true) Iff.rfl

@[simp] theorem nil_mem_runs : [] ∈ runs f := by
  simp [runs]

@[simp] theorem cons_mem_runs : c :: t ∈ runs f ↔ f c = true ∧ t ∈ runs f := by
  simp [runs]

@[simp] theorem append_mem_runs : t ++ u ∈ runs f ↔ t ∈ runs f ∧ u ∈ runs f := by
  simp [runs, or_imp, forall_and]

theorem takeWhile_mem_runs (f : CodePoint → Bool) (t : Text) : t.takeWhile f ∈ runs f :=
  fun _ hc => List.mem_takeWhile_imp hc

theorem takeWhile_run (ht : t ∈ runs f) : (t ++ u).takeWhile f = t ++ u.takeWhile f :=
  List.takeWhile_append_of_pos ht

theorem dropWhile_run (ht : t ∈ runs f) : (t ++ u).dropWhile f = u.dropWhile f :=
  List.dropWhile_append_of_pos ht

/-- A run before a code point outside the class is all that is taken. -/
theorem takeWhile_run_cons (ht : t ∈ runs f) (hc : f c = false) :
    (t ++ c :: u).takeWhile f = t := by
  rw [takeWhile_run ht, List.takeWhile_cons_of_neg (by simp [hc]), List.append_nil]

theorem dropWhile_run_cons (ht : t ∈ runs f) (hc : f c = false) :
    (t ++ c :: u).dropWhile f = c :: u := by
  rw [dropWhile_run ht, List.dropWhile_cons_of_neg (by simp [hc])]

theorem length_le_takeWhile (ht : t ∈ runs f) (htu : t <+: u) :
    t.length ≤ (u.takeWhile f).length := by
  obtain ⟨v, rfl⟩ := htu
  simp [takeWhile_run ht]

theorem takeWhile_isLongest (f : CodePoint → Bool) (t : Text) :
    IsLongest (runs f) t (t.takeWhile f) :=
  ⟨List.takeWhile_prefix f, takeWhile_mem_runs f t, fun _ hq hqt => length_le_takeWhile hq hqt⟩

theorem takeWhile_of_isLongest (h : IsLongest (runs f) u t) : u.takeWhile f = t :=
  (takeWhile_isLongest f u).unique h

theorem dropWhile_of_isLongest (h : IsLongest (runs f) (t ++ u) t) :
    (t ++ u).dropWhile f = u := by
  have hsplit := List.takeWhile_append_dropWhile (p := f) (l := t ++ u)
  rw [takeWhile_of_isLongest h] at hsplit
  exact List.append_cancel_left hsplit

/-- Where a run stops before the end, the next code point is outside the class. -/
theorem of_dropWhile_eq_cons (h : t.dropWhile f = c :: u) : f c = false := by
  have hhead := List.head?_dropWhile_not f t
  simpa [h] using hhead

theorem runs_mono {g : CodePoint → Bool} (h : ∀ c, f c = true → g c = true) (ht : t ∈ runs f) :
    t ∈ runs g :=
  fun c hc => h c (ht c hc)

end Runs

/-- A beginning that holds nothing like `c` does not reach it. -/
theorem prefix_of_not_mem {c : CodePoint} {q t u : Text} (hc : c ∉ q) (h : q <+: t ++ c :: u) :
    q <+: t := by
  rcases List.prefix_or_prefix_of_prefix h (List.prefix_append t (c :: u)) with hq | hq
  · exact hq
  · obtain ⟨s, rfl⟩ := hq
    rw [List.prefix_append_right_inj] at h
    rcases List.prefix_cons_iff.mp h with rfl | ⟨s, rfl, -⟩
    · simp
    · simp at hc

end ExprLexer
