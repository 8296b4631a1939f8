import ExprLexer.Vocabulary
import ExprLexer.Proofs.LongestPrefix
import Mathlib.Data.Finset.Basic
import Mathlib.Data.Finset.Insert

/-!
# The operator table

A vocabulary keeps its operators as registered and in buckets by length, and the lengths in a list
of their own. Every registration keeps the three in step, so a lookup along the list of lengths
finds the longest operator at the start of an input, and a vocabulary can be used as the plain set
of its operators.
-/

namespace ExprLexer.Vocabulary

/-- What registrations, refused or not, and first uses make of the empty vocabulary. -/
inductive Reachable : Vocabulary → Prop
  | empty : Reachable empty
  | register {v} (d : Datum) : Reachable v → Reachable (v.register d).vocabulary
  | freeze {v} : Reachable v → Reachable v.freeze.1

theorem Reachable.registerAll {v : Vocabulary} (h : v.Reachable) (ds : List Datum) :
    (v.registerAll ds).vocabulary.Reachable := by
  induction ds generalizing v with
  | nil => exact h
  | cons d ds ih =>
    simp only [Vocabulary.registerAll]
    split
    · exact h.register d
    · exact ih (h.register d)

theorem reachable_build (ds : List Datum) : (build ds).vocabulary.Reachable :=
  Reachable.empty.registerAll ds

/-- A registration changes nothing, or it adds one operator that is new to an open vocabulary. -/
theorem register_cases (v : Vocabulary) (d : Datum) :
    (v.register d).vocabulary = v ∨
      ∃ op, d = .text op ∧ op ≠ [] ∧ op ∉ v.operators ∧ v.frozen = false ∧
        (v.register d).vocabulary = v.insert op := by
  unfold register
  split
  · rename_i c t
    split_ifs with hmem hfrozen
    · exact Or.inl rfl
    · exact Or.inl rfl
    · exact Or.inr ⟨c :: t, rfl, by simp, hmem, by simpa using hfrozen, rfl⟩
  · exact Or.inl rfl

section Sorting

variable {n : Nat} {l : List Nat}

theorem place_perm (n : Nat) (l : List Nat) : (place n l).Perm (n :: l) := by
  fun_induction place n l with
  | case1 | case2 => exact .refl _
  | case3 m rest _ ih => exact (ih.cons m).trans (List.Perm.swap n m rest)

theorem descending_perm (l : List Nat) : (descending l).Perm l := by
  induction l with
  | nil => exact .refl _
  | cons n rest ih => exact (place_perm n _).trans (ih.cons n)

theorem place_decreasing (h : l.Pairwise fun m n => n < m) (hn : n ∉ l) :
    (place n l).Pairwise fun m n => n < m := by
  fun_induction place n l with
  | case1 => exact List.pairwise_singleton _ _
  | case2 m rest hlt =>
    refine List.pairwise_cons.mpr ⟨?_, h⟩
    rw [List.forall_mem_cons]
    exact ⟨hlt, fun k hk => ((List.pairwise_cons.mp h).1 k hk).trans hlt⟩
  | case3 m rest hle ih =>
    rw [List.mem_cons, not_or] at hn
    refine List.pairwise_cons.mpr ⟨?_, ih h.of_cons hn.2⟩
    intro k hk
    rcases List.mem_cons.mp ((place_perm n rest).mem_iff.mp hk) with rfl | hk
    · omega
    · exact (List.pairwise_cons.mp h).1 k hk

theorem descending_decreasing (h : l.Nodup) : (descending l).Pairwise fun m n => n < m := by
  induction l with
  | nil => exact List.Pairwise.nil
  | cons n rest ih =>
    obtain ⟨hn, hrest⟩ := List.nodup_cons.mp h
    exact place_decreasing (ih hrest) fun hmem => hn ((descending_perm rest).mem_iff.mp hmem)

end Sorting

section File

variable {op o : Text} {buckets : List (Nat × List Text)}

theorem exists_mem_file :
    (∃ b ∈ file op buckets, o ∈ b.2) ↔ o = op ∨ ∃ b ∈ buckets, o ∈ b.2 := by
  fun_induction file op buckets <;> simp_all [or_assoc, or_left_comm]

/-- A bucket after filing is a new one, one that took the operator in, or an old one. -/
theorem mem_file {b : Nat × List Text} (h : b ∈ file op buckets) :
    b = (op.length, [op]) ∨
      (∃ ops, (op.length, ops) ∈ buckets ∧ b = (op.length, op :: ops)) ∨ b ∈ buckets := by
  fun_induction file op buckets with
  | case1 => exact Or.inl (List.mem_singleton.mp h)
  | case2 ops rest =>
    rcases List.mem_cons.mp h with rfl | h
    · exact Or.inr (Or.inl ⟨ops, by simp, rfl⟩)
    · exact Or.inr (Or.inr (List.mem_cons_of_mem _ h))
  | case3 size ops rest _ ih =>
    rcases List.mem_cons.mp h with rfl | h
    · exact Or.inr (Or.inr (by simp))
    · rcases ih h with hb | ⟨ops', hops', hb⟩ | hb
      · exact Or.inl hb
      · exact Or.inr (Or.inl ⟨ops', List.mem_cons_of_mem _ hops', hb⟩)
      · exact Or.inr (Or.inr (List.mem_cons_of_mem _ hb))

theorem length_eq_of_mem_file (h : ∀ b ∈ buckets, ∀ o ∈ b.2, o.length = b.1) :
    ∀ b ∈ file op buckets, ∀ o ∈ b.2, o.length = b.1 := by
  intro b hb o ho
  rcases mem_file hb with rfl | ⟨ops, hops, rfl⟩ | hb
  · rw [List.mem_singleton.mp ho]
  · rcases List.mem_cons.mp ho with rfl | ho
    · rfl
    · exact h _ hops o ho
  · exact h b hb o ho

theorem ne_nil_of_mem_file (h : ∀ b ∈ buckets, b.2 ≠ []) : ∀ b ∈ file op buckets, b.2 ≠ [] := by
  intro b hb
  rcases mem_file hb with rfl | ⟨ops, _, rfl⟩ | hb
  · simp
  · simp
  · exact h b hb

theorem sizes_file_of_mem (h : op.length ∈ sizes buckets) :
    sizes (file op buckets) = sizes buckets := by
  unfold sizes at *
  fun_induction file op buckets with
  | case1 => cases h
  | case2 => rfl
  | case3 size ops rest hne ih =>
    rw [List.map_cons, List.mem_cons] at h
    rw [List.map_cons, List.map_cons, ih (h.resolve_left (Ne.symm hne))]

theorem sizes_file_of_not_mem (h : op.length ∉ sizes buckets) :
    sizes (file op buckets) = sizes buckets ++ [op.length] := by
  unfold sizes at *
  fun_induction file op buckets with
  | case1 => rfl
  | case2 => exact absurd (by simp) h
  | case3 size ops rest hne ih =>
    rw [List.map_cons, List.mem_cons, not_or] at h
    rw [List.map_cons, List.map_cons, ih h.2, List.cons_append]

end File

/-- The operators as registered, the buckets and the list of lengths agree. -/
structure Filed (v : Vocabulary) : Prop where
  ne_nil : ∀ op ∈ v.operators, op ≠ []
  occupied : ∀ b ∈ v.buckets, b.2 ≠ []
  length_eq : ∀ b ∈ v.buckets, ∀ op ∈ b.2, op.length = b.1
  mem_iff : ∀ op, op ∈ v.operators ↔ ∃ b ∈ v.buckets, op ∈ b.2
  lengths_perm : v.lengths.Perm (sizes v.buckets)
  decreasing : v.lengths.Pairwise fun m n => n < m

section Filed

variable {v : Vocabulary} {op : Text}

theorem Filed.sizes_nodup (h : v.Filed) : (sizes v.buckets).Nodup :=
  h.lengths_perm.nodup_iff.mp (h.decreasing.imp fun hlt => Nat.ne_of_gt hlt)

theorem lengths_insert_of_mem (h : op.length ∈ sizes v.buckets) :
    (v.insert op).lengths = v.lengths :=
  if_pos h

theorem lengths_insert_of_not_mem (h : op.length ∉ sizes v.buckets) :
    (v.insert op).lengths = descending (sizes v.buckets ++ [op.length]) := by
  rw [← sizes_file_of_not_mem h]
  exact if_neg h

/-- Whether or not the list is sorted anew, it has the lengths of the buckets. -/
theorem Filed.lengths_insert_perm (h : v.Filed) (op : Text) :
    (v.insert op).lengths.Perm (sizes (v.insert op).buckets) := by
  by_cases hold : op.length ∈ sizes v.buckets
  · rw [lengths_insert_of_mem hold, Vocabulary.insert, sizes_file_of_mem hold]
    exact h.lengths_perm
  · rw [lengths_insert_of_not_mem hold, Vocabulary.insert, sizes_file_of_not_mem hold]
    exact descending_perm _

theorem Filed.lengths_insert_decreasing (h : v.Filed) (op : Text) :
    (v.insert op).lengths.Pairwise fun m n => n < m := by
  by_cases hold : op.length ∈ sizes v.buckets
  · rw [lengths_insert_of_mem hold]
    exact h.decreasing
  · rw [lengths_insert_of_not_mem hold, ← List.concat_eq_append]
    exact descending_decreasing (h.sizes_nodup.concat hold)

theorem Filed.insert (h : v.Filed) (hop : op ≠ []) : (v.insert op).Filed where
  ne_nil := by
    intro o ho
    rcases List.mem_append.mp ho with ho | ho
    · exact h.ne_nil o ho
    · exact List.mem_singleton.mp ho ▸ hop
  occupied := ne_nil_of_mem_file h.occupied
  length_eq := length_eq_of_mem_file h.length_eq
  mem_iff := by
    intro o
    simp only [Vocabulary.insert, exists_mem_file, List.mem_append, List.mem_singleton, h.mem_iff]
    exact or_comm
  lengths_perm := h.lengths_insert_perm op
  decreasing := h.lengths_insert_decreasing op

theorem Reachable.filed (h : v.Reachable) : v.Filed := by
  induction h with
  | empty => constructor <;> simp [Vocabulary.empty, sizes]
  | @register v d _ ih =>
    rcases register_cases v d with hv | ⟨op, _, hop, _, _, hv⟩ <;> rw [hv]
    · exact ih
    · exact ih.insert hop
  | @freeze v _ ih =>
    unfold Vocabulary.freeze
    split
    · exact ih
    · exact ⟨ih.ne_nil, ih.occupied, ih.length_eq, ih.mem_iff, ih.lengths_perm, ih.decreasing⟩

theorem Filed.bucket_unique (h : v.Filed) {b b' : Nat × List Text} (hb : b ∈ v.buckets)
    (hb' : b' ∈ v.buckets) (hlen : b.1 = b'.1) : b = b' :=
  List.inj_on_of_nodup_map h.sizes_nodup hb hb' hlen

theorem Filed.bucket_eq (h : v.Filed) {b : Nat × List Text} (hb : b ∈ v.buckets) :
    v.bucket b.1 = b.2 := by
  unfold bucket
  cases hlookup : v.buckets.lookup b.1 with
  | none =>
    have hmiss := List.lookup_eq_none_iff.mp hlookup b hb
    simp at hmiss
  | some ops =>
    obtain ⟨before, after, hbuckets, -⟩ := List.lookup_eq_some_iff.mp hlookup
    have hops : (b.1, ops) ∈ v.buckets := by simp [hbuckets]
    rw [← h.bucket_unique hops hb rfl, Option.getD_some]

theorem Filed.mem_lengths (h : v.Filed) {n : Nat} :
    n ∈ v.lengths ↔ ∃ op ∈ v.operators, op.length = n := by
  rw [h.lengths_perm.mem_iff, sizes, List.mem_map]
  constructor
  · rintro ⟨b, hb, rfl⟩
    obtain ⟨op, hop⟩ := List.exists_mem_of_ne_nil _ (h.occupied b hb)
    exact ⟨op, (h.mem_iff op).mpr ⟨b, hb, hop⟩, h.length_eq b hb op hop⟩
  · rintro ⟨op, hop, rfl⟩
    obtain ⟨b, hb, hopb⟩ := (h.mem_iff op).mp hop
    exact ⟨b, hb, (h.length_eq b hb op hopb).symm⟩

/-- Under a listed length a lookup reaches all operators of that length, and no others. -/
theorem Filed.mem_bucket_iff (h : v.Filed) {n : Nat} (hn : n ∈ v.lengths) :
    op ∈ v.bucket n ↔ op ∈ v.operators ∧ op.length = n := by
  obtain ⟨b, hb, rfl⟩ := List.mem_map.mp (h.lengths_perm.mem_iff.mp hn)
  rw [h.bucket_eq hb]
  constructor
  · exact fun hop => ⟨(h.mem_iff op).mpr ⟨b, hb, hop⟩, h.length_eq b hb op hop⟩
  · rintro ⟨hop, hlen⟩
    obtain ⟨b', hb', hop'⟩ := (h.mem_iff op).mp hop
    rwa [← h.bucket_unique hb' hb ((h.length_eq b' hb' op hop').symm.trans hlen)]

end Filed

section Lookup

variable {v : Vocabulary} {candidate : Nat → Text}

/-- A lookup finds the longest operator that equals the candidate of its length. -/
theorem Filed.find?_eq_some (h : v.Filed) {op : Text} (hop : v.find? candidate = some op) :
    op ∈ v.operators ∧ candidate op.length = op ∧
      ∀ o ∈ v.operators, candidate o.length = o → o.length ≤ op.length := by
  obtain ⟨before, size, after, hlengths, hhit, hmiss⟩ := List.findSome?_eq_some_iff.mp hop
  simp only [Option.ite_none_right_eq_some, Option.some.injEq] at hhit
  obtain ⟨⟨hlen, hmem⟩, rfl⟩ := hhit
  have hsize : size ∈ v.lengths := by simp [hlengths]
  refine ⟨((h.mem_bucket_iff hsize).mp hmem).1, by rw [hlen], ?_⟩
  intro o ho hcand
  have hlisted : o.length ∈ v.lengths := h.mem_lengths.mpr ⟨o, ho, rfl⟩
  have hbucket : o ∈ v.bucket o.length := (h.mem_bucket_iff hlisted).mpr ⟨ho, rfl⟩
  have hsorted := h.decreasing
  rw [hlengths] at hlisted hsorted
  rcases List.mem_append.mp hlisted with hbefore | hrest
  · -- a length that was passed over has no hit
    have hnone := hmiss o.length hbefore
    simp [hcand, hbucket] at hnone
  · rcases List.mem_cons.mp hrest with heq | hafter
    · omega
    · have hlt := (List.pairwise_cons.mp (List.pairwise_append.mp hsorted).2.1).1 _ hafter
      omega

theorem Filed.find?_eq_none (h : v.Filed) :
    v.find? candidate = none ↔ ∀ op ∈ v.operators, candidate op.length ≠ op := by
  simp only [find?, List.findSome?_eq_none_iff]
  constructor
  · intro hnone op hop hcand
    have hlisted : op.length ∈ v.lengths := h.mem_lengths.mpr ⟨op, hop, rfl⟩
    have hmiss := hnone op.length hlisted
    simp [hcand, (h.mem_bucket_iff hlisted).mpr ⟨hop, rfl⟩] at hmiss
  · intro hno size hsize
    simp only [ite_eq_right_iff, reduceCtorEq, imp_false, not_and]
    intro hlen hmem
    exact hno _ ((h.mem_bucket_iff hsize).mp hmem).1 (by rw [hlen])

end Lookup

/-- The operators as a plain set. -/
def operatorSet (v : Vocabulary) : Set Text :=
  {op | op ∈ v.operators}

theorem Filed.nil_not_mem {v : Vocabulary} (h : v.Filed) : [] ∉ v.operatorSet :=
  fun hnil => h.ne_nil [] hnil rfl

/-- The table is the longest-beginning rule of the set. -/
theorem Filed.longest?_eq_some {v : Vocabulary} (h : v.Filed) {input op : Text}
    (hop : v.longest? input = some op) : IsLongest v.operatorSet input op := by
  obtain ⟨hmem, hcand, hmax⟩ := h.find?_eq_some hop
  exact ⟨List.prefix_iff_eq_take.mpr hcand.symm, hmem,
    fun o ho hinput => hmax o ho (List.prefix_iff_eq_take.mp hinput).symm⟩

theorem Filed.longest?_eq_none {v : Vocabulary} (h : v.Filed) {input : Text} :
    v.longest? input = none ↔ ∀ op ∈ v.operatorSet, ¬ op <+: input := by
  rw [longest?, h.find?_eq_none]
  refine forall₂_congr fun op _ => not_congr ?_
  rw [List.prefix_iff_eq_take, eq_comm]

theorem Filed.longest?_of_isLongest {v : Vocabulary} (h : v.Filed) {input op : Text}
    (hop : IsLongest v.operatorSet input op) : v.longest? input = some op := by
  cases hl : v.longest? input with
  | none => exact absurd hop.begins (h.longest?_eq_none.mp hl op hop.mem)
  | some o => rw [(h.longest?_eq_some hl).unique hop]

/-- Each finite set of texts that are not empty is the operator set of some vocabulary. -/
theorem exists_reachable (O : Finset Text) (hO : [] ∉ O) :
    ∃ v : Vocabulary, v.Reachable ∧ v.operatorSet = O := by
  suffices ∃ v : Vocabulary, v.Reachable ∧ v.frozen = false ∧ v.operatorSet = O by
    obtain ⟨v, hv, -, hset⟩ := this
    exact ⟨v, hv, hset⟩
  induction O using Finset.induction_on with
  | empty => exact ⟨empty, .empty, rfl, by simp [operatorSet, empty]⟩
  | insert op O hop ih =>
    obtain ⟨v, hv, hopen, hset⟩ := ih fun h => hO (Finset.mem_insert_of_mem h)
    have hnew : op ∉ v.operators := by
      intro hmem
      have hmem' : op ∈ v.operatorSet := hmem
      rw [hset] at hmem'
      exact hop hmem'
    have hne : op ≠ [] := fun h => hO (h ▸ Finset.mem_insert_self op O)
    obtain ⟨c, t, rfl⟩ := List.exists_cons_of_ne_nil hne
    have hreg : (v.register (.text (c :: t))).vocabulary = v.insert (c :: t) := by
      simp [register, hnew, hopen]
    refine ⟨v.insert (c :: t), hreg ▸ hv.register _, hopen, ?_⟩
    ext o
    have ho : o ∈ v.operators ↔ o ∈ O := by
      rw [← Finset.mem_coe, ← hset]
      rfl
    simp [operatorSet, Vocabulary.insert, ho, or_comm]

end ExprLexer.Vocabulary
