import ExprLexer.Proofs.OperatorTable
import ExprLexer.Session
import Mathlib.Data.Nat.Find

/-!
# The history of a vocabulary

What any sequence of actions makes of a vocabulary. Its operators, its buckets and its list of
lengths stay in step, no operator is ever lost, and from the first use on nothing changes. A refused
registration leaves the vocabulary as it was, and a batch is the registrations one after the other,
up to the first that is refused.
-/

namespace ExprLexer

namespace Reply

def IsRefusal (r : Reply) : Prop :=
  ∃ message, r = .failed (.diagnostic ⟨message, .config⟩)

def ofRefusal? : Option Refusal → Reply
  | some r => .failed (.diagnostic (.ofRefusal r))
  | none => .done

theorem isRefusal_ofRefusal? {r? : Option Refusal} : (ofRefusal? r?).IsRefusal ↔ r? ≠ none := by
  cases r? <;> simp [ofRefusal?, IsRefusal, Diagnostic.ofRefusal]

theorem ofRefusal?_eq_done {r? : Option Refusal} : ofRefusal? r? = .done ↔ r? = none := by
  cases r? <;> simp [ofRefusal?]

end Reply

namespace Vocabulary

/-- A session that holds one vocabulary and nothing else. -/
def alone (v : Vocabulary) : Session :=
  ⟨[v], [], [], []⟩

def reply (v : Vocabulary) (action : Action) : Reply :=
  (v.alone.actOnVocabulary 0 action).1

def after (v : Vocabulary) (action : Action) : Vocabulary :=
  (v.alone.actOnVocabulary 0 action).2.vocabulary 0

def afterAll (v : Vocabulary) (actions : List Action) : Vocabulary :=
  actions.foldl after v

/-- The data are added one by one, and a refusal stops nothing. -/
def afterAdding (v : Vocabulary) (ds : List Datum) : Vocabulary :=
  v.afterAll (ds.map .add)

/-- Added one by one, the datum at `k` is refused. -/
def RefusesAt (v : Vocabulary) (ds : List Datum) (k : Nat) : Prop :=
  ∃ d, ds[k]? = some d ∧ ((v.afterAdding (ds.take k)).reply (.add d)).IsRefusal

/-- The operators as registered, the buckets and the list of lengths agree. -/
structure Indexed (v : Vocabulary) : Prop where
  ne_nil : ∀ op ∈ v.operators, op ≠ []
  nodup : v.operators.Nodup
  mem_bucket : ∀ b ∈ v.buckets, ∀ op, op ∈ b.2 ↔ op ∈ v.operators ∧ op.length = b.1
  bucket_ne_nil : ∀ b ∈ v.buckets, b.2 ≠ []
  existsUnique_bucket : ∀ op ∈ v.operators, ∃! b, b ∈ v.buckets ∧ op ∈ b.2
  lengths_decreasing : v.lengths.Pairwise fun m n => n < m
  /-- The list of lengths has the key of each bucket, once, and nothing else. -/
  lengths_perm : v.lengths.Perm (sizes v.buckets)
  mem_lengths : ∀ n, n ∈ v.lengths ↔ ∃ op ∈ v.operators, op.length = n

/-- Operators are never lost, a stream freezes, and a frozen vocabulary stays as it is. -/
structure Ages (v : Vocabulary) : Prop where
  grows : ∀ actions, v.operators ⊆ (v.afterAll actions).operators
  use : ∀ source name, v.after (.stream source name) = { v with frozen := true }
  used : v.frozen = true → ∀ actions, v.afterAll actions = v

structure AddsOne (v : Vocabulary) : Prop where
  refuses_iff : ∀ d, (v.reply (.add d)).IsRefusal ↔
    (¬ ∃ op, d = .text op ∧ op ≠ []) ∨ ∃ op, d = .text op ∧ op ∉ v.operators ∧ v.frozen = true
  refused : ∀ d, (v.reply (.add d)).IsRefusal → v.after (.add d) = v
  added : ∀ d, ¬ (v.reply (.add d)).IsRefusal → v.reply (.add d) = .done ∧
    ∃ op, d = .text op ∧ (v.after (.add d)).frozen = v.frozen ∧
      ∀ o, o ∈ (v.after (.add d)).operators ↔ o ∈ v.operators ∨ o = op

structure AddsAll (v : Vocabulary) : Prop where
  refuses_iff : ∀ ds, (v.reply (.addAll (.list ds))).IsRefusal ↔ ∃ k, v.RefusesAt ds k
  /-- The first datum that is refused gives the reply, and only the data before it are added. -/
  refused : ∀ ds k, v.RefusesAt ds k → (∀ j < k, ¬ v.RefusesAt ds j) →
    v.after (.addAll (.list ds)) = v.afterAdding (ds.take k) ∧
      ∀ d, ds[k]? = some d →
        v.reply (.addAll (.list ds)) = (v.afterAdding (ds.take k)).reply (.add d)
  added : ∀ ds, (∀ k, ¬ v.RefusesAt ds k) →
    v.reply (.addAll (.list ds)) = .done ∧ v.after (.addAll (.list ds)) = v.afterAdding ds
  used : v.frozen = true → ∀ ds, v.after (.addAll (.list ds)) = v ∧
    (v.reply (.addAll (.list ds)) = .done ↔ ∀ d ∈ ds, ∃ op ∈ v.operators, d = .text op)

section Actions

variable {v : Vocabulary} {d : Datum} {ds : List Datum}

/-- All that the registration of a datum can do: it is refused, it finds the operator registered, or
it adds the operator to an open vocabulary. -/
theorem register_spec (v : Vocabulary) (d : Datum) :
    (∃ r, v.register d = ⟨v, [], some r⟩ ∧ ((¬ ∃ op, d = .text op ∧ op ≠ []) ∨
      ∃ op, d = .text op ∧ op ≠ [] ∧ op ∉ v.operators ∧ v.frozen = true)) ∨
    ∃ op, d = .text op ∧ op ≠ [] ∧
      (op ∈ v.operators ∧ v.register d = ⟨v, [], none⟩ ∨
        op ∉ v.operators ∧ v.frozen = false ∧
          v.register d = ⟨v.insert op, [.registered op], none⟩) := by
  unfold register
  split
  · rename_i c t
    have hne : c :: t ≠ [] := List.cons_ne_nil c t
    split_ifs with hmem hfrozen
    · exact Or.inr ⟨c :: t, rfl, hne, Or.inl ⟨hmem, rfl⟩⟩
    · exact Or.inl ⟨_, rfl, Or.inr ⟨c :: t, rfl, hne, hmem, hfrozen⟩⟩
    · have hopen : v.frozen = false := by simpa using hfrozen
      exact Or.inr ⟨c :: t, rfl, hne, Or.inr ⟨hmem, hopen, rfl⟩⟩
  · rename_i hno
    refine Or.inl ⟨_, rfl, Or.inl ?_⟩
    rintro ⟨op, rfl, hne⟩
    obtain ⟨c, t, rfl⟩ := List.exists_cons_of_ne_nil hne
    exact hno c t rfl

theorem register_of_refusal {r : Refusal} (h : (v.register d).refusal? = some r) :
    v.register d = ⟨v, [], some r⟩ := by
  rcases register_spec v d with ⟨r', hr, -⟩ | ⟨op, -, -, ⟨-, hr⟩ | ⟨-, -, hr⟩⟩ <;>
    rw [hr] at h ⊢ <;> cases h
  rfl

theorem registerAll_of_refusal {r : Refusal} (h : (v.register d).refusal? = some r) :
    v.registerAll (d :: ds) = ⟨v, [], some r⟩ := by
  rw [registerAll, h, register_of_refusal h]

theorem registerAll_of_none (h : (v.register d).refusal? = none) :
    v.registerAll (d :: ds) =
      let others := (v.register d).vocabulary.registerAll ds
      { others with records := (v.register d).records ++ others.records } := by
  rw [registerAll, h]

theorem registerAll_singleton (v : Vocabulary) (d : Datum) : v.registerAll [d] = v.register d := by
  cases h : (v.register d).refusal? with
  | some r => rw [registerAll_of_refusal h, register_of_refusal h]
  | none =>
    rw [registerAll_of_none h]
    simp [registerAll, ← h]

theorem freeze_eq (v : Vocabulary) : v.freeze.1 = { v with frozen := true } := by
  unfold freeze
  split
  · rename_i h
    rw [← h]
  · rfl

theorem after_add (v : Vocabulary) (d : Datum) :
    v.after (.add d) = (v.register d).vocabulary := by
  simp only [after, alone, Session.actOnVocabulary, Session.register, Session.vocabulary]
  split <;> rfl

theorem after_addAll {items : Datum} (h : items.items? = some ds) :
    v.after (.addAll items) = (v.registerAll ds).vocabulary := by
  simp only [after, alone, Session.actOnVocabulary, h, Session.register, Session.vocabulary]
  split <;> rfl

theorem after_addAll_none {items : Datum} (h : items.items? = none) :
    v.after (.addAll items) = v := by
  simp only [after, alone, Session.actOnVocabulary, h]
  rfl

theorem after_cases (v : Vocabulary) (action : Action) :
    v.after action = v ∨ (∃ ds, v.after action = (v.registerAll ds).vocabulary) ∨
      v.after action = { v with frozen := true } := by
  cases action with
  | add d => exact Or.inr (Or.inl ⟨[d], by rw [after_add, registerAll_singleton]⟩)
  | addAll items =>
    cases hitems : items.items? with
    | none => exact Or.inl (after_addAll_none hitems)
    | some ds => exact Or.inr (Or.inl ⟨ds, after_addAll hitems⟩)
  | stream source name => exact Or.inr (Or.inr (freeze_eq v))
  | _ => exact Or.inl rfl

theorem reply_add (v : Vocabulary) (d : Datum) :
    v.reply (.add d) = .ofRefusal? (v.register d).refusal? := by
  simp only [reply, alone, Session.actOnVocabulary, Session.register, Session.vocabulary,
    List.getD_cons_zero]
  split <;> rename_i h <;> rw [h] <;> rfl

theorem reply_addAll {items : Datum} (h : items.items? = some ds) :
    v.reply (.addAll items) = .ofRefusal? (v.registerAll ds).refusal? := by
  simp only [reply, alone, Session.actOnVocabulary, h, Session.register, Session.vocabulary,
    List.getD_cons_zero]
  split <;> rename_i h <;> rw [h] <;> rfl

end Actions

section Growth

variable {v : Vocabulary}

theorem operators_subset_register (v : Vocabulary) (d : Datum) :
    v.operators ⊆ (v.register d).vocabulary.operators := by
  rcases register_cases v d with hv | ⟨op, -, -, -, -, hv⟩ <;> rw [hv]
  · exact List.Subset.refl _
  · exact List.subset_append_left _ _

theorem operators_subset_registerAll (v : Vocabulary) (ds : List Datum) :
    v.operators ⊆ (v.registerAll ds).vocabulary.operators := by
  induction ds generalizing v with
  | nil => exact List.Subset.refl _
  | cons d ds ih =>
    cases h : (v.register d).refusal? with
    | some r =>
      rw [registerAll_of_refusal h]
      exact List.Subset.refl _
    | none =>
      rw [registerAll_of_none h]
      exact List.Subset.trans (operators_subset_register v d) (ih _)

theorem register_used (hv : v.frozen = true) (d : Datum) : (v.register d).vocabulary = v := by
  rcases register_cases v d with h | ⟨op, -, -, -, hopen, -⟩
  · exact h
  · rw [hv] at hopen
    cases hopen

theorem registerAll_used (hv : v.frozen = true) (ds : List Datum) :
    (v.registerAll ds).vocabulary = v := by
  induction ds with
  | nil => rfl
  | cons d ds ih =>
    cases h : (v.register d).refusal? with
    | some r => rw [registerAll_of_refusal h]
    | none => rw [registerAll_of_none h, register_used hv, ih]

theorem operators_subset_after (v : Vocabulary) (action : Action) :
    v.operators ⊆ (v.after action).operators := by
  rcases after_cases v action with h | ⟨ds, h⟩ | h <;> rw [h]
  · exact List.Subset.refl _
  · exact operators_subset_registerAll v ds
  · exact List.Subset.refl _

theorem after_used (hv : v.frozen = true) (action : Action) : v.after action = v := by
  rcases after_cases v action with h | ⟨ds, h⟩ | h <;> rw [h]
  · exact registerAll_used hv ds
  · rw [← hv]

theorem Reachable.after (hv : v.Reachable) (action : Action) : (v.after action).Reachable := by
  rcases after_cases v action with h | ⟨ds, h⟩ | h <;> rw [h]
  · exact hv
  · exact hv.registerAll ds
  · exact freeze_eq v ▸ hv.freeze

theorem Reachable.afterAll (hv : v.Reachable) (actions : List Action) :
    (v.afterAll actions).Reachable := by
  induction actions generalizing v with
  | nil => exact hv
  | cons action actions ih => exact ih (hv.after action)

theorem ages (v : Vocabulary) : v.Ages where
  grows := by
    intro actions
    induction actions generalizing v with
    | nil => exact List.Subset.refl _
    | cons action actions ih => exact List.Subset.trans (operators_subset_after v action) (ih _)
  use := fun _ _ => freeze_eq v
  used := by
    intro hv actions
    induction actions with
    | nil => rfl
    | cons action actions ih => rwa [Vocabulary.afterAll, List.foldl_cons, after_used hv]

end Growth

section Index

variable {v : Vocabulary}

theorem Reachable.nodup (h : v.Reachable) : v.operators.Nodup := by
  induction h with
  | empty => exact List.nodup_nil
  | @register v d _ ih =>
    rcases register_cases v d with hv | ⟨op, -, -, hnew, -, hv⟩ <;> rw [hv]
    · exact ih
    · simpa [Vocabulary.insert] using ih.concat hnew
  | @freeze v _ ih => rwa [freeze_eq]

theorem Reachable.indexed (h : v.Reachable) : v.Indexed where
  ne_nil := h.filed.ne_nil
  nodup := h.nodup
  mem_bucket := by
    intro b hb op
    have hlisted : b.1 ∈ v.lengths :=
      h.filed.lengths_perm.mem_iff.mpr (List.mem_map_of_mem hb)
    rw [← h.filed.bucket_eq hb, h.filed.mem_bucket_iff hlisted]
  bucket_ne_nil := h.filed.occupied
  existsUnique_bucket := by
    intro op hop
    obtain ⟨b, hb, hopb⟩ := (h.filed.mem_iff op).mp hop
    refine ⟨b, ⟨hb, hopb⟩, ?_⟩
    rintro b' ⟨hb', hopb'⟩
    apply h.filed.bucket_unique hb' hb
    rw [← h.filed.length_eq b hb op hopb, ← h.filed.length_eq b' hb' op hopb']
  lengths_decreasing := h.filed.decreasing
  lengths_perm := h.filed.lengths_perm
  mem_lengths := fun _ => h.filed.mem_lengths

end Index

section Additions

variable {v : Vocabulary} {d : Datum} {ds : List Datum} {k : Nat}

theorem addsOne (v : Vocabulary) : v.AddsOne where
  refuses_iff := by
    intro d
    rw [reply_add, Reply.isRefusal_ofRefusal?]
    rcases register_spec v d with ⟨r, hr, hwhy⟩ | ⟨op, rfl, hne, hr⟩
    · rw [hr]
      refine iff_of_true (by simp) (hwhy.imp_right ?_)
      rintro ⟨op, hop, -, hnew, hused⟩
      exact ⟨op, hop, hnew, hused⟩
    · refine iff_of_false ?_ ?_
      · rcases hr with ⟨-, hr⟩ | ⟨-, -, hr⟩ <;> simp [hr]
      · rintro (hno | ⟨op', hop, hnew, hused⟩)
        · exact hno ⟨op, rfl, hne⟩
        · obtain rfl : op = op' := Datum.text.inj hop
          rcases hr with ⟨hmem, -⟩ | ⟨-, hopen, -⟩
          · exact hnew hmem
          · simp [hused] at hopen
  refused := by
    intro d h
    rw [reply_add, Reply.isRefusal_ofRefusal?, Option.ne_none_iff_exists'] at h
    obtain ⟨r, hr⟩ := h
    rw [after_add, register_of_refusal hr]
  added := by
    intro d h
    rw [reply_add, Reply.isRefusal_ofRefusal?, not_not] at h
    refine ⟨by rw [reply_add, Reply.ofRefusal?_eq_done, h], ?_⟩
    rw [after_add]
    rcases register_spec v d with ⟨r, hr, -⟩ | ⟨op, hop, -, ⟨hmem, hr⟩ | ⟨-, hopen, hr⟩⟩
    · rw [hr] at h
      cases h
    · rw [hr]
      refine ⟨op, hop, rfl, fun o => ?_⟩
      exact ⟨Or.inl, fun ho => ho.elim id fun heq => heq ▸ hmem⟩
    · rw [hr]
      exact ⟨op, hop, rfl, fun o => by simp [Vocabulary.insert]⟩

theorem afterAdding_cons (v : Vocabulary) (d : Datum) (ds : List Datum) :
    v.afterAdding (d :: ds) = (v.register d).vocabulary.afterAdding ds := by
  rw [← after_add]
  rfl

theorem refusesAt_zero : v.RefusesAt (d :: ds) 0 ↔ (v.register d).refusal? ≠ none := by
  simp [RefusesAt, afterAdding, afterAll, reply_add, Reply.isRefusal_ofRefusal?]

theorem refusesAt_succ :
    v.RefusesAt (d :: ds) (k + 1) ↔ (v.register d).vocabulary.RefusesAt ds k := by
  simp [RefusesAt, afterAdding_cons]

/-- A batch stops at the first refusal and keeps what was added before it. -/
theorem registerAll_of_first (h : v.RefusesAt ds k) (hfirst : ∀ j < k, ¬ v.RefusesAt ds j) :
    (v.registerAll ds).vocabulary = v.afterAdding (ds.take k) ∧
      ∀ d, ds[k]? = some d →
        (v.registerAll ds).refusal? = ((v.afterAdding (ds.take k)).register d).refusal? := by
  induction ds generalizing v k with
  | nil => simp [RefusesAt] at h
  | cons d ds ih =>
    cases k with
    | zero =>
      obtain ⟨r, hr⟩ := Option.ne_none_iff_exists'.mp (refusesAt_zero.mp h)
      rw [registerAll_of_refusal hr]
      refine ⟨rfl, ?_⟩
      rintro d' ⟨⟩
      exact hr.symm
    | succ k =>
      have hnone : (v.register d).refusal? = none := by
        simpa [refusesAt_zero] using hfirst 0 (Nat.succ_pos k)
      rw [registerAll_of_none hnone, List.take_succ_cons, afterAdding_cons]
      exact ih (refusesAt_succ.mp h)
        fun j hj hno => hfirst (j + 1) (Nat.succ_lt_succ hj) (refusesAt_succ.mpr hno)

theorem registerAll_of_never (h : ∀ k, ¬ v.RefusesAt ds k) :
    (v.registerAll ds).refusal? = none ∧ (v.registerAll ds).vocabulary = v.afterAdding ds := by
  induction ds generalizing v with
  | nil => exact ⟨rfl, rfl⟩
  | cons d ds ih =>
    have hnone : (v.register d).refusal? = none := by simpa [refusesAt_zero] using h 0
    rw [registerAll_of_none hnone, afterAdding_cons]
    exact ih fun k hno => h (k + 1) (refusesAt_succ.mpr hno)

theorem registerAll_refusal_iff : (v.registerAll ds).refusal? ≠ none ↔ ∃ k, v.RefusesAt ds k := by
  classical
  constructor
  · intro h
    by_contra hno
    exact h (registerAll_of_never (not_exists.mp hno)).1
  · intro h
    have hfirst := Nat.find_spec h
    obtain ⟨d, hd, hrefusal⟩ := id hfirst
    rw [(registerAll_of_first hfirst fun j hj => Nat.find_min h hj).2 d hd]
    rwa [reply_add, Reply.isRefusal_ofRefusal?] at hrefusal

/-- A vocabulary in use takes the operators that it holds, and nothing else. -/
theorem Filed.registerAll_used_refusal (h : v.Filed) (hv : v.frozen = true) :
    (v.registerAll ds).refusal? = none ↔ ∀ d ∈ ds, ∃ op ∈ v.operators, d = .text op := by
  induction ds with
  | nil => simp [registerAll]
  | cons d ds ih =>
    rw [List.forall_mem_cons, ← ih]
    rcases register_spec v d with ⟨r, hr, hwhy⟩ | ⟨op, rfl, -, ⟨hmem, hr⟩ | ⟨-, hopen, -⟩⟩
    · have hrefusal : (v.register d).refusal? = some r := by rw [hr]
      rw [registerAll_of_refusal hrefusal]
      refine iff_of_false (by simp) ?_
      rintro ⟨⟨op, hop, rfl⟩, -⟩
      rcases hwhy with hno | ⟨op', heq, -, hnew, -⟩
      · exact hno ⟨op, rfl, h.ne_nil op hop⟩
      · obtain rfl : op = op' := Datum.text.inj heq
        exact hnew hop
    · have hnone : (v.register (.text op)).refusal? = none := by rw [hr]
      rw [registerAll_of_none hnone, hr]
      exact ⟨fun h => ⟨⟨op, hmem, rfl⟩, h⟩, fun h => h.2⟩
    · rw [hv] at hopen
      cases hopen

theorem Filed.addsAll (h : v.Filed) : v.AddsAll where
  refuses_iff := by
    intro ds
    rw [reply_addAll rfl, Reply.isRefusal_ofRefusal?, registerAll_refusal_iff]
  refused := by
    intro ds k hk hfirst
    obtain ⟨hafter, hreply⟩ := registerAll_of_first hk hfirst
    refine ⟨by rw [after_addAll rfl, hafter], fun d hd => ?_⟩
    rw [reply_addAll rfl, reply_add, hreply d hd]
  added := by
    intro ds hnever
    obtain ⟨hnone, hafter⟩ := registerAll_of_never hnever
    exact ⟨by rw [reply_addAll rfl, Reply.ofRefusal?_eq_done, hnone],
      by rw [after_addAll rfl, hafter]⟩
  used := by
    intro hv ds
    rw [after_addAll rfl, registerAll_used hv, reply_addAll rfl, Reply.ofRefusal?_eq_done,
      h.registerAll_used_refusal hv]
    exact ⟨rfl, Iff.rfl⟩

end Additions

section Texts

variable {v : Vocabulary} {op : Text}

theorem register_text (hv : v.frozen = false) (hop : op ≠ []) :
    (v.register (.text op)).refusal? = none ∧ (v.register (.text op)).vocabulary.frozen = false ∧
      ∀ o, o ∈ (v.register (.text op)).vocabulary.operators ↔ o ∈ v.operators ∨ o = op := by
  rcases register_spec v (.text op) with ⟨r, -, hno | ⟨_, -, -, -, hused⟩⟩ |
    ⟨_, heq, -, ⟨hmem, hr⟩ | ⟨-, -, hr⟩⟩
  · exact absurd ⟨op, rfl, hop⟩ hno
  · rw [hv] at hused
    cases hused
  · obtain rfl := Datum.text.inj heq
    rw [hr]
    exact ⟨rfl, hv, fun o => ⟨Or.inl, fun ho => ho.elim id fun h => h ▸ hmem⟩⟩
  · obtain rfl := Datum.text.inj heq
    rw [hr]
    exact ⟨rfl, hv, fun o => by simp [Vocabulary.insert]⟩

/-- An open vocabulary takes all texts, up to the first empty one. -/
theorem registerAll_texts (hv : v.frozen = false) (operators : List Text) :
    ((v.registerAll (operators.map .text)).refusal? =
      if [] ∈ operators then some (.notAnOperator (.text [])) else none) ∧
    (v.registerAll (operators.map .text)).vocabulary.frozen = false ∧
    ([] ∉ operators → ∀ o, o ∈ (v.registerAll (operators.map .text)).vocabulary.operators ↔
      o ∈ v.operators ∨ o ∈ operators) := by
  induction operators generalizing v with
  | nil => simp [registerAll, hv]
  | cons op operators ih =>
    rw [List.map_cons]
    by_cases hop : op = []
    · have hrefusal : (v.register (.text op)).refusal? = some (.notAnOperator (.text [])) := by
        rw [hop]
        rfl
      rw [registerAll_of_refusal hrefusal]
      simp [hop, hv]
    · obtain ⟨hnone, hopen, hmem⟩ := register_text hv hop
      rw [registerAll_of_none hnone]
      obtain ⟨hrefusal, hfrozen, hall⟩ := ih hopen
      refine ⟨?_, hfrozen, ?_⟩
      · simp [hrefusal, Ne.symm hop]
      · intro hnot o
        rw [hall fun h => hnot (List.mem_cons_of_mem op h), hmem]
        simp [or_assoc]

end Texts

/-- Whatever happens to a vocabulary after it was built: its operators, its buckets and its lengths
agree, operators are never lost and never change once it is in use, and a registration adds what it
is given or changes nothing. -/
theorem tables_in_step_and_operators_only_added (ds : List Datum) (actions : List Action) :
    let v := (build ds).vocabulary.afterAll actions
    v.Indexed ∧ v.Ages ∧ v.AddsOne ∧ v.AddsAll := by
  have hv := (reachable_build ds).afterAll actions
  exact ⟨hv.indexed, ages _, addsOne _, hv.filed.addsAll⟩

end Vocabulary

end ExprLexer
