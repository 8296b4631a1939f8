import ExprLexer.Proofs.QuotedLiterals
import ExprLexer.Proofs.SessionSteps
import Mathlib.Data.List.Infix

/-!
# The log of a vocabulary

What a vocabulary writes tells its life: each registration of a new operator, in order, and then the
first use. Nothing else is written, whatever the vocabulary is asked and whatever it refuses, so at
any moment the log can be read off the vocabulary.
-/

namespace ExprLexer

namespace Vocabulary

/-- What an action makes a vocabulary write. -/
def writes (v : Vocabulary) (action : Action) : List Record :=
  (v.alone.actOnVocabulary 0 action).2.records

def writesAdding (v : Vocabulary) : List Datum → List Record
  | [] => []
  | d :: ds => v.writes (.add d) ++ (v.after (.add d)).writesAdding ds

/-- The records of the operators in order of registration, then that of the first use if there was
one. -/
def story (v : Vocabulary) : List Record :=
  v.operators.map .registered ++ if v.frozen then [.frozen v.operators.length] else []

/-- The log is the story of the vocabulary, without repetitions. -/
structure ToldBy (v : Vocabulary) (log : List Record) : Prop where
  unused : v.frozen = false → log = v.operators.map .registered
  used : v.frozen = true → log = v.operators.map .registered ++ [.frozen v.operators.length]
  shown : ∀ op, .registered op ∈ log ↔ op ∈ v.sorted
  lines : log.map Record.message =
    v.operators.map (fun op => ("Registered operator " ++ op.quoted : Text)) ++
      if v.frozen then
        [("Tokenizer config frozen with " ++ Text.ofNat v.operators.length ++
          " operator(s)" : Text)]
      else []
  lines_nodup : (log.map Record.message).Nodup

/-- The records that one action writes, by what it does to the vocabulary. -/
structure Reports (v : Vocabulary) (action : Action) (new : List Record) : Prop where
  registered : ∀ op, .registered op ∈ new ↔ op ∉ v.operators ∧ op ∈ (v.after action).operators
  first_use : ∀ n, .frozen n ∈ new ↔
    (∃ source name, action = .stream source name) ∧ v.frozen = false ∧ n = v.operators.length
  refused : ∀ d, action = .add d → (v.reply action).IsRefusal → new = []
  known : ∀ op ∈ v.operators, action = .add (.text op) → new = []
  added : ∀ op ∉ v.operators, action = .add (.text op) → ¬ (v.reply action).IsRefusal →
    new = [.registered op]
  /-- A batch reports what its data before the first refusal, or all of them, report one by one. -/
  batch : ∀ items ds k, action = .addAll items → items.items? = some ds →
    (v.RefusesAt ds k ∨ k = ds.length) → (∀ j < k, ¬ v.RefusesAt ds j) →
      new = v.writesAdding (ds.take k) ∧
        ∀ op, .registered op ∈ new ↔ op ∉ v.operators ∧ .text op ∈ ds.take k

/-- A registration appends operators to an open vocabulary and writes them in their order. -/
structure Appends (v : Vocabulary) (r : Registration) (new : List Text) : Prop where
  operators_eq : r.vocabulary.operators = v.operators ++ new
  frozen_eq : r.vocabulary.frozen = v.frozen
  records_eq : r.records = new.map .registered
  used : v.frozen = true → new = []

section Registrations

variable {v : Vocabulary} {d : Datum} {ds : List Datum} {k : Nat} {op : Text}

theorem exists_appends_register (v : Vocabulary) (d : Datum) :
    ∃ new, v.Appends (v.register d) new := by
  have hsame : ∀ r, v.register d = ⟨v, [], r⟩ → v.Appends (v.register d) [] := by
    intro r h
    rw [h]
    exact ⟨(List.append_nil _).symm, rfl, rfl, fun _ => rfl⟩
  rcases register_spec v d with ⟨r, hr, -⟩ | ⟨op, -, -, ⟨-, hr⟩ | ⟨-, hopen, hr⟩⟩
  · exact ⟨[], hsame _ hr⟩
  · exact ⟨[], hsame _ hr⟩
  · rw [hr]
    refine ⟨[op], rfl, rfl, rfl, fun hused => ?_⟩
    rw [hopen] at hused
    cases hused

theorem exists_appends_registerAll (v : Vocabulary) (ds : List Datum) :
    ∃ new, v.Appends (v.registerAll ds) new := by
  induction ds generalizing v with
  | nil => exact ⟨[], (List.append_nil _).symm, rfl, rfl, fun _ => rfl⟩
  | cons d ds ih =>
    cases hrefusal : (v.register d).refusal? with
    | some r =>
      rw [registerAll_of_refusal hrefusal]
      exact ⟨[], (List.append_nil _).symm, rfl, rfl, fun _ => rfl⟩
    | none =>
      rw [registerAll_of_none hrefusal]
      obtain ⟨first, hfirst⟩ := exists_appends_register v d
      obtain ⟨others, hothers⟩ := ih (v.register d).vocabulary
      refine ⟨first ++ others, ?_, ?_, ?_, ?_⟩
      · rw [hothers.operators_eq, hfirst.operators_eq, List.append_assoc]
      · rw [hothers.frozen_eq, hfirst.frozen_eq]
      · simp only [hothers.records_eq, hfirst.records_eq, List.map_append]
      · intro hused
        rw [hfirst.used hused, hothers.used (hfirst.frozen_eq.trans hused), List.append_nil]

theorem Appends.story_eq {r : Registration} {new : List Text} (h : v.Appends r new) :
    r.vocabulary.story = v.story ++ r.records := by
  unfold story
  rw [h.operators_eq, h.frozen_eq, h.records_eq]
  cases hfrozen : v.frozen with
  | false => simp
  | true => simp [h.used hfrozen]

theorem Appends.mem_records {r : Registration} {new : List Text} (h : v.Appends r new)
    (hnodup : r.vocabulary.operators.Nodup) :
    .registered op ∈ r.records ↔ op ∉ v.operators ∧ op ∈ r.vocabulary.operators := by
  rw [h.operators_eq] at hnodup ⊢
  have hdisjoint := List.nodup_append.mp hnodup
  simp only [h.records_eq, List.mem_map, Record.registered.injEq, exists_eq_right, List.mem_append]
  constructor
  · intro hop
    exact ⟨fun hold => hdisjoint.2.2 op hold op hop rfl, Or.inr hop⟩
  · rintro ⟨hnot, hold | hop⟩
    · exact absurd hold hnot
    · exact hop

theorem register_of_accepted (h : (v.register d).refusal? = none) :
    ∃ op, d = .text op ∧
      ∀ o, o ∈ (v.register d).vocabulary.operators ↔ o ∈ v.operators ∨ o = op := by
  have hreply : ¬ (v.reply (.add d)).IsRefusal := by
    rw [reply_add, Reply.isRefusal_ofRefusal?]
    exact not_not.mpr h
  obtain ⟨-, op, hop, -, hmem⟩ := (addsOne v).added d hreply
  rw [after_add] at hmem
  exact ⟨op, hop, hmem⟩

theorem writes_add (v : Vocabulary) (d : Datum) : v.writes (.add d) = (v.register d).records := by
  simp only [writes, alone, Session.actOnVocabulary, Session.register, Session.vocabulary]
  split <;> rfl

theorem writes_addAll {items : Datum} (h : items.items? = some ds) :
    v.writes (.addAll items) = (v.registerAll ds).records := by
  simp only [writes, alone, Session.actOnVocabulary, h, Session.register, Session.vocabulary]
  split <;> rfl

theorem registerAll_of_stop (hstop : v.RefusesAt ds k ∨ k = ds.length)
    (hfirst : ∀ j < k, ¬ v.RefusesAt ds j) :
    (v.registerAll ds).records = v.writesAdding (ds.take k) ∧
      ∀ op, op ∈ (v.registerAll ds).vocabulary.operators ↔
        op ∈ v.operators ∨ .text op ∈ ds.take k := by
  induction ds generalizing v k with
  | nil =>
    rw [List.take_nil]
    exact ⟨rfl, fun op => by simp [registerAll]⟩
  | cons d ds ih =>
    cases k with
    | zero =>
      -- Data are left, so the batch stops here because `d` is refused.
      have hrefused : v.RefusesAt (d :: ds) 0 := hstop.resolve_right (by simp)
      obtain ⟨r, hr⟩ := Option.ne_none_iff_exists'.mp (refusesAt_zero.mp hrefused)
      rw [registerAll_of_refusal hr, List.take_zero]
      exact ⟨rfl, fun op => by simp⟩
    | succ k =>
      have hnone : (v.register d).refusal? = none := by
        simpa [refusesAt_zero] using hfirst 0 (Nat.succ_pos k)
      obtain ⟨hrecords, hmem⟩ := ih (hstop.imp refusesAt_succ.mp Nat.succ.inj)
        fun j hj hno => hfirst (j + 1) (Nat.succ_lt_succ hj) (refusesAt_succ.mpr hno)
      obtain ⟨o, rfl, ho⟩ := register_of_accepted hnone
      rw [registerAll_of_none hnone, List.take_succ_cons]
      constructor
      · rw [writesAdding, writes_add, after_add, ← hrecords]
      · intro op
        simp [hmem, ho, or_assoc]

end Registrations

section Actions

variable {v : Vocabulary} {action : Action}

theorem writes_cases (v : Vocabulary) (action : Action) :
    (∃ source name, action = .stream source name ∧ v.after action = v.freeze.1 ∧
        v.writes action = v.freeze.2) ∨
      (∀ source name, action ≠ .stream source name) ∧
        ∃ ds, v.after action = (v.registerAll ds).vocabulary ∧
          v.writes action = (v.registerAll ds).records := by
  cases action with
  | add d =>
    refine Or.inr ⟨by simp, [d], ?_, ?_⟩
    · rw [after_add, registerAll_singleton]
    · rw [writes_add, registerAll_singleton]
  | addAll items =>
    refine Or.inr ⟨by simp, ?_⟩
    cases hitems : items.items? with
    | none =>
      refine ⟨[], after_addAll_none hitems, ?_⟩
      simp only [writes, alone, Session.actOnVocabulary, hitems, registerAll]
    | some ds => exact ⟨ds, after_addAll hitems, writes_addAll hitems⟩
  | stream source name => exact Or.inl ⟨source, name, rfl, rfl, rfl⟩
  | _ => exact Or.inr ⟨by simp, [], rfl, rfl⟩

/-- An action continues the story by what it writes. -/
theorem story_after (v : Vocabulary) (action : Action) :
    (v.after action).story = v.story ++ v.writes action := by
  rcases writes_cases v action with ⟨_, _, -, hafter, hwrites⟩ | ⟨-, ds, hafter, hwrites⟩ <;>
    rw [hafter, hwrites]
  · unfold freeze story
    cases hfrozen : v.frozen <;> simp [hfrozen]
  · obtain ⟨new, hnew⟩ := exists_appends_registerAll v ds
    exact hnew.story_eq

theorem story_build (ds : List Datum) : (build ds).vocabulary.story = (build ds).records := by
  obtain ⟨new, hnew⟩ := exists_appends_registerAll .empty ds
  exact hnew.story_eq

theorem frozen_after (v : Vocabulary) (action : Action) :
    (v.after action).frozen = true ↔
      v.frozen = true ∨ ∃ source name, action = .stream source name := by
  rcases writes_cases v action with ⟨source, name, heq, hafter, -⟩ | ⟨hno, ds, hafter, -⟩
  · rw [hafter, freeze_eq]
    exact iff_of_true rfl (Or.inr ⟨source, name, heq⟩)
  · obtain ⟨new, hnew⟩ := exists_appends_registerAll v ds
    rw [hafter, hnew.frozen_eq]
    exact ⟨Or.inl, fun h => h.resolve_right fun ⟨source, name, heq⟩ => hno source name heq⟩

theorem Reachable.reports (h : v.Reachable) (action : Action) :
    v.Reports action (v.writes action) where
  registered := by
    intro op
    have hnodup := (h.after action).nodup
    rcases writes_cases v action with ⟨_, _, -, hafter, hwrites⟩ | ⟨-, ds, hafter, hwrites⟩ <;>
      rw [hafter] at hnodup ⊢ <;> rw [hwrites]
    · unfold Vocabulary.freeze
      split <;> simp
    · obtain ⟨new, hnew⟩ := exists_appends_registerAll v ds
      exact hnew.mem_records hnodup
  first_use := by
    intro n
    rcases writes_cases v action with ⟨source, name, heq, -, hwrites⟩ | ⟨hno, ds, -, hwrites⟩ <;>
      rw [hwrites]
    · have hstream : ∃ source name, action = .stream source name := ⟨source, name, heq⟩
      unfold Vocabulary.freeze
      cases hfrozen : v.frozen <;> simp [hstream]
    · obtain ⟨new, hnew⟩ := exists_appends_registerAll v ds
      rw [hnew.records_eq]
      refine iff_of_false (by simp) ?_
      rintro ⟨⟨source, name, heq⟩, -⟩
      exact hno source name heq
  refused := by
    rintro d rfl hrefusal
    rw [reply_add, Reply.isRefusal_ofRefusal?, Option.ne_none_iff_exists'] at hrefusal
    obtain ⟨r, hr⟩ := hrefusal
    rw [writes_add, register_of_refusal hr]
  known := by
    rintro op hop rfl
    rw [writes_add]
    rcases register_spec v (.text op) with ⟨r, hr, -⟩ | ⟨o, heq, -, ⟨-, hr⟩ | ⟨hnew, -, -⟩⟩
    · rw [hr]
    · rw [hr]
    · obtain rfl := Datum.text.inj heq
      exact absurd hop hnew
  added := by
    rintro op hop rfl haccepted
    rw [reply_add, Reply.isRefusal_ofRefusal?, not_not] at haccepted
    rw [writes_add]
    rcases register_spec v (.text op) with ⟨r, hr, -⟩ | ⟨o, heq, -, ⟨hold, -⟩ | ⟨-, -, hr⟩⟩
    · rw [hr] at haccepted
      cases haccepted
    · obtain rfl := Datum.text.inj heq
      exact absurd hold hop
    · obtain rfl := Datum.text.inj heq
      rw [hr]
  batch := by
    rintro items ds k rfl hitems hstop hfirst
    obtain ⟨hrecords, hmem⟩ := registerAll_of_stop hstop hfirst
    refine ⟨(writes_addAll hitems).trans hrecords, fun op => ?_⟩
    obtain ⟨new, hnew⟩ := exists_appends_registerAll v ds
    rw [writes_addAll hitems, hnew.mem_records (h.registerAll ds).nodup, hmem]
    exact ⟨fun ⟨hop, hor⟩ => ⟨hop, hor.resolve_left hop⟩, fun ⟨hop, hmem⟩ => ⟨hop, Or.inr hmem⟩⟩

theorem Reachable.told (h : v.Reachable) : v.ToldBy v.story where
  unused := by
    intro hopen
    simp [story, hopen]
  used := by
    intro hused
    simp [story, hused]
  shown := by
    intro op
    have hfirst_use : Record.registered op ∉
        (if v.frozen then [Record.frozen v.operators.length] else []) := by
      split <;> simp
    simp [story, hfirst_use, sorted, Text.sort]
  lines := by
    unfold story
    split <;> simp [Record.message]
  lines_nodup := by
    have hfirst : ∀ op n, Record.message (.registered op) ≠ Record.message (.frozen n) := by
      intro op n heq
      have hhead : some ('R' : CodePoint) = some ('T' : CodePoint) := congrArg List.head? heq
      exact absurd hhead (by decide)
    have hquoted : ∀ op op', Record.message (.registered op) = Record.message (.registered op') →
        op = op' := by
      intro op op' heq
      exact Text.eq_of_quotedWith_eq (List.append_cancel_left heq)
    unfold story
    rw [List.map_append, List.nodup_append, List.map_map]
    refine ⟨h.nodup.map fun op op' => hquoted op op', ?_, ?_⟩
    · split <;> simp
    · intro line hline line' hline'
      obtain ⟨op, -, rfl⟩ := List.mem_map.mp hline
      split at hline'
      · obtain rfl := List.mem_singleton.mp hline'
        exact hfirst op _
      · cases hline'

end Actions

end Vocabulary

namespace Session

/-- The session after a vocabulary was built under a name and some calls were made. -/
def lived (name : Text) (ds : List Datum) (calls : List (Text × Action)) : Session :=
  (empty.run (.create name (.list ds) :: calls.map fun call => .act call.1 call.2)).2

/-- One of the calls asks the vocabulary for a stream, at a moment when its target names it. -/
def Asks (name : Text) (ds : List Datum) (calls : List (Text × Action)) : Prop :=
  ∃ earlier target source stream, earlier ++ [(target, .stream source stream)] <+: calls ∧
    (lived name ds earlier).bindings.lookup target = some (.vocabulary 0)

/-- A session with one vocabulary, whose story is the log. -/
structure Keeps (s : Session) (v : Vocabulary) : Prop where
  sound : s.Sound
  only : s.vocabularies = [v]
  told : s.records = v.story

section Records

variable {s : Session} {v : Vocabulary} {target : Text}

theorem actOnVocabulary_records (s : Session) (id : Nat) (action : Action) :
    (s.actOnVocabulary id action).2.records = s.records ++ (s.vocabulary id).writes action := by
  cases action with
  | add d =>
    rw [Vocabulary.writes_add, actOnVocabulary, register]
    split <;> rfl
  | addAll items =>
    cases hitems : items.items? with
    | none => simp [actOnVocabulary, Vocabulary.writes, Vocabulary.alone, hitems]
    | some ds =>
      rw [Vocabulary.writes_addAll hitems]
      simp only [actOnVocabulary, hitems, register]
      split <;> rfl
  | stream source name => rfl
  | _ => exact (List.append_nil _).symm

theorem act_of_not_vocabulary (h : ∀ id, s.bindings.lookup target ≠ some (.vocabulary id))
    (action : Action) :
    (s.step (.act target action)).2.records = s.records ∧
      (s.step (.act target action)).2.vocabularies = s.vocabularies := by
  simp only [step]
  split
  · rename_i id hname
    exact absurd hname (h id)
  · cases action <;> exact ⟨rfl, rfl⟩
  · split
    · cases action <;> exact ⟨rfl, rfl⟩
    · exact ⟨rfl, rfl⟩
  · exact ⟨rfl, rfl⟩

theorem Keeps.vocabulary_eq (h : s.Keeps v) : s.vocabulary 0 = v := by
  simp [vocabulary, h.only]

theorem Keeps.reachable (h : s.Keeps v) : v.Reachable :=
  h.sound.reachable v (by simp [h.only])

theorem Keeps.act (h : s.Keeps v) (hname : s.bindings.lookup target = some (.vocabulary 0))
    (action : Action) :
    (s.step (.act target action)).2.Keeps (v.after action) ∧
      (s.step (.act target action)).2.records = s.records ++ v.writes action := by
  have hstep : s.step (.act target action) = s.actOnVocabulary 0 action := by
    simp only [step, hname]
  have hrecords : (s.step (.act target action)).2.records = s.records ++ v.writes action := by
    rw [hstep, actOnVocabulary_records, h.vocabulary_eq]
  refine ⟨⟨h.sound.step _, ?_, ?_⟩, hrecords⟩
  · rw [hstep, actOnVocabulary_vocabularies, h.vocabulary_eq, h.only]
    rfl
  · rw [hrecords, Vocabulary.story_after, h.told]

theorem Keeps.act_elsewhere (h : s.Keeps v)
    (hname : s.bindings.lookup target ≠ some (.vocabulary 0)) (action : Action) :
    (s.step (.act target action)).2.Keeps v ∧
      (s.step (.act target action)).2.records = s.records := by
  have hno : ∀ id, s.bindings.lookup target ≠ some (.vocabulary id) := by
    intro id hid
    have hlt := h.sound.lt_of_lookup hid
    rw [h.only, List.length_singleton, Nat.lt_one_iff] at hlt
    exact hname (hlt ▸ hid)
  obtain ⟨hrecords, hvocabularies⟩ := act_of_not_vocabulary hno action
  exact ⟨⟨h.sound.step _, hvocabularies.trans h.only, hrecords.trans h.told⟩, hrecords⟩

end Records

section Lives

variable {name : Text} {ds : List Datum} {calls : List (Text × Action)} {v : Vocabulary}

theorem run_append (s : Session) (first second : List Command) :
    (s.run (first ++ second)).2 = ((s.run first).2.run second).2 := by
  induction first generalizing s with
  | nil => rfl
  | cons command first ih => exact ih _

theorem lived_concat (name : Text) (ds : List Datum) (calls : List (Text × Action))
    (call : Text × Action) :
    lived name ds (calls ++ [call]) = ((lived name ds calls).step (.act call.1 call.2)).2 := by
  rw [lived, List.map_append, ← List.cons_append, run_append]
  rfl

theorem lived_nil_records (name : Text) (ds : List Datum) :
    (lived name ds []).records = (Vocabulary.build ds).records := by
  simp only [lived, List.map_nil, run, step, create, Datum.items?, empty]
  split <;> rfl

theorem lived_records_of_refusal (h : (Vocabulary.build ds).refusal? ≠ none) (name : Text)
    (calls : List (Text × Action)) :
    (lived name ds calls).records = (Vocabulary.build ds).records := by
  obtain ⟨r, hr⟩ := Option.ne_none_iff_exists'.mp h
  have hlived : lived name ds calls = empty.record (Vocabulary.build ds).records := by
    induction calls using List.reverseRecOn with
    | nil => simp only [lived, List.map_nil, run, step, create, Datum.items?, hr]
    | append_singleton calls call ih =>
      rw [lived_concat, ih]
      rfl
  rw [hlived]
  rfl

theorem built_keeps (h : (Vocabulary.build ds).refusal? = none) (name : Text) :
    (lived name ds []).Keeps (Vocabulary.build ds).vocabulary where
  sound := sound_of_leads ⟨_, rfl⟩
  only := by
    simp only [lived, List.map_nil, run, step, create, Datum.items?, h]
    rfl
  told := by rw [lived_nil_records, Vocabulary.story_build]

theorem exists_keeps (h : (Vocabulary.build ds).refusal? = none) (name : Text)
    (calls : List (Text × Action)) : ∃ v, (lived name ds calls).Keeps v := by
  -- From the last call on, because a call meets the session that the earlier ones left.
  induction calls using List.reverseRecOn with
  | nil => exact ⟨_, built_keeps h name⟩
  | append_singleton calls call ih =>
    obtain ⟨v, hv⟩ := ih
    rw [lived_concat]
    by_cases hname : (lived name ds calls).bindings.lookup call.1 = some (.vocabulary 0)
    · exact ⟨_, (hv.act hname call.2).1⟩
    · exact ⟨_, (hv.act_elsewhere hname call.2).1⟩

theorem asks_concat {call : Text × Action} :
    Asks name ds (calls ++ [call]) ↔ Asks name ds calls ∨
      (∃ source stream, call.2 = .stream source stream) ∧
        (lived name ds calls).bindings.lookup call.1 = some (.vocabulary 0) := by
  constructor
  · rintro ⟨earlier, target, source, stream, hprefix, hname⟩
    rcases List.prefix_concat_iff.mp hprefix with heq | hprefix
    · obtain ⟨rfl, hcall⟩ := List.append_inj' heq rfl
      obtain rfl := List.singleton_inj.mp hcall
      exact Or.inr ⟨⟨source, stream, rfl⟩, hname⟩
    · exact Or.inl ⟨earlier, target, source, stream, hprefix, hname⟩
  · rintro (⟨earlier, target, source, stream, hprefix, hname⟩ | ⟨⟨source, stream, heq⟩, hname⟩)
    · exact ⟨earlier, target, source, stream, hprefix.trans (List.prefix_append _ _), hname⟩
    · exact ⟨calls, call.1, source, stream, heq ▸ List.prefix_refl _, hname⟩

theorem frozen_iff_asks (h : (Vocabulary.build ds).refusal? = none) (name : Text)
    (calls : List (Text × Action)) :
    ((lived name ds calls).vocabulary 0).frozen = true ↔ Asks name ds calls := by
  induction calls using List.reverseRecOn with
  | nil =>
    obtain ⟨new, hnew⟩ := Vocabulary.exists_appends_registerAll .empty ds
    rw [(built_keeps h name).vocabulary_eq, Vocabulary.build, hnew.frozen_eq]
    refine iff_of_false (by simp [Vocabulary.empty]) ?_
    rintro ⟨earlier, target, source, stream, hprefix, -⟩
    simpa using hprefix.length_le
  | append_singleton calls call ih =>
    obtain ⟨v, hv⟩ := exists_keeps h name calls
    rw [hv.vocabulary_eq] at ih
    rw [lived_concat, asks_concat, ← ih]
    by_cases hname : (lived name ds calls).bindings.lookup call.1 = some (.vocabulary 0)
    · rw [(hv.act hname call.2).1.vocabulary_eq, Vocabulary.frozen_after, and_iff_left hname]
    · rw [(hv.act_elsewhere hname call.2).1.vocabulary_eq]
      simp [hname]

theorem Keeps.lasts (h : (lived name ds calls).Keeps v) (hused : v.frozen = true)
    (more : List (Text × Action)) : (lived name ds (calls ++ more)).Keeps v := by
  induction more using List.reverseRecOn with
  | nil => rwa [List.append_nil]
  | append_singleton more call ih =>
    rw [← List.append_assoc, lived_concat]
    by_cases hname : (lived name ds (calls ++ more)).bindings.lookup call.1 = some (.vocabulary 0)
    · have hact := (ih.act hname call.2).1
      rwa [Vocabulary.after_used hused] at hact
    · exact (ih.act_elsewhere hname call.2).1

end Lives

/-- The log of a vocabulary tells its life, from the data it is built of on. It is in use from the
first call for a stream on, and from then on nothing is written. A call writes what it reports of
the vocabulary that it is directed at, if it is directed at one. -/
theorem log_tells_life (name : Text) (ds : List Datum) (calls : List (Text × Action)) :
    let s := lived name ds calls
    let v := s.vocabulary 0
    Vocabulary.empty.Reports (.addAll (.list ds)) (lived name ds []).records ∧
    ((Vocabulary.build ds).refusal? ≠ none →
      s.records = (lived name ds []).records ∧ (Vocabulary.build ds).vocabulary.ToldBy s.records) ∧
    ((Vocabulary.build ds).refusal? = none →
      v.ToldBy s.records ∧
      (v.frozen = true ↔ Asks name ds calls) ∧
      (v.frozen = true → ∀ more, (lived name ds (calls ++ more)).records = s.records) ∧
      ∀ target action, let s' := lived name ds (calls ++ [(target, action)])
        (s.bindings.lookup target = some (.vocabulary 0) → s'.vocabulary 0 = v.after action ∧
          ∃ new, s'.records = s.records ++ new ∧ v.Reports action new) ∧
        (s.bindings.lookup target ≠ some (.vocabulary 0) →
          s'.vocabulary 0 = v ∧ s'.records = s.records)) := by
  intro s v
  refine ⟨?_, ?_, ?_⟩
  · have hitems : (Datum.list ds).items? = some ds := rfl
    rw [lived_nil_records, Vocabulary.build, ← Vocabulary.writes_addAll hitems]
    exact Vocabulary.Reachable.empty.reports _
  · intro hrefusal
    have hrecords : s.records = (Vocabulary.build ds).records :=
      lived_records_of_refusal hrefusal name calls
    refine ⟨hrecords.trans (lived_nil_records name ds).symm, ?_⟩
    rw [hrecords, ← Vocabulary.story_build]
    exact (Vocabulary.reachable_build ds).told
  · intro hbuilt
    obtain ⟨w, hw⟩ := exists_keeps hbuilt name calls
    have hv : v = w := hw.vocabulary_eq
    rw [hv]
    refine ⟨?_, ?_, ?_, ?_⟩
    · rw [hw.told]
      exact hw.reachable.told
    · rw [← hv]
      exact frozen_iff_asks hbuilt name calls
    · intro hused more
      rw [(hw.lasts hused more).told, hw.told]
    · intro target action
      rw [lived_concat]
      constructor
      · intro hname
        obtain ⟨hkeeps, hrecords⟩ := hw.act hname action
        exact ⟨hkeeps.vocabulary_eq, _, hrecords, hw.reachable.reports action⟩
      · intro hname
        obtain ⟨hkeeps, hrecords⟩ := hw.act_elsewhere hname action
        exact ⟨hkeeps.vocabulary_eq, hrecords⟩

end Session

end ExprLexer
