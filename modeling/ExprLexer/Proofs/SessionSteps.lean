import ExprLexer.Proofs.VocabularyHistory

/-!
# Steps of a session

What a command does to one vocabulary and to one lexer of a session. A vocabulary changes only by
actions on it, and a lexer only by the actions that are directed at it, under whichever of its
names. To these it replies as it would if there were nothing else.
-/

namespace ExprLexer

def Lexer.limit (l : Lexer) : Action → Nat
  | .next => 1
  | .take n => n
  | .drain => l.rest.length + 1
  | _ => 0

/-- The walk that an action makes of a lexer. An action that pulls nothing makes an empty one. -/
def Lexer.asked (v : Vocabulary) (l : Lexer) (action : Action) : Walk :=
  l.take v (l.limit action)

def Walk.answer (w : Walk) : Action → Reply
  | .next =>
    match w.tokens, w.ending with
    | (t, position) :: _, _ => .token t position
    | [], .failure f => .failed (.diagnostic (.ofFailure f))
    | [], _ => .stopped w.lexer.position
  | .take _ => .walk w
  | .drain => .ofResult w.result
  | .cursor => .cursor w.lexer.position w.lexer.rest
  | .iterate _ => .flag true
  | _ => .failed .notApplicable

/-- An action on a lexer, the reply, and the walk it made. -/
structure Exchange where
  action : Action
  reply : Reply
  walk : Walk

namespace Session

def Leads (s t : Session) : Prop :=
  ∃ commands, (s.run commands).2 = t

/-- The action that a command directs at lexer `n`. -/
def directed (s : Session) (n : Nat) : Command → Option Action
  | .create _ _ => none
  | .act target action =>
    match s.bindings.lookup target with
    | some (.lexer m) => if m = n then some action else none
    | _ => none

/-- All that is asked of lexer `n` in a run. -/
def exchanges (n : Nat) (s : Session) : List Command → List Exchange
  | [] => []
  | command :: rest =>
    let others := (s.step command).2.exchanges n rest
    match s.directed n command, s.lexers[n]? with
    | some action, some (id, l) =>
      ⟨action, (s.step command).1, l.asked (s.vocabulary id) action⟩ :: others
    | _, _ => others

/-- Invariant of sessions: vocabularies are reachable, and bound numbers are in range. -/
structure Sound (s : Session) : Prop where
  reachable : ∀ v ∈ s.vocabularies, v.Reachable
  bound : ∀ name id, (name, Binding.vocabulary id) ∈ s.bindings → id < s.vocabularies.length

variable {s : Session} {id n : Nat} {action : Action} {command : Command}

section Vocabularies

theorem set_vocabulary_self (s : Session) (id : Nat) :
    s.vocabularies.set id (s.vocabulary id) = s.vocabularies := by
  by_cases h : id < s.vocabularies.length
  · simp [vocabulary, h]
  · exact List.set_eq_of_length_le (Nat.not_lt.mp h)

theorem register_vocabularies (s : Session) (id : Nat) (r : Registration) :
    (s.register id r).2.vocabularies = s.vocabularies.set id r.vocabulary := by
  unfold register
  split <;> rfl

theorem actOnVocabulary_vocabularies (s : Session) (id : Nat) (action : Action) :
    (s.actOnVocabulary id action).2.vocabularies =
      s.vocabularies.set id ((s.vocabulary id).after action) := by
  cases action with
  | add d => rw [Vocabulary.after_add, actOnVocabulary, register_vocabularies]
  | addAll items =>
    cases hitems : items.items? with
    | none =>
      rw [Vocabulary.after_addAll_none hitems, set_vocabulary_self]
      simp [actOnVocabulary, hitems]
    | some ds =>
      rw [Vocabulary.after_addAll hitems, ← register_vocabularies]
      simp only [actOnVocabulary, hitems]
  | stream source name => rfl
  | _ => exact (set_vocabulary_self s id).symm

theorem actOnStream_vocabularies (s : Session) (id : Nat) (source : Text) (action : Action) :
    (s.actOnStream id source action).2.vocabularies = s.vocabularies := by
  cases action <;> rfl

theorem actOnLexer_vocabularies (s : Session) (n : Nat) (entry : Nat × Lexer) (action : Action) :
    (s.actOnLexer n entry action).2.vocabularies = s.vocabularies := by
  cases action <;> rfl

/-- A command builds one more vocabulary or is one action on one that exists. -/
theorem step_vocabularies (s : Session) (command : Command) :
    (∃ ds, (s.step command).2.vocabularies = s.vocabularies ++ [(Vocabulary.build ds).vocabulary]) ∨
      ∃ id action, (s.step command).2.vocabularies =
        s.vocabularies.set id ((s.vocabulary id).after action) := by
  have hsame : ∀ t : Session, t.vocabularies = s.vocabularies → ∃ id action,
      t.vocabularies = s.vocabularies.set id ((s.vocabulary id).after action) := by
    intro t ht
    exact ⟨0, .state, ht.trans (set_vocabulary_self s 0).symm⟩
  cases command with
  | create name operators =>
    simp only [step, create]
    split
    · exact Or.inr (hsame s rfl)
    · rename_i ds _
      split
      · exact Or.inr (hsame _ rfl)
      · exact Or.inl ⟨ds, rfl⟩
  | act target action =>
    refine Or.inr ?_
    simp only [step]
    split
    · exact ⟨_, action, actOnVocabulary_vocabularies s _ action⟩
    · exact hsame _ (actOnStream_vocabularies s _ _ action)
    · split
      · exact hsame _ (actOnLexer_vocabularies s _ _ action)
      · exact hsame _ rfl
    · exact hsame _ rfl

theorem step_vocabulary (hid : id < s.vocabularies.length) (command : Command) :
    id < (s.step command).2.vocabularies.length ∧
      ∃ action, (s.step command).2.vocabulary id = (s.vocabulary id).after action := by
  rcases step_vocabularies s command with ⟨ds, h⟩ | ⟨i, action, h⟩
  · refine ⟨by simp [h]; omega, .state, ?_⟩
    simp [vocabulary, h, List.getElem?_append_left hid]
    rfl
  · refine ⟨by simpa [h] using hid, ?_⟩
    by_cases hi : i = id
    · subst hi
      exact ⟨action, by simp [vocabulary, h, hid]⟩
    · refine ⟨.state, ?_⟩
      simp [vocabulary, h, List.getElem?_set_ne hi]
      rfl

theorem step_used (hused : (s.vocabulary id).frozen = true) (command : Command) :
    (s.step command).2.vocabulary id = s.vocabulary id := by
  have hid : id < s.vocabularies.length := by
    by_contra hno
    simp [vocabulary, Nat.not_lt.mp hno, Vocabulary.empty] at hused
  obtain ⟨-, action, h⟩ := step_vocabulary hid command
  rw [h, Vocabulary.after_used hused]

theorem run_used (hused : (s.vocabulary id).frozen = true) (commands : List Command) :
    (s.run commands).2.vocabulary id = s.vocabulary id := by
  induction commands generalizing s with
  | nil => rfl
  | cons command commands ih =>
    have hstep := step_used hused command
    exact (ih (hstep ▸ hused)).trans hstep

end Vocabularies

section Bindings

theorem Sound.vocabulary (h : s.Sound) (id : Nat) : (s.vocabulary id).Reachable := by
  by_cases hid : id < s.vocabularies.length
  · simpa [Session.vocabulary, hid] using h.reachable _ (List.getElem_mem hid)
  · simpa [Session.vocabulary, Nat.not_lt.mp hid] using Vocabulary.Reachable.empty

theorem Sound.lt_of_lookup (h : s.Sound) {name : Text}
    (hname : s.bindings.lookup name = some (.vocabulary id)) : id < s.vocabularies.length := by
  obtain ⟨before, after, hbindings, -⟩ := List.lookup_eq_some_iff.mp hname
  exact h.bound name id (by simp [hbindings])

theorem register_bindings (s : Session) (id : Nat) (r : Registration) :
    (s.register id r).2.bindings = s.bindings := by
  unfold register
  split <;> rfl

/-- An action gives a name to at most one thing, which is no vocabulary. -/
theorem act_bindings (s : Session) (target : Text) (action : Action) :
    (s.step (.act target action)).2.bindings = s.bindings ∨
      ∃ name b, (s.step (.act target action)).2.bindings = (name, b) :: s.bindings ∧
        ∀ id, b ≠ .vocabulary id := by
  simp only [step]
  split
  · cases action with
    | add d => exact Or.inl (register_bindings s _ _)
    | addAll items =>
      refine Or.inl ?_
      simp only [actOnVocabulary]
      split
      · rfl
      · exact register_bindings s _ _
    | stream source name => exact Or.inr ⟨name, _, rfl, by simp⟩
    | lexer source name => exact Or.inr ⟨name, _, rfl, by simp⟩
    | _ => exact Or.inl rfl
  · cases action with
    | iterate name => exact Or.inr ⟨name, _, rfl, by simp⟩
    | _ => exact Or.inl rfl
  · split
    · cases action with
      | iterate name => exact Or.inr ⟨name, _, rfl, by simp⟩
      | _ => exact Or.inl rfl
    · exact Or.inl rfl
  · exact Or.inl rfl

theorem create_bindings (s : Session) (name : Text) (operators : Datum) :
    (s.create name operators).2.bindings = s.bindings ∨
      (s.create name operators).2.bindings =
          (name, .vocabulary s.vocabularies.length) :: s.bindings ∧
        s.vocabularies.length < (s.create name operators).2.vocabularies.length := by
  unfold create
  split
  · exact Or.inl rfl
  · dsimp only
    split
    · exact Or.inl rfl
    · exact Or.inr ⟨rfl, by simp [addVocabulary, bind, record]⟩

theorem Sound.step (h : s.Sound) (command : Command) : (s.step command).2.Sound where
  reachable := by
    intro v hv
    rcases step_vocabularies s command with ⟨ds, heq⟩ | ⟨i, action, heq⟩ <;> rw [heq] at hv
    · rcases List.mem_append.mp hv with hv | hv
      · exact h.reachable v hv
      · exact List.mem_singleton.mp hv ▸ Vocabulary.reachable_build ds
    · rcases List.mem_or_eq_of_mem_set hv with hv | rfl
      · exact h.reachable v hv
      · exact (h.vocabulary i).after action
  bound := by
    intro name id hname
    have hgrows : s.vocabularies.length ≤ (s.step command).2.vocabularies.length := by
      rcases step_vocabularies s command with ⟨ds, heq⟩ | ⟨i, action, heq⟩ <;> simp [heq]
    cases command with
    | create new operators =>
      rcases create_bindings s new operators with heq | ⟨heq, hlen⟩ <;>
        rw [Session.step, heq] at hname
      · exact (h.bound name id hname).trans_le hgrows
      · rcases List.mem_cons.mp hname with hnew | hold
        · rwa [Binding.vocabulary.inj (Prod.mk.inj hnew).2]
        · exact (h.bound name id hold).trans_le hgrows
    | act target action =>
      rcases act_bindings s target action with heq | ⟨new, b, heq, hb⟩ <;> rw [heq] at hname
      · exact (h.bound name id hname).trans_le hgrows
      · rcases List.mem_cons.mp hname with hnew | hold
        · exact absurd (Prod.mk.inj hnew).2.symm (hb id)
        · exact (h.bound name id hold).trans_le hgrows

theorem Sound.run (h : s.Sound) (commands : List Command) : (s.run commands).2.Sound := by
  induction commands generalizing s with
  | nil => exact h
  | cons command commands ih => exact ih (h.step command)

theorem sound_of_leads (h : empty.Leads s) : s.Sound := by
  obtain ⟨commands, rfl⟩ := h
  have hempty : empty.Sound := ⟨by simp [empty], by simp [empty]⟩
  exact hempty.run commands

end Bindings

section Lexers

variable {vocabulary : Nat} {l : Lexer}

theorem register_lexers (s : Session) (id : Nat) (r : Registration) :
    (s.register id r).2.lexers = s.lexers := by
  unfold register
  split <;> rfl

theorem actOnVocabulary_lexers (s : Session) (id : Nat) (action : Action) :
    s.lexers <+: (s.actOnVocabulary id action).2.lexers := by
  cases action with
  | add d =>
    rw [actOnVocabulary, register_lexers]
  | addAll items =>
    simp only [actOnVocabulary]
    split
    · exact List.prefix_refl _
    · rw [register_lexers]
  | lexer source name => exact List.prefix_append _ _
  | _ => exact List.prefix_refl _

theorem actOnStream_lexers (s : Session) (id : Nat) (source : Text) (action : Action) :
    s.lexers <+: (s.actOnStream id source action).2.lexers := by
  cases action with
  | iterate name => exact List.prefix_append _ _
  | _ => exact List.prefix_refl _

theorem create_lexers (s : Session) (name : Text) (operators : Datum) :
    (s.create name operators).2.lexers = s.lexers := by
  unfold create
  split
  · rfl
  · dsimp only
    split <;> rfl

theorem getElem?_of_prefix {first second : List (Nat × Lexer)} {entry : Nat × Lexer}
    (h : first <+: second) (hn : first[n]? = some entry) : second[n]? = some entry := by
  obtain ⟨more, rfl⟩ := h
  rw [List.getElem?_append_left (List.getElem?_eq_some_iff.mp hn).1, hn]

theorem actOnLexer_reply (s : Session) (n vocabulary : Nat) (l : Lexer) (action : Action) :
    (s.actOnLexer n (vocabulary, l) action).1 =
      (l.asked (s.vocabulary vocabulary) action).answer action := by
  cases action with
  | next =>
    simp only [actOnLexer, Lexer.asked, Lexer.limit, Lexer.take]
    split <;> rename_i h <;> rw [h] <;> rfl
  | _ => rfl

theorem actOnLexer_lexers (hn : s.lexers[n]? = some (vocabulary, l)) (action : Action) :
    (s.actOnLexer n (vocabulary, l) action).2.lexers =
      s.lexers.set n (vocabulary, (l.asked (s.vocabulary vocabulary) action).lexer) := by
  have hself : s.lexers.set n (vocabulary, l) = s.lexers := by
    obtain ⟨hlt, hget⟩ := List.getElem?_eq_some_iff.mp hn
    rw [← hget, List.set_getElem_self]
  cases action with
  | next =>
    simp only [actOnLexer, Lexer.asked, Lexer.limit, Lexer.take]
    split <;> rename_i h <;> rw [h] <;> rfl
  | take k => rfl
  | drain => rfl
  | _ => exact hself.symm

theorem step_lexer {name : Text} (hname : s.bindings.lookup name = some (.lexer n))
    (hn : s.lexers[n]? = some (vocabulary, l)) (action : Action) :
    s.step (.act name action) = s.actOnLexer n (vocabulary, l) action := by
  simp only [step, hname, hn]

theorem step_of_not_directed (hn : s.lexers[n]? = some (vocabulary, l))
    (h : s.directed n command = none) :
    (s.step command).2.lexers[n]? = some (vocabulary, l) := by
  cases command with
  | create name operators => rwa [step, create_lexers]
  | act target action =>
    simp only [directed] at h
    simp only [step]
    cases hb : s.bindings.lookup target with
    | none => exact hn
    | some b =>
      cases b with
      | vocabulary id => exact getElem?_of_prefix (actOnVocabulary_lexers s id action) hn
      | stream id source => exact getElem?_of_prefix (actOnStream_lexers s id source action) hn
      | lexer m =>
        have hm : m ≠ n := by
          intro heq
          simp [hb, heq] at h
        dsimp only
        cases hentry : s.lexers[m]? with
        | none => exact hn
        | some entry =>
          dsimp only
          rw [actOnLexer_lexers hentry action, List.getElem?_set_ne hm, hn]

/-- A lexer replies to what is directed at it as it would alone, with its vocabulary of the
moment. -/
theorem step_of_directed (hn : s.lexers[n]? = some (vocabulary, l))
    (h : s.directed n command = some action) :
    let walk := l.asked (s.vocabulary vocabulary) action
    (s.step command).1 = walk.answer action ∧
      (s.step command).2.lexers[n]? = some (vocabulary, walk.lexer) := by
  cases command with
  | create name operators => cases h
  | act target action' =>
    simp only [directed] at h
    cases hb : s.bindings.lookup target with
    | none => simp [hb] at h
    | some b =>
      cases b with
      | vocabulary id => simp [hb] at h
      | stream id source => simp [hb] at h
      | lexer m =>
        simp only [hb, Option.ite_none_right_eq_some, Option.some.injEq] at h
        obtain ⟨rfl, rfl⟩ := h
        have hlt := (List.getElem?_eq_some_iff.mp hn).1
        rw [step_lexer hb hn]
        refine ⟨actOnLexer_reply s m vocabulary l action', ?_⟩
        rw [actOnLexer_lexers hn, List.getElem?_set_self hlt]

theorem exchanges_of_directed (hn : s.lexers[n]? = some (vocabulary, l))
    (h : s.directed n command = some action) (rest : List Command) :
    let walk := l.asked (s.vocabulary vocabulary) action
    s.exchanges n (command :: rest) =
      ⟨action, walk.answer action, walk⟩ :: (s.step command).2.exchanges n rest := by
  simp only [exchanges, h, hn, (step_of_directed hn h).1]

theorem exchanges_of_not_directed (h : s.directed n command = none) (rest : List Command) :
    s.exchanges n (command :: rest) = (s.step command).2.exchanges n rest := by
  simp only [exchanges, h]

theorem reply_of_mem_exchanges {commands : List Command} {e : Exchange}
    (he : e ∈ s.exchanges n commands) : e.reply = e.walk.answer e.action := by
  induction commands generalizing s with
  | nil => cases he
  | cons command commands ih =>
    simp only [exchanges] at he
    split at he
    · rename_i hdirected hn
      rcases List.mem_cons.mp he with rfl | he
      · exact (step_of_directed hn hdirected).1
      · exact ih he
    · exact ih he

end Lexers

end Session

end ExprLexer
