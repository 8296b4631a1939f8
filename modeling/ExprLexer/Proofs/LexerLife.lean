import ExprLexer.Proofs.SessionSteps
import ExprLexer.Proofs.TokenBoundaries

/-!
# The life of a lexer

A lexer that is opened on a vocabulary may be pulled while operators are still registered. Its
position only moves forward, and with every token it does; a pull is the first pull of a new lexer
over what is left, with the operators of that moment. The first pull that gives no token is the end:
nothing that is registered later brings the lexer back.
-/

namespace ExprLexer

def Pull.shift (n : Nat) : Pull → Pull
  | .failure f => .failure { f with position := n + f.position }
  | pull => pull

namespace Lexer

def shift (n : Nat) (l : Lexer) : Lexer :=
  { l with position := n + l.position }

/-- The lexer stands in the source and has before it what the source holds from there on. -/
structure Within (source : Text) (l : Lexer) : Prop where
  position_le : l.position ≤ source.length
  rest_eq : l.rest = source.drop l.position

/-- Where a pull can take the lexer, and how much of what is left it passes over. -/
inductive Outcome (l : Lexer) : Pull → Lexer → Prop
  | ended : l.live = false → Outcome l .stop l
  | stop : l.live = true → Outcome l .stop ⟨l.position + l.rest.length, [], false⟩
  | failure {gap rest f} : l.live = true → l.rest = gap ++ rest →
      Outcome l (.failure ⟨f, l.position + gap.length, rest⟩)
        ⟨l.position + gap.length, rest, false⟩
  | token {gap raw rest t} : l.live = true → l.rest = gap ++ (raw ++ rest) → raw ≠ [] →
      Outcome l (.token t) ⟨l.position + gap.length + raw.length, rest, true⟩

/-- Pulls lead from the first lexer to the other, over these tokens with the positions after them.
If `clean` holds then each of the pulls gave one. -/
structure Passes (source : Text) (l : Lexer) (tokens : List (Token × Nat)) (clean : Prop)
    (next : Lexer) : Prop where
  within : l.Within source → next.Within source
  ascending : (l.position :: tokens.map Prod.snd).Pairwise (· < ·)
  reached : ∀ p ∈ l.position :: tokens.map Prod.snd, p ≤ next.position
  count_le : l.position + tokens.length ≤ next.position
  live_iff : next.live = true ↔ l.live = true ∧ clean

variable {v : Vocabulary} {source : Text} {l next last : Lexer} {t : Token}

theorem pull_outcome (hv : v.Filed) (l : Lexer) : l.Outcome (l.pull v).1 (l.pull v).2 := by
  obtain ⟨position, rest, live⟩ := l
  cases live with
  | false => exact .ended rfl
  | true =>
    obtain ⟨segments, gap, remnant, h⟩ := hv.exists_scans rest
    cases h with
    | stop hgap =>
      have hpull := pull_skip (v := v) hgap [] position
      rw [List.append_nil, pull_end] at hpull
      rw [hpull]
      exact .stop rfl
    | fault hgap hread =>
      rw [pull_skip hgap, hread.pull_failure hv]
      exact .failure rfl rfl
    | token hgap hread _ =>
      rw [pull_skip hgap, hread.pull_token hv]
      exact .token rfl rfl (hread.raw_ne_nil hv.nil_not_mem)

theorem pull_shift (v : Vocabulary) (n : Nat) (l : Lexer) :
    (l.shift n).pull v = ((l.pull v).1.shift n, (l.pull v).2.shift n) := by
  obtain ⟨position, rest, live⟩ := l
  cases live with
  | false => rfl
  | true =>
    simp only [pull, shift, if_true]
    split
    · simp [Pull.shift, Nat.add_assoc]
    · split <;> simp [Pull.shift, Nat.add_assoc]

theorem Within.move (h : l.Within source) {passed rest : Text} (hrest : l.rest = passed ++ rest)
    (live : Bool) : (Lexer.mk (l.position + passed.length) rest live).Within source := by
  have hdrop : source.drop l.position = passed ++ rest := h.rest_eq.symm.trans hrest
  constructor
  · have hlen := congrArg List.length hdrop
    rw [List.length_drop, List.length_append] at hlen
    have := h.position_le
    dsimp only
    omega
  · rw [← List.drop_drop, hdrop, List.drop_left]

namespace Passes

variable {first second : List (Token × Nat)} {clean clean' : Prop}

theorem refl (source : Text) (l : Lexer) : l.Passes source [] True l := by
  constructor <;> simp

theorem trans (h : l.Passes source first clean next) (h' : next.Passes source second clean' last) :
    l.Passes source (first ++ second) (clean ∧ clean') last where
  within hl := h'.within (h.within hl)
  ascending := by
    rw [List.map_append, ← List.cons_append]
    refine List.pairwise_append.mpr ⟨h.ascending, h'.ascending.of_cons, ?_⟩
    intro p hp q hq
    exact (h.reached p hp).trans_lt (List.rel_of_pairwise_cons h'.ascending hq)
  reached := by
    intro p hp
    rw [List.map_append, ← List.cons_append] at hp
    rcases List.mem_append.mp hp with hp | hp
    · exact (h.reached p hp).trans (h'.reached _ List.mem_cons_self)
    · exact h'.reached p (List.mem_cons_of_mem _ hp)
  count_le := by
    have hfirst := h.count_le
    have hsecond := h'.count_le
    rw [List.length_append]
    omega
  live_iff := by rw [h'.live_iff, h.live_iff, and_assoc]

theorem congr (h : l.Passes source first clean next) (hclean : clean ↔ clean') :
    l.Passes source first clean' next :=
  propext hclean ▸ h

theorem of_token (h : l.Outcome (.token t) next) :
    l.Passes source [(t, next.position)] True next := by
  cases h with
  | @token gap raw rest _ hl hrest hraw =>
    have hlen := List.length_pos_iff.mpr hraw
    constructor
    case within =>
      intro hw
      have hsplit : l.rest = (gap ++ raw) ++ rest := by rw [hrest, List.append_assoc]
      have hmove := hw.move hsplit true
      rwa [List.length_append, ← Nat.add_assoc] at hmove
    case ascending => simp; omega
    case reached => simp; omega
    case count_le => simp; omega
    case live_iff => simp [hl]

theorem of_end {p : Pull} (h : l.Outcome p next) (hp : ∀ t, p ≠ .token t) :
    l.Passes source [] False next := by
  cases h with
  | ended hl => constructor <;> simp [hl]
  | stop hl =>
    constructor
    case within => exact fun hw => hw.move (List.append_nil _).symm false
    all_goals simp [hl]
  | @failure gap rest f hl hrest =>
    constructor
    case within => exact fun hw => hw.move hrest false
    all_goals simp [hl]
  | token => exact absurd rfl (hp _)

end Passes

theorem take_passes (hv : v.Filed) (source : Text) (n : Nat) (l : Lexer) :
    l.Passes source (l.take v n).tokens ((l.take v n).ending = .limit) (l.take v n).lexer := by
  induction n generalizing l with
  | zero => exact (Passes.refl source l).congr (by simp [take])
  | succ n ih =>
    have houtcome := pull_outcome hv l
    simp only [take]
    -- a token goes before those of the other pulls, and there are no others without one
    split <;> rename_i next hpull <;> rw [hpull] at houtcome
    · exact ((Passes.of_token houtcome).trans (ih next)).congr (by simp)
    · exact (Passes.of_end houtcome (by simp)).congr (by simp)
    · exact (Passes.of_end houtcome (by simp)).congr (by simp)

theorem take_shift (v : Vocabulary) (n k : Nat) (l : Lexer) :
    (l.shift n).take v k = (l.take v k).shift n := by
  induction k generalizing l with
  | zero => rfl
  | succ k ih =>
    have hshift := pull_shift v n l
    rcases hpull : l.pull v with ⟨p, next⟩
    rw [hpull] at hshift
    cases p with
    | token t =>
      rw [take_of_token hpull, take_of_token hshift, ih]
      rfl
    | stop =>
      simp only [take, hpull, hshift]
      rfl
    | failure f =>
      simp only [take, hpull, hshift]
      rfl

theorem take_ended (hl : l.live = false) (v : Vocabulary) (n : Nat) :
    l.take v n = ⟨[], if n = 0 then .limit else .stop, l⟩ := by
  cases n with
  | zero => rfl
  | succ n => simp [take, pull, hl]

theorem eq_shift_start (hl : l.live = true) : l = (start l.rest).shift l.position := by
  obtain ⟨position, rest, live⟩ := l
  cases hl
  rfl

theorem pull_of_live (hl : l.live = true) (v : Vocabulary) :
    l.pull v = (((start l.rest).pull v).1.shift l.position,
      ((start l.rest).pull v).2.shift l.position) := by
  have h := pull_shift v l.position (start l.rest)
  rwa [← eq_shift_start hl] at h

theorem take_of_live (hl : l.live = true) (v : Vocabulary) (k : Nat) :
    l.take v k = ((start l.rest).take v k).shift l.position := by
  have h := take_shift v l.position k (start l.rest)
  rwa [← eq_shift_start hl] at h

theorem Outcome.lt_of_reply {p : Pull} {position : Nat} (h : l.Outcome p next)
    (hreply : Reply.ofPull p next = .token t position) : l.position < position := by
  cases h with
  | @token gap raw rest _ _ _ hraw =>
    have hlen := List.length_pos_iff.mpr hraw
    cases hreply
    dsimp only
    omega
  | _ => cases hreply

theorem Outcome.ended_of_reply {p : Pull} (h : l.Outcome p next)
    (hreply : ∀ t position, Reply.ofPull p next ≠ .token t position) : next.live = false := by
  cases h with
  | ended hl => exact hl
  | token => exact absurd rfl (hreply _ _)
  | _ => rfl

end Lexer

namespace Session

open Lexer (Passes)

variable {s : Session} {n id : Nat} {source : Text} {l : Lexer} {name : Text}

/-- What is known of a lexer over `source` and its vocabulary after all that was asked of it. -/
structure Life (s : Session) (n id : Nat) (source : Text) (talk : List Exchange) (l : Lexer) :
    Prop where
  entry : s.lexers[n]? = some (id, l)
  position_le : l.position ≤ source.length
  rest_eq : l.rest = source.drop l.position
  /-- The walks made are what was replied. -/
  reply_eq : ∀ e ∈ talk, e.reply = e.walk.answer e.action
  ascending : (0 :: (talk.flatMap fun e => e.walk.tokens).map Prod.snd).Pairwise (· < ·)
  reached : ∀ m ∈ talk.flatMap fun e => e.walk.tokens, m.2 ≤ l.position
  count_le : (talk.flatMap fun e => e.walk.tokens).length ≤ source.length
  live_iff : l.live = true ↔ ∀ e ∈ talk, e.walk.ending = .limit
  /-- While the lexer is live, it is pulled as a new one over what is left. -/
  next_eq : l.live = true → ∀ name, s.bindings.lookup name = some (.lexer n) →
    let (p, after) := (Lexer.start l.rest).pull (s.vocabulary id)
    s.step (.act name .next) = (.ofPull (p.shift l.position) (after.shift l.position),
      s.setLexer n (id, after.shift l.position))
  take_eq : l.live = true → ∀ name, s.bindings.lookup name = some (.lexer n) → ∀ k,
    let w := ((Lexer.start l.rest).take (s.vocabulary id) k).shift l.position
    s.step (.act name (.take k)) = (.walk w, s.setLexer n (id, w.lexer))
  drain_eq : l.live = true → ∀ name, s.bindings.lookup name = some (.lexer n) →
    let w := ((s.vocabulary id).walk l.rest).shift l.position
    s.step (.act name .drain) = (.ofResult w.result, s.setLexer n (id, w.lexer))
  progress : ∀ name, s.bindings.lookup name = some (.lexer n) → ∀ t p,
    (s.step (.act name .next)).1 = .token t p → l.position < p
  halted : ∀ name, s.bindings.lookup name = some (.lexer n) →
    (∀ t p, (s.step (.act name .next)).1 ≠ .token t p) →
      ∃ after, (s.step (.act name .next)).2.lexers[n]? = some (id, after) ∧ after.live = false
  /-- A lexer that is not live is where it is for good. -/
  ended : l.live = false → ∀ later, (s.run later).2.lexers[n]? = some (id, l) ∧
    ∀ e ∈ s.exchanges n later,
      (e.action = .next → e.reply = .stopped l.position) ∧
      (e.action = .drain → e.reply = .tokens []) ∧
      ∀ k, e.action = .take (k + 1) → e.reply = .walk ⟨[], .stop, l⟩

theorem run_passes (hs : s.Sound) (hn : s.lexers[n]? = some (id, l)) (source : Text)
    (commands : List Command) : ∃ last, (s.run commands).2.lexers[n]? = some (id, last) ∧
      l.Passes source ((s.exchanges n commands).flatMap fun e => e.walk.tokens)
        (∀ e ∈ s.exchanges n commands, e.walk.ending = .limit) last := by
  induction commands generalizing s l with
  | nil => exact ⟨l, hn, (Passes.refl source l).congr (by simp [exchanges])⟩
  | cons command commands ih =>
    cases hdirected : s.directed n command with
    | none =>
      rw [exchanges_of_not_directed hdirected]
      exact ih (hs.step command) (step_of_not_directed hn hdirected)
    | some action =>
      have hv := (hs.vocabulary id).filed
      obtain ⟨last, hlast, hrest⟩ := ih (hs.step command) (step_of_directed hn hdirected).2
      refine ⟨last, hlast, ?_⟩
      rw [exchanges_of_directed hn hdirected]
      have hfirst := Lexer.take_passes hv source (l.limit action) l
      exact (hfirst.trans hrest).congr (by simp [Lexer.asked])

theorem run_ended (hn : s.lexers[n]? = some (id, l)) (hl : l.live = false)
    (commands : List Command) : (s.run commands).2.lexers[n]? = some (id, l) ∧
      ∀ e ∈ s.exchanges n commands, ∀ v, e.walk = l.asked v e.action := by
  induction commands generalizing s with
  | nil => exact ⟨hn, by simp [exchanges]⟩
  | cons command commands ih =>
    cases hdirected : s.directed n command with
    | none =>
      rw [exchanges_of_not_directed hdirected]
      exact ih (step_of_not_directed hn hdirected)
    | some action =>
      -- no vocabulary matters to a lexer that has ended
      have hsame : ∀ v, l.asked (s.vocabulary id) action = l.asked v action := by
        intro v
        rw [Lexer.asked, Lexer.asked, Lexer.take_ended hl, Lexer.take_ended hl]
      have hlexer : (l.asked (s.vocabulary id) action).lexer = l := by
        rw [Lexer.asked, Lexer.take_ended hl]
      have hnext := (step_of_directed hn hdirected).2
      rw [hlexer] at hnext
      obtain ⟨hlast, hrest⟩ := ih hnext
      refine ⟨hlast, ?_⟩
      rw [exchanges_of_directed hn hdirected]
      exact List.forall_mem_cons.mpr ⟨hsame, hrest⟩

theorem life_of_passes (hs : s.Sound) (hn : s.lexers[n]? = some (id, l)) {talk : List Exchange}
    (hreply : ∀ e ∈ talk, e.reply = e.walk.answer e.action)
    (h : (Lexer.start source).Passes source (talk.flatMap fun e => e.walk.tokens)
      (∀ e ∈ talk, e.walk.ending = .limit) l) :
    s.Life n id source talk l := by
  have hv := (hs.vocabulary id).filed
  have hwithin : l.Within source := h.within ⟨Nat.zero_le _, rfl⟩
  constructor
  case entry => exact hn
  case position_le => exact hwithin.position_le
  case rest_eq => exact hwithin.rest_eq
  case reply_eq => exact hreply
  case ascending => exact h.ascending
  case reached =>
    intro m hm
    exact h.reached m.2 (List.mem_cons_of_mem _ (List.mem_map_of_mem hm))
  case count_le =>
    have hcount := h.count_le
    rw [Lexer.start, Nat.zero_add] at hcount
    exact hcount.trans hwithin.position_le
  case live_iff => simpa [Lexer.start] using h.live_iff
  case next_eq =>
    intro hl name hname
    simp only [step_lexer hname hn, actOnLexer, Lexer.pull_of_live hl]
  case take_eq =>
    intro hl name hname k
    simp only [step_lexer hname hn, actOnLexer, Lexer.take_of_live hl]
  case drain_eq =>
    intro hl name hname
    simp only [step_lexer hname hn, actOnLexer, Lexer.walk, Lexer.take_of_live hl]
    rfl
  case progress =>
    intro name hname t p hreply
    rw [step_lexer hname hn] at hreply
    exact (Lexer.pull_outcome hv l).lt_of_reply hreply
  case halted =>
    intro name hname hreply
    rw [step_lexer hname hn] at hreply ⊢
    have hlt := (List.getElem?_eq_some_iff.mp hn).1
    refine ⟨(l.pull (s.vocabulary id)).2, ?_, (Lexer.pull_outcome hv l).ended_of_reply hreply⟩
    simp [actOnLexer, setLexer, hlt]
  case ended =>
    intro hl later
    obtain ⟨hlast, hwalks⟩ := run_ended hn hl later
    refine ⟨hlast, ?_⟩
    intro e he
    have hanswer := reply_of_mem_exchanges he
    rw [hwalks e he .empty, Lexer.asked, Lexer.take_ended hl] at hanswer
    refine ⟨?_, ?_, ?_⟩
    · intro haction
      rw [hanswer, haction]
      rfl
    · intro haction
      rw [hanswer, haction]
      rfl
    · intro k haction
      rw [hanswer, haction]
      rfl

end Session

/-- A lexer that a vocabulary opens is pulled while operators come in, under whatever names it has.
At every moment it stands in its source; every token takes it forward; and the first pull that gives
none is the last that does anything. -/
theorem lexer_advances_until_first_stop {s : Session} (hs : Session.empty.Leads s)
    {config : Text} {id : Nat} (hconfig : s.bindings.lookup config = some (.vocabulary id))
    (source name : Text) (commands : List Command) :
    let opened := (s.step (.act config (.lexer source name))).2
    let n := s.lexers.length
    opened.bindings.lookup name = some (.lexer n) ∧
      ∃ l, (opened.run commands).2.Life n id source (opened.exchanges n commands) l := by
  intro opened n
  have hsound : opened.Sound := (Session.sound_of_leads hs).step _
  have hopened : opened = s.addLexer name id (.start source) := by
    simp only [opened, Session.step, hconfig, Session.actOnVocabulary]
  have hn : opened.lexers[n]? = some (id, .start source) := by
    simp [hopened, n, Session.addLexer, Session.bind]
  obtain ⟨l, hl, hpasses⟩ := Session.run_passes hsound hn source commands
  refine ⟨by simp [hopened, Session.addLexer, Session.bind, n], l, ?_⟩
  have hreply : ∀ e ∈ opened.exchanges n commands, e.reply = e.walk.answer e.action :=
    fun e he => Session.reply_of_mem_exchanges he
  exact Session.life_of_passes (hsound.run commands) hl hreply hpasses

/-- An operator that is registered between two pulls counts for the second. One that is registered
after a failure does not bring the lexer back. -/
theorem lexer_advances_until_first_stop_of_late_operators :
    let s := (Session.empty.run [.create "config" (.list [])]).2
    let opened := (s.step (.act "config" (.lexer "a ?= ?b" "lexer"))).2
    let commands := [.act "lexer" .next, .act "config" (.add (.text "?=")), .act "lexer" .next,
      .act "lexer" .next, .act "config" (.add (.text "?")), .act "lexer" .next]
    (opened.run commands).1 = [.token ⟨.symbol, "a"⟩ 1, .done, .token ⟨.operator, "?="⟩ 4,
        .failed (.diagnostic (.ofFailure ⟨.unrecognized, 5, "?b"⟩)), .done, .stopped 5] ∧
      ∃ l, (opened.run commands).2.Life 0 0 "a ?= ?b" (opened.exchanges 0 commands) l ∧
        l = ⟨5, "?b", false⟩ := by
  intro s opened commands
  have hs : Session.empty.Leads s := ⟨_, rfl⟩
  have hconfig : s.bindings.lookup ("config" : Text) = some (.vocabulary 0) := by rfl
  obtain ⟨-, l, hlife⟩ := lexer_advances_until_first_stop hs hconfig "a ?= ?b" "lexer" commands
  refine ⟨by rfl, l, hlife, ?_⟩
  have hentry : (opened.run commands).2.lexers[0]? = some (0, ⟨5, "?b", false⟩) := by rfl
  exact (Prod.mk.inj (Option.some.inj (hlife.entry.symm.trans hentry))).2

end ExprLexer
