import ExprLexer.Proofs.LexerLife

/-!
# Streams are isolated

A stream freezes its vocabulary, so a lexer over it is answered as if it were alone with the
operators that were registered when the stream was made, whatever else goes on in the session. The
pulls that its actions make, split in whatever way, give the beginning of the one walk over the
source.
-/

namespace ExprLexer

def Walk.results (w : Walk) : List (Pull × Nat) :=
  w.tokens.map (fun (t, position) => (.token t, position)) ++
    match w.ending with
    | .stop => [(.stop, w.lexer.position)]
    | .failure f => [(.failure f, w.lexer.position)]
    | .limit => []

namespace Lexer

/-- The exchanges of a lexer that is alone with its vocabulary. -/
def exchanges (v : Vocabulary) (l : Lexer) : List Action → List Exchange
  | [] => []
  | action :: rest =>
    let walk := l.asked v action
    ⟨action, walk.answer action, walk⟩ :: walk.lexer.exchanges v rest

/-- Pulled as often as there are results, the first lexer gives them and becomes the other. -/
inductive Gives (v : Vocabulary) : Lexer → List (Pull × Nat) → Lexer → Prop
  | nothing {l} : Gives v l [] l
  | pull {l p next results last} : l.pull v = (p, next) → Gives v next results last →
      Gives v l ((p, next.position) :: results) last

variable {v : Vocabulary} {l next last : Lexer} {first second : List (Pull × Nat)}

namespace Gives

theorem trans (h : Gives v l first next) (h' : Gives v next second last) :
    Gives v l (first ++ second) last := by
  induction h with
  | nothing => exact h'
  | pull hpull _ ih => exact .pull hpull (ih h')

theorem prefix_of_le (h : Gives v l first next) (h' : Gives v l second last)
    (hle : first.length ≤ second.length) : first <+: second := by
  induction h generalizing second with
  | nothing => exact List.nil_prefix
  | pull hpull _ ih =>
    cases h' with
    | nothing => cases hle
    | pull hpull' h' =>
      obtain ⟨rfl, rfl⟩ := Prod.mk.inj (hpull.symm.trans hpull')
      exact List.cons_prefix_cons.mpr ⟨rfl, ih h' (Nat.le_of_succ_le_succ hle)⟩

theorem of_ended (hl : l.live = false) (k : Nat) :
    Gives v l (List.replicate k (.stop, l.position)) l := by
  induction k with
  | zero => exact .nothing
  | succ k ih => exact .pull (by simp [Lexer.pull, hl]) ih

end Gives

theorem take_gives (v : Vocabulary) (l : Lexer) (n : Nat) :
    Gives v l (l.take v n).results (l.take v n).lexer := by
  induction n generalizing l with
  | zero => exact .nothing
  | succ n ih =>
    simp only [take]
    split <;> rename_i hpull
    · exact .pull hpull (ih _)
    · exact .pull hpull .nothing
    · exact .pull hpull .nothing

theorem exchanges_give (v : Vocabulary) (l : Lexer) (actions : List Action) :
    ∃ last, Gives v l ((l.exchanges v actions).flatMap fun e => e.walk.results) last := by
  induction actions generalizing l with
  | nil => exact ⟨l, .nothing⟩
  | cons action actions ih =>
    obtain ⟨last, hrest⟩ := ih (l.asked v action).lexer
    exact ⟨last, (take_gives v l (l.limit action)).trans hrest⟩

theorem Gives.prefix_walk (hv : v.Filed) {source : Text} (h : Gives v (start source) first next) :
    ∃ k, first <+: (v.walk source).results ++
      List.replicate k (.stop, (v.walk source).lexer.position) := by
  have hended : (v.walk source).lexer.live = false := by
    obtain ⟨segments, gap, remnant, hscans⟩ := hv.exists_scans source
    rw [hscans.walk_eq hv]
    rfl
  -- with a stop for each result more than enough pulls are made
  have hall := (take_gives v (start source) (source.length + 1)).trans
    (.of_ended hended first.length)
  refine ⟨first.length, h.prefix_of_le hall ?_⟩
  rw [List.length_append, List.length_replicate]
  exact Nat.le_add_left _ _

theorem take_frozen (v : Vocabulary) (l : Lexer) (n : Nat) :
    l.take { v with frozen := true } n = l.take v n := by
  induction n generalizing l with
  | zero => rfl
  | succ n ih =>
    have hpull : l.pull { v with frozen := true } = l.pull v := rfl
    simp only [take, hpull, ih]

theorem exchanges_frozen (v : Vocabulary) (l : Lexer) (actions : List Action) :
    l.exchanges { v with frozen := true } actions = l.exchanges v actions := by
  induction actions generalizing l with
  | nil => rfl
  | cons action actions ih => simp only [exchanges, asked, take_frozen, ih]

end Lexer

namespace Session

variable {s t : Session} {n id : Nat} {l : Lexer} {config source name : Text}

theorem exchanges_of_used (hused : (s.vocabulary id).frozen = true)
    (hn : s.lexers[n]? = some (id, l)) (commands : List Command) :
    s.exchanges n commands =
      l.exchanges (s.vocabulary id) ((s.exchanges n commands).map Exchange.action) := by
  induction commands generalizing s l with
  | nil => rfl
  | cons command commands ih =>
    -- the lexer meets the same vocabulary after the step, whatever the command tries
    have hstep := step_used hused command
    have hused' : ((s.step command).2.vocabulary id).frozen = true := hstep ▸ hused
    cases hdirected : s.directed n command with
    | none =>
      rw [exchanges_of_not_directed hdirected]
      have hrest := ih hused' (step_of_not_directed hn hdirected)
      rwa [hstep] at hrest
    | some action =>
      have hrest := ih hused' (step_of_directed hn hdirected).2
      rw [hstep] at hrest
      rw [exchanges_of_directed hn hdirected, List.map_cons, Lexer.exchanges, ← hrest]

theorem stream_vocabulary (hs : s.Sound)
    (hconfig : s.bindings.lookup config = some (.vocabulary id)) (source name : Text) :
    (s.step (.act config (.stream source name))).2.vocabulary id =
      { s.vocabulary id with frozen := true } := by
  have hid := hs.lt_of_lookup hconfig
  have hstep : (s.step (.act config (.stream source name))).2.vocabularies =
      s.vocabularies.set id ((s.vocabulary id).after (.stream source name)) := by
    simp only [step, hconfig]
    exact actOnVocabulary_vocabularies s id (.stream source name)
  rw [vocabulary, hstep, List.getD_eq_getElem?_getD, List.getElem?_set_self hid, Option.getD_some,
    (s.vocabulary id).ages.use]

theorem Leads.used (h : s.Leads t) (hused : (s.vocabulary id).frozen = true) :
    t.vocabulary id = s.vocabulary id := by
  obtain ⟨commands, rfl⟩ := h
  exact run_used hused commands

end Session

/-- Whatever happens in a session, a lexer over a stream is answered as if it were alone with the
operators that its vocabulary had when the stream was made: its pulls give the beginning of the walk
over the source, and then stops. So does a list of the stream give that walk at any time. -/
theorem stream_isolated {s t : Session} (hs : Session.empty.Leads s) {config : Text} {id : Nat}
    (hconfig : s.bindings.lookup config = some (.vocabulary id)) {source streamName : Text}
    (ht : (s.step (.act config (.stream source streamName))).2.Leads t) {name : Text}
    (hname : t.bindings.lookup name = some (.stream id source)) (lexerName : Text)
    (commands : List Command) :
    let v := s.vocabulary id
    let opened := (t.step (.act name (.iterate lexerName))).2
    let talk := opened.exchanges t.lexers.length commands
    opened.bindings.lookup lexerName = some (.lexer t.lexers.length) ∧
      talk = (Lexer.start source).exchanges v (talk.map Exchange.action) ∧
      (∃ k, (talk.flatMap fun e => e.walk.results) <+:
        (v.walk source).results ++ List.replicate k (.stop, (v.walk source).lexer.position)) ∧
      (t.step (.act name .list)).1 = .ofResult (v.tokens source) := by
  intro v opened talk
  have hsound := Session.sound_of_leads hs
  have hstream := Session.stream_vocabulary hsound hconfig source streamName
  have hvocabulary : t.vocabulary id = { v with frozen := true } := by
    rw [ht.used (by rw [hstream]), hstream]
  have hopened : opened = t.addLexer lexerName id (.start source) := by
    simp only [opened, Session.step, hname, Session.actOnStream]
  have hused : opened.vocabulary id = { v with frozen := true } := by
    rw [hopened, ← hvocabulary]
    rfl
  have hn : opened.lexers[t.lexers.length]? = some (id, .start source) := by
    simp [hopened, Session.addLexer, Session.bind]
  have htalk : talk = (Lexer.start source).exchanges v (talk.map Exchange.action) := by
    have h := Session.exchanges_of_used (by rw [hused]) hn commands
    rwa [hused, Lexer.exchanges_frozen] at h
  refine ⟨by simp [hopened, Session.addLexer, Session.bind], htalk, ?_, ?_⟩
  · obtain ⟨last, hgives⟩ := Lexer.exchanges_give v (.start source) (talk.map Exchange.action)
    rw [← htalk] at hgives
    exact hgives.prefix_walk (hsound.vocabulary id).filed
  · simp only [Session.step, hname, Session.actOnStream, hvocabulary]
    rw [Vocabulary.tokens, Vocabulary.walk, Lexer.walk, Lexer.take_frozen]
    rfl

/-- Two lexers over one stream take turns, and in between an operator is refused that would match
where both come to fail. -/
theorem stream_isolated_of_two_lexers :
    let s := (Session.empty.run [.create "config" (.list [.text "<="])]).2
    let t := ((s.step (.act "config" (.stream "a<=b ?" "stream"))).2.run
      [.act "stream" (.iterate "old"), .act "old" (.take 2)]).2
    let opened := (t.step (.act "stream" (.iterate "new"))).2
    let commands := [.act "new" .next, .act "old" .drain, .act "config" (.add (.text "?")),
      .act "new" (.take 5), .act "old" .next, .act "new" .next]
    let talk := opened.exchanges 1 commands
    talk = (Lexer.start "a<=b ?").exchanges (s.vocabulary 0) (talk.map Exchange.action) ∧
      (talk.flatMap fun e => e.walk.results) =
        [(.token ⟨.symbol, "a"⟩, 1), (.token ⟨.operator, "<="⟩, 3), (.token ⟨.symbol, "b"⟩, 4),
          (.failure ⟨.unrecognized, 5, "?"⟩, 5), (.stop, 5)] := by
  intro s t opened commands talk
  have hs : Session.empty.Leads s := ⟨_, rfl⟩
  have hconfig : s.bindings.lookup ("config" : Text) = some (.vocabulary 0) := by rfl
  have ht : (s.step (.act "config" (.stream "a<=b ?" "stream"))).2.Leads t := ⟨_, rfl⟩
  have hname : t.bindings.lookup ("stream" : Text) = some (.stream 0 "a<=b ?") := by rfl
  obtain ⟨-, htalk, -, -⟩ := stream_isolated hs hconfig ht hname "new" commands
  exact ⟨htalk, by decide +kernel⟩

end ExprLexer
