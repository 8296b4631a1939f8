import ExprLexer.Diagnostic

/-!
# Sessions

Vocabularies, streams and lexers that live side by side under names. A stream and a lexer refer to
their vocabulary, so a lexer sees the operators that are registered at the moment of each pull. Two
names may mean the same lexer.
-/

namespace ExprLexer

/-- Why a command that is not refused by a vocabulary or a lexer still fails. -/
inductive Problem
  | diagnostic (d : Diagnostic)
  | notACollection
  /-- Lists and dictionaries are never looked up. -/
  | notAKey
  | unknownBracket (key : Datum)
  | fixedTable
  | notApplicable

inductive Action
  | add (d : Datum)
  | addAll (ds : Datum)
  | state
  | display
  | tables
  | setTableEntry
  | isOpening (d : Datum)
  | isClosing (d : Datum)
  | closingOf (d : Datum)
  | openingOf (d : Datum)
  | isPair (first second : Datum)
  | matchAt (source : Text) (position : Int)
  | stream (source name : Text)
  | lexer (source name : Text)
  | iterate (name : Text)
  | list
  | source
  | next
  | take (n : Nat)
  | drain
  | cursor

inductive Command
  /-- Builds a vocabulary from a collection of operators and names it. -/
  | create (name : Text) (operators : Datum)
  | act (target : Text) (action : Action)

inductive Reply
  | done
  | flag (b : Bool)
  | text (t : Text)
  | operator (op? : Option Text)
  | state (operators : List Text) (frozen : Bool)
  | tables
  | token (t : Token) (position : Nat)
  | stopped (position : Nat)
  | tokens (ts : List Token)
  | walk (w : Walk)
  | cursor (position : Nat) (remaining : Text)
  | failed (p : Problem)
  /-- No such name was ever given. -/
  | missing (name : Text)

inductive Binding
  | vocabulary (id : Nat)
  | stream (vocabulary : Nat) (source : Text)
  | lexer (id : Nat)

structure Session where
  vocabularies : List Vocabulary
  /-- Each lexer with the number of its vocabulary. -/
  lexers : List (Nat × Lexer)
  /-- The latest binding of a name comes first. -/
  bindings : List (Text × Binding)
  records : List Record

namespace Session

def empty : Session := ⟨[], [], [], []⟩

variable (s : Session)

def vocabulary (id : Nat) : Vocabulary :=
  s.vocabularies.getD id .empty

def bind (name : Text) (b : Binding) : Session :=
  { s with bindings := (name, b) :: s.bindings }

def record (rs : List Record) : Session :=
  { s with records := s.records ++ rs }

def setVocabulary (id : Nat) (v : Vocabulary) : Session :=
  { s with vocabularies := s.vocabularies.set id v }

def addVocabulary (name : Text) (v : Vocabulary) : Session :=
  { s with vocabularies := s.vocabularies ++ [v] }.bind name (.vocabulary s.vocabularies.length)

def addLexer (name : Text) (vocabulary : Nat) (l : Lexer) : Session :=
  { s with lexers := s.lexers ++ [(vocabulary, l)] }.bind name (.lexer s.lexers.length)

def setLexer (id : Nat) (entry : Nat × Lexer) : Session :=
  { s with lexers := s.lexers.set id entry }

/-- The records of a registration are kept whether it succeeds or not. -/
def create (name : Text) (operators : Datum) : Reply × Session :=
  match operators.items? with
  | none => (.failed .notACollection, s)
  | some ds =>
    let r := Vocabulary.build ds
    let s := s.record r.records
    match r.refusal? with
    | some refusal => (.failed (.diagnostic (.ofRefusal refusal)), s)
    | none => (.done, s.addVocabulary name r.vocabulary)

def register (id : Nat) (r : Registration) : Reply × Session :=
  let s := (s.setVocabulary id r.vocabulary).record r.records
  match r.refusal? with
  | some refusal => (.failed (.diagnostic (.ofRefusal refusal)), s)
  | none => (.done, s)

end Session

/-- Looks a datum up in a table whose keys are single code points. -/
def Datum.lookUp {α : Type} (find? : CodePoint → Option α) : Datum → Except Problem (Option α)
  | .text [c] => .ok (find? c)
  | d => if d.isKey then .ok none else .error .notAKey

namespace Reply

def ofExcept : Except Problem Reply → Reply
  | .ok r => r
  | .error p => .failed p

def ofResult (r : Except Failure (List Token)) : Reply :=
  match r with
  | .ok ts => .tokens ts
  | .error f => .failed (.diagnostic (.ofFailure f))

def ofPull (p : Pull) (after : Lexer) : Reply :=
  match p with
  | .token t => .token t after.position
  | .stop => .stopped after.position
  | .failure f => .failed (.diagnostic (.ofFailure f))

/-- The other bracket of a pair, or the failure to find one. -/
def ofPartner (key : Datum) (partner : Bracket → CodePoint) : Option Bracket → Reply
  | some b => .text [partner b]
  | none => .failed (.unknownBracket key)

end Reply

/-- Whether a second datum is the closing bracket of a first. No datum at all closes what is not an
opening bracket. -/
def Datum.closes (second : Datum) : Option Bracket → Bool
  | some b =>
    match second with
    | .text t => t = [b.closing]
    | _ => false
  | none =>
    match second with
    | .null => true
    | _ => false

namespace Session

variable (s : Session)

def actOnVocabulary (id : Nat) (action : Action) : Reply × Session :=
  let v := s.vocabulary id
  match action with
  | .add d => s.register id (v.register d)
  | .addAll ds =>
    match ds.items? with
    | none => (.failed .notACollection, s)
    | some ds => s.register id (v.registerAll ds)
  | .state => (.state v.sorted v.frozen, s)
  | .display => (.text v.display, s)
  | .tables => (.tables, s)
  | .setTableEntry => (.failed .fixedTable, s)
  | .isOpening d =>
    (.ofExcept ((d.lookUp Bracket.ofOpening?).map fun b? => .flag b?.isSome), s)
  | .isClosing d =>
    (.ofExcept ((d.lookUp Bracket.ofClosing?).map fun b? => .flag b?.isSome), s)
  | .closingOf d =>
    (.ofExcept ((d.lookUp Bracket.ofOpening?).map (.ofPartner d Bracket.closing)), s)
  | .openingOf d =>
    (.ofExcept ((d.lookUp Bracket.ofClosing?).map (.ofPartner d Bracket.opening)), s)
  | .isPair first second =>
    (.ofExcept ((first.lookUp Bracket.ofOpening?).map fun b? => .flag (second.closes b?)), s)
  | .matchAt source position => (.operator (v.matchAt source position), s)
  | .stream source name =>
    let (v, rs) := v.freeze
    (.done, ((s.setVocabulary id v).record rs).bind name (.stream id source))
  | .lexer source name => (.done, s.addLexer name id (.start source))
  | _ => (.failed .notApplicable, s)

def actOnStream (id : Nat) (source : Text) (action : Action) : Reply × Session :=
  match action with
  | .iterate name => (.flag false, s.addLexer name id (.start source))
  | .list => (.ofResult ((s.vocabulary id).tokens source), s)
  | .source => (.text source, s)
  | .display => (.text ("TokenStream(" ++ source.quoted ++ ")"), s)
  | _ => (.failed .notApplicable, s)

/-- The lexer `id`, bound to a vocabulary, is replaced by the lexer after the action. -/
def actOnLexer (id : Nat) (entry : Nat × Lexer) (action : Action) : Reply × Session :=
  let (vocabularyId, l) := entry
  let v := s.vocabulary vocabularyId
  match action with
  | .next =>
    let (p, after) := l.pull v
    (.ofPull p after, s.setLexer id (vocabularyId, after))
  | .take n =>
    let w := l.take v n
    (.walk w, s.setLexer id (vocabularyId, w.lexer))
  | .drain =>
    let w := l.walk v
    (.ofResult w.result, s.setLexer id (vocabularyId, w.lexer))
  | .cursor => (.cursor l.position l.rest, s)
  | .iterate name => (.flag true, s.bind name (.lexer id))
  | _ => (.failed .notApplicable, s)

def step (command : Command) : Reply × Session :=
  match command with
  | .create name operators => s.create name operators
  | .act target action =>
    match s.bindings.lookup target with
    | some (.vocabulary id) => s.actOnVocabulary id action
    | some (.stream id source) => s.actOnStream id source action
    | some (.lexer id) =>
      match s.lexers[id]? with
      | some entry => s.actOnLexer id entry action
      | none => (.missing target, s)
    | none => (.missing target, s)

/-- The replies to the commands in order, and the session after them. -/
def run (s : Session) : List Command → List Reply × Session
  | [] => ([], s)
  | command :: rest =>
    let (reply, s) := s.step command
    let (replies, s) := s.run rest
    (reply :: replies, s)

end Session

end ExprLexer
