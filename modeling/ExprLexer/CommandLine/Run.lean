import ExprLexer.CommandLine.Arguments
import ExprLexer.CommandLine.Table
import ExprLexer.Console
import ExprLexer.Json
import ExprLexer.Manifest
import ExprLexer.Tokenize
import ExprLexer.Version

/-!
# Runs of the command line

`tokenize` takes its operators from a manifest, the given one or that of the working directory, and
then from its options. It prints all tokens or, after a failure, only the diagnostic. What a run
reads and the console it prints on are parameters, so a run is a function of these and of its
arguments. No run starts if the version of the program cannot be resolved.
-/

namespace ExprLexer.CommandLine

inductive Outcome
  | usageError
  | help
  | finished (exitCode : Nat) (output : Text)
  | faultyMarkup (fault : Markup.Fault)

/-- A run with what it writes to the error stream. -/
structure Report where
  outcome : Outcome
  errorOutput : Text

structure Setting where
  reader : Reader
  directory : Path
  console : Console
  version : Text

structure Logged (α : Type) where
  records : List Record
  result : Except Diagnostic α

/-- The manifest to use: the given one, else that of the directory if it has one. -/
def manifestPath? (reader : Reader) (directory : Path) (given? : Option Text) : Option Path :=
  match given? with
  | some t => some (.parse t)
  | none => Manifest.find? reader directory

def candidates (directory : Path) : Invocation → List Path
  | .tokenize _ (some given) _ _ _ => [.parse given]
  | .tokenize _ none _ _ _ => [directory.child Manifest.defaultName]
  | .help | .version => []

def Logged.ofRegistration (r : Registration) : Logged Vocabulary where
  records := r.records
  result :=
    match r.refusal? with
    | some refusal => .error (.ofRefusal refusal)
    | none => .ok r.vocabulary

def manifestVocabulary (reader : Reader) : Option Path → Logged Vocabulary
  | none => ⟨[], .ok .empty⟩
  | some path =>
    match Manifest.load reader path with
    | .error f => ⟨[], .error (f.diagnostic path)⟩
    | .ok m =>
      let built := Logged.ofRegistration m.build
      { built with records := m.loadRecord :: built.records }

def Logged.andThen {α β : Type} (l : Logged α) (next : α → Logged β) : Logged β :=
  match l.result with
  | .error d => ⟨l.records, .error d⟩
  | .ok a =>
    let more := next a
    { more with records := l.records ++ more.records }

def firstTokens (expression : Text) (v : Vocabulary) : Logged (List Token) :=
  let (v, records) := v.freeze
  ⟨records, (v.tokens expression).mapError .ofFailure⟩

def tokens (reader : Reader) (path? : Option Path) (operators : List Text) (expression : Text) :
    Logged (List Token) :=
  ((manifestVocabulary reader path?).andThen fun v =>
    Logged.ofRegistration (v.registerAll (operators.map .text))).andThen (firstTokens expression)

def line (t : Text) : Text := t ++ "\n"

def complaint (console : Console) (t : Text) : Text :=
  "[red]Error:[/red] " ++ console.escape t

def outcome (console : Console) (json : Bool) : Except Diagnostic (List Token) → Outcome
  | .error d =>
    match console.print (complaint console d.display) with
    | .ok t => .finished 1 (line t)
    | .error fault => .faultyMarkup fault
  | .ok ts =>
    if json then .finished 0 (line (Json.tokens ts))
    else
      match Table.ofTokens ts with
      | .ok table => .finished 0 table
      | .error fault => .faultyMarkup fault

def run (s : Setting) : Invocation → Report
  | .help => ⟨.help, []⟩
  | .version => ⟨.finished 0 (line (Version.programName ++ " " ++ s.version)), []⟩
  | .tokenize expression given? operators json verbose =>
    let path? := manifestPath? s.reader s.directory given?
    let logged := tokens s.reader path? operators expression
    { outcome := outcome s.console json logged.result
      errorOutput := if verbose then logged.records.flatMap fun r => line r.line else [] }

def runArguments (s : Setting) (args : List Text) : Report :=
  match Invocation.parse? args with
  | none => ⟨.usageError, []⟩
  | some invocation => run s invocation

/-- The program, with the path of its project file and its installed version. -/
def start (reader : Reader) (directory : Path) (console : Console) (project : Path)
    (installed? : Option Text) (args : List Text) : Except Version.Fault Report :=
  (Version.resolve reader project installed?).map fun version =>
    runArguments ⟨reader, directory, console, version⟩ args

end ExprLexer.CommandLine
