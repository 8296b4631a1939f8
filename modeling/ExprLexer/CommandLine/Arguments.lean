import ExprLexer.Text

/-!
# Command-line arguments

Options may stand anywhere before `--` and are the arguments that start with a dash and go on. A
long option takes its value behind an equals sign or from the next argument. Short options of one
letter may be joined, and one that takes a value takes the rest of its argument, or the next one.
-/

namespace ExprLexer.CommandLine

inductive Flag
  | json
  | verbose
  | help
  deriving DecidableEq

inductive ValueOption
  | operator
  | manifest
  deriving DecidableEq

structure OptionTable where
  longFlags : List (Text × Flag)
  longValues : List (Text × ValueOption)
  shortFlags : List (CodePoint × Flag)
  shortValues : List (CodePoint × ValueOption)

structure Arguments where
  positionals : List Text
  operators : List Text
  manifest? : Option Text
  flags : List Flag

namespace Arguments

def empty : Arguments := ⟨[], [], none, []⟩

variable (a : Arguments)

def addPositionals (ts : List Text) : Arguments :=
  { a with positionals := a.positionals ++ ts }

def addFlags (fs : List Flag) : Arguments :=
  { a with flags := a.flags ++ fs }

/-- Operators add up; of several manifests the last counts. -/
def addValue (t : Text) : ValueOption → Arguments
  | .operator => { a with operators := a.operators ++ [t] }
  | .manifest => { a with manifest? := some t }

end Arguments

/-- What one argument says: flags, and perhaps an option with its value or with the value still to
come. -/
structure Reading where
  flags : List Flag
  value? : Option (ValueOption × Option Text)

def dash : CodePoint := '-'

def isOption : Text → Bool
  | c :: _ :: _ => c = dash
  | _ => false

/-- An argument cut at its first equals sign. -/
def cut (t : Text) : Text × Option Text :=
  let isPart (c : CodePoint) : Bool := c != CodePoint.ofChar '='
  match t.dropWhile isPart with
  | [] => (t, none)
  | _ :: value => (t.takeWhile isPart, some value)

def OptionTable.readLong? (table : OptionTable) (arg : Text) : Option Reading :=
  let (name, value?) := cut arg
  match table.longFlags.lookup name with
  | some flag => if value?.isNone then some ⟨[flag], none⟩ else none
  | none => (table.longValues.lookup name).map fun option => ⟨[], some (option, value?)⟩

/-- Reads the letters after a single dash. -/
def OptionTable.readShort? (table : OptionTable) : Text → Option Reading
  | [] => some ⟨[], none⟩
  | c :: rest =>
    match table.shortFlags.lookup c with
    | some flag => (table.readShort? rest).map fun r => { r with flags := flag :: r.flags }
    | none =>
      (table.shortValues.lookup c).map fun option =>
        ⟨[], some (option, if rest = [] then none else some rest)⟩

def OptionTable.read? (table : OptionTable) : Text → Option Reading
  | c :: d :: rest =>
    if d = dash then table.readLong? (c :: d :: rest) else table.readShort? (d :: rest)
  | _ => none

/-- Reads all arguments of a command, unless one is no option of it or lacks its value. -/
def OptionTable.parse? (table : OptionTable) (a : Arguments) : List Text → Option Arguments
  | [] => some a
  | arg :: rest =>
    if arg = [dash, dash] then some (a.addPositionals rest)
    else if isOption arg then
      match table.read? arg with
      | none => none
      | some reading =>
        let a := a.addFlags reading.flags
        match reading.value? with
        | none => table.parse? a rest
        | some (option, some value) => table.parse? (a.addValue value option) rest
        | some (option, none) =>
          match rest with
          | [] => none
          | value :: rest => table.parse? (a.addValue value option) rest
    else table.parse? (a.addPositionals [arg]) rest

/-- What the program is asked to do. -/
inductive Invocation
  | help
  | version
  | tokenize (expression : Text) (manifest? : Option Text) (operators : List Text)
      (json verbose : Bool)

def helpFlag : List (Text × Flag) := [("--help", .help)]

def tokenizeOptions : OptionTable where
  longFlags := ("--json", .json) :: ("--verbose", .verbose) :: helpFlag
  longValues := [("--operator", .operator), ("--config", .manifest)]
  shortFlags := [('v', .verbose)]
  shortValues := [('o', .operator), ('c', .manifest)]

def plainOptions : OptionTable := ⟨helpFlag, [], [], []⟩

namespace Invocation

def tokenize? (args : List Text) : Option Invocation :=
  (tokenizeOptions.parse? .empty args).bind fun a =>
    if .help ∈ a.flags then some .help
    else
      match a.positionals with
      | [expression] =>
        some (.tokenize expression a.manifest? a.operators (.json ∈ a.flags) (.verbose ∈ a.flags))
      | _ => none

def version? (args : List Text) : Option Invocation :=
  (plainOptions.parse? .empty args).bind fun a =>
    if .help ∈ a.flags then some .help else if a.positionals = [] then some .version else none

def command? : List Text → Option Invocation
  | [] => none
  | name :: args =>
    if name = Text.ofString "tokenize" then tokenize? args
    else if name = Text.ofString "version" then version? args
    else none

/-- The options before the name of the command: none but a request for help. -/
def afterHelp? : List Text → Option Invocation
  | [] => some .help
  | arg :: rest =>
    if arg = [dash, dash] then some .help
    else if arg = Text.ofString "--help" then afterHelp? rest
    else if isOption arg then none
    else some .help

def parse? : List Text → Option Invocation
  | [] => none
  | arg :: rest =>
    if arg = [dash, dash] then command? rest
    else if arg = Text.ofString "--help" then afterHelp? rest
    else if isOption arg then none
    else command? (arg :: rest)

end Invocation

end ExprLexer.CommandLine
