import ExprLexer.CommandLine.Run

/-!
# The program

Reads the files that the arguments call for, runs the command line on them and prints its report.
-/

namespace ExprLexer

/-- Reads one file, and tells whether there is a regular one. -/
def readFile (path : Path) : IO (Bool × Except AccessFault (List UInt8)) := do
  try
    let bytes ← IO.FS.readBinFile path.display.toString
    return (true, .ok bytes.toList)
  catch
    | .noFileOrDirectory .. => return (false, .error .missing)
    | .permissionDenied .. => return (true, .error (Obstacle.denied.fault path))
    | .inappropriateType _ code _ =>
      let obstacle : Obstacle := if code = 20 then .belowFile else .directory
      return (false, .error (obstacle.fault path))
    | e => return (false, .error (.unreadable (Text.ofString e.toString)))

def readAll (paths : List Path) : IO Reader := do
  let found ← paths.mapM fun path => return (path, ← readFile path)
  let known (path : Path) := (found.lookup path).getD (false, .error .missing)
  return ⟨fun path => (known path).1, fun path => (known path).2⟩

def projectFile : IO Path := do
  let program := Path.parse (Text.ofString (← IO.appPath).toString)
  return { program with names := program.names.dropLast.dropLast.dropLast }.child "pyproject.toml"

def usage : String :=
  "Usage: calclex tokenize [--operator TEXT]... [--config PATH] [--json] [--verbose] " ++
    "EXPRESSION\n       calclex version\n"

def finish (report : CommandLine.Report) : IO UInt32 := do
  let out ← IO.getStdout
  let err ← IO.getStderr
  err.putStr report.errorOutput.toString
  match report.outcome with
  | .usageError =>
    err.putStr usage
    return 2
  | .help =>
    out.putStr usage
    return 0
  | .finished exitCode output =>
    out.putStr output.toString
    return exitCode.toUInt32
  | .faultyMarkup _ =>
    err.putStr "The text of a token is faulty markup.\n"
    return 1

end ExprLexer

def main (args : List String) : IO UInt32 := do
  let args := args.map ExprLexer.Text.ofString
  let directory := ExprLexer.Path.parse (ExprLexer.Text.ofString (← IO.currentDir).toString)
  let project ← ExprLexer.projectFile
  let candidates := ((ExprLexer.CommandLine.Invocation.parse? args).map
    (ExprLexer.CommandLine.candidates directory)).getD []
  let reader ← ExprLexer.readAll (project :: candidates)
  match ExprLexer.CommandLine.start reader directory .standard project none args with
  | .ok report => ExprLexer.finish report
  | .error _ =>
    (← IO.getStderr).putStr "The project file cannot be used.\n"
    return 1
