import ExprLexer.Files
import ExprLexer.Toml.Document

/-!
# Versions

The version of this program is the one that the project file beside it declares, if that file is
about this program; else the installed one, if there is one.
-/

namespace ExprLexer.Version

def programName : Text := "calclex"

def unknown : Text := "0.0.0"

/-- Why the project file can neither be used nor be passed over. -/
inductive Fault
  | notUtf8
  | notATable
  deriving DecidableEq

def projectKey : Text := "project"

def nameKey : Text := "name"

def versionKey : Text := "version"

/-- The version that the entries under `project` declare for this program. -/
def declared? (project : Toml.Document) : Option Text :=
  if (project.lookup nameKey).bind Toml.Value.text? = some programName then
    (project.lookup versionKey).bind Toml.Value.text?
  else none

def ofText (t : Text) : Except Fault (Option Text) :=
  match Toml.parse t with
  | .error _ => .ok none
  | .ok document =>
    match document.lookup projectKey with
    | none => .ok none
    | some v =>
      match v.entries? with
      | none => .error .notATable
      | some project => .ok (declared? project)

/-- The version that a project file declares. A file that is absent or no TOML declares none. -/
def ofProject (reader : Reader) (path : Path) : Except Fault (Option Text) :=
  match reader.text path with
  | .error (.notUtf8 _) => .error .notUtf8
  | .error (.access _) => .ok none
  | .ok t => ofText t

def resolve (reader : Reader) (path : Path) (installed? : Option Text) : Except Fault Text :=
  (ofProject reader path).map fun declared? => (declared?.or installed?).getD unknown

end ExprLexer.Version
