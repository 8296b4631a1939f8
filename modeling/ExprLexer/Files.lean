import ExprLexer.Path
import ExprLexer.Text.Quoted
import ExprLexer.Text.Utf8

/-!
# Files

Whoever reads files is given a reader: what each path holds, or why it holds nothing that can be
read. One reader comes from a directory with everything below it. A path is followed there name by
name, so each name on the way must be a directory that exists, even if the next name leads back out
of it. Nothing is known of what lies outside.
-/

namespace ExprLexer

inductive AccessFault
  | missing
  /-- The cause is what the system says. -/
  | unreadable (cause : Text)
  deriving DecidableEq

inductive ReadFault
  | access (f : AccessFault)
  | notUtf8 (u : Text.Undecodable)
  deriving DecidableEq

/-- What there is at each path. A regular file need not be readable. -/
structure Reader where
  isFile : Path → Bool
  read : Path → Except AccessFault (List UInt8)

def Reader.text (r : Reader) (path : Path) : Except ReadFault Text :=
  match r.read path with
  | .error f => .error (.access f)
  | .ok bytes =>
    match Text.ofUtf8 bytes with
    | .error u => .error (.notUtf8 u)
    | .ok t => .ok (t.normalizeLines false)

structure Files where
  /-- The path of the directory itself. -/
  location : Path
  /-- The files with their contents, which are lacking where a file may not be read. The latest
  content of a name comes first. -/
  contents : List (List Text × Option (List UInt8))
  directories : List (List Text)

inductive Obstacle
  | absent
  | directory
  | belowFile
  | denied

def Obstacle.fault (path : Path) : Obstacle → AccessFault
  | absent => .missing
  | directory => .unreadable ("[Errno 21] Is a directory: " ++ path.display.quoted)
  | belowFile => .unreadable ("[Errno 20] Not a directory: " ++ path.display.quoted)
  | denied => .unreadable ("[Errno 13] Permission denied: " ++ path.display.quoted)

inductive Place
  | file (bytes? : Option (List UInt8))
  | directory
  | nothing
  deriving DecidableEq

namespace Place

def bytes : Place → Except Obstacle (List UInt8)
  | file (some bytes) => .ok bytes
  | file none => .error .denied
  | directory => .error .directory
  | nothing => .error .absent

def isFile : Place → Bool
  | file _ => true
  | directory | nothing => false

end Place

namespace Files

def parentName : Text := ['.', '.']

def empty (location : Path) : Files := ⟨location, [], []⟩

def addFile (f : Files) (path : Path) (bytes? : Option (List UInt8)) : Files :=
  { f with contents := (path.names, bytes?) :: f.contents }

def addDirectory (f : Files) (path : Path) : Files :=
  { f with directories := path.names :: f.directories }

/-- What stands at a place inside. A file has all the directories above it. -/
def placeAt (f : Files) (names : List Text) : Place :=
  match f.contents.lookup names with
  | some bytes? => .file bytes?
  | none =>
    let isAbove (below : List Text) : Bool := names.isPrefixOf below
    if names = [] ∨ f.directories.any isAbove ∨ (f.contents.map Prod.fst).any isAbove then
      .directory
    else .nothing

/-- Where a path leads: to a place inside, or outside, where only directories are known. -/
inductive Position
  | inside (names : List Text)
  | outside

def look (f : Files) : Position → Place
  | .inside names => f.placeAt names
  | .outside => .directory

/-- Follows names from a position. Only a directory can be passed through. -/
def follow (f : Files) : Position → List Text → Except Obstacle Position
  | position, [] => .ok position
  | position, name :: rest =>
    match f.look position with
    | .nothing => .error .absent
    | .file _ => .error .belowFile
    | .directory =>
      match position with
      | .outside => if name = parentName then f.follow .outside rest else .error .absent
      | .inside names =>
        if name = parentName then
          f.follow (if names = [] then .outside else .inside names.dropLast) rest
        else f.follow (.inside (names ++ [name])) rest

/-- Follows a path from the directory if it has no root, and from its root if it has one. -/
def resolve (f : Files) (path : Path) : Except Obstacle Position :=
  if path.root = [] then f.follow (.inside []) path.names
  else if path.root = f.location.root ∧ f.location.names.isPrefixOf path.names then
    f.follow (.inside []) (path.names.drop f.location.names.length)
  else f.follow .outside path.names

def place (f : Files) (path : Path) : Except Obstacle Place :=
  (f.resolve path).map f.look

def reader (f : Files) : Reader where
  isFile path := (f.place path).toOption.any Place.isFile
  read path := ((f.place path).bind Place.bytes).mapError (Obstacle.fault path)

end Files

end ExprLexer
