import ExprLexer.Files
import ExprLexer.Proofs.Utf8Decoding

/-!
# What is read at a path

A reader gives the text of a file that holds UTF-8, and otherwise says whether there is no text or
no file to read. In a directory a path is followed through the directories on its way up to the
first place that is none, and nothing beside its way counts.
-/

namespace ExprLexer

namespace Reader

inductive Shows (reader : Reader) (path : Path) : Except ReadFault Text → Prop
  | text {bytes t} {s : String} : reader.read path = .ok bytes →
      bytes.toByteArray = s.toByteArray → Text.SameLines (Text.ofString s) t →
      Shows reader path (.ok t)
  | notUtf8 {bytes u} : reader.read path = .ok bytes → ¬ bytes.toByteArray.IsValidUTF8 →
      Text.ofUtf8 bytes = .error u → Shows reader path (.error (.notUtf8 u))
  | noFile {fault} : reader.read path = .error fault → Shows reader path (.error (.access fault))

theorem shows_iff {reader : Reader} {path : Path} {r : Except ReadFault Text} :
    reader.Shows path r ↔ reader.text path = r := by
  constructor
  · intro h
    unfold text
    cases h with
    | @text bytes t s hread hbytes hlines =>
      have hdecoded : Text.ofUtf8 bytes = .ok (Text.ofString s) :=
        Text.ofUtf8_eq_ok.mpr ⟨s, hbytes, rfl⟩
      simp only [hread, hdecoded, Text.sameLines_iff.mp hlines]
    | notUtf8 hread _ hdecoded => simp only [hread, hdecoded]
    | noFile hread => simp only [hread]
  · rintro rfl
    unfold text
    cases hread : reader.read path with
    | error fault => exact .noFile hread
    | ok bytes =>
      dsimp only
      cases hdecoded : Text.ofUtf8 bytes with
      | error u => exact .notUtf8 hread (Text.exists_ofUtf8_eq_error.mp ⟨u, hdecoded⟩) hdecoded
      | ok t =>
        obtain ⟨s, hs, rfl⟩ := Text.ofUtf8_eq_ok.mp hdecoded
        exact .text hread hs (Text.sameLines_iff.mpr rfl)

end Reader

namespace Files

/-- The position where a path starts, and the names to follow from there. -/
def route (f : Files) (path : Path) : Position × List Text :=
  if path.root = [] then (.inside [], path.names)
  else if path.root = f.location.root ∧ f.location.names.isPrefixOf path.names then
    (.inside [], path.names.drop f.location.names.length)
  else (.outside, path.names)

/-- Names lead from one position to another through directories only. -/
inductive Leads (f : Files) : Position → List Text → Position → Prop
  | here (p) : Leads f p [] p
  | down {names name rest q} : f.placeAt names = .directory → name ≠ parentName →
      Leads f (.inside (names ++ [name])) rest q → Leads f (.inside names) (name :: rest) q
  | up {names rest q} : f.placeAt names = .directory → names ≠ [] →
      Leads f (.inside names.dropLast) rest q → Leads f (.inside names) (parentName :: rest) q
  | leave {rest q} : f.placeAt [] = .directory → Leads f .outside rest q →
      Leads f (.inside []) (parentName :: rest) q
  | stay {rest q} : Leads f .outside rest q → Leads f .outside (parentName :: rest) q

/-- What is read at a path. A file ends it, a directory is no file, and nothing is below a file.
Where there is nothing, and outside, where no names are known, it is missing. -/
inductive Reads (f : Files) (path : Path) : Except AccessFault (List UInt8) → Prop
  | file {p bytes} : f.Leads (f.route path).1 (f.route path).2 p →
      f.look p = .file (some bytes) → Reads f path (.ok bytes)
  | denied {p} : f.Leads (f.route path).1 (f.route path).2 p → f.look p = .file none →
      Reads f path (.error (Obstacle.denied.fault path))
  | directory {p} : f.Leads (f.route path).1 (f.route path).2 p → f.look p = .directory →
      Reads f path (.error (Obstacle.directory.fault path))
  | belowFile {before name rest p bytes?} : (f.route path).2 = before ++ name :: rest →
      f.Leads (f.route path).1 before p → f.look p = .file bytes? →
      Reads f path (.error (Obstacle.belowFile.fault path))
  | missing {before rest p} : (f.route path).2 = before ++ rest →
      f.Leads (f.route path).1 before p → f.look p = .nothing → Reads f path (.error .missing)
  | unknown {before name rest} : (f.route path).2 = before ++ name :: rest →
      f.Leads (f.route path).1 before .outside → name ≠ parentName →
      Reads f path (.error .missing)

section Reading

variable {f : Files} {path : Path} {p q : Position} {names before rest : List Text} {name : Text}

theorem resolve_eq (f : Files) (path : Path) :
    f.resolve path = f.follow (f.route path).1 (f.route path).2 := by
  unfold resolve route
  split_ifs <;> rfl

theorem Leads.cons (hdir : f.look p = .directory)
    (hname : p = .outside → name = parentName) :
    ∃ q, ∀ {rest r}, f.Leads q rest r → f.Leads p (name :: rest) r := by
  cases p with
  | outside =>
    rw [hname rfl]
    exact ⟨.outside, .stay⟩
  | inside names =>
    by_cases hup : name = parentName
    · subst hup
      by_cases hne : names = []
      · subst hne
        exact ⟨.outside, .leave hdir⟩
      · exact ⟨.inside names.dropLast, .up hdir hne⟩
    · exact ⟨.inside (names ++ [name]), .down hdir hup⟩

/-- Names lead to their end, or up to a position from which the next name leads nowhere. -/
theorem leads_or_stuck (f : Files) (p : Position) (names : List Text) :
    (∃ q, f.Leads p names q) ∨ ∃ before name rest q, names = before ++ name :: rest ∧
      f.Leads p before q ∧ (f.look q = .directory → q = .outside ∧ name ≠ parentName) := by
  induction names generalizing p with
  | nil => exact Or.inl ⟨p, .here p⟩
  | cons name rest ih =>
    by_cases hstuck : f.look p = .directory → p = .outside ∧ name ≠ parentName
    · exact Or.inr ⟨[], name, rest, p, rfl, .here p, hstuck⟩
    · have hdir : f.look p = .directory := by
        by_contra hno
        exact hstuck fun h => absurd h hno
      obtain ⟨q, hq⟩ := Leads.cons hdir fun hp => by
        by_contra hno
        exact hstuck fun _ => ⟨hp, hno⟩
      rcases ih q with ⟨r, hr⟩ | ⟨before, next, rest', r, rfl, hr, hnext⟩
      · exact Or.inl ⟨r, hq hr⟩
      · exact Or.inr ⟨name :: before, next, rest', r, rfl, hq hr, hnext⟩

theorem exists_reads (f : Files) (path : Path) : ∃ r, f.Reads path r := by
  rcases leads_or_stuck f (f.route path).1 (f.route path).2 with
    ⟨q, hq⟩ | ⟨before, name, rest, q, heq, hq, hstuck⟩
  · rcases hlook : f.look q with (_ | bytes) | _ | _
    · exact ⟨_, .denied hq hlook⟩
    · exact ⟨_, .file hq hlook⟩
    · exact ⟨_, .directory hq hlook⟩
    · exact ⟨_, .missing (List.append_nil _).symm hq hlook⟩
  · cases hlook : f.look q with
    | file bytes? => exact ⟨_, .belowFile heq hq hlook⟩
    | nothing => exact ⟨_, .missing heq hq hlook⟩
    | directory =>
      obtain ⟨rfl, hname⟩ := hstuck hlook
      exact ⟨_, .unknown heq hq hname⟩

end Reading

/-! ## What a reading depends on -/

def Position.next : Position → Text → Position
  | .outside, _ => .outside
  | .inside names, name =>
    if name = parentName then (if names = [] then .outside else .inside names.dropLast)
    else .inside (names ++ [name])

def Position.trail : Position → List Text → List Position
  | p, [] => [p]
  | p, name :: rest => p :: (p.next name).trail rest

/-- The positions at which a lookup of the path may stop. -/
def trail (f : Files) (path : Path) : List Position :=
  (f.route path).1.trail (f.route path).2

section Trail

variable {f f' : Files} {p q : Position} {names : List Text} {path : Path}

end Trail

end Files

end ExprLexer
