import ExprLexer.Proofs.FileReading
import ExprLexer.Version

/-!
# Which version is shown

The version is the one that a project file declares for this program, else the installed one, else
that of an unknown one. Only two kinds of files stop this: one that does not hold UTF-8, and one in
which the project is no table.
-/

namespace ExprLexer.Version

/-- A project file that declares a version of this program. -/
inductive Declares (reader : Reader) (path : Path) (version : Text) : Prop
  | intro {t document project} : reader.Shows path (.ok t) → Toml.parse t = .ok document →
      document.lookup projectKey = some (.table project) →
      project.lookup nameKey = some (.text programName) →
      project.lookup versionKey = some (.text version) → Declares reader path version

/-- A project file that can neither be used nor be passed over. -/
inductive Breaks (reader : Reader) (path : Path) : Fault → Prop
  | notUtf8 {u} : reader.Shows path (.error (.notUtf8 u)) → Breaks reader path .notUtf8
  | notATable {t document v} : reader.Shows path (.ok t) → Toml.parse t = .ok document →
      document.lookup projectKey = some v → (∀ project, v ≠ .table project) →
      Breaks reader path .notATable

section Resolution

variable {reader : Reader} {path : Path} {t : Text} {version : Text} {fault : Fault}

theorem ofProject_of_text (h : reader.Shows path (.ok t)) : ofProject reader path = ofText t := by
  rw [ofProject, Reader.shows_iff.mp h]

theorem declared?_eq_some {project : Toml.Document} :
    declared? project = some version ↔ project.lookup nameKey = some (.text programName) ∧
      project.lookup versionKey = some (.text version) := by
  simp [declared?, Option.bind_eq_some_iff, Toml.Value.text?_eq_some]

theorem Declares.ofProject_eq (h : Declares reader path version) :
    ofProject reader path = .ok (some version) := by
  obtain ⟨ht, hparse, hproject, hname, hversion⟩ := h
  rw [ofProject_of_text ht, ofText, hparse]
  simp only [hproject, Toml.Value.entries?, declared?_eq_some.mpr ⟨hname, hversion⟩]

theorem Breaks.ofProject_eq (h : Breaks reader path fault) :
    ofProject reader path = .error fault := by
  cases h with
  | notUtf8 ht => rw [ofProject, Reader.shows_iff.mp ht]
  | @notATable t document v ht hparse hproject hno =>
    have hnone : v.entries? = none :=
      Option.eq_none_iff_forall_ne_some.mpr fun project h =>
        hno project (Toml.Value.entries?_eq_some.mp h)
    rw [ofProject_of_text ht, ofText, hparse]
    simp only [hproject, hnone]

theorem ofProject_cases (reader : Reader) (path : Path) :
    (∃ version, Declares reader path version) ∨ (∃ fault, Breaks reader path fault) ∨
      ofProject reader path = .ok none := by
  cases htext : reader.text path with
  | error fault =>
    cases fault with
    | notUtf8 u => exact Or.inr (Or.inl ⟨_, .notUtf8 (Reader.shows_iff.mpr htext)⟩)
    | access fault => exact Or.inr (Or.inr (by rw [ofProject, htext]))
  | ok t =>
    have ht : reader.Shows path (.ok t) := Reader.shows_iff.mpr htext
    rw [ofProject_of_text ht, ofText]
    cases hparse : Toml.parse t with
    | error fault => exact Or.inr (Or.inr rfl)
    | ok document =>
      dsimp only
      cases hproject : document.lookup projectKey with
      | none => exact Or.inr (Or.inr rfl)
      | some v =>
        dsimp only
        by_cases htable : ∃ project, v = .table project
        · obtain ⟨project, rfl⟩ := htable
          cases hdeclared : declared? project with
          | none => exact Or.inr (Or.inr (congrArg Except.ok hdeclared))
          | some version =>
            obtain ⟨hname, hversion⟩ := declared?_eq_some.mp hdeclared
            exact Or.inl ⟨version, .intro ht hparse hproject hname hversion⟩
        · exact Or.inr (Or.inl ⟨_, .notATable ht hparse hproject (not_exists.mp htable)⟩)

theorem Declares.resolve_eq (h : Declares reader path version) (installed? : Option Text) :
    resolve reader path installed? = .ok version := by
  rw [resolve, h.ofProject_eq]
  rfl

theorem Breaks.resolve_eq (h : Breaks reader path fault) (installed? : Option Text) :
    resolve reader path installed? = .error fault := by
  rw [resolve, h.ofProject_eq]
  rfl

theorem resolve_of_ofProject_none (h : ofProject reader path = .ok none)
    (installed? : Option Text) :
    resolve reader path installed? = .ok (installed?.getD "0.0.0") := by
  rw [resolve, h]
  rfl

end Resolution

/-- The version is resolved unless the project file breaks it, and then it is the declared one, the
installed one, or that of an unknown program, the first of them that there is. -/
theorem resolve_error_iff_breaks (reader : Reader) (path : Path) (installed? : Option Text) :
    (∀ fault, resolve reader path installed? = .error fault ↔ Breaks reader path fault) ∧
    (∀ version, Declares reader path version → resolve reader path installed? = .ok version) ∧
    ((∀ fault, ¬ Breaks reader path fault) → (∀ version, ¬ Declares reader path version) →
      resolve reader path installed? = .ok (installed?.getD "0.0.0")) := by
  refine ⟨fun fault => ⟨?_, fun h => h.resolve_eq installed?⟩,
    fun version h => h.resolve_eq installed?, ?_⟩
  · intro h
    rcases ofProject_cases reader path with ⟨version, hversion⟩ | ⟨fault', hbreaks⟩ | hnone
    · rw [hversion.resolve_eq] at h
      cases h
    · rw [hbreaks.resolve_eq] at h
      cases h
      exact hbreaks
    · rw [resolve_of_ofProject_none hnone] at h
      cases h
  · intro hsound hno
    rcases ofProject_cases reader path with ⟨version, hversion⟩ | ⟨fault, hbreaks⟩ | hnone
    · exact absurd hversion (hno version)
    · exact absurd hbreaks (hsound fault)
    · exact resolve_of_ofProject_none hnone installed?

/-- A project file that holds the byte `FF`, and one that holds `project=1`. -/
example :
    let project (bytes : List UInt8) : Reader :=
      (Files.empty (.parse "/home")).addFile (.parse "pyproject.toml") bytes |>.reader
    resolve (project [0xFF]) (.parse "pyproject.toml") none = .error .notUtf8 ∧
      resolve (project [0x70, 0x72, 0x6F, 0x6A, 0x65, 0x63, 0x74, 0x3D, 0x31])
        (.parse "pyproject.toml") (some "1") = .error .notATable := by
  exact ⟨rfl, rfl⟩

end ExprLexer.Version
