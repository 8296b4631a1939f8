import ExprLexer.Diagnostic
import ExprLexer.Proofs.LiteralDecoding
import ExprLexer.Proofs.LongestPrefix

/-!
# Diagnosing a literal

No unit is the beginning of another, so a body has one longest beginning that consists of units, and
what is left behind it decides how the literal comes out: a closing quote accepts it, and each other
case has its own error. The error shows the whole literal and leaves the lexer at the opening quote.
-/

namespace ExprLexer

namespace StringLiteral

/-- All sequences of units. None of them holds a quote that is not escaped. -/
def spellings (mark : CodePoint) : Set Text :=
  {units | ∃ value, Spells mark units value}

inductive Verdict
  | accepted
  | unterminatedString
  | unterminatedEscape
  | invalidEscapeChar (c : CodePoint)
  | invalidHexEscape (digits : Text)

namespace Verdict

/-- What is left behind the units calls for the verdict. -/
def Condition (mark : CodePoint) (rest : Text) : Verdict → Prop
  | accepted => ∃ t, rest = mark :: t
  | unterminatedString => rest = []
  | unterminatedEscape => rest = ['\\']
  | invalidEscapeChar c => ∃ t, rest = ('\\' : CodePoint) :: c :: t ∧
      (∀ value, (c, value) ∉ escapes) ∧ ∀ e : HexEscape, c ≠ e.letter
  | invalidHexEscape digits => ∃ (e : HexEscape) (t : Text),
      rest = ('\\' : CodePoint) :: e.letter :: t ∧ digits = t.take e.width

def detail? (site : Site) : Verdict → Option Detail
  | accepted => none
  | unterminatedString => some (.unterminatedString site)
  | unterminatedEscape => some (.unterminatedEscape site)
  | invalidEscapeChar c => some (.invalidEscapeChar site [c])
  | invalidHexEscape digits => some (.invalidHexEscape site digits)

/-- The outcome of a pull at `start` is that of the verdict. An error is about the whole rest of the
source, and the lexer has not moved. -/
def Shown (source : Text) (start : Nat) (outcome : Pull × Lexer) (verdict : Verdict) : Prop :=
  match verdict.detail? ⟨source.drop start, start⟩ with
  | none => ∃ value stop,
      outcome = (.token ⟨.stringLiteral, value⟩, ⟨stop, source.drop stop, true⟩)
  | some detail => ∃ failure, outcome = (.failure failure, ⟨start, source.drop start, false⟩) ∧
      (Diagnostic.ofFailure failure).detail = detail

end Verdict

section Units

variable {mark c c' : CodePoint} {unit unit' units value units' value' t rest : Text} {f : Fault}

theorem SpellsUnit.item_of_prefix (hmark : mark ≠ '\\') (h : SpellsUnit mark unit c)
    (hunit : unit <+: t) : ∃ d r, t = d :: r ∧ item mark d r = .unit c (unit.length - 1) := by
  obtain ⟨d, passed, rfl⟩ := List.exists_cons_of_ne_nil h.ne_nil
  obtain ⟨r, rfl⟩ := hunit
  exact ⟨d, passed ++ r, rfl, item_of_spellsUnit hmark h r⟩

theorem SpellsUnit.eq_of_prefix (hmark : mark ≠ '\\') (h : SpellsUnit mark unit c)
    (h' : SpellsUnit mark unit' c') (hunit : unit <+: t) (hunit' : unit' <+: t) : unit = unit' := by
  have hpos := List.length_pos_of_ne_nil h.ne_nil
  have hpos' := List.length_pos_of_ne_nil h'.ne_nil
  obtain ⟨d, r, rfl, hitem⟩ := h.item_of_prefix hmark hunit
  obtain ⟨d', r', heq, hitem'⟩ := h'.item_of_prefix hmark hunit'
  obtain ⟨rfl, rfl⟩ := List.cons.inj heq
  rw [hitem] at hitem'
  obtain ⟨-, hlen⟩ := Item.unit.inj hitem'
  have hsame : unit.length = unit'.length := by omega
  exact (List.prefix_of_prefix_length_le hunit hunit' hsame.le).eq_of_length hsame

theorem SpellsUnit.not_prefix_mark (hmark : mark ≠ '\\') (h : SpellsUnit mark unit c) :
    ¬ unit <+: mark :: t := by
  intro hunit
  obtain ⟨d, r, heq, hitem⟩ := h.item_of_prefix hmark hunit
  obtain ⟨rfl, rfl⟩ := List.cons.inj heq
  simp [item] at hitem

theorem SpellsUnit.not_prefix_obstacle (hmark : mark ≠ '\\') (hrest : Obstacle rest f)
    (h : SpellsUnit mark unit c) : ¬ unit <+: rest := by
  intro hunit
  obtain ⟨d, r, rfl, hitem⟩ := h.item_of_prefix hmark hunit
  rw [item_of_obstacle hmark hrest] at hitem
  cases hitem

/-- Before a text that starts with no unit, a sequence of units is the longest. -/
theorem Spells.length_le (hmark : mark ≠ '\\') (h : Spells mark units value)
    (hrest : ∀ unit c, SpellsUnit mark unit c → ¬ unit <+: rest) (h' : Spells mark units' value')
    (hbegins : units' <+: units ++ rest) : units'.length ≤ units.length := by
  induction h generalizing units' value' with
  | nil =>
    cases h' with
    | nil => exact Nat.le_refl _
    | cons hunit' _ =>
      exact absurd ((List.prefix_append _ _).trans hbegins) (hrest _ _ hunit')
  | @cons unit body c value hunit _ ih =>
    cases h' with
    | nil => exact Nat.zero_le _
    | @cons unit' body' _ _ hunit' hbody' =>
      rw [List.append_assoc] at hbegins
      obtain rfl := hunit.eq_of_prefix hmark hunit' (List.prefix_append _ _)
        ((List.prefix_append _ _).trans hbegins)
      have hlen := ih hbody' ((List.prefix_append_right_inj unit).mp hbegins)
      simp only [List.length_append]
      omega

theorem Spells.isLongest (hmark : mark ≠ '\\') (h : Spells mark units value)
    (hrest : ∀ unit c, SpellsUnit mark unit c → ¬ unit <+: rest) :
    IsLongest (spellings mark) (units ++ rest) units := by
  refine ⟨List.prefix_append units rest, ⟨value, h⟩, ?_⟩
  rintro units' ⟨value', h'⟩ hbegins
  exact h.length_le hmark hrest h' hbegins

end Units

section Verdicts

variable {mark c : CodePoint} {source rest t : Text} {start : Nat} {f : Fault} {verdict : Verdict}

theorem letter_injective : Function.Injective HexEscape.letter := by
  intro e e' h
  have hread := HexEscape.ofLetter?_letter e
  rw [h, HexEscape.ofLetter?_letter] at hread
  exact (Option.some.inj hread).symm

theorem ne_letter (h : HexEscape.ofLetter? c = none) (e : HexEscape) : c ≠ e.letter := by
  rintro rfl
  rw [HexEscape.ofLetter?_letter] at h
  cases h

theorem not_mem_of_lookup (h : escapes.lookup c = none) (value : CodePoint) :
    (c, value) ∉ escapes := by
  intro hmem
  rw [lookup_of_mem _ hmem] at h
  cases h

theorem Obstacle.le_hexValue {e : HexEscape} (h : Obstacle rest f)
    (hrest : rest = ('\\' : CodePoint) :: e.letter :: t)
    (hdigits : (t.take e.width).length = e.width ∧
      (t.take e.width).all CodePoint.isHexDigit = true) :
    0x110000 ≤ Text.hexValue (t.take e.width) := by
  cases h with
  | unterminated => cases hrest
  | loneBackslash => cases hrest
  | unknown hletter _ =>
    exact absurd (List.cons.inj (List.cons.inj hrest).2).1 (ne_letter hletter e)
  | malformed hread hbad =>
    obtain ⟨hletter, rfl⟩ := List.cons.inj (List.cons.inj hrest).2
    obtain rfl := letter_injective hletter
    rw [hread] at hbad
    exact absurd hdigits hbad
  | beyond hlen _ hbeyond =>
    obtain ⟨hletter, rfl⟩ := List.cons.inj (List.cons.inj hrest).2
    obtain rfl := letter_injective hletter
    rw [← hlen, List.take_left]
    exact hbeyond

namespace Verdict

theorem detail?_injective (site : Site) : Function.Injective (detail? site) := by
  intro verdict verdict' h
  cases verdict <;> cases verdict' <;> simp_all [detail?]

theorem condition_mark (hmark : mark ≠ '\\') (t : Text) :
    verdict.Condition mark (mark :: t) ↔ verdict = .accepted := by
  cases verdict <;> simp [Condition, hmark]

theorem not_condition_letter (e : HexEscape) (t : Text) :
    ¬ (invalidEscapeChar c).Condition mark ('\\' :: e.letter :: t) := by
  rintro ⟨_, heq, -, hno⟩
  exact hno e (List.cons.inj (List.cons.inj heq).2).1.symm

theorem condition_obstacle (hmark : mark ≠ '\\') (h : Obstacle rest f) (position : Nat)
    (remaining : Text) : verdict.Condition mark rest ↔
      verdict.detail? ⟨remaining, position⟩ =
        some (Diagnostic.ofFailure ⟨f, position, remaining⟩).detail := by
  cases h with
  | unterminated => cases verdict <;> simp [Condition, detail?, Diagnostic.ofFailure]
  | loneBackslash =>
    cases verdict <;> simp [Condition, detail?, Diagnostic.ofFailure, hmark.symm]
  | @unknown c _ hletter hlookup =>
    have hne := ne_letter hletter
    cases verdict with
    | invalidEscapeChar c' =>
      constructor
      · rintro ⟨t, heq, -⟩
        obtain ⟨rfl, -⟩ := List.cons.inj (List.cons.inj heq).2
        rfl
      · intro heq
        obtain rfl : c' = c := by simpa [detail?, Diagnostic.ofFailure] using heq
        exact ⟨_, rfl, not_mem_of_lookup hlookup, hne⟩
    | _ => simp [Condition, detail?, Diagnostic.ofFailure, hmark.symm, hne]
  | malformed hdigits =>
    cases verdict with
    | invalidEscapeChar c' => simp [not_condition_letter, detail?, Diagnostic.ofFailure]
    | _ =>
      simp [Condition, detail?, Diagnostic.ofFailure, hmark.symm, letter_injective.eq_iff, hdigits]
  | beyond hlen =>
    cases verdict with
    | invalidEscapeChar c' => simp [not_condition_letter, detail?, Diagnostic.ofFailure]
    | _ =>
      simp [Condition, detail?, Diagnostic.ofFailure, hmark.symm, letter_injective.eq_iff, ← hlen]

theorem exists_detail? (h : Obstacle rest f) (position : Nat) (remaining : Text) :
    ∃ verdict : Verdict, verdict.detail? ⟨remaining, position⟩ =
      some (Diagnostic.ofFailure ⟨f, position, remaining⟩).detail := by
  cases h with
  | unterminated => exact ⟨.unterminatedString, rfl⟩
  | loneBackslash => exact ⟨.unterminatedEscape, rfl⟩
  | @unknown c => exact ⟨.invalidEscapeChar c, rfl⟩
  | @malformed _ digits => exact ⟨.invalidHexEscape digits, rfl⟩
  | @beyond _ digits => exact ⟨.invalidHexEscape digits, rfl⟩

theorem shown_token (value : Text) (stop : Nat) :
    verdict.Shown source start
        (.token ⟨.stringLiteral, value⟩, ⟨stop, source.drop stop, true⟩) ↔
      verdict = .accepted := by
  cases verdict <;> simp [Shown, detail?]

theorem shown_failure (failure : Failure) :
    verdict.Shown source start (.failure failure, ⟨start, source.drop start, false⟩) ↔
      verdict.detail? ⟨source.drop start, start⟩ = some (Diagnostic.ofFailure failure).detail := by
  unfold Shown
  split
  · rename_i hnone
    simp [hnone]
  · rename_i detail hsome
    simp [hsome, eq_comm]

end Verdict

end Verdicts

end StringLiteral

open StringLiteral

/-- At a quote, what is left behind the longest sequence of units decides the outcome: each verdict
is given exactly on its condition, and always one condition holds. An escape by number that is
refused has too few digits, or others, or they count beyond the last code point. -/
theorem pull_verdict {mark : CodePoint} (hmark : mark ∈ delimiters) (v : Vocabulary) {source : Text}
    {start : Nat} (hstart : source[start]? = some mark) :
    ∃ units rest, source.drop (start + 1) = units ++ rest ∧
      IsLongest (spellings mark) (source.drop (start + 1)) units ∧
      (∃! verdict : Verdict, verdict.Condition mark rest) ∧
      (∀ verdict : Verdict,
        verdict.Shown source start ((Lexer.mk start (source.drop start) true).pull v) ↔
          verdict.Condition mark rest) ∧
      ∀ (e : HexEscape) (t : Text), rest = ('\\' : CodePoint) :: e.letter :: t →
        (t.take e.width).length = e.width ∧ (t.take e.width).all CodePoint.isHexDigit = true →
          0x110000 ≤ Text.hexValue (t.take e.width) := by
  have hback := ne_backslash hmark
  have hopen := drop_eq_cons hstart
  rcases spells_or_faulty mark (source.drop (start + 1)) with
    ⟨units, value, t, hs, hdrop⟩ | ⟨f, hfaulty⟩
  · refine ⟨units, mark :: t, hdrop, ?_, ?_, ?_, ?_⟩
    · rw [hdrop]
      exact hs.isLongest hback fun _ _ hunit => hunit.not_prefix_mark hback
    · exact ⟨.accepted, ⟨t, rfl⟩, fun verdict h => (Verdict.condition_mark hback t).mp h⟩
    · intro verdict
      have hbehind : t = source.drop (start + units.length + 2) := by
        rw [← (of_drop_eq_append_cons hdrop).2.2]
        congr 1
        omega
      rw [Verdict.condition_mark hback, hopen, hdrop, Lexer.pull_spelled hmark hs, hbehind]
      exact Verdict.shown_token value _
    · rintro e t' heq
      exact absurd (List.cons.inj heq).1 hback
  · obtain ⟨units, value, rest, hs, hobstacle, hdrop⟩ := id hfaulty
    have hcondition := fun verdict : Verdict =>
      verdict.condition_obstacle hback hobstacle start (source.drop start)
    refine ⟨units, rest, hdrop, ?_, ?_, ?_, ?_⟩
    · rw [hdrop]
      exact hs.isLongest hback fun _ _ hunit => hunit.not_prefix_obstacle hback hobstacle
    · obtain ⟨verdict, hdetail⟩ := Verdict.exists_detail? hobstacle start (source.drop start)
      refine ⟨verdict, (hcondition verdict).mpr hdetail, ?_⟩
      intro verdict' h
      exact Verdict.detail?_injective _ (((hcondition verdict').mp h).trans hdetail.symm)
    · intro verdict
      have hpull := Lexer.pull_faulty (v := v) hmark hfaulty start
      rw [← hopen] at hpull
      rw [hcondition, hpull]
      exact Verdict.shown_failure _
    · intro e t hrest
      exact hobstacle.le_hexValue hrest

/-- An escape by number that runs into the closing quote: the quote is one of its digits, and what
is behind the quote does not matter. -/
theorem pull_verdict_of_quote_among_digits :
    let source : Text := "f \"b\\x4\"\\"
    CodePoint.ofChar '"' ∈ delimiters ∧ source[2]? = some (CodePoint.ofChar '"') ∧
      ∃ units rest, source.drop 3 = units ++ rest ∧
        IsLongest (spellings '"') (source.drop 3) units ∧
        (Verdict.invalidHexEscape "4\"").Condition '"' rest ∧
        ∀ verdict : Verdict, verdict.Condition '"' rest → verdict = .invalidHexEscape "4\"" := by
  intro source
  have hmark : CodePoint.ofChar '"' ∈ delimiters := by decide
  have hstart : source[2]? = some (CodePoint.ofChar '"') := by decide
  obtain ⟨units, rest, hdrop, hlongest, hone, hshown, -⟩ := pull_verdict hmark .empty hstart
  have hpull : (Lexer.mk 2 (source.drop 2) true).pull .empty =
      (.failure ⟨.malformedHex .two "4\"", 2, source.drop 2⟩, ⟨2, source.drop 2, false⟩) := by
    decide
  have hcondition := (hshown (.invalidHexEscape "4\"")).mp ⟨_, hpull, rfl⟩
  exact ⟨hmark, hstart, units, rest, hdrop, hlongest, hcondition,
    fun verdict h => hone.unique h hcondition⟩

end ExprLexer
