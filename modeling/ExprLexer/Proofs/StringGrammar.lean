import ExprLexer.Lexeme.StringLiteral
import ExprLexer.Text.Blank
import Mathlib.Tactic.Common

/-!
# The grammar of string literals

The body of a literal is a sequence of units, each spelling one code point. A literal is read
exactly when its units are followed by the closing quote; where they are followed by anything else,
that is the cause of the fault.
-/

namespace ExprLexer.StringLiteral

/-- One unit of a body between quotes `mark`, and the code point that it stands for. -/
inductive SpellsUnit (mark : CodePoint) : Text → CodePoint → Prop
  | plain {c} : c ≠ mark → c ≠ '\\' → SpellsUnit mark [c] c
  | escape {c value} : (c, value) ∈ escapes → SpellsUnit mark [('\\' : CodePoint), c] value
  | number {e : HexEscape} {digits : Text} {value} : digits.length = e.width →
      digits.all CodePoint.isHexDigit = true → digits.hexValue = value.val →
      SpellsUnit mark (('\\' : CodePoint) :: e.letter :: digits) value

/-- A sequence of units, and the text that it stands for. -/
inductive Spells (mark : CodePoint) : Text → Text → Prop
  | nil : Spells mark [] []
  | cons {unit body : Text} {c : CodePoint} {value : Text} : SpellsUnit mark unit c →
      Spells mark body value → Spells mark (unit ++ body) (c :: value)

/-- What may stand after the units of a body in place of the closing quote. -/
inductive Obstacle : Text → Fault → Prop
  | unterminated : Obstacle [] .unterminatedString
  | loneBackslash : Obstacle [('\\' : CodePoint)] .unterminatedEscape
  | unknown {c t} : HexEscape.ofLetter? c = none → escapes.lookup c = none →
      Obstacle (('\\' : CodePoint) :: c :: t) (.unknownEscape c)
  | malformed {e : HexEscape} {digits t} : digits = t.take e.width →
      ¬ (digits.length = e.width ∧ digits.all CodePoint.isHexDigit = true) →
      Obstacle (('\\' : CodePoint) :: e.letter :: t) (.malformedHex e digits)
  | beyond {e : HexEscape} {digits t : Text} : digits.length = e.width →
      digits.all CodePoint.isHexDigit = true → 0x110000 ≤ digits.hexValue →
      Obstacle (('\\' : CodePoint) :: e.letter :: (digits ++ t)) (.beyondUnicode e digits)

/-- Units, and then no closing quote but the obstacle of the fault. -/
def Faulty (mark : CodePoint) (t : Text) (f : Fault) : Prop :=
  ∃ body value rest, Spells mark body value ∧ Obstacle rest f ∧ t = body ++ rest

theorem ne_backslash {mark : CodePoint} (h : mark ∈ delimiters) : mark ≠ '\\' := by
  rintro rfl
  revert h
  decide

theorem delimiter_not_blank : ∀ mark ∈ delimiters, mark.isBlank = false := by
  decide

theorem lookup_of_mem : ∀ p ∈ escapes, escapes.lookup p.1 = some p.2 := by
  decide

theorem ofLetter?_of_mem : ∀ p ∈ escapes, HexEscape.ofLetter? p.1 = none := by
  decide

theorem mem_of_lookup {c value : CodePoint} (h : escapes.lookup c = some value) :
    (c, value) ∈ escapes := by
  obtain ⟨before, after, he, -⟩ := List.lookup_eq_some_iff.mp h
  rw [he]
  exact List.mem_append_right _ List.mem_cons_self

theorem eq_letter {c : CodePoint} {e : HexEscape} (h : HexEscape.ofLetter? c = some e) :
    c = e.letter := by
  simpa [eq_comm] using List.find?_some h

theorem spells_flatMap {mark : CodePoint} {unit : CodePoint → Text}
    (h : ∀ c, SpellsUnit mark (unit c) c) (value : Text) :
    Spells mark (value.flatMap unit) value := by
  induction value with
  | nil => exact .nil
  | cons c value ih => exact .cons (h c) ih

section Body

variable {mark c : CodePoint} {unit t r : Text} {f : Fault}

theorem body_pending (mark : CodePoint) (passed t : Text) :
    body mark passed.length (passed ++ t) =
      (body mark 0 t).map fun b => { b with raw := passed ++ b.raw } := by
  induction passed with
  | nil =>
    simp only [List.length_nil, List.nil_append]
    cases body mark 0 t <;> rfl
  | cons c passed ih =>
    simp only [List.length_cons, List.cons_append, body, ih]
    cases body mark 0 t <;> rfl

theorem decode_of_digits {e : HexEscape} {digits : Text} {value : CodePoint}
    (hlen : digits.length = e.width) (hhex : digits.all CodePoint.isHexDigit = true)
    (hvalue : digits.hexValue = value.val) : e.decode digits = .ok value := by
  rw [HexEscape.decode, if_pos ⟨hlen, hhex⟩, hvalue, CodePoint.ofNat?_val]

theorem body_of_item {d : CodePoint} {passed : Text}
    (h : item mark d (passed ++ t) = .unit c passed.length) :
    body mark 0 (d :: (passed ++ t)) =
      (body mark 0 t).map fun b => ⟨c :: b.value, d :: (passed ++ b.raw), b.rest⟩ := by
  rw [body, h]
  dsimp only
  rw [body_pending]
  cases body mark 0 t <;> rfl

theorem SpellsUnit.ne_nil (h : SpellsUnit mark unit c) : unit ≠ [] := by
  cases h <;> simp

/-- At the first code point of a unit the unit is found, whatever follows it. -/
theorem item_of_spellsUnit {d : CodePoint} {passed : Text} (hmark : mark ≠ '\\')
    (h : SpellsUnit mark (d :: passed) c) (t : Text) :
    item mark d (passed ++ t) = .unit c passed.length := by
  cases h with
  | plain hne hback => simp [item, hne, hback]
  | @escape key _ hmem =>
    have hletter := ofLetter?_of_mem _ hmem
    have hlookup := lookup_of_mem _ hmem
    simp [item, hmark.symm, escape, hletter, hlookup]
  | @number e digits _ hlen hhex hvalue =>
    simp [item, hmark.symm, escape, HexEscape.ofLetter?_letter, ← hlen,
      decode_of_digits hlen hhex hvalue]

theorem body_unit (hmark : mark ≠ '\\') (h : SpellsUnit mark unit c) (t : Text) :
    body mark 0 (unit ++ t) =
      (body mark 0 t).map fun b => ⟨c :: b.value, unit ++ b.raw, b.rest⟩ := by
  obtain ⟨d, passed, rfl⟩ := List.exists_cons_of_ne_nil h.ne_nil
  exact body_of_item (item_of_spellsUnit hmark h t)

theorem body_spells (hmark : mark ≠ '\\') {units value : Text} (h : Spells mark units value)
    (t : Text) :
    body mark 0 (units ++ t) =
      (body mark 0 t).map fun b => ⟨value ++ b.value, units ++ b.raw, b.rest⟩ := by
  induction h with
  | nil =>
    simp only [List.nil_append]
    cases body mark 0 t <;> rfl
  | cons hunit _ ih =>
    rw [List.append_assoc, body_unit hmark hunit, ih]
    cases body mark 0 t <;> simp [Except.map]

theorem body_close (mark : CodePoint) (t : Text) :
    body mark 0 (mark :: t) = .ok ⟨[], [mark], t⟩ := by
  simp [body, item]

theorem item_of_obstacle {d : CodePoint} (hmark : mark ≠ '\\') (h : Obstacle (d :: t) f) :
    item mark d t = .fault f := by
  cases h with
  | loneBackslash => simp [item, hmark.symm, escape]
  | unknown hletter hlookup => simp [item, hmark.symm, escape, hletter, hlookup]
  | @malformed e digits t hdigits hbad =>
    have hdecode : e.decode digits = .error (.malformedHex e digits) := by
      rw [HexEscape.decode, if_neg hbad]
    simp [item, hmark.symm, escape, HexEscape.ofLetter?_letter, ← hdigits, hdecode]
  | @beyond e digits t hlen hhex hbeyond =>
    have htake : (digits ++ t).take e.width = digits := by simp [← hlen]
    have hdecode : e.decode digits = .error (.beyondUnicode e digits) := by
      simp [HexEscape.decode, hlen, hhex, CodePoint.ofNat?, Nat.not_lt.mpr hbeyond]
    simp [item, hmark.symm, escape, HexEscape.ofLetter?_letter, htake, hdecode]

theorem body_obstacle (hmark : mark ≠ '\\') (h : Obstacle r f) : body mark 0 r = .error f := by
  cases r with
  | nil =>
    cases h
    rfl
  | cons d t => simp only [body, item_of_obstacle hmark h]

theorem unit_or_obstacle_of_letter (mark : CodePoint) (e : HexEscape) (t : Text) :
    (∃ unit c r, SpellsUnit mark unit c ∧ ('\\' : CodePoint) :: e.letter :: t = unit ++ r) ∨
      ∃ f, Obstacle (('\\' : CodePoint) :: e.letter :: t) f := by
  by_cases hdigits : (t.take e.width).length = e.width ∧
      (t.take e.width).all CodePoint.isHexDigit = true
  · by_cases hvalue : Text.hexValue (t.take e.width) < 0x110000
    · refine Or.inl ⟨_, ⟨_, hvalue⟩, t.drop e.width, .number hdigits.1 hdigits.2 rfl, ?_⟩
      simp
    · have hbeyond := Obstacle.beyond (t := t.drop e.width) hdigits.1 hdigits.2
        (Nat.not_lt.mp hvalue)
      rw [List.take_append_drop] at hbeyond
      exact Or.inr ⟨_, hbeyond⟩
  · exact Or.inr ⟨_, .malformed rfl hdigits⟩

/-- A text starts with the closing quote, with a unit or with an obstacle. -/
theorem close_or_unit_or_obstacle (mark : CodePoint) (t : Text) :
    (∃ r, t = mark :: r) ∨ (∃ unit c r, SpellsUnit mark unit c ∧ t = unit ++ r) ∨
      ∃ f, Obstacle t f := by
  rcases t with _ | ⟨c, t⟩
  · exact Or.inr (Or.inr ⟨_, .unterminated⟩)
  by_cases hclose : c = mark
  · exact Or.inl ⟨t, by rw [hclose]⟩
  refine Or.inr ?_
  by_cases hback : c = '\\'
  · subst hback
    rcases t with _ | ⟨d, t⟩
    · exact Or.inr ⟨_, .loneBackslash⟩
    · cases hletter : HexEscape.ofLetter? d with
      | some e => exact eq_letter hletter ▸ unit_or_obstacle_of_letter mark e t
      | none =>
        cases hlookup : escapes.lookup d with
        | some value => exact Or.inl ⟨_, value, t, .escape (mem_of_lookup hlookup), rfl⟩
        | none => exact Or.inr ⟨_, .unknown hletter hlookup⟩
  · exact Or.inl ⟨[c], c, t, .plain hclose hback, rfl⟩

/-- Every text is units and then the closing quote or an obstacle. -/
theorem spells_or_faulty (mark : CodePoint) (t : Text) :
    (∃ units value rest, Spells mark units value ∧ t = units ++ mark :: rest) ∨
      ∃ f, Faulty mark t f := by
  rcases close_or_unit_or_obstacle mark t with ⟨r, rfl⟩ | ⟨unit, c, r, hunit, rfl⟩ | ⟨f, hf⟩
  · exact Or.inl ⟨[], [], r, .nil, rfl⟩
  · have := List.length_pos_iff.mpr hunit.ne_nil
    rcases spells_or_faulty mark r with
      ⟨units, value, rest, hs, rfl⟩ | ⟨f, units, value, rest, hs, hf, rfl⟩
    · exact Or.inl ⟨unit ++ units, c :: value, rest, .cons hunit hs, by simp⟩
    · exact Or.inr ⟨f, unit ++ units, c :: value, rest, .cons hunit hs, hf, by simp⟩
  · exact Or.inr ⟨f, [], [], t, .nil, hf, rfl⟩
termination_by t.length
decreasing_by
  subst_vars
  simp only [List.length_append]
  omega

theorem lexeme_of_spells (hmark : mark ∈ delimiters) {units value : Text}
    (h : Spells mark units value) (rest : Text) :
    lexeme mark (units ++ mark :: rest) =
      .ok ⟨⟨.stringLiteral, value⟩, mark :: (units ++ [mark]), rest⟩ := by
  simp [lexeme, body_spells (ne_backslash hmark) h, body_close, Except.map]

theorem lexeme_of_faulty (hmark : mark ∈ delimiters) (h : Faulty mark t f) :
    lexeme mark t = .error f := by
  obtain ⟨units, value, rest, hs, hf, rfl⟩ := h
  have hback := ne_backslash hmark
  simp [lexeme, body_spells hback hs, body_obstacle hback hf, Except.map]

end Body

end ExprLexer.StringLiteral
