import ExprLexer.Lexer
import ExprLexer.Proofs.StringGrammar
import Mathlib.Data.List.Forall2

/-!
# Decoding a literal

A lexer that stands at a quote reads a literal there exactly if what stands between this quote and
a later one is a sequence of units, and gives the code points that the units spell. The closing
quote is the first one after whole units, so each text can be spelled in many ways, and each of
them is read back whatever follows.
-/

namespace ExprLexer

namespace StringLiteral

variable {mark : CodePoint} {units value : Text}

theorem spells_iff_forall₂ : Spells mark units value ↔
    ∃ parts : List Text, List.Forall₂ (SpellsUnit mark) parts value ∧ parts.flatten = units := by
  constructor
  · intro h
    induction h with
    | nil => exact ⟨[], .nil, rfl⟩
    | @cons unit _ _ _ hunit _ ih =>
      obtain ⟨parts, hparts, rfl⟩ := ih
      exact ⟨unit :: parts, .cons hunit hparts, rfl⟩
  · rintro ⟨parts, hparts, rfl⟩
    induction hparts with
    | nil => exact .nil
    | cons hunit _ ih => exact .cons hunit ih

theorem mem_escapes_of_delimiter : ∀ mark ∈ delimiters, (mark, mark) ∈ escapes := by
  decide

theorem exists_spellsUnit (hmark : mark ∈ delimiters) (c : CodePoint) :
    ∃ unit, SpellsUnit mark unit c := by
  by_cases hquote : c = mark
  · subst hquote
    exact ⟨_, .escape (mem_escapes_of_delimiter c hmark)⟩
  by_cases hback : c = '\\'
  · subst hback
    have hkey : (CodePoint.ofChar '\\', CodePoint.ofChar '\\') ∈ escapes := by decide
    exact ⟨_, .escape hkey⟩
  · exact ⟨_, .plain hquote hback⟩

theorem exists_forall₂_spellsUnit (hmark : mark ∈ delimiters) (value : Text) :
    ∃ parts : List Text, List.Forall₂ (SpellsUnit mark) parts value := by
  induction value with
  | nil => exact ⟨[], .nil⟩
  | cons c value ih =>
    obtain ⟨unit, hunit⟩ := exists_spellsUnit hmark c
    obtain ⟨parts, hparts⟩ := ih
    exact ⟨unit :: parts, .cons hunit hparts⟩

end StringLiteral

open StringLiteral

section Place

variable {source units rest : Text} {c : CodePoint} {i j : Nat}

theorem of_drop_eq_append_cons (h : source.drop i = units ++ c :: rest) :
    (source.take (i + units.length)).drop i = units ∧ source[i + units.length]? = some c ∧
      source.drop (i + units.length + 1) = rest := by
  refine ⟨?_, ?_, ?_⟩
  · rw [List.drop_take, h, Nat.add_sub_cancel_left, List.take_left]
  · rw [← List.getElem?_drop, h]
    simp
  · rw [Nat.add_assoc, ← List.drop_drop, h]
    simp

theorem drop_eq_cons (h : source[i]? = some c) : source.drop i = c :: source.drop (i + 1) := by
  obtain ⟨hi, rfl⟩ := List.getElem?_eq_some_iff.mp h
  exact List.drop_eq_getElem_cons hi

theorem drop_eq_append_cons (hij : i ≤ j) (h : source[j]? = some c) :
    source.drop i = (source.take j).drop i ++ c :: source.drop (j + 1) := by
  have hi : i ≤ (source.take j).length := by
    have hj := (List.getElem?_eq_some_iff.mp h).1
    rw [List.length_take]
    omega
  conv_lhs => rw [← List.take_append_drop j source, List.drop_append_of_le_length hi]
  rw [drop_eq_cons h]

end Place

section Pulls

variable {v : Vocabulary} {mark : CodePoint} {units value t : Text} {f : Fault}

theorem Lexer.pull_spelled (hmark : mark ∈ delimiters) (h : Spells mark units value) (rest : Text)
    (position : Nat) : (Lexer.mk position (mark :: (units ++ mark :: rest)) true).pull v =
      (.token ⟨.stringLiteral, value⟩, ⟨position + units.length + 2, rest, true⟩) := by
  have hblank := delimiter_not_blank mark hmark
  simp [Lexer.pull, hblank, Vocabulary.firstLexeme, hmark, lexeme_of_spells hmark h, Nat.add_assoc]

theorem Lexer.pull_faulty (hmark : mark ∈ delimiters) (h : Faulty mark t f) (position : Nat) :
    (Lexer.mk position (mark :: t) true).pull v =
      (.failure ⟨f, position, mark :: t⟩, ⟨position, mark :: t, false⟩) := by
  have hblank := delimiter_not_blank mark hmark
  simp [Lexer.pull, hblank, Vocabulary.firstLexeme, hmark, lexeme_of_faulty hmark h]

end Pulls

/-- At a quote a lexer gives the literal of a text and comes to stand behind another quote exactly
if units that spell the text stand between the two. So every spelling of every text is read back,
whatever follows it, and every text has one. -/
theorem pull_literal_iff {mark : CodePoint} (hmark : mark ∈ delimiters) (v : Vocabulary) :
    (∀ (source : Text) (start : Nat), source[start]? = some mark → ∀ (value : Text) (stop : Nat),
      (Lexer.mk start (source.drop start) true).pull v =
          (.token ⟨.stringLiteral, value⟩, ⟨stop, source.drop stop, true⟩) ↔
        start + 1 < stop ∧ Spells mark ((source.take (stop - 1)).drop (start + 1)) value ∧
          source[stop - 1]? = some mark) ∧
    ∀ value : Text, (∃ parts : List Text, List.Forall₂ (SpellsUnit mark) parts value) ∧
      ∀ parts : List Text, List.Forall₂ (SpellsUnit mark) parts value →
        ∀ (rest : Text) (position : Nat),
          (Lexer.mk position (mark :: (parts.flatten ++ mark :: rest)) true).pull v =
            (.token ⟨.stringLiteral, value⟩,
              ⟨position + parts.flatten.length + 2, rest, true⟩) := by
  refine ⟨?_, ?_⟩
  · intro source start hstart value stop
    rw [drop_eq_cons hstart]
    constructor
    · intro hpull
      rcases spells_or_faulty mark (source.drop (start + 1)) with
        ⟨units, value', rest, hs, hdrop⟩ | ⟨f, hf⟩
      · obtain ⟨hunits, hclose, -⟩ := of_drop_eq_append_cons hdrop
        rw [hdrop, Lexer.pull_spelled hmark hs] at hpull
        simp only [Prod.mk.injEq, Pull.token.injEq, Token.mk.injEq, Lexer.mk.injEq, true_and]
          at hpull
        obtain ⟨rfl, rfl, -⟩ := hpull
        have hend : start + units.length + 2 - 1 = start + 1 + units.length := by omega
        rw [hend, hunits]
        exact ⟨by omega, hs, hclose⟩
      · rw [Lexer.pull_faulty hmark hf] at hpull
        cases (Prod.mk.inj hpull).1
    · rintro ⟨hlt, hs, hclose⟩
      have hlen : ((source.take (stop - 1)).drop (start + 1)).length = stop - 1 - (start + 1) := by
        have hstop := (List.getElem?_eq_some_iff.mp hclose).1
        rw [List.length_drop, List.length_take, Nat.min_eq_left (Nat.le_of_lt hstop)]
      have hend : start + (stop - 1 - (start + 1)) + 2 = stop := by omega
      have hnext : stop - 1 + 1 = stop := by omega
      rw [drop_eq_append_cons (by omega : start + 1 ≤ stop - 1) hclose,
        Lexer.pull_spelled hmark hs, hlen, hend, hnext]
  · intro value
    refine ⟨exists_forall₂_spellsUnit hmark value, ?_⟩
    intro parts hparts rest position
    exact Lexer.pull_spelled hmark (spells_iff_forall₂.mpr ⟨parts, hparts, rfl⟩) rest position

/-- A literal with a quote hidden in an escape, behind a bracket. Two escaped surrogates stay two
code points. -/
theorem pull_literal_iff_of_hidden_quote :
    let source : Text := "('a\\'\\u00E9' '"
    let pair : Text := [⟨0xD83D, by decide⟩, ⟨0xDE00, by decide⟩]
    CodePoint.ofChar '\'' ∈ delimiters ∧ source[1]? = some (CodePoint.ofChar '\'') ∧
      (Lexer.mk 1 (source.drop 1) true).pull .empty =
        (.token ⟨.stringLiteral, "a'é"⟩, ⟨12, " '", true⟩) ∧
      Spells '\'' "a\\'\\u00E9" "a'é" ∧
      (Lexer.mk 0 "'\\uD83D\\U0000de00'x" true).pull .empty =
        (.token ⟨.stringLiteral, pair⟩, ⟨18, "x", true⟩) := by
  intro source pair
  have hmark : CodePoint.ofChar '\'' ∈ delimiters := by decide
  have hstart : source[1]? = some (CodePoint.ofChar '\'') := by decide
  obtain ⟨hiff, hall⟩ := pull_literal_iff hmark .empty
  have hpull : (Lexer.mk 1 (source.drop 1) true).pull .empty =
      (.token ⟨.stringLiteral, "a'é"⟩, ⟨12, source.drop 12, true⟩) := by decide
  refine ⟨hmark, hstart, hpull, ?_, ?_⟩
  · exact ((hiff source 1 hstart "a'é" 12).mp hpull).2.1
  · have hfirst : SpellsUnit '\'' "\\uD83D" ⟨0xD83D, by decide⟩ :=
      @SpellsUnit.number _ .four "D83D" _ (by decide) (by decide) (by decide)
    have hsecond : SpellsUnit '\'' "\\U0000de00" ⟨0xDE00, by decide⟩ :=
      @SpellsUnit.number _ .eight "0000de00" _ (by decide) (by decide) (by decide)
    exact (hall pair).2 _ (.cons hfirst (.cons hsecond .nil)) "x" 0

end ExprLexer
