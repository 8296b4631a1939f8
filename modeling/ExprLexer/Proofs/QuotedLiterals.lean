import ExprLexer.Proofs.LiteralDecoding
import ExprLexer.Proofs.Printing

/-!
# Quoted text as a literal

Two conventions of escapes meet here: that in which a text is displayed between quotes, and that of
string literals. Each unit of the display is a unit of a literal, whichever quote is in use and
whichever code points count as printable. So the display of a text is a literal of the language that
stands for the text, and different tokens never look the same.
-/

namespace ExprLexer

open StringLiteral

section Units

variable {mark : CodePoint}

theorem Text.quoteMark_mem (t : Text) : t.quoteMark ∈ delimiters := by
  unfold quoteMark
  split_ifs <;> decide

theorem spellsUnit_numericEscape (mark c : CodePoint) :
    SpellsUnit mark (Text.numericEscape c) c := by
  have hlt := c.isLt
  unfold Text.numericEscape
  split_ifs with htwo hfour
  · exact spellsUnit_hexDigits mark .two htwo
  · exact spellsUnit_hexDigits mark .four hfour
  · apply spellsUnit_hexDigits mark .eight
    simp only [HexEscape.width]
    omega

theorem spellsUnit_quotedUnit (hmark : mark ∈ delimiters) (printable : CodePoint → Bool)
    (c : CodePoint) : SpellsUnit mark (Text.quotedUnit printable mark c) c := by
  unfold Text.quotedUnit
  split_ifs with hkey hnewline hreturn htab hprintable
  · apply SpellsUnit.escape
    rcases hkey with rfl | rfl
    · exact mem_escapes_of_delimiter c hmark
    · decide
  · subst hnewline
    exact .escape (by decide)
  · subst hreturn
    exact .escape (by decide)
  · subst htab
    exact .escape (by decide)
  · exact .plain (fun h => hkey (Or.inl h)) (fun h => hkey (Or.inr h))
  · exact spellsUnit_numericEscape mark c

theorem spells_quoted (hmark : mark ∈ delimiters) (printable : CodePoint → Bool) (t : Text) :
    Spells mark (t.flatMap (Text.quotedUnit printable mark)) t :=
  spells_flatMap (spellsUnit_quotedUnit hmark printable) t

end Units

namespace Vocabulary

variable (v : Vocabulary)

theorem walk_literal {mark : CodePoint} {units value : Text} (hmark : mark ∈ delimiters)
    (h : Spells mark units value) :
    v.walk (mark :: (units ++ [mark])) =
      ⟨[(⟨.stringLiteral, value⟩, units.length + 2)], .stop, ⟨units.length + 2, [], false⟩⟩ := by
  have hfirst := Lexer.pull_spelled (v := v) hmark h [] 0
  have hlast : (Lexer.mk (units.length + 2) [] true).pull v =
      (.stop, ⟨units.length + 2, [], false⟩) := by simp [Lexer.pull]
  rw [Nat.zero_add] at hfirst
  simp only [walk, Lexer.walk, Lexer.start, List.length_cons, List.length_append, List.length_nil]
  simp only [Lexer.take, hfirst, hlast]

theorem walk_quotedWith (printable : CodePoint → Bool) (t : Text) :
    v.walk (t.quotedWith printable) =
      ⟨[(⟨.stringLiteral, t⟩, (t.quotedWith printable).length)], .stop,
        ⟨(t.quotedWith printable).length, [], false⟩⟩ := by
  have h := v.walk_literal t.quoteMark_mem (spells_quoted t.quoteMark_mem printable t)
  simpa only [Text.quotedWith, List.length_cons, List.length_append, List.length_nil] using h

end Vocabulary

theorem Text.eq_of_quotedWith_eq {printable printable' : CodePoint → Bool} {t t' : Text}
    (h : t.quotedWith printable = t'.quotedWith printable') : t = t' := by
  have hwalk := Vocabulary.empty.walk_quotedWith printable t
  rw [h, Vocabulary.walk_quotedWith] at hwalk
  simp only [Walk.mk.injEq, List.cons.injEq, Prod.mk.injEq, Token.mk.injEq] at hwalk
  exact hwalk.1.1.1.2.symm

namespace Token

/-- The display of a token where other code points count as printable. -/
def displayWith (printable : CodePoint → Bool) (t : Token) : Text :=
  t.kind.name ++ "(" ++ t.text.quotedWith printable ++ ")"

/-- What stands between the first opening parenthesis and the last code point. -/
def shownText (display : Text) : Text :=
  ((display.dropWhile (· != CodePoint.ofChar '(')).drop 1).dropLast

theorem name_has_no_parenthesis : ∀ k ∈ Kind.all,
    ∀ c ∈ Text.ofString k.name, (c != CodePoint.ofChar '(') = true := by
  decide

variable {printable printable' : CodePoint → Bool}

theorem split_displayWith (printable : CodePoint → Bool) (t : Token) :
    (t.displayWith printable).takeWhile (· != CodePoint.ofChar '(') = t.kind.name ∧
      shownText (t.displayWith printable) = t.text.quotedWith printable := by
  have hname := name_has_no_parenthesis t.kind t.kind.mem_all
  have hshape : t.displayWith printable = Text.ofString t.kind.name ++
      CodePoint.ofChar '(' :: (t.text.quotedWith printable ++ [CodePoint.ofChar ')']) := by
    simp [displayWith, Text.ofString]
  rw [shownText, hshape, List.takeWhile_append_of_pos hname, List.dropWhile_append_of_pos hname]
  simp

theorem eq_of_displayWith_eq {t t' : Token}
    (h : t.displayWith printable = t'.displayWith printable') : t = t' := by
  obtain ⟨hname, hshown⟩ := t.split_displayWith printable
  obtain ⟨hname', hshown'⟩ := t'.split_displayWith printable'
  rw [h, hname'] at hname
  rw [h, hshown'] at hshown
  obtain ⟨kind, text⟩ := t
  obtain ⟨kind', text'⟩ := t'
  obtain rfl := Kind.eq_of_name_eq hname
  obtain rfl := Text.eq_of_quotedWith_eq hshown
  rfl

end Token

/-- Whatever counts as printable, the part of a display between the parentheses is read as one
string literal, which is the text of the token, up to its end and without error. So a display
belongs to one token only. The display in use is that of the printable code points of Unicode. -/
theorem walk_shownText (v : Vocabulary) (printable : CodePoint → Bool) :
    (∀ t : Token,
      let shown := Token.shownText (t.displayWith printable)
      shown = t.text.quotedWith printable ∧
        v.walk shown =
          ⟨[(⟨.stringLiteral, t.text⟩, shown.length)], .stop, ⟨shown.length, [], false⟩⟩) ∧
    Function.Injective (Token.displayWith printable) ∧
    Token.display = Token.displayWith CodePoint.isPrintable := by
  refine ⟨?_, ?_, ?_⟩
  · intro t shown
    have hshown : shown = t.text.quotedWith printable := (t.split_displayWith printable).2
    rw [hshown]
    exact ⟨rfl, v.walk_quotedWith printable t.text⟩
  · intro t t' h
    exact Token.eq_of_displayWith_eq h
  · rfl

/-- Both quotes, a backslash, a control code, a lone surrogate and a code point beyond U+FFFF. -/
example :
    let t : Text :=
      ['\'', '"', '\\', '\n', '\x7f', ⟨0xD83D, by decide⟩, ⟨0x10FFFF, by decide⟩]
    t.quoted = "'\\'\"\\\\\\n\\x7f\\ud83d\\U0010ffff'" ∧
      Vocabulary.empty.tokens t.quoted = .ok [⟨.stringLiteral, t⟩] := by
  decide +kernel

end ExprLexer
