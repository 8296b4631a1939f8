import ExprLexer.Proofs.Printing
import ExprLexer.Proofs.RelevantOperators
import Mathlib.Tactic.TFAE

/-!
# Usable operators

Every registered operator is of use or dead, and its first code point alone decides which. One that
starts with an ordinary code point is read where it stands alone, whatever else is registered. The
others are read nowhere. So a vocabulary may be taken to hold usable operators only.
-/

namespace ExprLexer

theorem NumberForm.kind_ne_operator (form : NumberForm) : form.kind ≠ .operator := by
  cases form <;> decide

theorem Reads.of_operator {O : Set Text} {input : Text} {l : Lexeme} (hO : [] ∉ O)
    (h : Reads O input (.ok l)) (hkind : l.token.kind = .operator) :
    l.token.text ∈ O ∧ l.token.text.StartsOrdinary := by
  cases h with
  | @operator op name rest hord _ hop =>
    refine ⟨hop.mem, hord.of_prefix ?_ (List.prefix_append op rest)⟩
    rintro rfl
    exact hO hop.mem
  | @number form => exact absurd hkind form.kind_ne_operator
  | _ => cases hkind

namespace Vocabulary

variable {v : Vocabulary} {op : Text}

theorem Filed.walk_operator (hv : v.Filed) (hop : op ∈ v.operators) (hord : op.StartsOrdinary) :
    v.walk op = ⟨[(⟨.operator, op⟩, op.length)], .stop, ⟨op.length, [], false⟩⟩ := by
  have hname := Symbol.name_isLongest op
  have hlong : IsLongest v.operatorSet op op := by
    refine ⟨List.prefix_refl op, hop, ?_⟩
    intro o _ hbegins
    exact hbegins.length_le
  have hread : Reads v.operatorSet (op ++ []) (.ok ⟨⟨.operator, op⟩, op, []⟩) := by
    refine .operator ?_ ?_ ?_ hname.begins.length_le
    · rwa [List.append_nil]
    · rwa [List.append_nil]
    · rwa [List.append_nil]
  rw [(hread.scans_raw hv.nil_not_mem).walk_eq hv]
  simp [Walk.ofSegments, Segment.marks, Segment.text, Remnant.text]

theorem Reachable.exists_usable (hv : v.Reachable) :
    ∃ v' : Vocabulary, v'.Reachable ∧
      (∀ op, op ∈ v'.operators ↔ op ∈ v.operators ∧ op.StartsOrdinary) ∧
        ∀ source, v'.walk source = v.walk source := by
  have hne : [] ∉ (v.operators.filter fun op => decide op.StartsOrdinary).toFinset := by
    simp [Text.StartsOrdinary]
  obtain ⟨v', hv', hset⟩ := exists_reachable _ hne
  have hmem : ∀ op, op ∈ v'.operators ↔ op ∈ v.operators ∧ op.StartsOrdinary := by
    intro op
    change op ∈ v'.operatorSet ↔ _
    simp [hset]
  refine ⟨v', hv', hmem, ?_⟩
  intro source
  apply hv'.filed.walk_eq_of_agreeOn hv.filed
  intro op hrel
  refine (hmem op).trans ?_
  exact and_iff_left hrel.1

theorem Filed.usable_of_emits (hv : v.Filed) (h : v.Emits ⟨.operator, op⟩) :
    op ∈ v.operators ∧ op.StartsOrdinary := by
  obtain ⟨l, input, hread, htoken⟩ := hv.reads_of_emits h
  have husable := hread.of_operator hv.nil_not_mem (congrArg Token.kind htoken)
  rwa [htoken] at husable

theorem emits_of_tokens_eq {source : Text} {ts : List Token} {t : Token}
    (h : v.tokens source = .ok ts) (ht : t ∈ ts) : v.Emits t := by
  refine ⟨source, ?_⟩
  unfold tokens Walk.result at h
  split at h
  · cases h
  · cases h
    exact ht

end Vocabulary

/-- Whatever was registered before and after it, an operator is the one token of a walk over it
exactly if its first code point is no blank, quote, bracket or separator, and if it is one of these,
no walk over any source comes upon the operator. Nothing else becomes an operator token. -/
theorem operator_usable_tfae (ds : List Datum) (actions : List Action) (op : Text) :
    let v := (Vocabulary.build ds).vocabulary.afterAll actions
    List.TFAE [
      op ∈ v.operators ∧ op.StartsOrdinary,
      v.walk op = ⟨[(⟨.operator, op⟩, op.length)], .stop, ⟨op.length, [], false⟩⟩,
      v.tokens op = .ok [⟨.operator, op⟩],
      v.Emits ⟨.operator, op⟩] := by
  intro v
  have hv : v.Filed := ((Vocabulary.reachable_build ds).afterAll actions).filed
  tfae_have 1 → 2 := fun h => hv.walk_operator h.1 h.2
  tfae_have 2 → 3 := by
    intro h
    rw [Vocabulary.tokens, h]
    rfl
  tfae_have 3 → 4 := fun h => Vocabulary.emits_of_tokens_eq h (List.mem_singleton_self _)
  tfae_have 4 → 1 := hv.usable_of_emits
  tfae_finish

/-- An operator may look like a number or a name and hold a blank or a quote, one inside the other,
and each is read where it stands alone. The last one is registered and dead. -/
example :
    let v := (Vocabulary.build [.text "1x", .text "1", .text "not in", .text "not", .text "x'(",
      .text " x"]).vocabulary
    (v.operators.filter fun op => v.tokens op = .ok [⟨.operator, op⟩]) =
      v.operators.dropLast := by
  decide

end ExprLexer
