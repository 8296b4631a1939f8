import ExprLexer.Text.Utf8
import Mathlib.Data.List.Basic

/-!
# The text in a file

Bytes are decoded exactly if they are the UTF-8 of some string, and the text is then that string.
Afterwards the lines are the same, and each ends by a line feed.
-/

namespace ExprLexer.Text

/-! ## Bytes -/

section Steps

variable {b : UInt8} {least greatest bits position : Nat} {held t : List UInt8}

theorem leadByte?_two {b : Nat} (h : 0xC2 ≤ b ∧ b ≤ 0xDF) :
    leadByte? b = some (1, 0x80, 0xBF, b - 0xC0) := by
  rw [leadByte?, if_pos h]

theorem leadByte?_three {b : Nat} (h : 0xE0 ≤ b ∧ b ≤ 0xEF) :
    leadByte? b = some (2, if b = 0xE0 then 0xA0 else 0x80, if b = 0xED then 0x9F else 0xBF,
      b - 0xE0) := by
  unfold leadByte?
  rw [if_neg (by omega)]
  by_cases hE0 : b = 0xE0
  · simp [hE0]
  by_cases hED : b = 0xED
  · simp [hED]
  rw [if_neg hE0, if_neg hED, if_pos (by omega), if_neg hE0, if_neg hED]

theorem leadByte?_four {b : Nat} (h : 0xF0 ≤ b ∧ b ≤ 0xF4) :
    leadByte? b = some (3, if b = 0xF0 then 0x90 else 0x80, if b = 0xF4 then 0x8F else 0xBF,
      b - 0xF0) := by
  unfold leadByte?
  rw [if_neg (by omega), if_neg (by omega), if_neg (by omega), if_neg (by omega)]
  by_cases hF0 : b = 0xF0
  · simp [hF0]
  by_cases hF4 : b = 0xF4
  · simp [hF4]
  rw [if_neg hF0, if_pos (by omega), if_neg hF0, if_neg hF4]

theorem leadByte?_none {b : Nat} (h : b < 0xC2 ∨ 0xF4 < b) : leadByte? b = none := by
  unfold leadByte?
  repeat rw [if_neg (by omega)]

theorem decodeFrom_ascii (h : b.toNat < 0x80) :
    decodeFrom 0 least greatest bits position held (b :: t) =
      prepend b.toNat (decodeFrom 0 0 0 0 (position + 1) [] t) := by
  simp only [decodeFrom, if_pos h]

theorem decodeFrom_lead {r : Nat × Nat × Nat × Nat} (h : 0x80 ≤ b.toNat)
    (hr : leadByte? b.toNat = some r) :
    decodeFrom 0 least greatest bits position held (b :: t) =
      decodeFrom r.1 r.2.1 r.2.2.1 r.2.2.2 position [b] t := by
  simp only [decodeFrom, if_neg (Nat.not_lt.mpr h), hr]

theorem decodeFrom_tail {owed : Nat} (h : least ≤ b.toNat ∧ b.toNat ≤ greatest) :
    decodeFrom (owed + 2) least greatest bits position held (b :: t) =
      decodeFrom (owed + 1) 0x80 0xBF (bits * 64 + (b.toNat - 0x80)) position (held ++ [b]) t := by
  simp only [decodeFrom]
  rw [if_neg (by omega), if_neg (by omega)]

theorem decodeFrom_last (h : least ≤ b.toNat ∧ b.toNat ≤ greatest) :
    decodeFrom 1 least greatest bits position held (b :: t) =
      prepend (bits * 64 + (b.toNat - 0x80))
        (decodeFrom 0 0 0 0 (position + held.length + 1) [] t) := by
  simp only [decodeFrom]
  rw [if_neg (by omega), if_pos trivial]

end Steps

/-- The bytes of one code point, and its number. The bounds of the second byte leave out what is too
long for its number, the surrogates, and what lies beyond Unicode. -/
inductive Sequence : List UInt8 → Nat → Prop
  | one {b n} : b.toNat < 0x80 → n = b.toNat → Sequence [b] n
  | two {b c n} : 0xC2 ≤ b.toNat ∧ b.toNat ≤ 0xDF → 0x80 ≤ c.toNat ∧ c.toNat ≤ 0xBF →
      n = (b.toNat - 0xC0) * 64 + (c.toNat - 0x80) → Sequence [b, c] n
  | three {b c d n} : 0xE0 ≤ b.toNat ∧ b.toNat ≤ 0xEF → 0x80 ≤ c.toNat ∧ c.toNat ≤ 0xBF →
      (b.toNat = 0xE0 → 0xA0 ≤ c.toNat) ∧ (b.toNat = 0xED → c.toNat ≤ 0x9F) →
      0x80 ≤ d.toNat ∧ d.toNat ≤ 0xBF →
      n = ((b.toNat - 0xE0) * 64 + (c.toNat - 0x80)) * 64 + (d.toNat - 0x80) →
      Sequence [b, c, d] n
  | four {b c d e n} : 0xF0 ≤ b.toNat ∧ b.toNat ≤ 0xF4 → 0x80 ≤ c.toNat ∧ c.toNat ≤ 0xBF →
      (b.toNat = 0xF0 → 0x90 ≤ c.toNat) ∧ (b.toNat = 0xF4 → c.toNat ≤ 0x8F) →
      0x80 ≤ d.toNat ∧ d.toNat ≤ 0xBF → 0x80 ≤ e.toNat ∧ e.toNat ≤ 0xBF →
      n = (((b.toNat - 0xF0) * 64 + (c.toNat - 0x80)) * 64 + (d.toNat - 0x80)) * 64 +
        (e.toNat - 0x80) →
      Sequence [b, c, d, e] n

theorem Sequence.isValidChar {bytes : List UInt8} {n : Nat} (h : Sequence bytes n) :
    n.isValidChar := by
  unfold Nat.isValidChar
  cases h <;> omega

/-- Each character is written as the sequence of its number. -/
theorem sequence_utf8EncodeChar (x : Char) : Sequence (String.utf8EncodeChar x) x.toNat := by
  have hvalid : x.toNat < 0xD800 ∨ 0xDFFF < x.toNat ∧ x.toNat < 0x110000 := x.valid
  have hval : x.val.toNat = x.toNat := rfl
  unfold String.utf8EncodeChar
  rw [hval]
  generalize x.toNat = n at hvalid
  dsimp only
  split_ifs with h1 h2 h3
  · refine .one ?_ ?_ <;> simp only [UInt8.toNat_ofNat'] <;> omega
  · refine .two ?_ ?_ ?_ <;> simp only [UInt8.toNat_ofNat'] <;> omega
  · refine .three ?_ ?_ ?_ ?_ ?_ <;> simp only [UInt8.toNat_ofNat'] <;> omega
  · refine .four ?_ ?_ ?_ ?_ ?_ ?_ <;> simp only [UInt8.toNat_ofNat'] <;> omega

/-- There is no other sequence of the same number. -/
theorem Sequence.utf8EncodeChar_eq {bytes : List UInt8} {x : Char}
    (h : Sequence bytes x.toNat) : String.utf8EncodeChar x = bytes := by
  have hbyte : ∀ {n : Nat} {b : UInt8}, n = b.toNat → UInt8.ofNat n = b := by
    rintro n b rfl
    exact UInt8.ofNat_toNat
  have hval : x.val.toNat = x.toNat := rfl
  unfold String.utf8EncodeChar
  rw [hval]
  generalize x.toNat = n at h
  dsimp only
  cases h with
  | @one b _ hb hn => rw [if_pos (by omega), hbyte hn]
  | @two b c _ hb hc hn =>
    rw [if_neg (by omega), if_pos (by omega), hbyte (b := b) (by omega), hbyte (b := c) (by omega)]
  | @three b c d _ hb hc hedge hd hn =>
    rw [if_neg (by omega), if_neg (by omega), if_pos (by omega), hbyte (b := b) (by omega),
      hbyte (b := c) (by omega), hbyte (b := d) (by omega)]
  | @four b c d e _ hb hc hedge hd he hn =>
    rw [if_neg (by omega), if_neg (by omega), if_neg (by omega), hbyte (b := b) (by omega),
      hbyte (b := c) (by omega), hbyte (b := d) (by omega), hbyte (b := e) (by omega)]

/-- Decoding takes a sequence as its code point. -/
theorem Sequence.decodeFrom_append {bytes : List UInt8} {n : Nat} (h : Sequence bytes n)
    (position : Nat) (rest : List UInt8) :
    decodeFrom 0 0 0 0 position [] (bytes ++ rest) =
      prepend n (decodeFrom 0 0 0 0 (position + bytes.length) [] rest) := by
  cases h with
  | one hb hn =>
    simp only [List.cons_append, List.nil_append]
    rw [hn, decodeFrom_ascii hb, List.length_singleton]
  | two hb hc hn =>
    simp only [List.cons_append, List.nil_append]
    rw [hn, decodeFrom_lead (by omega) (leadByte?_two hb), decodeFrom_last hc]
    rfl
  | @three b c d _ hb hc hedge hd hn =>
    have hc' : (if b.toNat = 0xE0 then 0xA0 else 0x80) ≤ c.toNat ∧
        c.toNat ≤ (if b.toNat = 0xED then 0x9F else 0xBF) := by
      split_ifs <;> omega
    simp only [List.cons_append, List.nil_append]
    rw [hn, decodeFrom_lead (by omega) (leadByte?_three hb), decodeFrom_tail hc',
      decodeFrom_last hd]
    rfl
  | @four b c d e _ hb hc hedge hd he hn =>
    have hc' : (if b.toNat = 0xF0 then 0x90 else 0x80) ≤ c.toNat ∧
        c.toNat ≤ (if b.toNat = 0xF4 then 0x8F else 0xBF) := by
      split_ifs <;> omega
    simp only [List.cons_append, List.nil_append]
    rw [hn, decodeFrom_lead (by omega) (leadByte?_four hb), decodeFrom_tail hc',
      decodeFrom_tail hd, decodeFrom_last he]
    rfl

theorem exists_cons_of_decodeFrom {owed least greatest bits position : Nat}
    {held bytes : List UInt8} {t : Text}
    (h : decodeFrom (owed + 1) least greatest bits position held bytes = .ok t) :
    ∃ b rest, bytes = b :: rest ∧ least ≤ b.toNat ∧ b.toNat ≤ greatest := by
  cases bytes with
  | nil => cases h
  | cons b rest =>
    by_cases hb : b.toNat < least ∨ greatest < b.toNat
    · simp [decodeFrom, hb] at h
    · exact ⟨b, rest, rfl, by omega, by omega⟩

/-- What is decoded starts with a sequence. -/
theorem exists_sequence_of_decodeFrom {b : UInt8} {position : Nat} {tail : List UInt8} {t : Text}
    (h : decodeFrom 0 0 0 0 position [] (b :: tail) = .ok t) :
    ∃ bytes n rest, b :: tail = bytes ++ rest ∧ Sequence bytes n := by
  by_cases hascii : b.toNat < 0x80
  · exact ⟨[b], _, tail, rfl, .one hascii rfl⟩
  by_cases htwo : 0xC2 ≤ b.toNat ∧ b.toNat ≤ 0xDF
  · rw [decodeFrom_lead (by omega) (leadByte?_two htwo)] at h
    obtain ⟨c, rest, rfl, hc⟩ := exists_cons_of_decodeFrom h
    exact ⟨[b, c], _, rest, rfl, .two htwo hc rfl⟩
  by_cases hthree : 0xE0 ≤ b.toNat ∧ b.toNat ≤ 0xEF
  · rw [decodeFrom_lead (by omega) (leadByte?_three hthree)] at h
    obtain ⟨c, rest, rfl, hc⟩ := exists_cons_of_decodeFrom h
    rw [decodeFrom_tail hc] at h
    obtain ⟨d, rest, rfl, hd⟩ := exists_cons_of_decodeFrom h
    dsimp only at hc
    refine ⟨[b, c, d], _, rest, rfl, .three hthree ?_ ?_ hd rfl⟩
    · split_ifs at hc <;> omega
    · split_ifs at hc <;> omega
  by_cases hfour : 0xF0 ≤ b.toNat ∧ b.toNat ≤ 0xF4
  · rw [decodeFrom_lead (by omega) (leadByte?_four hfour)] at h
    obtain ⟨c, rest, rfl, hc⟩ := exists_cons_of_decodeFrom h
    rw [decodeFrom_tail hc] at h
    obtain ⟨d, rest, rfl, hd⟩ := exists_cons_of_decodeFrom h
    rw [decodeFrom_tail hd] at h
    obtain ⟨e, rest, rfl, he⟩ := exists_cons_of_decodeFrom h
    dsimp only at hc
    refine ⟨[b, c, d, e], _, rest, rfl, .four hfour ?_ ?_ hd he rfl⟩
    · split_ifs at hc <;> omega
    · split_ifs at hc <;> omega
  · have hnone : leadByte? b.toNat = none := leadByte?_none (by omega)
    simp [decodeFrom, hascii, hnone] at h

theorem decodeFrom_utf8EncodeChar_append (x : Char) (position : Nat) (rest : List UInt8) :
    decodeFrom 0 0 0 0 position [] (String.utf8EncodeChar x ++ rest) =
      (decodeFrom 0 0 0 0 (position + (String.utf8EncodeChar x).length) [] rest).map
        (CodePoint.ofChar x :: ·) := by
  rw [(sequence_utf8EncodeChar x).decodeFrom_append, prepend, ← CodePoint.ofChar_val,
    CodePoint.ofNat?_val, Option.getD_some]

theorem exists_char_of_decodeFrom {b : UInt8} {position : Nat} {tail : List UInt8} {t : Text}
    (h : decodeFrom 0 0 0 0 position [] (b :: tail) = .ok t) :
    ∃ x rest, b :: tail = String.utf8EncodeChar x ++ rest := by
  obtain ⟨bytes, n, rest, heq, hseq⟩ := exists_sequence_of_decodeFrom h
  have hn : (Char.ofNatAux n hseq.isValidChar).toNat = n := rfl
  refine ⟨Char.ofNatAux n hseq.isValidChar, rest, ?_⟩
  rw [Sequence.utf8EncodeChar_eq (hn.symm ▸ hseq), heq]

theorem decodeFrom_flatMap (xs : List Char) (position : Nat) :
    decodeFrom 0 0 0 0 position [] (xs.flatMap String.utf8EncodeChar) =
      .ok (xs.map CodePoint.ofChar) := by
  induction xs generalizing position with
  | nil => rfl
  | cons x xs ih =>
    rw [List.flatMap_cons, decodeFrom_utf8EncodeChar_append, ih]
    rfl

theorem exists_chars_of_decodeFrom {position : Nat} {bytes : List UInt8} {t : Text}
    (h : decodeFrom 0 0 0 0 position [] bytes = .ok t) :
    ∃ xs : List Char, bytes = xs.flatMap String.utf8EncodeChar := by
  induction hlen : bytes.length using Nat.strongRecOn generalizing position bytes t with
  | ind len ih =>
    cases bytes with
    | nil => exact ⟨[], rfl⟩
    | cons b tail =>
      obtain ⟨x, rest, heq⟩ := exists_char_of_decodeFrom h
      rw [heq, decodeFrom_utf8EncodeChar_append] at h
      obtain ⟨u, hu⟩ : ∃ u, decodeFrom 0 0 0 0 (position + (String.utf8EncodeChar x).length) []
          rest = .ok u := by
        cases hrest : decodeFrom 0 0 0 0 (position + (String.utf8EncodeChar x).length) [] rest with
        | ok u => exact ⟨u, rfl⟩
        | error u =>
          rw [hrest] at h
          cases h
      have hshort : rest.length < len := by
        have hpos : 0 < (String.utf8EncodeChar x).length := by
          rw [String.length_utf8EncodeChar]
          exact Char.utf8Size_pos x
        rw [← hlen, heq, List.length_append]
        omega
      obtain ⟨xs, rfl⟩ := ih rest.length hshort hu rfl
      exact ⟨x :: xs, by rw [heq, List.flatMap_cons]⟩

/-- Decoding is strict: it takes the bytes of strings, and no others. -/
theorem ofUtf8_eq_ok {bytes : List UInt8} {t : Text} :
    ofUtf8 bytes = .ok t ↔ ∃ s : String, bytes.toByteArray = s.toByteArray ∧ t = ofString s := by
  unfold ofUtf8
  constructor
  · intro h
    obtain ⟨xs, rfl⟩ := exists_chars_of_decodeFrom h
    refine ⟨String.ofList xs, by rw [String.toByteArray_ofList, List.utf8Encode], ?_⟩
    rw [decodeFrom_flatMap] at h
    rw [ofString, String.toList_ofList, Except.ok.inj h]
  · rintro ⟨s, hs, rfl⟩
    rw [← String.utf8Encode_toList, List.utf8Encode, List.toByteArray_inj] at hs
    rw [hs, decodeFrom_flatMap, ofString]

theorem exists_ofUtf8_eq_error {bytes : List UInt8} :
    (∃ u, ofUtf8 bytes = .error u) ↔ ¬ bytes.toByteArray.IsValidUTF8 := by
  constructor
  · rintro ⟨u, h⟩ ⟨xs, hxs⟩
    rw [List.utf8Encode, List.toByteArray_inj] at hxs
    rw [hxs, ofUtf8, decodeFrom_flatMap] at h
    cases h
  · intro h
    cases ht : ofUtf8 bytes with
    | error u => exact ⟨u, rfl⟩
    | ok t =>
      obtain ⟨s, hs, -⟩ := ofUtf8_eq_ok.mp ht
      exact absurd (hs ▸ s.isValidUTF8) h

/-! ## Line ends -/

/-- The same lines in two texts, the second of which ends them all by a line feed. A carriage return
ends a line, and a line feed right after it belongs to it. -/
inductive SameLines : Text → Text → Prop
  | nil : SameLines [] []
  | pair {t u : Text} : SameLines t u → SameLines ('\r' :: '\n' :: t) ('\n' :: u)
  | lone {t u : Text} : t.head? ≠ some ('\n' : CodePoint) → SameLines t u →
      SameLines ('\r' :: t) ('\n' :: u)
  | plain {c : CodePoint} {t u : Text} : c ≠ '\r' → SameLines t u → SameLines (c :: t) (c :: u)

theorem newline_ne_return : ('\n' : CodePoint) ≠ '\r' := by decide

theorem normalizeLines_true {t : Text} (h : t.head? ≠ some ('\n' : CodePoint)) :
    normalizeLines true t = normalizeLines false t := by
  cases t with
  | nil => rfl
  | cons c t =>
    have hc : c ≠ '\n' := fun heq => h (by rw [heq, List.head?_cons])
    simp [normalizeLines, hc]

theorem SameLines.normalizeLines_eq {t u : Text} (h : SameLines t u) :
    normalizeLines false t = u := by
  induction h with
  | nil => rfl
  | pair _ ih => simp [normalizeLines, ih, newline_ne_return]
  | lone hhead _ ih => simp [normalizeLines, normalizeLines_true hhead, ih]
  | plain hc _ ih => simp [normalizeLines, hc, ih]

theorem sameLines_normalizeLines (t : Text) :
    SameLines t (normalizeLines false t) ∧
      SameLines ('\r' :: t) ('\n' :: normalizeLines true t) := by
  induction t with
  | nil => exact ⟨.nil, .lone (by simp) .nil⟩
  | cons c t ih =>
    have hfirst : SameLines (c :: t) (normalizeLines false (c :: t)) := by
      by_cases hc : c = '\r'
      · simpa [normalizeLines, hc] using ih.2
      · simpa [normalizeLines, hc] using SameLines.plain hc ih.1
    refine ⟨hfirst, ?_⟩
    by_cases hc : c = '\n'
    · simpa [normalizeLines, hc, newline_ne_return] using SameLines.pair ih.1
    · have hhead : (c :: t).head? ≠ some ('\n' : CodePoint) := by simpa using hc
      rw [normalizeLines_true hhead]
      exact .lone hhead hfirst

theorem sameLines_iff {t u : Text} : SameLines t u ↔ normalizeLines false t = u :=
  ⟨SameLines.normalizeLines_eq, fun h => h ▸ (sameLines_normalizeLines t).1⟩

end ExprLexer.Text
