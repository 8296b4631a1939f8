import ExprLexer.Json
import ExprLexer.Lexeme.Number
import ExprLexer.Proofs.Printing

/-!
# A reader of JSON

Texts as other programs read them. An escaped high surrogate that is followed at once by an escaped
low one stands for one code point, and no other surrogates are joined. The main statement is about
strings: what was written of a text is read as the text with its pairs of surrogates joined.
-/

namespace ExprLexer

namespace CodePoint

def isHighSurrogate (c : CodePoint) : Bool :=
  0xD800 ≤ c.val && c.val ≤ 0xDBFF

def isLowSurrogate (c : CodePoint) : Bool :=
  0xDC00 ≤ c.val && c.val ≤ 0xDFFF

/-- The code point beyond U+FFFF that a high and a low surrogate stand for, ten bits each. -/
def ofSurrogates (high low : CodePoint) : CodePoint where
  val := 0x10000 + high.val % 0x400 * 0x400 + low.val % 0x400
  isLt := by omega

def highSurrogate (c : CodePoint) : CodePoint where
  val := 0xD800 + (c.val - 0x10000) / 0x400
  isLt := by
    have := c.isLt
    omega

def lowSurrogate (c : CodePoint) : CodePoint where
  val := 0xDC00 + (c.val - 0x10000) % 0x400
  isLt := by omega

variable {c high low : CodePoint}

theorem isHighSurrogate_iff : c.isHighSurrogate = true ↔ 0xD800 ≤ c.val ∧ c.val ≤ 0xDBFF := by
  simp [isHighSurrogate]

theorem isLowSurrogate_iff : c.isLowSurrogate = true ↔ 0xDC00 ≤ c.val ∧ c.val ≤ 0xDFFF := by
  simp [isLowSurrogate]

theorem le_ofSurrogates (high low : CodePoint) : 0x10000 ≤ (ofSurrogates high low).val := by
  simp only [ofSurrogates]
  omega

theorem isHighSurrogate_highSurrogate (h : 0x10000 ≤ c.val) :
    c.highSurrogate.isHighSurrogate = true := by
  have := c.isLt
  simp only [isHighSurrogate_iff, highSurrogate]
  omega

theorem isLowSurrogate_lowSurrogate (c : CodePoint) : c.lowSurrogate.isLowSurrogate = true := by
  simp only [isLowSurrogate_iff, lowSurrogate]
  omega

theorem ofSurrogates_halves (h : 0x10000 ≤ c.val) :
    ofSurrogates c.highSurrogate c.lowSurrogate = c := by
  apply ext_val
  simp only [ofSurrogates, highSurrogate, lowSurrogate]
  have := c.isLt
  omega

theorem highSurrogate_ofSurrogates (h : high.isHighSurrogate = true) :
    (ofSurrogates high low).highSurrogate = high := by
  apply ext_val
  rw [isHighSurrogate_iff] at h
  simp only [ofSurrogates, highSurrogate]
  omega

theorem lowSurrogate_ofSurrogates (h : low.isLowSurrogate = true) :
    (ofSurrogates high low).lowSurrogate = low := by
  apply ext_val
  rw [isLowSurrogate_iff] at h
  simp only [ofSurrogates, lowSurrogate]
  omega

end CodePoint

namespace Text

/-- The text with every high surrogate and low surrogate in a row as the one code point that they
stand for. -/
def joinPairs : Text → Text
  | [] => []
  | [c] => [c]
  | c :: d :: t =>
    if c.isHighSurrogate ∧ d.isLowSurrogate then CodePoint.ofSurrogates c d :: joinPairs t
    else c :: joinPairs (d :: t)

end Text

namespace Json

/-! ## Strings -/

/-- A code point of a string, and whether it is written as an escape by number. -/
structure StringPart where
  value : CodePoint
  byNumber : Bool

def StringPart.joins (p q : StringPart) : Bool :=
  p.byNumber && q.byNumber && p.value.isHighSurrogate && q.value.isLowSurrogate

def joinParts : List StringPart → Text
  | [] => []
  | [p] => [p.value]
  | p :: q :: parts =>
    if p.joins q then CodePoint.ofSurrogates p.value q.value :: joinParts parts
    else p.value :: joinParts (q :: parts)

/-- What each escape by a letter stands for. -/
def letterEscapes : List (CodePoint × CodePoint) := [('"', '"'), ('\\', '\\'), ('/', '/'),
  ('b', '\x08'), ('f', '\x0c'), ('n', '\n'), ('r', '\r'), ('t', '\t')]

def ofFourDigits? (digits : Text) : Option CodePoint :=
  if digits.all CodePoint.isHexDigit then CodePoint.ofNat? digits.hexValue else none

/-- The parts of a string up to its closing quote, and the text after it. -/
def stringParts? : Text → Option (List StringPart × Text)
  | [] => none
  | c :: t =>
    if c = mark then some ([], t)
    else if c = '\\' then
      match t with
      | [] => none
      | d :: t =>
        if d = 'u' then
          match t with
          | d₁ :: d₂ :: d₃ :: d₄ :: t =>
            (ofFourDigits? [d₁, d₂, d₃, d₄]).bind fun value =>
              (stringParts? t).map fun (parts, t) => (⟨value, true⟩ :: parts, t)
          | _ => none
        else
          (letterEscapes.lookup d).bind fun value =>
            (stringParts? t).map fun (parts, t) => (⟨value, false⟩ :: parts, t)
    else if c.val < 0x20 then none
    else (stringParts? t).map fun (parts, t) => (⟨c, false⟩ :: parts, t)

def string? (t : Text) : Option (Text × Text) :=
  (stringParts? t).map fun (parts, t) => (joinParts parts, t)

/-! ## Values -/

inductive Value
  | null
  | bool (b : Bool)
  | number (spelling : Text)
  | string (t : Text)
  | list (items : List Value)
  | object (members : List (Text × Value))

def space : CodePoint := ' '

def colon : CodePoint := ':'

def comma : CodePoint := ','

def openList : CodePoint := '['

def closeList : CodePoint := ']'

def openObject : CodePoint := '\x7b'

def closeObject : CodePoint := '\x7d'

def isSpace (c : CodePoint) : Bool :=
  c = space || c = '\t' || c = '\n' || c = '\r'

def skipSpaces (t : Text) : Text :=
  t.dropWhile isSpace

def first (isOne : CodePoint → Bool) (t : Text) : Text :=
  (t.take 1).takeWhile isOne

def exponent : Text → Text
  | [] => []
  | c :: t =>
    let sign := first (fun c => c = '+' || c = '-') t
    let digits := (t.drop sign.length).takeWhile CodePoint.isDigit
    if (c = 'e' ∨ c = 'E') ∧ digits ≠ [] then c :: (sign ++ digits) else []

/-- The longest number at the start of the text, and the text after it. Only zero itself starts with
a zero. -/
def number? (t : Text) : Option (Text × Text) :=
  let sign := first (· = '-') t
  let t := t.drop sign.length
  let zero := first (· = '0') t
  let whole := if zero = [] then t.takeWhile CodePoint.isDigit else zero
  let t := t.drop whole.length
  let fraction := NumberForm.fraction CodePoint.isDigit t
  let t := t.drop fraction.length
  let power := exponent t
  if whole = [] then none else some (sign ++ whole ++ fraction ++ power, t.drop power.length)

def words : List (Text × Value) :=
  [("null", .null), ("true", .bool true), ("false", .bool false)]

def atom? (t : Text) : Option (Value × Text) :=
  (words.findSome? fun (word, value) => (Text.after? word t).map fun rest => (value, rest)).or
    ((number? t).map fun (spelling, rest) => (.number spelling, rest))

def key? (t : Text) : Option (Text × Text) :=
  match skipSpaces t with
  | [] => none
  | c :: t =>
    if c = mark then
      (string? t).bind fun (key, t) => (Text.after? [colon] (skipSpaces t)).map fun t => (key, t)
    else none

mutual

/-- The value at the start of the text, and the text after it, with `depth` steps down at most. -/
def value? : (depth : Nat) → Text → Option (Value × Text)
  | 0, _ => none
  | depth + 1, t =>
    match skipSpaces t with
    | [] => none
    | c :: t =>
      if c = mark then (string? t).map fun (s, t) => (.string s, t)
      else if c = openList then
        match Text.after? [closeList] (skipSpaces t) with
        | some t => some (.list [], t)
        | none => (items? depth t).map fun (items, t) => (.list items, t)
      else if c = openObject then
        match Text.after? [closeObject] (skipSpaces t) with
        | some t => some (.object [], t)
        | none => (members? depth t).map fun (members, t) => (.object members, t)
      else atom? (c :: t)

def items? : (depth : Nat) → Text → Option (List Value × Text)
  | 0, _ => none
  | depth + 1, t =>
    (value? depth t).bind fun (item, t) =>
      match skipSpaces t with
      | [] => none
      | c :: t =>
        if c = comma then (items? depth t).map fun (items, t) => (item :: items, t)
        else if c = closeList then some ([item], t)
        else none

def members? : (depth : Nat) → Text → Option (List (Text × Value) × Text)
  | 0, _ => none
  | depth + 1, t =>
    (key? t).bind fun (key, t) =>
      (value? depth t).bind fun (value, t) =>
        match skipSpaces t with
        | [] => none
        | c :: t =>
          if c = comma then (members? depth t).map fun (members, t) => ((key, value) :: members, t)
          else if c = closeObject then some ([(key, value)], t)
          else none

end

/-- The value of a text. Each step down has a bracket or a comma of its own, so the length bounds
them. -/
def read? (t : Text) : Option Value :=
  (value? (t.length + 1) t).bind fun (value, rest) =>
    if rest.all isSpace then some value else none

example : (read? " \x7b\"a\\u00e9\\/\": [-0.5e+1, true, []]\x7d\n").isSome = true := by
  decide +kernel

/-! ## Reading what was written -/

section Written

variable {c : CodePoint} {t : Text}

/-- The parts as which a code point is written. -/
def writtenParts (c : CodePoint) : List StringPart :=
  if (shortEscapes.lookup c).isSome ∨ c.between ' ' '~' = true then [⟨c, false⟩]
  else if c.val < 0x10000 then [⟨c, true⟩]
  else [⟨c.highSurrogate, true⟩, ⟨c.lowSurrogate, true⟩]

theorem stringParts?_number {digits : Text} (hlen : digits.length = 4) (t : Text) :
    stringParts? ('\\' :: 'u' :: (digits ++ t)) =
      (ofFourDigits? digits).bind fun value =>
        (stringParts? t).map fun (parts, t) => (⟨value, true⟩ :: parts, t) := by
  match digits, hlen with
  | [d₁, d₂, d₃, d₄], _ => rfl

theorem stringParts?_letter {letter : CodePoint} (hne : letter ≠ 'u')
    (h : letterEscapes.lookup letter = some c) (t : Text) :
    stringParts? ('\\' :: letter :: t) =
      (stringParts? t).map fun (parts, t) => (⟨c, false⟩ :: parts, t) := by
  have hmark : CodePoint.ofChar '\\' ≠ mark := by decide
  rw [stringParts?.eq_def]
  simp only [hmark, hne, h, if_true, if_false, Option.bind_some]

theorem stringParts?_plain (hmark : c ≠ mark) (hback : c ≠ '\\') (hle : ¬ c.val < 0x20)
    (t : Text) : stringParts? (c :: t) =
      (stringParts? t).map fun (parts, t) => (⟨c, false⟩ :: parts, t) := by
  rw [stringParts?.eq_def]
  simp only [hmark, hback, hle, if_false]

theorem ofFourDigits?_hexDigits (h : c.val < 0x10000) :
    ofFourDigits? (Text.hexDigits 4 c.val) = some c := by
  have hvalue : Text.hexValue (Text.hexDigits 4 c.val) = c.val := by
    rw [Text.hexValue_hexDigits]
    exact Nat.mod_eq_of_lt h
  rw [ofFourDigits?, if_pos (Text.all_isHexDigit_hexDigits 4 c.val), hvalue, CodePoint.ofNat?_val]

theorem stringParts?_unitEscape (h : c.val < 0x10000) (t : Text) :
    stringParts? (unitEscape c.val ++ t) =
      (stringParts? t).map fun (parts, t) => (⟨c, true⟩ :: parts, t) := by
  have hparts := stringParts?_number (Text.length_hexDigits 4 c.val) t
  rw [ofFourDigits?_hexDigits h] at hparts
  exact hparts

theorem lookup_shortEscape : ∀ p ∈ shortEscapes,
    p.2 ≠ 'u' ∧ letterEscapes.lookup p.2 = some p.1 := by
  decide

theorem mem_shortEscapes {letter : CodePoint} (h : shortEscapes.lookup c = some letter) :
    (c, letter) ∈ shortEscapes := by
  obtain ⟨before, after, he, -⟩ := List.lookup_eq_some_iff.mp h
  rw [he]
  exact List.mem_append_right _ List.mem_cons_self

theorem ne_of_lookup_eq_none (h : shortEscapes.lookup c = none) : c ≠ mark ∧ c ≠ '\\' := by
  constructor <;> rintro rfl <;> revert h <;> decide

theorem stringParts?_escaped (c : CodePoint) (t : Text) :
    stringParts? (escaped c ++ t) =
      (stringParts? t).map fun (parts, t) => (writtenParts c ++ parts, t) := by
  cases hshort : shortEscapes.lookup c with
  | some letter =>
    obtain ⟨hne, hlookup⟩ := lookup_shortEscape _ (mem_shortEscapes hshort)
    simp [escaped, hshort, writtenParts, stringParts?_letter hne hlookup]
  | none =>
    obtain ⟨hmark, hback⟩ := ne_of_lookup_eq_none hshort
    by_cases hascii : c.between ' ' '~' = true
    · have hle : ¬ c.val < 0x20 := Nat.not_lt.mpr (CodePoint.between_iff.mp hascii).1
      simp [escaped, hshort, hascii, writtenParts, stringParts?_plain hmark hback hle]
    by_cases hbmp : c.val < 0x10000
    · simp [escaped, hshort, hascii, writtenParts, units, hbmp, stringParts?_unitEscape]
    · have hunits : units c = [c.highSurrogate.val, c.lowSurrogate.val] := if_neg hbmp
      have hhigh : c.highSurrogate.val < 0x10000 := by
        have := c.isLt
        simp only [CodePoint.highSurrogate]
        omega
      have hlow : c.lowSurrogate.val < 0x10000 := by
        simp only [CodePoint.lowSurrogate]
        omega
      simp [escaped, hshort, hascii, writtenParts, hunits, hbmp, stringParts?_unitEscape, hhigh,
        hlow, Function.comp_def]

theorem stringParts?_written (t rest : Text) :
    stringParts? (t.flatMap escaped ++ mark :: rest) = some (t.flatMap writtenParts, rest) := by
  induction t with
  | nil =>
    unfold stringParts?
    simp
  | cons c t ih => simp [stringParts?_escaped, ih]

end Written

/-! ## Joining surrogates -/

section Joining

variable {c d : CodePoint} {p : StringPart} {parts : List StringPart}

theorem joinParts_cons (h : ∀ q ∈ parts.head?, p.joins q = false) :
    joinParts (p :: parts) = p.value :: joinParts parts := by
  cases parts with
  | nil => rfl
  | cons q parts =>
    rw [joinParts, if_neg]
    simp [h q rfl]

theorem lt_of_shortEscape : ∀ p ∈ shortEscapes, p.1.val < 0x80 := by
  decide

theorem lt_of_isPlain (h : (shortEscapes.lookup c).isSome ∨ c.between ' ' '~' = true) :
    c.val < 0x80 := by
  rcases h with h | h
  · obtain ⟨letter, hletter⟩ := Option.isSome_iff_exists.mp h
    exact lt_of_shortEscape _ (mem_shortEscapes hletter)
  · exact Nat.lt_of_le_of_lt (CodePoint.between_iff.mp h).2 (by decide)

theorem writtenParts_of_surrogate (hmin : 0xD800 ≤ c.val) (hmax : c.val ≤ 0xDFFF) :
    writtenParts c = [⟨c, true⟩] := by
  rw [writtenParts, if_neg, if_pos (by omega)]
  intro hplain
  have := lt_of_isPlain hplain
  omega

theorem isLowSurrogate_of_head {q : StringPart} (hq : q ∈ (writtenParts d).head?)
    (hnumber : q.byNumber = true) (hlow : q.value.isLowSurrogate = true) :
    d.isLowSurrogate = true := by
  unfold writtenParts at hq
  split_ifs at hq with hplain hbmp <;> obtain rfl := Option.some.inj hq
  · cases hnumber
  · exact hlow
  · have hhigh := CodePoint.isHighSurrogate_highSurrogate (Nat.not_lt.mp hbmp)
    rw [CodePoint.isHighSurrogate_iff] at hhigh
    rw [CodePoint.isLowSurrogate_iff] at hlow
    dsimp only at hlow
    omega

/-- A code point is read as itself where no low surrogate follows a high one. -/
theorem joinParts_append (h : c.isHighSurrogate = true → ∀ q ∈ parts.head?,
    q.byNumber = true → q.value.isLowSurrogate = false) :
    joinParts (writtenParts c ++ parts) = c :: joinParts parts := by
  unfold writtenParts
  split_ifs with hplain hbmp
  · apply joinParts_cons
    intro q _
    rfl
  · rw [List.singleton_append]
    apply joinParts_cons
    intro q hq
    by_contra hjoins
    simp only [StringPart.joins, Bool.true_and, Bool.not_eq_false, Bool.and_eq_true] at hjoins
    obtain ⟨⟨hnumber, hhigh⟩, hlow⟩ := hjoins
    rw [h hhigh q hq hnumber] at hlow
    cases hlow
  · have hle : 0x10000 ≤ c.val := Nat.not_lt.mp hbmp
    have hjoins : StringPart.joins ⟨c.highSurrogate, true⟩ ⟨c.lowSurrogate, true⟩ = true := by
      simp [StringPart.joins, CodePoint.isHighSurrogate_highSurrogate hle,
        CodePoint.isLowSurrogate_lowSurrogate]
    rw [List.cons_append, List.singleton_append, joinParts, if_pos hjoins,
      CodePoint.ofSurrogates_halves hle]

theorem joinParts_written (t : Text) : joinParts (t.flatMap writtenParts) = t.joinPairs := by
  fun_induction Text.joinPairs t with
  | case1 => rfl
  | case2 c =>
    have h : joinParts (writtenParts c ++ []) = c :: joinParts [] := joinParts_append (by simp)
    simpa [joinParts] using h
  | case3 c d t h ih =>
    have hhigh := CodePoint.isHighSurrogate_iff.mp h.1
    have hlow := CodePoint.isLowSurrogate_iff.mp h.2
    have hjoins : StringPart.joins ⟨c, true⟩ ⟨d, true⟩ = true := by
      simp [StringPart.joins, h.1, h.2]
    rw [List.flatMap_cons, List.flatMap_cons, writtenParts_of_surrogate hhigh.1 (by omega),
      writtenParts_of_surrogate (by omega) hlow.2, List.singleton_append, List.singleton_append,
      joinParts, if_pos hjoins, ih]
  | case4 c d t h ih =>
    rw [List.flatMap_cons, joinParts_append, ih]
    intro hhigh q hq hnumber
    by_contra hlow
    have hhead : q ∈ (writtenParts d).head? := by
      rw [List.flatMap_cons, List.head?_append_of_ne_nil] at hq
      · exact hq
      · unfold writtenParts
        split_ifs <;> simp
    exact h ⟨hhigh, isLowSurrogate_of_head hhead hnumber (Bool.not_eq_false _ ▸ hlow)⟩

end Joining

/-- A written string is read as the text with its pairs of surrogates joined, whatever follows. -/
theorem string?_written (t rest : Text) :
    string? (t.flatMap escaped ++ mark :: rest) = some (t.joinPairs, rest) := by
  simp only [string?, stringParts?_written, Option.map_some, joinParts_written]

end Json

end ExprLexer
