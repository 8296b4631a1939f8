import ExprLexer.Lexeme.Number
import ExprLexer.Proofs.LongestPrefix

/-!
# The grammar of numbers

The five forms as languages, stated without a scanner. The scanner of a form takes the longest
beginning of its input that lies in the language, and the form of a number is the first one, in the
order of priority, that has such a beginning.
-/

namespace ExprLexer.NumberForm

/-- Digits, and at most one point with digits on both sides. -/
def numerals (isDigit : CodePoint → Bool) : Set Text :=
  {t | ∃ whole ∈ runs isDigit, whole ≠ [] ∧
    (t = whole ∨ ∃ part ∈ runs isDigit, part ≠ [] ∧ t = whole ++ ('.' : CodePoint) :: part)}

/-- What is written before the text of the token. -/
def mark : NumberForm → Text
  | hex => ['0', 'x']
  | octal => ['0']
  | binary => ['0', 'b']
  | radix | decimal => []

/-- What is written before the digits: a base with its `#`, or the mark. -/
def leads (form : NumberForm) : Set Text :=
  {t | if form = radix then
      ∃ base ∈ runs CodePoint.isDigit, base ≠ [] ∧ t = base ++ [('#' : CodePoint)]
    else t = form.mark}

/-- The numbers of a form as they are written. -/
def language (form : NumberForm) : Set Text :=
  {t | ∃ lead ∈ form.leads, ∃ digits ∈ numerals form.isDigit, t = lead ++ digits}

def Fits (form : NumberForm) (t : Text) : Prop :=
  ∃ q ∈ form.language, q <+: t

def IsFirst (form : NumberForm) (t : Text) : Prop :=
  form.Fits t ∧ ∃ before after, all = before ++ form :: after ∧ ∀ g ∈ before, ¬ g.Fits t

theorem point_not_digit (form : NumberForm) : form.isDigit '.' = false := by
  cases form <;> decide

theorem mem_all (form : NumberForm) : form ∈ all := by
  cases form <;> simp [all]

section Digits

variable {isDigit : CodePoint → Bool} {t part rest : Text}

theorem fraction_append (hpart : part ∈ runs isDigit) (hne : part ≠ []) :
    fraction isDigit (('.' : CodePoint) :: (part ++ rest)) =
      ('.' : CodePoint) :: (part ++ rest.takeWhile isDigit) := by
  simp [fraction, takeWhile_run hpart, hne]

theorem fraction_cases (isDigit : CodePoint → Bool) (t : Text) :
    fraction isDigit t = [] ∨
      ∃ part ∈ runs isDigit, part ≠ [] ∧ fraction isDigit t = ('.' : CodePoint) :: part := by
  cases t with
  | nil => exact Or.inl rfl
  | cons c t =>
    rw [fraction]
    split_ifs with h
    · exact Or.inr ⟨_, takeWhile_mem_runs isDigit t, h.2, by rw [h.1]⟩
    · exact Or.inl rfl

theorem fraction_begins (isDigit : CodePoint → Bool) (t : Text) : fraction isDigit t <+: t := by
  cases t with
  | nil => exact List.nil_prefix
  | cons c t =>
    rw [fraction]
    split_ifs
    · exact List.cons_prefix_cons.mpr ⟨rfl, List.takeWhile_prefix _⟩
    · exact List.nil_prefix

theorem digits?_eq_none : digits? isDigit t = none ↔ ∀ q ∈ numerals isDigit, ¬ q <+: t := by
  simp only [digits?]
  split_ifs with h
  · refine iff_of_true rfl ?_
    rintro q ⟨whole, hwhole, hne, hq⟩ hqt
    have hwt : whole <+: t := by
      rcases hq with rfl | ⟨part, -, -, rfl⟩
      · exact hqt
      · exact (List.prefix_append _ _).trans hqt
    have hlen := length_le_takeWhile hwhole hwt
    rw [h, List.length_nil, Nat.le_zero, List.length_eq_zero_iff] at hlen
    exact hne hlen
  · refine iff_of_false (by simp) fun hno => ?_
    exact hno _ ⟨_, takeWhile_mem_runs isDigit t, h, Or.inl rfl⟩ (List.takeWhile_prefix _)

variable {ds : Text}

theorem digits?_eq_append (h : digits? isDigit t = some (ds, rest)) : t = ds ++ rest := by
  rw [digits?] at h
  simp only [Option.ite_none_left_eq_some, Option.some.injEq, Prod.mk.injEq] at h
  obtain ⟨-, rfl, rfl⟩ := h
  rw [List.append_assoc, List.prefix_iff_eq_append.mp (fraction_begins isDigit _),
    List.takeWhile_append_dropWhile]

theorem digits?_isLongest (hpoint : isDigit '.' = false) (h : digits? isDigit t = some (ds, rest)) :
    IsLongest (numerals isDigit) t ds := by
  have hbegins : ds <+: t := ⟨rest, (digits?_eq_append h).symm⟩
  rw [digits?] at h
  simp only [Option.ite_none_left_eq_some, Option.some.injEq, Prod.mk.injEq] at h
  obtain ⟨hne, rfl, -⟩ := h
  refine ⟨hbegins, ⟨_, takeWhile_mem_runs isDigit t, hne, ?_⟩, ?_⟩
  · rcases fraction_cases isDigit (t.dropWhile isDigit) with hf | ⟨part, hpart, hpne, hf⟩
    · exact Or.inl (by rw [hf, List.append_nil])
    · exact Or.inr ⟨part, hpart, hpne, by rw [hf]⟩
  · rintro q ⟨whole, hwhole, -, rfl | ⟨part, hpart, hpne, rfl⟩⟩ hqt
    · have hlen := length_le_takeWhile hwhole hqt
      rw [List.length_append]
      omega
    · obtain ⟨after, rfl⟩ := hqt
      rw [List.append_assoc, List.cons_append, takeWhile_run_cons hwhole hpoint,
        dropWhile_run_cons hwhole hpoint, fraction_append hpart hpne]
      simp

end Digits

theorem hash_not_digit : CodePoint.isDigit '#' = false := by
  decide

section Lead

variable {form : NumberForm} {t lead rest : Text}

theorem fixedLead?_eq_some {mark : Text} :
    fixedLead? mark t = some (lead, rest) ↔ lead = mark ∧ t = lead ++ rest := by
  simp only [fixedLead?, Option.map_eq_some_iff, Text.after?_eq_some, Prod.mk.injEq]
  constructor
  · rintro ⟨_, rfl, rfl, rfl⟩
    exact ⟨rfl, rfl⟩
  · rintro ⟨rfl, rfl⟩
    exact ⟨rest, rfl, rfl, rfl⟩

theorem radixLead?_eq_some : radix.lead? t = some (lead, rest) ↔
    (∃ base ∈ runs CodePoint.isDigit, base ≠ [] ∧ lead = base ++ [('#' : CodePoint)]) ∧
      t = lead ++ rest := by
  simp only [lead?]
  constructor
  · intro h
    cases hdrop : t.dropWhile CodePoint.isDigit with
    | nil => simp [hdrop] at h
    | cons c u =>
      simp only [hdrop, Option.ite_none_right_eq_some, Option.some.injEq, Prod.mk.injEq] at h
      obtain ⟨⟨hne, rfl⟩, rfl, rfl⟩ := h
      refine ⟨⟨_, takeWhile_mem_runs _ t, hne, rfl⟩, ?_⟩
      rw [List.append_assoc, List.singleton_append, ← hdrop, List.takeWhile_append_dropWhile]
  · rintro ⟨⟨base, hbase, hne, rfl⟩, rfl⟩
    simp [takeWhile_run_cons hbase hash_not_digit, dropWhile_run_cons hbase hash_not_digit, hne]

theorem lead?_eq_some :
    form.lead? t = some (lead, rest) ↔ lead ∈ form.leads ∧ t = lead ++ rest := by
  cases form with
  | radix => exact radixLead?_eq_some
  | hex => exact fixedLead?_eq_some
  | octal => exact fixedLead?_eq_some
  | binary => exact fixedLead?_eq_some
  | decimal =>
    simp only [lead?, leads, mark, Option.some.injEq, Prod.mk.injEq]
    constructor
    · rintro ⟨rfl, rfl⟩
      exact ⟨rfl, rfl⟩
    · rintro ⟨hlead, rfl⟩
      obtain rfl : lead = [] := hlead
      exact ⟨rfl, rfl⟩

theorem text_of_lead (h : lead ∈ form.leads) (digits : Text) :
    lead ++ digits = form.mark ++ if form = radix then lead ++ digits else digits := by
  split_ifs with hform
  · subst hform
    rfl
  · simp only [leads, hform, if_false, Set.mem_ofPred_eq] at h
    rw [h]

end Lead

theorem ne_nil_of_mem_language {form : NumberForm} {t : Text} (h : t ∈ form.language) :
    t ≠ [] := by
  obtain ⟨lead, -, digits, ⟨whole, -, hne, rfl | ⟨_, -, -, rfl⟩⟩, rfl⟩ := h <;> simp [hne]

/-- The lexeme of a form is a lead with the longest digits behind it. -/
theorem isLongest_language_iff {form : NumberForm} {t q : Text} : IsLongest form.language t q ↔
    ∃ lead ∈ form.leads, ∃ digits rest : Text, t = lead ++ rest ∧
      IsLongest (numerals form.isDigit) rest digits ∧ q = lead ++ digits := by
  constructor
  · rintro ⟨⟨after, rfl⟩, ⟨lead, hlead, digits, hdigits, rfl⟩, hlong⟩
    refine ⟨lead, hlead, digits, digits ++ after, by simp, ?_, rfl⟩
    refine ⟨List.prefix_append _ _, hdigits, ?_⟩
    intro s hs hbegins
    have hlen := hlong (lead ++ s) ⟨lead, hlead, s, hs, rfl⟩ (by simpa using hbegins)
    simpa using hlen
  · rintro ⟨lead, hlead, digits, rest, rfl, hlong, rfl⟩
    refine ⟨(List.prefix_append_right_inj lead).mpr hlong.begins,
      ⟨lead, hlead, digits, hlong.mem, rfl⟩, ?_⟩
    rintro q ⟨lead', hlead', digits', hdigits', rfl⟩ ⟨after, hafter⟩
    -- the lead is read off the input, so the other one is the same
    have hl : form.lead? (lead ++ rest) = some (lead, rest) := lead?_eq_some.mpr ⟨hlead, rfl⟩
    have hl' : form.lead? (lead ++ rest) = some (lead', digits' ++ after) :=
      lead?_eq_some.mpr ⟨hlead', by rw [← hafter, List.append_assoc]⟩
    rw [hl] at hl'
    obtain ⟨rfl, rfl⟩ := Prod.mk.inj (Option.some.inj hl')
    have hlen := hlong.longest digits' hdigits' (List.prefix_append digits' after)
    simpa using hlen

section Lexeme

variable {form : NumberForm} {t text rest : Text} {l : Lexeme}

theorem lexeme?_eq_none : form.lexeme? t = none ↔ ¬ form.Fits t := by
  simp only [lexeme?, Option.bind_eq_none_iff, Option.map_eq_none_iff, digits?_eq_none, Fits,
    language]
  constructor
  · rintro h ⟨_, ⟨lead, hlead, digits, hdigits, rfl⟩, after, rfl⟩
    have hl : form.lead? (lead ++ digits ++ after) = some (lead, digits ++ after) :=
      lead?_eq_some.mpr ⟨hlead, List.append_assoc _ _ _⟩
    exact h (lead, digits ++ after) hl digits hdigits (List.prefix_append _ _)
  · rintro h ⟨lead, rest⟩ hl digits hdigits hrest
    obtain ⟨hlead, rfl⟩ := lead?_eq_some.mp hl
    exact h ⟨_, ⟨lead, hlead, digits, hdigits, rfl⟩,
      (List.prefix_append_right_inj lead).mpr hrest⟩

/-- The scanner of a form takes the longest beginning in the language of the form. -/
theorem lexeme?_isLongest (h : form.lexeme? t = some l) :
    ∃ text, l = ⟨⟨form.kind, text⟩, form.mark ++ text, l.rest⟩ ∧
      IsLongest form.language t (form.mark ++ text) ∧ t = form.mark ++ text ++ l.rest := by
  simp only [lexeme?, Option.bind_eq_some_iff, Option.map_eq_some_iff, Prod.exists] at h
  obtain ⟨lead, input, hl, digits, rest, hd, rfl⟩ := h
  obtain ⟨hlead, rfl⟩ := lead?_eq_some.mp hl
  have hlong := digits?_isLongest (point_not_digit form) hd
  obtain rfl := digits?_eq_append hd
  have htext := text_of_lead hlead digits
  generalize (if form = radix then lead ++ digits else digits) = text at htext ⊢
  refine ⟨text, by rw [htext], ?_, by rw [← htext, List.append_assoc]⟩
  exact isLongest_language_iff.mpr ⟨lead, hlead, digits, digits ++ rest, rfl, hlong, htext.symm⟩

theorem lexeme?_of_isLongest
    (h : IsLongest form.language (form.mark ++ text ++ rest) (form.mark ++ text)) :
    form.lexeme? (form.mark ++ text ++ rest) =
      some ⟨⟨form.kind, text⟩, form.mark ++ text, rest⟩ := by
  cases hl : form.lexeme? (form.mark ++ text ++ rest) with
  | none => exact absurd ⟨_, h.mem, h.begins⟩ (lexeme?_eq_none.mp hl)
  | some l =>
    obtain ⟨text', hlexeme, hlong, hinput⟩ := lexeme?_isLongest hl
    obtain rfl := List.append_cancel_left (hlong.unique h)
    rw [hlexeme, List.append_cancel_left hinput]

theorem first?_eq_none : first? t = none ↔ ∀ form : NumberForm, ¬ form.Fits t := by
  simp [first?, List.findSome?_eq_none_iff, lexeme?_eq_none, mem_all]

theorem first?_isFirst (h : first? t = some l) :
    ∃ form : NumberForm, form.IsFirst t ∧ form.lexeme? t = some l := by
  obtain ⟨before, form, after, hall, hl, hbefore⟩ := List.findSome?_eq_some_iff.mp h
  refine ⟨form, ⟨?_, before, after, hall, fun g hg => lexeme?_eq_none.mp (hbefore g hg)⟩, hl⟩
  by_contra hno
  rw [lexeme?_eq_none.mpr hno] at hl
  cases hl

theorem first?_of_isFirst (h : form.IsFirst t) (hl : form.lexeme? t = some l) :
    first? t = some l := by
  obtain ⟨-, before, after, hall, hbefore⟩ := h
  exact List.findSome?_eq_some_iff.mpr
    ⟨before, form, after, hall, hl, fun g hg => lexeme?_eq_none.mpr (hbefore g hg)⟩

end Lexeme

end ExprLexer.NumberForm
