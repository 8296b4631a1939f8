import ExprLexer.Proofs.Lookahead

/-!
# Which number is read

The languages of the five forms overlap, so a number is settled in two steps: the order of priority
gives its form, and the longest beginning in the language of that form is its lexeme. Both can be
seen at the start of the input. What stands before the digits calls for the form if one digit
follows it, and the point belongs to the number if a digit of the same class follows that.
-/

namespace ExprLexer

namespace NumberForm

/-- The start of the input calls for the form: one digit follows the longest base with its `#`, or
the mark of the form. -/
def Shows (form : NumberForm) (t : Text) : Prop :=
  match form with
  | radix => ∃ (base : Text) (d : CodePoint) (rest : Text), base ≠ [] ∧
      IsLongest (runs CodePoint.isDigit) t base ∧
        t = base ++ ('#' : CodePoint) :: d :: rest ∧ d.isRadixDigit = true
  | hex => ∃ (d : CodePoint) (rest : Text),
      t = ('0' : CodePoint) :: ('x' : CodePoint) :: d :: rest ∧ d.isHexDigit = true
  | octal => ∃ (d : CodePoint) (rest : Text),
      t = ('0' : CodePoint) :: d :: rest ∧ d.isOctalDigit = true
  | binary => ∃ (d : CodePoint) (rest : Text),
      t = ('0' : CodePoint) :: ('b' : CodePoint) :: d :: rest ∧ d.isBinaryDigit = true
  | decimal => ∃ (d : CodePoint) (rest : Text), t = d :: rest ∧ d.isDigit = true

/-- The form of an input with a digit at its start. A base decides before everything else, and an
input that calls for nothing else is decimal. -/
def Chosen (t : Text) : NumberForm → Prop
  | radix => radix.Shows t
  | decimal => ∀ form : NumberForm, form ≠ decimal → ¬ form.Shows t
  | form => ¬ radix.Shows t ∧ form.Shows t

/-- The digits that are taken from the start of an input: all there are, and after them a point with
all digits behind it, unless there are none. -/
inductive Takes (isDigit : CodePoint → Bool) : Text → Text → Prop
  | whole {whole after : Text} : whole ≠ [] →
      IsLongest (runs isDigit) (whole ++ after) whole →
      (∀ d rest, after = ('.' : CodePoint) :: d :: rest → isDigit d = false) →
      Takes isDigit (whole ++ after) whole
  | fraction {whole part after : Text} : whole ≠ [] → part ≠ [] →
      IsLongest (runs isDigit) (whole ++ ('.' : CodePoint) :: (part ++ after)) whole →
      IsLongest (runs isDigit) (part ++ after) part →
      Takes isDigit (whole ++ ('.' : CodePoint) :: (part ++ after))
        (whole ++ ('.' : CodePoint) :: part)

/-- The number by the languages of the forms, in their order of priority. -/
structure ByLanguage (input : Text) (form : NumberForm) (text : Text) : Prop where
  first : form.IsFirst input
  longest : IsLongest form.language input (form.mark ++ text)

/-- The number by what stands at the start of the input. -/
structure BySight (input : Text) (form : NumberForm) (text : Text) : Prop where
  chosen : form.Chosen input
  taken : ∃ lead ∈ form.leads, ∃ digits rest : Text, input = lead ++ rest ∧
    Takes form.isDigit rest digits ∧ form.mark ++ text = lead ++ digits

theorem kind_injective : Function.Injective kind := by
  intro form g h
  cases form <;> cases g <;> first | rfl | cases h

section Digits

variable {isDigit : CodePoint → Bool} {t ds whole after : Text}

theorem fraction_eq_nil (h : ∀ d rest, t = ('.' : CodePoint) :: d :: rest → isDigit d = false) :
    fraction isDigit t = [] := by
  rcases fraction_cases isDigit t with hnil | ⟨part, hpart, hne, hfraction⟩
  · exact hnil
  · obtain ⟨d, ds, rfl⟩ := List.exists_cons_of_ne_nil hne
    obtain ⟨rest, hrest⟩ := hfraction ▸ fraction_begins isDigit t
    have hd := h d (ds ++ rest) hrest.symm
    rw [hpart d List.mem_cons_self] at hd
    cases hd

theorem exists_digits?_of_takes (h : Takes isDigit t ds) :
    ∃ rest, digits? isDigit t = some (ds, rest) := by
  cases h with
  | whole hne hlong hafter =>
    simp [digits?, takeWhile_of_isLongest hlong, dropWhile_of_isLongest hlong,
      fraction_eq_nil hafter, hne]
  | fraction hne hpart hlong hlongPart =>
    simp [digits?, takeWhile_of_isLongest hlong, dropWhile_of_isLongest hlong, hne,
      fraction, takeWhile_of_isLongest hlongPart, hpart]

theorem takes_of_digits? {rest : Text} (h : digits? isDigit t = some (ds, rest)) :
    Takes isDigit t ds := by
  have hlong := takeWhile_isLongest isDigit t
  have hsplit := List.takeWhile_append_dropWhile (p := isDigit) (l := t)
  rw [digits?] at h
  simp only [Option.ite_none_left_eq_some, Option.some.injEq, Prod.mk.injEq] at h
  obtain ⟨hne, rfl, -⟩ := h
  generalize t.takeWhile isDigit = whole at hlong hsplit hne ⊢
  generalize t.dropWhile isDigit = after at hsplit ⊢
  subst hsplit
  by_cases hpoint : ∃ d rest, after = ('.' : CodePoint) :: d :: rest ∧ isDigit d = true
  · obtain ⟨d, rest, rfl, hd⟩ := hpoint
    have hlongPart := takeWhile_isLongest isDigit (d :: rest)
    have hpart : (d :: rest).takeWhile isDigit ≠ [] := by simp [hd]
    have hrest := List.takeWhile_append_dropWhile (p := isDigit) (l := d :: rest)
    rw [fraction, if_pos ⟨rfl, hpart⟩]
    generalize (d :: rest).takeWhile isDigit = part at hlongPart hpart hrest ⊢
    rw [← hrest] at hlong hlongPart ⊢
    exact .fraction hne hpart hlong hlongPart
  · have hafter : ∀ d rest, after = ('.' : CodePoint) :: d :: rest → isDigit d = false := by
      intro d rest heq
      by_contra hd
      exact hpoint ⟨d, rest, heq, by simpa using hd⟩
    rw [fraction_eq_nil hafter, List.append_nil]
    exact .whole hne hlong hafter

theorem takes_iff (hpoint : isDigit '.' = false) :
    Takes isDigit t ds ↔ IsLongest (numerals isDigit) t ds := by
  constructor
  · intro h
    obtain ⟨rest, hdigits⟩ := exists_digits?_of_takes h
    exact digits?_isLongest hpoint hdigits
  · intro h
    cases hdigits : digits? isDigit t with
    | none => exact absurd h.begins (digits?_eq_none.mp hdigits ds h.mem)
    | some found =>
      obtain ⟨ds', rest⟩ := found
      rw [h.unique (digits?_isLongest hpoint hdigits)]
      exact takes_of_digits? hdigits

end Digits

section Forms

variable {form g : NumberForm} {t : Text} {c : CodePoint}

theorem head_of_mem_numerals {isDigit : CodePoint → Bool} (h : t ∈ numerals isDigit) :
    ∃ d u, t = d :: u ∧ isDigit d = true := by
  obtain ⟨whole, hwhole, hne, ht⟩ := h
  obtain ⟨d, u, rfl⟩ := List.exists_cons_of_ne_nil hne
  have hd := hwhole d List.mem_cons_self
  rcases ht with rfl | ⟨part, -, -, rfl⟩
  · exact ⟨d, u, rfl, hd⟩
  · exact ⟨d, _, rfl, hd⟩

theorem fits_iff_lead : form.Fits t ↔
    ∃ lead ∈ form.leads, ∃ d rest, t = lead ++ d :: rest ∧ form.isDigit d = true := by
  constructor
  · rintro ⟨_, ⟨lead, hlead, digits, hdigits, rfl⟩, after, rfl⟩
    obtain ⟨d, u, rfl, hd⟩ := head_of_mem_numerals hdigits
    exact ⟨lead, hlead, d, u ++ after, by simp, hd⟩
  · rintro ⟨lead, hlead, d, rest, rfl, hd⟩
    refine ⟨lead ++ [d], ⟨lead, hlead, [d], ⟨[d], ?_, by simp, Or.inl rfl⟩, rfl⟩, rest, by simp⟩
    exact cons_mem_runs.mpr ⟨hd, nil_mem_runs⟩

theorem fits_iff_shows : form.Fits t ↔ form.Shows t := by
  rw [fits_iff_lead]
  cases form with
  | radix =>
    constructor
    · rintro ⟨_, ⟨base, hbase, hne, rfl⟩, d, rest, rfl, hd⟩
      refine ⟨base, d, rest, hne, ?_, by simp, hd⟩
      have hlong := takeWhile_isLongest CodePoint.isDigit
        (base ++ ('#' : CodePoint) :: d :: rest)
      rw [takeWhile_run_cons hbase hash_not_digit] at hlong
      simpa using hlong
    · rintro ⟨base, d, rest, hne, hlong, rfl, hd⟩
      exact ⟨base ++ [('#' : CodePoint)], ⟨base, hlong.mem, hne, rfl⟩, d, rest, by simp, hd⟩
  | hex => simp [leads, mark, Shows, isDigit]
  | octal => simp [leads, mark, Shows, isDigit]
  | binary => simp [leads, mark, Shows, isDigit]
  | decimal => simp [leads, mark, Shows, isDigit]

theorem Shows.unique (hform : form.mark ≠ []) (hg : g.mark ≠ []) (h : form.Shows t)
    (h' : g.Shows t) : form = g := by
  have hx : CodePoint.isOctalDigit 'x' = false := by decide
  have hb : CodePoint.isOctalDigit 'b' = false := by decide
  have hxb : CodePoint.ofChar 'x' ≠ CodePoint.ofChar 'b' := by decide
  cases form <;> cases g <;> simp [mark] at hform hg <;> simp only [Shows] at h h' <;>
    obtain ⟨d, rest, rfl, hd⟩ := h <;> obtain ⟨d', rest', heq, hd'⟩ := h' <;> simp_all

def preceding (form : NumberForm) : List NumberForm :=
  all.takeWhile (· ≠ form)

theorem isFirst_iff : form.IsFirst t ↔ form.Fits t ∧ ∀ g ∈ form.preceding, ¬ g.Fits t := by
  constructor
  · rintro ⟨hfits, before, after, hall, hbefore⟩
    have hne : ∀ g ∈ before, decide (g ≠ form) = true := by
      intro g hg
      apply decide_eq_true
      rintro rfl
      exact hbefore g hg hfits
    have hpreceding : form.preceding = before := by
      rw [preceding, hall, List.takeWhile_append_of_pos hne]
      simp
    exact ⟨hfits, hpreceding ▸ hbefore⟩
  · rintro ⟨hfits, hbefore⟩
    refine ⟨hfits, form.preceding, (all.dropWhile (· ≠ form)).tail, ?_, hbefore⟩
    cases form <;> rfl

theorem mem_preceding_of_mark (hform : form.mark ≠ []) (hg : g ∈ form.preceding) :
    g = radix ∨ g.mark ≠ [] ∧ g ≠ form := by
  revert g
  cases form <;> first | exact absurd rfl hform | decide

theorem isFirst_iff_of_mark (hform : form.mark ≠ []) :
    form.IsFirst t ↔ ¬ radix.Shows t ∧ form.Shows t := by
  simp only [isFirst_iff, fits_iff_shows]
  constructor
  · rintro ⟨hshows, hbefore⟩
    have hradix : radix ∈ form.preceding := by
      cases form <;> first | exact absurd rfl hform | decide
    exact ⟨hbefore radix hradix, hshows⟩
  · rintro ⟨hradix, hshows⟩
    refine ⟨hshows, ?_⟩
    intro g hg hshows'
    rcases mem_preceding_of_mark hform hg with rfl | ⟨hmark, hne⟩
    · exact hradix hshows'
    · exact hne (hshows'.unique hmark hform hshows)

/-- For an input that starts with a digit the order of priority comes down to what is seen. -/
theorem isFirst_iff_chosen (ht : decimal.Shows t) : form.IsFirst t ↔ form.Chosen t := by
  cases form with
  | radix =>
    rw [isFirst_iff, fits_iff_shows]
    exact and_iff_left (by simp [preceding, all])
  | hex => exact isFirst_iff_of_mark (by decide)
  | octal => exact isFirst_iff_of_mark (by decide)
  | binary => exact isFirst_iff_of_mark (by decide)
  | decimal =>
    have hpreceding : ∀ g : NumberForm, g ∈ decimal.preceding ↔ g ≠ decimal := by
      intro g
      cases g <;> decide
    simp only [isFirst_iff, fits_iff_shows, Chosen, hpreceding]
    exact and_iff_right ht

theorem byLanguage_iff_bySight {text : Text} (ht : decimal.Shows t) :
    ByLanguage t form text ↔ BySight t form text := by
  have htaken : IsLongest form.language t (form.mark ++ text) ↔
      ∃ lead ∈ form.leads, ∃ digits rest : Text, t = lead ++ rest ∧
        Takes form.isDigit rest digits ∧ form.mark ++ text = lead ++ digits := by
    simp only [isLongest_language_iff, takes_iff (point_not_digit form)]
  constructor
  · rintro ⟨hfirst, hlong⟩
    exact ⟨(isFirst_iff_chosen ht).mp hfirst, htaken.mp hlong⟩
  · rintro ⟨hchosen, htake⟩
    exact ⟨(isFirst_iff_chosen ht).mpr hchosen, htaken.mpr htake⟩

theorem exists_byLanguage (ht : decimal.Shows t) : ∃ form text, ByLanguage t form text := by
  cases hfirst : first? t with
  | none => exact absurd (fits_iff_shows.mpr ht) (first?_eq_none.mp hfirst decimal)
  | some l =>
    obtain ⟨form, hform, hl⟩ := first?_isFirst hfirst
    obtain ⟨text, -, hlong, -⟩ := lexeme?_isLongest hl
    exact ⟨form, text, hform, hlong⟩

end Forms

end NumberForm

open NumberForm

section Digit

variable {c : CodePoint} {t : Text}

theorem ordinary_of_class {f : CodePoint → Bool}
    (hquotes : ∀ mark ∈ StringLiteral.delimiters, f mark = false)
    (hbrackets : ∀ b : Bracket, f b.opening = false ∧ f b.closing = false)
    (hseparator : f separator = false) (hblank : c.isBlank = false) (hc : f c = true) :
    c.Ordinary where
  not_blank := hblank
  not_delimiter := by
    intro hmark
    simp [hquotes c hmark] at hc
  not_opening := by
    rintro b rfl
    simp [hbrackets b] at hc
  not_closing := by
    rintro b rfl
    simp [hbrackets b] at hc
  not_separator := by
    rintro rfl
    simp [hseparator] at hc

theorem ordinary_of_isDigit (hc : c.isDigit = true) : c.Ordinary := by
  refine ordinary_of_class (by decide) ?_ (by decide) ?_ hc
  · intro b
    cases b <;> decide
  · exact isWordSign_not_blank (@isWordSign_of_isDigit c .decimal hc)

theorem isLongest_names_nil_iff : IsLongest Symbol.names (c :: t) [] ↔ c.isSymbolStart = false := by
  constructor
  · intro h
    by_contra hc
    have hname : [c] ∈ Symbol.names := Or.inr ⟨c, [], rfl, by simpa using hc, nil_mem_runs⟩
    exact absurd (h.longest [c] hname ⟨t, rfl⟩) (Nat.not_succ_le_zero 0)
  · intro hc
    have hname := Symbol.name_isLongest (c :: t)
    rwa [Symbol.name, if_neg (by simp [hc])] at hname

theorem isSymbolStart_of_isDigit (hc : c.isDigit = true) : c.isSymbolStart = false := by
  have hothers : CodePoint.isDigit '_' = false ∧ CodePoint.isDigit '$' = false := by decide
  have hletter : c.isLetter = false := by
    simp only [CodePoint.isDigit, CodePoint.between_iff, Char.reduceToNat] at hc
    simp only [CodePoint.isLetter, CodePoint.between, Char.reduceToNat, Bool.or_eq_false_iff,
      Bool.and_eq_false_iff, decide_eq_false_iff_not]
    omega
  have hunderscore : c ≠ '_' := by
    rintro rfl
    simp [hothers] at hc
  have hdollar : c ≠ '$' := by
    rintro rfl
    simp [hothers] at hc
  simp [CodePoint.isSymbolStart, hletter, hunderscore, hdollar]

theorem Reads.number_of_byLanguage {O : Set Text} {form : NumberForm} {text rest : Text}
    (hc : c.isDigit = true) (hinput : c :: t = form.mark ++ text ++ rest)
    (hops : ∀ op ∈ O, ¬ op <+: c :: t) (h : ByLanguage (c :: t) form text) :
    Reads O (c :: t) (.ok ⟨⟨form.kind, text⟩, form.mark ++ text, rest⟩) := by
  have hord : Text.StartsOrdinary (c :: t) := ⟨c, t, rfl, ordinary_of_isDigit hc⟩
  have hname : IsLongest Symbol.names (c :: t) [] :=
    isLongest_names_nil_iff.mpr (isSymbolStart_of_isDigit hc)
  obtain ⟨hfirst, hlong⟩ := h
  rw [hinput] at hord hname hops hfirst hlong ⊢
  exact .number hord hname hops hfirst hlong

end Digit

/-- Where a digit stands and no operator does, a number is pulled and never an error. It is the one
that the languages of the forms have there, in their order of priority and with the longest lexeme,
and this is the one that is seen at the start of the input. -/
theorem pull_number_iff {v : Vocabulary} (hv : v.Reachable) {source : Text} {start : Nat}
    {d : CodePoint} (hstart : source[start]? = some d) (hd : d.isDigit = true)
    (hops : ∀ op ∈ v.operators, ¬ op <+: source.drop start) :
    (∃ form text, ByLanguage (source.drop start) form text) ∧
      ∀ (form : NumberForm) (text : Text),
        ((Lexer.mk start (source.drop start) true).pull v =
            (.token ⟨form.kind, text⟩, ⟨start + (form.mark ++ text).length,
              source.drop (start + (form.mark ++ text).length), true⟩) ↔
          ByLanguage (source.drop start) form text) ∧
        (ByLanguage (source.drop start) form text ↔ BySight (source.drop start) form text) := by
  obtain ⟨t, hdrop⟩ : ∃ t, source.drop start = d :: t := by
    obtain ⟨hlt, rfl⟩ := List.getElem?_eq_some_iff.mp hstart
    exact ⟨_, List.drop_eq_getElem_cons hlt⟩
  have hshows : decimal.Shows (source.drop start) := ⟨d, t, hdrop, hd⟩
  obtain ⟨form', text', hfound⟩ := exists_byLanguage hshows
  have hpull : ∀ {form : NumberForm} {text : Text}, ByLanguage (source.drop start) form text →
      (Lexer.mk start (source.drop start) true).pull v =
        (.token ⟨form.kind, text⟩, ⟨start + (form.mark ++ text).length,
          source.drop (start + (form.mark ++ text).length), true⟩) := by
    intro form text h
    obtain ⟨rest, hrest⟩ := h.longest.begins
    have hbehind : source.drop (start + (form.mark ++ text).length) = rest := by
      rw [← List.drop_drop, ← hrest, List.drop_left]
    rw [hbehind]
    rw [hdrop] at h hrest hops ⊢
    exact (Reads.number_of_byLanguage hd hrest.symm hops h).pull_token hv.filed start
  refine ⟨⟨form', text', hfound⟩, ?_⟩
  intro form text
  refine ⟨⟨?_, hpull⟩, byLanguage_iff_bySight hshows⟩
  intro h
  rw [hpull hfound] at h
  simp only [Prod.mk.injEq, Pull.token.injEq, Token.mk.injEq] at h
  obtain ⟨⟨hkind, rfl⟩, -⟩ := h
  rwa [← kind_injective hkind]

/-- The first run of digits ends at a dot and is no base, and the octal digits in it stop at the 8.
The second one is a base, and the dot behind its one digit, a quote, is left. -/
theorem pull_number_iff_of_cut_octal :
    let v := (Vocabulary.build [.text "8.5", .text "."]).vocabulary
    let source : Text := "x 078.5#'.?"
    v.Reachable ∧ source[2]? = some (CodePoint.ofChar '0') ∧
      (∀ op ∈ v.operators, ¬ op <+: source.drop 2) ∧ BySight (source.drop 2) .octal "7" ∧
      source[6]? = some (CodePoint.ofChar '5') ∧
      (∀ op ∈ v.operators, ¬ op <+: source.drop 6) ∧ ByLanguage (source.drop 6) .radix "5#'" := by
  intro v source
  have hv : v.Reachable := Vocabulary.reachable_build _
  have hzero : source[2]? = some (CodePoint.ofChar '0') := by decide
  have hfive : source[6]? = some (CodePoint.ofChar '5') := by decide
  have hops : ∀ op ∈ v.operators, ¬ op <+: source.drop 2 := by decide
  have hops' : ∀ op ∈ v.operators, ¬ op <+: source.drop 6 := by decide
  refine ⟨hv, hzero, hops, ?_, hfive, hops', ?_⟩
  · obtain ⟨hpull, hsight⟩ := (pull_number_iff hv hzero (by decide) hops).2 .octal "7"
    exact hsight.mp (hpull.mp (by decide))
  · obtain ⟨hpull, -⟩ := (pull_number_iff hv hfive (by decide) hops').2 .radix "5#'"
    exact hpull.mp (by decide)

end ExprLexer
