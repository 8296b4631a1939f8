import ExprLexer.Proofs.MaximalMunch

/-!
# Looking past a lexeme

A token is chosen by what is longest, so the choice looks past the end of its lexeme. It looks there
only for operators, names, suffixes and numbers. The token is therefore found again wherever its
lexeme stands, as long as the new surroundings complete none of these that the old ones did not.
-/

namespace ExprLexer

/-- What is looked for at the start of an input besides the operators. -/
def words : Set Text :=
  {q | q ∈ Symbol.names ∨
    (∃ name ∈ Symbol.names, ∃ suffix ∈ Symbol.suffixes, q = name ++ suffix) ∨
    ∃ form : NumberForm, q ∈ form.language}

/-- A code point that occurs in such a text. -/
def CodePoint.isWordSign (c : CodePoint) : Bool :=
  c.isRadixDigit || decide (c ∈ ("_$@,#." : Text))

section WordSigns

variable {c : CodePoint}

theorem isWordSign_of_isSymbolPart (h : c.isSymbolPart = true) : c.isWordSign = true := by
  simp only [CodePoint.isSymbolPart, CodePoint.isSymbolStart, Bool.or_eq_true,
    decide_eq_true_eq] at h
  rcases h with ((h | rfl) | rfl) | h
  · simp [CodePoint.isWordSign, CodePoint.isRadixDigit, h]
  · decide
  · decide
  · simp [CodePoint.isWordSign, CodePoint.isRadixDigit, h]

theorem isWordSign_of_isDigit {form : NumberForm} (h : form.isDigit c = true) :
    c.isWordSign = true := by
  suffices hradix : c.isRadixDigit = true by
    simp [CodePoint.isWordSign, hradix]
  cases form <;>
    simp [NumberForm.isDigit, CodePoint.isHexDigit, CodePoint.isOctalDigit,
      CodePoint.isBinaryDigit, CodePoint.isRadixDigit, CodePoint.isDigit, CodePoint.isLetter,
      CodePoint.between_iff] at h ⊢ <;>
    grind

theorem blank_not_visible (h : c.isBlank = true) : c.val ≤ 0x20 ∨ 0x7F < c.val := by
  have hranges : ∀ r ∈ CodePoint.blankRanges, r.2 ≤ 0x20 ∨ 0x7F < r.1 := by decide
  obtain ⟨r, hr, hfirst, hlast⟩ := CodePoint.isIn_iff.mp h
  rcases hranges r hr with hr | hr
  · exact Or.inl (hlast.trans hr)
  · exact Or.inr (hr.trans_le hfirst)

theorem isWordSign_visible (h : c.isWordSign = true) : 0x20 < c.val ∧ c.val ≤ 0x7F := by
  have hothers : ∀ d ∈ ("_$@,#." : Text), 0x20 < d.val ∧ d.val ≤ 0x7F := by decide
  simp only [CodePoint.isWordSign, CodePoint.isRadixDigit, CodePoint.isDigit, CodePoint.isLetter,
    CodePoint.between_iff, Char.reduceToNat, Bool.or_eq_true, decide_eq_true_eq] at h
  rcases h with ((h | rfl) | rfl) | h
  · omega
  · decide
  · decide
  · exact hothers c h

theorem isWordSign_not_blank (h : c.isWordSign = true) : c.isBlank = false := by
  have hvisible := isWordSign_visible h
  by_contra hblank
  have := blank_not_visible (by simpa using hblank)
  omega

end WordSigns

theorem NumberForm.numerals_subset (form : NumberForm) :
    numerals form.isDigit ⊆ runs CodePoint.isWordSign := by
  rintro t ⟨whole, hwhole, -, rfl | ⟨part, hpart, -, rfl⟩⟩
  · exact runs_mono (fun _ => isWordSign_of_isDigit) hwhole
  · refine append_mem_runs.mpr ⟨runs_mono (fun _ => isWordSign_of_isDigit) hwhole, ?_⟩
    exact cons_mem_runs.mpr ⟨by decide, runs_mono (fun _ => isWordSign_of_isDigit) hpart⟩

theorem NumberForm.leads_subset (form : NumberForm) :
    form.leads ⊆ runs CodePoint.isWordSign := by
  have hdecimal := fun c => @isWordSign_of_isDigit c .decimal
  cases form with
  | radix =>
    rintro t ⟨base, hbase, -, rfl⟩
    exact append_mem_runs.mpr ⟨runs_mono hdecimal hbase, by decide⟩
  | _ =>
    rintro t ht
    obtain rfl := ht
    decide

theorem Symbol.names_subset : names ⊆ runs CodePoint.isWordSign := by
  rintro t (rfl | ⟨c, u, rfl, hc, hu⟩)
  · simp
  · have hpart : c.isSymbolPart = true := by simp [CodePoint.isSymbolPart, hc]
    exact cons_mem_runs.mpr ⟨isWordSign_of_isSymbolPart hpart,
      runs_mono (fun _ => isWordSign_of_isSymbolPart) hu⟩

theorem Symbol.suffixes_subset : suffixes ⊆ runs CodePoint.isWordSign := by
  rintro t ⟨first, comma, second, hfirst, hcomma, hsecond, rfl⟩
  have hdecimal := fun c => @isWordSign_of_isDigit c .decimal
  have hc : comma ∈ runs CodePoint.isWordSign := by
    rcases hcomma with rfl | rfl
    · simp
    · decide
  simp only [cons_mem_runs, append_mem_runs]
  exact ⟨by decide, ⟨runs_mono hdecimal hfirst, hc⟩, runs_mono hdecimal hsecond⟩

theorem words_subset : words ⊆ runs CodePoint.isWordSign := by
  rintro t (hname | ⟨name, hname, suffix, hsuffix, rfl⟩ | ⟨form, lead, hlead, digits, hdigits, rfl⟩)
  · exact Symbol.names_subset hname
  · exact append_mem_runs.mpr ⟨Symbol.names_subset hname, Symbol.suffixes_subset hsuffix⟩
  · exact append_mem_runs.mpr ⟨form.leads_subset hlead, form.numerals_subset hdigits⟩

theorem not_blank_of_mem_words {q : Text} (hq : q ∈ words) : ∀ c ∈ q, c.isBlank = false :=
  fun c hc => isWordSign_not_blank (words_subset hq c hc)

variable {O : Set Text} {input rest : Text} {l : Lexeme}

theorem Text.StartsOrdinary.change_rest {raw before after : Text}
    (h : StartsOrdinary (raw ++ before)) (hne : raw ≠ []) : StartsOrdinary (raw ++ after) := by
  obtain ⟨c, u, rfl⟩ := List.exists_cons_of_ne_nil hne
  exact ⟨c, u ++ after, rfl, h.head⟩

theorem NumberForm.Fits.of_words {form : NumberForm} {t : Text} (h : form.Fits t)
    (ht : ∀ q ∈ words, q <+: t → q <+: input) : form.Fits input := by
  obtain ⟨q, hq, hqt⟩ := h
  exact ⟨q, hq, ht q (Or.inr (Or.inr ⟨form, hq⟩)) hqt⟩

/-- A token is read again before any input that completes no further operator or word. -/
theorem Reads.change_rest (hO : [] ∉ O) (h : Reads O input (.ok l))
    (hops : ∀ op ∈ O, op <+: l.raw ++ rest → op <+: input)
    (hwords : ∀ q ∈ words, q <+: l.raw ++ rest → q <+: input) :
    Reads O (l.raw ++ rest) (.ok ⟨l.token, l.raw, rest⟩) := by
  have hne := h.raw_ne_nil hO
  have hnames : ∀ q ∈ Symbol.names, q <+: l.raw ++ rest → q <+: input :=
    fun q hq => hwords q (Or.inl hq)
  cases h with
  | @literal mark units value after hmark hs =>
    have hlit : Reads O (mark :: (units ++ mark :: rest))
        (.ok ⟨⟨.stringLiteral, value⟩, mark :: (units ++ [mark]), rest⟩) := .literal hmark hs
    simpa using hlit
  | opening b => exact .opening b rest
  | closing b => exact .closing b rest
  | separator => exact .separator rest
  | @operator op name after hord hname hop hlen =>
    have hname' : name <+: op ++ rest :=
      (List.prefix_of_prefix_length_le hname.begins (List.prefix_append op after) hlen).trans
        (List.prefix_append op rest)
    exact .operator (hord.change_rest hne) (hname.transfer hname' hnames)
      (hop.transfer (List.prefix_append op rest) hops) hlen
  | @symbol name after hord _ hname hlt hsuffix =>
    refine .symbol (hord.change_rest hne) hne (hname.transfer (List.prefix_append name rest) hnames)
      (fun op hop hbegins => hlt op hop (hops op hop hbegins)) ?_
    intro suffix hs hbegins
    have hword := hwords (name ++ suffix) (Or.inr (Or.inl ⟨name, hname.mem, suffix, hs, rfl⟩))
      ((List.prefix_append_right_inj name).mpr hbegins)
    exact hsuffix suffix hs ((List.prefix_append_right_inj name).mp hword)
  | @symbolWithArgs name suffix after hord hnil hname hlt hsuffix =>
    have hname' : name <+: name ++ suffix ++ rest := by simp
    refine .symbolWithArgs (hord.change_rest hne) hnil (hname.transfer hname' hnames)
      (fun op hop hbegins => hlt op hop (hops op hop hbegins)) ?_
    refine hsuffix.transfer (List.prefix_append suffix rest) ?_
    intro s hs hbegins
    have hword := hwords (name ++ s) (Or.inr (Or.inl ⟨name, hname.mem, s, hs, rfl⟩))
    simp only [List.append_assoc, List.prefix_append_right_inj] at hword
    exact hword hbegins
  | @number form text after hord hname hno hfirst hlong =>
    have hbegins := List.prefix_append (form.mark ++ text) rest
    refine .number (hord.change_rest hne) (hname.transfer List.nil_prefix hnames)
      (fun op hop hb => hno op hop (hops op hop hb)) ?_ (hlong.transfer hbegins ?_)
    · obtain ⟨-, before, later, hall, hbefore⟩ := hfirst
      exact ⟨⟨_, hlong.mem, hbegins⟩, before, later, hall,
        fun g hg hfits => hbefore g hg (hfits.of_words hwords)⟩
    · exact fun q hq => hwords q (Or.inr (Or.inr ⟨form, hq⟩))

/-- A token is read again where the input ends earlier, if not before its end. -/
theorem Reads.cut_rest (hO : [] ∉ O) (h : Reads O input (.ok l)) (hrest : rest <+: l.rest) :
    Reads O (l.raw ++ rest) (.ok ⟨l.token, l.raw, rest⟩) := by
  have hbegins : ∀ q : Text, q <+: l.raw ++ rest → q <+: input := by
    intro q hq
    rw [h.input_eq]
    exact hq.trans ((List.prefix_append_right_inj l.raw).mpr hrest)
  exact h.change_rest hO (fun q _ => hbegins q) (fun q _ => hbegins q)

end ExprLexer
