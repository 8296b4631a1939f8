import ExprLexer.Proofs.ConsoleMarkup
import ExprLexer.Proofs.JsonOutput
import ExprLexer.Proofs.QuotedLiterals
import ExprLexer.Proofs.TableLayout

/-!
# Reading the table

A reader of the printed table finds in each row the cells between the bars. They are the index, the
kind and what markup shows of the quoted text. So the table shows the tokens exactly where the
quoted texts hold nothing that markup takes for its own.
-/

namespace ExprLexer

open Text (IsAsciiLine)

/-! ## Trimming -/

namespace Text

variable {t : Text}

theorem length_trim_le (t : Text) : t.trim.length ≤ t.length := by
  have hfront := (List.dropWhile_sublist (l := t) CodePoint.isBlank).length_le
  have hback := (List.dropWhile_sublist (l := (t.dropWhile CodePoint.isBlank).reverse)
    CodePoint.isBlank).length_le
  rw [List.length_reverse] at hback
  rw [trim, List.length_reverse]
  exact hback.trans hfront

theorem trim_eq_self (hfirst : t.head?.any CodePoint.isBlank = false)
    (hlast : t.getLast?.any CodePoint.isBlank = false) : t.trim = t := by
  have hkeep : ∀ {u : Text}, u.head?.any CodePoint.isBlank = false →
      u.dropWhile CodePoint.isBlank = u := by
    rintro (_ | ⟨c, u⟩) hu
    · rfl
    · exact List.dropWhile_cons_of_neg (by simpa using hu)
  rw [trim, hkeep hfirst, hkeep (by rwa [List.head?_reverse]), List.reverse_reverse]

theorem trim_of_no_blank (h : ∀ c ∈ t, CodePoint.isBlank c = false) : t.trim = t := by
  apply trim_eq_self
  · cases hfirst : t.head? with
    | none => rfl
    | some c => exact h c (List.mem_of_head? hfirst)
  · cases hlast : t.getLast? with
    | none => rfl
    | some c => exact h c (List.mem_of_getLast? hlast)

/-- Blanks around a text do not survive. -/
theorem trim_append {before after : Text} (hbefore : ∀ c ∈ before, CodePoint.isBlank c = true)
    (hafter : ∀ c ∈ after, CodePoint.isBlank c = true) (t : Text) :
    trim (before ++ (t ++ after)) = t.trim := by
  have hreverse : ∀ c ∈ after.reverse, CodePoint.isBlank c = true := fun c hc =>
    hafter c (List.mem_reverse.mp hc)
  rw [trim, List.dropWhile_append_of_pos hbefore, List.dropWhile_append]
  split_ifs with hempty
  · have hall : after.dropWhile CodePoint.isBlank = [] := List.dropWhile_eq_nil_iff.mpr hafter
    rw [hall, trim, List.isEmpty_iff.mp hempty]
  · rw [List.reverse_append, List.dropWhile_append_of_pos hreverse, trim]

end Text

/-! ## The table as a reader sees it -/

namespace Table

def isBar (c : CodePoint) : Bool := c = '│'

/-- What stands between the bars of a line. -/
def cells (line : Text) : List Text :=
  ((line.split isBar).tail.dropLast).map Text.trim

/-- The cells of each row, less the title and the frame. -/
def read (output : Text) : List (List Text) :=
  (((output.split Notice.isNewline).drop 4).dropLast.dropLast).map cells

/-- The row of a token whose text markup leaves alone. -/
def plainRow (number : Nat) (t : Token) : Row :=
  ⟨Text.ofNat number, t.kind.name, .ofText t.text.quoted⟩

def Row.cells (row : Row) : List Text :=
  [row.number, row.kind, row.text.text]

/-- What the table of the tokens is to say. -/
def entries (ts : List Token) : List (List Text) :=
  ts.zipIdx.map fun (t, n) => (plainRow n t).cells

/-- The texts are visible ASCII, and the table fits into the terminal. -/
structure Suits (ts : List Token) : Prop where
  visible : ∀ t ∈ ts, IsAsciiLine t.text
  fits : totalWidth (widths (ts.zipIdx.map fun (t, n) => plainRow n t)) ≤ columns

structure Row.Shows (row : Row) : Prop where
  number : IsAsciiLine row.number
  kind : IsAsciiLine row.kind
  text : IsAsciiLine row.text.text

section Reading

variable {t : Text} {row : Row}

theorem isBar_of_isAsciiLine (h : IsAsciiLine t) : ∀ c ∈ t, isBar c = false := by
  intro c hc
  rw [isBar, decide_eq_false_iff_not]
  rintro rfl
  exact absurd (h _ hc) (by decide)

theorem isNewline_of_isAsciiLine (h : IsAsciiLine t) : ∀ c ∈ t, Notice.isNewline c = false := by
  intro c hc
  rw [Notice.isNewline, decide_eq_false_iff_not]
  rintro rfl
  exact absurd (h _ hc) (by decide)

theorem isAsciiLine_repeated (n : Nat) : IsAsciiLine (Text.repeated n ' ') := by
  intro c hc
  rw [List.eq_of_mem_replicate hc]
  decide

theorem isBlank_of_mem_repeated (n : Nat) :
    ∀ c ∈ Text.repeated n ' ', CodePoint.isBlank c = true := by
  intro c hc
  rw [List.eq_of_mem_replicate hc]
  decide

theorem split_lines {ls : List Text} (h : ∀ l ∈ ls, ∀ c ∈ l, Notice.isNewline c = false) :
    Text.split Notice.isNewline (ls.flatMap fun l => l ++ ("\n" : Text)) = ls ++ [[]] := by
  induction ls with
  | nil => rfl
  | cons l ls ih =>
    rw [List.forall_mem_cons] at h
    have hsplit := Text.split_append_cons (c := '\n') h.1 (by rfl)
      (ls.flatMap fun l => l ++ ("\n" : Text))
    rw [ih h.2] at hsplit
    rw [List.flatMap_cons, List.append_assoc]
    exact hsplit

/-- A cell with the spaces around it, which is filled up on the left or on the right. -/
structure Padded (t cell : Text) : Prop where
  visible : IsAsciiLine cell
  trim_eq : cell.trim = t.trim

theorem Padded.of_append (h : IsAsciiLine t) (before after : Nat) :
    Padded t (Text.repeated before ' ' ++ (t ++ Text.repeated after ' ')) where
  visible := by
    rw [Text.isAsciiLine_append, Text.isAsciiLine_append]
    exact ⟨isAsciiLine_repeated before, h, isAsciiLine_repeated after⟩
  trim_eq := Text.trim_append (isBlank_of_mem_repeated before) (isBlank_of_mem_repeated after) t

theorem exists_cells (h : row.Shows) (bar : Char) (w : Widths) :
    ∃ number kind text, Padded row.number number ∧ Padded row.kind kind ∧
      Padded row.text.text text ∧
      rowLine bar w row = CodePoint.ofChar bar :: (number ++ CodePoint.ofChar bar ::
        (kind ++ CodePoint.ofChar bar :: (text ++ [CodePoint.ofChar bar]))) := by
  have hspace : Text.ofString " " = [CodePoint.ofChar ' '] := rfl
  refine ⟨_, _, _, .of_append h.number (1 + (w.number - row.number.width)) 1,
    .of_append h.kind 1 ((w.kind - row.kind.width) + 1),
    .of_append h.text 1 (w.text - (row.text.runs.map Text.width).foldl (· + ·) 0 + 1), ?_⟩
  simp [rowLine, cellsLine, hspace, Text.padLeft, Text.padRight, fill, Text.repeated,
    List.replicate_add]

theorem cells_rowLine (h : row.Shows) (w : Widths) :
    cells (rowLine '│' w row) = row.cells.map Text.trim := by
  obtain ⟨number, kind, text, hnumber, hkind, htext, hline⟩ := exists_cells h '│' w
  have hbar : isBar '│' = true := by rfl
  have hsplit : (rowLine '│' w row).split isBar = [[], number, kind, text, []] := by
    rw [hline, Text.split, if_pos hbar,
      Text.split_append_cons (isBar_of_isAsciiLine hnumber.visible) hbar,
      Text.split_append_cons (isBar_of_isAsciiLine hkind.visible) hbar,
      Text.split_append_cons (isBar_of_isAsciiLine htext.visible) hbar]
    rfl
  simp [cells, hsplit, Row.cells, hnumber.trim_eq, hkind.trim_eq, htext.trim_eq]

theorem isNewline_rowLine (h : row.Shows) {bar : Char}
    (hbar : Notice.isNewline (CodePoint.ofChar bar) = false) (w : Widths) :
    ∀ c ∈ rowLine bar w row, Notice.isNewline c = false := by
  obtain ⟨number, kind, text, hnumber, hkind, htext, hline⟩ := exists_cells h bar w
  simp only [hline, List.forall_mem_cons, List.forall_mem_append, hbar, true_and]
  exact ⟨isNewline_of_isAsciiLine hnumber.visible, isNewline_of_isAsciiLine hkind.visible,
    isNewline_of_isAsciiLine htext.visible, by simp⟩

theorem isNewline_rule {left cross right fill : Char}
    (h : [left, cross, right, fill].all (fun c => !Notice.isNewline (CodePoint.ofChar c)) = true)
    (w : Widths) : ∀ c ∈ rule left cross right fill w, Notice.isNewline c = false := by
  simp only [List.all_cons, List.all_nil, Bool.and_true, Bool.and_eq_true, Bool.not_eq_true'] at h
  obtain ⟨hleft, hcross, hright, hfill⟩ := h
  have hpart : ∀ n, ∀ c ∈ Text.repeated n (CodePoint.ofChar fill), Notice.isNewline c = false := by
    intro n c hc
    rwa [List.eq_of_mem_replicate hc]
  simp only [rule, List.forall_mem_append, List.forall_mem_cons, hleft, hcross, hright,
    List.not_mem_nil, false_implies, implies_true, true_and, and_true]
  exact ⟨⟨hpart _, hpart _⟩, hpart _⟩

theorem isAsciiLine_center {title : Text} (h : IsAsciiLine title) (n : Nat) :
    IsAsciiLine (title.center n) := by
  simp only [Text.center, Text.padLeft, Text.padRight, Text.isAsciiLine_append]
  exact ⟨⟨isAsciiLine_repeated _, h⟩, isAsciiLine_repeated _⟩

theorem header_shows : header.Shows where
  number := by unfold IsAsciiLine; decide
  kind := by unfold IsAsciiLine; decide
  text := by unfold IsAsciiLine; decide

/-- The rows of a table that fits are read back, but for blanks at the ends of a cell. -/
theorem read_lines {title : Text} {rows : List Row} (htitle : IsAsciiLine title)
    (h : ∀ row ∈ rows, row.Shows) (hfits : totalWidth (widths rows) ≤ columns) :
    read ((lines title rows).flatMap fun line => line ++ ("\n" : Text)) =
      rows.map fun row => row.cells.map Text.trim := by
  have hlines := lines_of_fits hfits title
  have hnewline : ∀ l ∈ lines title rows, ∀ c ∈ l, Notice.isNewline c = false := by
    simp only [hlines, List.forall_mem_append, List.forall_mem_cons, List.forall_mem_map]
    refine ⟨⟨⟨?_, ?_, ?_, ?_, by simp⟩, ?_⟩, ?_, by simp⟩
    · exact isNewline_of_isAsciiLine (isAsciiLine_center htitle _)
    · exact isNewline_rule (by rfl) _
    · exact isNewline_rowLine header_shows (by decide) _
    · exact isNewline_rule (by rfl) _
    · exact fun row hrow => isNewline_rowLine (h row hrow) (by decide) _
    · exact isNewline_rule (by rfl) _
  have hrows : ((lines title rows ++ [[]]).drop 4).dropLast.dropLast =
      rows.map (rowLine '│' (widths rows)) := by
    simp only [hlines, List.cons_append, List.nil_append, List.drop_succ_cons, List.drop_zero,
      List.dropLast_concat]
  rw [read, split_lines hnewline, hrows, List.map_map]
  exact List.map_congr_left fun row hrow => cells_rowLine (h row hrow) _

end Reading

/-! ## The rows of tokens -/

section Rows

variable {t : Token} {ts : List Token}

theorem digit_of_mem_ofNat {n : Nat} {c : CodePoint} (hc : c ∈ Text.ofNat n) :
    0x30 ≤ c.val ∧ c.val ≤ 0x39 := by
  obtain ⟨d, hd, rfl⟩ := List.mem_map.mp hc
  have hdigit := Nat.isDigit_of_mem_toDigits (by decide) (by decide) hd
  simp only [Char.isDigit, Bool.and_eq_true, decide_eq_true_eq] at hdigit
  exact hdigit

theorem isAsciiLine_ofNat (n : Nat) : IsAsciiLine (Text.ofNat n) := by
  intro c hc
  have hdigit := digit_of_mem_ofNat hc
  have hbounds : ' '.toNat = 0x20 ∧ '~'.toNat = 0x7E := by decide
  rw [CodePoint.between_iff]
  omega

theorem trim_ofNat (n : Nat) : (Text.ofNat n).trim = Text.ofNat n := by
  apply Text.trim_of_no_blank
  intro c hc
  have hdigit := digit_of_mem_ofNat hc
  by_contra hblank
  have houtside := blank_not_visible (by simpa using hblank)
  omega

theorem isAsciiLine_name (k : Kind) : IsAsciiLine k.name := by
  have hall : ∀ k ∈ Kind.all, ∀ c ∈ Text.ofString k.name, c.between ' ' '~' = true := by decide
  exact hall k k.mem_all

theorem trim_name (k : Kind) : Text.trim k.name = k.name := by
  have hall : ∀ k ∈ Kind.all, Text.trim (Text.ofString k.name) = k.name := by decide
  exact hall k k.mem_all

/-- What escapes are written with, besides hexadecimal digits. -/
def escapeLetters : Text := ['\\', '\'', '"', 'n', 'r', 't', 'x', 'u', 'U']

theorem mem_numericEscape {c d : CodePoint} (hd : d ∈ Text.numericEscape c) :
    d.isHexDigit = true ∨ d ∈ escapeLetters := by
  have hdigits : ∀ width, d ∈ Text.hexDigits width c.val → d.isHexDigit = true := fun width hmem =>
    List.all_eq_true.mp (Text.all_isHexDigit_hexDigits width c.val) d hmem
  unfold Text.numericEscape at hd
  split_ifs at hd <;> simp only [List.mem_cons] at hd <;> rcases hd with rfl | rfl | hd
  all_goals first | exact Or.inl (hdigits _ hd) | exact Or.inr (by decide)

theorem mem_quoted {u : Text} {d : CodePoint} (hd : d ∈ u.quoted) :
    d ∈ u ∨ d.isHexDigit = true ∨ d ∈ escapeLetters := by
  have hmark : u.quoteMark ∈ escapeLetters := by
    unfold Text.quoteMark
    split_ifs <;> decide
  simp only [Text.quoted, Text.quotedWith, List.mem_cons, List.mem_append, List.mem_flatMap,
    List.not_mem_nil, or_false] at hd
  rcases hd with rfl | ⟨c, hc, hd⟩ | rfl
  · exact Or.inr (Or.inr hmark)
  · unfold Text.quotedUnit at hd
    split_ifs at hd with hkey hnewline hreturn htab hprintable
    · rcases List.mem_pair.mp hd with rfl | rfl
      · exact Or.inr (Or.inr (by decide))
      · exact Or.inl hc
    · rcases List.mem_pair.mp hd with rfl | rfl <;> exact Or.inr (Or.inr (by decide))
    · rcases List.mem_pair.mp hd with rfl | rfl <;> exact Or.inr (Or.inr (by decide))
    · rcases List.mem_pair.mp hd with rfl | rfl <;> exact Or.inr (Or.inr (by decide))
    · obtain rfl := List.mem_singleton.mp hd
      exact Or.inl hc
    · exact Or.inr (mem_numericEscape hd)
  · exact Or.inr (Or.inr hmark)

theorem isAsciiLine_quoted {u : Text} (h : IsAsciiLine u) : IsAsciiLine u.quoted := by
  intro d hd
  rcases mem_quoted hd with hmem | hhex | hletter
  · exact h d hmem
  · exact Text.between_of_isHexDigit hhex
  · exact (by unfold IsAsciiLine; decide : IsAsciiLine escapeLetters) d hletter

theorem colon_not_mem_quoted {u : Text} (h : Emoji.colon ∉ u) : Emoji.colon ∉ u.quoted := by
  intro hmem
  rcases mem_quoted hmem with hmem | hhex | hletter
  · exact h hmem
  · exact absurd hhex (by decide)
  · exact absurd hletter (by decide)

theorem trim_quoted (u : Text) : u.quoted.trim = u.quoted := by
  have hblank := StringLiteral.delimiter_not_blank _ u.quoteMark_mem
  apply Text.trim_eq_self
  · exact hblank
  · rw [Text.quoted, Text.quotedWith, ← List.cons_append, List.getLast?_concat]
    exact hblank

theorem text_ofText (u : Text) : (Markup.Rendered.ofText u).text = u := by
  simp [Markup.Rendered.ofText, Markup.Rendered.text]

theorem entries_injective : Function.Injective entries := by
  let shown (t : Token) : List Text := [t.kind.name, t.text.quoted]
  have hshown : Function.Injective shown := by
    rintro ⟨kind, text⟩ ⟨kind', text'⟩ heq
    simp only [shown, List.cons.injEq, and_true] at heq
    obtain rfl := Kind.eq_of_name_eq heq.1
    obtain rfl := Text.eq_of_quotedWith_eq heq.2
    rfl
  have htail : ∀ ts, (entries ts).map List.tail = ts.map shown := by
    intro ts
    conv_rhs => rw [← List.zipIdx_map_fst 0 ts]
    rw [entries, List.map_map, List.map_map]
    apply List.map_congr_left
    intro p hp
    simp [plainRow, Row.cells, shown, text_ofText]
  intro ts us heq
  apply List.map_injective_iff.mpr hshown
  rw [← htail, ← htail, heq]

section Collecting

variable {α β ε : Type} {f : α → Except ε β} {l : List α}

theorem forall₂_of_mapM {rs : List β} (h : l.mapM f = .ok rs) :
    List.Forall₂ (fun a r => f a = .ok r) l rs := by
  induction l generalizing rs with
  | nil =>
    obtain rfl := Except.ok.inj h
    exact .nil
  | cons a l ih =>
    rw [List.mapM_cons] at h
    cases hfirst : f a with
    | error e => simp [hfirst, bind, Except.bind] at h
    | ok r =>
      cases hrest : l.mapM f with
      | error e => simp [hfirst, hrest, bind, Except.bind] at h
      | ok others =>
        simp only [hfirst, hrest, bind, Except.bind] at h
        obtain rfl := Except.ok.inj h
        exact .cons hfirst (ih hrest)

theorem mapM_eq_ok {g : α → β} (h : ∀ a ∈ l, f a = .ok (g a)) : l.mapM f = .ok (l.map g) := by
  induction l with
  | nil => rfl
  | cons a l ih =>
    rw [List.forall_mem_cons] at h
    rw [List.mapM_cons, h.1, ih h.2]
    rfl

variable {R : α → β → Prop} {rs : List β}

theorem forall_of_forall₂ {P : β → Prop} (h : List.Forall₂ R l rs)
    (hP : ∀ a ∈ l, ∀ r, R a r → P r) : ∀ r ∈ rs, P r := by
  induction h with
  | nil => simp
  | cons hfirst _ ih =>
    rw [List.forall_mem_cons] at hP ⊢
    exact ⟨hP.1 _ hfirst, ih hP.2⟩

theorem exists_of_forall₂ {γ : Type} {F : β → γ} {G : α → γ} (h : List.Forall₂ R l rs)
    (heq : rs.map F = l.map G) : ∀ a ∈ l, ∃ r, R a r ∧ F r = G a := by
  induction h with
  | nil => simp
  | cons hfirst _ ih =>
    rw [List.map_cons, List.map_cons, List.cons.injEq] at heq
    rw [List.forall_mem_cons]
    exact ⟨⟨_, hfirst, heq.1⟩, ih heq.2⟩

end Collecting

/-- The rows of a table that is made: those of the tokens, in order. -/
theorem exists_rows {table : Text} (h : ofTokens ts = .ok table) :
    ∃ rows, List.Forall₂ (fun p row => Table.row p.2 p.1 = .ok row) ts.zipIdx rows ∧
      table = (lines (Text.ofNat ts.length ++ " token(s)") rows).flatMap
        fun line => line ++ ("\n" : Text) := by
  rw [ofTokens] at h
  cases hrows : ts.zipIdx.mapM (fun (t, n) => row n t) with
  | error fault => simp [hrows, bind, Except.bind] at h
  | ok rows =>
    simp only [hrows, bind, Except.bind] at h
    split_ifs at h with hgood
    exact ⟨rows, forall₂_of_mapM hrows, (Except.ok.inj h).symm⟩

theorem ofTokens_of_inert (h : ∀ t ∈ ts, Markup.Inert t.text.quoted) :
    ofTokens ts = .ok ((lines (Text.ofNat ts.length ++ " token(s)")
      (ts.zipIdx.map fun (t, n) => plainRow n t)).flatMap fun line => line ++ ("\n" : Text)) := by
  have hrow : ∀ p ∈ ts.zipIdx, row p.2 p.1 = .ok (plainRow p.2 p.1) := by
    intro p hp
    rw [row, (h p.1 (List.fst_mem_of_mem_zipIdx hp)).render_eq]
    rfl
  have hgood : ∀ row ∈ ts.zipIdx.map (fun (t, n) => plainRow n t),
      row.text.hasGoodColors = true := by
    intro row hrow
    obtain ⟨p, -, rfl⟩ := List.mem_map.mp hrow
    rfl
  rw [ofTokens, mapM_eq_ok hrow]
  simp only [bind, Except.bind]
  rw [if_pos (List.all_eq_true.mpr hgood)]
  rfl

theorem isAsciiLine_title (n : Nat) : IsAsciiLine (Text.ofNat n ++ " token(s)") :=
  Text.isAsciiLine_append.mpr ⟨isAsciiLine_ofNat n, by unfold IsAsciiLine; decide⟩

theorem row_eq_ok {n : Nat} {r : Row} (h : row n t = .ok r) :
    ∃ text, Markup.render t.text.quoted = .ok text ∧ r = ⟨Text.ofNat n, t.kind.name, text⟩ := by
  obtain ⟨text, htext, rfl⟩ := Markup.exists_of_map_eq_ok h
  exact ⟨text, htext, rfl⟩

theorem plainRow_shows (h : IsAsciiLine t.text) (n : Nat) : (plainRow n t).Shows where
  number := isAsciiLine_ofNat n
  kind := isAsciiLine_name t.kind
  text := by
    rw [plainRow, text_ofText]
    exact isAsciiLine_quoted h

theorem shows_of_row {n : Nat} {r : Row} (hvisible : IsAsciiLine t.text)
    (hcolon : Emoji.colon ∉ t.text) (h : row n t = .ok r) : r.Shows := by
  obtain ⟨text, htext, rfl⟩ := row_eq_ok h
  have hshown := Markup.text_sublist (colon_not_mem_quoted hcolon) htext
  exact ⟨isAsciiLine_ofNat n, isAsciiLine_name t.kind,
    fun c hc => isAsciiLine_quoted hvisible c (hshown.subset hc)⟩

/-- Markup makes no cell of a text without colons wider. -/
theorem below_of_row {n : Nat} {r : Row} (hvisible : IsAsciiLine t.text)
    (hcolon : Emoji.colon ∉ t.text) (h : row n t = .ok r) : r.Below (plainRow n t) := by
  have hshows := shows_of_row hvisible hcolon h
  obtain ⟨text, htext, rfl⟩ := row_eq_ok h
  refine ⟨le_rfl, le_rfl, ?_⟩
  rw [width_of_isAsciiLine hshows.text, width_of_isAsciiLine (plainRow_shows hvisible n).text]
  have hshown := Markup.text_sublist (colon_not_mem_quoted hcolon) htext
  simpa only [plainRow, text_ofText] using hshown.length_le

theorem trim_cells (n : Nat) (t : Token) :
    (plainRow n t).cells.map Text.trim = (plainRow n t).cells := by
  simp only [plainRow, Row.cells, text_ofText, List.map_cons, List.map_nil, trim_ofNat, trim_name,
    trim_quoted]

theorem inert_of_cells {n : Nat} {r : Row} (hcolon : Emoji.colon ∉ t.text) (h : row n t = .ok r)
    (hcells : r.cells.map Text.trim = (plainRow n t).cells) : Markup.Inert t.text.quoted := by
  obtain ⟨text, htext, rfl⟩ := row_eq_ok h
  have htrim : text.text.trim = t.text.quoted := by
    simp only [Row.cells, plainRow, text_ofText, List.map_cons, List.map_nil, List.cons.injEq,
      and_true] at hcells
    exact hcells.2.2
  apply Markup.inert_of_length_le (colon_not_mem_quoted hcolon) htext
  rw [← htrim]
  exact Text.length_trim_le text.text

end Rows

end Table

open CommandLine

theorem outcome_of_table {ts : List Token} {table : Text} (console : Console)
    (h : Table.ofTokens ts = .ok table) : outcome console false (.ok ts) = .finished 0 table := by
  simp [outcome, h]

/-- Where texts are visible and the table fits, it shows the tokens if markup leaves their quoted
texts alone, and, if no text has a colon, only then. What it is to show determines the tokens. -/
theorem read_table (s : Setting) (given? : Option Text) (operators : List Text)
    (expression : Text) (verbose : Bool) {ts : List Token}
    (hts : (tokens s.reader (manifestPath? s.reader s.directory given?) operators
      expression).result = .ok ts) (hsuits : Table.Suits ts) :
    let ended := (run s (.tokenize expression given? operators false verbose)).outcome
    let faithful := ∃ output, ended = .finished 0 output ∧ Table.read output = Table.entries ts
    ((∀ t ∈ ts, Markup.Inert t.text.quoted) → faithful) ∧
      ((∀ t ∈ ts, Emoji.colon ∉ t.text) → faithful → ∀ t ∈ ts, Markup.Inert t.text.quoted) ∧
      ∀ us, Table.entries us = Table.entries ts → us = ts := by
  intro ended faithful
  have hrun : ended = outcome s.console false (.ok ts) := by
    simp only [ended, run, hts]
  refine ⟨?_, ?_, fun us hus => Table.entries_injective hus⟩
  · intro hinert
    have hshows : ∀ row ∈ ts.zipIdx.map (fun (t, n) => Table.plainRow n t), row.Shows := by
      intro row hrow
      obtain ⟨p, hp, rfl⟩ := List.mem_map.mp hrow
      exact Table.plainRow_shows (hsuits.visible _ (List.fst_mem_of_mem_zipIdx hp)) p.2
    refine ⟨_, hrun.trans (outcome_of_table s.console (Table.ofTokens_of_inert hinert)), ?_⟩
    rw [Table.read_lines (Table.isAsciiLine_title ts.length) hshows hsuits.fits, Table.entries,
      List.map_map]
    exact List.map_congr_left fun p _ => Table.trim_cells p.2 p.1
  · rintro hcolon ⟨output, hended, hread⟩
    rw [hrun] at hended
    cases htable : Table.ofTokens ts with
    | error fault => simp [outcome, htable] at hended
    | ok table =>
      obtain rfl : table = output := by simpa [outcome, htable] using hended
      obtain ⟨rows, hrows, rfl⟩ := Table.exists_rows htable
      have hshows : ∀ row ∈ rows, row.Shows :=
        Table.forall_of_forall₂ hrows fun p hp row hrow =>
          have hmem := List.fst_mem_of_mem_zipIdx hp
          Table.shows_of_row (hsuits.visible _ hmem) (hcolon _ hmem) hrow
      have hbelow : ∀ row ∈ rows, ∃ other ∈ ts.zipIdx.map (fun (t, n) => Table.plainRow n t),
          row.Below other :=
        Table.forall_of_forall₂ hrows fun p hp row hrow =>
          have hmem := List.fst_mem_of_mem_zipIdx hp
          ⟨_, List.mem_map_of_mem hp,
            Table.below_of_row (hsuits.visible _ hmem) (hcolon _ hmem) hrow⟩
      have hfits := (Table.totalWidth_mono hbelow).trans hsuits.fits
      rw [Table.read_lines (Table.isAsciiLine_title ts.length) hshows hfits] at hread
      intro t ht
      rw [← List.zipIdx_map_fst 0 ts] at ht
      obtain ⟨p, hp, rfl⟩ := List.mem_map.mp ht
      obtain ⟨row, hrow, hcells⟩ := Table.exists_of_forall₂ hrows hread p hp
      exact Table.inert_of_cells (hcolon _ (List.fst_mem_of_mem_zipIdx hp)) hrow hcells

/-- A bracket before a digit is shown, and one before a slash takes the text with it. -/
theorem read_table_of_brackets :
    let s : Setting := ⟨(Files.empty (.parse "/home")).reader, .parse "/home", .standard, "0.1.0"⟩
    let ended (expression : Text) : Outcome :=
      (run s (.tokenize expression none [] false false)).outcome
    (∃ output, ended "'[1]' x" = .finished 0 output ∧
      Table.read output = Table.entries [⟨.stringLiteral, "[1]"⟩, ⟨.symbol, "x"⟩]) ∧
    ¬ ∃ output, ended "'[/]'" = .finished 0 output ∧
      Table.read output = Table.entries [⟨.stringLiteral, "[/]"⟩] := by
  intro s ended
  have hdigit : Text.quoted "[1]" = "'[1]'" := by decide +kernel
  have hname : Text.quoted "x" = "'x'" := by decide +kernel
  have hslash : Text.quoted "[/]" = "'[/]'" := by decide +kernel
  have hinert : ∀ t ∈ [⟨.stringLiteral, "[1]"⟩, ⟨.symbol, "x"⟩],
      Markup.Inert (Token.text t).quoted := by
    simp only [List.forall_mem_cons, hdigit, hname]
    exact ⟨⟨by decide, by decide, Emoji.not_holdsCode (by decide)⟩,
      ⟨by decide, by decide, Emoji.not_holdsCode (by decide)⟩, by simp⟩
  have hdigitTokens : (tokens s.reader (manifestPath? s.reader s.directory none) []
      "'[1]' x").result = .ok [⟨.stringLiteral, "[1]"⟩, ⟨.symbol, "x"⟩] := by decide
  have hslashTokens : (tokens s.reader (manifestPath? s.reader s.directory none) []
      "'[/]'").result = .ok [⟨.stringLiteral, "[/]"⟩] := by decide
  have hshown := read_table s none [] "'[1]' x" false hdigitTokens
    ⟨by unfold IsAsciiLine; decide, by decide +kernel⟩
  have hlost := read_table s none [] "'[/]'" false hslashTokens
    ⟨by unfold IsAsciiLine; decide, by decide +kernel⟩
  refine ⟨hshown.1 hinert, fun hfaithful => ?_⟩
  have hnoTag := (hlost.2.1 (by decide) hfaithful _ List.mem_cons_self).holdsNoTag
  rw [hslash] at hnoTag
  exact hnoTag (by decide)

/-- The closing tag has nothing to close. -/
example : Markup.render "'[/]'" = .error .notOpen := by
  cbv

end ExprLexer
