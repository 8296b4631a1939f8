import ExprLexer.CommandLine.Table
import ExprLexer.Proofs.Printing

/-!
# The layout of a table

A column is as wide as its widest cell. A table that fits into the terminal keeps these widths, so
each row takes one line, and a table with narrower cells fits as well. The width of visible ASCII
is its length.
-/

namespace ExprLexer

open Text (IsAsciiLine)

/-! ## Widths of texts -/

section Ascii

variable {c : CodePoint} {t : Text}

theorem not_isIn_of_visible {ranges : List (Nat × Nat)}
    (h : ∀ r ∈ ranges, r.2 < 0x20 ∨ 0x7F ≤ r.1) (hc : c.between ' ' '~' = true) :
    c.isIn ranges = false := by
  have hbounds : ' '.toNat = 0x20 ∧ '~'.toNat = 0x7E := by decide
  have hvisible := CodePoint.between_iff.mp hc
  rw [← Bool.not_eq_true, CodePoint.isIn_iff]
  rintro ⟨r, hr, hfirst, hlast⟩
  have := h r hr
  omega

theorem width_of_visible (h : c.between ' ' '~' = true) : c.width = 1 := by
  have hzero : c.isIn CodePoint.zeroRangesBelow1000 = false ∧
      c.isIn CodePoint.zeroRangesBelow10000 = false ∧
      c.isIn CodePoint.zeroRangesAbove10000 = false :=
    ⟨not_isIn_of_visible (by decide +kernel) h, not_isIn_of_visible (by decide +kernel) h,
      not_isIn_of_visible (by decide +kernel) h⟩
  have hwide : c.isIn CodePoint.wideRanges = false := not_isIn_of_visible (by decide +kernel) h
  simp [CodePoint.width, hzero, hwide]

theorem width_of_isAsciiLine (h : IsAsciiLine t) : t.width = t.length := by
  have hall : ∀ base?, t.widthAfter base? = t.length := by
    induction t with
    | nil => exact fun _ => rfl
    | cons c t ih =>
      intro base?
      rw [IsAsciiLine, List.forall_mem_cons] at h
      have hjoiner : c ≠ CodePoint.joiner := by
        rintro rfl
        exact absurd h.1 (by decide)
      have hselector : c ≠ CodePoint.emojiSelector := by
        rintro rfl
        exact absurd h.1 (by decide)
      unfold Text.widthAfter
      rw [if_neg hjoiner, if_neg hselector, width_of_visible h.1, ih h.2, List.length_cons,
        Nat.add_comm]
  exact hall none

end Ascii

namespace Table

/-! ## Widths of columns -/

/-- No cell of a row is wider than that of the other. -/
structure Row.Below (row other : Row) : Prop where
  number : row.number.width ≤ other.number.width
  kind : row.kind.width ≤ other.kind.width
  text : row.text.text.width ≤ other.text.text.width

section Columns

variable {rows others : List Row}

theorem foldl_max_le_iff {cell : Row → Text} {first limit : Nat} :
    rows.foldl (fun n row => max n (cell row).width) first ≤ limit ↔
      first ≤ limit ∧ ∀ row ∈ rows, (cell row).width ≤ limit := by
  induction rows generalizing first with
  | nil => simp
  | cons row rows ih =>
    rw [List.foldl_cons, ih, Nat.max_le, List.forall_mem_cons, and_assoc]

theorem foldl_max_mono {cell : Row → Text} {first : Nat}
    (h : ∀ row ∈ rows, ∃ other ∈ others, (cell row).width ≤ (cell other).width) :
    rows.foldl (fun n row => max n (cell row).width) first ≤
      others.foldl (fun n row => max n (cell row).width) first := by
  obtain ⟨hfirst, hothers⟩ := foldl_max_le_iff.mp
    (le_refl (others.foldl (fun n row => max n (cell row).width) first))
  refine foldl_max_le_iff.mpr ⟨hfirst, fun row hrow => ?_⟩
  obtain ⟨other, hother, hle⟩ := h row hrow
  exact hle.trans (hothers other hother)

theorem text_le_widths {row : Row} (h : row ∈ header :: rows) :
    row.text.text.width ≤ (widths rows).text := by
  obtain ⟨hheader, hrows⟩ := foldl_max_le_iff.mp (le_refl (widths rows).text)
  rcases List.mem_cons.mp h with rfl | hrow
  · exact hheader
  · exact hrows row hrow

theorem totalWidth_mono (h : ∀ row ∈ rows, ∃ other ∈ others, row.Below other) :
    totalWidth (widths rows) ≤ totalWidth (widths others) := by
  have hnumber : (widths rows).number ≤ (widths others).number :=
    foldl_max_mono fun row hrow => (h row hrow).imp fun _ hother => ⟨hother.1, hother.2.number⟩
  have hkind : (widths rows).kind ≤ (widths others).kind :=
    foldl_max_mono fun row hrow => (h row hrow).imp fun _ hother => ⟨hother.1, hother.2.kind⟩
  have htext : (widths rows).text ≤ (widths others).text :=
    foldl_max_mono fun row hrow => (h row hrow).imp fun _ hother => ⟨hother.1, hother.2.text⟩
  unfold totalWidth
  omega

theorem limited_of_fits {w : Widths} (h : totalWidth w ≤ columns) : w.limited = w := by
  unfold totalWidth at h
  have htext : min w.text (columns - (w.number + w.kind + frameWidth)) = w.text := by omega
  rw [Widths.limited, htext]

end Columns

/-! ## One line for each row -/

/-- The line of a row whose text is not wrapped. -/
def rowLine (bar : Char) (w : Widths) (row : Row) : Text :=
  cellsLine bar w row.number row.kind (fill w.text row.text)

theorem rowLines_of_le {w : Widths} {row : Row} (h : row.text.text.width ≤ w.text) (bar : Char) :
    rowLines bar w row = [rowLine bar w row] := by
  rw [rowLines, cellLines, if_pos h]
  rfl

theorem lines_of_fits {rows : List Row} (h : totalWidth (widths rows) ≤ columns) (title : Text) :
    let w := widths rows
    lines title rows =
      [title.center (totalWidth w), rule '┏' '┳' '┓' '━' w, rowLine '┃' w header,
        rule '┡' '╇' '┩' '━' w] ++ rows.map (rowLine '│' w) ++ [rule '└' '┴' '┘' '─' w] := by
  intro w
  have hheader : rowLines '┃' w header = [rowLine '┃' w header] :=
    rowLines_of_le (text_le_widths List.mem_cons_self) '┃'
  have hrows : rows.flatMap (rowLines '│' w) = rows.map (rowLine '│' w) := by
    rw [List.map_eq_flatMap]
    exact List.flatMap_congr fun row hrow =>
      rowLines_of_le (text_le_widths (List.mem_cons_of_mem _ hrow)) '│'
  rw [lines, limited_of_fits h, hheader, hrows]
  rfl

end Table

end ExprLexer
