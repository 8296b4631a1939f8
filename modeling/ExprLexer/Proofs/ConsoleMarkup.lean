import ExprLexer.Console.Markup
import Mathlib.Algebra.Order.BigOperators.Group.List
import Mathlib.Algebra.Order.Group.Nat
import Mathlib.Data.List.Infix
import Mathlib.Tactic.Common

/-!
# What the console changes

A text is shown as it stands if it holds no tag, no backslash before a bracket and no emoji code.
The first two are exactly what markup takes away: a tag goes with its brackets, and a bracket that
opens no tag goes without the backslash before it.
-/

namespace ExprLexer

namespace Emoji

def colon : CodePoint := ':'

/-- A name with a picture stands between two colons. -/
def HoldsCode (t : Text) : Prop :=
  ∃ code : Text, colon :: (code ++ [colon]) <:+: t ∧ (∀ c ∈ code, isCodePart c = true) ∧
    (picture? code).isSome = true

theorem HoldsCode.mono {t u : Text} (h : HoldsCode t) (htu : t <:+: u) : HoldsCode u := by
  obtain ⟨code, hcode, hparts, hpicture⟩ := h
  exact ⟨code, hcode.trans htu, hparts, hpicture⟩

theorem HoldsCode.colon_mem {t : Text} (h : HoldsCode t) : colon ∈ t := by
  obtain ⟨code, hcode, -⟩ := h
  exact hcode.subset List.mem_cons_self

theorem code?_eq_some_iff {t code rest : Text} : code? t = some (code, rest) ↔
    t = code ++ colon :: rest ∧ ∀ c ∈ code, isCodePart c = true := by
  constructor
  · intro h
    obtain ⟨u, hu, hpair⟩ := Option.map_eq_some_iff.mp h
    have hdrop : t.dropWhile isCodePart = colon :: u := Text.after?_eq_some.mp hu
    obtain ⟨rfl, rfl⟩ := Prod.mk.inj hpair
    refine ⟨?_, fun c hc => List.all_eq_true.mp List.all_takeWhile c hc⟩
    rw [← hdrop, List.takeWhile_append_dropWhile]
  · rintro ⟨rfl, hparts⟩
    have hcolon : ¬ isCodePart colon = true := by decide
    rw [code?, List.dropWhile_append_of_pos hparts, List.takeWhile_append_of_pos hparts,
      List.dropWhile_cons_of_neg hcolon, List.takeWhile_cons_of_neg hcolon]
    simp [Text.after?_eq_some.mpr, colon]

/-- A text in which no colon begins a code holds none. -/
theorem not_holdsCode {t : Text} (h : ∀ u ∈ t.tails, u.head? = some colon → code? u.tail = none) :
    ¬ HoldsCode t := by
  rintro ⟨code, ⟨before, after, rfl⟩, hparts, -⟩
  have hsome : code? (code ++ colon :: after) = some (code, after) :=
    code?_eq_some_iff.mpr ⟨rfl, hparts⟩
  have hnone := h (colon :: (code ++ colon :: after)) (by simp) rfl
  rw [List.tail_cons, hsome] at hnone
  cases hnone

theorem expand_of_not_holdsCode {t : Text} (h : ¬ HoldsCode t) : expand t = t := by
  fun_induction expand t with
  | case1 => rfl
  | case2 t code rest hcode _ ih =>
    obtain ⟨rfl, hparts⟩ := code?_eq_some_iff.mp hcode
    have hcodeIn : colon :: (code ++ [colon]) <:+: colon :: (code ++ colon :: rest) :=
      ⟨[], rest, by simp⟩
    have hpicture : picture? code = none := by
      rw [← Option.not_isSome_iff_eq_none]
      intro hsome
      exact h ⟨code, hcodeIn, hparts, hsome⟩
    have hrest : ¬ HoldsCode rest := by
      intro hholds
      exact h (hholds.mono ⟨colon :: (code ++ [colon]), [], by simp [colon]⟩)
    rw [hpicture, ih hrest]
    simp [Text.ofString, colon]
  | case3 t hcode ih =>
    rw [ih fun hholds => h (hholds.mono ⟨[colon], [], by simp; rfl⟩)]
  | case4 c t hc ih =>
    rw [ih fun hholds => h (hholds.mono ⟨[c], [], by simp⟩)]

end Emoji

namespace Markup

def openTag : CodePoint := '['

def closeTagMark : CodePoint := ']'

def backslash : CodePoint := '\\'

theorem backslash_ne_openTag : backslash ≠ openTag := by
  decide

/-- Two brackets around a content that starts like a tag and has no brackets. -/
def HoldsTag (t : Text) : Prop :=
  ∃ (c : CodePoint) (content : Text), bracketed (c :: content) <:+: t ∧ isTagStart c = true ∧
    ∀ d ∈ content, isTagPart d = true

def HoldsEscape (t : Text) : Prop :=
  [backslash, openTag] <:+: t

section Pieces

variable {n : Nat} {c : CodePoint} {t content rest : Text}

theorem HoldsTag.mono {t u : Text} (h : HoldsTag t) (htu : t <:+: u) : HoldsTag u := by
  obtain ⟨c, content, htag, hstart, hparts⟩ := h
  exact ⟨c, content, htag.trans htu, hstart, hparts⟩

theorem HoldsTag.cons (h : HoldsTag t) (c : CodePoint) : HoldsTag (c :: t) :=
  h.mono (List.infix_cons (List.infix_refl t))

theorem HoldsEscape.mono {t u : Text} (h : HoldsEscape t) (htu : t <:+: u) : HoldsEscape u :=
  List.IsInfix.trans h htu

/-- What a piece was read from. -/
def Piece.source : Piece → Text
  | .plain t => t
  | .tag backslashes content => Text.repeated backslashes backslash ++ bracketed content

theorem tag_mem_prepend {n : Nat} {content : Text} {ps : List Piece}
    (h : Piece.tag n content ∈ ps) (t : Text) : Piece.tag n content ∈ prepend t ps := by
  unfold prepend
  split <;> simp_all

theorem source_prepend (t : Text) (ps : List Piece) :
    (prepend t ps).flatMap Piece.source = t ++ ps.flatMap Piece.source := by
  unfold prepend
  split <;> simp [Piece.source]

theorem bracketed_eq (content : Text) :
    bracketed content = openTag :: (content ++ [closeTagMark]) := rfl

theorem tag?_eq_some (h : tag? t = some (content, rest)) :
    ∃ c inner, content = c :: inner ∧ isTagStart c = true ∧ (∀ d ∈ inner, isTagPart d = true) ∧
      openTag :: t = bracketed content ++ rest := by
  cases t with
  | nil => simp [tag?] at h
  | cons c t =>
    rw [tag?, Option.ite_none_right_eq_some] at h
    obtain ⟨hstart, h⟩ := h
    obtain ⟨u, hu, hpair⟩ := Option.map_eq_some_iff.mp h
    obtain ⟨rfl, rfl⟩ := Prod.mk.inj hpair
    have hdrop : t.dropWhile isTagPart = closeTagMark :: u := Text.after?_eq_some.mp hu
    refine ⟨c, t.takeWhile isTagPart, rfl, hstart, ?_, ?_⟩
    · exact fun d hd => List.all_eq_true.mp List.all_takeWhile d hd
    · conv_lhs => rw [← List.takeWhile_append_dropWhile (p := isTagPart) (l := t), hdrop]
      simp [bracketed_eq]

theorem tag?_bracketed {inner : Text} (hstart : isTagStart c = true)
    (hparts : ∀ d ∈ inner, isTagPart d = true) (rest : Text) :
    tag? (c :: (inner ++ closeTagMark :: rest)) = some (c :: inner, rest) := by
  have hclose : isTagPart closeTagMark = false := rfl
  rw [tag?, if_pos hstart, List.dropWhile_append_of_pos hparts,
    List.takeWhile_append_of_pos hparts, List.dropWhile_cons_of_neg (by simp [hclose]),
    List.takeWhile_cons_of_neg (by simp [hclose])]
  simp [Text.after?_eq_some.mpr, closeTagMark]

theorem repeated_succ (n : Nat) (c : CodePoint) (t : Text) :
    Text.repeated (n + 1) c ++ t = Text.repeated n c ++ c :: t := by
  simp [Text.repeated, List.replicate_succ']

theorem holdsTag_cons : HoldsTag (c :: t) ↔ (c = openTag ∧ tag? t ≠ none) ∨ HoldsTag t := by
  constructor
  · rintro ⟨d, inner, htag, hstart, hparts⟩
    rcases List.infix_cons_iff.mp htag with ⟨rest, hrest⟩ | htag
    · have hsource : openTag :: d :: (inner ++ closeTagMark :: rest) = c :: t := by
        simpa [bracketed_eq] using hrest
      obtain ⟨rfl, rfl⟩ := List.cons.inj hsource
      exact Or.inl ⟨rfl, by simp [tag?_bracketed hstart hparts rest]⟩
    · exact Or.inr ⟨d, inner, htag, hstart, hparts⟩
  · rintro (⟨rfl, hsome⟩ | hholds)
    · obtain ⟨⟨content, rest⟩, htag⟩ := Option.ne_none_iff_exists'.mp hsome
      obtain ⟨d, inner, rfl, hstart, hparts, hsource⟩ := tag?_eq_some htag
      exact ⟨d, inner, ⟨[], rest, hsource.symm⟩, hstart, hparts⟩
    · exact hholds.cons c

instance decidableHoldsTag : DecidablePred HoldsTag
  | [] => isFalse fun ⟨_, _, htag, _⟩ => List.not_mem_nil (htag.subset List.mem_cons_self)
  | _ :: t => have := decidableHoldsTag t; decidable_of_iff _ holdsTag_cons.symm

instance : DecidablePred HoldsEscape := fun t =>
  inferInstanceAs (Decidable ([backslash, openTag] <:+: t))

theorem holdsEscape_cons : HoldsEscape (c :: t) ↔
    (c = backslash ∧ t.head? = some openTag) ∨ HoldsEscape t := by
  have hhead : [openTag] <+: t ↔ t.head? = some openTag := by
    cases t <;> simp [List.cons_prefix_cons, eq_comm (a := openTag)]
  rw [HoldsEscape, List.infix_cons_iff, List.cons_prefix_cons, hhead, HoldsEscape,
    eq_comm (a := c)]

theorem holdsEscape_repeated (n : Nat) : HoldsEscape (Text.repeated n backslash ++ c :: t) ↔
    (0 < n ∧ c = openTag) ∨ HoldsEscape (c :: t) := by
  induction n with
  | zero => simp [Text.repeated]
  | succ n ih =>
    have hhead : (Text.repeated n backslash ++ c :: t).head? = some openTag ↔
        n = 0 ∧ c = openTag := by
      cases n <;> simp [Text.repeated, List.replicate_succ, backslash_ne_openTag]
    have hstep : HoldsEscape (Text.repeated (n + 1) backslash ++ c :: t) ↔
        (n = 0 ∧ c = openTag) ∨ HoldsEscape (Text.repeated n backslash ++ c :: t) := by
      rw [← hhead, ← true_and (List.head? _ = _), ← eq_self backslash, ← holdsEscape_cons]
      rfl
    rw [hstep, ih]
    grind

/-- Where no bracket hides a backslash, the pieces are the text. -/
theorem source_pieces (n : Nat) (t : Text)
    (h : ¬ HoldsEscape (Text.repeated n backslash ++ t)) :
    (pieces n t).flatMap Piece.source = Text.repeated n backslash ++ t := by
  fun_induction pieces n t with
  | case1 n => simp [Piece.source, backslash]
  | case2 n t ih =>
    rw [repeated_succ] at ih
    exact ih h
  | case3 n t content rest htag _ _ ih =>
    obtain ⟨_, _, -, -, -, hsource⟩ := tag?_eq_some htag
    have hrest : ¬ HoldsEscape rest := by
      intro hholds
      refine h (hholds.mono ⟨Text.repeated n backslash ++ bracketed content, [], ?_⟩)
      simp [← hsource, openTag]
    have hpieces : (pieces 0 rest).flatMap Piece.source = rest := ih hrest
    simp [Piece.source, hpieces, ← hsource, openTag]
  | case4 n t htag _ ih =>
    -- The bracket would hide the last of the backslashes, so there are none.
    rw [holdsEscape_repeated, holdsEscape_cons] at h
    push Not at h
    obtain rfl : n = 0 := by_contra fun hn => h.1 (Nat.pos_of_ne_zero hn) rfl
    have hpieces : (pieces 0 t).flatMap Piece.source = t := ih h.2.2
    simp [source_prepend, hpieces, Text.repeated]
  | case5 n c t hback hopen ih =>
    rw [holdsEscape_repeated, holdsEscape_cons] at h
    push Not at h
    have hpieces : (pieces 0 t).flatMap Piece.source = t := ih h.2.2
    simp [source_prepend, hpieces, backslash]

/-- A text without tags is one piece. -/
theorem pieces_of_not_holdsTag (n : Nat) (t : Text) (h : ¬ HoldsTag t) :
    ∃ u, pieces n t = [.plain u] := by
  fun_induction pieces n t with
  | case1 n => exact ⟨_, rfl⟩
  | case2 n t ih => exact ih fun hholds => h (hholds.cons _)
  | case3 n t content rest htag _ _ ih =>
    exact absurd (holdsTag_cons.mpr (Or.inl ⟨rfl, by simp [htag]⟩)) h
  | case4 n t htag _ ih =>
    obtain ⟨u, hu⟩ := ih fun hholds => h (hholds.cons _)
    exact ⟨_, by rw [hu, prepend]⟩
  | case5 n c t hback hopen ih =>
    obtain ⟨u, hu⟩ := ih fun hholds => h (hholds.cons _)
    exact ⟨_, by rw [hu, prepend]⟩

/-- Neither tags nor escapes nor codes. -/
structure Inert (t : Text) : Prop where
  holdsNoTag : ¬ HoldsTag t
  holdsNoEscape : ¬ HoldsEscape t
  holdsNoCode : ¬ Emoji.HoldsCode t

theorem Inert.pieces_eq (h : Inert t) : pieces 0 t = [.plain t] := by
  obtain ⟨u, hu⟩ := pieces_of_not_holdsTag 0 t h.holdsNoTag
  have hsource : (pieces 0 t).flatMap Piece.source = t := source_pieces 0 t h.holdsNoEscape
  rw [hu] at hsource
  obtain rfl : u = t := by simpa [Piece.source] using hsource
  exact hu

theorem Inert.render_eq (h : Inert t) : render t = .ok (Rendered.ofText t) := by
  rw [render, h.pieces_eq, renderPieces, renderPieces, Emoji.expand_of_not_holdsCode h.holdsNoCode]
  simp [Except.map, Rendered.prepend, Rendered.ofText]

end Pieces

/-! ## What is lost -/

section Lost

variable {n : Nat} {c : CodePoint} {t : Text}

/-- What is shown of a piece. -/
def Piece.shown : Piece → Text
  | .plain t => Emoji.expand t
  | .tag backslashes content =>
    Text.repeated (backslashes / 2) '\\' ++
      if backslashes % 2 = 1 then Emoji.expand (bracketed content) else []

theorem text_prepend (t : Text) (r : Rendered) : (r.prepend t).text = t ++ r.text := by
  unfold Rendered.prepend
  split <;> simp_all [Rendered.text]

theorem exists_of_map_eq_ok {ε α β : Type} {f : α → β} {x : Except ε α} {b : β}
    (h : x.map f = .ok b) : ∃ a, x = .ok a ∧ f a = b := by
  cases x with
  | error e => cases h
  | ok a => exact ⟨a, rfl, Except.ok.inj h⟩

theorem text_renderPieces {opened : List OpenTag} {ps : List Piece} {r : Rendered}
    (h : renderPieces opened ps = .ok r) : r.text = ps.flatMap Piece.shown := by
  induction ps generalizing opened r with
  | nil =>
    obtain rfl := Except.ok.inj h
    rfl
  | cons p ps ih =>
    cases p with
    | plain t =>
      rw [renderPieces] at h
      obtain ⟨others, hrest, rfl⟩ := exists_of_map_eq_ok h
      simp [text_prepend, ih hrest, Piece.shown]
    | tag backslashes content =>
      rw [renderPieces] at h
      split at h
      next hodd =>
        obtain ⟨others, hrest, rfl⟩ := exists_of_map_eq_ok h
        simp [text_prepend, ih hrest, Piece.shown, hodd]
      next heven =>
        cases hfollow : follow opened content with
        | error f => simp [hfollow, bind, Except.bind] at h
        | ok step =>
          cases hrest : renderPieces step.1 ps with
          | error f => simp [hfollow, hrest, bind, Except.bind] at h
          | ok others =>
            simp only [hfollow, hrest, bind, Except.bind] at h
            obtain rfl := Except.ok.inj h
            have htext := ih hrest
            simp only [Rendered.text] at htext
            simp [Rendered.text, htext, Piece.shown, heven]

theorem source_sublist (n : Nat) (t : Text) :
    ((pieces n t).flatMap Piece.source).Sublist (Text.repeated n backslash ++ t) := by
  fun_induction pieces n t with
  | case1 n => simp [Piece.source, backslash]
  | case2 n t ih =>
    rwa [repeated_succ] at ih
  | case3 n t content rest htag _ _ ih =>
    obtain ⟨_, _, -, -, -, hsource⟩ := tag?_eq_some htag
    have hrest : ((pieces 0 rest).flatMap Piece.source).Sublist rest := ih
    have htail := (hrest.append_left (bracketed content)).append_left (Text.repeated n backslash)
    rw [← hsource] at htail
    simpa [Piece.source, openTag] using htail
  | case4 n t htag _ ih =>
    have hrest : ((pieces 0 t).flatMap Piece.source).Sublist t := ih
    have hfewer : (Text.repeated (n - 1) backslash).Sublist (Text.repeated n backslash) :=
      (List.replicate_sublist_replicate backslash).mpr (Nat.sub_le n 1)
    rw [source_prepend, List.append_assoc]
    exact hfewer.append (hrest.cons_cons _)
  | case5 n c t hback hopen ih =>
    have hrest : ((pieces 0 t).flatMap Piece.source).Sublist t := ih
    rw [source_prepend, List.append_assoc]
    exact (hrest.cons_cons c).append_left _

theorem length_repeated_concat (n : Nat) (c d : CodePoint) :
    (Text.repeated n c ++ [d]).length = n + 1 := by
  simp [Text.repeated]

/-- A tag is among the pieces, or they were read from fewer than `size` code points. -/
def Lossy (ps : List Piece) (size : Nat) : Prop :=
  (∃ backslashes content, Piece.tag backslashes content ∈ ps) ∨
    (ps.flatMap Piece.source).length < size

theorem Lossy.mono {ps : List Piece} {size larger : Nat} (h : Lossy ps size)
    (hle : size ≤ larger) : Lossy ps larger :=
  h.imp_right fun hlt => hlt.trans_le hle

theorem Lossy.prepend {ps : List Piece} {size : Nat} (h : Lossy ps size) (t : Text) :
    Lossy (prepend t ps) (t.length + size) := by
  rcases h with ⟨backslashes, content, hmem⟩ | hlt
  · exact Or.inl ⟨backslashes, content, tag_mem_prepend hmem t⟩
  · right
    rw [source_prepend, List.length_append]
    omega

/-- A tag is a piece of its own, and a bracket that is none hides a backslash. -/
theorem lossy_pieces {n : Nat} {t : Text}
    (h : HoldsTag t ∨ HoldsEscape (Text.repeated n backslash ++ t)) :
    Lossy (pieces n t) (n + t.length) := by
  fun_induction pieces n t with
  | case1 n =>
    have hnoOpen : openTag ∉ Text.repeated n backslash := by
      simp [Text.repeated, backslash_ne_openTag.symm]
    rcases h with ⟨_, _, htag, -⟩ | hescape
    · exact absurd (htag.subset List.mem_cons_self) List.not_mem_nil
    · rw [List.append_nil] at hescape
      exact absurd (hescape.subset (by simp)) hnoOpen
  | case2 n t ih =>
    have hback : (CodePoint.ofChar '\\') ≠ openTag := backslash_ne_openTag
    have hnext : HoldsTag t ∨ HoldsEscape (Text.repeated (n + 1) backslash ++ t) := by
      rw [repeated_succ]
      exact h.imp_left fun htag => (holdsTag_cons.mp htag).resolve_left (by simp [hback])
    apply (ih hnext).mono
    rw [List.length_cons]
    omega
  | case3 n t content rest htag _ _ ih => exact Or.inl ⟨n, content, List.mem_cons_self⟩
  | case4 n t htag _ ih =>
    have hcases : 0 < n ∨ HoldsTag t ∨ HoldsEscape t := by
      rw [holdsEscape_repeated, holdsTag_cons, holdsEscape_cons] at h
      have hne := backslash_ne_openTag
      grind [openTag]
    rcases hcases with hn | hnext
    · have hle : ((pieces 0 t).flatMap Piece.source).length ≤ t.length :=
        List.Sublist.length_le (source_sublist 0 t)
      have hlossy : Lossy (pieces 0 t) (t.length + 1) := Or.inr (Nat.lt_succ_of_le hle)
      apply (hlossy.prepend _).mono
      rw [length_repeated_concat, List.length_cons]
      omega
    · apply ((ih hnext).prepend _).mono
      rw [length_repeated_concat, List.length_cons]
      omega
  | case5 n c t hback hopen ih =>
    have hnext : HoldsTag t ∨ HoldsEscape t := by
      rw [holdsEscape_repeated, holdsTag_cons, holdsEscape_cons] at h
      grind [openTag, backslash]
    apply ((ih hnext).prepend _).mono
    rw [length_repeated_concat, List.length_cons]
    omega

theorem not_holdsCode_of_source {backslashes : Nat} {content : Text}
    (h : Emoji.colon ∉ (Piece.tag backslashes content).source) :
    ¬ Emoji.HoldsCode (bracketed content) := by
  intro hholds
  exact h (List.mem_append_right _ hholds.colon_mem)

theorem length_shown_lt {backslashes : Nat} {content : Text}
    (h : Emoji.colon ∉ (Piece.tag backslashes content).source) :
    (Piece.tag backslashes content).shown.length <
      (Piece.tag backslashes content).source.length := by
  have hcode := not_holdsCode_of_source h
  have hlength : (bracketed content).length = content.length + 2 := by simp [bracketed_eq]
  simp only [Piece.shown, Piece.source, Emoji.expand_of_not_holdsCode hcode, List.length_append,
    Text.repeated, List.length_replicate]
  split_ifs with hodd
  · omega
  · rw [List.length_nil]
    omega

theorem shown_sublist {p : Piece} (h : Emoji.colon ∉ p.source) : p.shown.Sublist p.source := by
  cases p with
  | plain t =>
    have hcode : ¬ Emoji.HoldsCode t := fun hholds => h hholds.colon_mem
    rw [Piece.shown, Piece.source, Emoji.expand_of_not_holdsCode hcode]
  | tag backslashes content =>
    have hcode := not_holdsCode_of_source h
    have hhalf : (Text.repeated (backslashes / 2) backslash).Sublist
        (Text.repeated backslashes backslash) :=
      (List.replicate_sublist_replicate backslash).mpr (Nat.div_le_self backslashes 2)
    rw [Piece.shown, Piece.source, Emoji.expand_of_not_holdsCode hcode]
    apply hhalf.append
    split_ifs
    · exact List.Sublist.refl _
    · exact List.nil_sublist _

theorem flatMap_sublist {α β : Type} {l : List α} {f g : α → List β}
    (h : ∀ a ∈ l, (f a).Sublist (g a)) : (l.flatMap f).Sublist (l.flatMap g) := by
  induction l with
  | nil => exact List.Sublist.slnil
  | cons a l ih =>
    rw [List.forall_mem_cons] at h
    exact h.1.append (ih h.2)

section Colonless

variable {r : Rendered}

theorem colon_not_mem_source (hcolon : Emoji.colon ∉ t) :
    ∀ p ∈ pieces 0 t, Emoji.colon ∉ p.source := by
  intro p hp hmem
  have hsource : ((pieces 0 t).flatMap Piece.source).Sublist t := source_sublist 0 t
  exact hcolon (hsource.subset (List.mem_flatMap.mpr ⟨p, hp, hmem⟩))

theorem text_sublist (hcolon : Emoji.colon ∉ t) (hr : render t = .ok r) : r.text.Sublist t := by
  rw [text_renderPieces hr]
  exact (flatMap_sublist fun p hp => shown_sublist (colon_not_mem_source hcolon p hp)).trans
    (source_sublist 0 t)

theorem inert_of_length_le (hcolon : Emoji.colon ∉ t) (hr : render t = .ok r)
    (hlength : t.length ≤ r.text.length) : Inert t := by
  have hpieces := colon_not_mem_source hcolon
  have hshown : ∀ p ∈ pieces 0 t, p.shown.length ≤ p.source.length := fun p hp =>
    (shown_sublist (hpieces p hp)).length_le
  have hsource : ((pieces 0 t).flatMap Piece.source).length ≤ t.length :=
    List.Sublist.length_le (source_sublist 0 t)
  rw [text_renderPieces hr] at hlength
  have hnone : ¬ (HoldsTag t ∨ HoldsEscape t) := by
    intro hmarked
    rcases lossy_pieces (n := 0) hmarked with ⟨m, content, hmem⟩ | hlt
    · have hlost := List.sum_lt_sum _ _ hshown ⟨_, hmem, length_shown_lt (hpieces _ hmem)⟩
      rw [← List.length_flatMap, ← List.length_flatMap] at hlost
      omega
    · have hle := List.sum_le_sum hshown
      rw [← List.length_flatMap, ← List.length_flatMap] at hle
      omega
  rw [not_or] at hnone
  exact ⟨hnone.1, hnone.2, fun hholds => hcolon hholds.colon_mem⟩

end Colonless

end Lost

end Markup

end ExprLexer
