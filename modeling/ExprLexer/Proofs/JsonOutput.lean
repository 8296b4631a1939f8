import ExprLexer.CommandLine.Run
import ExprLexer.Proofs.JsonReader

/-!
# What JSON output preserves

The tokens are printed on one line of visible ASCII, and a reader gets them back up to one thing: a
high surrogate and a low surrogate in a row become one code point. So two lists of tokens are
printed alike exactly if they are equal up to that, and nothing is lost exactly if no text has such
a pair.
-/

namespace ExprLexer

/-! ## Pairs of surrogates -/

namespace Text

/-- A high surrogate and a low surrogate stand next to each other. -/
def HoldsPair (t : Text) : Prop :=
  ∃ high low : CodePoint, [high, low] <:+: t ∧ high.isHighSurrogate = true ∧
    low.isLowSurrogate = true

theorem holdsPair_cons {c d : CodePoint} {t : Text} : HoldsPair (c :: d :: t) ↔
    (c.isHighSurrogate = true ∧ d.isLowSurrogate = true) ∨ HoldsPair (d :: t) := by
  constructor
  · rintro ⟨high, low, hinfix, hhigh, hlow⟩
    rcases List.infix_cons_iff.mp hinfix with hbegins | htail
    · obtain ⟨rfl, hrest⟩ := List.cons_prefix_cons.mp hbegins
      obtain ⟨rfl, -⟩ := List.cons_prefix_cons.mp hrest
      exact Or.inl ⟨hhigh, hlow⟩
    · exact Or.inr ⟨high, low, htail, hhigh, hlow⟩
  · rintro (⟨hhigh, hlow⟩ | ⟨high, low, htail, hhigh, hlow⟩)
    · exact ⟨c, d, ⟨[], t, rfl⟩, hhigh, hlow⟩
    · exact ⟨high, low, List.infix_cons htail, hhigh, hlow⟩

theorem not_holdsPair_of_length {t : Text} (h : t.length < 2) : ¬ HoldsPair t := by
  rintro ⟨high, low, hinfix, -⟩
  have := hinfix.length_le
  simp only [List.length_cons, List.length_nil] at this
  omega

/-- Joining changes exactly the texts that hold a pair. -/
theorem joinPairs_eq_self_iff (t : Text) : t.joinPairs = t ↔ ¬ HoldsPair t := by
  fun_induction joinPairs t with
  | case1 => simp [not_holdsPair_of_length]
  | case2 c => simp [not_holdsPair_of_length]
  | case3 c d t h ih =>
    have hpair : HoldsPair (c :: d :: t) := holdsPair_cons.mpr (Or.inl h)
    have hne : CodePoint.ofSurrogates c d ≠ c := by
      intro heq
      have hle := CodePoint.le_ofSurrogates c d
      have hhigh := CodePoint.isHighSurrogate_iff.mp h.1
      rw [heq] at hle
      omega
    simp [hpair, hne]
  | case4 c d t h ih => simp [holdsPair_cons, h, ih]

end Text

/-- The token with the pairs of surrogates in its text joined. -/
def Token.joined (t : Token) : Token :=
  { t with text := t.text.joinPairs }

namespace Json

/-- What a list of tokens says: an object with a kind and a text for each of them. -/
def Value.ofToken (t : Token) : Value :=
  .object [(Token.kindField, .string t.kind.name), (Token.textField, .string t.text)]

def Value.ofTokens (ts : List Token) : Value :=
  .list (ts.map Value.ofToken)

theorem Value.ofToken_injective : Function.Injective Value.ofToken := by
  rintro ⟨kind, text⟩ ⟨kind', text'⟩ h
  simp only [Value.ofToken, Value.object.injEq, List.cons.injEq, Prod.mk.injEq, Value.string.injEq,
    true_and, and_true] at h
  obtain ⟨hname, rfl⟩ := h
  obtain rfl := Kind.eq_of_name_eq hname
  rfl

theorem Value.ofTokens_inj {ts ts' : List Token} :
    Value.ofTokens ts = Value.ofTokens ts' ↔ ts = ts' := by
  rw [Value.ofTokens, Value.ofTokens, Value.list.injEq]
  exact (List.map_injective_iff.mpr Value.ofToken_injective).eq_iff

/-! ## What is printed -/

section Visible

open Text (IsAsciiLine isAsciiLine_append)

theorem isAsciiLine_shortEscape : ∀ p ∈ shortEscapes, ∀ c ∈ [CodePoint.ofChar '\\', p.2],
    c.between ' ' '~' = true := by
  decide

theorem isAsciiLine_escaped (c : CodePoint) : IsAsciiLine (escaped c) := by
  unfold escaped
  split
  · exact isAsciiLine_shortEscape _ (mem_shortEscapes ‹_›)
  · split_ifs with hascii
    · simpa [IsAsciiLine] using hascii
    · intro d hd
      obtain ⟨unit, -, hd⟩ := List.mem_flatMap.mp hd
      simp only [unitEscape, List.mem_cons] at hd
      rcases hd with rfl | rfl | hd
      · decide
      · decide
      · exact Text.isAsciiLine_hexDigits 4 unit d hd

theorem isAsciiLine_string (t : Text) : IsAsciiLine (string t) := by
  intro c hc
  simp only [string, List.mem_cons, List.mem_append, List.mem_flatMap, List.not_mem_nil,
    or_false] at hc
  rcases hc with rfl | ⟨d, -, hc⟩ | rfl
  · decide
  · exact isAsciiLine_escaped d c hc
  · decide

/-- A printed token in full: two members, each a string behind a name. -/
theorem token_eq (t : Token) : token t =
    openObject :: (string Token.kindField ++ colon :: space :: (string t.kind.name ++
      comma :: space :: (string Token.textField ++ colon :: space :: (string t.text ++
        [closeObject])))) := by
  have hopen : Text.ofString "\x7b\"kind\": " =
      openObject :: (string Token.kindField ++ [colon, space]) := by decide
  have hmiddle : Text.ofString ", \"text\": " =
      comma :: space :: (string Token.textField ++ [colon, space]) := by decide
  have hclose : Text.ofString "\x7d" = [closeObject] := rfl
  simp [token, hopen, hmiddle, hclose]

theorem isAsciiLine_token (t : Token) : IsAsciiLine (token t) := by
  have hmarks : IsAsciiLine [openObject, colon, space, comma, closeObject] := by
    unfold IsAsciiLine
    decide
  simp only [IsAsciiLine, List.forall_mem_cons] at hmarks
  simp only [IsAsciiLine, token_eq, List.forall_mem_cons, List.forall_mem_append, hmarks, true_and]
  exact ⟨isAsciiLine_string _, isAsciiLine_string _, isAsciiLine_string _, isAsciiLine_string _,
    by simp⟩

/-- The tokens behind the first one, each behind a comma. -/
def others (ts : List Token) : Text :=
  ts.flatMap fun t => comma :: space :: token t

theorem tokens_nil : tokens [] = [openList, closeList] :=
  rfl

theorem tokens_cons (t : Token) (ts : List Token) :
    tokens (t :: ts) = openList :: (token t ++ (others ts ++ [closeList])) := by
  have hjoin : ∀ t : Token, Text.join ", " ((t :: ts).map token) = token t ++ others ts := by
    have hcomma : Text.ofString ", " = [comma, space] := rfl
    induction ts with
    | nil => simp [Text.join, others]
    | cons u ts ih =>
      intro t
      have hrest := ih u
      simp only [Text.join, List.map_cons, List.intercalate_cons_cons] at hrest ⊢
      rw [hrest]
      simp [others, hcomma]
  have hlist : Text.ofString "[" = [openList] ∧ Text.ofString "]" = [closeList] := ⟨rfl, rfl⟩
  rw [tokens, hjoin, hlist.1, hlist.2]
  simp

theorem isAsciiLine_tokens (ts : List Token) : IsAsciiLine (tokens ts) := by
  have hmarks : IsAsciiLine [openList, closeList, comma, space] := by
    unfold IsAsciiLine
    decide
  simp only [IsAsciiLine, List.forall_mem_cons] at hmarks
  cases ts with
  | nil => simp [tokens_nil, IsAsciiLine, hmarks]
  | cons t ts =>
    have hothers : IsAsciiLine (others ts) := by
      intro c hc
      obtain ⟨u, -, hc⟩ := List.mem_flatMap.mp hc
      simp only [List.mem_cons] at hc
      rcases hc with rfl | rfl | hc
      · exact hmarks.2.2.1
      · exact hmarks.2.2.2.1
      · exact isAsciiLine_token u c hc
    simp only [IsAsciiLine, tokens_cons, List.forall_mem_cons, List.forall_mem_append, hmarks,
      true_and]
    exact ⟨isAsciiLine_token t, hothers, by simp⟩

end Visible

/-! ## What is read -/

section Reading

variable {c : CodePoint} {t : Text} {depth : Nat}

theorem skipSpaces_of_head (h : isSpace c = false) (t : Text) : skipSpaces (c :: t) = c :: t := by
  simp [skipSpaces, h]

theorem value?_skip (depth : Nat) (t : Text) : value? depth (space :: t) = value? depth t := by
  cases depth with
  | zero => simp [value?]
  | succ depth =>
    have hskip : skipSpaces (space :: t) = skipSpaces t := rfl
    simp only [value?, hskip]

theorem key?_skip (t : Text) : key? (space :: t) = key? t :=
  rfl

theorem string_append (t rest : Text) :
    string t ++ rest = mark :: (t.flatMap escaped ++ mark :: rest) := by
  simp [string]

theorem value?_string (depth : Nat) (t rest : Text) :
    value? (depth + 1) (string t ++ rest) = some (.string t.joinPairs, rest) := by
  have hmark : isSpace mark = false := by decide
  simp only [value?, string_append, skipSpaces_of_head hmark, if_true, string?_written,
    Option.map_some]

theorem key?_string (t rest : Text) :
    key? (string t ++ colon :: rest) = some (t.joinPairs, rest) := by
  have hmark : isSpace mark = false := by decide
  have hspace : isSpace colon = false := by decide
  have hcolon : Text.after? [colon] (colon :: rest) = some rest := Text.after?_eq_some.mpr rfl
  simp only [key?, string_append, skipSpaces_of_head hmark, if_true, string?_written,
    Option.bind_some, skipSpaces_of_head hspace, hcolon, Option.map_some]

/-- Names of kinds and of fields hold no surrogates. -/
theorem joinPairs_name : ∀ k ∈ Kind.all, (Text.ofString k.name).joinPairs = k.name := by
  decide

theorem joinPairs_field : Token.kindField.joinPairs = Token.kindField ∧
    Token.textField.joinPairs = Token.textField := by
  decide

theorem members?_string (depth : Nat) (key t rest : Text) :
    members? (depth + 2) (string key ++ colon :: space :: (string t ++ closeObject :: rest)) =
      some ([(key.joinPairs, .string t.joinPairs)], rest) := by
  have hclose : isSpace closeObject = false := by decide
  have hne : closeObject ≠ comma := by decide
  simp only [members?, key?_string, Option.bind_some, value?_skip, value?_string,
    skipSpaces_of_head hclose, hne, if_false, if_true]

theorem members?_cons (depth : Nat) (key t rest : Text) :
    members? (depth + 2) (string key ++ colon :: space :: (string t ++ comma :: space :: rest)) =
      (members? (depth + 1) (space :: rest)).map fun (members, rest) =>
        ((key.joinPairs, .string t.joinPairs) :: members, rest) := by
  have hcomma : isSpace comma = false := by decide
  simp only [members?, key?_string, Option.bind_some, value?_skip, value?_string,
    skipSpaces_of_head hcomma, if_true]

theorem members?_skip (depth : Nat) (t : Text) :
    members? depth (space :: t) = members? depth t := by
  cases depth with
  | zero => simp [members?]
  | succ depth => simp only [members?, key?_skip]

theorem value?_object {key rest : Text} {members : List (Text × Value)}
    (h : members? depth (string key ++ t) = some (members, rest)) :
    value? (depth + 1) (openObject :: (string key ++ t)) = some (.object members, rest) := by
  have hopen : isSpace openObject = false := by decide
  have hmark : isSpace mark = false := by decide
  have hne : openObject ≠ mark ∧ openObject ≠ openList := by decide
  have hclosed : ∀ u : Text, Text.after? [closeObject] (mark :: u) = none := fun _ => rfl
  rw [string_append] at h
  simp only [value?, skipSpaces_of_head hopen, hne, if_false, if_true, string_append,
    skipSpaces_of_head hmark, hclosed, h, Option.map_some]

theorem value?_list {rest : Text} {items : List Value}
    (h : items? depth (openObject :: t) = some (items, rest)) :
    value? (depth + 1) (openList :: openObject :: t) = some (.list items, rest) := by
  have hlist : isSpace openList = false := by decide
  have hopen : isSpace openObject = false := by decide
  have hne : openList ≠ mark := by decide
  have hclosed : ∀ u : Text, Text.after? [closeList] (openObject :: u) = none := fun _ => rfl
  simp only [value?, skipSpaces_of_head hlist, hne, if_false, if_true, skipSpaces_of_head hopen,
    hclosed, h, Option.map_some]

/-- A printed token is read as the object that it says, whatever follows. -/
theorem value?_token (depth : Nat) (t : Token) (rest : Text) :
    value? (depth + 4) (token t ++ rest) = some (.ofToken t.joined, rest) := by
  have hshape : token t ++ rest =
      openObject :: (string Token.kindField ++ colon :: space :: (string t.kind.name ++
        comma :: space :: (string Token.textField ++ colon :: space :: (string t.text ++
          closeObject :: rest)))) := by simp [token_eq]
  rw [hshape]
  apply value?_object
  rw [members?_cons, members?_skip, members?_string, joinPairs_field.1, joinPairs_field.2,
    joinPairs_name _ t.kind.mem_all]
  rfl

theorem items?_last {item : Value} {rest : Text}
    (h : value? depth t = some (item, closeList :: rest)) :
    items? (depth + 1) t = some ([item], rest) := by
  have hclose : isSpace closeList = false := by decide
  have hne : closeList ≠ comma := by decide
  simp only [items?, h, Option.bind_some, skipSpaces_of_head hclose, hne, if_false, if_true]

theorem items?_cons {item : Value} {rest : Text}
    (h : value? depth t = some (item, comma :: space :: rest)) :
    items? (depth + 1) t =
      (items? depth rest).map fun (items, rest) => (item :: items, rest) := by
  have hcomma : isSpace comma = false := by decide
  have hskip : items? depth (space :: rest) = items? depth rest := by
    cases depth with
    | zero => simp [items?]
    | succ depth => simp only [items?, value?_skip]
  simp only [items?, h, Option.bind_some, skipSpaces_of_head hcomma, if_true, hskip]

theorem items?_tokens (depth : Nat) (t : Token) (ts : List Token) (rest : Text) :
    items? (depth + ts.length + 5) (token t ++ (others ts ++ closeList :: rest)) =
      some ((t :: ts).map fun t => .ofToken t.joined, rest) := by
  induction ts generalizing t with
  | nil => exact items?_last (value?_token (depth + 0) t (closeList :: rest))
  | cons u ts ih =>
    have hothers : others (u :: ts) ++ closeList :: rest =
        comma :: space :: (token u ++ (others ts ++ closeList :: rest)) := by simp [others]
    rw [hothers, List.length_cons, ← Nat.add_assoc,
      items?_cons (value?_token (depth + ts.length + 1) t _), ih u]
    rfl

end Reading

theorem length_token (t : Token) : 4 ≤ (token t).length := by
  simp only [token_eq, List.length_cons, List.length_append, List.length_nil]
  omega

theorem length_le_others (ts : List Token) : ts.length ≤ (others ts).length := by
  induction ts with
  | nil => exact Nat.le_refl 0
  | cons t ts ih =>
    simp only [others, List.flatMap_cons, List.cons_append, List.length_cons, List.length_append]
      at ih ⊢
    omega

theorem value?_tokens (ts : List Token) (rest : Text) :
    value? ((tokens ts ++ rest).length + 1) (tokens ts ++ rest) =
      some (.ofTokens (ts.map Token.joined), rest) := by
  cases ts with
  | nil =>
    have hlist : isSpace openList = false := by decide
    have hclose : isSpace closeList = false := by decide
    have hne : openList ≠ mark := by decide
    have hclosed : Text.after? [closeList] (closeList :: rest) = some rest :=
      Text.after?_eq_some.mpr rfl
    simp only [tokens_nil, List.cons_append, List.nil_append, value?, skipSpaces_of_head hlist, hne,
      if_false, if_true, skipSpaces_of_head hclose, hclosed]
    rfl
  | cons t ts =>
    have htoken := length_token t
    have hothers := length_le_others ts
    have hshape : tokens (t :: ts) ++ rest =
        openList :: (token t ++ (others ts ++ closeList :: rest)) := by simp [tokens_cons]
    have hlen : ts.length + 5 ≤ (tokens (t :: ts) ++ rest).length := by
      simp only [hshape, List.length_cons, List.length_append]
      omega
    obtain ⟨depth, hdepth⟩ := Nat.exists_eq_add_of_le' hlen
    have hitems := items?_tokens depth t ts rest
    rw [hdepth, hshape]
    rw [token_eq] at hitems ⊢
    rw [List.cons_append] at hitems ⊢
    rw [← Nat.add_assoc, value?_list hitems, Value.ofTokens, List.map_map]
    rfl

/-- A reader gets the printed tokens back with their pairs of surrogates joined, whatever blanks
follow. -/
theorem read?_tokens (ts : List Token) {rest : Text} (hrest : rest.all isSpace = true) :
    read? (tokens ts ++ rest) = some (.ofTokens (ts.map Token.joined)) := by
  simp only [read?, value?_tokens, Option.bind_some, hrest, if_true]

/-! ## What is lost -/

section Loss

theorem escaped_of_beyond_ascii {c : CodePoint} (h : 0x80 ≤ c.val) :
    escaped c = (units c).flatMap unitEscape := by
  have hplain : ¬ ((shortEscapes.lookup c).isSome ∨ c.between ' ' '~' = true) := by
    intro hplain
    have := lt_of_isPlain hplain
    omega
  obtain ⟨hshort, hascii⟩ := not_or.mp hplain
  rw [Option.not_isSome_iff_eq_none] at hshort
  simp [escaped, hshort, hascii]

theorem escaped_ofSurrogates {high low : CodePoint} (hhigh : high.isHighSurrogate = true)
    (hlow : low.isLowSurrogate = true) :
    escaped (CodePoint.ofSurrogates high low) = escaped high ++ escaped low := by
  have hle := CodePoint.le_ofSurrogates high low
  have hpair : units (CodePoint.ofSurrogates high low) = [high.val, low.val] := by
    have hunits : units (CodePoint.ofSurrogates high low) =
        [(CodePoint.ofSurrogates high low).highSurrogate.val,
          (CodePoint.ofSurrogates high low).lowSurrogate.val] := if_neg (by omega)
    rw [hunits, CodePoint.highSurrogate_ofSurrogates hhigh,
      CodePoint.lowSurrogate_ofSurrogates hlow]
  rw [CodePoint.isHighSurrogate_iff] at hhigh
  rw [CodePoint.isLowSurrogate_iff] at hlow
  have hunit : ∀ c : CodePoint, c.val < 0x10000 → units c = [c.val] := fun _ hc => if_pos hc
  rw [escaped_of_beyond_ascii (by omega), escaped_of_beyond_ascii (by omega),
    escaped_of_beyond_ascii (by omega), hpair, hunit high (by omega), hunit low (by omega)]
  simp

/-- A pair of surrogates is written like the code point that it stands for. -/
theorem string_joinPairs (t : Text) : string t.joinPairs = string t := by
  have hbody : t.joinPairs.flatMap escaped = t.flatMap escaped := by
    fun_induction Text.joinPairs t with
    | case1 => rfl
    | case2 c => rfl
    | case3 c d t h ih => simp [escaped_ofSurrogates h.1 h.2, ih]
    | case4 c d t h ih => rw [List.flatMap_cons, ih, ← List.flatMap_cons]
  rw [string, hbody, string]

theorem tokens_joined (ts : List Token) : tokens (ts.map Token.joined) = tokens ts := by
  have htoken : token ∘ Token.joined = token := by
    funext t
    simp only [Function.comp_apply, token, Token.joined, string_joinPairs]
  rw [tokens, List.map_map, htoken, tokens]

/-- Two lists are printed alike exactly if they are equal up to joining. -/
theorem tokens_eq_iff {ts ts' : List Token} :
    tokens ts = tokens ts' ↔ ts.map Token.joined = ts'.map Token.joined := by
  constructor
  · intro h
    have hread : read? (tokens ts ++ []) = some (.ofTokens (ts.map Token.joined)) :=
      read?_tokens ts rfl
    rw [h, read?_tokens ts' rfl] at hread
    exact (Value.ofTokens_inj.mp (Option.some.inj hread)).symm
  · intro h
    rw [← tokens_joined ts, h, tokens_joined ts']

theorem map_joined_eq_self_iff (ts : List Token) :
    ts.map Token.joined = ts ↔ ∀ t ∈ ts, ¬ t.text.HoldsPair := by
  have hone : ∀ t : Token, t.joined = id t ↔ ¬ t.text.HoldsPair := by
    rintro ⟨kind, text⟩
    simp [Token.joined, ← Text.joinPairs_eq_self_iff]
  calc ts.map Token.joined = ts ↔ ts.map Token.joined = ts.map id := by rw [List.map_id]
    _ ↔ ∀ t ∈ ts, t.joined = id t := List.map_inj_left
    _ ↔ ∀ t ∈ ts, ¬ t.text.HoldsPair := by simp only [hone]

end Loss

end Json

open CommandLine

/-- Where a run succeeds, its JSON output is one line of visible ASCII that a reader takes for the
tokens with their pairs of surrogates joined. Other tokens are printed alike exactly if they are
equal up to that, and the tokens come back as they were exactly if no text holds a pair. -/
theorem read_json_output (s : Setting) (given? : Option Text) (operators : List Text)
    (expression : Text) (verbose : Bool) {ts : List Token}
    (hts : (tokens s.reader (manifestPath? s.reader s.directory given?) operators
      expression).result = .ok ts) :
    ∃ body : Text,
      (run s (.tokenize expression given? operators true verbose)).outcome =
        .finished 0 (line body) ∧
      (∀ c ∈ body, 0x20 ≤ c.val ∧ c.val ≤ 0x7E) ∧
      Json.read? (line body) = some (.ofTokens (ts.map Token.joined)) ∧
      (∀ ts' : List Token, outcome s.console true (.ok ts') = .finished 0 (line body) ↔
        ts'.map Token.joined = ts.map Token.joined) ∧
      (Json.read? (line body) = some (.ofTokens ts) ↔ ∀ t ∈ ts, ¬ t.text.HoldsPair) := by
  have hread : Json.read? (line (Json.tokens ts)) = some (.ofTokens (ts.map Token.joined)) :=
    Json.read?_tokens ts (by decide)
  refine ⟨Json.tokens ts, ?_, ?_, hread, ?_, ?_⟩
  · simp only [run, hts, outcome, if_true]
  · intro c hc
    exact CodePoint.between_iff.mp (Json.isAsciiLine_tokens ts c hc)
  · intro ts'
    simp only [outcome, if_true, Outcome.finished.injEq, line, true_and, List.append_left_inj]
    exact Json.tokens_eq_iff
  · rw [hread, Option.some.injEq, Json.Value.ofTokens_inj]
    exact Json.map_joined_eq_self_iff ts

/-- Two escapes spell a pair of surrogates, which comes back as one code point. -/
theorem read_json_output_of_two_escapes :
    let s : Setting := ⟨(Files.empty (.parse "/home")).reader, .parse "/home", .standard, "0.1.0"⟩
    let expression : Text := "f '\\ud83d\\ude00'"
    let pair : Text := [⟨0xD83D, by decide⟩, ⟨0xDE00, by decide⟩]
    let grin : Text := [⟨0x1F600, by decide⟩]
    (tokens s.reader (manifestPath? s.reader s.directory none) [] expression).result =
      .ok [⟨.symbol, "f"⟩, ⟨.stringLiteral, pair⟩] ∧
    ∃ body : Text,
      (run s (.tokenize expression none [] true false)).outcome = .finished 0 (line body) ∧
      Json.read? (line body) = some (.ofTokens [⟨.symbol, "f"⟩, ⟨.stringLiteral, grin⟩]) ∧
      outcome s.console true (.ok [⟨.symbol, "f"⟩, ⟨.stringLiteral, grin⟩]) =
        .finished 0 (line body) ∧
      Json.read? (line body) ≠ some (.ofTokens [⟨.symbol, "f"⟩, ⟨.stringLiteral, pair⟩]) := by
  intro s expression pair grin
  have hts : (tokens s.reader (manifestPath? s.reader s.directory none) [] expression).result =
      .ok [⟨.symbol, "f"⟩, ⟨.stringLiteral, pair⟩] := by decide
  have hjoined : [⟨.symbol, "f"⟩, ⟨.stringLiteral, pair⟩].map Token.joined =
      [⟨.symbol, "f"⟩, ⟨.stringLiteral, grin⟩] := by decide
  have hgrin : [⟨.symbol, "f"⟩, ⟨.stringLiteral, grin⟩].map Token.joined =
      [⟨.symbol, "f"⟩, ⟨.stringLiteral, grin⟩] := by decide
  have hpair : pair.HoldsPair := ⟨_, _, List.infix_rfl, by decide, by decide⟩
  obtain ⟨body, hrun, -, hread, halike, hlossless⟩ :=
    read_json_output s none [] expression false hts
  refine ⟨hts, body, hrun, ?_, ?_, ?_⟩
  · rw [hread, hjoined]
  · exact (halike _).mpr (hgrin.trans hjoined.symm)
  · intro hsame
    exact hlossless.mp hsame ⟨.stringLiteral, pair⟩ (by simp) hpair

end ExprLexer
