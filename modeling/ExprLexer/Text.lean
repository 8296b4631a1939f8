/-!
# Text as code points

A text is a list of code points, surrogates included: an escape in a string literal may spell a
lone surrogate, and two of them in a row stay two code points. Lengths and positions count code
points.
-/

namespace ExprLexer

/-- A number below 0x110000. Unlike a `Char` it may be a surrogate. -/
structure CodePoint where
  val : Nat
  isLt : val < 0x110000
  deriving DecidableEq

namespace CodePoint

def ofChar (c : Char) : CodePoint where
  val := c.toNat
  isLt := by
    have h : c.toNat < 0xD800 ∨ 0xDFFF < c.toNat ∧ c.toNat < 0x110000 := c.valid
    omega

instance : Coe Char CodePoint := ⟨ofChar⟩

instance : Inhabited CodePoint := ⟨'\x00'⟩

def ofNat? (n : Nat) : Option CodePoint :=
  if h : n < 0x110000 then some ⟨n, h⟩ else none

/-- A surrogate has no `Char`. -/
def toChar? (c : CodePoint) : Option Char :=
  if h : c.val.isValidChar then some (Char.ofNatAux c.val h) else none

/-- The code points from `lo` to `hi`, both included. -/
def between (lo hi : Char) (c : CodePoint) : Bool :=
  lo.toNat ≤ c.val && c.val ≤ hi.toNat

/-- Whether a code point lies in one of the ranges, whose ends belong to them. -/
def isIn (ranges : List (Nat × Nat)) (c : CodePoint) : Bool :=
  ranges.any fun (first, last) => first ≤ c.val && c.val ≤ last

@[simp] theorem ofChar_val (c : Char) : (ofChar c).val = c.toNat := rfl

theorem between_iff {lo hi : Char} {c : CodePoint} :
    c.between lo hi = true ↔ lo.toNat ≤ c.val ∧ c.val ≤ hi.toNat := by
  simp [between]

theorem isIn_iff {ranges : List (Nat × Nat)} {c : CodePoint} :
    c.isIn ranges = true ↔ ∃ r ∈ ranges, r.1 ≤ c.val ∧ c.val ≤ r.2 := by
  simp [isIn]

theorem ext_val {c d : CodePoint} (h : c.val = d.val) : c = d := by
  cases c
  cases d
  simp_all

theorem ofNat?_val (c : CodePoint) : ofNat? c.val = some c := by
  simp [ofNat?, c.isLt]

end CodePoint

abbrev Text := List CodePoint

instance : LawfulBEq Text := inferInstance

namespace Text

def ofString (s : String) : Text :=
  s.toList.map CodePoint.ofChar

instance : Coe String Text := ⟨ofString⟩

def ofNat (n : Nat) : Text :=
  (Nat.toDigits 10 n).map CodePoint.ofChar

def ofInt : Int → Text
  | .ofNat n => ofNat n
  | .negSucc n => '-' :: ofNat (n + 1)

def repeated (n : Nat) (c : CodePoint) : Text :=
  List.replicate n c

/-- A text without surrogates as a string; a surrogate is replaced by U+FFFD. -/
def toString (t : Text) : String :=
  String.ofList (t.map fun c => c.toChar?.getD '\uFFFD')

/-- The index that a bound of a slice stands for in a text of `length` code points: a negative one
counts from the end, and both kinds are brought into `0..length`. -/
def bound (length : Nat) (i : Int) : Nat :=
  if i < 0 then (i + length).toNat else min i.toNat length

def slice (t : Text) (lo hi : Int) : Text :=
  let start := bound t.length lo
  (t.drop start).take (bound t.length hi - start)

def sliceFrom (t : Text) (lo : Int) : Text :=
  t.drop (bound t.length lo)

/-- What follows `lead` in a text that starts with it. -/
def after? (lead t : Text) : Option Text :=
  if lead.isPrefixOf t then some (t.drop lead.length) else none

def before? (tail t : Text) : Option Text :=
  if tail.isSuffixOf t then some (t.take (t.length - tail.length)) else none

def split (separates : CodePoint → Bool) : Text → List Text
  | [] => [[]]
  | c :: t =>
    if separates c then [] :: split separates t
    else
      match split separates t with
      | [] => [[c]]
      | part :: rest => (c :: part) :: rest

/-- The parts with `separator` between neighbours. -/
def join (separator : Text) (parts : List Text) : Text :=
  separator.intercalate parts

/-- Order by the first code point that differs; a beginning comes before the whole. -/
def precedes : Text → Text → Bool
  | [], _ => true
  | _ :: _, [] => false
  | c :: t, d :: u => c.val < d.val || (c.val == d.val && precedes t u)

def sort (texts : List Text) : List Text :=
  texts.mergeSort precedes

theorem bound_ofNat (length n : Nat) : bound length n = min n length := by
  simp [bound, show ¬(n : Int) < 0 by omega]

theorem after?_eq_some {lead t rest : Text} : after? lead t = some rest ↔ t = lead ++ rest := by
  simp only [after?, Option.ite_none_right_eq_some, Option.some.injEq, List.isPrefixOf_iff_prefix]
  constructor
  · rintro ⟨⟨u, rfl⟩, rfl⟩
    simp
  · rintro rfl
    exact ⟨⟨rest, rfl⟩, by simp⟩

theorem split_append_cons {separates : CodePoint → Bool} {t : Text} {c : CodePoint}
    (h : ∀ d ∈ t, separates d = false) (hc : separates c = true) (u : Text) :
    split separates (t ++ c :: u) = t :: split separates u := by
  induction t with
  | nil => simp [split, hc]
  | cons d t ih =>
    rw [List.forall_mem_cons] at h
    simp [split, h.1, ih h.2]

end Text

end ExprLexer
