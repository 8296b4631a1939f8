import ExprLexer.Text

/-!
# Numbers in binary floating point

A decimal is read as the nearest binary64 value and shown with the fewest digits that read back as
that value. All arithmetic is exact, on natural numbers.
-/

namespace ExprLexer

structure Decimal where
  negative : Bool
  digits : Nat
  exponent : Int

inductive Binary64
  | finite (negative : Bool) (significand : Nat) (exponent : Int)
  | infinite (negative : Bool)

namespace Binary64

def leastExponent : Int := -1074

def roundedQuotient (num den : Nat) : Nat :=
  let q := num / den
  let twice := 2 * (num % den)
  if twice > den ∨ twice = den ∧ q % 2 = 1 then q + 1 else q

def scaled (base : Nat) (num den : Nat) (exponent : Int) : Nat × Nat :=
  let factor := Nat.pow base exponent.natAbs
  if exponent < 0 then (num, den * factor) else (num * factor, den)

/-- The exponent of the largest power of `base` not above the fraction, where `length` counts the
digits of a number to that base. -/
def floorLog (base : Nat) (length : Nat → Nat) (num den : Nat) : Int :=
  let guess : Int := (length num : Int) - length den
  let (n, d) := scaled base num den (-guess)
  if d ≤ n then guess else guess - 1

def decimalLength (n : Nat) : Nat := (Nat.toDigits 10 n).length

def nearest (negative : Bool) (num den : Nat) : Binary64 :=
  let exponent := max (floorLog 2 Nat.log2 num den - 52) leastExponent
  let (n, d) := scaled 2 num den (-exponent)
  let m := roundedQuotient n d
  let (m, exponent) := if m = Nat.pow 2 53 then (Nat.pow 2 52, exponent + 1) else (m, exponent)
  if exponent > 971 then .infinite negative else .finite negative m exponent

/-- A decimal far outside the range is settled by its exponent alone. -/
def ofDecimal (d : Decimal) : Binary64 :=
  let top := d.exponent + decimalLength d.digits
  if d.digits = 0 ∨ top < -400 then .finite d.negative 0 leastExponent
  else if top > 400 then .infinite d.negative
  else
    let (num, den) := scaled 10 d.digits 1 d.exponent
    nearest d.negative num den

/-- Whether `k · 10 ^ p` lies among the reals that round to `m · 2 ^ q`, both compared after a
multiplication by four. The ends belong to an even significand. -/
def readsBack (m : Nat) (q : Int) (k : Nat) (p : Int) : Bool :=
  let below := if m = Nat.pow 2 52 ∧ q > leastExponent then 1 else 2
  let (kn, kd) := scaled 10 (4 * k) 1 p
  let (low, _) := scaled 2 (4 * m - below) 1 q
  let (high, den) := scaled 2 (4 * m + 2) 1 q
  if m % 2 = 0 then low * kd ≤ kn * den && kn * den ≤ high * kd
  else low * kd < kn * den && kn * den < high * kd

/-- The better of the two neighbours of a value with `count` digits, if one reads back. -/
def withDigits? (m : Nat) (q : Int) (count : Nat) : Option (Nat × Int) :=
  let (num, den) := scaled 2 m 1 q
  let p := floorLog 10 decimalLength num den - (count - 1)
  let (n, d) := scaled 10 num den (-p)
  let k := n / d
  let nearer := roundedQuotient n d
  let other := if nearer = k then k + 1 else k
  if readsBack m q nearer p then some (nearer, p)
  else if readsBack m q other p then some (other, p)
  else none

def shortest (m : Nat) (q : Int) : Nat × Int :=
  (((List.range 17).map (· + 1)).findSome? (withDigits? m q)).getD (m, 0)

/-- Positional for a point at most sixteen places to the right and four zeros to its right,
otherwise one digit before the point and an exponent of at least two digits. -/
def layout (digits : Text) (point : Int) : Text :=
  if -4 < point ∧ point ≤ 0 then
    "0." ++ Text.repeated point.natAbs '0' ++ digits
  else if 0 < point ∧ point ≤ 16 then
    let whole : Text := digits.take point.natAbs ++ Text.repeated (point.natAbs - digits.length) '0'
    let fraction : Text := digits.drop point.natAbs
    whole ++ "." ++ if fraction = [] then Text.repeated 1 '0' else fraction
  else
    let fraction : Text := digits.drop 1
    let mantissa : Text :=
      if fraction = [] then digits else digits.take 1 ++ "." ++ fraction
    let sign : Text := if point < 1 then "-" else "+"
    let places := Text.ofNat (point - 1).natAbs
    mantissa ++ "e" ++ sign ++ Text.repeated (2 - places.length) '0' ++ places

def display : Binary64 → Text
  | infinite negative => if negative then "-inf" else "inf"
  | finite negative m q =>
    let unsigned : Text :=
      if m = 0 then "0.0"
      else
        let (k, p) := shortest m q
        let digits := Text.ofNat k
        let kept : Text := (digits.reverse.dropWhile (· == CodePoint.ofChar '0')).reverse
        layout kept (p + digits.length)
    if negative then "-" ++ unsigned else unsigned

example : (ofDecimal ⟨false, 15, -1⟩).display = "1.5" := by decide +kernel

example : (ofDecimal ⟨true, 10, -2⟩).display = "-0.1" := by decide +kernel

example : (ofDecimal ⟨false, 1, 16⟩).display = "1e+16" := by decide +kernel

example : (ofDecimal ⟨false, 9007199254740993, 0⟩).display = "9007199254740992.0" := by
  decide +kernel

example : (ofDecimal ⟨false, 3, -324⟩).display = "5e-324" := by decide +kernel

end Binary64

end ExprLexer
