import ExprLexer.Text.Hex

/-!
# Text files

A file holds text as UTF-8. Decoding is strict: it refuses overlong forms, surrogates, numbers
beyond Unicode and sequences that are cut short, and reports the longest start of a sequence at the
place where it stops. Each of the three line ends then becomes a line feed.
-/

namespace ExprLexer.Text

/-- What a first byte of 0xC2 or more calls for: how many bytes follow, the least and the greatest
first one of them, and the bits that the byte itself adds. -/
def leadByte? (b : Nat) : Option (Nat × Nat × Nat × Nat) :=
  if 0xC2 ≤ b ∧ b ≤ 0xDF then some (1, 0x80, 0xBF, b - 0xC0)
  else if b = 0xE0 then some (2, 0xA0, 0xBF, 0)
  else if b = 0xED then some (2, 0x80, 0x9F, 0xD)
  else if 0xE1 ≤ b ∧ b ≤ 0xEF then some (2, 0x80, 0xBF, b - 0xE0)
  else if b = 0xF0 then some (3, 0x90, 0xBF, 0)
  else if 0xF1 ≤ b ∧ b ≤ 0xF3 then some (3, 0x80, 0xBF, b - 0xF0)
  else if b = 0xF4 then some (3, 0x80, 0x8F, 4)
  else none

inductive Undecodable.Reason
  | startByte
  | continuationByte
  | endOfData
  deriving DecidableEq

structure Undecodable where
  position : Nat
  bytes : List UInt8
  reason : Undecodable.Reason
  deriving DecidableEq

namespace Undecodable

def Reason.message : Reason → Text
  | startByte => "invalid start byte"
  | continuationByte => "invalid continuation byte"
  | endOfData => "unexpected end of data"

def place (u : Undecodable) : Text :=
  match u.bytes with
  | [b] => "byte 0x" ++ hexDigits 2 b.toNat ++ " in position " ++ ofNat u.position
  | bytes => "bytes in position " ++ ofNat u.position ++ "-" ++
      ofNat (u.position + bytes.length - 1)

def message (u : Undecodable) : Text :=
  "'utf-8' codec can't decode " ++ u.place ++ ": " ++ u.reason.message

end Undecodable

def prepend (n : Nat) (r : Except Undecodable Text) : Except Undecodable Text :=
  r.map fun t => (CodePoint.ofNat? n).getD default :: t

/-- Decodes the bytes after `held`, which stand at `position` and start a sequence of which `owed`
bytes are still to come. The next of them lies between `least` and `greatest`, and `bits` is what
the sequence holds so far. -/
def decodeFrom : (owed least greatest bits position : Nat) → (held : List UInt8) → List UInt8 →
    Except Undecodable Text
  | 0, _, _, _, _, _, [] => .ok []
  | _ + 1, _, _, _, position, held, [] => .error ⟨position, held, .endOfData⟩
  | 0, _, _, _, position, _, b :: t =>
    if b.toNat < 0x80 then prepend b.toNat (decodeFrom 0 0 0 0 (position + 1) [] t)
    else
      match leadByte? b.toNat with
      | none => .error ⟨position, [b], .startByte⟩
      | some (owed, least, greatest, bits) => decodeFrom owed least greatest bits position [b] t
  | owed + 1, least, greatest, bits, position, held, b :: t =>
    let bits := bits * 64 + (b.toNat - 0x80)
    if b.toNat < least ∨ greatest < b.toNat then .error ⟨position, held, .continuationByte⟩
    else if owed = 0 then
      prepend bits (decodeFrom 0 0 0 0 (position + held.length + 1) [] t)
    else decodeFrom owed 0x80 0xBF bits position (held ++ [b]) t

def ofUtf8 (bytes : List UInt8) : Except Undecodable Text :=
  decodeFrom 0 0 0 0 0 [] bytes

/-- Writes each carriage return, with the line feed after it if one follows, as one line feed. -/
def normalizeLines : (afterReturn : Bool) → Text → Text
  | _, [] => []
  | afterReturn, c :: t =>
    if c = '\r' then '\n' :: normalizeLines true t
    else if afterReturn && c = '\n' then normalizeLines false t
    else c :: normalizeLines false t

end ExprLexer.Text
