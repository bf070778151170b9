import Fieldbus.Bytes
import Fieldbus.Text.Quoted

/-!
# Hexadecimal text

Two digits for each byte, the high half first.

* `Hex.lower`, `Hex.upper`: the two digits of a byte in either letter case.
* `Hex.encode`: a byte string in lower case.
* `Hex.value?`: the value of a digit.
* `Hex.decode`: reads digits of either case; an odd number of them is reported first, then the
  first byte that is no digit.
-/

namespace Fieldbus.Hex

/-- The lower-case digit of a number below sixteen. -/
def lowerDigit (n : Nat) : Char :=
  if n < 10 then Char.ofNat (48 + n) else Char.ofNat (87 + n)

/-- The upper-case digit of a number below sixteen. -/
def upperDigit (n : Nat) : Char :=
  if n < 10 then Char.ofNat (48 + n) else Char.ofNat (55 + n)

/-- A byte as two lower-case digits. -/
def lower (b : UInt8) : List Char :=
  [lowerDigit (b.toNat / 16), lowerDigit (b.toNat % 16)]

/-- A byte as two upper-case digits. -/
def upper (b : UInt8) : List Char :=
  [upperDigit (b.toNat / 16), upperDigit (b.toNat % 16)]

/-- A byte string in lower case. -/
def encode (bs : Bytes) : String :=
  String.ofList (bs.flatMap lower)

/-- The value of a digit of either case. -/
def value? (b : UInt8) : Option Nat :=
  let n := b.toNat
  if 48 ≤ n ∧ n ≤ 57 then some (n - 48)
  else if 97 ≤ n ∧ n ≤ 102 then some (n - 87)
  else if 65 ≤ n ∧ n ≤ 70 then some (n - 55)
  else none

/-- Why a text is not hexadecimal. -/
inductive Fault where
  /-- The number of bytes is odd. -/
  | oddLength
  /-- The first byte that is no digit, and its offset. -/
  | notADigit (byte : UInt8) (offset : Nat)
  deriving DecidableEq, Repr

/-- The wording of a fault; a byte is shown as the character with its number. -/
def Fault.message : Fault → String
  | .oddLength => "Odd number of digits"
  | .notADigit b i =>
    "Invalid character " ++ Text.quotedChar (Char.ofNat b.toNat) ++ " at position " ++ toString i

/-- Reads pairs of digits, the first of which stands at `offset`, after the bytes `done`, which
are held latest first. -/
def decodePairs (offset : Nat) (done : Bytes) : Bytes → Except Fault Bytes
  | [] => .ok done.reverse
  | [_] => .error .oddLength
  | a :: b :: r =>
    match value? a, value? b with
    | none, _ => .error (.notADigit a offset)
    | some _, none => .error (.notADigit b (offset + 1))
    | some high, some low => decodePairs (offset + 2) (UInt8.ofNat (high * 16 + low) :: done) r

/-- The bytes that a hexadecimal text spells. -/
def decode (text : Bytes) : Except Fault Bytes :=
  if text.length % 2 = 1 then .error .oddLength else decodePairs 0 [] text

end Fieldbus.Hex
