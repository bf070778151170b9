import Fieldbus.Text.Hex

/-!
# Hex dumps

Eight bytes to a row: the offset of the first, the bytes in base sixteen in a field of fixed
width, a bar, and the bytes as characters.

* `Dump.offset`: a number in upper-case base sixteen, of four digits at least.
* `Dump.row`: one row.
* `Dump.rows`: all rows of a byte string.
* `Dump.render`: the rows as lines.
-/

namespace Fieldbus.Dump

/-- The number of bytes in a full row. -/
def width : Nat := 8

/-- The upper-case digits of a number in base sixteen. -/
def hexDigits (n : Nat) : List Char :=
  (Nat.toDigits 16 n).map Char.toUpper

/-- The offset of a row. -/
def offset (n : Nat) : List Char :=
  let ds := hexDigits n
  List.replicate (4 - ds.length) '0' ++ ds

/-- The bytes of a row, three characters each, filled up to the width of a full row. -/
def hexField (bs : Bytes) : List Char :=
  bs.flatMap (fun b => Hex.upper b ++ [' ']) ++ List.replicate (3 * (width - bs.length)) ' '

/-- A byte as a character: itself if it is printable ASCII, a dot otherwise. -/
def printable (b : UInt8) : Char :=
  if 32 ≤ b ∧ b ≤ 126 then Char.ofNat b.toNat else '.'

/-- The row that starts at byte `n`. -/
def row (n : Nat) (bs : Bytes) : String :=
  String.ofList (offset n ++ [':', ' '] ++ hexField bs ++ ['|', ' '] ++ bs.map printable)

/-- The rows of the bytes from the `n`th on, after the rows `done`, which are held latest first. -/
def rowsAfter (done : List String) (n : Nat) (bs : Bytes) : List String :=
  if bs.isEmpty then done.reverse
  else rowsAfter (row n (bs.take width) :: done) (n + width) (bs.drop width)
termination_by bs.length
decreasing_by
  have nonempty : 0 < bs.length := by
    cases bs with
    | nil => contradiction
    | cons b r => exact Nat.succ_pos _
  rw [List.length_drop]
  exact Nat.sub_lt nonempty (by decide)

/-- The rows of a byte string. -/
def rows (bs : Bytes) : List String :=
  rowsAfter [] 0 bs

/-- The dump of a byte string, its rows separated by line breaks. -/
def render (bs : Bytes) : String :=
  "\n".intercalate (rows bs)

end Fieldbus.Dump
