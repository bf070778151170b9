import Fieldbus.Scripting.Library.Text

/-!
# Functions that are built in: packed texts

A packed text holds values as bytes, one after the other. A format has a letter for each of them.

* `Packing.Slot`: what is packed, and how.
* `Packing.slots`: the slots of a format.
* `Library.ofPacking`: the functions on packed texts.
-/

namespace Fieldbus.Scripting

namespace Packing

/-- What a slot holds. -/
inductive Kind where
  /-- A whole number with a sign. -/
  | signed
  /-- A whole number without a sign. -/
  | unsigned
  /-- A floating point number of four bytes. -/
  | single
  /-- A floating point number of eight bytes. -/
  | double
  /-- A text of the size of the slot. -/
  | block
  /-- A text behind its length. -/
  | counted
  /-- A text in front of a zero byte. -/
  | ended
  | padding
  | gap
  deriving DecidableEq, Repr

/-- A slot of a packed text. -/
structure Slot where
  kind : Kind
  /-- Its bytes; those of the length, for a text behind one. -/
  size : Nat
  /-- Its place is a multiple of this. -/
  alignment : Nat
  /-- Whether the lowest byte comes first. -/
  little : Bool
  deriving DecidableEq, Repr

/-! ## Formats -/

/-- What a letter of a format says. -/
inductive Mark where
  | slot (kind : Kind) (size : Nat)
  /-- The bytes of what follows are in this order. -/
  | order (little : Bool)
  /-- What follows is aligned to so much at most. -/
  | bound (most : Nat)
  /-- There is nothing, aligned as the next letter says. -/
  | align
  | blank

/-- The greatest size of a whole number. -/
def maxSize : Nat := 16

/-- A number, unless there is none, and what follows. -/
def count (standard : Nat) (cs : List Char) : Nat × List Char :=
  let (ds, r) := cs.span Char.isDigit
  (if ds = [] then standard else spelled 10 ds, r)

/-- The size of a whole number, and what follows. -/
def size (standard : Nat) (cs : List Char) : Except String (Nat × List Char) :=
  let (n, r) := count standard cs
  if 1 ≤ n ∧ n ≤ maxSize then .ok (n, r)
  else .error ("integral size (" ++ toString n ++ ") out of limits [1,16]")

/-- A slot whose size may be given, and what follows. -/
def sized (kind : Kind) (standard : Nat) (cs : List Char) : Except String (Mark × List Char) :=
  (size standard cs).map fun (n, r) => (.slot kind n, r)

/-- What a letter says, and what follows. -/
def mark (c : Char) (cs : List Char) : Except String (Mark × List Char) :=
  match c with
  | 'b' => .ok (.slot .signed 1, cs)
  | 'B' => .ok (.slot .unsigned 1, cs)
  | 'h' => .ok (.slot .signed 2, cs)
  | 'H' => .ok (.slot .unsigned 2, cs)
  | 'i' => sized .signed 4 cs
  | 'I' => sized .unsigned 4 cs
  | 'l' | 'j' => .ok (.slot .signed 8, cs)
  | 'L' | 'J' | 'T' => .ok (.slot .unsigned 8, cs)
  | 'f' => .ok (.slot .single 4, cs)
  | 'd' | 'n' => .ok (.slot .double 8, cs)
  | 's' => sized .counted 8 cs
  | 'c' =>
    if (cs.head?.map Char.isDigit).getD false then
      let (n, r) := count 0 cs
      .ok (.slot .block n, r)
    else .error "missing size for format option 'c'"
  | 'z' => .ok (.slot .ended 0, cs)
  | 'x' => .ok (.slot .padding 1, cs)
  | 'X' => .ok (.align, cs)
  | '<' | '=' => .ok (.order true, cs)
  | '>' => .ok (.order false, cs)
  | '!' => (size 8 cs).map fun (n, r) => (.bound n, r)
  | ' ' => .ok (.blank, cs)
  | c => .error ("invalid format option '" ++ c.toString ++ "'")

/-- What a slot is aligned to, if that is at most `most`. -/
def alignmentOf (most : Nat) (kind : Kind) (size : Nat) : Except String Nat :=
  let n := if kind = .block ∨ kind = .ended then 1 else min size most
  if n = Nat.pow 2 n.log2 then .ok n else .error "format asks for alignment not power of 2"

/-- The slots of a format. The first argument bounds the number of letters; `little` and `most` are
the order and the bound that hold. -/
def slots : Nat → Bool → Nat → List Char → Except String (List Slot)
  | _, _, _, [] => .ok []
  | 0, _, _, _ :: _ => .error "invalid format"
  | n + 1, little, most, c :: cs => do
    let (m, cs) ← mark c cs
    match m with
    | .blank => slots n little most cs
    | .order little => slots n little most cs
    | .bound most => slots n little most cs
    | .slot kind size =>
      let f : Slot := ⟨kind, size, ← alignmentOf most kind size, little⟩
      return f :: (← slots n little most cs)
    | .align =>
      match cs with
      | [] => .error "invalid next option for option 'X'"
      | c :: cs =>
        match ← mark c cs with
        | (.slot kind size, cs) =>
          if kind = .block ∨ size = 0 then .error "invalid next option for option 'X'"
          else
            let f : Slot := ⟨.gap, 0, ← alignmentOf most kind size, little⟩
            return f :: (← slots n little most cs)
        | _ => .error "invalid next option for option 'X'"

/-! ## Words -/

/-- The lowest bytes of a whole number, the lowest one first. -/
def lowBytes (size : Nat) (n : Int) : Bytes :=
  (List.range size).map fun i => UInt8.ofNat (n / Nat.pow 256 i % 256).toNat

/-- The whole number of some bytes, the lowest one first. -/
def ofLowBytes (bs : Bytes) : Nat := bs.foldr (fun b n => b.toNat + 256 * n) 0

namespace Slot

variable (f : Slot)

/-- The number of bytes from a place to where the slot begins. -/
def skip (place : Nat) : Nat := (f.alignment - place % f.alignment) % f.alignment

/-- Bytes with the lowest one first, in the order of the slot. -/
def ordered (bs : Bytes) : Bytes := if f.little then bs else bs.reverse

/-- A whole number as bytes. -/
def word (n : Int) : Bytes := f.ordered (lowBytes f.size n)

/-- Whether the slot takes a value. -/
def holdsValue : Bool := f.kind != .padding && f.kind != .gap

/-- The bytes of a value, which is an argument. -/
def bytes (vs : List Value) (i : Nat) : Action Bytes := do
  match f.kind with
  | .signed =>
    let n ← Library.whole "pack" vs i
    let bound : Int := Nat.pow 2 (8 * f.size - 1)
    if f.size < 8 ∧ (n < -bound ∨ bound ≤ n) then
      throw (Library.badArgument "pack" i "integer overflow")
    return f.word n
  | .unsigned =>
    let n := (← Library.whole "pack" vs i) % Nat.pow 2 64
    if f.size < 8 ∧ Nat.pow 2 (8 * f.size) ≤ n then
      throw (Library.badArgument "pack" i "unsigned overflow")
    return f.word n
  | .single => return f.word (← Library.number "pack" vs i).toFloat.toFloat32.toBits.toNat
  | .double => return f.word (← Library.number "pack" vs i).toFloat.toBits.toNat
  | .block =>
    let s ← Library.text "pack" vs i
    if f.size < s.length then throw (Library.badArgument "pack" i "string longer than given size")
    return s ++ List.replicate (f.size - s.length) 0
  | .counted =>
    let s ← Library.text "pack" vs i
    if Nat.pow 2 (8 * f.size) ≤ s.length then
      throw (Library.badArgument "pack" i "string length does not fit in given size")
    return f.word s.length ++ s
  | .ended =>
    let s ← Library.text "pack" vs i
    if s.contains 0 then throw (Library.badArgument "pack" i "string contains zeros")
    return s ++ [0]
  | .padding => return [0]
  | .gap => return []

/-- The whole number at the front of some bytes, if it fits. -/
def wordOf (bs : Bytes) : Except String Int :=
  let n := ofLowBytes (f.ordered (bs.take f.size))
  let range := Nat.pow 2 (8 * f.size)
  if f.kind = .signed then
    let v : Int := if 2 * n < range then n else (n : Int) - range
    if Number.minWhole ≤ v ∧ v ≤ Number.maxWhole then .ok v
    else .error (toString f.size ++ "-byte integer does not fit")
  else if n < Nat.pow 2 64 then .ok n
  else .error (toString f.size ++ "-byte integer does not fit")

/-- The value at the front of some bytes, if the slot takes one, and the number of its bytes. -/
def value (bs : Bytes) : Except String (List Value × Nat) := do
  if bs.length < f.size then throw "data string too short"
  match f.kind with
  | .signed | .unsigned => return ([.ofInt (← f.wordOf bs)], f.size)
  | .single =>
    let n := ofLowBytes (f.ordered (bs.take f.size))
    return ([.number (.real (Float32.ofBits (UInt32.ofNat n)).toFloat)], f.size)
  | .double =>
    let n := ofLowBytes (f.ordered (bs.take f.size))
    return ([.number (.real (Float.ofBits (UInt64.ofNat n)))], f.size)
  | .block => return ([.text (bs.take f.size)], f.size)
  | .counted =>
    let n := (← f.wordOf bs).toNat
    if bs.length < f.size + n then throw "data string too short"
    return ([.text ((bs.drop f.size).take n)], f.size + n)
  | .ended =>
    let s := bs.takeWhile (· ≠ 0)
    if s.length = bs.length then throw "unfinished string for format 'z'"
    return ([.text s], s.length + 1)
  | .padding | .gap => return ([], f.size)

end Slot

end Packing

namespace Library

open Packing (Slot)

/-- The slots of a format that is an argument. -/
def layout (name : String) (vs : List Value) : Action (List Slot) := do
  let cs := (← text name vs 0).map fun b => Char.ofNat b.toNat
  ExceptT.mk (pure (Packing.slots cs.length true 1 cs))

/-- Packs the arguments from a place on, behind so many bytes. -/
def packSlots (vs : List Value) : List Slot → Nat → Nat → Action Bytes
  | [], _, _ => return []
  | f :: fs, i, place => do
    let bs := List.replicate (f.skip place) 0 ++ (← f.bytes vs i)
    return bs ++ (← packSlots vs fs (if f.holdsValue then i + 1 else i) (place + bs.length))

/-- Packs values. -/
def packText (vs : List Value) : Action (List Value) := do
  return [.text (← packSlots vs (← layout "pack" vs) 1 0)]

/-- The size of what a format packs. -/
def packedSize (vs : List Value) : Action (List Value) := do
  let fs ← layout "packsize" vs
  if fs.any fun f => f.kind = .counted ∨ f.kind = .ended then
    throw (badArgument "packsize" 0 "variable-length format")
  return [.ofNat (fs.foldl (fun n f => n + f.skip n + f.size) 0)]

/-- Unpacks the bytes behind a place. Gives the values, and the place that follows. -/
def unpackSlots : List Slot → Bytes → Nat → Except String (List Value × Nat)
  | [], _, place => .ok ([], place)
  | f :: fs, bs, place => do
    let gap := f.skip place
    if bs.length < gap then throw "data string too short"
    let (vs, n) ← f.value (bs.drop gap)
    let (more, stop) ← unpackSlots fs (bs.drop (gap + n)) (place + gap + n)
    return (vs ++ more, stop)

/-- Unpacks values. -/
def unpackText (vs : List Value) : Action (List Value) := do
  let fs ← layout "unpack" vs
  let s ← text "unpack" vs 1
  let i ← wholeOr "unpack" vs 2 1
  let start := startOf i s.length
  if s.length + 1 < start then throw (badArgument "unpack" 2 "initial position out of string")
  let (values, stop) ← ExceptT.mk (pure (unpackSlots fs (s.drop (start - 1)) (start - 1)))
  return values ++ [.ofNat (stop + 1)]

/-- The functions on packed texts. -/
def ofPacking : List Entry :=
  [("string.pack", packText), ("string.packsize", packedSize), ("string.unpack", unpackText)]

end Library

end Fieldbus.Scripting
