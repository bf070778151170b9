import Fieldbus.Invalid
import Fieldbus.Text.Blank

/-!
# Line parameters

How a serial line is driven: its rate, the bits of a character, and the parity.

* `Baud`: a supported rate.
* `DataBits`, `StopBits`, `Parity`: the frame of a character.
* `Line`: all four, by default `115200 8N1`.
* `Line.text`: the usual short form.
-/

namespace Fieldbus

/-! ## Rates -/

/-- The rates that devices run at. -/
def supportedRates : List Nat :=
  [50, 75, 110, 134, 150, 200, 300, 600, 1200, 1800, 2400, 4800, 9600, 19200, 38400, 57600, 115200,
    230400, 460800, 500000, 576000, 921600, 1000000, 1152000, 1500000, 2000000, 2500000, 3000000,
    3500000, 4000000]

/-- A supported rate. -/
structure Baud where
  rate : Nat
  /-- The rate is one of the list. -/
  supported : rate ∈ supportedRates
  deriving DecidableEq

/-- The rate of a number, if it is supported. -/
def Baud.ofInt (n : Int) : Except Invalid Baud :=
  if h : 0 ≤ n ∧ n.toNat ∈ supportedRates then .ok ⟨n.toNat, h.2⟩ else .error (.baud n)

/-- The rate used where none is given. -/
def Baud.standard : Baud := ⟨115200, by decide⟩

instance : Inhabited Baud := ⟨Baud.standard⟩

instance : Repr Baud := ⟨fun b p => reprPrec b.rate p⟩

/-! ## Bits and parity -/

/-- The number of bits of a character. -/
inductive DataBits where
  | five
  | six
  | seven
  | eight
  deriving DecidableEq, Repr, Inhabited

namespace DataBits

/-- The count. -/
def toNat : DataBits → Nat
  | five => 5
  | six => 6
  | seven => 7
  | eight => 8

/-- The data bits of a count. -/
def ofInt (n : Int) : Except Invalid DataBits :=
  if n = 5 then .ok five
  else if n = 6 then .ok six
  else if n = 7 then .ok seven
  else if n = 8 then .ok eight
  else .error (.dataBits n)

/-- The count in words. -/
def name : DataBits → String
  | five => "Five"
  | six => "Six"
  | seven => "Seven"
  | eight => "Eight"

end DataBits

/-- The number of bits after a character. -/
inductive StopBits where
  | one
  | two
  deriving DecidableEq, Repr, Inhabited

namespace StopBits

/-- The count. -/
def toNat : StopBits → Nat
  | one => 1
  | two => 2

/-- The stop bits of a count. -/
def ofInt (n : Int) : Except Invalid StopBits :=
  if n = 1 then .ok one
  else if n = 2 then .ok two
  else .error (.stopBits n)

/-- The count in words. -/
def name : StopBits → String
  | one => "One"
  | two => "Two"

end StopBits

/-- The check bit of a character. -/
inductive Parity where
  | none
  | even
  | odd
  deriving DecidableEq, Repr, Inhabited

namespace Parity

/-- The parity that a text names by its first letter, in either case. Blank characters around the
text do not count. -/
def ofText (s : String) : Except Invalid Parity :=
  match (Text.trimChars s.toList).head?.map Char.toLower with
  | some 'n' => .ok none
  | some 'e' => .ok even
  | some 'o' => .ok odd
  | _ => .error (.parity s)

/-- The name in documents. -/
def label : Parity → String
  | none => "none"
  | even => "even"
  | odd => "odd"

/-- The name as a word of its own. -/
def name : Parity → String
  | none => "None"
  | even => "Even"
  | odd => "Odd"

/-- The letter of the short form. -/
def letter : Parity → String
  | none => "N"
  | even => "E"
  | odd => "O"

end Parity

/-! ## Lines -/

/-- The parameters of a serial line. -/
structure Line where
  baud : Baud := Baud.standard
  dataBits : DataBits := .eight
  stopBits : StopBits := .one
  parity : Parity := .none
  deriving DecidableEq, Repr, Inhabited

namespace Line

/-- The line used where nothing is given. -/
def standard : Line := {}

/-- The short form, such as `9600 7E2`. -/
def text (l : Line) : String :=
  toString l.baud.rate ++ " " ++ toString l.dataBits.toNat ++ l.parity.letter ++
    toString l.stopBits.toNat

end Line

end Fieldbus
