import Fieldbus.Json.Decode
import Fieldbus.Line

/-!
# Line parameters in documents

* `Line.record`: the four fields, each with its default.
* `Line.ofJson`: decodes a line.
* `Line.members`: the members that a line is written as.
-/

namespace Fieldbus.Line

open Json

/-- The fields of a line. -/
def record : Record Line where
  name := "LineConfig"
  fields := [
    .of "baud" (checked (integer u32) Baud.ofInt) fun b l => { l with baud := b },
    .of "databits" (checked (integer u8) DataBits.ofInt) fun d l => { l with dataBits := d },
    .of "stopbits" (checked (integer u8) StopBits.ofInt) fun s l => { l with stopBits := s },
    .of "parity" (checked (Json.text aString) Parity.ofText) fun p l => { l with parity := p }]
  start := standard
  missing _ := none

/-- Decodes a line. -/
def ofJson (v : Json) : Except DecodeError Line :=
  record.decode v

/-- The members that a line is written as. -/
def members (l : Line) : List (String × Json) :=
  [("baud", .int l.baud.rate), ("databits", .int l.dataBits.toNat),
    ("stopbits", .int l.stopBits.toNat), ("parity", .str l.parity.label)]

end Fieldbus.Line
