import Fieldbus.CommandLine.Collector

/-!
# A single port

A single port may be given by switches or as the one entry of a descriptor document. What is left
out has its default either way.

* `SinglePort`: what is given.
* `SinglePort.settings`: the names, and how each setting is written in either form.
* `SinglePort.arguments`, `SinglePort.entry`: the switches, and the entry.
* `SinglePort.fill`: what the switches put into the record of the collector.
-/

namespace Fieldbus

/-- What is given about a single port. Switches take numbers of certain sizes without a sign,
entries take numbers of 64 bits with one. -/
structure SinglePort where
  device : String
  uid : Option String := none
  baud : Option UInt32 := none
  dataBits : Option UInt8 := none
  stopBits : Option UInt8 := none
  parity : Option String := none
  minDelay : Option (Fin (Nat.pow 2 63)) := none
  maxLen : Option UInt64 := none
  timeout : Option (Fin (Nat.pow 2 63)) := none
  visible : Text.isBlankText device = false := by decide
  uid_visible : ∀ u ∈ uid, Text.isBlankText u = false := by decide

namespace SinglePort

/-- A text, as a switch and as an entry have it. -/
def ofText (s : String) : String × Json := (s, .str s)

/-- A number, as a switch and as an entry have it. -/
def ofNat (n : Nat) : String × Json := (toString n, .int n)

variable (s : SinglePort)

/-- The settings that there are, each with what is given for it. -/
def settings : List (String × Option (String × Json)) :=
  [("device", some (ofText s.device)), ("uid", s.uid.map ofText),
    ("baud", s.baud.map fun n => ofNat n.toNat),
    ("databits", s.dataBits.map fun n => ofNat n.toNat),
    ("stopbits", s.stopBits.map fun n => ofNat n.toNat), ("parity", s.parity.map ofText),
    ("mindelay", s.minDelay.map fun n => ofNat n.val),
    ("maxlen", s.maxLen.map fun n => ofNat n.toNat),
    ("timeout", s.timeout.map fun n => ofNat n.val)]

/-- The switches for what is given. -/
def arguments : List String :=
  s.settings.filterMap fun (name, given) => given.map fun g => "--" ++ name ++ "=" ++ g.1

/-- The members for what is given. -/
def members : List (String × Json) :=
  s.settings.filterMap fun (name, given) => given.map fun g => (name, g.2)

/-- The entry for what is given. -/
def entry : Json := .obj s.members

/-- The record of the collector with what is given put in. -/
def fill (c : Collector) : Collector :=
  { c with
    device := some s.device
    uid := s.uid.or c.uid
    baud := (s.baud.map UInt32.toNat).getD c.baud
    dataBits := (s.dataBits.map UInt8.toNat).getD c.dataBits
    stopBits := (s.stopBits.map UInt8.toNat).getD c.stopBits
    parity := s.parity.getD c.parity
    minDelay := (s.minDelay.map Fin.val).getD c.minDelay
    maxLen := (s.maxLen.map UInt64.toNat).getD c.maxLen
    timeout := (s.timeout.map Fin.val).getD c.timeout }

end SinglePort

end Fieldbus
