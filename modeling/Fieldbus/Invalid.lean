import Fieldbus.Text.Quoted

/-!
# Invalid settings

Why a value that could be read is not accepted as a setting.

* `Invalid`: the causes.
* `Invalid.text`: the cause in words.
* `Invalid.message`: the message built from it.
-/

namespace Fieldbus

/-- The greatest size of a read buffer, in bytes. -/
def maxMaxLen : Nat := 1048576

/-- Why a setting is not accepted. -/
inductive Invalid where
  /-- No device runs at this rate. -/
  | baud (rate : Int)
  /-- The number of data bits is out of range. -/
  | dataBits (count : Int)
  /-- The number of stop bits is out of range. -/
  | stopBits (count : Int)
  /-- The text names no parity. -/
  | parity (text : String)
  /-- The uid of a port has no visible character. -/
  | blankUid
  /-- A port has no device path. -/
  | emptyDevice (uid : String)
  /-- The read buffer of a port is too small or too large. -/
  | maxLen (uid : String) (size : Nat)
  /-- A port would never wait. -/
  | zeroTimeout (uid : String)
  /-- A document lacks its list of ports. -/
  | noPorts
  /-- A document is neither an object nor an array. -/
  | notADocument
  deriving DecidableEq, Repr

namespace Invalid

/-- The cause in words. -/
def text : Invalid → String
  | baud n => "unsupported baud rate " ++ toString n
  | dataBits n => "data bits must be 5-8, got " ++ toString n
  | stopBits n => "stop bits must be 1 or 2, got " ++ toString n
  | parity s => "parity must be one of n/e/o, got " ++ Text.quoted s
  | blankUid => "port uid may not be empty"
  | emptyDevice uid => "port '" ++ uid ++ "' has an empty device path"
  | maxLen uid n =>
    "port '" ++ uid ++ "' maxlen must be 1-" ++ toString maxMaxLen ++ ", got " ++ toString n
  | zeroTimeout uid => "port '" ++ uid ++ "' timeout must be > 0"
  | noPorts => "missing or invalid 'ports' array"
  | notADocument => "descriptor document must be an object or array"

/-- The message of an invalid setting. -/
def message (e : Invalid) : String :=
  "invalid configuration: " ++ e.text

end Invalid

end Fieldbus
