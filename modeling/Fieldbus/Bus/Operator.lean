import Fieldbus.Bus.Inbox
import Fieldbus.Bus.Topic
import Fieldbus.Text.Blank
import Fieldbus.Text.Dump

/-!
# What an operator types and reads

* `payloadWith`, `readPayload`: a payload as it is typed.
* `topicWarning`: what an operator is told about a topic that no endpoint receives under.
* `Frame.printed`: a frame as it is shown.
* `Inbox.shown`: the frames in an inbox as they are shown.
-/

namespace Fieldbus

/-- Why a typed payload is not accepted. -/
inductive PayloadError where
  /-- It should be in base sixteen, and is not. -/
  | notHex (cause : Hex.Fault)
  /-- There is nothing in it. -/
  | empty
  deriving DecidableEq, Repr

/-- The reasons, outermost first. -/
def PayloadError.chain : PayloadError → List String
  | notHex cause => ["payload is not valid hex", cause.message]
  | empty => ["payload must not be empty"]

/-- A text without its blank characters. -/
def compact (s : String) : String :=
  String.ofList (s.toList.filter fun c => !Text.isBlank c)

/-- The payload that an operator typed, as it stands or in base sixteen, where `decode` reads the
digits; blank characters do not count in the latter. -/
def payloadWith (decode : Bytes → Except Hex.Fault Bytes) (text : String) (hex : Bool) :
    Except PayloadError Bytes :=
  match if hex then decode (utf8 (compact text)) else .ok (utf8 text) with
  | .error cause => .error (.notHex cause)
  | .ok [] => .error .empty
  | .ok bytes => .ok bytes

/-- The payload that an operator typed, with the reader of digits at hand. -/
def readPayload : String → Bool → Except PayloadError Bytes := payloadWith Hex.decode

/-- What an operator is told about a topic that no endpoint receives under. -/
def topicWarning (topic : String) : Option String :=
  match subscriberId? topic with
  | some _ => none
  | none =>
    some ("topic '" ++ topic ++ "' is not an endpoint subscribe-topic (\x60<uid>" ++
      subscribeSuffix ++ "\x60); endpoints will not receive it")

/-- A frame as it is shown: its topic, its size, and a dump of the payload. -/
def Frame.printed (f : Frame) : String :=
  "[" ++ f.topicText ++ "] " ++ toString f.payload.length ++ " bytes\n" ++
    Dump.render f.payload ++ "\n"

/-- Frames as they are shown, one after the other. -/
def Frame.printedAll (fs : List Frame) : String := String.join (fs.map Frame.printed)

/-- What is shown of the frames in an inbox: all of them, or at most the first `count`. -/
def Inbox.shown (b : Inbox) (count : Option Nat) : String :=
  Frame.printedAll (b.takeFrames (count.getD b.waiting.length)).1

end Fieldbus
