import Fieldbus.Bus.Topic
import Fieldbus.Descriptor.Document

/-!
# Listings of a document

What an operator sees of a document that was checked.

* `Document.listing`: the ports with their settings and topics, in columns.
* `Document.render`: the listing, or the document in normal form.
* `Document.Report`: the outcome of a check.
-/

namespace Fieldbus.Document

/-- A text filled up with spaces to a number of characters. -/
def column (width : Nat) (s : String) : String :=
  s ++ String.ofList (List.replicate (width - s.length) ' ')

/-- The lines of a listing that are about one port. -/
def portLines (d : Descriptor) : String :=
  let topics := Topics.ofId d.uid
  column 12 d.uid ++ " " ++ column 20 d.device ++ " " ++ d.line.text ++
    " maxlen=" ++ toString d.maxLen ++ " timeout=" ++ toString d.timeout ++
    "ms mindelay=" ++ toString d.minDelay ++ "ms\n" ++
    "  publishes " ++ topics.publish ++ "\n" ++
    "  receives  " ++ topics.subscribe ++ "\n"

/-- The ports of a document with their settings and topics. -/
def listing (d : Document) : String :=
  Text.trimEnd (toString d.ports.length ++ " port(s), " ++ toString d.skipped ++ " skipped\n" ++
    String.join (d.ports.map portLines))

/-- The document as an operator asked for it: in normal form or as a listing. -/
def render (d : Document) (asJson : Bool) : String :=
  if asJson then d.toJson.pretty else d.listing

/-- What precedes the reason why a file was not accepted. -/
def notAccepted (path : String) : String :=
  path ++ " is not a valid port descriptor file"

/-- Checks a file: what is printed, or the reasons why it is not accepted, outermost first. -/
def validate (path : String) (content : Option Bytes) (asJson : Bool) :
    Except (List String) String :=
  match ofFile path content with
  | .ok d => .ok (d.render asJson ++ "\n")
  | .error e => .error [notAccepted path, e.message]

end Fieldbus.Document
