import Fieldbus.Bytes

/-!
# Topics

Every endpoint publishes under one topic and receives under another, both made from its id.

* `Topics.ofId`: the two topics of an endpoint.
* `Topics.accepts`: whether an endpoint takes a frame with a given topic.
* `subscriberId?`, `publisherId?`: the id that a topic belongs to.
-/

namespace Fieldbus

/-- The two topics of an endpoint. -/
structure Topics where
  /-- The topic of the frames that it sends. -/
  publish : String
  /-- The topic of the frames that it receives. -/
  subscribe : String
  deriving DecidableEq, Repr, Inhabited

/-- The end of every topic under which an endpoint publishes. -/
def publishSuffix : String := "_north_topic"

/-- The end of every topic under which an endpoint receives. -/
def subscribeSuffix : String := "_south_topic"

/-- The topics of the endpoint with a given id. -/
def Topics.ofId (id : String) : Topics :=
  ⟨id ++ publishSuffix, id ++ subscribeSuffix⟩

/-- An endpoint takes the frames whose topic is the one it receives under, byte for byte. -/
def Topics.accepts (t : Topics) (topic : Bytes) : Bool :=
  topic = utf8 t.subscribe

/-- What stands in front of a suffix, if the text has that suffix and something in front of it. -/
def stem? (suffix topic : String) : Option String :=
  let n := topic.toList.length - suffix.toList.length
  if 0 < n ∧ topic.toList.drop n = suffix.toList then some (String.ofList (topic.toList.take n))
  else none

/-- The id of the endpoint that receives under a topic. -/
def subscriberId? (topic : String) : Option String :=
  stem? subscribeSuffix topic

/-- The id of the endpoint that publishes under a topic. -/
def publisherId? (topic : String) : Option String :=
  stem? publishSuffix topic

end Fieldbus
