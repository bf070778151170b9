import Fieldbus.Logging.Settings
import Fieldbus.Text.Quoted

/-!
# Log events

* `LogEvent`: a level and named fields.
* `LogContext`: what an event is about.
* `LogEvent.ofMessage`, `LogEvent.ofLifecycle`: the two usual events.
-/

namespace Fieldbus

/-- How much an event matters. -/
inductive LogLevel where
  /-- For those who look for a fault. -/
  | debug
  | info
  | warn
  | error
  deriving DecidableEq, Repr

/-- The name of a level in the log. -/
def LogLevel.label : LogLevel → String
  | debug => "DEBUG"
  | info => "INFO"
  | warn => "WARN"
  | error => "ERROR"

/-- What an event is about; what does not apply is absent. -/
structure LogContext where
  uid : Option String := none
  topic : Option String := none
  device : Option String := none
  direction : Option String := none
  deriving DecidableEq, Repr, Inhabited

/-- How a step in the life of something ended. -/
inductive Outcome where
  | success
  | fault
  deriving DecidableEq, Repr

namespace Outcome

/-- The name of an outcome in the log. -/
def label : Outcome → String
  | success => "success"
  | fault => "fault"

/-- The level of an event with this outcome. -/
def level : Outcome → LogLevel
  | success => .info
  | fault => .warn

end Outcome

/-- An event in the log. -/
structure LogEvent where
  level : LogLevel
  fields : List (String × String)
  deriving DecidableEq, Repr

namespace LogEvent

/-- An event that says something; absent parts of the context are empty fields. -/
def ofMessage (level : LogLevel) (context : LogContext) (message : String) : LogEvent :=
  ⟨level, [("uid", context.uid.getD ""), ("topic", context.topic.getD ""),
    ("device", context.device.getD ""), ("direction", context.direction.getD ""),
    ("message", message)]⟩

/-- An event in the life of a port, relay or endpoint. -/
def ofLifecycle (event : String) (outcome : Outcome) (context : LogContext) (message : String) :
    LogEvent :=
  ⟨outcome.level, [("event", event), ("outcome", outcome.label), ("uid", context.uid.getD ""),
    ("topic", context.topic.getD ""), ("device", context.device.getD ""), ("message", message)]⟩

end LogEvent

end Fieldbus
