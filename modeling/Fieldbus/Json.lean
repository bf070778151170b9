import Fieldbus.Binary64.Shortest
import Fieldbus.Text.Quoted

/-!
# JSON values

Documents as trees. An object keeps its members as they were written; `canonical` is the map that
they denote.

* `Json`: the values. Whole numbers and floating point numbers are different values.
* `Json.canonical`: the members in increasing order of their names, the last of each name only.
* `Json.describe`: what a value is, as messages name it.
-/

namespace Fieldbus

/-- A JSON value. -/
inductive Json where
  | null
  | bool (b : Bool)
  /-- A number that was written as a whole number and fits into 64 bits. -/
  | int (n : Int)
  | float (x : Binary64)
  | str (s : String)
  | arr (items : List Json)
  | obj (members : List (String × Json))
  deriving Inhabited

namespace Json

/-- Puts a member into a list that is sorted by name, in the place of one of the same name. -/
def place (name : String) (v : Json) : List (String × Json) → List (String × Json)
  | [] => [(name, v)]
  | m :: ms =>
    if name < m.1 then (name, v) :: m :: ms
    else if name = m.1 then (name, v) :: ms
    else m :: place name v ms

/-- The members in increasing order of their names, the last of each name only. -/
def canonical (members : List (String × Json)) : List (String × Json) :=
  members.foldl (fun sorted m => place m.1 m.2 sorted) []

/-- The member of a name that counts. -/
def member? (name : String) (members : List (String × Json)) : Option Json :=
  (members.reverse.find? fun m => m.1 = name).map Prod.snd

/-- What a value is, as messages name it. -/
def describe : Json → String
  | null => "null"
  | bool b => "boolean \x60" ++ Text.truth b ++ "\x60"
  | int n => "integer \x60" ++ toString n ++ "\x60"
  | float x => "floating point \x60" ++ x.text ++ "\x60"
  | str s => "string " ++ Text.quoted s
  | arr _ => "sequence"
  | obj _ => "map"

end Json

end Fieldbus
