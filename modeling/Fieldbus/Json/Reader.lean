import Fieldbus.Json.Token

/-!
# Reading documents

The reader takes one token at a time. It keeps the arrays and objects that are still open, and
what may come next. A document is a single value; arrays and objects may lie in each other to a
depth of `maxDepth`.

* `Reader.step`: one token.
* `Json.ofTokens?`: the value of a sequence of tokens.
* `Json.parse?`: the value of a text.
-/

namespace Fieldbus.Json

namespace Reader

/-- An array or object that is still open; contents are held latest first. -/
inductive Open where
  /-- An array and its items. -/
  | array (items : List Json)
  /-- An object and its members. -/
  | object (members : List (String × Json))
  /-- An object, its members, and the name whose value comes next. -/
  | named (members : List (String × Json)) (name : String)

/-- What may come next. -/
inductive Awaits where
  | value
  /-- A value, or the end of the array that was just opened. -/
  | itemOrEnd
  /-- A name, or the end of the object that was just opened. -/
  | nameOrEnd
  | name
  | colon
  /-- A comma, or the end of the array or object. -/
  | separator
  /-- Nothing: the document is this value. -/
  | nothing (v : Json)

/-- The reader: the open arrays and objects, innermost first, and what may come next. -/
structure State where
  /-- The open arrays and objects, innermost first. -/
  stack : List Open
  awaits : Awaits

/-- The depth to which arrays and objects may lie in each other. -/
def maxDepth : Nat := 127

/-- Puts a finished value into what is open. -/
def deliver (v : Json) : List Open → Option State
  | [] => some ⟨[], .nothing v⟩
  | .array items :: s => some ⟨.array (v :: items) :: s, .separator⟩
  | .named members name :: s => some ⟨.object ((name, v) :: members) :: s, .separator⟩
  | .object _ :: _ => none

/-- Opens an array or object, unless that lies too deep. -/
def enter (o : Open) (next : Awaits) (stack : List Open) : Option State :=
  if stack.length < maxDepth then some ⟨o :: stack, next⟩ else none

/-- Takes the first token of a value. -/
def beginValue (stack : List Open) : Token → Option State
  | .scalar v => deliver v stack
  | .openArray => enter (.array []) .itemOrEnd stack
  | .openObject => enter (.object []) .nameOrEnd stack
  | _ => none

/-- Closes the innermost array or object. -/
def close (stack : List Open) : Token → Option State
  | .closeArray =>
    match stack with
    | .array items :: s => deliver (.arr items.reverse) s
    | _ => none
  | .closeObject =>
    match stack with
    | .object members :: s => deliver (.obj members.reverse) s
    | _ => none
  | _ => none

/-- Takes a name. -/
def takeName (stack : List Open) : Token → Option State
  | .scalar (.str name) =>
    match stack with
    | .object members :: s => some ⟨.named members name :: s, .colon⟩
    | _ => none
  | _ => none

/-- Takes a comma. -/
def takeComma (stack : List Open) : Option State :=
  match stack with
  | .array _ :: _ => some ⟨stack, .value⟩
  | .object _ :: _ => some ⟨stack, .name⟩
  | _ => none

/-- Takes one token. -/
def step (s : State) (t : Token) : Option State :=
  match s.awaits with
  | .value => beginValue s.stack t
  | .itemOrEnd =>
    match t with
    | .closeArray => close s.stack t
    | _ => beginValue s.stack t
  | .nameOrEnd =>
    match t with
    | .closeObject => close s.stack t
    | _ => takeName s.stack t
  | .name => takeName s.stack t
  | .colon =>
    match t with
    | .colon => some ⟨s.stack, .value⟩
    | _ => none
  | .separator =>
    match t with
    | .comma => takeComma s.stack
    | _ => close s.stack t
  | .nothing _ => none

/-- The document's value, if it is complete. -/
def finish (s : State) : Option Json :=
  match s.awaits with
  | .nothing v => some v
  | _ => none

end Reader

/-- The value that a sequence of tokens spells. -/
def ofTokens? (ts : List Token) : Option Json :=
  (ts.foldlM Reader.step ⟨[], .value⟩).bind Reader.finish

/-- The value of a document's text. -/
def parse? (s : String) : Option Json :=
  (Token.ofChars? s.toList).bind ofTokens?

end Fieldbus.Json
