import Fieldbus.Json
import Fieldbus.Text.Hex

/-!
# Writing documents

The indented form: two spaces for each level, one item or member to a line, and nothing between the
brackets of an empty array or object.

* `Json.quote`: a text with its escapes.
* `Json.pretty`: a document in indented form.
-/

namespace Fieldbus.Json

/-- A character of a text; quotes, backslashes and control characters are escaped. -/
def quoteChar (c : Char) : List Char :=
  if c = '"' then ['\\', '"']
  else if c = '\\' then ['\\', '\\']
  else if c = '\x08' then ['\\', 'b']
  else if c = '\x0c' then ['\\', 'f']
  else if c = '\n' then ['\\', 'n']
  else if c = '\r' then ['\\', 'r']
  else if c = '\t' then ['\\', 't']
  else if c.toNat < 0x20 then ['\\', 'u', '0', '0'] ++ Hex.lower (UInt8.ofNat c.toNat)
  else [c]

/-- A text between quotes. -/
def quote (s : String) : List Char :=
  '"' :: s.toList.flatMap quoteChar ++ ['"']

/-- A line break and the spaces of a level. -/
def newline (level : Nat) : List Char :=
  '\n' :: List.replicate (2 * level) ' '

mutual

/-- A value at some level. -/
def prettyAt (level : Nat) : Json → List Char
  | null => ['n', 'u', 'l', 'l']
  | bool true => ['t', 'r', 'u', 'e']
  | bool false => ['f', 'a', 'l', 's', 'e']
  | int n => (toString n).toList
  | float x => x.text.toList
  | str s => quote s
  | arr [] => ['[', ']']
  | arr (v :: vs) =>
    '[' :: newline (level + 1) ++ prettyAt (level + 1) v ++ prettyItems (level + 1) vs ++
      newline level ++ [']']
  | obj [] => ['{', '}']
  | obj ((name, v) :: ms) =>
    '{' :: newline (level + 1) ++ quote name ++ [':', ' '] ++ prettyAt (level + 1) v ++
      prettyMembers (level + 1) ms ++ newline level ++ ['}']

/-- The items of an array after the first. -/
def prettyItems (level : Nat) : List Json → List Char
  | [] => []
  | v :: vs => ',' :: newline level ++ prettyAt level v ++ prettyItems level vs

/-- The members of an object after the first. -/
def prettyMembers (level : Nat) : List (String × Json) → List Char
  | [] => []
  | (name, v) :: ms =>
    ',' :: newline level ++ quote name ++ [':', ' '] ++ prettyAt level v ++
      prettyMembers level ms

end

/-- A document in indented form. -/
def pretty (v : Json) : String :=
  String.ofList (prettyAt 0 v)

end Fieldbus.Json
