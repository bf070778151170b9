import Fieldbus.Text.Visible

/-!
# Quoted text

The form in which messages show a text or a character of unknown content: between quotes, with a
backslash before a quote or a backslash, short forms for the usual control characters, and
`\u` with the code point in braces for every other character that is not visible.

* `escape`: one character, inside quotes of a given kind.
* `quoted`: a text between double quotes.
* `quotedChar`: a character between single quotes.
* `truth`: a truth value.
-/

namespace Fieldbus.Text

/-- A number in base sixteen, in lower case and without leading zeros. -/
def hexNumber (n : Nat) : String :=
  String.ofList (Nat.toDigits 16 n)

/-- A character as it stands between two `quote` characters. -/
def escape (quote c : Char) : String :=
  if c = '\t' then "\\t"
  else if c = '\r' then "\\r"
  else if c = '\n' then "\\n"
  else if c = '\x00' then "\\0"
  else if c = '\\' then "\\\\"
  else if c = quote then String.ofList ['\\', c]
  else if isVisible c then c.toString
  else "\\u\x7b" ++ hexNumber c.toNat ++ "\x7d"

/-- A text between double quotes. -/
def quoted (s : String) : String :=
  "\"" ++ String.join (s.toList.map (escape '"')) ++ "\""

/-- A character between single quotes. -/
def quotedChar (c : Char) : String :=
  "'" ++ escape '\'' c ++ "'"

/-- A truth value. -/
def truth (b : Bool) : String := if b then "true" else "false"

end Fieldbus.Text
