import Fieldbus.Json.Number

/-!
# Tokens of a document

The lexer takes one character at a time. Its state holds the tokens it has finished and the one
it is inside of; numbers and words end at the first character that cannot belong to them, which is
then taken up afresh.

* `Token`: the lexical elements; texts, numbers and words are values already.
* `Token.step`: one character.
* `Token.ofChars?`: the tokens of a document.
-/

namespace Fieldbus.Json

/-- A lexical element. -/
inductive Token where
  | openObject
  | closeObject
  | openArray
  | closeArray
  | colon
  | comma
  /-- A text, a number or a word. -/
  | scalar (v : Json)

namespace Token

/-- The characters of a text read so far, latest first, and the first half of a surrogate pair that
waits for its second. -/
structure Partial where
  chars : List Char
  /-- The high surrogate, if one was read. -/
  high : Option Nat

/-- What the lexer is inside of. -/
inductive Mode where
  | between
  | text (t : Partial)
  /-- After a backslash inside a text. -/
  | escape (t : Partial)
  /-- Inside an escape by number, with the count and the value of the digits read. -/
  | number16 (t : Partial) (count value : Nat)
  /-- Inside a number; its characters, latest first. -/
  | number (cs : List Char)
  /-- Inside a word; its characters, latest first. -/
  | word (cs : List Char)

/-- The lexer: the tokens finished, latest first, and what it is inside of. -/
structure Lexer where
  done : List Token
  mode : Mode

/-- White space between tokens. -/
def isSpace (c : Char) : Bool :=
  c = ' ' || c = '\t' || c = '\n' || c = '\r'

/-- Characters that continue a number. -/
def continuesNumber (c : Char) : Bool :=
  c.isDigit || c = '.' || c = 'e' || c = 'E' || c = '+' || c = '-'

/-- The value that a word stands for. -/
def word? (cs : List Char) : Option Json :=
  if cs = ['t', 'r', 'u', 'e'] then some (.bool true)
  else if cs = ['f', 'a', 'l', 's', 'e'] then some (.bool false)
  else if cs = ['n', 'u', 'l', 'l'] then some .null
  else none

/-- Takes a character between two tokens. -/
def beginToken (done : List Token) (c : Char) : Option Lexer :=
  if isSpace c then some ⟨done, .between⟩
  else if c = '{' then some ⟨.openObject :: done, .between⟩
  else if c = '}' then some ⟨.closeObject :: done, .between⟩
  else if c = '[' then some ⟨.openArray :: done, .between⟩
  else if c = ']' then some ⟨.closeArray :: done, .between⟩
  else if c = ':' then some ⟨.colon :: done, .between⟩
  else if c = ',' then some ⟨.comma :: done, .between⟩
  else if c = '"' then some ⟨done, .text ⟨[], none⟩⟩
  else if c = '-' || c.isDigit then some ⟨done, .number [c]⟩
  else if c.isLower then some ⟨done, .word [c]⟩
  else none

/-- Ends the token being read, if it may end here. -/
def finish (l : Lexer) : Option (List Token) :=
  match l.mode with
  | .between => some l.done
  | .number cs => (Number.read? cs.reverse).map fun v => .scalar v :: l.done
  | .word cs => (word? cs.reverse).map fun v => .scalar v :: l.done
  | .text _ | .escape _ | .number16 .. => none

/-- Adds a character to a text; none may come between the halves of a surrogate pair. -/
def Partial.push (t : Partial) (c : Char) : Option Mode :=
  match t.high with
  | none => some (.text ⟨c :: t.chars, none⟩)
  | some _ => none

/-- The character that a letter after a backslash stands for. -/
def escaped? (c : Char) : Option Char :=
  if c = '"' then some '"'
  else if c = '\\' then some '\\'
  else if c = '/' then some '/'
  else if c = 'b' then some '\x08'
  else if c = 'f' then some '\x0c'
  else if c = 'n' then some '\n'
  else if c = 'r' then some '\r'
  else if c = 't' then some '\t'
  else none

/-- The value of a digit in base sixteen. -/
def hexValue? (c : Char) : Option Nat :=
  let n := c.toNat
  if 48 ≤ n ∧ n ≤ 57 then some (n - 48)
  else if 97 ≤ n ∧ n ≤ 102 then some (n - 87)
  else if 65 ≤ n ∧ n ≤ 70 then some (n - 55)
  else none

/-- Adds a code unit of sixteen bits to a text: a high surrogate waits, a low one needs a high one
before it, and nothing else may follow a high one. -/
def Partial.pushUnit (t : Partial) (n : Nat) : Option Mode :=
  match t.high with
  | none =>
    if 0xD800 ≤ n ∧ n ≤ 0xDBFF then some (.text ⟨t.chars, some n⟩)
    else if 0xDC00 ≤ n ∧ n ≤ 0xDFFF then none
    else some (.text ⟨Char.ofNat n :: t.chars, none⟩)
  | some h =>
    if 0xDC00 ≤ n ∧ n ≤ 0xDFFF then
      some (.text ⟨Char.ofNat (0x10000 + (h - 0xD800) * 0x400 + (n - 0xDC00)) :: t.chars, none⟩)
    else none

/-- Takes one character. -/
def step (l : Lexer) (c : Char) : Option Lexer :=
  match l.mode with
  | .between => beginToken l.done c
  | .text t =>
    if c = '\\' then some ⟨l.done, .escape t⟩
    else if c = '"' then
      match t.high with
      | none => some ⟨.scalar (.str (String.ofList t.chars.reverse)) :: l.done, .between⟩
      | some _ => none
    else if c.toNat < 0x20 then none
    else (t.push c).map fun m => ⟨l.done, m⟩
  | .escape t =>
    if c = 'u' then some ⟨l.done, .number16 t 0 0⟩
    else ((escaped? c).bind t.push).map fun m => ⟨l.done, m⟩
  | .number16 t count value =>
    match hexValue? c with
    | none => none
    | some d =>
      if count < 3 then some ⟨l.done, .number16 t (count + 1) (value * 16 + d)⟩
      else (t.pushUnit (value * 16 + d)).map fun m => ⟨l.done, m⟩
  | .number cs =>
    if continuesNumber c then some ⟨l.done, .number (c :: cs)⟩
    else (finish l).bind fun done => beginToken done c
  | .word cs =>
    if c.isLower then some ⟨l.done, .word (c :: cs)⟩
    else (finish l).bind fun done => beginToken done c

/-- The tokens of a document, in order. -/
def ofChars? (cs : List Char) : Option (List Token) :=
  ((cs.foldlM step ⟨[], .between⟩).bind finish).map List.reverse

end Token

end Fieldbus.Json
