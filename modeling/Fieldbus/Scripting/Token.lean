import Fieldbus.Scripting.Number

/-!
# Tokens of scripts

A source is read as characters, one for each byte. Only letters, digits and underscores of ASCII
make up names. Long brackets, which have a level, enclose comments and texts that run over lines.

* `Token`: the lexical elements.
* `Lexeme`: an element and the line that it stands on.
* `Lexeme.ofChars?`: the elements of a source.
-/

namespace Fieldbus.Scripting

/-- A lexical element. -/
inductive Token where
  | name (s : String)
  /-- A reserved word, an operator or a delimiter. -/
  | mark (s : String)
  | number (n : Number)
  | text (s : Bytes)

/-- An element and the line that it stands on. -/
structure Lexeme where
  token : Token
  line : Nat

/-- The words that are no names. -/
def reserved : List String :=
  ["and", "break", "do", "else", "elseif", "end", "false", "for", "function", "goto", "if", "in",
    "local", "nil", "not", "or", "repeat", "return", "then", "true", "until", "while"]

/-- The operators and delimiters; of two that fit, the longer one comes first. -/
def marks : List String :=
  ["...", "..", "==", "~=", "<=", ">=", "//", "::", "<<", ">>", "+", "-", "*", "/", "%", "^", "#",
    "&", "~", "|", "<", ">", "=", "(", ")", "\x7b", "\x7d", "[", "]", ";", ":", ",", "."]

namespace Lexeme

/-- Letters of names. -/
def isLetter (c : Char) : Bool := c.isAlpha || c = '_'

/-- Characters of names after the first one. -/
def isNameChar (c : Char) : Bool := c.isAlphanum || c = '_'

/-- A line break and what follows it; the two characters of a break may come in either order. -/
def lineBreak? : List Char → Option (List Char)
  | '\r' :: '\n' :: r => some r
  | '\n' :: '\r' :: r => some r
  | '\r' :: r => some r
  | '\n' :: r => some r
  | _ => none

/-! ## Long brackets -/

/-- The level of a long bracket whose first bracket was read, and what follows it. -/
def longLevel? (cs : List Char) : Option (Nat × List Char) :=
  let (equals, r) := cs.span (· = '=')
  match r with
  | '[' :: r => some (equals.length, r)
  | _ => none

/-- Whether a long bracket of a level ends here, its first bracket being read. -/
def closes (level : Nat) (cs : List Char) : Bool :=
  cs.take (level + 1) == List.replicate level '=' ++ [']']

/-- What a long bracket encloses: its bytes, the line of its end, and what follows. Every line break
counts as one character. -/
def longText? (level line : Nat) (done : Bytes) : List Char → Option (Bytes × Nat × List Char)
  | [] => none
  | '\r' :: '\n' :: r => longText? level (line + 1) (10 :: done) r
  | '\n' :: '\r' :: r => longText? level (line + 1) (10 :: done) r
  | c :: r =>
    if c = ']' ∧ closes level r then some (done.reverse, line, r.drop (level + 1))
    else if c = '\n' ∨ c = '\r' then longText? level (line + 1) (10 :: done) r
    else longText? level line (UInt8.ofNat c.toNat :: done) r

/-- What a long bracket encloses, without a line break at its start. -/
def longBracket? (level line : Nat) (cs : List Char) : Option (Bytes × Nat × List Char) :=
  match lineBreak? cs with
  | some r => longText? level (line + 1) [] r
  | none => longText? level line [] cs

/-! ## Texts in quotes -/

/-- Continuation bytes for the low bits of a number, `n` of them. -/
def continuation (v : Nat) : Nat → Bytes
  | 0 => []
  | n + 1 => UInt8.ofNat (0x80 + v / Nat.pow 64 n % 64) :: continuation v n

/-- The encoding of a number below `2 ^ 31` as a character, in up to six bytes. -/
def encoded (v : Nat) : Bytes :=
  let lead (start n : Nat) : Bytes := UInt8.ofNat (start + v / Nat.pow 64 n) :: continuation v n
  if v < 0x80 then [UInt8.ofNat v]
  else if v < 0x800 then lead 0xC0 1
  else if v < 0x10000 then lead 0xE0 2
  else if v < 0x200000 then lead 0xF0 3
  else if v < 0x4000000 then lead 0xF8 4
  else lead 0xFC 5

/-- What the reader of a text is inside of. -/
inductive Mode where
  | plain
  | escape
  /-- Inside an escape of up to three digits; so many may follow. -/
  | decimal (value left : Nat)
  /-- Inside an escape of two hexadecimal digits; so many have to follow. -/
  | hex (value left : Nat)
  /-- Before the brace of a code point. -/
  | brace
  /-- Inside a code point, with whether there is a digit. -/
  | code (value : Nat) (some : Bool)
  /-- Inside white space that is left out. -/
  | blank
  /-- After a line break that was escaped; the other half of it may follow. -/
  | half (other : Char)

/-- One more than the greatest code point that can be encoded. -/
def codeBound : Nat := Nat.pow 2 31

/-- The byte that a letter after a backslash stands for. -/
def escaped? (c : Char) : Option UInt8 :=
  (([('a', 7), ('b', 8), ('f', 12), ('n', 10), ('r', 13), ('t', 9), ('v', 11), ('\\', 92),
    ('"', 34), ('\'', 39)] : List (Char × UInt8)).find? fun p => p.1 = c).map Prod.snd

/-- A text being read: its bytes, latest first, the line, and what the reader is inside of. -/
structure Writing where
  done : Bytes
  line : Nat
  mode : Mode

/-- Takes a character that belongs to no escape. -/
def Writing.plain (w : Writing) (c : Char) : Option Writing :=
  if c = '\n' ∨ c = '\r' then none
  else if c = '\\' then some { w with mode := .escape }
  else some ⟨UInt8.ofNat c.toNat :: w.done, w.line, .plain⟩

/-- Takes the character after a backslash. -/
def Writing.escape (w : Writing) (c : Char) : Option Writing :=
  if c = '\n' then some ⟨10 :: w.done, w.line + 1, .half '\r'⟩
  else if c = '\r' then some ⟨10 :: w.done, w.line + 1, .half '\n'⟩
  else if c = 'x' then some { w with mode := .hex 0 2 }
  else if c = 'u' then some { w with mode := .brace }
  else if c = 'z' then some { w with mode := .blank }
  else if c.isDigit then some { w with mode := .decimal (c.toNat - 48) 2 }
  else (escaped? c).map fun b => ⟨b :: w.done, w.line, .plain⟩

/-- Takes a character inside an escape of two hexadecimal digits. -/
def Writing.hex (w : Writing) (value left : Nat) (c : Char) : Option Writing :=
  if isHexDigit c then
    let v := value * 16 + (digitValue? c).getD 0
    if left = 1 then some ⟨UInt8.ofNat v :: w.done, w.line, .plain⟩
    else some { w with mode := .hex v (left - 1) }
  else none

/-- Takes a character inside a code point. -/
def Writing.code (w : Writing) (value : Nat) (digits : Bool) (c : Char) : Option Writing :=
  if c = '}' then
    if digits then some ⟨(encoded value).reverse ++ w.done, w.line, .plain⟩ else none
  else
    let v := value * 16 + (digitValue? c).getD 0
    if isHexDigit c ∧ v < codeBound then some { w with mode := .code v true } else none

/-- The text with the byte of a decimal escape. -/
def Writing.endDecimal? (w : Writing) (value : Nat) : Option Writing :=
  if value < 256 then some ⟨UInt8.ofNat value :: w.done, w.line, .plain⟩ else none

/-- Takes a character of a text; nothing if it is an error. The answer tells whether the text ended
with the character. -/
def Writing.step (w : Writing) (quote c : Char) : Option (Bool × Writing) :=
  let go (o : Option Writing) : Option (Bool × Writing) := o.map fun w => (false, w)
  let plain (w : Writing) : Option (Bool × Writing) :=
    if c = quote then some (true, w) else go (w.plain c)
  match w.mode with
  | .plain => plain w
  | .escape => go (w.escape c)
  | .decimal value left =>
    if c.isDigit ∧ left ≠ 0 then
      go (some { w with mode := .decimal (value * 10 + (c.toNat - 48)) (left - 1) })
    else (w.endDecimal? value).bind plain
  | .hex value left => go (w.hex value left c)
  | .brace => if c = '{' then go (some { w with mode := .code 0 false }) else none
  | .code value digits => go (w.code value digits c)
  | .blank =>
    if c = '\n' then go (some ⟨w.done, w.line + 1, .blank⟩)
    else if isSpace c then go (some w)
    else plain { w with mode := .plain }
  | .half other =>
    if c = other then go (some { w with mode := .plain }) else plain { w with mode := .plain }

/-- A text in quotes, of which the first quote was read: its bytes, the line of its end, and what
follows. -/
def quoted? (quote : Char) (w : Writing) : List Char → Option (Bytes × Nat × List Char)
  | [] => none
  | c :: r =>
    match w.step quote c with
    | none => none
    | some (true, w) => some (w.done.reverse, w.line, r)
    | some (false, w) => quoted? quote w r

/-! ## Numerals -/

/-- The characters of a numeral and what follows: digits, letters up to f, points, and exponents,
which begin with `mark` and may have a sign. -/
def numeral (mark : Char) (done : List Char) : List Char → List Char × List Char
  | [] => (done.reverse, [])
  | [c] => if isHexDigit c ∨ c = '.' ∨ c.toLower = mark then ((c :: done).reverse, [])
    else (done.reverse, [c])
  | c :: s :: r =>
    if c.toLower = mark then
      if s = '+' ∨ s = '-' then numeral mark (s :: c :: done) r
      else numeral mark (c :: done) (s :: r)
    else if isHexDigit c ∨ c = '.' then numeral mark (c :: done) (s :: r)
    else (done.reverse, c :: s :: r)

/-- A number and what follows it, which must not be a letter. -/
def number? (cs : List Char) : Option (Number × List Char) :=
  let (body, r) := match cs with
    | '0' :: x :: r =>
      if x = 'x' ∨ x = 'X' then numeral 'p' [x, '0'] r else numeral 'e' [] cs
    | cs => numeral 'e' [] cs
  match r with
  | c :: _ => if isLetter c then none else (Number.ofChars? body).map fun n => (n, r)
  | [] => (Number.ofChars? body).map fun n => (n, r)

/-! ## Elements -/

/-- The operator or delimiter that comes next, and what follows it. -/
def mark? (cs : List Char) : Option (String × List Char) :=
  (marks.find? fun m => m.toList.isPrefixOf cs).map fun m => (m, cs.drop m.length)

/-- A name or a reserved word. -/
def word (s : String) : Token := if s ∈ reserved then .mark s else .name s

/-- A comment, of which the two dashes were read: the line of its end and what follows. -/
def comment? (line : Nat) (cs : List Char) : Option (Nat × List Char) :=
  let short := some (line, cs.dropWhile fun c => c ≠ '\n' && c ≠ '\r')
  match cs with
  | '[' :: r =>
    match longLevel? r with
    | some (level, r) => (longBracket? level line r).map Prod.snd
    | none => short
  | _ => short

/-- What comes next in a source that does not start with white space or a comment: an element, the
line of its end, and what follows. -/
def element? (line : Nat) (cs : List Char) : Option (Token × Nat × List Char) :=
  let number := (number? cs).map fun (n, r) => (.number n, line, r)
  let mark := (mark? cs).map fun (m, r) => (.mark m, line, r)
  match cs with
  | [] => none
  | c :: r =>
    if isLetter c then
      let (name, r) := cs.span isNameChar
      some (word (String.ofList name), line, r)
    else if c.isDigit ∨ (c = '.' ∧ (r.head?.map Char.isDigit).getD false) then number
    else if c = '"' ∨ c = '\'' then
      (quoted? c ⟨[], line, .plain⟩ r).map fun (s, line, r) => (.text s, line, r)
    else if c = '[' then
      match longLevel? r with
      | some (level, r) => (longBracket? level line r).map fun (s, line, r) => (.text s, line, r)
      | none => if r.head? = some '=' then none else mark
    else mark

/-- The elements of a source, which starts on a line. At least one character is read at a time, and
the first argument bounds their number. -/
def scan? (done : List Lexeme) : Nat → Nat → List Char → Option (List Lexeme)
  | _, _, [] => some done.reverse
  | 0, _, _ :: _ => none
  | n + 1, line, c :: r =>
    match lineBreak? (c :: r), c, r with
    | some r, _, _ => scan? done n (line + 1) r
    | none, '-', '-' :: r =>
      match comment? line r with
      | none => none
      | some (line, r) => scan? done n line r
    | none, c, r =>
      if isSpace c then scan? done n line r
      else
        match element? line (c :: r) with
        | none => none
        | some (t, line, r) => scan? (⟨t, line⟩ :: done) n line r

/-- The elements of a source, if it is made up of such. -/
def ofChars? (cs : List Char) : Option (List Lexeme) :=
  scan? [] cs.length 1 cs

end Lexeme

end Fieldbus.Scripting
