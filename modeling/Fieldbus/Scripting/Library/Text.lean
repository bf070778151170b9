import Fieldbus.Scripting.Format
import Fieldbus.Scripting.Library.Basic
import Fieldbus.Scripting.Pattern
import Fieldbus.Scripting.Token

/-!
# Functions that are built in: texts

Places in a text count from one; negative ones count from its end.

* `Library.ofTexts`: the functions on texts.
* `Library.ofCharacters`: the functions on texts that encode characters.
-/

namespace Fieldbus.Scripting.Library

/-! ## Places -/

/-- Where a part of a text of a given length starts. -/
def startOf (i : Int) (length : Nat) : Nat :=
  if 0 < i then i.toNat else if i = 0 ∨ i < -(length : Int) then 1 else (length + i + 1).toNat

/-- Where a part of a text of a given length ends. -/
def stopOf (i : Int) (length : Nat) : Nat :=
  if (length : Int) < i then length
  else if 0 ≤ i then i.toNat
  else if i < -(length : Int) then 0
  else (length + i + 1).toNat

/-- The part of a text from one place to another. -/
def part (s : Bytes) (start stop : Nat) : Bytes := (s.drop (start - 1)).take (stop + 1 - start)

/-! ## Functions -/

/-- A part of a text. -/
def sub (vs : List Value) : Action (List Value) := do
  let s ← text "sub" vs 0
  let start := startOf (← whole "sub" vs 1) s.length
  let stop := stopOf (← wholeOr "sub" vs 2 (-1)) s.length
  return [.text (part s start stop)]

/-- The bytes of a part of a text, as numbers. -/
def byteOf (vs : List Value) : Action (List Value) := do
  let s ← text "byte" vs 0
  let i ← wholeOr "byte" vs 1 1
  let start := startOf i s.length
  let stop := stopOf (← wholeOr "byte" vs 2 start) s.length
  return (part s start stop).map fun b => .ofNat b.toNat

/-- The text of some bytes, given as numbers. -/
def charOf (vs : List Value) : Action (List Value) := do
  let bs ← (List.range vs.length).mapM fun i => do
    let n ← whole "char" vs i
    if 0 ≤ n ∧ n < 256 then pure (UInt8.ofNat n.toNat)
    else throw (badArgument "char" i "value out of range")
  return [.text bs]

/-- The greatest length of a text that is made by repetition. -/
def maxRepeated : Nat := Nat.pow 2 27

/-- A text repeated, with a separator. -/
def repeated (vs : List Value) : Action (List Value) := do
  let s ← text "rep" vs 0
  let n := (← whole "rep" vs 1).toNat
  let separator ← if (arg vs 2).isNil then pure [] else text "rep" vs 2
  if maxRepeated < n * (s.length + separator.length) then throw "resulting string too large"
  return [.text (List.intercalate separator (List.replicate n s))]

/-- A letter in upper case. -/
def upperByte (b : UInt8) : UInt8 := if 97 ≤ b ∧ b ≤ 122 then b - 32 else b

/-- A letter in lower case. -/
def lowerByte (b : UInt8) : UInt8 := if 65 ≤ b ∧ b ≤ 90 then b + 32 else b

/-- What was captured, as a value. -/
def ofCaptured : Pattern.Captured → Value
  | .bytes bs => .text bs
  | .place n => .ofNat n

/-- What a search gives, which may complain about the pattern. -/
def searched {α : Type} (r : Except String α) : Action α := ExceptT.mk (pure r)

/-- The characters that have a meaning in patterns. -/
def specials : Bytes := utf8 "^$*+?.([%-"

/-- Where a text occurs in another one as it is, from a place on, of which there are at most `n`. -/
def occurrence? (s p : Bytes) (i : Nat) : Option Nat :=
  if p.isPrefixOf s then some i
  else
    match s with
    | [] => none
    | _ :: r => occurrence? r p (i + 1)

/-- Finds a pattern: the places of the match and what was captured, or only that. -/
def find (places : Bool) (vs : List Value) : Action (List Value) := do
  let f := if places then "find" else "match"
  let s ← text f vs 0
  let p ← text f vs 1
  let start := startOf (← wholeOr f vs 2 1) s.length - 1
  if s.length < start then return [.nil]
  if places && ((arg vs 3).isTrue || !p.any specials.contains) then
    match occurrence? (s.drop start) p start with
    | some i => return [.ofNat (i + 1), .ofNat (i + p.length)]
    | none => return [.nil]
  let subject := s.toArray
  match ← searched (Pattern.search subject p.toArray start) with
  | none => return [.nil]
  | some hit =>
    if places then
      let captures ← searched (hit.captures.toList.mapM (Pattern.capturedOne subject))
      return .ofNat (hit.start + 1) :: .ofNat hit.stop :: captures.map ofCaptured
    return (← searched (Pattern.captured subject hit)).map ofCaptured

/-- Adds a table of values, with their number. -/
def addList (vs : List Value) : Action Value := do
  let t : Table := { items := vs.toArray, others := [(.ofString "n", .ofNat vs.length)] }
  modifyGet fun h => h.addTable t

/-- The matches of a pattern, each as a table: the text in front of it, the match, and what was
captured. Gives a table of these, and the text behind the last one. -/
def pieces (subject : Pattern.Text) : Nat → List Pattern.Hit → Action (List Value × Bytes)
  | i, [] => return ([], (subject.extract i subject.size).toList)
  | i, hit :: hits => do
    let captures ← searched (Pattern.captured subject hit)
    let v ← addList (.text (subject.extract i hit.start).toList ::
      .text (Pattern.whole subject hit) :: captures.map ofCaptured)
    let (vs, rest) ← pieces subject hit.stop hits
    return (v :: vs, rest)

/-- Takes a text apart at the matches of a pattern, at most so many. -/
def taken (vs : List Value) : Action (List Value) := do
  let s ← text "gsub" vs 0
  let p ← text "gsub" vs 1
  let most := (← wholeOr "gsub" vs 2 (s.length + 1)).toNat
  let subject := s.toArray
  let (ps, rest) ← pieces subject 0 (← searched (Pattern.searchAll subject p.toArray most))
  return [← addList ps, .text rest]

/-- The matches of a pattern from a place on. -/
def eachMatch (vs : List Value) : Action (List Value) := do
  let s ← text "gmatch" vs 0
  let p ← text "gmatch" vs 1
  let start := startOf (← wholeOr "gmatch" vs 2 1) s.length - 1
  let subject := s.toArray
  let (ps, _) ← pieces subject 0 (← searched (Pattern.searchEach subject p.toArray start))
  return [← addList ps]

/-- A replacement: a percent sign with a digit stands for the match or what was captured, whose
values are given. -/
def expanded (captures : List Value) : Bytes → Except String Bytes
  | [] => .ok []
  | 37 :: 37 :: r => (expanded captures r).map fun bs => 37 :: bs
  | 37 :: d :: r =>
    if 48 ≤ d ∧ d ≤ 57 then
      match captures[(d - 48).toNat]? with
      | none => .error ("invalid capture index %" ++ toString (d - 48).toNat ++
          " in replacement string")
      | some v => (expanded captures r).map fun bs => v.text?.getD [] ++ bs
    else .error "invalid use of '%' in replacement string"
  | [37] => .error "invalid use of '%' in replacement string"
  | b :: r => (expanded captures r).map fun bs => b :: bs

/-- A replacement for one of the matches of `taken`. -/
def replacement (vs : List Value) : Action (List Value) := do
  let r ← text "gsub" vs 0
  let t ← table "gsub" vs 1
  let items := ((← get).table t).items.toList.drop 1
  return [.text (← searched (expanded items r))]

/-- Lays out values, each of which comes with its text. -/
def format (vs : List Value) : Action (List Value) := do
  let cs := (← text "format" vs 0).map fun b => Char.ofNat b.toNat
  return [.text (← searched (formatted cs.length cs vs.tail))]

/-- The functions on texts. -/
def ofTexts : List Entry :=
  [("string.len", fun vs => return [.ofNat (← text "len" vs 0).length]), ("string.sub", sub),
    ("string.byte", byteOf), ("string.char", charOf), ("string.rep", repeated),
    ("string.upper", fun vs => return [.text ((← text "upper" vs 0).map upperByte)]),
    ("string.lower", fun vs => return [.text ((← text "lower" vs 0).map lowerByte)]),
    ("string.reverse", fun vs => return [.text (← text "reverse" vs 0).reverse]),
    ("string.find", find true), ("string.match", find false), ("hidden.taken", taken),
    ("hidden.matches", eachMatch), ("hidden.replacement", replacement), ("hidden.format", format)]

/-! ## Characters -/

/-- The character that starts a text, with the number of its bytes; `strict` leaves out surrogates
and what lies above the last code point. -/
def characterOf? (strict : Bool) (s : Bytes) : Option (Nat × Nat) :=
  match s with
  | [] => none
  | b :: r =>
    let lead (n start least : Nat) : Option (Nat × Nat) :=
      let more := r.take n
      let v := more.foldl (fun v c => v * 64 + (c.toNat - 0x80)) (b.toNat - start)
      if more.length = n ∧ more.all (fun c => 0x80 ≤ c && c < 0xC0) ∧ least ≤ v ∧
          (!strict ∨ (v ≤ 0x10FFFF ∧ !(0xD800 ≤ v ∧ v ≤ 0xDFFF))) then some (v, n + 1)
      else none
    if b < 0x80 then some (b.toNat, 1)
    else if b < 0xC0 then none
    else if b < 0xE0 then lead 1 0xC0 0x80
    else if b < 0xF0 then lead 2 0xE0 0x800
    else if b < 0xF8 then lead 3 0xF0 0x10000
    else if b < 0xFC then lead 4 0xF8 0x200000
    else if b < 0xFE then lead 5 0xFC 0x4000000
    else none

/-- The characters that start in the next `left` bytes of a text; nothing if it is malformed. The
first argument bounds their number; the place where it is malformed is given, too. -/
def characters (strict : Bool) : Nat → Nat → Nat → Bytes → Except Nat (List Nat)
  | 0, _, _, _ => .ok []
  | n + 1, i, left, s =>
    if left = 0 then .ok []
    else
      match characterOf? strict s with
      | none => .error i
      | some (v, size) =>
        (characters strict n (i + size) (left - size) (s.drop size)).map fun vs => v :: vs

/-- The encoding of some code points. -/
def encodeAll (vs : List Value) : Action (List Value) := do
  let parts ← (List.range vs.length).mapM fun i => do
    let n ← whole "char" vs i
    if 0 ≤ n ∧ n < Lexeme.codeBound then pure (Lexeme.encoded n.toNat)
    else throw (badArgument "char" i "value out of range")
  return [.text parts.flatten]

/-- The number of characters in a part of a text, or where it is malformed. -/
def countCharacters (vs : List Value) : Action (List Value) := do
  let s ← text "len" vs 0
  let start := startOf (← wholeOr "len" vs 1 1) s.length
  let stop := stopOf (← wholeOr "len" vs 2 (-1)) s.length
  match characters (!(arg vs 3).isTrue) s.length start (stop + 1 - start) (s.drop (start - 1)) with
  | .ok cs => return [.ofNat cs.length]
  | .error i => return [.nil, .ofNat i]

/-- The code points in a part of a text. -/
def codePoints (vs : List Value) : Action (List Value) := do
  let s ← text "codepoint" vs 0
  let i ← wholeOr "codepoint" vs 1 1
  let start := startOf i s.length
  let last ← wholeOr "codepoint" vs 2 start
  if s.length < last then throw (badArgument "codepoint" 2 "out of bounds")
  let stop := stopOf last s.length
  match characters (!(arg vs 3).isTrue) s.length start (stop + 1 - start) (s.drop (start - 1)) with
  | .ok cs => return cs.map Value.ofNat
  | .error _ => throw "invalid UTF-8 code"

/-- The functions on texts that encode characters. -/
def ofCharacters : List Entry :=
  [("utf8.char", encodeAll), ("utf8.len", countCharacters), ("utf8.codepoint", codePoints)]

end Fieldbus.Scripting.Library
