import Fieldbus.Bytes

/-!
# Patterns

Patterns describe texts by items, one after the other: a class of bytes, which may be repeated; a
balanced pair of delimiters; a frontier between classes; what was captured before; and the ends of
captures. Every item moves on in the pattern, so that its length bounds the depth of the search.

* `Pattern.matchFrom`: a match that starts at a place.
* `Pattern.search`: the first match from a place on.
* `Pattern.searchAll`: the matches one after the other.
* `Pattern.captured`: what was captured.
-/

namespace Fieldbus.Scripting.Pattern

/-- Bytes by their places. -/
abbrev Text := Array UInt8

/-- The byte at a place, or zero behind the end. -/
def byteAt (s : Text) (i : Nat) : UInt8 := (s[i]?).getD 0

/-- The byte of a character. -/
def byte (c : Char) : UInt8 := UInt8.ofNat c.toNat

/-- How far a capture goes. -/
inductive Extent where
  | unfinished
  | place
  | size (n : Nat)
  deriving DecidableEq, Repr

/-- A capture: where it starts and how far it goes. -/
structure Capture where
  start : Nat
  extent : Extent
  deriving Repr

/-- What a search gives: nothing, or the end of the match with the captures; or what is wrong with
the pattern. -/
abbrev Found := Except String (Option (Nat × Array Capture))

/-! ## Classes of bytes -/

/-- Whether a byte is punctuation. -/
def isPunctuation (c : Char) : Bool :=
  33 ≤ c.toNat && c.toNat ≤ 126 && !c.isAlphanum

/-- Whether a byte belongs to the class that a letter in lower case stands for, if it stands for
one. -/
def classOf? (c : Char) (name : Char) : Option Bool :=
  let n := c.toNat
  match name with
  | 'a' => some c.isAlpha
  | 'c' => some (n < 32 || n == 127)
  | 'd' => some c.isDigit
  | 'g' => some (33 ≤ n && n ≤ 126)
  | 'l' => some c.isLower
  | 'p' => some (isPunctuation c)
  | 's' => some (n == 32 || (9 ≤ n && n ≤ 13))
  | 'u' => some c.isUpper
  | 'w' => some c.isAlphanum
  | 'x' => some (c.isDigit || (97 ≤ n && n ≤ 102) || (65 ≤ n && n ≤ 70))
  | _ => none

/-- Whether a byte belongs to the class of a letter; in upper case that is the opposite class. Other
characters stand for themselves. -/
def inClass (b name : UInt8) : Bool :=
  let letter := Char.ofNat name.toNat
  match classOf? (Char.ofNat b.toNat) letter.toLower with
  | some r => if letter.isUpper then !r else r
  | none => b == name

/-- Whether a byte is in a set, whose elements stand from `i` to `last`; the first argument bounds
their number. -/
def inSet (p : Text) (b : UInt8) (last : Nat) : Nat → Nat → Bool
  | 0, _ => false
  | n + 1, i =>
    if last ≤ i then false
    else if byteAt p i = byte '%' then inClass b (byteAt p (i + 1)) || inSet p b last n (i + 2)
    else if byteAt p (i + 1) = byte '-' ∧ i + 2 < last then
      (byteAt p i ≤ b && b ≤ byteAt p (i + 2)) || inSet p b last n (i + 3)
    else byteAt p i == b || inSet p b last n (i + 1)

/-- Whether a byte is in the set that starts at `i`, with a bracket, and whose end is at `last`. -/
def inBrackets (p : Text) (b : UInt8) (i last : Nat) : Bool :=
  if byteAt p (i + 1) = byte '^' then !inSet p b last p.size (i + 2)
  else inSet p b last p.size (i + 1)

/-- Where a set ends, behind its bracket; `first` tells whether its first element comes next. -/
def setEnd? (p : Text) : Nat → Nat → Bool → Option Nat
  | 0, _, _ => none
  | n + 1, i, first =>
    if p.size ≤ i then none
    else if byteAt p i = byte ']' ∧ !first then some (i + 1)
    else if byteAt p i = byte '%' ∧ i + 1 < p.size then setEnd? p n (i + 2) false
    else setEnd? p n (i + 1) false

/-- Where the class that starts at a place ends. -/
def classEnd (p : Text) (i : Nat) : Except String Nat :=
  if byteAt p i = byte '%' then
    if i + 1 < p.size then .ok (i + 2) else .error "malformed pattern (ends with '%')"
  else if byteAt p i = byte '[' then
    let start := if byteAt p (i + 1) = byte '^' then i + 2 else i + 1
    match setEnd? p (p.size + 1) start true with
    | some e => .ok e
    | none => .error "malformed pattern (missing ']')"
  else .ok (i + 1)

/-- Whether the byte of `s` at `si` belongs to the class of `p` from `pi` to `ep`. -/
def single (s p : Text) (si pi ep : Nat) : Bool :=
  match s[si]? with
  | none => false
  | some b =>
    let c := byteAt p pi
    if c = byte '.' then true
    else if c = byte '%' then inClass b (byteAt p (pi + 1))
    else if c = byte '[' then inBrackets p b pi (ep - 1)
    else c == b

/-! ## Repetitions -/

/-- How many bytes from `si` on belong to a class; at most `n`. -/
def countSingle (s p : Text) (pi ep : Nat) : Nat → Nat → Nat
  | 0, _ => 0
  | n + 1, si => if single s p si pi ep then countSingle s p pi ep n (si + 1) + 1 else 0

/-- Goes on after as many repetitions as possible, but at most so many. -/
def greedy (go : Nat → Found) (si : Nat) : Nat → Found
  | 0 => go si
  | i + 1 =>
    match go (si + i + 1) with
    | .ok none => greedy go si i
    | r => r

/-- Goes on after as few repetitions as possible, but at most so many. -/
def lazily (go : Nat → Found) (more : Nat → Bool) : Nat → Nat → Found
  | 0, si => go si
  | n + 1, si =>
    match go si with
    | .ok none => if more si then lazily go more n (si + 1) else .ok none
    | r => r

/-- Where a balanced pair of delimiters ends, of which `depth` are open; at most `n` bytes are
looked at. -/
def balanced? (s : Text) (opens shuts : UInt8) : Nat → Nat → Nat → Option Nat
  | 0, _, _ => none
  | n + 1, si, depth =>
    match s[si]? with
    | none => none
    | some b =>
      if b = shuts then
        if depth = 1 then some (si + 1) else balanced? s opens shuts n (si + 1) (depth - 1)
      else balanced? s opens shuts n (si + 1) (if b = opens then depth + 1 else depth)

/-! ## Matches -/

/-- The place of the last capture whose end was not reached. -/
def unfinished? (cs : Array Capture) : Option Nat :=
  ((List.range cs.size).reverse).find? fun i => (cs[i]?.map Capture.extent) = some .unfinished

/-- The bytes of an earlier capture. -/
def earlier (s : Text) (cs : Array Capture) (i : Nat) : Except String (List UInt8) :=
  match cs[i]? with
  | some ⟨start, .size n⟩ => .ok (s.extract start (start + n)).toList
  | _ => .error "invalid capture index in pattern"

/-- The greatest number of captures. -/
def maxCaptures : Nat := 32

/-- A match of `p` from `pi` on with `s` from `si` on. The first argument bounds the number of
items. -/
def matchFrom (s p : Text) : Nat → Nat → Nat → Array Capture → Found
  | 0, _, _, _ => .error "pattern too complex"
  | n + 1, si, pi, cs =>
    if p.size ≤ pi then .ok (some (si, cs))
    else
      let c := byteAt p pi
      let d := byteAt p (pi + 1)
      if c = byte '(' then
        if maxCaptures ≤ cs.size then .error "too many captures"
        else if d = byte ')' then matchFrom s p n si (pi + 2) (cs.push ⟨si, .place⟩)
        else matchFrom s p n si (pi + 1) (cs.push ⟨si, .unfinished⟩)
      else if c = byte ')' then
        match unfinished? cs with
        | none => .error "invalid pattern capture"
        | some i =>
          matchFrom s p n si (pi + 1)
            (cs.modify i fun c => { c with extent := .size (si - c.start) })
      else if c = byte '$' ∧ pi + 1 = p.size then
        if si = s.size then .ok (some (si, cs)) else .ok none
      else if c = byte '%' ∧ d = byte 'b' then
        if p.size ≤ pi + 3 then .error "malformed pattern (missing arguments to '%b')"
        else if s[si]? = some (byteAt p (pi + 2)) then
          match balanced? s (byteAt p (pi + 2)) (byteAt p (pi + 3)) s.size (si + 1) 1 with
          | some e => matchFrom s p n e (pi + 4) cs
          | none => .ok none
        else .ok none
      else if c = byte '%' ∧ d = byte 'f' then
        if byteAt p (pi + 2) ≠ byte '[' then .error "missing '[' after '%f' in pattern"
        else
          match classEnd p (pi + 2) with
          | .error e => .error e
          | .ok ep =>
            let before := if si = 0 then 0 else byteAt s (si - 1)
            if !inBrackets p before (pi + 2) (ep - 1) &&
                inBrackets p (byteAt s si) (pi + 2) (ep - 1) then
              matchFrom s p n si ep cs
            else .ok none
      else if c = byte '%' ∧ byte '0' ≤ d ∧ d ≤ byte '9' then
        if d = byte '0' then .error "invalid capture index in pattern"
        else
          match earlier s cs (d - byte '1').toNat with
          | .error e => .error e
          | .ok bs =>
            if (s.extract si (si + bs.length)).toList = bs then
              matchFrom s p n (si + bs.length) (pi + 2) cs
            else .ok none
      else
        match classEnd p pi with
        | .error e => .error e
        | .ok ep =>
          let q := byteAt p ep
          let go (ep : Nat) (cs : Array Capture) (si : Nat) : Found := matchFrom s p n si ep cs
          if q = byte '?' then
            if single s p si pi ep then
              match go (ep + 1) cs (si + 1) with
              | .ok none => go (ep + 1) cs si
              | r => r
            else go (ep + 1) cs si
          else if q = byte '+' then
            let most := countSingle s p pi ep s.size si
            if most = 0 then .ok none else greedy (go (ep + 1) cs) (si + 1) (most - 1)
          else if q = byte '*' then
            greedy (go (ep + 1) cs) si (countSingle s p pi ep s.size si)
          else if q = byte '-' then
            lazily (go (ep + 1) cs) (fun si => single s p si pi ep) (s.size + 1) si
          else if single s p si pi ep then go ep cs (si + 1)
          else .ok none

/-! ## Searches -/

/-- A match: its start, its end and the captures. -/
structure Hit where
  start : Nat
  stop : Nat
  captures : Array Capture

/-- A match that starts at a place; the items of the pattern start at `items`. -/
def hitAt (s p : Text) (items start : Nat) : Except String (Option Hit) :=
  match matchFrom s p (p.size + 1) start items #[] with
  | .error e => .error e
  | .ok none => .ok none
  | .ok (some (stop, cs)) => .ok (some ⟨start, stop, cs⟩)

/-- The first match that starts at a place or at one of the `n` that follow it. -/
def searchFrom (s p : Text) (items : Nat) : Nat → Nat → Except String (Option Hit)
  | 0, start => hitAt s p items start
  | n + 1, start =>
    match hitAt s p items start with
    | .ok none => searchFrom s p items n (start + 1)
    | r => r

/-- The first match from a place on. A pattern that starts with a circumflex only matches there. -/
def search (s p : Text) (start : Nat) : Except String (Option Hit) :=
  if byteAt p 0 = byte '^' ∧ 0 < p.size then hitAt s p 1 start
  else searchFrom s p 0 (s.size - start) start

/-- The matches one after the other, from a place on, at most `most`; an empty one does not come
right behind another one. The first argument bounds the number of places. -/
def matchesFrom (s p : Text) (items : Nat) (anchored : Bool) :
    Nat → Nat → Option Nat → Nat → Except String (List Hit)
  | 0, _, _, _ => .ok []
  | _, _, _, 0 => .ok []
  | n + 1, si, last, most + 1 =>
    if s.size < si then .ok []
    else
      match hitAt s p items si with
      | .error e => .error e
      | .ok found =>
        match found.filter fun hit => some hit.stop ≠ last with
        | some hit =>
          if anchored then .ok [hit]
          else
            (matchesFrom s p items anchored n hit.stop (some hit.stop) most).map fun hs => hit :: hs
        | none =>
          if anchored then .ok []
          else matchesFrom s p items anchored n (si + 1) last (most + 1)

/-- The matches one after the other; a circumflex at the start of the pattern holds them at the
start. -/
def searchAll (s p : Text) (most : Nat) : Except String (List Hit) :=
  if byteAt p 0 = byte '^' ∧ 0 < p.size then matchesFrom s p 1 true (2 * s.size + 3) 0 none most
  else matchesFrom s p 0 false (2 * s.size + 3) 0 none most

/-- The matches one after the other, from a place on; a circumflex stands for itself. -/
def searchEach (s p : Text) (start : Nat) : Except String (List Hit) :=
  matchesFrom s p 0 false (2 * s.size + 3) start none (s.size + 2)

/-- What was captured: bytes, or a place. -/
inductive Captured where
  | bytes (bs : Bytes)
  | place (n : Nat)

/-- A capture. -/
def capturedOne (s : Text) (c : Capture) : Except String Captured :=
  match c.extent with
  | .unfinished => .error "unfinished capture"
  | .place => .ok (.place (c.start + 1))
  | .size n => .ok (.bytes (s.extract c.start (c.start + n)).toList)

/-- The bytes of a match. -/
def whole (s : Text) (hit : Hit) : Bytes := (s.extract hit.start hit.stop).toList

/-- What was captured; without captures that is the match. -/
def captured (s : Text) (hit : Hit) : Except String (List Captured) :=
  if hit.captures.isEmpty then .ok [.bytes (whole s hit)]
  else hit.captures.toList.mapM (capturedOne s)

end Fieldbus.Scripting.Pattern
