import Fieldbus.Json.Printer
import Fieldbus.Json.Token
import Mathlib.Algebra.Group.Int.Defs

/-!
# Tokens of a written document

A value that is written in indented form has certain tokens, and the lexer finds exactly these,
whatever texts the value holds.

* `Json.Plain`: no floating point numbers, whole numbers of 64 bits, and a bounded depth.
* `Json.tokens`: the tokens of a value.
* `Token.Spells`, `Token.Closes`: what the lexer makes of some characters.
* `Token.closes_quote`: a text is read back, whatever it holds.
* `Number.read?_toString`: a whole number is read back.
* **`Token.ofChars?_prettyAt`**: the tokens of a written value are its tokens.
-/

namespace Fieldbus.Json

/-! ## Values -/

mutual

/-- A value that is read back as it was written, where arrays and objects may still be opened to
some depth: it holds no floating point number, and its whole numbers fit into 64 bits. -/
def Plain (room : Nat) : Json → Prop
  | null | bool _ | str _ => True
  | float _ => False
  | int n => -2 ^ 63 ≤ n ∧ n < 2 ^ 64
  | arr items => 0 < room ∧ PlainItems (room - 1) items
  | obj members => 0 < room ∧ PlainMembers (room - 1) members

/-- Every item is plain. -/
def PlainItems (room : Nat) : List Json → Prop
  | [] => True
  | v :: vs => Plain room v ∧ PlainItems room vs

/-- The value of every member is plain. -/
def PlainMembers (room : Nat) : List (String × Json) → Prop
  | [] => True
  | (_, v) :: ms => Plain room v ∧ PlainMembers room ms

end

mutual

/-- The tokens of a value. -/
def tokens : Json → List Token
  | arr [] => [.openArray, .closeArray]
  | arr (v :: vs) => .openArray :: (tokens v ++ (itemTokens vs ++ [.closeArray]))
  | obj [] => [.openObject, .closeObject]
  | obj ((name, v) :: ms) =>
    .openObject :: .scalar (.str name) :: .colon ::
      (tokens v ++ (memberTokens ms ++ [.closeObject]))
  | v => [.scalar v]

/-- The tokens of the items of an array after the first. -/
def itemTokens : List Json → List Token
  | [] => []
  | v :: vs => .comma :: (tokens v ++ itemTokens vs)

/-- The tokens of the members of an object after the first. -/
def memberTokens : List (String × Json) → List Token
  | [] => []
  | (name, v) :: ms =>
    .comma :: .scalar (.str name) :: .colon :: (tokens v ++ memberTokens ms)

end

/-! ## Whole numbers -/

namespace Number

theorem spelled_toDigits (n : Nat) : spelled (Nat.toDigits 10 n) = n := by
  have h := Nat.ofDigitChars_toDigits (b := 10) (n := n) (by decide) (by decide)
  unfold Nat.ofDigitChars at h
  unfold spelled
  simp only [Nat.mul_comm _ 10]
  exact h

theorem isDigit_toDigits (n : Nat) : ∀ c ∈ Nat.toDigits 10 n, c.isDigit = true :=
  fun _ hc => Nat.isDigit_of_mem_toDigits (by decide) (by decide) hc

/-- A number other than zero does not begin with a zero. -/
theorem toDigits_eq_cons (n : Nat) (hn : 0 < n) :
    ∃ c cs, Nat.toDigits 10 n = c :: cs ∧ c ≠ '0' := by
  have small : ∀ d < 10, 0 < d → Nat.digitChar d ≠ '0' := by decide
  -- a number of several digits begins as its tenth part does
  induction n using Nat.strongRecOn with
  | ind n ih =>
    rw [Nat.toDigits_eq_if (by decide)]
    split
    · next h => exact ⟨_, [], rfl, small n h hn⟩
    · next h =>
      obtain ⟨c, cs, hcs, hc⟩ := ih (n / 10) (by omega) (by omega)
      exact ⟨c, cs ++ [(n % 10).digitChar], by rw [hcs, List.cons_append], hc⟩

theorem wholeOk_toDigits (n : Nat) : wholeOk (Nat.toDigits 10 n) = true := by
  rcases Nat.eq_zero_or_pos n with rfl | hn
  · rfl
  · obtain ⟨c, cs, hcs, hc⟩ := toDigits_eq_cons n hn
    rw [hcs]
    unfold wholeOk
    split
    · next h => exact absurd h (by simp)
    · rfl
    · next h => simpa [← (List.cons.inj h).1] using hc

theorem whole_toDigits (n : Nat) :
    (Nat.toDigits 10 n).takeWhile Char.isDigit = Nat.toDigits 10 n ∧
      (Nat.toDigits 10 n).dropWhile Char.isDigit = [] := by
  have whole := List.takeWhile_append_dropWhile (p := Char.isDigit) (l := Nat.toDigits 10 n)
  have rest : (Nat.toDigits 10 n ++ []).dropWhile Char.isDigit = [].dropWhile Char.isDigit :=
    List.dropWhile_append_of_pos (isDigit_toDigits n)
  rw [List.append_nil, List.dropWhile_nil] at rest
  rw [rest, List.append_nil] at whole
  exact ⟨whole, rest⟩

theorem parts?_toDigits (n : Nat) :
    parts? (Nat.toDigits 10 n) = some ⟨false, Nat.toDigits 10 n, none, none⟩ := by
  obtain ⟨hw, hr⟩ := whole_toDigits n
  -- no digit is a minus sign
  have sign : ∀ r, Nat.toDigits 10 n ≠ '-' :: r := by
    intro r h
    have := isDigit_toDigits n '-' (by rw [h]; exact List.mem_cons_self)
    exact absurd this (by decide)
  unfold parts?
  split
  next negative cs heq =>
  split at heq
  · next r h => exact absurd h (sign r)
  · obtain ⟨rfl, rfl⟩ := Prod.mk.inj heq
    simp only [hw, hr, wholeOk_toDigits, Bool.not_true]
    rfl

theorem parts?_neg_toDigits (n : Nat) :
    parts? ('-' :: Nat.toDigits 10 n) = some ⟨true, Nat.toDigits 10 n, none, none⟩ := by
  obtain ⟨hw, hr⟩ := whole_toDigits n
  simp only [parts?, hw, hr, wholeOk_toDigits, Bool.not_true]
  rfl

theorem toList_toString_ofNat (n : Nat) :
    (toString (Int.ofNat n)).toList = Nat.toDigits 10 n :=
  Nat.toList_repr

theorem toList_toString_negSucc (n : Nat) :
    (toString (Int.negSucc n)).toList = '-' :: Nat.toDigits 10 (n + 1) := by
  show ("-" ++ (n + 1).repr).toList = _
  rw [String.toList_append, Nat.toList_repr]
  rfl

/-- A whole number of 64 bits is read back. -/
theorem read?_toString {n : Int} (low : -2 ^ 63 ≤ n) (high : n < 2 ^ 64) :
    read? (toString n).toList = some (.int n) := by
  cases n with
  | ofNat n =>
    have fits : n < Nat.pow 2 64 := by
      have : (Int.ofNat n) = (n : Int) := rfl
      rw [Nat.pow_eq]
      omega
    rw [toList_toString_ofNat, read?, parts?_toDigits, Option.bind_some]
    simp only [value?, spelled_toDigits]
    rw [if_pos (by exact ⟨rfl, rfl, fits⟩)]
    rfl
  | negSucc n =>
    have fits : n + 1 ≠ 0 ∧ n + 1 ≤ Nat.pow 2 63 := by
      rw [Nat.pow_eq]
      omega
    rw [toList_toString_negSucc, read?, parts?_neg_toDigits, Option.bind_some]
    simp only [value?, spelled_toDigits]
    rw [if_pos (by exact ⟨rfl, rfl, fits⟩)]
    rfl

end Number

/-! ## The lexer -/

namespace Token

/-- Characters that end a number or a word. -/
def Ends (c : Char) : Prop := continuesNumber c = false ∧ c.isLower = false

instance (c : Char) : Decidable (Ends c) := by
  unfold Ends
  infer_instance

/-- The lexer has these tokens, latest first, as soon as the one that it is inside of ends. -/
structure Lexer.Settles (l : Lexer) (done : List Token) : Prop where
  /-- It may end here. -/
  finish : finish l = some done
  /-- It ends before a character that ends a number or a word. -/
  step : ∀ c, Ends c → step l c = beginToken done c

/-- Some characters are these tokens, the last of which may still go on. -/
def Spells (cs : List Char) (ts : List Token) : Prop :=
  ∀ done, ∃ l, cs.foldlM step ⟨done, .between⟩ = some l ∧ l.Settles (ts.reverse ++ done)

/-- Some characters are these tokens, the last of which is over. -/
def Closes (cs : List Char) (ts : List Token) : Prop :=
  ∀ done, cs.foldlM step ⟨done, .between⟩ = some ⟨ts.reverse ++ done, .between⟩

/-- Some characters are these tokens, and a token before them ends with the first. -/
def Trails (cs : List Char) (ts : List Token) : Prop :=
  Closes cs ts ∧ ∃ c r, cs = c :: r ∧ Ends c

section

variable {cs ds : List Char} {ts us : List Token}

theorem settles_between (done : List Token) : (⟨done, .between⟩ : Lexer).Settles done :=
  ⟨rfl, fun _ _ => rfl⟩

theorem Closes.spells (h : Closes cs ts) : Spells cs ts :=
  fun done => ⟨_, h done, settles_between _⟩

theorem Closes.append (h : Closes cs ts) (h' : Closes ds us) : Closes (cs ++ ds) (ts ++ us) := by
  intro done
  rw [List.foldlM_append, h done]
  simpa using h' (ts.reverse ++ done)

theorem Spells.append (h : Spells cs ts) (h' : Trails ds us) : Closes (cs ++ ds) (ts ++ us) := by
  intro done
  obtain ⟨l, hl, settles⟩ := h done
  obtain ⟨closes, c, r, rfl, ends⟩ := h'
  -- the first of the characters that follow ends the last token
  have := closes (ts.reverse ++ done)
  rw [List.foldlM_append, hl, List.reverse_append, List.append_assoc, ← this]
  show (step l c).bind _ = (beginToken (ts.reverse ++ done) c).bind _
  rw [settles.step c ends]

theorem closes_singleton {c : Char}
    (h : ∀ done, beginToken done c = some ⟨ts.reverse ++ done, .between⟩) :
    Closes [c] ts := fun done => by
  show (beginToken done c).bind _ = _
  rw [h done]
  rfl

end

/-! ### Texts -/

theorem hexValue?_lowerDigit : ∀ d < 16, hexValue? (Hex.lowerDigit d) = some d := by decide

theorem foldlM_number16 (done : List Token) (chars : List Char) {c : Char} (h : c.toNat < 0x20) :
    (['\\', 'u', '0', '0'] ++ Hex.lower (UInt8.ofNat c.toNat)).foldlM step
        ⟨done, .text ⟨chars, none⟩⟩ = some ⟨done, .text ⟨c :: chars, none⟩⟩ := by
  have hb : (UInt8.ofNat c.toNat).toNat = c.toNat := by
    rw [UInt8.toNat_ofNat']
    omega
  have high := hexValue?_lowerDigit (c.toNat / 16) (by omega)
  have low := hexValue?_lowerDigit (c.toNat % 16) (by omega)
  have start : ['\\', 'u', '0', '0'].foldlM step ⟨done, .text ⟨chars, none⟩⟩ =
      some ⟨done, .number16 ⟨chars, none⟩ 2 0⟩ := rfl
  have value : c.toNat / 16 * 16 + c.toNat % 16 = c.toNat := by omega
  have unit : (⟨chars, none⟩ : Partial).pushUnit c.toNat = some (.text ⟨c :: chars, none⟩) := by
    unfold Partial.pushUnit
    rw [if_neg (by omega), if_neg (by omega), Char.ofNat_toNat]
  rw [List.foldlM_append, start, Hex.lower, hb]
  simp [step, high, low, value, unit]

theorem foldlM_quoteChar (done : List Token) (chars : List Char) (c : Char) :
    (quoteChar c).foldlM step ⟨done, .text ⟨chars, none⟩⟩ =
      some ⟨done, .text ⟨c :: chars, none⟩⟩ := by
  unfold quoteChar
  -- a quote, a backslash and five control characters have escapes of their own
  iterate 7
    split
    · next h => subst h; rfl
  split
  · next h => exact foldlM_number16 done chars h
  · next h1 h2 _ _ _ _ _ h =>
    simp [step, h1, h2, h, Partial.push]

theorem foldlM_quoteChars (done : List Token) (chars cs : List Char) :
    (cs.flatMap quoteChar).foldlM step ⟨done, .text ⟨chars, none⟩⟩ =
      some ⟨done, .text ⟨cs.reverse ++ chars, none⟩⟩ := by
  induction cs generalizing chars with
  | nil => rfl
  | cons c cs ih =>
    rw [List.flatMap_cons, List.foldlM_append, foldlM_quoteChar]
    show (cs.flatMap quoteChar).foldlM step _ = _
    rw [ih, List.reverse_cons, List.append_assoc, List.singleton_append]

/-- A text is read back, whatever it holds. -/
theorem closes_quote (s : String) : Closes (quote s) [.scalar (.str s)] := by
  intro done
  have start : step ⟨done, .between⟩ '"' = some ⟨done, .text ⟨[], none⟩⟩ := rfl
  have closing : step ⟨done, .text ⟨s.toList.reverse, none⟩⟩ '"' =
      some ⟨.scalar (.str (String.ofList s.toList.reverse.reverse)) :: done, .between⟩ := rfl
  rw [quote, List.cons_append, List.foldlM_cons, start]
  show (s.toList.flatMap quoteChar ++ ['"']).foldlM step _ = _
  rw [List.foldlM_append, foldlM_quoteChars, List.append_nil]
  show (step ⟨done, .text ⟨s.toList.reverse, none⟩⟩ '"').bind _ = _
  rw [closing, List.reverse_reverse, String.ofList_toList]
  rfl

/-! ### Numbers and words -/

/-- What is inside of a number goes on with its characters. -/
theorem foldlM_number (done : List Token) (seen : List Char) {cs : List Char}
    (h : ∀ c ∈ cs, continuesNumber c = true) :
    cs.foldlM step ⟨done, .number seen⟩ = some ⟨done, .number (cs.reverse ++ seen)⟩ := by
  induction cs generalizing seen with
  | nil => rfl
  | cons c cs ih =>
    have hc : step ⟨done, .number seen⟩ c = some ⟨done, .number (c :: seen)⟩ := by
      simp [step, h c List.mem_cons_self]
    rw [List.foldlM_cons, hc]
    show cs.foldlM step _ = _
    rw [ih _ fun d hd => h d (List.mem_cons_of_mem c hd), List.reverse_cons, List.append_assoc,
      List.singleton_append]

theorem beginToken_digit (done : List Token) {c : Char} (h : c.isDigit = true) :
    beginToken done c = some ⟨done, .number [c]⟩ := by
  have other : ∀ d, d.isDigit = false → c ≠ d := by
    rintro d hd rfl
    exact absurd (hd.symm.trans h) (by simp)
  simp [beginToken, isSpace, h, other ' ' rfl, other '\t' rfl, other '\n' rfl, other '\r' rfl,
    other '{' rfl, other '}' rfl, other '[' rfl, other ']' rfl, other ':' rfl, other ',' rfl,
    other '"' rfl]

theorem continuesNumber_digit {c : Char} (h : c.isDigit = true) : continuesNumber c = true := by
  simp [continuesNumber, h]

/-- Inside of a number, what was read is settled if it is a number. -/
theorem settles_number {done : List Token} {cs : List Char} {v : Json}
    (h : Number.read? cs.reverse = some v) :
    (⟨done, .number cs⟩ : Lexer).Settles (.scalar v :: done) := by
  have fin : finish ⟨done, .number cs⟩ = some (.scalar v :: done) := by
    simp [finish, h]
  exact ⟨fin, fun c hc => by simp [step, hc.1, fin]⟩

theorem spells_int {n : Int} (low : -2 ^ 63 ≤ n) (high : n < 2 ^ 64) :
    Spells (toString n).toList [.scalar (.int n)] := by
  intro done
  -- the first character begins a number, and the others go on with it
  have ⟨c, cs, hcs, first, rest⟩ : ∃ c cs, (toString n).toList = c :: cs ∧
      beginToken done c = some ⟨done, .number [c]⟩ ∧ ∀ d ∈ cs, continuesNumber d = true := by
    cases n with
    | ofNat n =>
      rw [Number.toList_toString_ofNat]
      cases hd : Nat.toDigits 10 n with
      | nil => exact absurd hd Nat.toDigits_ne_nil
      | cons c cs =>
        have digits := Number.isDigit_toDigits n
        rw [hd] at digits
        exact ⟨c, cs, rfl, beginToken_digit done (digits c List.mem_cons_self), fun d hd =>
          continuesNumber_digit (digits d (List.mem_cons_of_mem c hd))⟩
    | negSucc n =>
      exact ⟨'-', _, Number.toList_toString_negSucc n, rfl, fun d hd =>
        continuesNumber_digit (Number.isDigit_toDigits _ d hd)⟩
  have read := Number.read?_toString low high
  refine ⟨⟨done, .number (cs.reverse ++ [c])⟩, ?_, settles_number ?_⟩
  · rw [hcs, List.foldlM_cons]
    show (beginToken done c).bind _ = _
    rw [first]
    exact foldlM_number done [c] rest
  · rw [List.reverse_append, List.reverse_reverse]
    rwa [hcs] at read

theorem settles_word {done : List Token} {cs : List Char} {v : Json}
    (h : word? cs.reverse = some v) : (⟨done, .word cs⟩ : Lexer).Settles (.scalar v :: done) := by
  have fin : finish ⟨done, .word cs⟩ = some (.scalar v :: done) := by
    simp [finish, h]
  exact ⟨fin, fun c hc => by simp [step, hc.2, fin]⟩

/-! ### Arrays and objects -/

theorem closes_newline (level : Nat) : Closes (newline level) [] := by
  intro done
  unfold newline
  rw [List.foldlM_cons]
  show (List.replicate (2 * level) ' ').foldlM step ⟨done, .between⟩ = _
  generalize 2 * level = n
  induction n with
  | zero => rfl
  | succ n ih =>
    rw [List.replicate_succ, List.foldlM_cons]
    exact ih

theorem closes_openArray : Closes ['['] [.openArray] := closes_singleton fun _ => rfl

theorem closes_closeArray : Closes [']'] [.closeArray] := closes_singleton fun _ => rfl

theorem closes_openObject : Closes ['{'] [.openObject] := closes_singleton fun _ => rfl

theorem closes_closeObject : Closes ['}'] [.closeObject] := closes_singleton fun _ => rfl

theorem closes_comma : Closes [','] [.comma] := closes_singleton fun _ => rfl

theorem closes_colon : Closes [':', ' '] [.colon] := fun _ => rfl

theorem trails_newline {cs : List Char} {ts : List Token} (level : Nat) (h : Closes cs ts) :
    Trails (newline level ++ cs) ts :=
  ⟨(closes_newline level).append h, '\n', _, rfl, by decide⟩

theorem trails_comma {cs : List Char} {ts : List Token} (level : Nat) (h : Closes cs ts) :
    Trails (',' :: newline level ++ cs) (.comma :: ts) :=
  ⟨(closes_comma.append (closes_newline level)).append h, ',', _, rfl, by decide⟩

theorem closes_name (name : String) :
    Closes (quote name ++ [':', ' ']) [.scalar (.str name), .colon] :=
  (closes_quote name).append closes_colon

mutual

theorem spells_prettyAt (room level : Nat) :
    (v : Json) → Plain room v → Spells (prettyAt level v) (tokens v)
  | null, _ => fun done => ⟨⟨done, .word ['l', 'l', 'u', 'n']⟩, rfl, settles_word rfl⟩
  | bool true, _ => fun done => ⟨⟨done, .word ['e', 'u', 'r', 't']⟩, rfl, settles_word rfl⟩
  | bool false, _ => fun done => ⟨⟨done, .word ['e', 's', 'l', 'a', 'f']⟩, rfl, settles_word rfl⟩
  | int n, h => by
    rw [Plain] at h
    exact spells_int h.1 h.2
  | float x, h => by
    rw [Plain] at h
    exact h.elim
  | str s, _ => (closes_quote s).spells
  | arr [], _ => Closes.spells fun _ => rfl
  | arr (v :: vs), h => by
    rw [Plain, PlainItems] at h
    have last := trails_prettyItems (room - 1) (level + 1) vs h.2.2
      (trails_newline level closes_closeArray)
    have first := (spells_prettyAt (room - 1) (level + 1) v h.2.1).append last
    have start := closes_openArray.append (closes_newline (level + 1))
    simpa only [prettyAt, tokens, List.append_assoc, List.cons_append, List.nil_append] using
      (start.append first).spells
  | obj [], _ => Closes.spells fun _ => rfl
  | obj ((name, v) :: ms), h => by
    rw [Plain, PlainMembers] at h
    have last := trails_prettyMembers (room - 1) (level + 1) ms h.2.2
      (trails_newline level closes_closeObject)
    have first := (spells_prettyAt (room - 1) (level + 1) v h.2.1).append last
    have start := closes_openObject.append (closes_newline (level + 1))
    simpa only [prettyAt, tokens, List.append_assoc, List.cons_append, List.nil_append] using
      (start.append ((closes_name name).append first)).spells

theorem trails_prettyItems (room level : Nat) :
    (vs : List Json) → PlainItems room vs → {cs : List Char} → {ts : List Token} → Trails cs ts →
      Trails (prettyItems level vs ++ cs) (itemTokens vs ++ ts)
  | [], _, _, _, tail => tail
  | v :: vs, h, _, _, tail => by
    rw [PlainItems] at h
    have item := (spells_prettyAt room level v h.1).append
      (trails_prettyItems room level vs h.2 tail)
    simpa only [prettyItems, itemTokens, List.append_assoc, List.cons_append] using
      trails_comma level item

theorem trails_prettyMembers (room level : Nat) :
    (ms : List (String × Json)) → PlainMembers room ms → {cs : List Char} → {ts : List Token} →
      Trails cs ts → Trails (prettyMembers level ms ++ cs) (memberTokens ms ++ ts)
  | [], _, _, _, tail => tail
  | (name, v) :: ms, h, _, _, tail => by
    rw [PlainMembers] at h
    have member := (closes_name name).append ((spells_prettyAt room level v h.1).append
      (trails_prettyMembers room level ms h.2 tail))
    simpa only [prettyMembers, memberTokens, List.append_assoc, List.cons_append,
      List.nil_append] using trails_comma level member

end

/-- **The tokens of a written value are its tokens.** A line break may follow. -/
theorem ofChars?_prettyAt {room : Nat} {v : Json} (h : Plain room v) :
    ofChars? (prettyAt 0 v) = some (tokens v) ∧
      ofChars? (prettyAt 0 v ++ ['\n']) = some (tokens v) := by
  obtain ⟨l, hl, settles⟩ := spells_prettyAt room 0 v h []
  rw [List.append_nil] at settles
  constructor
  · rw [ofChars?, hl, Option.bind_some, settles.finish, Option.map_some, List.reverse_reverse]
  · have ended := settles.step '\n' (by decide)
    have breaks : beginToken (tokens v).reverse '\n' = some ⟨(tokens v).reverse, .between⟩ := rfl
    rw [ofChars?, List.foldlM_append, hl]
    show (((step l '\n').bind _).bind finish).map _ = _
    rw [ended, breaks]
    show some (tokens v).reverse.reverse = _
    rw [List.reverse_reverse]

end Token

end Fieldbus.Json
