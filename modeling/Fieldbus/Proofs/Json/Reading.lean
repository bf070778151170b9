import Fieldbus.Json.Reader
import Fieldbus.Proofs.Json.Lexing

/-!
# Documents that are read back

The tokens of a value are read as the value, within whatever arrays and objects are open already.
With the tokens of a written value this gives the round trip.

* `Reader.foldlM_tokens`: the tokens of a value deliver it.
* **`parse?_pretty`**: a document that was written is read back.
-/

namespace Fieldbus.Json

namespace Reader

/-- A value, or the end of an array, may come next. -/
def AwaitsValue : Awaits → Prop
  | .value | .itemOrEnd => True
  | _ => False

theorem awaitsValue : AwaitsValue .value := trivial

theorem awaitsItem : AwaitsValue .itemOrEnd := trivial

theorem step_scalar {a : Awaits} (h : AwaitsValue a) (stack : List Open) (v : Json) :
    step ⟨stack, a⟩ (.scalar v) = deliver v stack := by
  cases a <;> first | rfl | exact h.elim

theorem step_openArray {a : Awaits} (h : AwaitsValue a) {stack : List Open}
    (deep : stack.length < maxDepth) :
    step ⟨stack, a⟩ .openArray = some ⟨.array [] :: stack, .itemOrEnd⟩ := by
  have enters : beginValue stack .openArray = some ⟨.array [] :: stack, .itemOrEnd⟩ :=
    if_pos deep
  cases a <;> first | exact enters | exact h.elim

theorem step_openObject {a : Awaits} (h : AwaitsValue a) {stack : List Open}
    (deep : stack.length < maxDepth) :
    step ⟨stack, a⟩ .openObject = some ⟨.object [] :: stack, .nameOrEnd⟩ := by
  have enters : beginValue stack .openObject = some ⟨.object [] :: stack, .nameOrEnd⟩ :=
    if_pos deep
  cases a <;> first | exact enters | exact h.elim

-- By recursion on the value. What is open around it may be as deep as `room` allows, which is one
-- less inside of an array or object.
mutual

/-- The tokens of a value deliver it to what is open. -/
theorem foldlM_tokens (room : Nat) : (v : Json) → Plain room v → (stack : List Open) →
    stack.length + room ≤ maxDepth → {a : Awaits} → AwaitsValue a →
      (tokens v).foldlM step ⟨stack, a⟩ = deliver v stack
  | null, _, stack, _, _, ha => by simp [tokens, step_scalar ha]
  | bool b, _, stack, _, _, ha => by simp [tokens, step_scalar ha]
  | int n, _, stack, _, _, ha => by simp [tokens, step_scalar ha]
  | float x, _, stack, _, _, ha => by simp [tokens, step_scalar ha]
  | str s, _, stack, _, _, ha => by simp [tokens, step_scalar ha]
  | arr [], h, stack, deep, _, ha => by
    rw [Plain] at h
    rw [tokens, List.foldlM_cons, step_openArray ha (by omega)]
    simp [step, close]
  | arr (v :: vs), h, stack, deep, _, ha => by
    rw [Plain, PlainItems] at h
    have inner : (Open.array [] :: stack).length + (room - 1) ≤ maxDepth := by
      rw [List.length_cons]
      omega
    rw [tokens, List.foldlM_cons, step_openArray ha (by omega)]
    show List.foldlM step ⟨.array [] :: stack, .itemOrEnd⟩ _ = _
    rw [List.foldlM_append, foldlM_tokens (room - 1) v h.2.1 _ inner awaitsItem]
    show List.foldlM step ⟨.array [v] :: stack, .separator⟩ _ = _
    rw [List.foldlM_append, foldlM_itemTokens (room - 1) vs h.2.2 [v] stack inner]
    simp [step, close]
  | obj [], h, stack, deep, _, ha => by
    rw [Plain] at h
    rw [tokens, List.foldlM_cons, step_openObject ha (by omega)]
    simp [step, close]
  | obj ((name, v) :: ms), h, stack, deep, _, ha => by
    rw [Plain, PlainMembers] at h
    have inner : (Open.named [] name :: stack).length + (room - 1) ≤ maxDepth := by
      rw [List.length_cons]
      omega
    rw [tokens, List.foldlM_cons, step_openObject ha (by omega)]
    show List.foldlM step ⟨.named [] name :: stack, .value⟩ _ = _
    rw [List.foldlM_append, foldlM_tokens (room - 1) v h.2.1 _ inner awaitsValue]
    show List.foldlM step ⟨.object [(name, v)] :: stack, .separator⟩ _ = _
    rw [List.foldlM_append, foldlM_memberTokens (room - 1) ms h.2.2 [(name, v)] stack inner]
    simp [step, close]

theorem foldlM_itemTokens (room : Nat) : (vs : List Json) → PlainItems room vs →
    (items : List Json) → (stack : List Open) → stack.length + 1 + room ≤ maxDepth →
      (itemTokens vs).foldlM step ⟨.array items :: stack, .separator⟩ =
        some ⟨.array (vs.reverse ++ items) :: stack, .separator⟩
  | [], _, _, _, _ => rfl
  | v :: vs, h, items, stack, deep => by
    rw [PlainItems] at h
    rw [itemTokens, List.foldlM_cons]
    show List.foldlM step ⟨.array items :: stack, .value⟩ _ = _
    rw [List.foldlM_append, foldlM_tokens room v h.1 (.array items :: stack) deep awaitsValue]
    show List.foldlM step ⟨.array (v :: items) :: stack, .separator⟩ _ = _
    rw [foldlM_itemTokens room vs h.2 (v :: items) stack deep, List.reverse_cons,
      List.append_assoc, List.singleton_append]

theorem foldlM_memberTokens (room : Nat) : (ms : List (String × Json)) → PlainMembers room ms →
    (members : List (String × Json)) → (stack : List Open) →
      stack.length + 1 + room ≤ maxDepth →
      (memberTokens ms).foldlM step ⟨.object members :: stack, .separator⟩ =
        some ⟨.object (ms.reverse ++ members) :: stack, .separator⟩
  | [], _, _, _, _ => rfl
  | (name, v) :: ms, h, members, stack, deep => by
    rw [PlainMembers] at h
    rw [memberTokens, List.foldlM_cons]
    show List.foldlM step ⟨.named members name :: stack, .value⟩ _ = _
    rw [List.foldlM_append,
      foldlM_tokens room v h.1 (.named members name :: stack) deep awaitsValue]
    show List.foldlM step ⟨.object ((name, v) :: members) :: stack, .separator⟩ _ = _
    rw [foldlM_memberTokens room ms h.2 ((name, v) :: members) stack deep, List.reverse_cons,
      List.append_assoc, List.singleton_append]

end

end Reader

theorem ofTokens?_tokens {v : Json} (h : Plain Reader.maxDepth v) :
    ofTokens? (tokens v) = some v := by
  rw [ofTokens?, Reader.foldlM_tokens _ v h [] (by simp) Reader.awaitsValue]
  rfl

/-- **A document that was written is read back.** A line break may follow. -/
theorem parse?_pretty {v : Json} (h : Plain Reader.maxDepth v) :
    parse? v.pretty = some v ∧ parse? (v.pretty ++ "\n") = some v := by
  obtain ⟨alone, followed⟩ := Token.ofChars?_prettyAt h
  constructor
  · rw [parse?, pretty, String.toList_ofList, alone, Option.bind_some, ofTokens?_tokens h]
  · rw [parse?, String.toList_append, pretty, String.toList_ofList]
    show (Token.ofChars? (prettyAt 0 v ++ ['\n'])).bind _ = _
    rw [followed, Option.bind_some, ofTokens?_tokens h]

end Fieldbus.Json
