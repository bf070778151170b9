import Fieldbus.Flow.Fanout

/-!
# What a receiver gets

A receiver of a fan-out takes items one by one while others are sent. It takes them in the order in
which they were sent, and where some were lost it learns how many.

* `Taken.Covers`: what was taken tells of certain items, in order.
* `Receiver.Account`: what was taken, what was lost and what waits are what was sent.
* **`Receiver.Account.put`**, **`Receiver.Account.take`**: sending and taking keep the account.
* `Fanout.receiver?_send` and others: what the steps of a fan-out are for one of its receivers.
-/

namespace Fieldbus

variable {α : Type}

/-! ## What was taken -/

/-- What was taken tells of certain items: of each by itself, or of some in a row that were lost. -/
def Taken.Covers : List (Taken α) → List α → Prop
  | [], as => as = []
  | .item a :: ts, as => ∃ rest, as = a :: rest ∧ Covers ts rest
  | .missed n :: ts, as => ∃ lost rest, as = lost ++ rest ∧ lost.length = n ∧ Covers ts rest

theorem Taken.Covers.append {ts us : List (Taken α)} {as bs : List α} (h : Covers ts as)
    (h' : Covers us bs) : Covers (ts ++ us) (as ++ bs) := by
  induction ts generalizing as with
  | nil =>
    obtain rfl : as = [] := h
    exact h'
  | cons t ts ih =>
    cases t with
    | item a =>
      obtain ⟨rest, rfl, hr⟩ := h
      exact ⟨rest ++ bs, rfl, ih hr⟩
    | missed n =>
      obtain ⟨lost, rest, rfl, hn, hr⟩ := h
      exact ⟨lost, rest ++ bs, List.append_assoc _ _ _, hn, ih hr⟩

theorem Taken.covers_item (a : α) : Covers [.item a] [a] := ⟨[], rfl, rfl⟩

theorem Taken.covers_missed (lost : List α) : Covers [.missed lost.length] lost :=
  ⟨lost, [], (List.append_nil _).symm, rfl, rfl⟩

theorem Taken.Covers.eq_map_item {ts : List (Taken α)} {as : List α} (h : Covers ts as)
    (none : ∀ n, .missed n ∉ ts) : ts = as.map .item := by
  induction ts generalizing as with
  | nil =>
    obtain rfl : as = [] := h
    rfl
  | cons t ts ih =>
    cases t with
    | item a =>
      obtain ⟨rest, rfl, hr⟩ := h
      rw [List.map_cons, ih hr fun n hn => none n (List.mem_cons_of_mem _ hn)]
    | missed n => exact absurd List.mem_cons_self (none n)

/-! ## The account of a receiver -/

namespace Receiver

/-- What a receiver took, what was lost since, and what waits for it are, in order, what was sent to
it. Something is lost only if as much waits as is kept. -/
structure Account (capacity : Nat) (sent : List α) (taken : List (Taken α)) (r : Receiver α) :
    Prop where
  /-- Everything that was sent was taken, or it is lost or waits. -/
  covered : ∃ before lost, Taken.Covers taken before ∧ lost.length = r.missed ∧
    before ++ lost ++ r.waiting = sent
  /-- No more waits than is kept. -/
  bounded : r.waiting.length ≤ capacity
  /-- What was lost was older than all that is kept. -/
  full : 0 < r.missed → r.waiting.length = capacity

variable {capacity : Nat} {sent : List α} {taken : List (Taken α)} {r : Receiver α}

theorem account_fresh (capacity : Nat) (name : String) :
    Account capacity ([] : List α) [] { name := name } where
  covered := ⟨[], [], rfl, rfl, rfl⟩
  bounded := Nat.zero_le _
  full h := absurd h (Nat.lt_irrefl 0)

/-- **What is sent** is accounted for: it waits, and what has to go to make room is lost. -/
theorem Account.put (h : Account capacity sent taken r) (a : α) :
    Account capacity (sent ++ [a]) taken (r.put capacity a) := by
  obtain ⟨before, lost, hb, hl, rfl⟩ := h.covered
  have hfull := h.full
  have hbound := h.bounded
  refine ⟨⟨before, lost ++ (r.waiting ++ [a]).take ((r.waiting ++ [a]).length - capacity), hb,
    ?_, ?_⟩, length_put_le _ _ _, fun hm => ?_⟩
  · simp only [Receiver.put, List.length_append, List.length_take, hl]
    omega
  · simp only [Receiver.put, List.append_assoc, List.take_append_drop]
  · -- at most one item is lost, and only if the others fill the room
    simp only [Receiver.put, List.length_append, List.length_drop, List.length_cons,
      List.length_nil] at hm ⊢
    omega

/-- **What is taken** is accounted for. -/
theorem Account.take (h : Account capacity sent taken r) :
    Account capacity sent (taken ++ r.take.1.toList) r.take.2 := by
  obtain ⟨before, lost, hb, hl, hs⟩ := h.covered
  unfold Receiver.take
  split
  · refine ⟨⟨before ++ lost, [], ?_, rfl, by rw [List.append_nil]; exact hs⟩, h.bounded,
      fun hm => absurd hm (Nat.lt_irrefl 0)⟩
    rw [← hl]
    exact hb.append (Taken.covers_missed lost)
  · next hm =>
    obtain rfl : lost = [] := List.length_eq_zero_iff.mp (by omega)
    rw [List.append_nil] at hs
    split
    · next hw =>
      rw [Option.toList_none, List.append_nil]
      exact h
    · next a rest hw =>
      rw [hw] at hs
      refine ⟨⟨before ++ [a], [], hb.append (Taken.covers_item a), hl, ?_⟩, ?_,
        fun hm' => absurd hm' hm⟩
      · rw [← hs, List.append_nil, List.append_assoc]
        rfl
      · have := h.bounded
        rw [hw, List.length_cons] at this
        exact Nat.le_of_succ_le this

theorem missed_notMem_take (hr : r.missed = 0) (n : Nat) : .missed n ∉ r.take.1.toList := by
  unfold Receiver.take
  rw [if_neg (by omega)]
  split <;> simp

/-- Who was never told of a loss, and whose waiting items and items taken are as many as were sent,
has missed nothing. -/
theorem Account.eq_of_keeping_up (h : Account capacity sent taken r)
    (none : ∀ n, .missed n ∉ taken) (up : sent.length ≤ taken.length + capacity) :
    r.missed = 0 ∧ ∃ items, taken = items.map .item ∧ items ++ r.waiting = sent := by
  obtain ⟨before, lost, hb, hl, rfl⟩ := h.covered
  have ht := hb.eq_map_item none
  have hm : r.missed = 0 := by
    rcases Nat.eq_zero_or_pos r.missed with hm | hm
    · exact hm
    · have hw := h.full hm
      simp only [ht, List.length_append, List.length_map] at up
      omega
  obtain rfl : lost = [] := List.length_eq_zero_iff.mp (hl.trans hm)
  exact ⟨hm, before, ht, by rw [List.append_nil]⟩

@[simp] theorem name_take (r : Receiver α) : r.take.2.name = r.name := by
  unfold Receiver.take
  split
  · rfl
  · split <;> rfl

end Receiver

/-! ## One receiver of a fan-out -/

namespace Fanout

variable (f : Fanout α) {name who : String}

theorem name_of_receiver? {r : Receiver α} (h : f.receiver? name = some r) : r.name = name :=
  of_decide_eq_true (List.find?_some (p := fun r : Receiver α => decide (r.name = name)) h)

theorem receiver?_map {g : Receiver α → Receiver α} (hg : ∀ r, (g r).name = r.name) :
    ({ f with receivers := f.receivers.map g } : Fanout α).receiver? name =
      (f.receiver? name).map g := by
  rw [receiver?, List.find?_map, receiver?]
  congr 2
  funext r
  simp [hg]

theorem receiver?_send (a : α) :
    (f.send a).receiver? name = (f.receiver? name).map (Receiver.put f.capacity a) :=
  f.receiver?_map fun _ => rfl

theorem receiver?_take :
    (f.take who).2.receiver? name =
      (f.receiver? name).map fun r => if r.name = who then r.take.2 else r := by
  refine f.receiver?_map fun r => ?_
  split <;> simp

theorem receiver?_take_self {r : Receiver α} (h : f.receiver? name = some r) :
    (f.take name).2.receiver? name = some r.take.2 := by
  rw [receiver?_take, h, Option.map_some, if_pos (f.name_of_receiver? h)]

theorem receiver?_take_ne (h : who ≠ name) : (f.take who).2.receiver? name = f.receiver? name := by
  rw [receiver?_take]
  cases hr : f.receiver? name with
  | none => rfl
  | some r => rw [Option.map_some, if_neg fun e => h (e.symm.trans (f.name_of_receiver? hr))]

theorem receiver?_leave_ne (h : who ≠ name) : (f.leave who).receiver? name = f.receiver? name := by
  rw [receiver?, leave, List.find?_filter, receiver?]
  congr 1
  funext r
  by_cases hr : r.name = name
  · simp [hr, Ne.symm h]
  · simp [hr]

theorem receiver?_leave_self : (f.leave name).receiver? name = none := by
  rw [receiver?, leave, List.find?_filter]
  exact List.find?_eq_none.mpr fun r _ => by simp

theorem receiver?_enter_self : (f.enter name).receiver? name = some { name := name } := by
  have h : (f.leave name).receiver? name = none := f.receiver?_leave_self
  rw [receiver?] at h
  rw [receiver?, enter, List.find?_append, h]
  simp

theorem receiver?_enter_ne (h : who ≠ name) : (f.enter who).receiver? name = f.receiver? name := by
  rw [← f.receiver?_leave_ne h, receiver?, enter, List.find?_append, receiver?]
  simp [h]

end Fanout

end Fieldbus
