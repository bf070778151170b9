import Fieldbus.Proofs.Serial.Removal
import Fieldbus.Proofs.Serial.Roll
import Fieldbus.Serial.Shared

/-!
# A set of ports is a list with distinct ids

Whatever threads and workers do to a set at the same time, calls are answered as if the set were a
list of descriptors to which one thread adds at the end and from which it takes by id.

* `SharedPorts.Allows`, `SharedPorts.Legal`: how calls on such a list are answered.
* `SharedPorts.Turn`: what a step does to the ports.
* `SharedPorts.Kept`: what every step keeps.
* `SharedPorts.Names`: what a listing tells.
* `SharedPorts.list_alone`, `SharedPorts.write_alone`: calls that nobody interrupts.
* **`SharedPorts.refines_list`**: the set behaves as a list.
-/

namespace Fieldbus

open PortSet

namespace Traffic

theorem removals_of_mem_step {t : Traffic} {a : Step} (keeps : a.regroups = false) {c : Removal}
    (hc : c ∈ (t.step a).1.removals) : c ∈ t.removals ∨ c.phase = .unlinking := by
  cases a with
  | change => exact .inl hc
  | add | advance => cases keeps
  | callRemove uid =>
    rcases List.mem_append.mp hc with before | new
    · exact .inl before
    · exact .inr (by rw [List.mem_singleton.mp new])
  | patrol => exact .inl (removals_patrolOn t t.patrol ▸ hc)
  | beginOpen | finishOpen | close | write | read =>
    simp only [step] at hc
    split at hc <;> exact .inl hc

end Traffic

namespace SharedPorts

/-! ## One thread -/

/-- How a call on a list of descriptors is answered, and the list after it. -/
def Allows (xs : List Descriptor) : Effect → List Descriptor → Prop
  | .added d (.ok _), ys => d.Valid ∧ d.uid ∉ xs.map Descriptor.uid ∧ ys = xs ++ [d]
  | .added d (.error e), ys =>
    (match d.fault? with
      | some cause => e = .invalid cause
      | none => d.uid ∈ xs.map Descriptor.uid ∧ e = .duplicateId d.uid) ∧ ys = xs
  | .removed uid was, ys =>
    (was = true ↔ uid ∈ xs.map Descriptor.uid) ∧ ys = xs.filter fun d => d.uid ≠ uid
  | .sought uid was, ys => (was = true ↔ uid ∈ xs.map Descriptor.uid) ∧ ys = xs
  | .noted _ uids, ys => uids = xs.map Descriptor.uid ∧ ys = xs
  | .seen _ _, ys => ys = xs

/-- How calls are answered that are made one after the other, and the list after them. -/
abbrev Legal : List Descriptor → List Effect → List Descriptor → Prop := Traced Allows

/-! ## Many threads -/

variable {s s' : SharedPorts} {es : List Effect} {place : Nat}

/-- The descriptors of the members, in order. -/
def descriptors (s : SharedPorts) : List Descriptor := s.ports.roll.map Port.descriptor

theorem uids_descriptors (s : SharedPorts) :
    s.descriptors.map Descriptor.uid = s.ports.roll.map Port.id := by
  rw [descriptors, List.map_map]
  rfl

/-- The places of ports that were taken out of the set, and whose management is about to end. -/
def retiring (s : SharedPorts) : List Nat :=
  s.traffic.removals.filterMap fun c => match c.phase with
    | .retiring place => some place
    | _ => none

theorem mem_retiring : place ∈ s.retiring ↔ ∃ uid, ⟨uid, .retiring place⟩ ∈ s.traffic.removals := by
  refine List.mem_filterMap.trans ⟨?_, fun ⟨uid, hc⟩ => ⟨_, hc, rfl⟩⟩
  rintro ⟨⟨uid, phase⟩, hc, same⟩
  cases phase with
  | retiring i =>
    obtain rfl := Option.some.inj same
    exact ⟨uid, hc⟩
  | unlinking | closing | finished => cases same

/-- What a step does to the ports, and how calls are answered meanwhile. -/
inductive Turn (s s' : SharedPorts) : List Effect → Prop where
  | adds (d : Descriptor) (ports : s'.ports = (s.ports.add d).2)
      (retiring : s'.retiring ⊆ s.retiring) : Turn s s' [.added d (s.ports.add d).1]
  | removes (uid : String) (ports : s'.ports = (s.ports.unlink uid).2)
      (retiring : ∀ place ∈ s'.retiring, place ∈ s.retiring ∨ s.ports.find? uid = some place) :
      Turn s s' [.removed uid (s.ports.find? uid).isSome]
  /-- The management of a port ends that was taken out of the set. -/
  | retires (place : Nat) (was : place ∈ s.retiring) (ports : s'.ports = s.ports.clearRunning place)
      (retiring : s'.retiring ⊆ s.retiring) : Turn s s' []
  /-- Sessions begin or end, or nothing happens to the ports. -/
  | stays (ports : Stays s.ports s'.ports) (retiring : s'.retiring ⊆ s.retiring) : Turn s s' []
  | seeks (uid : String) (ports : s'.ports = s.ports) (retiring : s'.retiring ⊆ s.retiring) :
      Turn s s' [.sought uid (s.ports.find? uid).isSome]
  | notes (call : Nat) (ports : s'.ports = s.ports) (retiring : s'.retiring ⊆ s.retiring) :
      Turn s s' [.noted call (s.ports.members.map Member.key)]
  | sees (call : Nat) (status : PortStatus) (ports : s'.ports = s.ports)
      (retiring : s'.retiring ⊆ s.retiring) : Turn s s' [.seen call status]

theorem Turn.rest (ports : s'.ports = s.ports) (retiring : s'.retiring ⊆ s.retiring) :
    Turn s s' [] :=
  .stays (ports ▸ .refl s.ports) retiring

theorem mem_retiring_set {t : Traffic} {call : Nat} {c : Removal}
    (set : t.removals = s.traffic.removals.set call c)
    (h : place ∈ retiring { s with traffic := t }) :
    place ∈ s.retiring ∨ c.phase = .retiring place := by
  obtain ⟨uid, hc⟩ := mem_retiring.mp h
  rw [show SharedPorts.traffic { s with traffic := t } = t from rfl, set] at hc
  rcases List.mem_or_eq_of_mem_set hc with old | new
  · exact .inl (mem_retiring.mpr ⟨uid, old⟩)
  · exact .inr (by rw [← new])

theorem turn_remove (s : SharedPorts) {call : Nat} {c : Removal}
    (hc : s.traffic.removals[call]? = some c) :
    Turn s { s with traffic := s.traffic.remove call c.uid c.phase }
      (s.answer (.advance call)) := by
  obtain ⟨uid, phase⟩ := c
  simp only [answer, hc]
  have others {t : Traffic} {phase' : Removal.Phase}
      (set : t.removals = s.traffic.removals.set call ⟨uid, phase'⟩)
      (other : ∀ place, phase' ≠ .retiring place) :
      retiring { s with traffic := t } ⊆ s.retiring :=
    fun place h => (mem_retiring_set set h).resolve_right (other place)
  cases phase with
  | unlinking =>
    cases hf : s.ports.find? uid with
    | none =>
      have ends : s.traffic.remove call uid .unlinking =
          s.traffic.setRemoval call uid (.finished none) := by
        simp only [Traffic.remove, show s.traffic.rig.ports.find? uid = none from hf]
      have same : s.ports = (s.ports.unlink uid).2 := by simp only [PortSet.unlink, hf]
      rw [ends]
      exact .removes uid same fun i h => .inl (others rfl (fun _ => by simp) h)
    | some place =>
      have goes : s.traffic.remove call uid .unlinking =
          (s.traffic.watching (.unlink uid)).1.setRemoval call uid (.retiring place) := by
        simp only [Traffic.remove, show s.traffic.rig.ports.find? uid = some place from hf]
      rw [goes]
      refine .removes uid rfl fun i h => (mem_retiring_set rfl h).imp_right fun same => ?_
      rw [hf, Removal.Phase.retiring.inj same]
  | retiring place =>
    exact .retires place (mem_retiring.mpr ⟨uid, List.mem_of_getElem? hc⟩) rfl
      (others rfl fun _ => by simp)
  | closing place =>
    simp only [Traffic.remove]
    split
    · exact .rest rfl (List.Subset.refl _)
    · exact .stays (Rig.ebbs_closeAt s.traffic.rig place).stays (others rfl fun _ => by simp)
  | finished place => exact .rest rfl (List.Subset.refl _)

theorem turn_step_traffic {t : Traffic} {a : Traffic.Step} (keeps : a.regroups = false)
    (ports : t.rig.ports = s.ports) (removals : t.removals = s.traffic.removals)
    (ports' : s'.ports = (t.step a).1.rig.ports)
    (removals' : s'.traffic.removals = (t.step a).1.removals) : Turn s s' [] := by
  refine .stays ?_ fun place h => ?_
  · rw [ports', ← ports]
    exact t.stays_step keeps
  · obtain ⟨uid, hc⟩ := mem_retiring.mp h
    rw [removals'] at hc
    rcases Traffic.removals_of_mem_step keeps hc with old | new
    · exact mem_retiring.mpr ⟨uid, removals ▸ old⟩
    · cases new

/-- **Every step is a turn.** -/
theorem turn_step (s : SharedPorts) (st : Step) : Turn s (s.step st).1 (s.step st).2 := by
  have rest : Turn s s [] := .rest rfl (List.Subset.refl _)
  cases st with
  | use a =>
    simp only [step]
    split
    · have other (keeps : a.regroups = false) (quiet : s.answer a = []) :
          Turn s { s with traffic := (s.traffic.step a).1 } (s.answer a) := by
        rw [quiet]
        exact turn_step_traffic keeps rfl rfl rfl rfl
      cases a with
      | add d => exact .adds d rfl (List.Subset.refl _)
      | advance call =>
        cases hc : s.traffic.removals[call]? with
        | none =>
          simp only [answer, Traffic.step, hc]
          exact rest
        | some c =>
          have goes : (s.traffic.step (.advance call)).1 =
              s.traffic.remove call c.uid c.phase := by
            simp only [Traffic.step, hc]
          rw [goes]
          exact s.turn_remove hc
      | change | callRemove | beginOpen | finishOpen | close | write | patrol | read =>
        exact other rfl rfl
    · exact rest
  | callWrite uid data => exact .rest rfl (List.Subset.refl _)
  | write call =>
    simp only [step]
    split
    · exact rest
    · next w _ =>
      cases w with
      | seeking uid data =>
        have seeks (x : Writing) :
            Turn s (s.setWriting call x) [.sought uid (s.ports.find? uid).isSome] :=
          .seeks uid rfl (List.Subset.refl _)
        cases hf : s.ports.find? uid with
        | none =>
          rw [hf] at seeks
          simp only [writeOn, hf]
          exact seeks _
        | some place =>
          rw [hf] at seeks
          simp only [writeOn, hf]
          exact seeks _
      | sending place data =>
        simp only [writeOn]
        split
        · exact rest
        · exact turn_step_traffic (a := .write place data) rfl rfl rfl rfl rfl
      | finished result => exact rest
  | callList => exact .notes _ rfl (List.Subset.refl _)
  | list call =>
    simp only [step]
    split
    · exact rest
    · unfold listOn
      split
      · exact rest
      · split
        · exact rest
        · split
          · exact rest
          · exact .sees call _ rfl (List.Subset.refl _)
  | crew a =>
    simp only [step, crewOn]
    split
    · split <;> exact .rest rfl (List.Subset.refl _)
    · exact .rest rfl (List.Subset.refl _)
  | work w granted =>
    simp only [step]
    split
    · have own : (s.traffic.lend (s.passes w.number)).rig.ports = s.ports := rfl
      unfold workOn
      cases w.kind with
      | reader => exact turn_step_traffic (a := .read granted) rfl own rfl rfl rfl
      | monitor => exact turn_step_traffic (a := .patrol) rfl own rfl rfl rfl
    · exact rest

/-! ## What every step keeps -/

/-- The members are in order, and a port whose management is about to end is none of them. -/
structure Kept (s : SharedPorts) : Prop where
  inOrder : s.ports.InOrder
  retired : ∀ place ∈ s.retiring, place ∉ s.ports.snapshot ∧ ∃ p, s.ports.port? place = some p

theorem Turn.kept (t : Turn s s' es) (h : s.Kept) : s'.Kept := by
  have unchanged (ports : s'.ports = s.ports) (retiring : s'.retiring ⊆ s.retiring) : s'.Kept :=
    ⟨ports ▸ h.inOrder, fun place hp => ports ▸ h.retired place (retiring hp)⟩
  cases t with
  | adds d ports retiring =>
    rcases s.ports.add_cases d with same | ⟨valid, added⟩
    · exact unchanged (ports.trans same) retiring
    · refine ⟨?_, fun place hp => ?_⟩
      · rcases h.inOrder.add_cases d with ⟨_, _, same⟩ | ⟨_, _, same⟩ | ⟨_, _, _, inOrder, _⟩
        · rw [ports, same]
          exact h.inOrder
        · rw [ports, same]
          exact h.inOrder
        · rwa [ports]
      · obtain ⟨unlisted, p, port⟩ := h.retired place (retiring hp)
        have old : place < s.ports.ports.length := (List.getElem?_eq_some_iff.mp port).1
        rw [ports, added]
        refine ⟨fun listed => ?_, p, (List.getElem?_append_left old).trans port⟩
        rw [snapshot, List.map_append] at listed
        rcases List.mem_append.mp listed with before | new
        · exact unlisted before
        · exact absurd (List.mem_singleton.mp new) (Nat.ne_of_lt old)
  | removes uid ports retiring =>
    refine ⟨ports ▸ (h.inOrder.unlink uid).1, fun place hp => ?_⟩
    rw [ports]
    rcases retiring place hp with before | found
    · obtain ⟨unlisted, p, port⟩ := h.retired place before
      rw [unlink_eq]
      exact ⟨fun listed => unlisted (List.filter_sublist.map _ |>.subset listed), p, port⟩
    · obtain ⟨unlisted, p, port, -⟩ := Traffic.unlisted_unlink
        (fun m hm => (h.inOrder.listed m hm).imp fun _ hq => ⟨hq.1, hq.2.1⟩) found
      exact ⟨unlisted, p, port⟩
  | retires place was ports retiring =>
    obtain ⟨inOrder, -⟩ := h.inOrder.clearRunning (h.retired place was).1
    refine ⟨ports ▸ inOrder, fun i hi => ?_⟩
    obtain ⟨unlisted, p, port⟩ := h.retired i (retiring hi)
    rw [ports, PortSet.clearRunning]
    exact ⟨unlisted, _, by rw [port?_modify, port]; rfl⟩
  | stays ports retiring =>
    refine ⟨ports.inOrder h.inOrder, fun place hp => ?_⟩
    obtain ⟨unlisted, p, port⟩ := h.retired place (retiring hp)
    obtain ⟨q, port', -⟩ := ports.port port
    exact ⟨by rwa [snapshot, ports.members], q, port'⟩
  | seeks _ ports retiring | notes _ ports retiring | sees _ _ ports retiring =>
    exact unchanged ports retiring

/-- **Calls are answered as on a list.** -/
theorem Turn.legal (t : Turn s s' es) (h : s.Kept) : Legal s.descriptors es s'.descriptors := by
  have one {e : Effect} (now : Allows s.descriptors e s'.descriptors) :
      Legal s.descriptors [e] s'.descriptors := .cons now (.nil _)
  have quiet (same : s'.descriptors = s.descriptors) : Legal s.descriptors [] s'.descriptors :=
    same ▸ .nil _
  have alike (ports : s'.ports = s.ports) : s'.descriptors = s.descriptors := by
    rw [descriptors, ports, descriptors]
  have ids : s.descriptors.map Descriptor.uid = s.ports.roll.map Port.id := s.uids_descriptors
  cases t with
  | adds d ports _ =>
    refine one ?_
    rcases h.inOrder.add_cases d with ⟨cause, fault, same⟩ | ⟨valid, taken, same⟩ |
      ⟨valid, fresh, added, -, roll⟩
    · rw [same] at ports ⊢
      refine ⟨?_, alike ports⟩
      rw [fault]
    · rw [same] at ports ⊢
      refine ⟨?_, alike ports⟩
      rw [show d.fault? = none from valid, ids]
      exact ⟨taken, rfl⟩
    · rw [added]
      refine ⟨valid, ids ▸ fresh, ?_⟩
      rw [descriptors, ports, roll, List.map_append]
      rfl
  | removes uid ports _ =>
    refine one ⟨by rw [ids, h.inOrder.find?_isSome_iff], ?_⟩
    rw [descriptors, ports, (h.inOrder.unlink uid).2, descriptors, List.filter_map]
    rfl
  | retires place was ports _ =>
    refine quiet ?_
    rw [descriptors, ports, (h.inOrder.clearRunning (h.retired place was).1).2, descriptors]
  | stays ports _ => exact quiet (ports.roll h.inOrder)
  | seeks uid ports _ =>
    exact one ⟨by rw [ids, h.inOrder.find?_isSome_iff], alike ports⟩
  | notes call ports _ => exact one ⟨by rw [ids, h.inOrder.ids], alike ports⟩
  | sees call status ports _ => exact one (alike ports)

theorem kept_start (devices : Devices) : (start devices).Kept :=
  ⟨⟨nofun, List.nodup_nil⟩, nofun⟩

theorem legal_run (devices : Devices) (steps : List Step) :
    ((start devices).run steps).1.Kept ∧
      Legal [] ((start devices).run steps).2 ((start devices).run steps).1.descriptors := by
  refine runSteps_induction step (fun _ s es => s.Kept ∧ Legal [] es s.descriptors) ?_
    (start devices) ⟨kept_start devices, .nil []⟩ steps
  rintro - s es ⟨kept, legal⟩ st
  have turn := s.turn_step st
  exact ⟨turn.kept kept, legal.append (turn.legal kept)⟩

/-! ## Listings -/

theorem Turn.port (t : Turn s s' es) {p : Port} (hp : s.ports.port? place = some p) :
    ∃ q, s'.ports.port? place = some q ∧ q.id = p.id := by
  cases t with
  | adds d ports _ => exact ⟨p, ports ▸ (Rig.regroup_add s.traffic.rig d).port? hp, rfl⟩
  | removes uid ports _ => exact ⟨p, ports ▸ (Rig.regroup_unlink s.traffic.rig uid).port? hp, rfl⟩
  | retires i was ports _ =>
    rw [ports, PortSet.clearRunning, port?_modify, hp]
    exact ⟨_, rfl, by split <;> rfl⟩
  | stays ports _ =>
    obtain ⟨q, hq, same, -⟩ := ports.port hp
    exact ⟨q, hq, congrArg Descriptor.uid same⟩
  | seeks _ ports _ | notes _ ports _ | sees _ _ ports _ => exact ⟨p, ports ▸ hp, rfl⟩

/-- A listing has noted the ports with some ids, and has seen the first of them. -/
structure Names (ports : PortSet) (l : Listing) (uids : List String) : Prop where
  noted : l.noted.map (fun place => (ports.port? place).map Port.id) = uids.map some
  seen : l.seen.map PortStatus.uid = uids.take l.seen.length

theorem Names.turn {l : Listing} {uids : List String} (h : Names s.ports l uids)
    (t : Turn s s' es) : Names s'.ports l uids := by
  refine ⟨?_, h.seen⟩
  rw [← h.noted]
  refine List.map_congr_left fun place hplace => ?_
  have known : (s.ports.port? place).map Port.id ∈ uids.map some :=
    h.noted ▸ List.mem_map_of_mem hplace
  obtain ⟨uid, -, hu⟩ := List.mem_map.mp known
  obtain ⟨p, hp, -⟩ := Option.map_eq_some_iff.mp hu.symm
  obtain ⟨q, hq, same⟩ := t.port hp
  rw [hp, hq, Option.map_some, Option.map_some, same]

theorem names_snapshot {ports : PortSet} (h : ports.InOrder) :
    Names ports { noted := ports.snapshot } (ports.members.map Member.key) := by
  refine ⟨?_, rfl⟩
  rw [snapshot, List.map_map, List.map_map]
  refine List.map_congr_left fun m hm => ?_
  obtain ⟨p, port, id, -⟩ := h.listed m hm
  simp only [Function.comp, port, Option.map_some, id]

theorem Names.look {ports : PortSet} {l : Listing} {uids : List String} (h : Names ports l uids)
    {p : Port} (next : l.noted[l.seen.length]? = some place) (hp : ports.port? place = some p) :
    Names ports { l with seen := l.seen ++ [p.status] } uids := by
  have named : uids[l.seen.length]? = some p.id := by
    have same := congrArg (fun xs => xs[l.seen.length]?) h.noted
    simp only [List.getElem?_map, next, Option.map_some, hp] at same
    obtain ⟨uid, hu, id⟩ := Option.map_eq_some_iff.mp same.symm
    rw [hu, Option.some.inj id]
  refine ⟨h.noted, ?_⟩
  rw [List.map_append, h.seen, List.length_append, List.length_singleton, List.take_add_one, named]
  rfl

theorem listings_step (s : SharedPorts) (st : Step) :
    ((s.step st).1.listings = s.listings ∧ ∀ i x, .seen i x ∉ (s.step st).2) ∨
    ((s.step st).1.listings = s.listings ++ [{ noted := s.ports.snapshot }] ∧
      (s.step st).2 = [.noted s.listings.length (s.ports.members.map Member.key)]) ∨
    ∃ i l place p, s.listings[i]? = some l ∧ l.noted[l.seen.length]? = some place ∧
      s.ports.port? place = some p ∧ (s.step st).2 = [.seen i p.status] ∧
      (s.step st).1.listings = s.listings.set i { l with seen := l.seen ++ [p.status] } := by
  have rest : s.listings = s.listings ∧ ∀ i x, Effect.seen i x ∉ [] :=
    ⟨rfl, fun _ _ => List.not_mem_nil⟩
  cases st with
  | use a =>
    left
    simp only [step]
    split
    · refine ⟨rfl, fun i x => ?_⟩
      cases a with
      | advance call =>
        simp only [answer]
        split <;> simp
      | add | change | callRemove | beginOpen | finishOpen | close | write | patrol | read =>
        simp [answer]
    · exact rest
  | callWrite => exact .inl rest
  | write call =>
    left
    simp only [step]
    split
    · exact rest
    · next w _ =>
      cases w with
      | seeking uid data =>
        simp only [writeOn]
        split <;> exact ⟨rfl, by simp⟩
      | sending place data =>
        simp only [writeOn]
        split <;> exact rest
      | finished result => exact rest
  | callList => exact .inr (.inl ⟨rfl, rfl⟩)
  | list i =>
    cases hl : s.listings[i]? with
    | none =>
      simp only [step, hl]
      exact .inl ⟨trivial, rest.2⟩
    | some l =>
      simp only [step, hl, listOn]
      split
      · exact .inl rest
      · next place next =>
        split
        · exact .inl rest
        · cases hp : s.ports.port? place with
          | none => exact .inl rest
          | some p => exact .inr (.inr ⟨i, l, place, p, hl, next, hp, rfl, rfl⟩)
  | crew a =>
    left
    simp only [step, crewOn]
    split
    · split <;> exact rest
    · exact rest
  | work w granted =>
    left
    simp only [step]
    split <;> exact rest

theorem names_run (devices : Devices) (steps : List Step) :
    let after := (start devices).run steps
    ∀ i l, after.1.listings[i]? = some l →
      ∃ uids, .noted i uids ∈ after.2 ∧ Names after.1.ports l uids := by
  refine (runSteps_induction step (fun _ s es => s.Kept ∧ ∀ i l, s.listings[i]? = some l →
    ∃ uids, .noted i uids ∈ es ∧ Names s.ports l uids) ?_ (start devices)
    ⟨kept_start devices, fun i l hl => absurd hl (by simp [start])⟩ steps).2
  rintro - s es ⟨kept, names⟩ st
  have turn := s.turn_step st
  refine ⟨turn.kept kept, fun i l hl => ?_⟩
  have before {l' : Listing} (hl' : s.listings[i]? = some l') :
      ∃ uids, .noted i uids ∈ es ++ (s.step st).2 ∧ Names (s.step st).1.ports l' uids := by
    obtain ⟨uids, told, h⟩ := names i l' hl'
    exact ⟨uids, List.mem_append_left _ told, h.turn turn⟩
  rcases s.listings_step st with ⟨same, -⟩ | ⟨new, told⟩ |
    ⟨j, l', place, p, hj, next, port, told, set⟩
  · exact before (same ▸ hl)
  · rw [new, List.getElem?_append] at hl
    split at hl
    · exact before hl
    · -- the listing that begins notes the members as they are
      next hi =>
      have only : i - s.listings.length < 1 := (List.getElem?_eq_some_iff.mp hl).1
      have last : i = s.listings.length := by omega
      subst last
      rw [Nat.sub_self] at hl
      cases hl
      refine ⟨s.ports.members.map Member.key, ?_, (names_snapshot kept.inOrder).turn turn⟩
      rw [told]
      exact List.mem_append_right _ (List.mem_singleton.mpr rfl)
  · by_cases hi : j = i
    · subst hi
      obtain ⟨uids, told', h⟩ := names j l' hj
      rw [set, List.getElem?_set_self (List.getElem?_eq_some_iff.mp hj).1] at hl
      cases hl
      exact ⟨uids, List.mem_append_left _ told', (h.look next port).turn turn⟩
    · rw [set, List.getElem?_set_ne hi] at hl
      exact before hl

/-- A listing that nobody interrupts sees every port that it has yet to look at as it is. -/
theorem list_alone (left : List Nat) {i : Nat} {l : Listing} (hl : s.listings[i]? = some l)
    (rest : l.noted.drop l.seen.length = left)
    (ready : ∀ place ∈ left, place ∉ s.traffic.openings ∧ ∃ p, s.ports.port? place = some p) :
    (s.run (List.replicate left.length (.list i))).1 =
      { s with
        listings := s.listings.set i
          { l with
            seen := l.seen ++
              left.filterMap fun place => (s.ports.port? place).map Port.status } } := by
  induction left generalizing s l with
  | nil =>
    obtain ⟨hi, rfl⟩ := List.getElem?_eq_some_iff.mp hl
    show s = _
    rw [List.filterMap_nil, List.append_nil, List.set_getElem_self]
  | cons place left ih =>
    obtain ⟨free, p, port⟩ := ready place List.mem_cons_self
    have next : l.noted[l.seen.length]? = some place := by
      rw [← List.head?_drop, rest]
      rfl
    have looks : (s.step (.list i)).1 =
        { s with listings := s.listings.set i { l with seen := l.seen ++ [p.status] } } := by
      simp only [step, hl, listOn, next, if_neg free, port]
    show ((s.step (.list i)).1.run (List.replicate left.length (.list i))).1 = _
    have later := ih (s := (s.step (.list i)).1) (l := { l with seen := l.seen ++ [p.status] })
      (by rw [looks]; exact List.getElem?_set_self (List.getElem?_eq_some_iff.mp hl).1)
      (by rw [List.length_append, List.length_singleton, ← List.tail_drop, rest, List.tail_cons])
      (by rw [looks]; exact fun j hj => ready j (List.mem_cons_of_mem place hj))
    rw [later, looks, List.filterMap_cons, port]
    simp [List.set_set, ports]

theorem Kept.list_members (h : s.Kept)
    (free : ∀ place ∈ s.ports.snapshot, place ∉ s.traffic.openings) :
    (s.run (.callList :: List.replicate s.ports.size (.list s.listings.length))).1 =
      { s with
        listings := s.listings ++ [⟨s.ports.snapshot, s.ports.roll.map Port.status⟩] } := by
  have ready : ∀ place ∈ s.ports.snapshot, place ∉ s.traffic.openings ∧
      ∃ p, s.ports.port? place = some p := by
    intro place hplace
    obtain ⟨m, hm, rfl⟩ := List.mem_map.mp hplace
    exact ⟨free _ hplace, (h.inOrder.listed m hm).imp fun _ hp => hp.1⟩
  have alone := list_alone (s := (s.step .callList).1) (i := s.listings.length)
    (l := { noted := s.ports.snapshot }) s.ports.snapshot List.getElem?_concat_length rfl ready
  have size : s.ports.size = s.ports.snapshot.length := (List.length_map _).symm
  let seen : List PortStatus :=
    [] ++ s.ports.snapshot.filterMap fun place => (s.ports.port? place).map Port.status
  have all : seen = s.ports.roll.map Port.status := by
    rw [← s.ports.statuses_eq]
    exact List.filterMap_map
  rw [size]
  refine Eq.trans alone ?_
  show ({ s with
      listings := (s.listings ++ [Listing.mk s.ports.snapshot []]).set s.listings.length
        ⟨s.ports.snapshot, seen⟩ } : SharedPorts) = _
  rw [all, List.set_append_right _ _ (Nat.le_refl _), Nat.sub_self]
  rfl

/-! ## Calls -/

/-- The phases of a call that writes are a write. -/
theorem write_alone {i : Nat} {uid : String} {data : Bytes} {result : Except PortError Nat}
    {rig : Rig} {notices : List Notice} (seeks : s.writings[i]? = some (.seeking uid data))
    (free : ∀ place ∈ s.ports.find? uid, place ∉ s.traffic.openings)
    (writes : s.traffic.rig.write uid data = (result, rig, notices)) :
    (s.run [.write i, .write i]).1 =
      { s with
        traffic := { s.traffic with watch := s.traffic.watch.withRig rig }
        writings := s.writings.set i (.finished result) } := by
  have goes (s' : SharedPorts) (w : Writing) (hw : s'.writings[i]? = some w) :
      (s'.step (.write i)).1 = (s'.writeOn i w).1 := by simp only [step, hw]
  have put (w : Writing) : (s.setWriting i w).writings[i]? = some w :=
    List.getElem?_set_self (List.getElem?_eq_some_iff.mp seeks).1
  have both : (s.run [.write i, .write i]).1 = ((s.step (.write i)).1.step (.write i)).1 := rfl
  rw [both, goes s _ seeks]
  rw [Rig.write, show s.traffic.rig.ports = s.ports from rfl] at writes
  cases hf : s.ports.find? uid with
  | none =>
    rw [hf] at writes
    cases writes
    simp only [writeOn, hf]
    exact goes _ _ (put _)
  | some place =>
    rw [hf] at writes
    simp only [writeOn, hf]
    rw [goes _ _ (put _)]
    have unlocked : place ∉ s.traffic.openings := free place hf
    have wrote : (s.traffic.step (.write place data)).1 =
        { s.traffic with
          watch := s.traffic.watch.withRig (s.traffic.rig.writeAt place data).2.1 } :=
      congrArg Prod.fst (if_neg unlocked)
    refine (congrArg Prod.fst (if_neg unlocked)).trans ?_
    simp only [setWriting, List.set_set]
    rw [wrote, show s.traffic.rig.writeAt place data = _ from writes]


theorem step_add_of_refused {d : Descriptor} {e : PortError}
    (same : s.ports.add d = (.error e, s.ports)) :
    s.step (.use (.add d)) = (s, [.added d (.error e)]) := by
  have adds : s.step (.use (.add d)) =
      ({ s with
          traffic := { s.traffic with
            watch := s.traffic.watch.withRig { s.traffic.rig with ports := (s.ports.add d).2 } } },
        [.added d (s.ports.add d).1]) := rfl
  rw [adds, same]
  rfl

/-- A call that removes a port takes it out of the set. The port itself stays as it is so far. -/
theorem Kept.step_unlink (h : s.Kept) {call : Nat} {uid : String}
    (hc : s.traffic.removals[call]? = some ⟨uid, .unlinking⟩) :
    (s.step (.use (.advance call))).2 =
        [.removed uid (decide (uid ∈ s.ports.roll.map Port.id))] ∧
      (s.step (.use (.advance call))).1.ports = (s.ports.unlink uid).2 := by
  have told : (s.step (.use (.advance call))).2 = [.removed uid (s.ports.find? uid).isSome] := by
    simp only [step, isForUsers, answer, hc, if_true]
  have known : (s.ports.find? uid).isSome = decide (uid ∈ s.ports.roll.map Port.id) := by
    rw [Bool.eq_iff_iff, h.inOrder.find?_isSome_iff, decide_eq_true_iff]
  have turn := s.turn_step (.use (.advance call))
  rw [told] at turn
  refine ⟨known ▸ told, ?_⟩
  cases turn with
  | removes _ ports _ => exact ports

/-- **The members change only when a port is added or removed.** -/
theorem Turn.of_members_ne (t : Turn s s' es) (h : s.Kept)
    (changes : s'.ports.members ≠ s.ports.members) :
    (∃ d place, .added d (.ok place) ∈ es) ∨ ∃ uid, .removed uid true ∈ es := by
  cases t with
  | adds d ports _ =>
    left
    rcases h.inOrder.add_cases d with ⟨_, _, same⟩ | ⟨_, _, same⟩ | ⟨_, _, added, _⟩
    · exact absurd (by rw [ports, same]) changes
    · exact absurd (by rw [ports, same]) changes
    · exact ⟨d, _, List.mem_singleton.mpr (by rw [added])⟩
  | removes uid ports _ =>
    right
    cases hf : s.ports.find? uid with
    | none => exact absurd (by rw [ports, PortSet.unlink, hf]) changes
    | some place => exact ⟨uid, List.mem_singleton.mpr rfl⟩
  | retires place _ ports _ => exact absurd (by rw [ports]; rfl) changes
  | stays ports _ => exact absurd ports.members changes
  | seeks _ ports _ | notes _ ports _ | sees _ _ ports _ => exact absurd (by rw [ports]) changes

/-! ## The main statement -/

/-- **A set of ports behaves as a list.** Whatever threads and workers have done to the set at the
same time, the calls were answered as if one thread had made them, one after the other, on a list to
which descriptors are added at the end and from which they are taken by id. The members are this
list: their ids are distinct, each is known under its own, and all are managed. From here on, too, a
call that adds a port is refused, and changes nothing, exactly if the descriptor is not in order or
else if its id is taken, and otherwise adds one closed port at the end; a removal leaves the other
ports as they are and in their order, and changes none if the id is unknown; and no other step
changes the members. A listing shows, in order, the members that there are when it begins, each as
it is when the listing looks at it; one that nobody interrupts shows all of them as they are. -/
theorem refines_list (devices : Devices) (steps : List Step) :
    let s := ((start devices).run steps).1
    let es := ((start devices).run steps).2
    let ids := s.ports.roll.map Port.id
    Legal [] es s.descriptors ∧
    s.ports.members.map Member.key = ids ∧ ids.Nodup ∧ (∀ p ∈ s.ports.roll, p.running = true) ∧
    (∀ d,
      (∀ cause, d.fault? = some cause →
        s.step (.use (.add d)) = (s, [.added d (.error (.invalid cause))])) ∧
      (d.Valid → d.uid ∈ ids →
        s.step (.use (.add d)) = (s, [.added d (.error (.duplicateId d.uid))])) ∧
      (d.Valid → d.uid ∉ ids →
        (∃ place, (s.step (.use (.add d))).2 = [.added d (.ok place)]) ∧
        (s.step (.use (.add d))).1.ports.roll = s.ports.roll ++ [{ descriptor := d }])) ∧
    (∀ call uid, s.traffic.removals[call]? = some ⟨uid, .unlinking⟩ →
      let after := s.step (.use (.advance call))
      after.2 = [.removed uid (decide (uid ∈ ids))] ∧
      after.1.ports.ports = s.ports.ports ∧
      after.1.ports.roll = (s.ports.roll.filter fun p => p.id ≠ uid) ∧
      (uid ∉ ids → after.1.ports = s.ports)) ∧
    (∀ st, (s.step st).1.ports.members ≠ s.ports.members →
      (∃ d place, .added d (.ok place) ∈ (s.step st).2) ∨
      ∃ uid, .removed uid true ∈ (s.step st).2) ∧
    (∀ i l, s.listings[i]? = some l → ∃ uids, .noted i uids ∈ es ∧
      l.noted.length = uids.length ∧ l.seen.map PortStatus.uid = uids.take l.seen.length) ∧
    (∀ st i status, .seen i status ∈ (s.step st).2 → ∃ l place p, s.listings[i]? = some l ∧
      l.noted[l.seen.length]? = some place ∧ s.ports.port? place = some p ∧ status = p.status ∧
      (s.step st).1.listings[i]? = some { l with seen := l.seen ++ [status] }) ∧
    s.ports.statuses = s.ports.roll.map Port.status ∧
    ((∀ place ∈ s.ports.snapshot, place ∉ s.traffic.openings) →
      (s.run (.callList :: List.replicate s.ports.size (.list s.listings.length))).1 =
        { s with
          listings := s.listings ++ [⟨s.ports.snapshot, s.ports.roll.map Port.status⟩] }) := by
  intro s es ids
  obtain ⟨kept, legal⟩ : s.Kept ∧ Legal [] es s.descriptors := legal_run devices steps
  have order : s.ports.InOrder := kept.inOrder
  refine ⟨legal, order.ids.symm, ?_, order.running, fun d => ?_, fun call uid hc => ?_,
    fun st => (s.turn_step st).of_members_ne kept, fun i l hl => ?_, fun st i status hx => ?_,
    s.ports.statuses_eq, kept.list_members⟩
  · show (s.ports.roll.map Port.id).Nodup
    rw [order.ids]
    exact order.distinct
  · refine ⟨fun cause fault => step_add_of_refused (add_of_fault fault), fun valid taken =>
      step_add_of_refused (add_of_taken valid (order.find?_isSome_iff.mpr taken)),
      fun valid fresh => ?_⟩
    obtain ⟨added, -, roll⟩ := order.add valid fresh
    refine ⟨⟨s.ports.ports.length, ?_⟩, roll⟩
    rw [← added]
    rfl
  · obtain ⟨told, ports⟩ := kept.step_unlink hc
    refine ⟨told, ?_, ?_, fun unknown => ?_⟩
    · rw [ports, unlink_eq]
    · rw [ports, (order.unlink uid).2]
    · have none : s.ports.find? uid = .none := by
        rw [← Option.not_isSome_iff_eq_none, order.find?_isSome_iff]
        exact unknown
      rw [ports, PortSet.unlink, none]
  · obtain ⟨uids, told, names⟩ := names_run devices steps i l hl
    have same := congrArg List.length names.noted
    rw [List.length_map, List.length_map] at same
    exact ⟨uids, told, same, names.seen⟩
  · rcases s.listings_step st with ⟨-, none⟩ | ⟨-, told⟩ |
      ⟨j, l, place, p, hl, next, port, told, set⟩
    · exact absurd hx (none i status)
    · rw [told] at hx
      cases List.mem_singleton.mp hx
    · rw [told] at hx
      cases List.mem_singleton.mp hx
      refine ⟨l, place, p, hl, next, port, rfl, ?_⟩
      rw [set]
      exact List.getElem?_set_self (List.getElem?_eq_some_iff.mp hl).1

/-- A port is removed from the middle and added again, while the monitor opens the first one; then
the first one is to be removed, and a listing has seen it already. -/
theorem refines_list_readded :
    let d (uid : String) : Descriptor := { uid := uid, device := "/dev/a" }
    let broken : Descriptor := { d "C" with maxLen := 0 }
    let devices : Devices :=
      { terminals := [{ toPort := [1, 2, 3] }]
        links := [(⟨true, [utf8 "dev", utf8 "a"]⟩, .terminal 0)] }
    let removal (call : Nat) (uid : String) : List Step :=
      .use (.callRemove uid) :: List.replicate 3 (.use (.advance call))
    let steps : List Step :=
      ["A", "B", "C", "B"].map (fun uid => .use (.add (d uid))) ++ removal 0 "B" ++
        .crew .callStart :: List.replicate 4 (.crew (.advance 0 true)) ++
        List.replicate 6 (.work ⟨.monitor, 1⟩ fun _ => true) ++ [.use (.add (d "B"))] ++
        removal 1 "X" ++ [.use (.callRemove "A"), .callList, .list 0]
    ∃ s es, (start devices).run steps = (s, es) ∧ Legal [] es [d "A", d "C", d "B"] ∧
      s.ports.roll.map Port.status =
        [⟨"A", "/dev/a", true⟩, ⟨"C", "/dev/a", false⟩, ⟨"B", "/dev/a", false⟩] ∧
      s.step (.use (.add broken)) = (s, [.added broken (.error (.invalid (.maxLen "C" 0)))]) ∧
      s.step (.use (.add (d "C"))) = (s, [.added (d "C") (.error (.duplicateId "C"))]) ∧
      (s.step (.use (.add (d "D")))).1.ports.roll = s.ports.roll ++ [{ descriptor := d "D" }] ∧
      (s.step (.use (.advance 2))).2 = [.removed "A" true] ∧
      (s.step (.use (.advance 2))).1.ports.roll = (s.ports.roll.filter fun p => p.id ≠ "A") ∧
      (s.run (.callList :: List.replicate s.ports.size (.list s.listings.length))).1 =
        { s with listings := s.listings ++ [⟨[0, 2, 3], s.ports.roll.map Port.status⟩] } := by
  intro d broken devices removal steps
  have descriptors : ((start devices).run steps).1.descriptors = [d "A", d "C", d "B"] := by decide
  have ids : ((start devices).run steps).1.ports.roll.map Port.id = ["A", "C", "B"] := by decide
  have places : ((start devices).run steps).1.ports.snapshot = [0, 2, 3] := by decide
  have shown : ((start devices).run steps).1.ports.roll.map Port.status =
      [⟨"A", "/dev/a", true⟩, ⟨"C", "/dev/a", false⟩, ⟨"B", "/dev/a", false⟩] := by decide
  have called : ((start devices).run steps).1.traffic.removals[2]? = some ⟨"A", .unlinking⟩ := by
    decide
  have free : ((start devices).run steps).1.traffic.openings = [] := by decide
  obtain ⟨legal, -, -, -, adds, removes, -, -, -, -, alone⟩ := refines_list devices steps
  cases hrun : (start devices).run steps with
  | mk s es =>
    rw [hrun] at descriptors ids places shown called free legal adds removes alone
    dsimp only at legal descriptors ids adds removes alone
    rw [descriptors] at legal
    rw [ids] at adds removes
    rw [places] at alone
    obtain ⟨told, -, roll, -⟩ := removes 2 "A" called
    exact ⟨s, es, rfl, legal, shown, (adds broken).1 _ (by decide),
      (adds (d "C")).2.1 (by decide) (by decide), ((adds (d "D")).2.2 (by decide) (by decide)).2,
      told, roll, alone (by rw [free]; decide)⟩

end SharedPorts

end Fieldbus
