import Fieldbus.Gateway.Station
import Fieldbus.Proofs.Delivery
import Fieldbus.Proofs.Serial.Move

/-!
# Ports that are registered

A gateway registers its ports one after the other and makes an endpoint for each. This succeeds if
the bus can be reached, the descriptors are in order and no uid comes twice.

* `PortSet.Registered`: a set to which some ports were added, and nothing else happened.
* `SerialGateway.Manned`: an endpoint for every port, which listens.
* **`SerialGateway.registerAll_ok`**: the ports are registered, and have their endpoints.
-/

namespace Fieldbus

theorem eq_ok_of_toBool {α ε : Type} (x : Except ε α) (other : α) (ok : x.toBool = true) :
    x = .ok (x.toOption.getD other) := by
  cases x with
  | error e => cases ok
  | ok a => rfl

/-- A set to which ports were added, one after the other. -/
structure PortSet.Registered (ds : List Descriptor) (s : PortSet) : Prop where
  /-- The ports, which are closed. -/
  ports : s.ports = ds.map fun d => { descriptor := d }
  /-- Every port is found under its id. -/
  found : ∀ i d, ds[i]? = some d → s.find? d.uid = some i
  /-- No other port is found. -/
  others : ∀ uid, uid ∉ ds.map Descriptor.uid → s.find? uid = none

theorem PortSet.Registered.empty : Registered [] {} where
  ports := rfl
  found _ _ h := absurd h (by simp)
  others _ _ := rfl

theorem PortSet.Registered.add {ds : List Descriptor} {s : PortSet} (h : Registered ds s)
    {d : Descriptor} (valid : d.Valid) (fresh : d.uid ∉ ds.map Descriptor.uid) :
    (s.add d).1 = .ok ds.length ∧ Registered (ds ++ [d]) (s.add d).2 := by
  have hlen : s.ports.length = ds.length := by rw [h.ports, List.length_map]
  have hadd := PortSet.add_of_fresh valid (h.others d.uid fresh)
  have hfind : ∀ uid, (s.add d).2.find? uid =
      (s.find? uid).or (if d.uid = uid then some ds.length else none) := by
    intro uid
    rw [hadd]
    simp only [PortSet.find?, List.find?_append, List.find?_singleton, hlen]
    cases s.members.find? fun m => m.key = uid <;> by_cases hu : d.uid = uid <;> simp [hu]
  refine ⟨by rw [hadd, hlen], ?_, fun i x hx => ?_, fun uid hu => ?_⟩
  · rw [hadd, h.ports, List.map_append]
    rfl
  · rw [hfind]
    rcases Nat.lt_or_ge i ds.length with hi | hi
    · rw [List.getElem?_append_left hi] at hx
      rw [h.found i x hx, Option.some_or]
    · rw [List.getElem?_append_right hi, List.getElem?_singleton] at hx
      split at hx
      · next h0 =>
        obtain rfl := Option.some.inj hx
        rw [h.others _ fresh, Option.none_or, if_pos rfl]
        congr 1
        omega
      · exact absurd hx (by simp)
  · rw [List.map_append, List.mem_append, not_or] at hu
    rw [hfind, h.others uid hu.1, Option.none_or, if_neg fun he => hu.2 (by simp [he])]

namespace SerialGateway

/-- The endpoints of ports, which were made for them and listen. -/
def Manned (bus : Addresses) (ds : List Descriptor) (es : List Endpoint) : Prop :=
  es.length = ds.length ∧ ∀ (i : Nat) (d : Descriptor) (e : Endpoint),
    ds[i]? = some d → es[i]? = some e →
      ∃ e₀, Endpoint.create d.uid bus (some fun _ _ => {}) = .ok e₀ ∧ e = (e₀.listen true).2.1

/-- **The ports are registered, and have their endpoints.** -/
theorem registerAll_ok {bus : Addresses} (south : Url.connect bus.south = .ok ())
    (north : Url.connect bus.north = .ok ()) (ds : List Descriptor) :
    ∀ (before : List Descriptor) (g : SerialGateway), g.rig.ports.Registered before →
      (∀ d ∈ ds, d.Valid) → ((before ++ ds).map Descriptor.uid).Nodup →
      ∃ g' es, registerAll bus g ds = .ok (g', es) ∧ g'.rig.devices = g.rig.devices ∧
        g'.rig.ports.Registered (before ++ ds) ∧ Manned bus ds es := by
  induction ds with
  | nil =>
    intro before g hg _ _
    refine ⟨g, [], rfl, rfl, by rwa [List.append_nil], rfl, fun i d e hd => ?_⟩
    exact absurd hd (by simp)
  | cons d ds ih =>
    intro before g hg valid distinct
    obtain ⟨e, he⟩ := Endpoint.create_ok south north d.uid fun _ _ => {}
    have fresh : d.uid ∉ before.map Descriptor.uid := by
      rw [List.map_append, List.map_cons, List.nodup_append] at distinct
      intro hmem
      exact distinct.2.2 _ hmem _ (by simp) rfl
    obtain ⟨hok, hreg⟩ := hg.add (valid d (by simp)) fresh
    -- the gateway after this port, from which the others are registered
    let g₁ : SerialGateway := { g with
      rig := { g.rig with ports := (g.rig.ports.add d).2 }
      pacers := g.pacers ++ [(d.uid, { minDelay := d.minDelay })] }
    have hg₁ : g.register d = .ok g₁ := by
      unfold register
      rw [show g.rig.ports.add d = (.ok before.length, (g.rig.ports.add d).2) from
        Prod.ext hok rfl]
    obtain ⟨g', es, hall, hdev, hports, hsize, hes⟩ := ih (before ++ [d]) g₁ hreg
      (fun x hx => valid x (by simp [hx])) (by rwa [List.append_assoc])
    refine ⟨g', (e.listen true).2.1 :: es, ?_, hdev, by rwa [List.append_assoc] at hports,
      by rw [List.length_cons, List.length_cons, hsize], fun i x e' hx he' => ?_⟩
    · unfold registerAll
      rw [he, hg₁]
      show (registerAll bus g₁ ds >>= fun r => pure (r.1, (e.listen true).2.1 :: r.2)) = _
      rw [hall]
      rfl
    · cases i with
      | zero =>
        obtain rfl := Option.some.inj hx
        obtain rfl := Option.some.inj he'
        exact ⟨e, he, rfl⟩
      | succ i => exact hes i x e' hx he'

end SerialGateway

end Fieldbus
