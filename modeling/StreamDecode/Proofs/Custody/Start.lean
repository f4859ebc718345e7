import StreamDecode.Proofs.Custody.Session

/-!
# A start acquires all or nothing

* `Trace.Accounts`   what is handed out and claimed in the course of a trace is given back once, but
                     for what is left;
* `Path.accounts`    a path from empty hands leaves what is held at its end;
* `Session.start_all_or_nothing`   a start that fails or faults leaves nothing; a session leaves its
                     context, its ring, and, if it runs on a device, the device and the staging frame.
-/

namespace StreamDecode

/-- each resource is handed out once; what is handed out or claimed is given back once, and not
before, but for `resources` and `keys`, which are left -/
structure Trace.Accounts (t : Trace) (resources : Multiset Resource) (keys : Multiset String) :
    Prop where
  distinct : t.acquired.Nodup
  resources : (↑t.acquired : Multiset Resource) = ↑t.released + resources
  keys : (↑t.claims : Multiset String) = ↑t.unclaims + keys
  /-- at any moment, what was given back had been handed out or claimed before -/
  inOrder : ∀ s r, t = s ++ r → (↑s.released : Multiset Resource) ≤ ↑s.acquired ∧
    (↑s.unclaims : Multiset String) ≤ ↑s.claims

theorem Path.accounts {scope : String} {others : Set String} {n n' : Issued} {t : Trace}
    {held : Holdings} (h : Path scope others ⟨n, 0⟩ t ⟨n', held⟩) :
    t.Accounts held.resources held.keys where
  distinct := h.nodup_acquired
  resources := by
    rw [h.resources_add, Holdings.resources_zero, add_zero]
  keys := by
    rw [h.keys_add, Holdings.keys_zero, add_zero]
  inOrder s r hsr := by
    subst hsr
    have hres := h.released_le
    have hkeys := h.unclaims_le
    rw [Holdings.resources_zero, add_zero] at hres
    rw [Holdings.keys_zero, add_zero] at hkeys
    exact ⟨hres, hkeys⟩

namespace Session

variable {σ κ : Type}

/-- the resources that a session has to give back -/
def resources (s : Session κ) : Multiset Resource :=
  {.context s.context.id} + (↑(s.device.toList.map fun d => Resource.device d.id) +
    (↑(s.path.toList.map fun staging => Resource.frame staging.frame.id) +
      ↑(s.ring.slots.map fun f => Resource.frame f.id)))

def keys (s : Session κ) : List String := s.claims.map (·.key)

theorem resources_holdings (s : Session κ) (scope : String) :
    (s.holdings scope).resources = s.resources := by
  have hdevice : (deviceHoldings s.device scope).resources =
      ↑(s.device.toList.map fun d => Resource.device d.id) := by
    cases s.device <;> rfl
  have hpath : s.path.holdings.resources =
      ↑(s.path.toList.map fun staging => Resource.frame staging.frame.id) := by
    cases s.path <;> rfl
  simp only [holdings, Holdings.resources_add, Holdings.resources_singleton, hdevice, hpath,
    Holdings.resources_ofFrames]
  rfl

theorem keys_holdings {s : Session κ} {scope : String} (hs : s.Sound scope) :
    (s.holdings scope).keys = ↑s.keys := by
  have hdevice : (deviceHoldings s.device scope).keys = ↑(s.deviceKey? scope).toList := by
    rw [deviceKey?]
    cases s.device <;> rfl
  have hpath : s.path.holdings.keys = 0 := by
    cases s.path <;> rfl
  rw [keys, hs.claims, ← Multiset.coe_add]
  simp only [holdings, Holdings.keys_add, Holdings.keys_singleton, Holdings.keys_context, hdevice,
    hpath, Holdings.keys_ofFrames, add_zero]

theorem start_all_or_nothing (engine : Engine σ κ) (config : SessionConfig) (w : World σ) :
    match (start engine config w).value with
      | .error fault =>
        (fault = .capacityOverflow ∧
          Ring.Overflows engine.frameSize config.bufferCount.toNat) ∧
          (start engine config w).events.Accounts 0 0 ∧
          ∀ k, k ∈ (start engine config w).world.registry ↔ k ∈ w.registry
      | .ok (.error _) =>
        (start engine config w).events.Accounts 0 0 ∧
          ∀ k, k ∈ (start engine config w).world.registry ↔ k ∈ w.registry
      | .ok (.ok s) =>
        (start engine config w).events.Accounts s.resources ↑s.keys ∧
          (∀ k, k ∈ (start engine config w).world.registry ↔ k ∈ w.registry ∨ k ∈ s.keys) ∧
          (∀ k ∈ s.keys, k ∉ w.registry) ∧
          s.ring.slots.length = config.bufferCount.toNat ∧
          s.device.isSome = s.deviceKind.isSome ∧ s.path.isSome = s.deviceKind.isSome ∧
          s.keys = (if s.backend = .vendor then [backendKey engine.scope s.decoder] else []) ++
            (s.deviceKind.map fun kind => deviceKey engine.scope kind.name).toList := by
  obtain ⟨held, hpath, hfits, hpost⟩ := ensures_start engine config w (.vacant w)
  have haccounts := hpath.accounts
  have hregistry : held = 0 → ∀ k, k ∈ (start engine config w).world.registry ↔ k ∈ w.registry := by
    rintro rfl k
    rw [hfits.registry]
    simp
  rcases hresult : (start engine config w).value with fault | cause | s
  · rw [hresult] at hpost
    obtain ⟨rfl, hoverflows, hfault⟩ := hpost
    exact ⟨⟨hfault, hoverflows⟩, haccounts, hregistry rfl⟩
  · rw [hresult] at hpost
    obtain rfl : held = 0 := hpost
    exact ⟨haccounts, hregistry rfl⟩
  · rw [hresult] at hpost
    obtain ⟨rfl, hs, hlen⟩ := hpost
    have hkeys := keys_holdings hs
    rw [resources_holdings, hkeys] at haccounts
    refine ⟨haccounts, fun k => ?_, fun k hk => ?_, hlen, ?_, ?_, ?_⟩
    · rw [hfits.registry, hkeys]
      rfl
    · exact hfits.exclusive.apart k (hkeys ▸ hk)
    · rw [deviceKind, Option.isSome_map]
    · rw [deviceKind, Option.isSome_map, hs.staging]
    · rw [keys, hs.claims, key?, deviceKey?, deviceKind, BackendKind.key?, Option.map_map]
      congr 1
      split <;> rfl

end Session

end StreamDecode
