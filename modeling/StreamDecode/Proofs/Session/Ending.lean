import StreamDecode.Engine.Synthetic
import StreamDecode.Proofs.Custody.Start
import StreamDecode.Proofs.Session.Run

/-!
# From the start of a session to its end

* `Session.farewell`   what a session gives back, in order;
* `events_finish`, `mem_finish`   the end of a session is its farewell, and frees its keys and no
                 others;
* `lifetime`     from the start on, calls touch no resource and no key, the end gives back what the
                 start acquired, and nothing is left.
-/

namespace StreamDecode

variable {σ κ : Type}

open Act

/-! ## the end -/

section
variable (engine : Engine σ κ)

theorem TransferPath.events_dispose (path : TransferPath) (w : World σ) :
    (path.dispose engine w).events =
      path.toList.map fun staging => .release (.frame staging.frame.id) := by
  cases path <;> rfl

theorem TransferPath.registry_dispose (path : TransferPath) (w : World σ) :
    (path.dispose engine w).world.registry = w.registry := by
  cases path <;> rfl

theorem events_disposeDevice (device : Option BoundDevice) (w : World σ) :
    (disposeDevice engine device w).events =
      device.toList.map fun d => .release (.device d.id) := by
  cases device <;> rfl

theorem registry_disposeDevice (device : Option BoundDevice) (w : World σ) :
    (disposeDevice engine device w).world.registry = w.registry := by
  cases device <;> rfl

end

namespace Session

/-- the keys of a session: that of a vendor backend, then that of its device -/
def ownKeys (s : Session κ) (scope : String) : List String :=
  (if s.backend = .vendor then [backendKey scope s.decoder] else []) ++
    (s.deviceKind.map fun kind => deviceKey scope kind.name).toList

/-- what a session gives back at its end, in order -/
def farewell (s : Session κ) (scope : String) (announced : Bool) : Trace :=
  (if announced then [.notice (.destroying s.decoder)] else []) ++
    (s.path.toList.map fun staging => .release (.frame staging.frame.id)) ++
    (s.device.toList.map fun d => .release (.device d.id)) ++
    ((s.ownKeys scope).map fun k => .notice (.unclaimed k)) ++
    .release (.context s.context.id) :: s.ring.slots.map fun f => .release (.frame f.id)

/-- ends a session, and says so first if `announced` -/
def finish (engine : Engine σ κ) (s : Session κ) (announced : Bool) : Act σ Unit :=
  if announced then s.destroy engine else s.dispose engine

variable {s s' : Session κ} {scope : String}

theorem Sound.keys_eq (hs : s.Sound scope) : s.claims.map (·.key) = s.ownKeys scope := by
  rw [hs.claims, ownKeys, key?, deviceKey?, deviceKind, BackendKind.key?, Option.map_map]
  congr 1
  split <;> rfl

/-- the farewell of a session is settled from its start on -/
theorem Continues.farewell (h : Continues s s') (announced : Bool) :
    s'.farewell scope announced = s.farewell scope announced := by
  have hstaging : s'.path.toList.map (fun staging => Event.release (.frame staging.frame.id)) =
      s.path.toList.map fun staging => Event.release (.frame staging.frame.id) := by
    have hids := congrArg (fun o => o.toList.map fun id => Event.release (.frame id)) h.staging
    simpa [Option.toList_map, Function.comp_def] using hids
  have hslots : s'.ring.slots.map (fun f => Event.release (.frame f.id)) =
      s.ring.slots.map fun f => Event.release (.frame f.id) := by
    have hids := congrArg (List.map fun id => Event.release (.frame id)) h.slots
    rwa [List.map_map, List.map_map] at hids
  rw [Session.farewell, hstaging, hslots, h.device, h.context, h.decoder, ownKeys, h.backend,
    h.decoder, deviceKind, h.device]
  rfl

variable (engine : Engine σ κ)

theorem events_dispose (hs : s.Sound engine.scope) (w : World σ) :
    (s.dispose engine w).events = s.farewell engine.scope false := by
  have hclaims : (s.claims.map fun c => Event.notice (.unclaimed c.key)) =
      (s.ownKeys engine.scope).map fun k => .notice (.unclaimed k) := by
    rw [← hs.keys_eq, List.map_map]
    rfl
  simp only [dispose, events_bind, TransferPath.events_dispose, events_disposeDevice,
    unclaimAll_apply, hclaims, farewell, release, releaseFrames]
  simp

theorem events_finish (hs : s.Sound engine.scope) (announced : Bool) (w : World σ) :
    (s.finish engine announced w).events = s.farewell engine.scope announced := by
  cases announced with
  | false => exact events_dispose engine hs w
  | true =>
    show (s.destroy engine w).events = _
    rw [destroy, events_bind, events_dispose engine hs]
    rfl

theorem mem_dispose (hs : s.Sound engine.scope) (w : World σ) (k : String) :
    k ∈ (s.dispose engine w).world.registry ↔ k ∈ w.registry ∧ k ∉ s.ownKeys engine.scope := by
  simp only [dispose, world_bind, unclaimAll_apply, release, releaseFrames, mem_foldl_release,
    registry_disposeDevice, TransferPath.registry_dispose, hs.keys_eq]

/-- the end of a session frees its keys and no others -/
theorem mem_finish (hs : s.Sound engine.scope) (announced : Bool) (w : World σ) (k : String) :
    k ∈ (s.finish engine announced w).world.registry ↔
      k ∈ w.registry ∧ k ∉ s.ownKeys engine.scope := by
  cases announced with
  | false => exact mem_dispose engine hs w k
  | true => exact mem_dispose engine hs _ k

theorem ensures_finish {others : Set String} (hs : s.Sound engine.scope) (announced : Bool) :
    Ensures engine.scope others (s.finish engine announced) (s.holdings engine.scope)
      fun _ held' => held' = 0 := by
  cases announced with
  | false => exact ensures_dispose engine hs
  | true => exact ensures_destroy engine hs

/-! ## the lifetime -/

section
variable {config : SessionConfig} {w : World σ}

theorem sound_of_start (hstart : (start engine config w).value = .ok (.ok s)) :
    s.Sound engine.scope ∧ s.ring.slots.length = config.bufferCount.toNat := by
  obtain ⟨held, -, -, hpost⟩ := ensures_start engine config w (.vacant w)
  rw [hstart] at hpost
  exact hpost.2

/-- what was acquired between the start of a session and its end was given back -/
theorem accounts_lifetime (hstart : (start engine config w).value = .ok (.ok s))
    (calls : List Call) (announced : Bool) :
    ((start engine config w).events ++
      (s.perform engine calls (start engine config w).world).events ++
      s.farewell engine.scope announced).Accounts 0 0 := by
  obtain ⟨held, hpath, hfits, hpost⟩ := ensures_start engine config w (.vacant w)
  rw [hstart] at hpost
  obtain ⟨rfl, hs, -⟩ := hpost
  obtain ⟨held, hpath', hfits', ⟨answers, s', -, -, hcontinues⟩, rfl⟩ :=
    (idles_perform engine hs.cursor calls).keeps _ hfits
  rw [← hcontinues.holdings] at hpath' hfits'
  obtain ⟨held, hpath'', -, rfl⟩ := ensures_finish engine (hcontinues.sound hs) announced _ hfits'
  rw [events_finish engine (hcontinues.sound hs), hcontinues.farewell] at hpath''
  rw [hcontinues.holdings] at hpath' hpath''
  exact ((hpath.append hpath').append hpath'').accounts

end

/-- calls on a session touch no resource and no key; its end, in whatever world it comes, is its
farewell and frees its keys; nothing is left then of what was acquired since the start -/
theorem lifetime (engine : Engine σ κ) (config : SessionConfig) (w : World σ) (s : Session κ)
    (hstart : (start engine config w).value = .ok (.ok s)) (calls : List Call) (announced : Bool) :
    let started := (start engine config w).world
    let run := s.perform engine calls started
    ∃ answers s', run.value = .ok (answers, s') ∧ answers.length = calls.length ∧
      (∀ e ∈ run.events, e.isDecoding) ∧ run.world.registry = started.registry ∧
      (∀ v, (s'.finish engine announced v).events = s.farewell engine.scope announced ∧
        ∀ k, k ∈ (s'.finish engine announced v).world.registry ↔
          k ∈ v.registry ∧ k ∉ s.ownKeys engine.scope) ∧
      s.path.isSome = s.deviceKind.isSome ∧ s.device.isSome = s.deviceKind.isSome ∧
      s.ring.slots.length = config.bufferCount.toNat ∧
      ((start engine config w).events ++ run.events ++
        s.farewell engine.scope announced).Accounts 0 0 := by
  obtain ⟨hs, hlen⟩ := sound_of_start engine hstart
  obtain ⟨-, hregistry, -, answers, s', hvalue, hanswers, hcontinues⟩ :=
    idles_perform engine hs.cursor calls (start engine config w).world
  have hs' := hcontinues.sound hs
  refine ⟨answers, s', hvalue, hanswers, leaves_perform engine s calls _, hregistry,
    fun v => ⟨?_, fun k => ?_⟩, ?_, ?_, hlen, accounts_lifetime engine hstart calls announced⟩
  · rw [events_finish engine hs', hcontinues.farewell]
  · rw [mem_finish engine hs', ← hs'.keys_eq, hcontinues.claims, hs.keys_eq]
  · rw [deviceKind, Option.isSome_map, hs.staging]
  · rw [deviceKind, Option.isSome_map]

/-- a software session on a vendor backend that decodes on a device -/
theorem lifetime_nvmpi :
    let engine := Synthetic.engine "s"
    let config : SessionConfig := { width := 2, height := 2, perfOptions := ⟨0⟩ }
    let w : World Synthetic.Ledger := ⟨.empty,
      .fresh [⟨"h264_nvmpi", true, Synthetic.deviceModes [(.vaapi, .vaapi)]⟩] [], .none⟩
    let calls := [.decode (1 :: List.replicate 64 0) 1, .nextFrame true, .reset]
    ∃ s, (start engine config w).value = .ok (.ok s) ∧
      ∃ answers s', (s.perform engine calls (start engine config w).world).value =
          .ok (answers, s') ∧
        ∀ v, (s'.finish engine true v).events =
          [.notice (.destroying "h264_nvmpi"), .release (.frame 0), .release (.device 0),
            .notice (.unclaimed "s/backend:h264_nvmpi"), .notice (.unclaimed "s/device:vaapi"),
            .release (.context 0), .release (.frame 1), .release (.frame 2)] := by
  refine ⟨_, rfl, ?_⟩
  obtain ⟨answers, s', hrun, -, -, -, hfinish, -⟩ := lifetime (Synthetic.engine "s")
    { width := 2, height := 2, perfOptions := ⟨0⟩ }
    ⟨.empty, .fresh [⟨"h264_nvmpi", true, Synthetic.deviceModes [(.vaapi, .vaapi)]⟩] [], .none⟩
    _ rfl [.decode (1 :: List.replicate 64 0) 1, .nextFrame true, .reset] true
  exact ⟨answers, s', hrun, fun v => (hfinish v).1⟩

end Session

end StreamDecode
