import StreamDecode.Proofs.Backend.Negotiation
import StreamDecode.Proofs.Registry.Keys
import StreamDecode.Proofs.Session.Ending

/-!
# Devices in use

A negotiation passes over the modes whose device is in use, and asks for the others in turn.  Devices
of one kind exclude each other, and those of two kinds do not, as long as one of the kinds has a name
of its own: all others have one key.

* `DeviceKind.name_eq_iff`   the kinds that have one name;
* `InUse`                    the device keys of a scope are those of some devices;
* `InUse.start`              a session that starts adds its device to those;
* `InUse.contends`           the modes that a negotiation comes to, and those it passes over;
* `device_contention`        both, on any engine;
* `unnamed_contention`       a device keeps another one busy, although it is of a different kind.
-/

namespace StreamDecode

variable {σ κ : Type}

/-! ## names of devices -/

namespace DeviceKind

/-- the kind has no name of its own -/
def isOther (kind : DeviceKind) : Bool := decide (kind ∉ named)

/-- devices of the two kinds are not in use at one time -/
def excludes (t u : DeviceKind) : Bool := t == u || t.isOther && u.isOther

theorem name_of_isOther {kind : DeviceKind} (h : kind.isOther) : kind.name = "unknown" := by
  cases kind with
  | other raw => rfl
  | _ => exact absurd h (by decide)

theorem name_ne_unknown : ∀ kind ∈ named, kind.name ≠ "unknown" := by decide

theorem name_inj_named : ∀ t ∈ named, ∀ u ∈ named, t.name = u.name → t = u := by decide

theorem name_eq_iff (t u : DeviceKind) : t.name = u.name ↔ t.excludes u := by
  have hother : ∀ {kind : DeviceKind}, kind ∉ named → kind.name = "unknown" := fun h =>
    name_of_isOther (decide_eq_true h)
  rw [excludes, Bool.or_eq_true, Bool.and_eq_true, beq_iff_eq, isOther, isOther,
    decide_eq_true_iff, decide_eq_true_iff]
  constructor
  · intro h
    by_cases ht : t ∈ named
    · by_cases hu : u ∈ named
      · exact .inl (name_inj_named t ht u hu h)
      · exact absurd (h.trans (hother hu)) (name_ne_unknown t ht)
    · by_cases hu : u ∈ named
      · exact absurd (h.symm.trans (hother ht)) (name_ne_unknown u hu)
      · exact .inr ⟨ht, hu⟩
  · rintro (rfl | ⟨ht, hu⟩)
    · rfl
    · rw [hother ht, hother hu]

end DeviceKind

theorem deviceKey_inj (scope name name' : String) :
    deviceKey scope name = deviceKey scope name' ↔ name = name' := by
  refine ⟨fun h => ?_, fun h => h ▸ rfl⟩
  have hlist := congrArg String.toList h
  rw [toList_deviceKey, toList_deviceKey, List.append_cancel_left_eq] at hlist
  exact String.toList_inj.1 (List.append_cancel_left (List.cons.inj hlist).2)

/-! ## keys in use -/

/-- of the device keys of a scope, a registry has those of devices of these kinds -/
def InUse (scope : String) (held : List DeviceKind) (r : Registry) : Prop :=
  ∀ key ∈ deviceKeys scope, key ∈ r ↔ ∃ t ∈ held, key = deviceKey scope t.name

section
variable {scope : String} {held : List DeviceKind} {r : Registry}

theorem InUse.mem_iff (h : InUse scope held r) (mode : HardwareMode) :
    mode.key scope ∈ r ↔ held.any (·.excludes mode.device) := by
  rw [HardwareMode.key, h _ ⟨_, rfl⟩, List.any_eq_true]
  refine exists_congr fun t => and_congr_right fun _ => ?_
  rw [deviceKey_inj, eq_comm, DeviceKind.name_eq_iff]

theorem InUse.cons (h : InUse scope held r) (kind : DeviceKind) :
    InUse scope (kind :: held) (r.plus (some (deviceKey scope kind.name))) := by
  intro key hkey
  rw [Registry.mem_plus, h key hkey]
  simp [eq_comm, or_comm]

end

/-! ## negotiations -/

/-- the device of a mode that a negotiation comes to, and whether it is in use; a device that is not
is asked for -/
def Event.visit? : Event → Option (DeviceKind × Bool)
  | notice (.deviceBusy kind _ _) => some (kind, true)
  | deviceCreation _ mode _ => some (mode.device, false)
  | notice _ | lookup _ _ | listing _ | opening _ _ _ _ | frameAllocation _ | submission _ _
  | reception _ _ | flush | transfer _ _ _ | release _ => none

/-- what a negotiation would come to if no device could be created -/
def visits (held : List DeviceKind) (modes : List HardwareMode) : List (DeviceKind × Bool) :=
  (modes.filter (·.takesDevice)).map fun mode => (mode.device, held.any (·.excludes mode.device))

section
variable {held : List DeviceKind} {mode : HardwareMode} {modes : List HardwareMode}

theorem visits_of_other (h : ¬mode.takesDevice) : visits held (mode :: modes) = visits held modes := by
  rw [visits, List.filter_cons_of_neg h]
  rfl

theorem visits_of_takes (h : mode.takesDevice) : visits held (mode :: modes) =
    (mode.device, held.any (·.excludes mode.device)) :: visits held modes := by
  rw [visits, List.filter_cons_of_pos h]
  rfl

end

/-- a negotiation came in turn to what is `due`, up to the mode that it got a device for -/
structure Step.Contends (scope : String) (held : List DeviceKind) (due : List (DeviceKind × Bool))
    (x : Step σ (Option Accelerator)) : Prop where
  inTurn : x.events.filterMap Event.visit? <+: due
  exhausted : x.value = none → x.events.filterMap Event.visit? = due
  found : ∀ a ∈ x.value, (x.events.filterMap Event.visit?).getLast? = some (a.deviceKind, false)
  inUse : InUse scope ((x.value.map (·.deviceKind)).toList ++ held) x.world.registry

section
variable {engine : Engine σ κ} {scope : String} {held : List DeviceKind}

theorem Step.Contends.prepend {due : List (DeviceKind × Bool)} {visit : DeviceKind × Bool}
    {x : Step σ (Option Accelerator)} {t : Trace} (hx : x.Contends scope held due)
    (ht : t.filterMap Event.visit? = [visit]) :
    Step.Contends scope held (visit :: due) ⟨x.value, t ++ x.events, x.world⟩ := by
  have hvisits : (t ++ x.events).filterMap Event.visit? =
      visit :: x.events.filterMap Event.visit? := by
    rw [List.filterMap_append, ht, List.singleton_append]
  refine ⟨?_, fun hnone => ?_, fun a ha => ?_, hx.inUse⟩
  · show (t ++ x.events).filterMap Event.visit? <+: _
    rw [hvisits]
    exact (List.prefix_cons_inj visit).2 hx.inTurn
  · show (t ++ x.events).filterMap Event.visit? = _
    rw [hvisits, hx.exhausted hnone]
  · show ((t ++ x.events).filterMap Event.visit?).getLast? = _
    rw [hvisits, List.getLast?_cons, hx.found a ha]
    rfl

theorem InUse.contends (decoder : String) (modes : List HardwareMode) {w : World σ}
    (h : InUse engine.scope held w.registry) :
    (negotiate engine decoder modes w).Contends engine.scope held (visits held modes) := by
  induction modes generalizing w with
  | nil => exact ⟨List.prefix_refl [], fun _ => rfl, by rintro a ⟨⟩, h⟩
  | cons mode rest ih =>
    by_cases htakes : mode.takesDevice
    · rw [visits_of_takes htakes]
      by_cases hkey : mode.key engine.scope ∈ w.registry
      · rw [negotiate_busy htakes hkey, (h.mem_iff mode).1 hkey]
        exact (ih h).prepend (t := [_]) rfl
      · have hfree : held.any (·.excludes mode.device) = false := by
          rwa [h.mem_iff, Bool.not_eq_true] at hkey
        rw [hfree]
        rcases hcreate : engine.createDevice decoder mode w.engine with ⟨cause | _, s⟩
        · -- the claim is given back, so that the next mode finds the registry as it was
          rw [negotiate_refused htakes hkey hcreate]
          exact (ih (w := { w with engine := s }) h).prepend rfl
        · rw [negotiate_created htakes hkey hcreate]
          refine ⟨List.prefix_append [_] _, by rintro ⟨⟩, ?_, h.cons mode.device⟩
          rintro a ⟨⟩
          rfl
    · rw [negotiate_other htakes, visits_of_other htakes]
      exact ih h

/-! ## sessions -/

theorem Session.deviceKey_mem_keys {s : Session κ} (hs : s.Sound scope) (name : String) :
    deviceKey scope name ∈ s.keys ↔ ∃ t ∈ s.deviceKind, deviceKey scope name = deviceKey scope t.name := by
  have hbackend : deviceKey scope name ∉
      (if s.backend = .vendor then [backendKey scope s.decoder] else []) := by
    split
    · rw [List.mem_singleton]
      exact (backendKey_ne_deviceKey scope s.decoder name).symm
    · exact List.not_mem_nil
  rw [Session.keys, hs.keys_eq, Session.ownKeys, List.mem_append, or_iff_right hbackend]
  simp [eq_comm]

/-- a session that starts adds its device to those in use -/
theorem InUse.start {config : SessionConfig} {w : World σ} {s : Session κ}
    (h : InUse engine.scope held w.registry)
    (hstart : (Session.start engine config w).value = .ok (.ok s)) :
    InUse engine.scope (s.deviceKind.toList ++ held)
      (Session.start engine config w).world.registry := by
  obtain ⟨_, -, hfits, hpost⟩ := Session.ensures_start engine config w (.vacant w)
  rw [hstart] at hpost
  obtain ⟨rfl, hs, -⟩ := hpost
  rintro key ⟨kind, rfl⟩
  rw [hfits.registry, Session.keys_holdings hs, Multiset.mem_coe, Session.deviceKey_mem_keys hs,
    Set.mem_ofPred_eq, h _ ⟨kind, rfl⟩, or_comm]
  simp only [List.mem_append, Option.mem_toList, or_and_right, exists_or, Option.mem_def]

/-- a session adds its device to those in use, and so does a negotiation.  It comes in turn to the modes
that take a device, up to the first that one is created for: it passes over those whose device is
excluded by one in use, and asks for the others -/
theorem device_contention (engine : Engine σ κ) (held : List DeviceKind) (w : World σ)
    (h : InUse engine.scope held w.registry) :
    (∀ config s, (Session.start engine config w).value = .ok (.ok s) →
      InUse engine.scope (s.deviceKind.toList ++ held)
        (Session.start engine config w).world.registry) ∧
    ∀ decoder modes,
      let step := negotiate engine decoder modes w
      let visited := step.events.filterMap Event.visit?
      visited <+: visits held modes ∧ (step.value = none → visited = visits held modes) ∧
        (∀ a ∈ step.value, visited.getLast? = some (a.deviceKind, false)) ∧
        InUse engine.scope ((step.value.map (·.deviceKind)).toList ++ held) step.world.registry := by
  refine ⟨fun config s hstart => h.start hstart, fun decoder modes => ?_⟩
  have hstep := h.contends decoder modes
  exact ⟨hstep.inTurn, hstep.exhausted, hstep.found, hstep.inUse⟩

end

/-! ## the synthetic engine -/

namespace Synthetic

/-- the decoder runs on a device of a kind without a name -/
def unnamedWorld : World Ledger :=
  ⟨.empty, .fresh [⟨"h264", true, deviceModes [(.other 1, .nv12)]⟩] [], .none⟩

/-- the first device is of another kind than that in use, and the third of the same -/
def crowdedModes : List HardwareMode :=
  deviceModes [(.other 2, .nv12), (.vaapi, .vaapi), (.other 1, .nv12)]

/-- what a session leaves in use is what the next negotiation starts with -/
theorem device_contention_crowded :
    let started := Session.start (engine "s") { width := 2, height := 2 } unnamedWorld
    let step := negotiate (engine "s") "hevc" crowdedModes started.world
    let visited := step.events.filterMap Event.visit?
    ∃ s, started.value = .ok (.ok s) ∧ InUse "s" [.other 1] started.world.registry ∧
      visited <+: [(.other 2, true), (.vaapi, false), (.other 1, true)] ∧
      visited.getLast? = some (.vaapi, false) ∧
      InUse "s" [.vaapi, .other 1] step.world.registry := by
  have hempty : InUse "s" [] Registry.empty := by
    intro key _
    simp [Registry.empty, Registry.mem_def]
  obtain ⟨hsession, -⟩ := device_contention (engine "s") [] unnamedWorld hempty
  have hone := hsession { width := 2, height := 2 } _ rfl
  obtain ⟨-, hnext⟩ := device_contention (engine "s") [.other 1]
    (Session.start (engine "s") { width := 2, height := 2 } unnamedWorld).world hone
  obtain ⟨hturn, -, hlast, htwo⟩ := hnext "hevc" crowdedModes
  exact ⟨_, rfl, hone, hturn, hlast _ rfl, htwo⟩

/-- a session on a device of a kind without a name keeps a device of another such kind busy -/
theorem unnamed_contention :
    let started := Session.start (engine "s") { width := 2, height := 2 } unnamedWorld
    let step := negotiate (engine "s") "hevc" (deviceModes [(.other 2, .nv12)]) started.world
    ∃ s, started.value = .ok (.ok s) ∧ s.deviceKind = some (.other 1) ∧
      started.world.registry = ⟨["s/device:unknown"]⟩ ∧ step.value = none ∧
      step.events.filterMap Event.visit? = [(.other 2, true)] ∧
      DeviceKind.other 1 ≠ DeviceKind.other 2 :=
  ⟨_, rfl, rfl, rfl, rfl, rfl, by decide⟩

end Synthetic

end StreamDecode
