import StreamDecode.Backend.Negotiation
import StreamDecode.Engine.Synthetic
import StreamDecode.Proofs.Custody.Holding

/-!
# The device that a negotiation settles on

A mode is free if it takes a device whose key is not held; it is fit if its device can be created,
too.  A negotiation settles on the first fit mode, after an attempt at every free mode before it.

* `negotiate_other`, `negotiate_busy`, `negotiate_refused`, `negotiate_created`   what a negotiation
                        comes to, by its first mode;
* `settles_negotiate`   value, registry, numbers and attempts, on an engine whose answers do not change;
* `negotiate_first_fit`   the device is that of the first fit mode, and its key is all that is claimed.
-/

namespace StreamDecode

variable {σ κ α : Type}

/-! ## lists up to an entry -/

section
variable {p : α → Bool} {a : α} {l : List α}

variable (p l) in
/-- the entries of a list up to the first one that meets `p`, and this one -/
def upTo : List α := l.takeWhile (!p ·) ++ (l.find? p).toList

theorem upTo_cons_of_pos (h : p a) : upTo p (a :: l) = [a] := by
  simp [upTo, h]

theorem upTo_cons_of_neg (h : ¬p a) : upTo p (a :: l) = a :: upTo p l := by
  simp [upTo, h]

end

/-! ## one more key -/

namespace Registry

variable (r : Registry)

/-- the registry with a key more, if one is given -/
def plus (key : Option String) : Registry := ⟨key.toList ++ r.keys⟩

@[simp] theorem plus_none : r.plus none = r := rfl
@[simp] theorem plus_some (key : String) : r.plus (some key) = ⟨key :: r.keys⟩ := rfl

theorem mem_plus (key : Option String) (k : String) : k ∈ r.plus key ↔ k ∈ r ∨ k ∈ key := by
  simp [mem_def, plus, or_comm]

end Registry

open Act

/-! ## the first mode -/

/-- the device of a number, created for a mode -/
def Accelerator.ofMode (scope : String) (device : Nat) (mode : HardwareMode) : Accelerator :=
  ⟨device, mode.device, ⟨mode.format⟩, ⟨mode.key scope⟩⟩

section
variable {engine : Engine σ κ} {decoder : String} {mode : HardwareMode} {rest : List HardwareMode}
  {w : World σ} {s : σ}

theorem negotiate_other (h : ¬mode.takesDevice) :
    negotiate engine decoder (mode :: rest) = negotiate engine decoder rest := if_neg h

theorem negotiate_busy (htakes : mode.takesDevice) (hkey : mode.key engine.scope ∈ w.registry) :
    negotiate engine decoder (mode :: rest) w =
      let step := negotiate engine decoder rest w
      ⟨step.value, .notice (.deviceBusy mode.device decoder (mode.key engine.scope)) :: step.events,
        step.world⟩ := by
  unfold HardwareMode.key at hkey ⊢
  rw [negotiate, if_pos htakes, bind_apply, claim_of_mem hkey]
  rfl

/-- a claim that was made for nothing is given back -/
theorem negotiate_refused {cause : EngineError} (htakes : mode.takesDevice)
    (hkey : mode.key engine.scope ∉ w.registry)
    (hcreate : engine.createDevice decoder mode w.engine = (.error cause, s)) :
    negotiate engine decoder (mode :: rest) w =
      let step := negotiate engine decoder rest { w with engine := s }
      ⟨step.value, [.notice (.claimed (mode.key engine.scope)), .notice (.usingDevice mode.device),
        .deviceCreation decoder mode (.error cause),
        .notice (.deviceNotCreated mode.device decoder cause),
        .notice (.unclaimed (mode.key engine.scope))] ++ step.events, step.world⟩ := by
  unfold HardwareMode.key at hkey ⊢
  have hdevice := fun registry => createDevice_of_error (w := { w with registry }) hcreate
  simp only [negotiate, if_pos htakes, bind_apply, claim_of_notMem hkey, tell_apply, hdevice, unclaim,
    Registry.release_cons hkey]
  rfl

theorem negotiate_created (htakes : mode.takesDevice) (hkey : mode.key engine.scope ∉ w.registry)
    (hcreate : engine.createDevice decoder mode w.engine = (.ok (), s)) :
    negotiate engine decoder (mode :: rest) w =
      ⟨some (.ofMode engine.scope w.issued.devices mode),
        [.notice (.claimed (mode.key engine.scope)), .notice (.usingDevice mode.device),
          .deviceCreation decoder mode (.ok w.issued.devices)],
        ⟨w.registry.plus (some (mode.key engine.scope)), s,
          { w.issued with devices := w.issued.devices + 1 }⟩⟩ := by
  unfold HardwareMode.key at hkey
  have hdevice := fun registry => createDevice_of_ok (w := { w with registry }) hcreate
  simp only [negotiate, if_pos htakes, bind_apply, claim_of_notMem hkey, tell_apply, hdevice]
  rfl

end

/-! ## fit modes -/

section
variable (scope : String) (r : Registry) (create : HardwareMode → Except EngineError Unit)
  (mode : HardwareMode)

/-- the mode takes a device, and the key of the device is not held -/
def HardwareMode.isFree : Bool := mode.takesDevice && decide (mode.key scope ∉ r)

/-- the mode is free, and its device can be created -/
def HardwareMode.isFit : Bool := mode.isFree scope r && (create mode).isOk

theorem HardwareMode.isFit_iff : mode.isFit scope r create ↔
    mode.takesDevice ∧ mode.key scope ∉ r ∧ create mode = .ok () := by
  unfold isFit isFree
  cases create mode <;> simp [Except.isOk, Except.toBool]

end

/-- the engine answers a request for a device of a decoder as `create` says, whenever it is made; `I`
is what the states of the engine have in common -/
structure Engine.CreatesBy (engine : Engine σ κ) (decoder : String)
    (create : HardwareMode → Except EngineError Unit) (I : σ → Prop) : Prop where
  answer {s : σ} (mode : HardwareMode) (h : I s) :
    (engine.createDevice decoder mode s).1 = create mode
  keeps {s : σ} (mode : HardwareMode) (h : I s) : I (engine.createDevice decoder mode s).2

/-- a key is claimed or given back, or a device asked for -/
def Event.isAttempt : Event → Bool
  | notice (.claimed _) | notice (.unclaimed _) | deviceCreation _ _ _ => true
  | notice _ | lookup _ _ | listing _ | opening _ _ _ _ | frameAllocation _ | submission _ _
  | reception _ _ | flush | transfer _ _ _ | release _ => false

/-- an attempt at a mode: its key is claimed, then the device is asked for; a failed attempt ends with
the key given back -/
def HardwareMode.attempt (scope decoder : String) (device : Nat)
    (create : HardwareMode → Except EngineError Unit) (mode : HardwareMode) : Trace :=
  match create mode with
  | .ok () => [.notice (.claimed (mode.key scope)), .deviceCreation decoder mode (.ok device)]
  | .error cause =>
    [.notice (.claimed (mode.key scope)), .deviceCreation decoder mode (.error cause),
      .notice (.unclaimed (mode.key scope))]

/-- a negotiation tried some modes and settled on one of them, or on none; it started with the registry
`r` and the numbers `n` -/
structure Step.Settles (engine : Engine σ κ) (decoder : String)
    (create : HardwareMode → Except EngineError Unit) (I : σ → Prop) (r : Registry) (n : Issued)
    (tried : List HardwareMode) (chosen : Option HardwareMode) (x : Step σ (Option Accelerator)) :
    Prop where
  value : x.value = chosen.map (Accelerator.ofMode engine.scope n.devices)
  attempts : x.events.filter Event.isAttempt =
    tried.flatMap (·.attempt engine.scope decoder n.devices create)
  registry : x.world.registry = r.plus (chosen.map (·.key engine.scope))
  issued : x.world.issued = { n with devices := n.devices + chosen.toList.length }
  kept : I x.world.engine
  /-- the engine was last asked for the device -/
  bound : ∀ mode ∈ chosen, ∃ s, I s ∧
    engine.createDevice decoder mode s = (.ok (), x.world.engine)

section
variable {engine : Engine σ κ} {decoder : String} {create : HardwareMode → Except EngineError Unit}
  {I : σ → Prop}

theorem Step.Settles.prepend {r : Registry} {n : Issued} {tried : List HardwareMode}
    {chosen : Option HardwareMode} {x : Step σ (Option Accelerator)} {t : Trace}
    (before : List HardwareMode) (hx : x.Settles engine decoder create I r n tried chosen)
    (ht : t.filter Event.isAttempt =
      before.flatMap (·.attempt engine.scope decoder n.devices create)) :
    Step.Settles engine decoder create I r n (before ++ tried) chosen
      ⟨x.value, t ++ x.events, x.world⟩ :=
  { hx with
    attempts := by
      show (t ++ x.events).filter Event.isAttempt = _
      rw [List.filter_append, List.flatMap_append, ht, hx.attempts] }

theorem settles_negotiate (h : engine.CreatesBy decoder create I) (modes : List HardwareMode)
    {w : World σ} (hw : I w.engine) :
    (negotiate engine decoder modes w).Settles engine decoder create I w.registry w.issued
      ((upTo (·.isFit engine.scope w.registry create) modes).filter
        (·.isFree engine.scope w.registry))
      (modes.find? (·.isFit engine.scope w.registry create)) := by
  induction modes generalizing w with
  | nil => exact ⟨rfl, rfl, rfl, rfl, hw, by rintro mode ⟨⟩⟩
  | cons mode rest ih =>
    by_cases hfree : mode.isFree engine.scope w.registry
    · obtain ⟨htakes, hkey⟩ := Bool.and_eq_true_iff.1 hfree
      have hkey := of_decide_eq_true hkey
      have hanswer := h.answer mode hw
      have hkeeps := h.keeps mode hw
      rcases hcreate : engine.createDevice decoder mode w.engine with ⟨cause | _, s⟩
      all_goals rw [hcreate] at hanswer hkeeps
      · -- the failed attempt leaves nothing but its trace
        have hfit : ¬mode.isFit engine.scope w.registry create := by
          simp [HardwareMode.isFit, ← hanswer, Except.isOk, Except.toBool]
        rw [upTo_cons_of_neg hfit, List.filter_cons_of_pos hfree, List.find?_cons_of_neg hfit,
          negotiate_refused htakes hkey hcreate]
        refine (ih (w := { w with engine := s }) hkeeps).prepend [mode] ?_
        rw [List.flatMap_singleton, HardwareMode.attempt, ← hanswer]
        rfl
      · have hfit : mode.isFit engine.scope w.registry create := by
          simp [HardwareMode.isFit, hfree, ← hanswer, Except.isOk, Except.toBool]
        rw [upTo_cons_of_pos hfit, List.filter_cons_of_pos hfree, List.find?_cons_of_pos hfit,
          negotiate_created htakes hkey hcreate]
        refine ⟨rfl, ?_, rfl, rfl, hkeeps, ?_⟩
        · rw [List.filter_nil, List.flatMap_singleton, HardwareMode.attempt, ← hanswer]
          rfl
        · rintro _ ⟨⟩
          exact ⟨w.engine, hw, hcreate⟩
    · have hfit : ¬mode.isFit engine.scope w.registry create := by
        simp [HardwareMode.isFit, hfree]
      rw [upTo_cons_of_neg hfit, List.filter_cons_of_neg hfree, List.find?_cons_of_neg hfit]
      by_cases htakes : mode.takesDevice
      · have hkey : mode.key engine.scope ∈ w.registry := by
          simpa [HardwareMode.isFree, htakes] using hfree
        rw [negotiate_busy htakes hkey]
        exact (ih hw).prepend (t := [_]) [] rfl
      · rw [negotiate_other htakes]
        exact ih hw

/-- a negotiation takes the device of the first fit mode, after an attempt at each free mode before it;
the key of this device is all that is claimed in the end -/
theorem negotiate_first_fit (h : engine.CreatesBy decoder create I) (modes : List HardwareMode)
    (w : World σ) (hw : I w.engine) :
    let chosen := modes.find? fun mode => mode.isFit engine.scope w.registry create
    let tried := (upTo (fun mode => mode.isFit engine.scope w.registry create) modes).filter
      fun mode => mode.isFree engine.scope w.registry
    let step := negotiate engine decoder modes w
    step.value = chosen.map (Accelerator.ofMode engine.scope w.issued.devices) ∧
      (step.value = none ↔ ∀ mode ∈ modes, mode.takesDevice →
        mode.key engine.scope ∉ w.registry → create mode ≠ .ok ()) ∧
      step.events.filter Event.isAttempt =
        tried.flatMap (·.attempt engine.scope decoder w.issued.devices create) ∧
      ∀ key, key ∈ step.world.registry ↔
        key ∈ w.registry ∨ ∃ mode ∈ chosen, key = mode.key engine.scope := by
  intro chosen tried step
  have hstep : step.Settles engine decoder create I w.registry w.issued tried chosen :=
    settles_negotiate h modes hw
  refine ⟨hstep.value, ?_, hstep.attempts, fun key => ?_⟩
  · rw [hstep.value, Option.map_eq_none_iff, List.find?_eq_none]
    simp only [HardwareMode.isFit_iff, not_and]
  · rw [hstep.registry, Registry.mem_plus]
    simp [eq_comm]

end

/-! ## the synthetic engine -/

namespace Synthetic

/-- the devices of some kinds cannot be created -/
def creation (failing : List DeviceKind) (mode : HardwareMode) : Except EngineError Unit :=
  if mode.device ∈ failing then .error ioError else .ok ()

theorem createsBy_creation (scope decoder : String) (failing : List DeviceKind) :
    (engine scope).CreatesBy decoder (creation failing) fun l => l.failingDevices = failing where
  answer mode h := by
    subst h
    show (createDevice mode _).1 = _
    unfold createDevice creation
    dsimp only
    split <;> rfl
  keeps mode h := by
    subst h
    show (createDevice mode _).2.failingDevices = _
    unfold createDevice
    dsimp only
    split <;> rfl

/-- one takes no device, the devices of the next two cannot be created, and that of the fourth is in
use -/
def stubbornModes : List HardwareMode :=
  [⟨0, .cuda, .cuda, ⟨0x16⟩⟩, ⟨1, .vaapi, .vaapi, ⟨0x01⟩⟩, ⟨2, .vaapi, .drmPrime, ⟨0xFF⟩⟩,
    ⟨3, .vdpau, .vdpau, ⟨0x01⟩⟩, ⟨4, .cuda, .cuda, ⟨0x03⟩⟩, ⟨5, .qsv, .qsv, ⟨0x01⟩⟩]

def stubbornWorld : World Ledger := ⟨⟨["s/device:vdpau"]⟩, .fresh [] [.vaapi], .none⟩

/-- a second mode for a device that could not be created is tried again -/
theorem negotiate_first_fit_stubborn :
    let step := negotiate (engine "s") "h264" stubbornModes stubbornWorld
    step.value = some ⟨0, .cuda, ⟨.cuda⟩, ⟨"s/device:cuda"⟩⟩ ∧
      step.events.filter Event.isAttempt =
        [.notice (.claimed "s/device:vaapi"),
          .deviceCreation "h264" ⟨1, .vaapi, .vaapi, ⟨0x01⟩⟩ (.error ioError),
          .notice (.unclaimed "s/device:vaapi"), .notice (.claimed "s/device:vaapi"),
          .deviceCreation "h264" ⟨2, .vaapi, .drmPrime, ⟨0xFF⟩⟩ (.error ioError),
          .notice (.unclaimed "s/device:vaapi"), .notice (.claimed "s/device:cuda"),
          .deviceCreation "h264" ⟨4, .cuda, .cuda, ⟨0x03⟩⟩ (.ok 0)] := by
  obtain ⟨hvalue, -, hattempts, -⟩ := negotiate_first_fit (createsBy_creation "s" "h264" [.vaapi])
    stubbornModes stubbornWorld rfl
  exact ⟨hvalue, hattempts⟩

end Synthetic

end StreamDecode
