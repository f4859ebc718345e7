import StreamDecode.Engine.Prepared
import StreamDecode.Proofs.Backend.Negotiation
import StreamDecode.Proofs.Session.Kinds

/-!
# The backend that a search settles on

A candidate is eligible if the engine has it and the key of its backend, if it needs one, is not held.
A search tries the eligible candidates in order, each as if it were the only one; the first one that
opens is the result, and the first one for want of memory ends the search, too.

* `openFirst_missing`, `openFirst_busy`, `openFirst_opened`, `openFirst_exhausted`,
  `openFirst_passed`   what a search comes to, by its first candidate;
* `Search`             what a search comes to, whatever the engine answers (`search_openFirst`);
* `chooses_openFirst`  value, openings and registry, on an engine whose answers do not change;
* `openBackend_first_open`   the result is that of the first trial that decides.
-/

namespace StreamDecode

variable {σ κ : Type}

open Act

/-! ## traces around an event -/

section
variable {p : Event → Bool} (hp : ∀ {e}, e.isPreparing → ¬p e)
include hp

theorem filter_of_preparing {t : Trace} (h : ∀ e ∈ t, e.isPreparing) : t.filter p = [] :=
  List.filter_eq_nil_iff.2 fun e he => hp (h e he)

theorem filter_single {before after : Trace} (hbefore : ∀ e ∈ before, e.isPreparing) (e : Event)
    (hafter : ∀ e ∈ after, e.isPreparing) : (before ++ e :: after).filter p = [e].filter p := by
  rw [List.filter_append, filter_of_preparing hp hbefore, List.nil_append,
    ← List.singleton_append, List.filter_append, filter_of_preparing hp hafter, List.append_nil]

end

/-! ## the first candidate -/

section
variable {engine : Engine σ κ} {w : World σ}

/-- a claim is made in the name of the candidate only -/
theorem claimBackend_of_free {c : Candidate}
    (h : ∀ key ∈ c.kind.key? engine.scope c.name, key ∉ w.registry) :
    claimBackend engine c w = ⟨.ok ((c.kind.key? engine.scope c.name).map Claim.mk),
      (c.kind.key? engine.scope c.name).toList.map fun key => .notice (.claimed key),
      { w with registry := w.registry.plus (c.kind.key? engine.scope c.name) }⟩ := by
  obtain ⟨name, kind⟩ := c
  cases kind with
  | vendor =>
    have hkey : backendKey engine.scope name ∉ w.registry := h _ rfl
    show (claim (backendKey engine.scope name) >>= _) w = _
    rw [bind_apply, claim_of_notMem hkey]
    rfl
  | _ => rfl

theorem claimBackend_of_busy {c : Candidate} {key : String}
    (hkey : c.kind.key? engine.scope c.name = some key) (h : key ∈ w.registry) :
    claimBackend engine c w = ⟨.error (.deviceBusy key), [], w⟩ := by
  obtain ⟨name, kind⟩ := c
  cases kind with
  | vendor =>
    obtain rfl : backendKey engine.scope name = key := Option.some.inj hkey
    show (claim (backendKey engine.scope name) >>= _) w = _
    rw [bind_apply, claim_of_mem h]
    rfl
  | _ => cases hkey

/-- what was claimed for a candidate is free again, and its device is given back -/
theorem world_abandon {accel : Option Accelerator} {own : Option String} {r : Registry}
    (hw : w.registry = (r.plus own).plus (accel.map (·.claim.key))) (hown : ∀ key ∈ own, key ∉ r)
    (haccel : ∀ a ∈ accel, a.claim.key ∉ r.plus own) :
    (abandon engine accel (own.map Claim.mk) w).world =
      ⟨r, accel.elim w.engine fun _ => engine.release .device w.engine, w.issued⟩ := by
  have hback : ((own.map Claim.mk).toList.foldl (fun r c => r.release c.key) (r.plus own)) = r := by
    cases own with
    | none => rfl
    | some key => exact Registry.release_cons (hown key rfl)
  have hdispose : (disposeAccel engine accel w).world =
      ⟨r.plus own, accel.elim w.engine fun _ => engine.release .device w.engine, w.issued⟩ := by
    cases accel with
    | none =>
      show w = _
      rw [Option.map_none, Registry.plus_none] at hw
      rw [← hw]
      rfl
    | some a =>
      show World.mk (w.registry.release a.claim.key) _ _ = _
      rw [hw, Option.map_some, Registry.plus_some, Registry.release_cons (haccel a rfl)]
      rfl
  rw [abandon, world_bind, unclaimAll_apply, hdispose]
  dsimp only
  rw [hback]

variable {codec : Codec} {preference : Preference} {settings : CodecSettings} {c : Candidate}
  {rest : List Candidate} {s : σ}

theorem openFirst_missing (hfound : engine.hasDecoder c.name w.engine = (false, s)) :
    openFirst engine codec preference settings (c :: rest) w =
      let step := openFirst engine codec preference settings rest { w with engine := s }
      ⟨step.value, [.lookup c.name false, .notice (.decoderMissing c.name)] ++ step.events,
        step.world⟩ := by
  simp only [openFirst, bind_apply, hasDecoder, hfound]
  rfl

/-- all that comes before an opening only prepares it -/
theorem preparing_approach {claim : Except SessionError (Option Claim)}
    {accel : Option Accelerator} {t t' : Trace} {v v' : World σ}
    (hclaim : claimBackend engine c w = ⟨claim, t, v⟩)
    (hacquire : acquireAccel engine c.name v = ⟨accel, t', v'⟩) :
    ∀ e ∈ [.lookup c.name true, .notice (.tryingDecoder c.name)] ++ t ++ t', e.isPreparing := by
  have hclaims := leaves_claimBackend engine c w
  have hdevices := leaves_acquireAccel engine c.name v
  rw [hclaim] at hclaims
  rw [hacquire] at hdevices
  refine List.forall_mem_append.2 ⟨List.forall_mem_append.2 ⟨?_, hclaims⟩, hdevices⟩
  simp [Event.isPreparing]

section
variable (hfound : engine.hasDecoder c.name w.engine = (true, s))
include hfound

theorem openFirst_busy {key : String} (hkey : c.kind.key? engine.scope c.name = some key)
    (hbusy : key ∈ w.registry) :
    openFirst engine codec preference settings (c :: rest) w =
      let step := openFirst engine codec preference settings rest { w with engine := s }
      ⟨step.value, [.lookup c.name true, .notice (.tryingDecoder c.name),
        .notice (.decoderBusy c.name (backendKey engine.scope c.name))] ++ step.events,
        step.world⟩ := by
  have hclaim := claimBackend_of_busy (w := { w with engine := s }) hkey hbusy
  simp only [openFirst, bind_apply, hasDecoder, hfound, if_true, tell_apply, hclaim]
  rfl

variable {claim : Option Claim} {accel : Option Accelerator} {t t' : Trace} {v v' : World σ}
  (hclaim : claimBackend engine c { w with engine := s } = ⟨.ok claim, t, v⟩)
  (hacquire : acquireAccel engine c.name v = ⟨accel, t', v'⟩) {s' : σ}
include hclaim hacquire

theorem openFirst_opened {state : κ}
    (hopen : engine.openContext c.name settings (accel.map (·.binding)) v'.engine =
      (.ok state, s')) :
    openFirst engine codec preference settings (c :: rest) w =
      ⟨.ok ⟨c, ⟨v'.issued.contexts, state⟩, accel, claim⟩,
        ([.lookup c.name true, .notice (.tryingDecoder c.name)] ++ t ++ t') ++
          [.opening c.name settings (accel.map (·.binding)) (.ok v'.issued.contexts)],
        { v' with engine := s', issued.contexts := v'.issued.contexts + 1 }⟩ := by
  simp only [openFirst, bind_apply, hasDecoder, hfound, if_true, tell_apply, hclaim, hacquire,
    openContext_of_ok hopen]
  simp

theorem openFirst_exhausted {what : String}
    (hopen : engine.openContext c.name settings (accel.map (·.binding)) v'.engine =
      (.error (.outOfMemory what), s')) :
    openFirst engine codec preference settings (c :: rest) w =
      let after := abandon engine accel claim { v' with engine := s' }
      ⟨.error (.allocation (.outOfMemory what)),
        ([.lookup c.name true, .notice (.tryingDecoder c.name)] ++ t ++ t') ++
          .opening c.name settings (accel.map (·.binding)) (.error (.outOfMemory what)) ::
            .notice (.contextNotAllocated c.name what) :: after.events,
        after.world⟩ := by
  simp only [openFirst, bind_apply, hasDecoder, hfound, if_true, tell_apply, hclaim, hacquire,
    openContext_of_error hopen]
  simp

theorem openFirst_passed {cause : EngineError} (hcause : ∀ what, cause ≠ .outOfMemory what)
    (hopen : engine.openContext c.name settings (accel.map (·.binding)) v'.engine =
      (.error cause, s')) :
    openFirst engine codec preference settings (c :: rest) w =
      let after := abandon engine accel claim { v' with engine := s' }
      let step := openFirst engine codec preference settings rest after.world
      ⟨step.value,
        (([.lookup c.name true, .notice (.tryingDecoder c.name)] ++ t ++ t') ++
          .opening c.name settings (accel.map (·.binding)) (.error cause) ::
            .notice (.decoderNotOpened c.name cause) :: after.events) ++ step.events,
        step.world⟩ := by
  simp only [openFirst, bind_apply, hasDecoder, hfound, if_true, tell_apply, hclaim, hacquire,
    openContext_of_error hopen]
  cases cause with
  | outOfMemory what => exact absurd rfl (hcause what)
  | _ => simp

end

end

/-! ## searches -/

/-- the trace and the result of a search: contexts that cannot be opened, and at last one that can, one
that there is no memory for, or none -/
inductive Search (codec : Codec) (settings : CodecSettings) :
    Trace → Except SessionError (OpenBackend κ) → Prop
  | failed : Search codec settings [] (.error (.noDecoder codec))
  | opened (b : OpenBackend κ) : Search codec settings [.opening b.candidate.name settings
      (b.accel.map (·.binding)) (.ok b.context.id)] (.ok b)
  | exhausted (decoder : String) (binding : Option Binding) (what : String) {t : Trace}
    (ht : ∀ e ∈ t, e.isPreparing) :
    Search codec settings (.opening decoder settings binding (.error (.outOfMemory what)) :: t)
      (.error (.allocation (.outOfMemory what)))
  | passed (decoder : String) (binding : Option Binding) {cause : EngineError} {t : Trace}
    {result : Except SessionError (OpenBackend κ)} (hcause : ∀ what, cause ≠ .outOfMemory what)
    (hrest : Search codec settings t result) :
    Search codec settings (.opening decoder settings binding (.error cause) :: t) result
  | prepared {t t' : Trace} {result : Except SessionError (OpenBackend κ)}
    (ht : ∀ e ∈ t, e.isPreparing) (hrest : Search codec settings t' result) :
    Search codec settings (t ++ t') result

theorem search_openFirst (engine : Engine σ κ) (codec : Codec) (preference : Preference)
    (settings : CodecSettings) (list : List Candidate) (w : World σ) :
    Search codec settings (openFirst engine codec preference settings list w).events
      (openFirst engine codec preference settings list w).value := by
  induction list generalizing w with
  | nil => exact .prepared (t := [_]) (by simp [Event.isPreparing]) .failed
  | cons c rest ih =>
    rcases hlook : engine.hasDecoder c.name w.engine with ⟨_ | _, s⟩
    · rw [openFirst_missing hlook]
      exact .prepared (by simp [Event.isPreparing]) (ih _)
    by_cases hfree : ∀ key ∈ c.kind.key? engine.scope c.name, key ∉ w.registry
    · have hclaim := claimBackend_of_free (w := { w with engine := s }) hfree
      rcases hacquire : acquireAccel engine c.name
        ⟨w.registry.plus (c.kind.key? engine.scope c.name), s, w.issued⟩ with ⟨accel, t, v⟩
      have happroach := preparing_approach hclaim hacquire
      rcases hopen : engine.openContext c.name settings (accel.map (·.binding)) v.engine with
        ⟨cause | state, s'⟩
      · have hafter := leaves_abandon engine accel
          ((c.kind.key? engine.scope c.name).map Claim.mk) { v with engine := s' }
        by_cases hcause : ∀ what, cause ≠ .outOfMemory what
        · rw [openFirst_passed hlook hclaim hacquire hcause hopen]
          dsimp only
          rw [List.append_assoc, List.cons_append]
          exact .prepared happroach (.passed _ _ hcause
            (.prepared (List.forall_mem_cons.2 ⟨rfl, hafter⟩) (ih _)))
        · obtain ⟨what, rfl⟩ : ∃ what, cause = .outOfMemory what := by simpa using hcause
          rw [openFirst_exhausted hlook hclaim hacquire hopen]
          exact .prepared happroach (.exhausted _ _ _ (List.forall_mem_cons.2 ⟨rfl, hafter⟩))
      · rw [openFirst_opened hlook hclaim hacquire hopen]
        exact .prepared happroach (.opened ⟨c, ⟨v.issued.contexts, state⟩, accel, _⟩)
    · obtain ⟨key, hkey, hbusy⟩ : ∃ key ∈ c.kind.key? engine.scope c.name, key ∈ w.registry := by
        simpa using hfree
      rw [openFirst_busy hlook hkey hbusy]
      exact .prepared (by simp [Event.isPreparing]) (ih _)

theorem search_openBackend (engine : Engine σ κ) (codec : Codec) (preference : Preference)
    (settings : CodecSettings) (w : World σ) :
    Search codec settings (openBackend engine codec preference settings w).events
      (openBackend engine codec preference settings w).value :=
  search_openFirst engine codec preference settings _ w

/-! ## steady engines -/

/-- what an engine answers at the choice of a backend -/
structure Replies (κ : Type) where
  hasDecoder : String → Bool
  hardwareModes : String → List HardwareMode
  createDevice : String → HardwareMode → Except EngineError Unit
  /-- a device is told by its number and by the mode that it was created for -/
  openContext : String → CodecSettings → Option (Nat × HardwareMode) → Except EngineError κ

/-- the engine answers as `a` says, whenever it is asked; `I` is what its states have in common -/
structure Engine.RepliesBy (engine : Engine σ κ) (a : Replies κ) (I : σ → Prop) : Prop where
  hasDecoder {s : σ} (decoder : String) (h : I s) :
    (engine.hasDecoder decoder s).1 = a.hasDecoder decoder ∧ I (engine.hasDecoder decoder s).2
  hardwareModes {s : σ} (decoder : String) (h : I s) :
    (engine.hardwareModes decoder s).1 = a.hardwareModes decoder ∧
      I (engine.hardwareModes decoder s).2
  creates (decoder : String) : engine.CreatesBy decoder (a.createDevice decoder) I
  openPlain {s : σ} (decoder : String) (settings : CodecSettings) (h : I s) :
    (engine.openContext decoder settings none s).1 = a.openContext decoder settings none ∧
      I (engine.openContext decoder settings none s).2
  /-- the context is opened on the device that was created last -/
  openBound {s s' : σ} {decoder : String} {mode : HardwareMode} (settings : CodecSettings)
    (device : Nat) (h : I s) (hcreate : engine.createDevice decoder mode s = (.ok (), s')) :
    (engine.openContext decoder settings (some ⟨device, ⟨mode.format⟩⟩) s').1 =
        a.openContext decoder settings (some (device, mode)) ∧
      I (engine.openContext decoder settings (some ⟨device, ⟨mode.format⟩⟩) s').2
  release {s : σ} (kind : ResourceKind) (h : I s) : I (engine.release kind s)

/-- a candidate that is tried -/
structure Trial where
  candidate : Candidate
  /-- the number of the next device -/
  device : Nat
  /-- the mode that a device is created for -/
  mode : Option HardwareMode

namespace Trial

variable (t : Trial) (scope : String)

/-- the key of the backend, if it needs one -/
def key? : Option String := t.candidate.kind.key? scope t.candidate.name

def accel : Option Accelerator := t.mode.map (.ofMode scope t.device)

theorem key_accel : (t.accel scope).map (·.claim.key) = t.mode.map (·.key scope) :=
  Option.map_map _ _ _

end Trial

def Event.isOpening : Event → Bool
  | opening _ _ _ _ => true
  | notice _ | lookup _ _ | listing _ | deviceCreation _ _ _ | frameAllocation _ | submission _ _
  | reception _ _ | flush | transfer _ _ _ | release _ => false

namespace Replies

variable (a : Replies κ) (scope : String) (r : Registry)

def isEligible (c : Candidate) : Bool :=
  a.hasDecoder c.name && (c.kind.key? scope c.name).all fun key => decide (key ∉ r)

theorem isEligible_iff (c : Candidate) : a.isEligible scope r c ↔
    a.hasDecoder c.name ∧ ∀ key ∈ c.kind.key? scope c.name, key ∉ r := by
  unfold isEligible
  cases c.kind.key? scope c.name <;> simp

/-- the mode that a negotiation for a candidate settles on, if only its backend is claimed besides -/
def modeOf (c : Candidate) : Option HardwareMode :=
  (a.hardwareModes c.name).find? fun mode =>
    mode.isFit scope (r.plus (c.kind.key? scope c.name)) (a.createDevice c.name)

theorem key_notMem_of_mem_modeOf {c : Candidate} {mode : HardwareMode}
    (h : mode ∈ a.modeOf scope r c) :
    mode.key scope ∉ r.plus (c.kind.key? scope c.name) := by
  obtain ⟨-, hkey, -⟩ := (HardwareMode.isFit_iff _ _ _ _).1 (List.find?_some h)
  exact hkey

/-- the eligible candidates of a list, with the devices that are created for them -/
def trials : Nat → List Candidate → List Trial
  | _, [] => []
  | device, c :: rest =>
    if a.isEligible scope r c then
      ⟨c, device, a.modeOf scope r c⟩ ::
        trials (device + (a.modeOf scope r c).toList.length) rest
    else trials device rest

theorem map_candidate_trials (device : Nat) (list : List Candidate) :
    (a.trials scope r device list).map (·.candidate) = list.filter (a.isEligible scope r) := by
  induction list generalizing device with
  | nil => rfl
  | cons c rest ih =>
    rw [trials]
    by_cases hc : a.isEligible scope r c
    · rw [if_pos hc, List.map_cons, ih, List.filter_cons_of_pos hc]
    · rw [if_neg hc, ih, List.filter_cons_of_neg hc]

theorem mode_of_mem_trials {device : Nat} {list : List Candidate} {trial : Trial}
    (h : trial ∈ a.trials scope r device list) : trial.mode = a.modeOf scope r trial.candidate := by
  induction list generalizing device with
  | nil => cases h
  | cons c rest ih =>
    rw [trials] at h
    split at h
    · rcases List.mem_cons.1 h with rfl | h
      · rfl
      · exact ih h
    · exact ih h

variable (settings : CodecSettings)

def answer (t : Trial) : Except EngineError κ :=
  a.openContext t.candidate.name settings (t.mode.map (t.device, ·))

/-- the candidate opens, or fails for want of memory -/
def decides (t : Trial) : Bool :=
  match a.answer settings t with
  | .ok _ | .error (.outOfMemory _) => true
  | .error _ => false

/-- the opening of a trial; `context` is the number of the next context -/
def opening (context : Nat) (t : Trial) : Event :=
  .opening t.candidate.name settings ((t.accel scope).map (·.binding))
    ((a.answer settings t).map fun _ => context)

theorem decides_of_ok {a : Replies κ} {settings : CodecSettings} {t : Trial} {state : κ}
    (h : .ok state = a.answer settings t) : a.decides settings t := by
  rw [decides, ← h]

theorem decides_of_error {a : Replies κ} {settings : CodecSettings} {t : Trial}
    {cause : EngineError} (h : .error cause = a.answer settings t) :
    a.decides settings t ↔ ∃ what, cause = .outOfMemory what := by
  rw [decides, ← h]
  cases cause <;> simp

/-- what the trial that decides comes to -/
def outcome (codec : Codec) (context : Nat) :
    Option Trial → Except SessionError (OpenBackend κ)
  | none => .error (.noDecoder codec)
  | some t =>
    match a.answer settings t with
    | .ok state =>
      .ok ⟨t.candidate, ⟨context, state⟩, t.accel scope, (t.key? scope).map Claim.mk⟩
    | .error cause => .error (.allocation cause)

end Replies

/-! ## the search -/

/-- a search with these trials before it comes to the first one that decides; it started with the
registry `r`, and the next context has the number `context` -/
structure Step.Chooses (a : Replies κ) (scope : String) (r : Registry) (settings : CodecSettings)
    (codec : Codec) (context : Nat) (trials : List Trial)
    (x : Step σ (Except SessionError (OpenBackend κ))) : Prop where
  value : x.value =
    a.outcome scope settings codec context (trials.find? (a.decides settings))
  openings : x.events.filter Event.isOpening =
    (upTo (a.decides settings) trials).map (a.opening scope settings context)
  registry : ∀ key, key ∈ x.world.registry ↔
    key ∈ r ∨ ∃ b, x.value = .ok b ∧ key ∈ b.claims.map (·.key)

section
variable {a : Replies κ} {scope : String} {r : Registry} {settings : CodecSettings} {codec : Codec}
  {context : Nat} {trials : List Trial} {x : Step σ (Except SessionError (OpenBackend κ))}
  {t : Trace}

theorem not_isOpening {e : Event} (h : e.isPreparing) : ¬e.isOpening := by
  cases e <;> first | exact Bool.false_ne_true | cases h

/-- a candidate that is not eligible leaves no mark -/
theorem Step.Chooses.skip (hx : x.Chooses a scope r settings codec context trials)
    (ht : ∀ e ∈ t, e.isPreparing) :
    Step.Chooses a scope r settings codec context trials ⟨x.value, t ++ x.events, x.world⟩ :=
  { hx with
    openings := by
      show (t ++ x.events).filter Event.isOpening = _
      rw [List.filter_append, filter_of_preparing not_isOpening ht, List.nil_append, hx.openings] }

/-- a trial that does not decide leaves its opening -/
theorem Step.Chooses.pass {trial : Trial} (hx : x.Chooses a scope r settings codec context trials)
    (hpass : ¬a.decides settings trial)
    (ht : t.filter Event.isOpening = [a.opening scope settings context trial]) :
    Step.Chooses a scope r settings codec context (trial :: trials)
      ⟨x.value, t ++ x.events, x.world⟩ where
  value := by
    rw [List.find?_cons_of_neg hpass]
    exact hx.value
  openings := by
    rw [upTo_cons_of_neg hpass, List.map_cons, List.filter_append, ht, hx.openings,
      List.singleton_append]
  registry := hx.registry

end

section
variable {engine : Engine σ κ} {a : Replies κ} {I : σ → Prop} (h : engine.RepliesBy a I)
include h

theorem settles_acquireAccel (decoder : String) {w : World σ} (hw : I w.engine) :
    (acquireAccel engine decoder w).Settles engine decoder (a.createDevice decoder) I w.registry
      w.issued
      ((upTo (·.isFit engine.scope w.registry (a.createDevice decoder))
        (a.hardwareModes decoder)).filter (·.isFree engine.scope w.registry))
      ((a.hardwareModes decoder).find?
        (·.isFit engine.scope w.registry (a.createDevice decoder))) := by
  obtain ⟨hmodes, hkept⟩ := h.hardwareModes decoder hw
  rcases hlist : engine.hardwareModes decoder w.engine with ⟨modes, s⟩
  rw [hlist] at hmodes hkept
  rw [acquireAccel, bind_apply, hardwareModes, hlist, ← hmodes]
  dsimp only
  cases modes with
  | nil => exact ⟨rfl, rfl, rfl, rfl, hkept, by rintro mode ⟨⟩⟩
  | cons mode rest =>
    exact (settles_negotiate (h.creates decoder) (mode :: rest)
      (w := { w with engine := s }) hkept).prepend (t := [_]) [] rfl

/-- the opening of a trial is answered as its device demands -/
theorem answer_opening {t : Trial} {r : Registry} {n : Issued} {tried : List HardwareMode}
    {x : Step σ (Option Accelerator)} (settings : CodecSettings)
    (hx : x.Settles engine t.candidate.name (a.createDevice t.candidate.name) I r n tried t.mode)
    (hdevice : n.devices = t.device) :
    x.value = t.accel engine.scope ∧
      (engine.openContext t.candidate.name settings ((t.accel engine.scope).map (·.binding))
        x.world.engine).1 = a.answer settings t ∧
      I (engine.openContext t.candidate.name settings ((t.accel engine.scope).map (·.binding))
        x.world.engine).2 := by
  obtain ⟨c, device, mode⟩ := t
  subst hdevice
  refine ⟨hx.value, ?_⟩
  cases mode with
  | none => exact h.openPlain c.name settings hx.kept
  | some mode =>
    obtain ⟨s, hs, hcreate⟩ := hx.bound mode rfl
    exact h.openBound settings n.devices hs hcreate

end

/-! ## a trial -/

/-- a candidate that was found eligible in the world `w` is to be opened in the world `v`; the trace
`t` is that of its device -/
structure Trial.Ready (engine : Engine σ κ) (a : Replies κ) (I : σ → Prop)
    (settings : CodecSettings) (trial : Trial) (w : World σ) (s : σ) (t : Trace) (v : World σ) :
    Prop where
  found : engine.hasDecoder trial.candidate.name w.engine = (true, s)
  acquired : acquireAccel engine trial.candidate.name
    ⟨w.registry.plus (trial.key? engine.scope), s, w.issued⟩ = ⟨trial.accel engine.scope, t, v⟩
  free : ∀ key ∈ trial.key? engine.scope, key ∉ w.registry
  apart : ∀ accel ∈ trial.accel engine.scope,
    accel.claim.key ∉ w.registry.plus (trial.key? engine.scope)
  registry : v.registry = (w.registry.plus (trial.key? engine.scope)).plus
    ((trial.accel engine.scope).map (·.claim.key))
  issued : v.issued = { w.issued with devices := trial.device + trial.mode.toList.length }
  answer : (engine.openContext trial.candidate.name settings
    ((trial.accel engine.scope).map (·.binding)) v.engine).1 = a.answer settings trial
  kept : I (engine.openContext trial.candidate.name settings
    ((trial.accel engine.scope).map (·.binding)) v.engine).2

section
variable {engine : Engine σ κ} {a : Replies κ} {I : σ → Prop} {settings : CodecSettings}
  {trial : Trial} {w : World σ}

/-- a candidate that is eligible gets ready -/
theorem exists_ready (h : engine.RepliesBy a I) (trial : Trial) (settings : CodecSettings)
    (hw : I w.engine)
    (heligible : a.isEligible engine.scope w.registry trial.candidate)
    (hdevice : trial.device = w.issued.devices)
    (hmode : trial.mode = a.modeOf engine.scope w.registry trial.candidate) :
    ∃ s t v, trial.Ready engine a I settings w s t v := by
  obtain ⟨hfound, hown⟩ := (a.isEligible_iff _ _ _).1 heligible
  obtain ⟨hanswer, hkept⟩ := h.hasDecoder trial.candidate.name hw
  rcases hlook : engine.hasDecoder trial.candidate.name w.engine with ⟨found, s⟩
  rw [hlook] at hanswer hkept
  obtain rfl : found = true := hanswer.trans hfound
  have hsettles := settles_acquireAccel h trial.candidate.name
    (w := ⟨w.registry.plus (trial.key? engine.scope), s, w.issued⟩) hkept
  -- nothing but its own backend is claimed for the candidate, as if it were the only one
  change Step.Settles engine _ _ I _ _ _ (a.modeOf engine.scope w.registry trial.candidate) _
    at hsettles
  rw [← hmode] at hsettles
  rcases hacquire : acquireAccel engine trial.candidate.name
    ⟨w.registry.plus (trial.key? engine.scope), s, w.issued⟩ with ⟨accel, t, v⟩
  rw [hacquire] at hsettles
  obtain ⟨rfl, hanswer, hkept⟩ := answer_opening h settings hsettles hdevice.symm
  refine ⟨s, t, v, hlook, hacquire, hown, ?_, ?_, ?_, hanswer, hkept⟩
  · intro accel haccel
    obtain ⟨mode, hmem, rfl⟩ := Option.map_eq_some_iff.1 haccel
    exact a.key_notMem_of_mem_modeOf _ _ (hmode ▸ hmem)
  · rw [Trial.key_accel]
    exact hsettles.registry
  · rw [hdevice]
    exact hsettles.issued

namespace Trial.Ready

variable {s : σ} {t : Trace} {v : World σ} (hready : trial.Ready engine a I settings w s t v)
  {codec : Codec} {preference : Preference} {rest : List Candidate} {trials : List Trial} {s' : σ}
include hready

theorem claimed : claimBackend engine trial.candidate { w with engine := s } =
    ⟨.ok ((trial.key? engine.scope).map Claim.mk),
      (trial.key? engine.scope).toList.map fun key => .notice (.claimed key),
      ⟨w.registry.plus (trial.key? engine.scope), s, w.issued⟩⟩ :=
  claimBackend_of_free hready.free

/-- nothing is opened on the way to the opening -/
theorem preparing : ∀ e ∈ [.lookup trial.candidate.name true,
    .notice (.tryingDecoder trial.candidate.name)] ++
      ((trial.key? engine.scope).toList.map fun key => .notice (.claimed key)) ++ t,
    e.isPreparing := preparing_approach hready.claimed hready.acquired

theorem contexts : v.issued.contexts = w.issued.contexts := by
  rw [hready.issued]

/-- what was acquired for a candidate is given up -/
theorem abandoned : (abandon engine (trial.accel engine.scope)
    ((trial.key? engine.scope).map Claim.mk) { v with engine := s' }).world =
      ⟨w.registry, (trial.accel engine.scope).elim s' fun _ => engine.release .device s',
        { w.issued with devices := trial.device + trial.mode.toList.length }⟩ := by
  rw [world_abandon (w := { v with engine := s' }) hready.registry hready.free hready.apart,
    hready.issued]

theorem kept_abandoned (h : engine.RepliesBy a I) {result : Except EngineError κ}
    (hopen : engine.openContext trial.candidate.name settings
      ((trial.accel engine.scope).map (·.binding)) v.engine = (result, s')) :
    I ((trial.accel engine.scope).elim s' fun _ => engine.release .device s') := by
  have hkept := hready.kept
  rw [hopen] at hkept
  cases trial.accel engine.scope with
  | none => exact hkept
  | some accel => exact h.release .device hkept

theorem opened {state : κ} (hopen : engine.openContext trial.candidate.name settings
      ((trial.accel engine.scope).map (·.binding)) v.engine = (.ok state, s')) :
    (openFirst engine codec preference settings (trial.candidate :: rest) w).Chooses a engine.scope
      w.registry settings codec w.issued.contexts (trial :: trials) := by
  have hanswer := hready.answer
  rw [hopen] at hanswer
  have hdecides := Replies.decides_of_ok hanswer
  rw [openFirst_opened hready.found hready.claimed hready.acquired hopen, hready.contexts]
  refine ⟨?_, (filter_single not_isOpening hready.preparing _ (by simp)).trans ?_, fun key => ?_⟩
  · rw [List.find?_cons_of_pos hdecides, Replies.outcome, ← hanswer]
  · rw [upTo_cons_of_pos hdecides, List.map_singleton, Replies.opening, ← hanswer]
    rfl
  · have hkeys : key ∈ v.registry ↔ key ∈ w.registry ∨ key ∈ trial.key? engine.scope ∨
        key ∈ (trial.accel engine.scope).map (·.claim.key) := by
      rw [hready.registry, Registry.mem_plus, Registry.mem_plus, or_assoc]
    refine hkeys.trans (or_congr_right ?_)
    simp [OpenBackend.claims]

theorem exhausted {what : String} (hopen : engine.openContext trial.candidate.name settings
      ((trial.accel engine.scope).map (·.binding)) v.engine = (.error (.outOfMemory what), s')) :
    (openFirst engine codec preference settings (trial.candidate :: rest) w).Chooses a engine.scope
      w.registry settings codec w.issued.contexts (trial :: trials) := by
  have hanswer := hready.answer
  rw [hopen] at hanswer
  have hdecides := (Replies.decides_of_error hanswer).2 ⟨what, rfl⟩
  have hafter := leaves_abandon engine (trial.accel engine.scope)
    ((trial.key? engine.scope).map Claim.mk) { v with engine := s' }
  rw [openFirst_exhausted hready.found hready.claimed hready.acquired hopen]
  refine ⟨?_, (filter_single not_isOpening hready.preparing _
    (List.forall_mem_cons.2 ⟨rfl, hafter⟩)).trans ?_, fun key => ?_⟩
  · rw [List.find?_cons_of_pos hdecides, Replies.outcome, ← hanswer]
  · rw [upTo_cons_of_pos hdecides, List.map_singleton, Replies.opening, ← hanswer]
    rfl
  · rw [hready.abandoned]
    simp

theorem passed {cause : EngineError} (hcause : ∀ what, cause ≠ .outOfMemory what)
    (hopen : engine.openContext trial.candidate.name settings
      ((trial.accel engine.scope).map (·.binding)) v.engine = (.error cause, s'))
    (hrest : (openFirst engine codec preference settings rest ⟨w.registry,
      (trial.accel engine.scope).elim s' fun _ => engine.release .device s',
      { w.issued with devices := trial.device + trial.mode.toList.length }⟩).Chooses a engine.scope
        w.registry settings codec w.issued.contexts trials) :
    (openFirst engine codec preference settings (trial.candidate :: rest) w).Chooses a engine.scope
      w.registry settings codec w.issued.contexts (trial :: trials) := by
  have hanswer := hready.answer
  rw [hopen] at hanswer
  have hpass : ¬a.decides settings trial := by
    rw [Replies.decides_of_error hanswer]
    exact not_exists.2 hcause
  have hafter := leaves_abandon engine (trial.accel engine.scope)
    ((trial.key? engine.scope).map Claim.mk) { v with engine := s' }
  rw [← hready.abandoned] at hrest
  rw [openFirst_passed hready.found hready.claimed hready.acquired hcause hopen]
  refine hrest.pass hpass ((filter_single not_isOpening hready.preparing _
    (List.forall_mem_cons.2 ⟨rfl, hafter⟩)).trans ?_)
  rw [Replies.opening, ← hanswer]
  rfl

end Trial.Ready

/-- the first trial that decides is what a search comes to -/
theorem chooses_openFirst (h : engine.RepliesBy a I) (codec : Codec) (preference : Preference)
    (settings : CodecSettings) (list : List Candidate) (hw : I w.engine) :
    (openFirst engine codec preference settings list w).Chooses a engine.scope w.registry settings
      codec w.issued.contexts (a.trials engine.scope w.registry w.issued.devices list) := by
  induction list generalizing w with
  | nil => exact ⟨rfl, rfl, fun key => (or_iff_left (by rintro ⟨b, ⟨⟩, -⟩)).symm⟩
  | cons c rest ih =>
    rw [Replies.trials]
    by_cases heligible : a.isEligible engine.scope w.registry c
    · rw [if_pos heligible]
      obtain ⟨s, t, v, hready⟩ := exists_ready h
        ⟨c, w.issued.devices, a.modeOf engine.scope w.registry c⟩ settings hw heligible rfl rfl
      rcases hopen : engine.openContext c.name settings
        ((Trial.accel ⟨c, w.issued.devices, a.modeOf engine.scope w.registry c⟩ engine.scope).map
          (·.binding)) v.engine with ⟨cause | state, s'⟩
      · by_cases hcause : ∀ what, cause ≠ .outOfMemory what
        · -- the registry is again what it was, so the trials that follow are those of the rest
          refine hready.passed hcause hopen ?_
          let devices := w.issued.devices + (a.modeOf engine.scope w.registry c).toList.length
          exact ih (w := ⟨w.registry, _, { w.issued with devices }⟩)
            (hready.kept_abandoned h hopen)
        · obtain ⟨what, rfl⟩ : ∃ what, cause = .outOfMemory what := by simpa using hcause
          exact hready.exhausted hopen
      · exact hready.opened hopen
    · rw [if_neg heligible]
      obtain ⟨hanswer, hkept⟩ := h.hasDecoder c.name hw
      rcases hlook : engine.hasDecoder c.name w.engine with ⟨found, s⟩
      rw [hlook] at hanswer hkept
      have hrest := ih (w := { w with engine := s }) hkept
      cases found with
      | false =>
        rw [openFirst_missing hlook]
        exact hrest.skip (by simp [Event.isPreparing])
      | true =>
        obtain ⟨key, hkey, hbusy⟩ : ∃ key ∈ c.kind.key? engine.scope c.name, key ∈ w.registry := by
          rw [Replies.isEligible_iff] at heligible
          simpa [← hanswer] using heligible
        rw [openFirst_busy hlook hkey hbusy]
        exact hrest.skip (by simp [Event.isPreparing])

/-- the search for a backend tries each eligible candidate as if it were the only one, up to the first
one that opens or lacks memory, and comes to what that one comes to -/
theorem openBackend_first_open (h : engine.RepliesBy a I) (codec : Codec) (preference : Preference)
    (settings : CodecSettings) (w : World σ) (hw : I w.engine) :
    let trials := a.trials engine.scope w.registry w.issued.devices (candidates codec preference)
    let step := openBackend engine codec preference settings w
    trials.map (·.candidate) =
        (candidates codec preference).filter (a.isEligible engine.scope w.registry) ∧
      (∀ trial ∈ trials, ∀ v : World σ, I v.engine →
        v.registry = w.registry.plus (trial.key? engine.scope) → v.issued.devices = trial.device →
          (negotiate engine trial.candidate.name (a.hardwareModes trial.candidate.name) v).value =
            trial.accel engine.scope) ∧
      (∀ trial ∈ trials, a.hardwareModes trial.candidate.name = [] →
        trial.accel engine.scope = none) ∧
      step.events.filter Event.isOpening = (upTo (a.decides settings) trials).map
        (a.opening engine.scope settings w.issued.contexts) ∧
      step.value = a.outcome engine.scope settings codec w.issued.contexts
        (trials.find? (a.decides settings)) ∧
      ∀ key, key ∈ step.world.registry ↔
        key ∈ w.registry ∨ ∃ b, step.value = .ok b ∧ key ∈ b.claims.map (·.key) := by
  intro trials step
  have hstep : step.Chooses a engine.scope w.registry settings codec w.issued.contexts trials :=
    chooses_openFirst h codec preference settings _ hw
  refine ⟨a.map_candidate_trials _ _ _ _, ?_, ?_, hstep.openings, hstep.value, hstep.registry⟩
  · intro trial htrial v hv hregistry hdevice
    have hsettles := settles_negotiate (h.creates trial.candidate.name)
      (a.hardwareModes trial.candidate.name) hv
    rw [hsettles.value, hregistry, hdevice, Trial.accel, a.mode_of_mem_trials _ _ htrial]
    rfl
  · intro trial htrial hnone
    rw [Trial.accel, a.mode_of_mem_trials _ _ htrial, Replies.modeOf, hnone]
    rfl

end

/-! ## the prepared engine -/

namespace Prepared

/-- what is laid out for the choice of a backend, which uses none of it up -/
def State.replies (s : State) : Replies Context where
  hasDecoder name := (s.script? name).isSome
  hardwareModes name := ((s.script? name).map (·.modes)).getD []
  createDevice _ mode := (createDevice mode s).1
  openContext name _ bound := (openContext name (bound.map fun (device, mode) =>
    ⟨device, ⟨mode.format⟩⟩) s).1

theorem openContext_keeps (name : String) (binding : Option Binding) (s : State) :
    (openContext name binding s).2 = s := by
  unfold openContext
  split
  · rfl
  · split <;> rfl

theorem repliesBy_replies (scope : String) (padding : UInt64) (s : State) :
    (engine scope padding).RepliesBy s.replies (· = s) where
  hasDecoder name h := by
    subst h
    exact ⟨rfl, rfl⟩
  hardwareModes name h := by
    subst h
    exact ⟨rfl, rfl⟩
  creates name := ⟨fun mode h => h ▸ rfl, fun mode h => h⟩
  openPlain name settings h := by
    subst h
    exact ⟨rfl, openContext_keeps name none _⟩
  openBound settings device h hcreate := by
    subst h
    obtain rfl := congrArg Prod.snd hcreate
    exact ⟨rfl, openContext_keeps _ _ _⟩
  release kind h := h

/-- the first backend is in use, the second one has a device and cannot be opened, the last one takes
the same device -/
def crowdedWorld : World State :=
  ⟨⟨["s/backend:h264_nvv4l2"]⟩, { State.empty with scripts := [
    ⟨"h264_nvv4l2", [], none, [], [], none⟩,
    ⟨"h264_nvmpi", [⟨0, .vaapi, .vaapi, .deviceContext⟩], some (.unsupported "h264"), [], [], none⟩,
    ⟨"h264", [⟨0, .vaapi, .vaapi, .deviceContext⟩], none, [], [], none⟩] }, .none⟩

def plainSettings : CodecSettings := ⟨2, 2, ⟨0⟩, none⟩

theorem openBackend_first_open_crowded :
    let step := openBackend (engine "s" 64) .h264 .software plainSettings crowdedWorld
    step.events.filter Event.isOpening =
        [.opening "h264_nvmpi" plainSettings (some ⟨0, ⟨.vaapi⟩⟩) (.error (.unsupported "h264")),
          .opening "h264" plainSettings (some ⟨1, ⟨.vaapi⟩⟩) (.ok 0)] ∧
      ∃ b, step.value = .ok b ∧ b.candidate = ⟨"h264", .generic⟩ ∧
        b.claims.map (·.key) = ["s/device:vaapi"] := by
  obtain ⟨-, -, -, hopenings, hvalue, -⟩ := openBackend_first_open
    (repliesBy_replies "s" 64 crowdedWorld.engine) .h264 .software plainSettings crowdedWorld rfl
  exact ⟨hopenings, _, hvalue, rfl, rfl⟩

end Prepared

end StreamDecode
