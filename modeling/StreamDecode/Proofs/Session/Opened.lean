import StreamDecode.Proofs.Custody.Session

/-!
# What a new session is like

* `Act.Yields`   a property of the value of an act, in whatever world it runs;
* `yields_openedOn`   a backend is opened on the device that was acquired for it;
* `Session.exists_of_start`   what a session is put together from;
* `Session.yields_start`   a session starts with the context that the engine opened, bound to the
                 device that was negotiated, and with a ring that has produced nothing.
-/

namespace StreamDecode

variable {σ κ α β : Type}

namespace Act

/-- the value of an act meets `post` -/
def Yields (x : Act σ α) (post : α → Prop) : Prop := ∀ w, post (x w).value

namespace Yields

variable {x : Act σ α} {post post' : α → Prop}

theorem mono (hx : Yields x post) (h : ∀ a, post a → post' a) : Yields x post' :=
  fun w => h _ (hx w)

theorem pure {a : α} (h : post a) : Yields (Pure.pure a : Act σ α) post := fun _ => h

theorem bind {f : α → Act σ β} {post : α → Prop} {post' : β → Prop} (hx : Yields x post)
    (hf : ∀ a, post a → Yields (f a) post') : Yields (x >>= f) post' :=
  fun w => hf _ (hx w) (x w).world

theorem map {f : α → β} {post : β → Prop} (hx : Yields x fun a => post (f a)) :
    Yields (f <$> x) post := fun w => hx w

/-- of the first of two acts, nothing has to be known -/
theorem after {f : α → Act σ β} {post : β → Prop} (hf : ∀ a, Yields (f a) post) :
    Yields (x >>= f) post :=
  fun w => hf _ (x w).world

/-- an act yields what it comes to in some world -/
theorem self (x : Act σ α) : Yields x fun a => ∃ w, (x w).value = a := fun w => ⟨w, rfl⟩

theorem and (hx : Yields x post) (hx' : Yields x post') : Yields x fun a => post a ∧ post' a :=
  fun w => ⟨hx w, hx' w⟩

end Yields

/-- what an act ensures when nothing is held holds of its value anyway -/
theorem Ensures.yields {scope : String} {x : Act σ α} {post : α → Prop}
    (hx : ∀ others, Ensures scope others x 0 fun a _ => post a) : Yields x post := by
  intro w
  obtain ⟨-, -, -, hpost⟩ := hx _ w (Fits.vacant w)
  exact hpost

end Act

open Act

/-- a session that was just started: `fresh` says what the engine opens a context with -/
structure Session.Opened (config : SessionConfig) (fresh : Option Binding → κ → Prop)
    (s : Session κ) : Prop where
  context : ∃ binding, fresh binding s.context.state ∧
    s.surfaceFormat = binding.map (·.choice.target)
  device : s.deviceKind.isSome = s.surfaceFormat.isSome
  preference : s.preference = config.preference
  stats : s.stats = .zero
  current : s.ring.current = none
  next : s.ring.next = 0

section
variable {engine : Engine σ κ} {fresh : Option Binding → κ → Prop}

theorem yields_openContext (decoder : String) (settings : CodecSettings) (binding : Option Binding)
    (hopen : ∀ s context s', engine.openContext decoder settings binding s = (.ok context, s') →
      fresh binding context) :
    (openContext engine decoder settings binding).Yields fun r =>
      ∀ context, r = .ok context → fresh binding context.state := by
  intro w
  unfold openContext
  rcases hresult : engine.openContext decoder settings binding w.engine with ⟨cause | state, s'⟩
  · rintro context ⟨⟩
  · rintro context ⟨⟩
    exact hopen _ _ _ hresult

/-- a backend holds the device that was acquired for its decoder, and the context that was opened on
it -/
structure OpenBackend.OpenedOn (engine : Engine σ κ) (settings : CodecSettings)
    (b : OpenBackend κ) : Prop where
  accel : ∃ w, (acquireAccel engine b.candidate.name w).value = b.accel
  context : ∃ w, (openContext engine b.candidate.name settings (b.accel.map (·.binding)) w).value =
    .ok b.context

theorem yields_openedOn (codec : Codec) (preference : Preference) (settings : CodecSettings)
    (list : List Candidate) :
    (openFirst engine codec preference settings list).Yields fun r =>
      ∀ b, r = .ok b → b.OpenedOn engine settings := by
  induction list with
  | nil => exact .after fun _ => .pure (by rintro b ⟨⟩)
  | cons c rest ih =>
    rw [openFirst]
    refine .after fun found => ?_
    split
    · refine .after fun _ => .after fun claim => ?_
      cases claim with
      | error cause => exact .after fun _ => ih
      | ok claim =>
        refine (Yields.self (acquireAccel engine c.name)).bind fun accel haccel => ?_
        refine (Yields.self (openContext engine c.name settings _)).bind fun r hr => ?_
        cases r with
        | ok context =>
          refine .pure ?_
          rintro b ⟨⟩
          exact ⟨haccel, hr⟩
        | error cause =>
          cases cause with
          | outOfMemory what =>
            exact .after fun _ => .after fun _ => .pure (by rintro b ⟨⟩)
          | _ => exact .after fun _ => .after fun _ => ih
    · exact .after fun _ => ih

theorem yields_openFirst (codec : Codec) (preference : Preference) (settings : CodecSettings)
    (hopen : ∀ decoder binding s context s',
      engine.openContext decoder settings binding s = (.ok context, s') → fresh binding context)
    (list : List Candidate) :
    (openFirst engine codec preference settings list).Yields fun r =>
      ∀ b, r = .ok b → fresh (b.accel.map (·.binding)) b.context.state := by
  refine (yields_openedOn codec preference settings list).mono fun r hr b hb => ?_
  obtain ⟨w, hcontext⟩ := (hr b hb).context
  exact yields_openContext b.candidate.name settings _ (hopen _ _) w _ hcontext

theorem yields_allocPath (accel : Option Accelerator) :
    (allocPath engine accel).Yields fun r =>
      ∀ path, r = .ok path → path.format = accel.map (·.format) := by
  cases accel with
  | none =>
    refine .pure ?_
    rintro path ⟨⟩
    rfl
  | some a =>
    refine .after fun r => .pure ?_
    cases r with
    | error cause => rintro path ⟨⟩
    | ok frame =>
      rintro path ⟨⟩
      rfl

namespace Session

variable {config : SessionConfig} {b : OpenBackend κ}

omit b config in
/-- a ring is made of all the frames that were allocated for it -/
theorem exists_of_allocRing {count : Nat} {w : World σ} {ring : Ring Frame}
    (h : (allocRing engine count w).value = .ok (.ok ring)) :
    ∃ frames, (allocFrames engine count w).value = (frames, none) ∧ ring = ⟨frames, none, 0⟩ := by
  by_cases hroom : Ring.Overflows engine.frameSize count
  · rw [allocRing_of_overflows hroom] at h
    cases h
  · rw [allocRing_of_fits hroom, value_bind] at h
    rcases halloc : allocFrames engine count w with ⟨⟨frames, failure⟩, t, v⟩
    rw [halloc] at h
    cases failure with
    | some cause => cases h
    | none =>
      cases frames with
      | nil => cases h
      | cons frame frames =>
        cases h
        exact ⟨_, rfl, rfl⟩

theorem exists_of_furnish {codec : Codec} {path : TransferPath} {w : World σ} {s : Session κ}
    (h : (furnish engine config codec b path w).value = .ok (.ok s)) :
    ∃ frames, (allocFrames engine config.bufferCount.toNat w).value = (frames, none) ∧
      s = assemble config codec b path ⟨frames, none, 0⟩ := by
  rw [furnish, value_bind] at h
  rcases halloc : allocRing engine config.bufferCount.toNat w with ⟨fault | cause | ring, t, v⟩
  · rw [halloc] at h
    cases h
  · rw [halloc] at h
    cases h
  · rw [halloc] at h
    cases h
    obtain ⟨frames, hframes, rfl⟩ := exists_of_allocRing (congrArg Step.value halloc)
    exact ⟨frames, hframes, rfl⟩

theorem exists_of_equip {codec : Codec} {w : World σ} {s : Session κ}
    (h : (equip engine config codec b w).value = .ok (.ok s)) :
    ∃ path frames v, (allocPath engine b.accel w).value = .ok path ∧
      (allocFrames engine config.bufferCount.toNat v).value = (frames, none) ∧
      s = assemble config codec b path ⟨frames, none, 0⟩ := by
  rw [equip, value_bind] at h
  rcases halloc : allocPath engine b.accel w with ⟨cause | path, t, v⟩
  · rw [halloc] at h
    cases h
  · rw [halloc] at h
    obtain ⟨frames, hframes, hs⟩ := exists_of_furnish h
    exact ⟨path, frames, v, rfl, hframes, hs⟩

/-- a session is put together from the backend that was opened and the frames that were allocated -/
theorem exists_of_start {w : World σ} {s : Session κ}
    (h : (start engine config w).value = .ok (.ok s)) :
    ∃ codec b path frames u v,
      (openBackend engine codec config.preference config.settings w).value = .ok b ∧
      (allocPath engine b.accel u).value = .ok path ∧
      (allocFrames engine config.bufferCount.toNat v).value = (frames, none) ∧
      s = assemble config codec b path ⟨frames, none, 0⟩ := by
  cases hcheck : config.check with
  | error cause =>
    rw [start_of_error hcheck] at h
    cases h
  | ok codec =>
    rcases hopen : openBackend engine codec config.preference config.settings w with
      ⟨cause | b, t, u⟩
    · rw [start_of_failed hcheck hopen] at h
      cases h
    · rw [start_of_opened hcheck hopen] at h
      obtain ⟨path, frames, v, hpath, hframes, hs⟩ := exists_of_equip h
      exact ⟨codec, b, path, frames, u, v, congrArg Step.value hopen, hpath, hframes, hs⟩

/-- a session starts with the context that the engine opened and an unused ring -/
theorem yields_start (hopen : ∀ decoder binding s context s',
    engine.openContext decoder config.settings binding s = (.ok context, s') →
      fresh binding context) :
    (start engine config).Yields fun r => ∀ s, r = .ok (.ok s) → s.Opened config fresh ∧
      s.ring.slots.length = config.bufferCount.toNat ∧ s.ring.next < s.ring.slots.length := by
  have hopened : (start engine config).Yields fun r =>
      ∀ s, r = .ok (.ok s) → s.Opened config fresh := by
    intro w s hs
    obtain ⟨codec, b, path, frames, u, v, hb, hpath, -, rfl⟩ := exists_of_start hs
    have hfresh := yields_openFirst codec config.preference config.settings hopen _ w b hb
    have hformat := yields_allocPath b.accel u path hpath
    refine ⟨⟨_, hfresh, ?_⟩, ?_, rfl, rfl, rfl, rfl⟩
    · rw [Option.map_map]
      exact hformat
    · show _ = path.format.isSome
      rw [hformat]
      simp [deviceKind, assemble, OpenBackend.device]
  have hring : (start engine config).Yields fun r => ∀ s, r = .ok (.ok s) →
      s.ring.slots.length = config.bufferCount.toNat ∧ s.ring.next < s.ring.slots.length := by
    refine Ensures.yields fun others => (ensures_start engine config).mono fun r held h => ?_
    rintro s rfl
    exact ⟨h.2.2, h.2.1.cursor⟩
  exact (hopened.and hring).mono fun r h s hs => ⟨h.1 s hs, h.2 s hs⟩

/-- whatever the engine opens contexts with -/
theorem opened_start {w : World σ} {s : Session κ}
    (hstart : (start engine config w).value = .ok (.ok s)) :
    s.Opened config fun _ _ => True :=
  (yields_start (fun _ _ _ _ _ _ => trivial) w s hstart).1

end Session

end

end StreamDecode
