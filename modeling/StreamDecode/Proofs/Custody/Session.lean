import StreamDecode.Proofs.Custody.Backend
import StreamDecode.Proofs.Session.Calls
import StreamDecode.Session.Opening

/-!
# Custody of a session

* `Session.holdings`   what a session holds, from its start to its end;
* `ensures_start`      a start leaves that, or nothing;
* `ensures_dispose`    the end of a session leaves nothing;
* `idles_decode`, `idles_nextFrame`, `idles_reset`   the calls in between change none of it.
-/

namespace StreamDecode

variable {σ κ : Type} {others : Set String} {held : Holdings}

open Act

/-! ## what a session holds -/

def BoundDevice.key (d : BoundDevice) (scope : String) : String :=
  deviceKey scope d.deviceKind.name

def deviceHoldings (device : Option BoundDevice) (scope : String) : Holdings :=
  match device with
  | some d => {.device d.id (d.key scope)}
  | none => 0

def TransferPath.holdings (path : TransferPath) : Holdings :=
  match path with
  | some staging => {.frame staging.frame.id}
  | none => 0

namespace Session

variable (s : Session κ) (scope : String)

def key? : Option String := s.backend.key? scope s.decoder

def deviceKey? : Option String := s.device.map (·.key scope)

/-- what a session holds -/
def holdings : Holdings :=
  {.context s.context.id (s.key? scope)} +
    (deviceHoldings s.device scope + (s.path.holdings + .ofFrames s.ring.slots))

/-- the parts of a session fit together -/
structure Sound : Prop where
  claims : s.claims.map (·.key) = (s.key? scope).toList ++ (s.deviceKey? scope).toList
  staging : s.path.isSome = s.device.isSome
  cursor : s.ring.next < s.ring.slots.length

/-- the session `s'` holds what `s` holds -/
structure Continues (s s' : Session κ) : Prop where
  context : s'.context.id = s.context.id
  device : s'.device = s.device
  claims : s'.claims = s.claims
  decoder : s'.decoder = s.decoder
  backend : s'.backend = s.backend
  staging : s'.path.map (·.frame.id) = s.path.map (·.frame.id)
  slots : s'.ring.slots.map (·.id) = s.ring.slots.map (·.id)
  cursor : s.ring.next < s.ring.slots.length → s'.ring.next < s'.ring.slots.length

end Session

/-- the holdings of frames depend on the numbers of the frames alone -/
theorem Holdings.ofFrames_congr {f g : List Frame} (h : f.map (·.id) = g.map (·.id)) :
    ofFrames f = ofFrames g := by
  have hmap := congrArg (List.map Holding.frame) h
  rw [List.map_map, List.map_map] at hmap
  exact congrArg (fun l : List Holding => (↑l : Holdings)) hmap

theorem TransferPath.holdings_congr {p q : TransferPath}
    (h : p.map (·.frame.id) = q.map (·.frame.id)) : p.holdings = q.holdings := by
  cases p <;> cases q <;> simp_all [TransferPath.holdings]

namespace Session.Continues

variable {s s' s'' : Session κ} {scope : String}

theorem refl (s : Session κ) : Continues s s := ⟨rfl, rfl, rfl, rfl, rfl, rfl, rfl, id⟩

theorem trans (h : Continues s s') (h' : Continues s' s'') : Continues s s'' where
  context := h'.context.trans h.context
  device := h'.device.trans h.device
  claims := h'.claims.trans h.claims
  decoder := h'.decoder.trans h.decoder
  backend := h'.backend.trans h.backend
  staging := h'.staging.trans h.staging
  slots := h'.slots.trans h.slots
  cursor := h'.cursor ∘ h.cursor

theorem key? (h : Continues s s') : s'.key? scope = s.key? scope := by
  rw [Session.key?, h.backend, h.decoder, Session.key?]

theorem holdings (h : Continues s s') : s'.holdings scope = s.holdings scope := by
  rw [Session.holdings, Session.holdings, h.context, h.key?, h.device,
    TransferPath.holdings_congr h.staging, Holdings.ofFrames_congr h.slots]

theorem sound (h : Continues s s') (hs : s.Sound scope) : s'.Sound scope where
  claims := by rw [h.claims, h.key?, deviceKey?, h.device, hs.claims, deviceKey?]
  staging := by
    have hsome : s'.path.isSome = s.path.isSome := by
      simpa using congrArg Option.isSome h.staging
    rw [hsome, h.device, hs.staging]
  cursor := h.cursor hs.cursor

end Session.Continues

/-! ## the end -/

section
variable (engine : Engine σ κ)

theorem TransferPath.ensures_dispose (path : TransferPath) (rest : Holdings) :
    Ensures engine.scope others (path.dispose engine) (path.holdings + rest)
      fun _ held' => held' = rest := by
  cases path with
  | none => exact .pure (zero_add _)
  | some staging =>
    exact ensures_release engine (.returnFrame staging.frame.id) rfl (zero_add _).symm

theorem ensures_disposeDevice (device : Option BoundDevice) (rest : Holdings) :
    Ensures engine.scope others (disposeDevice engine device)
      (deviceHoldings device engine.scope + rest)
      fun _ held' => held' = spare (device.map (·.key engine.scope)) + rest := by
  cases device with
  | none => exact .pure rfl
  | some d => exact ensures_release engine (.returnDevice d.id (d.key engine.scope)) rfl rfl

theorem Session.ensures_dispose {s : Session κ} (hs : s.Sound engine.scope) :
    Ensures engine.scope others (s.dispose engine) (s.holdings engine.scope)
      fun _ held' => held' = 0 := by
  unfold Session.dispose Session.holdings
  rw [add_left_comm (deviceHoldings _ _), add_left_comm]
  refine (TransferPath.ensures_dispose engine s.path _).bind_to fun _ => ?_
  rw [add_left_comm]
  refine (ensures_disposeDevice engine s.device _).bind_to fun _ => ?_
  rw [add_left_comm, ← bind_assoc]
  refine (ensures_windUp engine hs.claims s.context.id s.ring.slots).bind_to fun _ => ?_
  rw [← add_zero (Holdings.ofFrames s.ring.slots)]
  exact ensures_releaseFrames engine s.ring.slots 0

theorem Session.ensures_destroy {s : Session κ} (hs : s.Sound engine.scope) :
    Ensures engine.scope others (s.destroy engine) (s.holdings engine.scope)
      fun _ held' => held' = 0 :=
  (idles_tell rfl).ensures.bind_to fun _ => Session.ensures_dispose engine hs

end

/-! ## the start -/

section
variable (engine : Engine σ κ)

namespace OpenBackend

variable {b : OpenBackend κ} {scope : String}

theorem Sound.claims (h : b.Sound scope) :
    b.claims.map (·.key) = (b.key? scope).toList ++ (b.device.map (·.key scope)).toList := by
  rw [OpenBackend.claims, OpenBackend.device, List.map_append, ← h.backend]
  congr 1
  · cases b.backendClaim <;> rfl
  · cases haccel : b.accel with
    | none => rfl
    | some a =>
      have hkey : a.claim.key = deviceKey scope a.deviceKind.name := h.accel a haccel
      simp [BoundDevice.key, hkey]

theorem Sound.holdings (h : b.Sound scope) :
    b.holdings scope = {.context b.context.id (b.key? scope)} + deviceHoldings b.device scope := by
  rw [OpenBackend.holdings, OpenBackend.device]
  cases haccel : b.accel with
  | none => rfl
  | some a =>
    have hkey : a.claim.key = deviceKey scope a.deviceKind.name := h.accel a haccel
    rw [Accelerator.holdings, hkey]
    rfl

theorem Sound.ensures_windUp (hb : b.Sound engine.scope) :
    Ensures engine.scope others
      (unclaimAll b.claims >>= fun _ => release engine (.context b.context.id))
      ({.context b.context.id (b.key? engine.scope)} +
        spare (b.device.map (·.key engine.scope)))
      fun _ held' => held' = 0 := by
  rw [← add_zero (spare _), ← Holdings.ofFrames_nil]
  exact Act.ensures_windUp engine hb.claims b.context.id []

end OpenBackend

theorem ensures_allocPath (accel : Option Accelerator) :
    Ensures engine.scope others (allocPath engine accel) held fun r held' => match r with
      | .ok path => held' = path.holdings + held ∧ path.isSome = accel.isSome
      | .error _ => held' = held := by
  cases accel with
  | none => exact .pure ⟨(zero_add _).symm, rfl⟩
  | some a =>
    refine (ensures_allocFrame engine).bind fun r held₁ h => .pure ?_
    cases r with
    | error cause => exact h
    | ok frame => exact ⟨h, rfl⟩

namespace Session

/-- what is left of a start that came to `r`: what the session holds, or nothing; the only fault is
that there can be no room for the ring -/
def Leaves (config : SessionConfig) (r : Except Fault (Except SessionError (Session κ)))
    (held : Holdings) : Prop :=
  match r with
  | .ok (.ok s) => held = s.holdings engine.scope ∧ s.Sound engine.scope ∧
      s.ring.slots.length = config.bufferCount.toNat
  | .ok (.error _) => held = 0
  | .error fault => held = 0 ∧ Ring.Overflows engine.frameSize config.bufferCount.toNat ∧
      fault = .capacityOverflow

variable {engine} {b : OpenBackend κ}

theorem ensures_withdraw (hb : b.Sound engine.scope) (path : TransferPath) :
    Ensures engine.scope others (withdraw engine b path)
      (path.holdings + b.holdings engine.scope) fun _ held' => held' = 0 := by
  unfold withdraw
  rw [hb.holdings, ← add_assoc, add_comm (path.holdings + _)]
  refine (ensures_disposeDevice engine b.device _).bind_to fun _ => ?_
  rw [add_left_comm]
  refine (TransferPath.ensures_dispose engine path _).bind_to fun _ => ?_
  rw [add_comm]
  exact hb.ensures_windUp engine

/-- a ring that was allocated in full makes a session, and all else leaves nothing -/
theorem ensures_furnish {config : SessionConfig} (codec : Codec) (hb : b.Sound engine.scope)
    {path : TransferPath} (hpath : path.isSome = b.device.isSome) (hcount : config.bufferCount ≠ 0) :
    Ensures engine.scope others (furnish engine config codec b path)
      (path.holdings + b.holdings engine.scope)
      (Leaves engine config) := by
  have hcount' : config.bufferCount.toNat ≠ 0 := fun h => hcount (UInt64.toNat_inj.1 h)
  refine (ensures_allocRing engine hcount').bind fun r held₁ h => ?_
  rcases r with fault | cause | ring
  · obtain ⟨rfl, hoverflows, rfl⟩ := h
    exact (ensures_withdraw hb path).bind_to fun _ => .pure ⟨rfl, hoverflows, rfl⟩
  · subst h
    refine (idles_tell rfl).ensures.bind_to fun _ => ?_
    exact (ensures_withdraw hb path).bind_to fun _ => .pure rfl
  · obtain ⟨rfl, hlen, hnext⟩ := h
    refine (idles_tell rfl).ensures.bind_to fun _ => .pure ⟨?_, ?_, hlen⟩
    · rw [hb.holdings, holdings, add_comm, add_comm path.holdings, add_assoc, add_assoc]
      rfl
    · have hcursor : ring.next < ring.slots.length := by
        rw [hnext, hlen]
        exact Nat.pos_of_ne_zero hcount'
      exact ⟨hb.claims, hpath, hcursor⟩

theorem ensures_equip {config : SessionConfig} (codec : Codec) (hb : b.Sound engine.scope)
    (hcount : config.bufferCount ≠ 0) :
    Ensures engine.scope others (equip engine config codec b) (b.holdings engine.scope)
      (Leaves engine config) := by
  refine (ensures_allocPath engine b.accel).bind fun r held₁ h => ?_
  cases r with
  | ok path =>
    obtain ⟨rfl, hpath⟩ := h
    exact ensures_furnish codec hb (by rw [hpath, OpenBackend.device, Option.isSome_map]) hcount
  | error cause =>
    subst h
    refine (idles_tell rfl).ensures.bind_to fun _ => ?_
    rw [← zero_add (b.holdings _)]
    exact (ensures_withdraw hb none).bind_to fun _ => .pure rfl

/-- a configuration that passes its checks asks for a frame at least -/
theorem bufferCount_ne_zero {config : SessionConfig} {codec : Codec}
    (h : config.check = .ok codec) : config.bufferCount ≠ 0 := by
  intro hzero
  unfold SessionConfig.check SessionConfig.validate SessionConfig.defect at h
  split_ifs at h

variable (engine) in
theorem ensures_start (config : SessionConfig) :
    Ensures engine.scope others (start engine config) 0 (Leaves engine config) := by
  unfold start
  split
  · exact .pure rfl
  · next codec hcheck =>
    refine (ensures_openBackend engine codec config.preference config.settings).bind fun r held₁ h => ?_
    cases r with
    | error cause => exact .pure h
    | ok b =>
      obtain ⟨rfl, hb⟩ := h
      rw [add_zero]
      exact ensures_equip codec hb (bufferCount_ne_zero hcheck)

end Session

end

/-! ## the calls in between -/

section
variable (engine : Engine σ κ)

theorem TransferPath.idles_resolve (path : TransferPath) (source : Option Nat)
    (picture : Picture) :
    (path.resolve engine source picture).Idles fun r =>
      r.2.map (·.frame.id) = path.map (·.frame.id) := by
  cases path with
  | none => exact .pure rfl
  | some staging =>
    rw [TransferPath.resolve]
    split
    · exact (idles_transfer engine _ _ _).bind fun r hr => .pure (congrArg some hr)
    · exact .pure rfl

namespace Session

variable {s : Session κ}

/-- the call is answered, and leaves a session that holds what it held before -/
abbrev Answers {α : Type} (s : Session κ) (r : Outcome κ α) : Prop :=
  ∃ answer s', r = .ok (answer, s') ∧ s.Continues s'

/-- what a codec context does and what is counted is no matter of custody -/
theorem Continues.of_context {s : Session κ} {context : OpenContext κ} (stats : Stats)
    (h : context.id = s.context.id) : s.Continues { s with context, stats } :=
  { refl s with context := h }

theorem idles_submit (s : Session κ) (payload : Bytes) :
    (s.submit engine payload).Idles fun r => s.Continues r.2 := by
  refine (Act.idles_submit engine payload s.context).bind fun ⟨result, context⟩ hid => ?_
  cases result with
  | ok => exact .pure (.of_context _ hid)
  | error cause => exact (idles_tell rfl).bind fun _ _ => .pure (.of_context _ hid)

theorem idles_decode (s : Session κ) (buf : Bytes) (len : UInt64) :
    (s.decode engine buf len).Idles s.Answers := by
  by_cases h : buf.length < requiredSize len engine.padding
  · rw [decode_of_short engine h]
    exact .pure ⟨_, _, rfl, .refl s⟩
  · rw [decode_of_padded engine h]
    exact (idles_submit engine s _).bind fun r hr => .pure ⟨_, _, rfl, hr⟩

theorem idles_decodePacket (s : Session κ) (packet : Packet) :
    (s.decodePacket engine packet).Idles s.Answers := idles_decode engine s _ _

theorem idles_handOut (s : Session κ) (slot : Nat) (frame : Frame) :
    (s.handOut engine slot frame).Idles fun r => s.Continues r.2 := by
  refine (s.path.idles_resolve engine (some frame.id) frame.picture).bind
    fun ⟨result, path⟩ hpath => ?_
  cases result with
  | ok resolution => cases resolution <;> exact .pure { Continues.refl s with staging := hpath }
  | error cause =>
    exact (idles_tell rfl).bind fun _ _ => .pure { Continues.refl s with staging := hpath }

/-- the picture that was received is produced if the cursor of the ring is in range -/
theorem idles_produce (hcursor : s.ring.next < s.ring.slots.length) (hostVisible : Bool) :
    (s.produce engine hostVisible).Idles s.Answers := by
  unfold produce
  rw [Ring.advance_of_lt hcursor]
  have hnext : (s.ring.next + 1) % s.ring.slots.length < s.ring.slots.length :=
    Nat.mod_lt _ (Nat.zero_lt_of_lt hcursor)
  dsimp only
  split
  · refine (idles_handOut engine _ _ _).bind fun r hr => .pure ⟨_, _, rfl, .trans ?_ hr⟩
    exact { Continues.refl s with cursor := fun _ => hnext }
  · exact .pure ⟨_, _, rfl, { Continues.refl s with cursor := fun _ => hnext }⟩

theorem ids_write {ring : Ring Frame} {frame : Frame} (h : ring.next < ring.slots.length)
    (hid : frame.id = ring.slots[ring.next].id) :
    (ring.write frame).slots.map (·.id) = ring.slots.map (·.id) := by
  rw [Ring.write, List.map_set, hid]
  apply List.ext_getElem (by simp)
  intro i hi hi'
  rw [List.getElem_set]
  split
  · next heq => simp [heq]
  · rfl

theorem idles_nextFrame (hcursor : s.ring.next < s.ring.slots.length) (hostVisible : Bool) :
    (s.nextFrame engine hostVisible).Idles s.Answers := by
  unfold nextFrame
  rw [Ring.acquire_of_lt hcursor]
  refine (idles_receive engine _ s.context).bind fun ⟨result, frame, context⟩ ⟨hframe, hid⟩ => ?_
  have hlen : (s.ring.write frame).slots.length = s.ring.slots.length := List.length_set
  have hcursor' : (s.ring.write frame).next < (s.ring.write frame).slots.length := by
    rw [hlen]
    exact hcursor
  have hs : s.Continues { s with context, ring := s.ring.write frame } :=
    { Continues.refl s with
      context := hid
      slots := ids_write hcursor hframe
      cursor := fun _ => hcursor' }
  cases result with
  | ok =>
    refine (idles_produce engine hcursor' hostVisible).mono fun r ⟨answer, s', hr, hs'⟩ => ?_
    exact ⟨answer, s', hr, hs.trans hs'⟩
  | error cause =>
    dsimp only
    split
    · exact .pure ⟨_, _, rfl, hs⟩
    · exact (idles_tell rfl).bind fun _ _ => .pure ⟨_, _, rfl, hs.trans (.of_context _ rfl)⟩

theorem idles_reset (s : Session κ) : (s.reset engine).Idles s.Continues :=
  (idles_tell rfl).bind fun _ _ =>
    (Act.idles_flush engine s.context).bind fun _ hid => .pure (.of_context _ hid)

end Session

end

end StreamDecode
