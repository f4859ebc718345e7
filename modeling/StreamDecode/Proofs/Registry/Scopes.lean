import StreamDecode.Engine.Synthetic
import StreamDecode.Proofs.Registry.Footprint
import StreamDecode.Proofs.Registry.Keys
import StreamDecode.Session.Opening

/-!
# Scopes do not interfere

What goes on in one scope has the keys of this scope for its footprint.

* `within_negotiate`       a negotiation reads and changes keys of devices;
* `within_openBackend`, `within_start`   the choice of a backend and the start of a session, keys of
                           backends and devices;
* `scopes_apart`           keys of other scopes make no difference to them, and within a scope
                           neither do keys of backends to devices, nor the other way round.
-/

namespace StreamDecode

open Act

variable {σ κ : Type} (engine : Engine σ κ)

/-! ## devices -/

/-- the claim of a device has its key in `own` -/
def Accelerator.Guarded (own : Set String) (accel : Option Accelerator) : Prop :=
  ∀ a, accel = some a → a.claim.key ∈ own

theorem within_negotiate (decoder : String) (modes : List HardwareMode) :
    Within (deviceKeys engine.scope) (negotiate engine decoder modes)
      (Accelerator.Guarded (deviceKeys engine.scope)) := by
  induction modes with
  | nil => exact (passes_tell _).within.after fun _ => .pure (by rintro _ ⟨⟩)
  | cons mode rest ih =>
    rw [negotiate]
    split
    · have hkey : deviceKey engine.scope mode.device.name ∈ deviceKeys engine.scope := ⟨_, rfl⟩
      refine (within_claim hkey).bind fun r hr => ?_
      cases r with
      | error busy => exact (passes_tell _).within.after fun _ => ih
      | ok claim =>
        have hclaim : claim.key ∈ deviceKeys engine.scope := by rwa [hr claim rfl]
        refine (passes_tell _).within.after fun _ =>
          (passes_createDevice engine decoder mode).within.after fun r => ?_
        cases r with
        | ok device =>
          refine .pure ?_
          rintro a ⟨⟩
          exact hclaim
        | error cause =>
          exact (passes_tell _).within.after fun _ => (within_unclaim hclaim).after fun _ => ih
    · exact ih

theorem within_acquireAccel (decoder : String) :
    Within (deviceKeys engine.scope) (acquireAccel engine decoder)
      (Accelerator.Guarded (deviceKeys engine.scope)) := by
  refine (passes_hardwareModes engine decoder).within.after fun modes => ?_
  split
  · exact .pure (by rintro _ ⟨⟩)
  · exact within_negotiate engine decoder modes

section
variable {own : Set String} {accel : Option Accelerator} {backendClaim : Option Claim}

theorem within_disposeAccel (haccel : Accelerator.Guarded own accel) :
    Within own (disposeAccel engine accel) fun _ => True := by
  cases accel with
  | none => exact .pure trivial
  | some a =>
    exact (passes_release engine _).within.after fun _ => within_unclaim (haccel a rfl)

/-! ## backends -/

theorem within_claimBackend {candidate : Candidate}
    (hkey : backendKey engine.scope candidate.name ∈ own) :
    Within own (claimBackend engine candidate : Act σ _)
      fun r => ∀ claim, r = .ok claim → ∀ c ∈ claim, c.key ∈ own := by
  unfold claimBackend
  split
  · refine (within_claim hkey).bind fun r hr => .pure ?_
    cases r with
    | error busy => nofun
    | ok claim =>
      rintro _ ⟨⟩ c ⟨⟩
      rwa [hr claim rfl]
  · exact .pure (by rintro _ ⟨⟩ c ⟨⟩)
  · exact .pure (by rintro _ ⟨⟩ c ⟨⟩)

theorem within_abandon (haccel : Accelerator.Guarded own accel)
    (hclaim : ∀ c ∈ backendClaim, c.key ∈ own) :
    Within own (abandon engine accel backendClaim) fun _ => True :=
  (within_disposeAccel engine haccel).after fun _ => within_unclaimAll fun c hc =>
    hclaim c (Option.mem_toList.1 hc)

end

/-- the claims of an opened backend have their keys in `own` -/
def OpenBackend.Guarded (own : Set String) (b : OpenBackend κ) : Prop :=
  ∀ c ∈ b.claims, c.key ∈ own

theorem within_openFirst (codec : Codec) (preference : Preference) (settings : CodecSettings)
    {cs : List Candidate} (hcs : ∀ c ∈ cs, backendKey engine.scope c.name ∈ ownKeys engine.scope) :
    Within (ownKeys engine.scope) (openFirst engine codec preference settings cs)
      fun r => ∀ b, r = .ok b → OpenBackend.Guarded (ownKeys engine.scope) b := by
  induction cs with
  | nil => exact (passes_tell _).within.after fun _ => .pure (by rintro _ ⟨⟩)
  | cons candidate rest ih =>
    obtain ⟨hkey, hrest⟩ := List.forall_mem_cons.1 hcs
    rw [openFirst]
    refine (passes_hasDecoder engine candidate.name).within.after fun found => ?_
    split
    · refine (passes_tell _).within.after fun _ =>
        (within_claimBackend engine hkey).bind fun r hr => ?_
      cases r with
      | error busy => exact (passes_tell _).within.after fun _ => ih hrest
      | ok backendClaim =>
        have hclaim := hr backendClaim rfl
        refine ((within_acquireAccel engine candidate.name).widen Set.subset_union_right).bind
          fun accel haccel => ?_
        have haccel' : Accelerator.Guarded (ownKeys engine.scope) accel := fun a ha =>
          Set.mem_union_right _ (haccel a ha)
        refine (passes_openContext engine _ settings _).within.after fun r => ?_
        have habandon := within_abandon engine haccel' hclaim
        cases r with
        | ok context =>
          refine .pure ?_
          rintro _ ⟨⟩ c hc
          rcases List.mem_append.1 hc with hc | hc
          · exact hclaim c (Option.mem_toList.1 hc)
          · obtain ⟨a, ha, rfl⟩ := Option.map_eq_some_iff.1 (Option.mem_toList.1 hc)
            exact haccel' a ha
        | error cause =>
          cases cause with
          | outOfMemory what =>
            exact (passes_tell _).within.after fun _ => habandon.after fun _ =>
              .pure (by rintro _ ⟨⟩)
          | _ => exact (passes_tell _).within.after fun _ => habandon.after fun _ => ih hrest
    · exact (passes_tell _).within.after fun _ => ih hrest

theorem within_openBackend (codec : Codec) (preference : Preference) (settings : CodecSettings) :
    Within (ownKeys engine.scope) (openBackend engine codec preference settings)
      fun r => ∀ b, r = .ok b → OpenBackend.Guarded (ownKeys engine.scope) b :=
  within_openFirst engine codec preference settings fun c hc =>
    Set.mem_union_left _ ⟨codec, preference, c, hc, rfl⟩

/-! ## sessions -/

theorem passes_disposeDevice (device : Option BoundDevice) :
    Passes (disposeDevice engine device) := by
  cases device <;> exact fun _ _ => rfl

theorem TransferPath.passes_dispose (path : TransferPath) : Passes (path.dispose engine) := by
  cases path <;> exact fun _ _ => rfl

namespace Session

variable (config : SessionConfig) (codec : Codec) {own : Set String} {b : OpenBackend κ}

theorem within_allocPath (accel : Option Accelerator) :
    Within own (allocPath engine accel) fun _ => True := by
  cases accel with
  | none => exact .pure trivial
  | some a => exact (passes_allocFrame engine).within.after fun _ => .pure trivial

theorem within_allocRing (count : Nat) : Within own (Act.allocRing engine count) fun _ => True := by
  unfold Act.allocRing
  split
  · exact .pure trivial
  · refine (passes_allocFrames engine count).within.after fun r => ?_
    obtain ⟨frames, failure⟩ := r
    cases failure with
    | some cause => exact (passes_releaseFrames engine frames).within.after fun _ => .pure trivial
    | none => exact .pure trivial

theorem within_withdraw (hb : b.Guarded own) (path : TransferPath) :
    Within own (withdraw engine b path) fun _ => True := by
  refine (passes_disposeDevice engine b.device).within.after fun _ => ?_
  refine (path.passes_dispose engine).within.after fun _ => ?_
  exact (within_unclaimAll hb).after fun _ => (passes_release engine _).within

theorem within_furnish (hb : b.Guarded own) (path : TransferPath) :
    Within own (furnish engine config codec b path) fun _ => True := by
  have hback := within_withdraw engine hb path
  refine (within_allocRing engine _).after fun r => ?_
  rcases r with fault | cause | ring
  · exact hback.after fun _ => .pure trivial
  · exact (passes_tell _).within.after fun _ => hback.after fun _ => .pure trivial
  · exact (passes_tell _).within.after fun _ => .pure trivial

theorem within_equip (hb : b.Guarded own) :
    Within own (equip engine config codec b) fun _ => True := by
  refine (within_allocPath engine b.accel).after fun r => ?_
  cases r with
  | error cause =>
    exact (passes_tell _).within.after fun _ =>
      (within_withdraw engine hb none).after fun _ => .pure trivial
  | ok path => exact within_furnish engine config codec hb path

theorem within_start : Within (ownKeys engine.scope) (start engine config) fun _ => True := by
  unfold start
  split
  · exact .pure trivial
  · next codec _ =>
    refine (within_openBackend engine codec config.preference config.settings).bind fun r hr => ?_
    cases r with
    | error cause => exact .pure trivial
    | ok b => exact within_equip engine config codec (hr b rfl)

end Session

/-! ## scopes -/

/-- an act comes to the same in two worlds, and leaves the keys in `hidden` as it finds them -/
structure Act.Same {α : Type} (hidden : Set String) (x : Act σ α) (w v : World σ) : Prop where
  value : (x w).value = (x v).value
  events : (x w).events = (x v).events
  world : (x w).world.Agree hiddenᶜ (x v).world
  kept : ∀ k ∈ hidden, (k ∈ (x w).world.registry ↔ k ∈ w.registry) ∧
    (k ∈ (x v).world.registry ↔ k ∈ v.registry)

theorem Act.Within.same {α : Type} {own hidden : Set String} {x : Act σ α} {post : α → Prop}
    {w v : World σ} (hx : Within own x post) (hown : own ⊆ hiddenᶜ) (hw : w.Agree hiddenᶜ v) :
    x.Same hidden w v := by
  have hwide := hx.widen hown
  obtain ⟨hvalue, hevents, hworld⟩ := hwide.agree w v hw
  have hkept : ∀ u, ∀ k ∈ hidden, k ∈ (x u).world.registry ↔ k ∈ u.registry := fun u k hk =>
    hwide.kept u k (Set.notMem_compl_iff.2 hk)
  exact ⟨hvalue, hevents, hworld, fun k hk => ⟨hkept w k hk, hkept v k hk⟩⟩

/-- worlds that differ in keys of other scopes are one to a negotiation, to the choice of a backend
and to the start of a session; in the scope itself, keys of backends stand in the way of no device,
and keys of devices in the way of no backend -/
theorem scopes_apart (engine : Engine σ κ) (w v : World σ) :
    (w.Agree (foreignKeys engine.scope)ᶜ v →
      (∀ decoder modes,
        (negotiate engine decoder modes).Same (foreignKeys engine.scope) w v) ∧
      (∀ codec preference settings,
        (openBackend engine codec preference settings).Same (foreignKeys engine.scope) w v) ∧
      ∀ config, (Session.start engine config).Same (foreignKeys engine.scope) w v) ∧
    (w.Agree (Set.range (backendKey engine.scope))ᶜ v → ∀ decoder modes,
      (negotiate engine decoder modes).Same (Set.range (backendKey engine.scope)) w v) ∧
    (w.Agree (Set.range (deviceKey engine.scope))ᶜ v → ∀ candidate,
      (claimBackend engine candidate).Same (Set.range (deviceKey engine.scope)) w v) := by
  have hown := ownKeys_subset engine.scope
  refine ⟨fun hw => ⟨fun decoder modes => ?_, fun codec preference settings => ?_,
    fun config => ?_⟩, fun hw decoder modes => ?_, fun hw candidate => ?_⟩
  · exact (within_negotiate engine decoder modes).same (Set.subset_union_right.trans hown) hw
  · exact (within_openBackend engine codec preference settings).same hown hw
  · exact (Session.within_start engine config).same hown hw
  · refine (within_negotiate engine decoder modes).same ?_ hw
    rintro _ ⟨kind, rfl⟩ ⟨name, hname⟩
    exact backendKey_ne_deviceKey _ _ _ hname
  · refine (within_claimBackend engine (Set.mem_singleton _)).same ?_ hw
    rintro _ rfl ⟨name, hname⟩
    exact backendKey_ne_deviceKey _ _ _ hname.symm

/-- an engine that decodes on a device, in a world where some keys are held -/
def heldWorld (keys : List String) : World Synthetic.Ledger :=
  ⟨⟨keys⟩, .fresh [⟨"h264", true, Synthetic.deviceModes [(.vaapi, .vaapi)]⟩] [], .none⟩

theorem agree_heldWorld {hidden : Set String} {keys : List String} (h : ∀ k ∈ keys, k ∈ hidden) :
    (heldWorld []).Agree hiddenᶜ (heldWorld keys) := by
  refine ⟨fun k hk => ⟨fun hmem => ?_, fun hmem => absurd (h k hmem) hk⟩, rfl, rfl⟩
  cases hmem

/-- a scope that looks like the key of a device in another scope, which is held -/
theorem scopes_apart_nested :
    let engine := Synthetic.engine "s/device:vaapi"
    let candidate : Candidate := ⟨"h264_nvmpi", .vendor⟩
    let modes := Synthetic.deviceModes [(.vaapi, .vaapi)]
    (Session.start engine {}).Same (foreignKeys "s/device:vaapi") (heldWorld [])
      (heldWorld ["s/device:vaapi", "s/backend:h264_nvmpi"]) ∧
    (negotiate engine "h264" modes).Same (Set.range (backendKey "s/device:vaapi")) (heldWorld [])
      (heldWorld ["s/device:vaapi/backend:vaapi"]) ∧
    (claimBackend engine candidate).Same (Set.range (deviceKey "s/device:vaapi")) (heldWorld [])
      (heldWorld ["s/device:vaapi/device:h264_nvmpi"]) := by
  refine ⟨?_, ?_, ?_⟩
  · have hdevice : "s/device:vaapi" ∈ foreignKeys "s/device:vaapi" :=
      ⟨"s", by decide, .device (.device .vaapi)⟩
    have hbackend : "s/backend:h264_nvmpi" ∈ foreignKeys "s/device:vaapi" :=
      ⟨"s", by decide, .backend (.candidate (c := ⟨"h264_nvmpi", .vendor⟩)
        (by decide : _ ∈ candidates .h264 .software))⟩
    refine ((scopes_apart (Synthetic.engine "s/device:vaapi") _ _).1 (agree_heldWorld ?_)).2.2 {}
    exact List.forall_mem_cons.2 ⟨hdevice, List.forall_mem_singleton.2 hbackend⟩
  · refine (scopes_apart (Synthetic.engine "s/device:vaapi") _ _).2.1 (agree_heldWorld ?_) _ _
    exact List.forall_mem_singleton.2 ⟨"vaapi", rfl⟩
  · refine (scopes_apart (Synthetic.engine "s/device:vaapi") _ _).2.2 (agree_heldWorld ?_) _
    exact List.forall_mem_singleton.2 ⟨"h264_nvmpi", rfl⟩

end StreamDecode
