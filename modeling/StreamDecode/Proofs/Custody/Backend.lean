import StreamDecode.Backend.Selection
import StreamDecode.Proofs.Custody.Ensures

/-!
# Custody of a backend

* `ensures_negotiate`   a device comes with the claim of its key, and a failed attempt leaves nothing;
* `ensures_openFirst`   a backend comes with its context, its device and its claim, and a candidate
                        that was given up leaves nothing.
-/

namespace StreamDecode

variable {σ κ : Type} (engine : Engine σ κ) {others : Set String} {held : Holdings}

open Act

namespace Accelerator

def holdings (accel : Option Accelerator) : Holdings :=
  match accel with
  | some a => {.device a.device a.claim.key}
  | none => 0

def Sound (a : Accelerator) (scope : String) : Prop :=
  a.claim.key = deviceKey scope a.deviceKind.name

end Accelerator

/-- a device comes with the claim of its key -/
theorem ensures_negotiate (decoder : String) (modes : List HardwareMode) :
    Ensures engine.scope others (negotiate engine decoder modes) held fun r held' =>
      held' = Accelerator.holdings r + held ∧ ∀ a ∈ r, a.Sound engine.scope := by
  induction modes with
  | nil =>
    refine (idles_tell rfl).ensures.bind_to fun _ => .pure ⟨(zero_add _).symm, ?_⟩
    rintro a ⟨⟩
  | cons mode rest ih =>
    rw [negotiate]
    split
    · refine (ensures_claim _).bind fun r held₁ h => ?_
      cases r with
      | error cause =>
        subst h
        exact (idles_tell rfl).ensures.bind_to fun _ => ih
      | ok claim =>
        obtain ⟨rfl, rfl⟩ := h
        refine (idles_tell rfl).ensures.bind_to fun _ => ?_
        refine (ensures_createDevice engine decoder mode held).bind fun r held₂ h => ?_
        cases r with
        | ok device =>
          refine .pure ⟨h, ?_⟩
          rintro a ⟨⟩
          rfl
        | error cause =>
          subst h
          refine (idles_tell rfl).ensures.bind_to fun _ => ?_
          exact (ensures_unclaim _ held).bind_to fun _ => ih
    · exact ih

theorem ensures_disposeAccel (accel : Option Accelerator) (rest : Holdings) :
    Ensures engine.scope others (disposeAccel engine accel) (Accelerator.holdings accel + rest)
      fun _ held' => held' = rest := by
  cases accel with
  | none => exact .pure (zero_add _)
  | some a =>
    refine (ensures_release engine (.returnDevice a.device a.claim.key) rfl rfl).bind_to fun _ => ?_
    exact ensures_unclaim a.claim rest

theorem ensures_acquireAccel (decoder : String) :
    Ensures engine.scope others (acquireAccel engine decoder) held fun r held' =>
      held' = Accelerator.holdings r + held ∧ ∀ a ∈ r, a.Sound engine.scope := by
  refine (idles_hardwareModes engine decoder).ensures.bind_to fun modes => ?_
  split
  · refine .pure ⟨(zero_add _).symm, ?_⟩
    rintro a ⟨⟩
  · exact ensures_negotiate engine decoder modes

theorem ensures_claimBackend (c : Candidate) :
    Ensures engine.scope others (claimBackend engine c) held fun r held' => match r with
      | .ok claim => claim.map (·.key) = c.kind.key? engine.scope c.name ∧
          held' = spare (claim.map (·.key)) + held
      | .error _ => held' = held := by
  unfold claimBackend
  split
  · next hkind =>
    refine (ensures_claim _).bind fun r held₁ h => .pure ?_
    cases r with
    | error cause => exact h
    | ok claim =>
      obtain ⟨rfl, rfl⟩ := h
      simp [Except.map, BackendKind.key?, hkind]
  all_goals
    next hkind => exact .pure ⟨by simp [BackendKind.key?, hkind], (zero_add _).symm⟩

theorem ensures_abandon (accel : Option Accelerator) (claim : Option Claim) (rest : Holdings) :
    Ensures engine.scope others (abandon engine accel claim)
      (Accelerator.holdings accel + (spare (claim.map (·.key)) + rest))
      fun _ held' => held' = rest := by
  refine (ensures_disposeAccel engine accel _).bind_to fun _ => ?_
  cases claim with
  | none => exact ensures_unclaimAll [] rest
  | some c => exact ensures_unclaimAll [c] rest

namespace OpenBackend

def key? (b : OpenBackend κ) (scope : String) : Option String :=
  b.candidate.kind.key? scope b.candidate.name

def holdings (b : OpenBackend κ) (scope : String) : Holdings :=
  {.context b.context.id (b.key? scope)} + Accelerator.holdings b.accel

/-- the claims are those of the backend and of the device -/
structure Sound (b : OpenBackend κ) (scope : String) : Prop where
  backend : b.backendClaim.map (·.key) = b.key? scope
  accel : ∀ a ∈ b.accel, a.Sound scope

end OpenBackend

variable {engine} in
/-- a backend comes with its context, its device and its claim -/
theorem ensures_openFirst (codec : Codec) (preference : Preference) (settings : CodecSettings)
    {list : List Candidate}
    (hlist : ∀ c ∈ list, backingKey engine.scope c.name = c.kind.key? engine.scope c.name) :
    Ensures engine.scope others (openFirst engine codec preference settings list) held
      fun r held' => match r with
        | .ok b => held' = b.holdings engine.scope + held ∧ b.Sound engine.scope
        | .error _ => held' = held := by
  induction list with
  | nil => exact (idles_tell rfl).ensures.bind_to fun _ => .pure rfl
  | cons c rest ih =>
    have ih := ih fun c' hc' => hlist c' (List.mem_cons_of_mem _ hc')
    have hkey := hlist c List.mem_cons_self
    rw [openFirst]
    refine (idles_hasDecoder engine c.name).ensures.bind_to fun found => ?_
    split
    · refine (idles_tell rfl).ensures.bind_to fun _ => ?_
      refine (ensures_claimBackend engine c).bind fun r held₁ h => ?_
      cases r with
      | error cause =>
        subst h
        exact (idles_tell rfl).ensures.bind_to fun _ => ih
      | ok claim =>
        obtain ⟨hclaim, rfl⟩ := h
        refine (ensures_acquireAccel engine c.name).bind fun accel held₂ h => ?_
        obtain ⟨rfl, haccel⟩ := h
        rw [add_left_comm, hclaim, ← hkey]
        refine (ensures_openContext engine c.name settings _ _).bind fun r held₃ h => ?_
        cases r with
        | ok context =>
          subst h
          refine .pure ⟨?_, hclaim, haccel⟩
          rw [OpenBackend.holdings, add_assoc, OpenBackend.key?, hkey]
        | error cause =>
          subst h
          rw [add_left_comm, hkey, ← hclaim]
          cases cause with
          | outOfMemory what =>
            refine (idles_tell rfl).ensures.bind_to fun _ => ?_
            exact (ensures_abandon engine accel claim held).bind_to fun _ => .pure rfl
          | _ =>
            refine (idles_tell rfl).ensures.bind_to fun _ => ?_
            exact (ensures_abandon engine accel claim held).bind_to fun _ => ih
    · exact (idles_tell rfl).ensures.bind_to fun _ => ih

theorem ensures_openBackend (codec : Codec) (preference : Preference) (settings : CodecSettings) :
    Ensures engine.scope others (openBackend engine codec preference settings) held
      fun r held' => match r with
        | .ok b => held' = b.holdings engine.scope + held ∧ b.Sound engine.scope
        | .error _ => held' = held :=
  ensures_openFirst codec preference settings fun _ hc => backingKey_of_mem _ hc

end StreamDecode
