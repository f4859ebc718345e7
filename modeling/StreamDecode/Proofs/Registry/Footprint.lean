import StreamDecode.Backend.Negotiation
import StreamDecode.Proofs.Session.Opened
import Mathlib.Data.Set.Basic

/-!
# Footprints

`Act.Within own x`: of the registry, the act `x` reads and changes the keys in `own` only.  In
worlds that differ in other keys it comes to the same, and leaves the other keys as they are.

* `Within.bind`, `Within.widen`   footprints of acts in a row;
* `within_claim`, `within_unclaim`   acts on the registry;
* `Passes.within`      a question to an engine has no footprint at all.
-/

namespace StreamDecode

variable {σ κ α β : Type}

/-- worlds that may differ in keys outside `own` -/
structure World.Agree (own : Set String) (w v : World σ) : Prop where
  registry : ∀ k ∈ own, k ∈ w.registry ↔ k ∈ v.registry
  engine : w.engine = v.engine
  issued : w.issued = v.issued

namespace Act

/-- of the registry, an act reads and changes the keys in `own` only; its value meets `post` -/
structure Within (own : Set String) (x : Act σ α) (post : α → Prop) : Prop where
  agree : ∀ w v, w.Agree own v → (x w).value = (x v).value ∧ (x w).events = (x v).events ∧
    (x w).world.Agree own (x v).world
  kept : ∀ w, ∀ k ∉ own, k ∈ (x w).world.registry ↔ k ∈ w.registry
  yields : x.Yields post

namespace Within

variable {own own' : Set String} {x : Act σ α} {post : α → Prop}

theorem widen (hx : Within own x post) (h : own ⊆ own') : Within own' x post where
  agree := by
    intro w v hw
    obtain ⟨hvalue, hevents, hworld⟩ :=
      hx.agree w v { hw with registry := fun k hk => hw.registry k (h hk) }
    refine ⟨hvalue, hevents, { hworld with registry := fun k hk => ?_ }⟩
    by_cases hown : k ∈ own
    · exact hworld.registry k hown
    · rw [hx.kept w k hown, hx.kept v k hown]
      exact hw.registry k hk
  kept := fun w k hk => hx.kept w k fun hown => hk (h hown)
  yields := hx.yields

theorem pure {a : α} (h : post a) : Within own (Pure.pure a : Act σ α) post :=
  ⟨fun _ _ hw => ⟨rfl, rfl, hw⟩, fun _ _ _ => .rfl, .pure h⟩

theorem bind {f : α → Act σ β} {post' : β → Prop} (hx : Within own x post)
    (hf : ∀ a, post a → Within own (f a) post') : Within own (x >>= f) post' where
  agree := by
    intro w v hw
    obtain ⟨hvalue, hevents, hworld⟩ := hx.agree w v hw
    obtain ⟨hvalue', hevents', hworld'⟩ := (hf _ (hx.yields w)).agree _ _ hworld
    rw [value_bind, value_bind, events_bind, events_bind, world_bind, world_bind, ← hvalue,
      hevents, hevents']
    exact ⟨hvalue', rfl, hworld'⟩
  kept := by
    intro w k hk
    rw [world_bind, (hf _ (hx.yields w)).kept _ k hk, hx.kept w k hk]
  yields := hx.yields.bind fun a ha => (hf a ha).yields

/-- of the first of two acts, the value does not matter -/
theorem after {f : α → Act σ β} {post' : β → Prop} (hx : Within own x post)
    (hf : ∀ a, Within own (f a) post') : Within own (x >>= f) post' := hx.bind fun a _ => hf a

end Within

/-! ## acts on the registry -/

section
variable {own : Set String} {key : String}

theorem within_claim (hkey : key ∈ own) :
    Within own (claim key : Act σ (Except SessionError Claim))
      fun r => ∀ c, r = .ok c → c.key = key where
  agree := by
    intro w v hw
    unfold claim
    cases hclaim : w.registry.claim? key with
    | none =>
      have hmem := (hw.registry key hkey).1 ((Registry.claim?_eq_none_iff _ _).1 hclaim)
      rw [(Registry.claim?_eq_none_iff _ _).2 hmem]
      exact ⟨rfl, rfl, hw⟩
    | some registry =>
      have hfree : key ∉ v.registry := fun hmem => by
        rw [(Registry.claim?_eq_none_iff _ _).2 ((hw.registry key hkey).2 hmem)] at hclaim
        cases hclaim
      obtain ⟨registry', hclaim'⟩ := Option.ne_none_iff_exists'.1
        (mt (Registry.claim?_eq_none_iff _ _).1 hfree)
      rw [hclaim']
      refine ⟨rfl, rfl, { hw with registry := fun k hk => ?_ }⟩
      rw [Registry.mem_claim? hclaim, Registry.mem_claim? hclaim', hw.registry k hk]
  kept := by
    intro w k hk
    unfold claim
    cases hclaim : w.registry.claim? key with
    | none => exact .rfl
    | some registry =>
      have hne : k ≠ key := fun h => hk (h ▸ hkey)
      show k ∈ registry ↔ _
      rw [Registry.mem_claim? hclaim, or_iff_right hne]
  yields := by
    intro w c hc
    unfold claim at hc
    split at hc
    · cases hc
      rfl
    · cases hc

theorem within_unclaim {c : Claim} (hkey : c.key ∈ own) :
    Within own (unclaim c : Act σ Unit) fun _ => True where
  agree := by
    intro w v hw
    refine ⟨rfl, rfl, { hw with registry := fun k hk => ?_ }⟩
    show k ∈ w.registry.release c.key ↔ k ∈ v.registry.release c.key
    rw [Registry.mem_release, Registry.mem_release, hw.registry k hk]
  kept := by
    intro w k hk
    have hne : k ≠ c.key := fun h => hk (h ▸ hkey)
    show k ∈ w.registry.release c.key ↔ _
    rw [Registry.mem_release, and_iff_left hne]
  yields := fun _ => trivial

theorem within_unclaimAll {claims : List Claim} (hkeys : ∀ c ∈ claims, c.key ∈ own) :
    Within own (unclaimAll claims : Act σ Unit) fun _ => True := by
  induction claims with
  | nil => exact .pure trivial
  | cons c claims ih =>
    obtain ⟨hkey, hrest⟩ := List.forall_mem_cons.1 hkeys
    exact (within_unclaim hkey).after fun _ => ih hrest

end

/-! ## questions to an engine -/

/-- an act has nothing to do with the registry -/
def Passes (x : Act σ α) : Prop :=
  ∀ w registry, x { w with registry } = { x w with world := { (x w).world with registry } }

theorem Passes.registry {x : Act σ α} (hx : Passes x) (w : World σ) :
    (x w).world.registry = w.registry := by
  have hsame := hx w w.registry
  rw [hsame]

theorem Passes.within {own : Set String} {x : Act σ α} (hx : Passes x) :
    Within own x fun _ => True where
  agree := by
    intro w v hw
    have hv : v = { w with registry := v.registry } := by
      rw [hw.engine, hw.issued]
    have hstep : x v = { x w with world := { (x w).world with registry := v.registry } } := by
      rw [← hx, ← hv]
    rw [hstep]
    refine ⟨rfl, rfl, fun k hk => ?_, rfl, rfl⟩
    rw [hx.registry]
    exact hw.registry k hk
  kept := by
    intro w k _
    rw [hx.registry]
  yields := fun _ => trivial

theorem passes_tell (n : Notice) : Passes (tell n : Act σ Unit) := fun _ _ => rfl

section
variable (engine : Engine σ κ)

theorem passes_hasDecoder (decoder : String) : Passes (hasDecoder engine decoder) :=
  fun _ _ => rfl

theorem passes_hardwareModes (decoder : String) : Passes (hardwareModes engine decoder) :=
  fun _ _ => rfl

theorem passes_createDevice (decoder : String) (mode : HardwareMode) :
    Passes (createDevice engine decoder mode) := by
  intro w registry
  unfold createDevice
  dsimp only
  split <;> rfl

theorem passes_openContext (decoder : String) (settings : CodecSettings)
    (binding : Option Binding) : Passes (openContext engine decoder settings binding) := by
  intro w registry
  unfold openContext
  dsimp only
  split <;> rfl

theorem passes_allocFrame : Passes (allocFrame engine) := by
  intro w registry
  unfold allocFrame
  dsimp only
  split <;> rfl

theorem passes_allocFrames (count : Nat) : Passes (allocFrames engine count) := fun _ _ => rfl

theorem passes_release (r : Resource) : Passes (release engine r) := fun _ _ => rfl

theorem passes_releaseFrames (frames : List Frame) : Passes (releaseFrames engine frames) :=
  fun _ _ => rfl

end

end Act

end StreamDecode
