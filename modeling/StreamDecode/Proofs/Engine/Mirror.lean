import StreamDecode.Proofs.Backend.Negotiation
import StreamDecode.Proofs.Session.Kinds

/-!
# Engines that differ in their hardware modes

`Engine.Mirrors engine plain`: the two answer alike, but `plain` advertises no hardware modes.
`Act.Mirrors x y`: from worlds that are alike, an act on the one and an act on the other lead to
worlds that are alike, as long as no device is created.

* `negotiate_createsNothing`  a negotiation creates no device if there is none to be had;
* `mirrors_acquireAccel`      it leaves no trace in the world then;
* `mirrors_allocFrame`, `mirrors_receive` and the like   the other questions to an engine.
-/

namespace StreamDecode

variable {σ τ κ μ α α' β β' ε : Type}

/-- results with the same error, or with values that are related -/
inductive Matches (P : α → β → Prop) : Except ε α → Except ε β → Prop
  | error (e : ε) : Matches P (.error e) (.error e)
  | ok {a : α} {b : β} (h : P a b) : Matches P (.ok a) (.ok b)

theorem Matches.exists_ok {P : α → β → Prop} {a : α} {r : Except ε β} (h : Matches P (.ok a) r) :
    ∃ b, r = .ok b ∧ P a b := by
  cases h with
  | ok h => exact ⟨_, rfl, h⟩

/-- the engines answer alike, with states related by `R` and contexts by `Q`, and their frames take
the same room, but `plain` has no hardware modes; a device that could not be created leaves no mark -/
structure Engine.Mirrors (engine : Engine σ κ) (plain : Engine τ μ) (R : σ → τ → Prop)
    (Q : κ → μ → Prop) : Prop where
  scope : plain.scope = engine.scope
  padding : plain.padding = engine.padding
  frameSize : plain.frameSize = engine.frameSize
  hasDecoder {s t} (decoder : String) (h : R s t) :
    (engine.hasDecoder decoder s).1 = (plain.hasDecoder decoder t).1 ∧
      R (engine.hasDecoder decoder s).2 (plain.hasDecoder decoder t).2
  hardwareModes {s t} (decoder : String) (h : R s t) :
    (plain.hardwareModes decoder t).1 = [] ∧
      R (engine.hardwareModes decoder s).2 (plain.hardwareModes decoder t).2
  createDevice {s s' t cause} (decoder : String) (mode : HardwareMode) (h : R s t)
    (hfail : engine.createDevice decoder mode s = (.error cause, s')) : R s' t
  openContext {s t} (decoder : String) (settings : CodecSettings) (h : R s t) :
    Matches Q (engine.openContext decoder settings none s).1
        (plain.openContext decoder settings none t).1 ∧
      R (engine.openContext decoder settings none s).2
        (plain.openContext decoder settings none t).2
  allocFrame {s t} (h : R s t) :
    (engine.allocFrame s).1 = (plain.allocFrame t).1 ∧
      R (engine.allocFrame s).2 (plain.allocFrame t).2
  sendPacket {s t c d} (payload : Bytes) (h : R s t) (hc : Q c d) :
    (engine.sendPacket payload c s).1 = (plain.sendPacket payload d t).1 ∧
      Q (engine.sendPacket payload c s).2.1 (plain.sendPacket payload d t).2.1 ∧
      R (engine.sendPacket payload c s).2.2 (plain.sendPacket payload d t).2.2
  receiveFrame {s t c d} (target : Picture) (h : R s t) (hc : Q c d) :
    (engine.receiveFrame target c s).result = (plain.receiveFrame target d t).result ∧
      (engine.receiveFrame target c s).picture = (plain.receiveFrame target d t).picture ∧
      Q (engine.receiveFrame target c s).context (plain.receiveFrame target d t).context ∧
      R (engine.receiveFrame target c s).state (plain.receiveFrame target d t).state
  flush {s t c d} (h : R s t) (hc : Q c d) :
    Q (engine.flush c s).1 (plain.flush d t).1 ∧ R (engine.flush c s).2 (plain.flush d t).2
  release {s t} (kind : ResourceKind) (h : R s t) :
    R (engine.release kind s) (plain.release kind t)

structure World.Alike (R : σ → τ → Prop) (w : World σ) (v : World τ) : Prop where
  registry : w.registry = v.registry
  issued : w.issued = v.issued
  engine : R w.engine v.engine

/-- no device is created -/
def Event.createsNothing : Event → Bool
  | deviceCreation _ _ (.ok _) => false
  | deviceCreation _ _ (.error _) | notice _ | lookup _ _ | listing _ | opening _ _ _ _
  | frameAllocation _ | submission _ _ | reception _ _ | flush | transfer _ _ _ | release _ => true

theorem Event.createsNothing_of_isDecoding {e : Event} (h : e.isDecoding) : e.createsNothing := by
  cases e <;> first | rfl | cases h

variable {R : σ → τ → Prop} {Q : κ → μ → Prop}

namespace Act

/-- from worlds that are alike, both acts lead to such worlds and to values that meet `post`, unless
the first one creates a device -/
def Mirrors (R : σ → τ → Prop) (x : Act σ α) (y : Act τ β) (post : α → β → Prop) : Prop :=
  ∀ w v, w.Alike R v → (∀ e ∈ (x w).events, e.createsNothing) →
    (x w).world.Alike R (y v).world ∧ post (x w).value (y v).value

namespace Mirrors

variable {x : Act σ α} {y : Act τ β} {post : α → β → Prop}

theorem pure {a : α} {b : β} (h : post a b) :
    Mirrors R (Pure.pure a : Act σ α) (Pure.pure b : Act τ β) post :=
  fun _ _ hw _ => ⟨hw, h⟩

theorem skip : Mirrors R (Pure.pure () : Act σ Unit) (Pure.pure () : Act τ Unit) fun _ _ => True :=
  .pure trivial

theorem bind {f : α → Act σ α'} {g : β → Act τ β'} {post' : α' → β' → Prop}
    (hx : Mirrors R x y post) (hf : ∀ a b, post a b → Mirrors R (f a) (g b) post') :
    Mirrors R (x >>= f) (y >>= g) post' := by
  intro w v hw hevents
  obtain ⟨halike, hpost⟩ := hx w v hw fun e he => hevents e (List.mem_append_left _ he)
  exact hf _ _ hpost _ _ halike fun e he => hevents e (List.mem_append_right _ he)

theorem map {f : α → α'} {g : β → β'} {post' : α' → β' → Prop} (hx : Mirrors R x y post)
    (h : ∀ a b, post a b → post' (f a) (g b)) : Mirrors R (f <$> x) (g <$> y) post' := by
  rw [← bind_pure_comp, ← bind_pure_comp]
  exact hx.bind fun a b hab => .pure (h a b hab)

end Mirrors

theorem mirrors_tell (n n' : Notice) :
    Mirrors R (tell n : Act σ Unit) (tell n' : Act τ Unit) fun _ _ => True :=
  fun _ _ hw _ => ⟨hw, trivial⟩

theorem mirrors_claim (key : String) :
    Mirrors R (claim key : Act σ (Except SessionError Claim))
      (claim key : Act τ (Except SessionError Claim)) Eq := by
  intro w v hw _
  unfold claim
  rw [hw.registry]
  cases v.registry.claim? key with
  | none => exact ⟨hw, rfl⟩
  | some registry => exact ⟨⟨rfl, hw.issued, hw.engine⟩, rfl⟩

theorem mirrors_unclaimAll (claims : List Claim) :
    Mirrors R (unclaimAll claims : Act σ Unit) (unclaimAll claims : Act τ Unit)
      fun _ _ => True := by
  intro w v hw _
  rw [unclaimAll_apply, unclaimAll_apply, hw.registry]
  exact ⟨⟨rfl, hw.issued, hw.engine⟩, trivial⟩

end Act

open Act

/-! ## negotiation -/

section
variable {engine : Engine σ κ} {plain : Engine τ μ} {decoder : String} {mode : HardwareMode}
  {rest : List HardwareMode} {w : World σ}

variable (engine decoder) in
/-- no mode of a list can be had: it takes no device, or its device is in use or cannot be created -/
def Unavailable : List HardwareMode → World σ → Prop
  | [], _ => True
  | mode :: rest, w =>
    if mode.takesDevice then
      if deviceKey engine.scope mode.device.name ∈ w.registry then Unavailable rest w
      else match engine.createDevice decoder mode w.engine with
        | (.error _, s) => Unavailable rest { w with engine := s }
        | (.ok _, _) => False
    else Unavailable rest w

/-- a negotiation creates no device if, and only if, there is none to be had -/
theorem negotiate_createsNothing (modes : List HardwareMode) (w : World σ) :
    (∀ e ∈ (negotiate engine decoder modes w).events, e.createsNothing) ↔
      Unavailable engine decoder modes w := by
  induction modes generalizing w with
  | nil =>
    refine iff_of_true (fun e he => ?_) trivial
    cases List.mem_singleton.1 he
    rfl
  | cons mode rest ih =>
    rw [Unavailable]
    by_cases htakes : mode.takesDevice
    · rw [if_pos htakes]
      by_cases hkey : deviceKey engine.scope mode.device.name ∈ w.registry
      · rw [if_pos hkey, negotiate_busy htakes hkey, ← ih]
        simp [Event.createsNothing]
      · rw [if_neg hkey]
        rcases hcreate : engine.createDevice decoder mode w.engine with ⟨cause | _, s⟩
        · rw [negotiate_refused htakes hkey hcreate]
          dsimp only
          rw [← ih]
          simp [Event.createsNothing]
        · refine iff_of_false (fun h => ?_) id
          rw [negotiate_created htakes hkey hcreate] at h
          cases h (.deviceCreation decoder mode (.ok w.issued.devices)) (by simp)
    · rw [if_neg htakes, negotiate_other htakes]
      exact ih w

/-- if there is no device to be had, a negotiation is as good as none -/
theorem mirrors_negotiate (h : engine.Mirrors plain R Q) (modes : List HardwareMode) :
    Mirrors R (negotiate engine decoder modes) (Pure.pure none : Act τ (Option Accelerator))
      fun accel accel' => accel = none ∧ accel' = none := by
  intro w v hw hevents
  rw [negotiate_createsNothing] at hevents
  induction modes generalizing w with
  | nil => exact ⟨hw, rfl, rfl⟩
  | cons mode rest ih =>
    rw [Unavailable] at hevents
    by_cases htakes : mode.takesDevice
    · rw [if_pos htakes] at hevents
      by_cases hkey : deviceKey engine.scope mode.device.name ∈ w.registry
      · rw [if_pos hkey] at hevents
        rw [negotiate_busy htakes hkey]
        exact ih w hw hevents
      · rw [if_neg hkey] at hevents
        rcases hcreate : engine.createDevice decoder mode w.engine with ⟨cause | _, s⟩
        · rw [hcreate] at hevents
          rw [negotiate_refused htakes hkey hcreate]
          exact ih _ ⟨hw.registry, hw.issued, h.createDevice decoder mode hw.engine hcreate⟩ hevents
        · rw [hcreate] at hevents
          exact hevents.elim
    · rw [if_neg htakes] at hevents
      rw [negotiate_other htakes]
      exact ih w hw hevents

end

/-! ## questions to an engine -/

section
variable {engine : Engine σ κ} {plain : Engine τ μ} (h : engine.Mirrors plain R Q)
include h

theorem mirrors_hasDecoder (decoder : String) :
    Mirrors R (hasDecoder engine decoder) (hasDecoder plain decoder) Eq := by
  intro w v hw _
  obtain ⟨hfound, hstate⟩ := h.hasDecoder decoder hw.engine
  exact ⟨⟨hw.registry, hw.issued, hstate⟩, hfound⟩

theorem mirrors_acquireAccel (decoder : String) :
    Mirrors R (acquireAccel engine decoder) (acquireAccel plain decoder)
      fun accel accel' => accel = none ∧ accel' = none := by
  have hmodes : Mirrors R (hardwareModes engine decoder) (hardwareModes plain decoder)
      fun _ modes => modes = [] := by
    intro w v hw _
    obtain ⟨hnone, hstate⟩ := h.hardwareModes decoder hw.engine
    exact ⟨⟨hw.registry, hw.issued, hstate⟩, hnone⟩
  refine hmodes.bind fun modes modes' hnone => ?_
  subst hnone
  by_cases hempty : modes.isEmpty
  · rw [if_pos hempty]
    exact .pure ⟨rfl, rfl⟩
  · rw [if_neg hempty]
    exact mirrors_negotiate h modes

/-- contexts with the same number and related states -/
structure OpenContext.Twins (Q : κ → μ → Prop) (c : OpenContext κ) (d : OpenContext μ) : Prop where
  id : c.id = d.id
  state : Q c.state d.state

theorem mirrors_openContext (decoder : String) (settings : CodecSettings) :
    Mirrors R (openContext engine decoder settings none) (openContext plain decoder settings none)
      (Matches (OpenContext.Twins Q)) := by
  intro w v hw _
  obtain ⟨hresult, hstate⟩ := h.openContext decoder settings hw.engine
  unfold openContext
  generalize engine.openContext decoder settings none w.engine = answer at hresult hstate ⊢
  generalize plain.openContext decoder settings none v.engine = answer' at hresult hstate ⊢
  obtain ⟨r, s⟩ := answer
  obtain ⟨r', t⟩ := answer'
  cases hresult with
  | error cause => exact ⟨⟨hw.registry, hw.issued, hstate⟩, .error cause⟩
  | ok hcontext =>
    have hissued := congrArg (fun n => { n with contexts := n.contexts + 1 }) hw.issued
    exact ⟨⟨hw.registry, hissued, hstate⟩, .ok ⟨congrArg Issued.contexts hw.issued, hcontext⟩⟩

theorem mirrors_allocFrame : Mirrors R (allocFrame engine) (allocFrame plain) Eq := by
  intro w v hw _
  obtain ⟨hresult, hstate⟩ := h.allocFrame hw.engine
  unfold allocFrame
  generalize engine.allocFrame w.engine = answer at hresult hstate ⊢
  generalize plain.allocFrame v.engine = answer' at hresult hstate ⊢
  obtain ⟨r, s⟩ := answer
  obtain ⟨r', t⟩ := answer'
  cases hresult
  cases r with
  | error cause => exact ⟨⟨hw.registry, hw.issued, hstate⟩, rfl⟩
  | ok picture =>
    have hissued := congrArg (fun n => { n with frames := n.frames + 1 }) hw.issued
    have hframe := congrArg (fun n => Frame.mk n.frames picture) hw.issued
    exact ⟨⟨hw.registry, hissued, hstate⟩, congrArg Except.ok hframe⟩

theorem mirrors_allocFrames (count : Nat) :
    Mirrors R (allocFrames engine count) (allocFrames plain count) Eq := by
  induction count with
  | zero => exact fun _ _ hw _ => ⟨hw, rfl⟩
  | succ count ih =>
    rw [allocFrames_succ, allocFrames_succ]
    refine (mirrors_allocFrame h).bind fun r r' hr => ?_
    subst hr
    cases r with
    | error cause => exact .pure rfl
    | ok frame => exact ih.bind fun c c' hc => .pure (by rw [hc])

theorem mirrors_submit (payload : Bytes) {c : OpenContext κ} {d : OpenContext μ}
    (hc : c.Twins Q d) :
    Mirrors R (submit engine payload c) (submit plain payload d)
      fun r r' => r.1 = r'.1 ∧ r.2.Twins Q r'.2 := by
  intro w v hw _
  obtain ⟨hresult, hcontext, hstate⟩ := h.sendPacket payload hw.engine hc.state
  exact ⟨⟨hw.registry, hw.issued, hstate⟩, hresult, hc.id, hcontext⟩

theorem mirrors_receive (frame : Frame) {c : OpenContext κ} {d : OpenContext μ}
    (hc : c.Twins Q d) :
    Mirrors R (receive engine frame c) (receive plain frame d)
      fun r r' => r.1 = r'.1 ∧ r.2.1 = r'.2.1 ∧ r.2.2.Twins Q r'.2.2 := by
  intro w v hw _
  obtain ⟨hresult, hpicture, hcontext, hstate⟩ := h.receiveFrame frame.picture hw.engine hc.state
  exact ⟨⟨hw.registry, hw.issued, hstate⟩, hresult,
    congrArg (fun picture => { frame with picture }) hpicture, hc.id, hcontext⟩

theorem mirrors_flush {c : OpenContext κ} {d : OpenContext μ} (hc : c.Twins Q d) :
    Mirrors R (flush engine c) (flush plain d) (OpenContext.Twins Q) := by
  intro w v hw _
  obtain ⟨hcontext, hstate⟩ := h.flush hw.engine hc.state
  exact ⟨⟨hw.registry, hw.issued, hstate⟩, hc.id, hcontext⟩

theorem mirrors_release (r : Resource) :
    Mirrors R (release engine r) (release plain r) fun _ _ => True :=
  fun _ _ hw _ => ⟨⟨hw.registry, hw.issued, h.release r.kind hw.engine⟩, trivial⟩

theorem mirrors_releaseFrames (frames : List Frame) :
    Mirrors R (releaseFrames engine frames) (releaseFrames plain frames) fun _ _ => True := by
  induction frames with
  | nil => exact fun _ _ hw _ => ⟨hw, trivial⟩
  | cons frame frames ih =>
    rw [releaseFrames_cons, releaseFrames_cons]
    exact (mirrors_release h _).bind fun _ _ _ => ih

theorem mirrors_allocRing (count : Nat) :
    Mirrors R (allocRing engine count) (allocRing plain count) Eq := by
  unfold allocRing
  rw [h.frameSize]
  split
  · exact .pure rfl
  · refine (mirrors_allocFrames h count).bind fun c c' hc => ?_
    subst hc
    obtain ⟨frames, failure⟩ := c
    cases failure with
    | some cause => exact (mirrors_releaseFrames h frames).bind fun _ _ _ => .pure rfl
    | none => exact .pure rfl

end

end StreamDecode
