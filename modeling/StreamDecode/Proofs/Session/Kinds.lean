import StreamDecode.Proofs.Custody.Session

/-!
# Kinds of events

`Act.Leaves x kind`: all events of the act `x` are of a kind, in whatever world it runs.

* `leaves_decode`, `leaves_nextFrame`, `leaves_reset`   calls on a session decode: they concern no
                 resource and no key;
* `leaves_acquireAccel`, `leaves_abandon` and the like   claims and devices come and go without a codec
                 context and without a frame;
* `leaves_equip`   what comes after a backend was opened asks for frames, but for no codec context.
-/

namespace StreamDecode

variable {σ κ α β : Type}

namespace Event

/-- the event is one of decoding: it concerns no resource and no key -/
def isDecoding : Event → Bool
  | notice (.claimed _) | notice (.unclaimed _) => false
  | notice _ | submission _ _ | reception _ _ | flush | transfer _ _ _ => true
  | lookup _ _ | listing _ | deviceCreation _ _ _ | opening _ _ _ _ | frameAllocation _
  | release _ => false

/-- neither a codec context nor a frame is asked for, and nothing is decoded -/
def isPreparing : Event → Bool
  | notice _ | lookup _ _ | listing _ | deviceCreation _ _ _ | release _ => true
  | opening _ _ _ _ | frameAllocation _ | submission _ _ | reception _ _ | flush
  | transfer _ _ _ => false

/-- no codec context is opened -/
def opensNothing : Event → Bool
  | opening _ _ _ (.ok _) => false
  | opening _ _ _ (.error _) | notice _ | lookup _ _ | listing _ | deviceCreation _ _ _
  | frameAllocation _ | submission _ _ | reception _ _ | flush | transfer _ _ _ | release _ => true

/-- no codec context is asked for, and nothing is decoded -/
def isEquipping : Event → Bool
  | notice _ | lookup _ _ | listing _ | deviceCreation _ _ _ | frameAllocation _ | release _ => true
  | opening _ _ _ _ | submission _ _ | reception _ _ | flush | transfer _ _ _ => false

theorem opensNothing_of_isPreparing {e : Event} (h : e.isPreparing) : e.opensNothing := by
  cases e <;> first | rfl | cases h

theorem isEquipping_of_isPreparing {e : Event} (h : e.isPreparing) : e.isEquipping := by
  cases e <;> first | rfl | cases h

theorem opensNothing_of_isEquipping {e : Event} (h : e.isEquipping) : e.opensNothing := by
  cases e <;> first | rfl | cases h

end Event

namespace Act

def Leaves (x : Act σ α) (kind : Event → Bool) : Prop := ∀ w, ∀ e ∈ (x w).events, kind e

namespace Leaves

variable {kind : Event → Bool} {x : Act σ α}

theorem mono {kind' : Event → Bool} (hx : Leaves x kind) (h : ∀ {e}, kind e → kind' e) :
    Leaves x kind' := fun w e he => h (hx w e he)

theorem pure (a : α) : Leaves (Pure.pure a : Act σ α) kind := by
  intro w e he
  cases he

theorem bind {f : α → Act σ β} (hx : Leaves x kind) (hf : ∀ a, Leaves (f a) kind) :
    Leaves (x >>= f) kind := by
  intro w
  exact List.forall_mem_append.2 ⟨hx w, hf _ _⟩

theorem map (f : α → β) (hx : Leaves x kind) : Leaves (f <$> x) kind := by
  rw [← bind_pure_comp]
  exact hx.bind fun a => .pure (f a)

theorem of_event (h : ∀ w, ∃ e, (x w).events = [e] ∧ kind e) : Leaves x kind := by
  intro w e he
  obtain ⟨e', hevents, hkind⟩ := h w
  rw [hevents] at he
  cases List.mem_singleton.1 he
  exact hkind

end Leaves

theorem leaves_tell {kind : Event → Bool} {n : Notice} (hn : kind (.notice n)) :
    Leaves (tell n : Act σ Unit) kind := .of_event fun _ => ⟨_, rfl, hn⟩

end Act

open Act

/-! ## calls on a session -/

section
variable (engine : Engine σ κ)

theorem Act.leaves_receive (frame : Frame) (context : OpenContext κ) :
    (receive engine frame context).Leaves Event.isDecoding := by
  intro w e he
  rcases List.mem_cons.1 he with rfl | he
  · rfl
  · obtain ⟨refusal, -, rfl⟩ := List.mem_map.1 he
    rfl

theorem TransferPath.leaves_resolve (path : TransferPath) (source : Option Nat)
    (picture : Picture) : (path.resolve engine source picture).Leaves Event.isDecoding := by
  cases path with
  | none => exact .pure _
  | some staging =>
    rw [TransferPath.resolve]
    split
    · exact .bind (.of_event fun _ => ⟨_, rfl, rfl⟩) fun _ => .pure _
    · exact .pure _

namespace Session

theorem leaves_decode (s : Session κ) (buf : Bytes) (len : UInt64) :
    (s.decode engine buf len).Leaves Event.isDecoding := by
  by_cases h : buf.length < requiredSize len engine.padding
  · rw [decode_of_short engine h]
    exact .pure _
  · rw [decode_of_padded engine h]
    refine .map _ (.bind (.of_event fun _ => ⟨_, rfl, rfl⟩) fun r => ?_)
    obtain ⟨result, context⟩ := r
    cases result with
    | ok => exact .pure _
    | error cause => exact .bind (leaves_tell rfl) fun _ => .pure _

theorem leaves_produce (s : Session κ) (hostVisible : Bool) :
    (s.produce engine hostVisible).Leaves Event.isDecoding := by
  unfold produce
  split
  · exact .pure _
  · dsimp only
    split
    · refine .map _ ((TransferPath.leaves_resolve engine _ _ _).bind fun r => ?_)
      obtain ⟨result, path⟩ := r
      cases result with
      | ok resolution => cases resolution <;> exact .pure _
      | error cause => exact .bind (leaves_tell rfl) fun _ => .pure _
    · exact .pure _

theorem leaves_nextFrame (s : Session κ) (hostVisible : Bool) :
    (s.nextFrame engine hostVisible).Leaves Event.isDecoding := by
  unfold nextFrame
  split
  · exact .pure _
  · refine (leaves_receive engine _ _).bind fun r => ?_
    obtain ⟨result, frame, context⟩ := r
    cases result with
    | ok => exact leaves_produce engine _ hostVisible
    | error cause =>
      dsimp only
      split
      · exact .pure _
      · exact .bind (leaves_tell rfl) fun _ => .pure _

theorem leaves_reset (s : Session κ) : (s.reset engine).Leaves Event.isDecoding :=
  .bind (leaves_tell rfl) fun _ => .bind (.of_event fun _ => ⟨_, rfl, rfl⟩) fun _ => .pure _

end Session

/-! ## claims and devices -/

namespace Act

theorem leaves_claim (key : String) :
    (claim key : Act σ (Except SessionError Claim)).Leaves Event.isPreparing := by
  intro w e he
  unfold claim at he
  split at he
  · cases List.mem_singleton.1 he
    rfl
  · cases he

theorem leaves_unclaimAll (claims : List Claim) :
    (unclaimAll claims : Act σ Unit).Leaves Event.isPreparing := by
  intro w e he
  rw [unclaimAll_apply] at he
  obtain ⟨claim, -, rfl⟩ := List.mem_map.1 he
  rfl

theorem leaves_createDevice (decoder : String) (mode : HardwareMode) :
    (createDevice engine decoder mode).Leaves Event.isPreparing := by
  refine .of_event fun w => ?_
  unfold createDevice
  split <;> exact ⟨_, rfl, rfl⟩

theorem leaves_release (r : Resource) : (release engine r).Leaves Event.isPreparing :=
  .of_event fun _ => ⟨_, rfl, rfl⟩

theorem leaves_releaseFrames (frames : List Frame) :
    (releaseFrames engine frames).Leaves Event.isPreparing := by
  intro w e he
  obtain ⟨frame, -, rfl⟩ := List.mem_map.1 he
  rfl

end Act

theorem leaves_negotiate (decoder : String) (modes : List HardwareMode) :
    (negotiate engine decoder modes).Leaves Event.isPreparing := by
  induction modes with
  | nil => exact .bind (leaves_tell rfl) fun _ => .pure _
  | cons mode rest ih =>
    rw [negotiate]
    split
    · refine .bind (leaves_claim _) fun r => ?_
      cases r with
      | error cause => exact .bind (leaves_tell rfl) fun _ => ih
      | ok claim =>
        refine .bind (leaves_tell rfl) fun _ => ?_
        refine .bind (leaves_createDevice engine decoder mode) fun r => ?_
        cases r with
        | ok device => exact .pure _
        | error cause =>
          refine .bind (leaves_tell rfl) fun _ => ?_
          exact .bind (.of_event fun _ => ⟨_, rfl, rfl⟩) fun _ => ih
    · exact ih

theorem leaves_acquireAccel (decoder : String) :
    (acquireAccel engine decoder).Leaves Event.isPreparing := by
  refine .bind (.of_event fun _ => ⟨_, rfl, rfl⟩) fun modes => ?_
  split
  · exact .pure _
  · exact leaves_negotiate engine decoder modes

theorem leaves_claimBackend (c : Candidate) :
    (claimBackend engine c).Leaves Event.isPreparing := by
  unfold claimBackend
  split
  · exact .bind (leaves_claim _) fun _ => .pure _
  all_goals exact .pure _

theorem leaves_abandon (accel : Option Accelerator) (claim : Option Claim) :
    (abandon engine accel claim).Leaves Event.isPreparing := by
  refine .bind ?_ fun _ => leaves_unclaimAll _
  cases accel with
  | none => exact .pure _
  | some a => exact .bind (leaves_release engine _) fun _ => .of_event fun _ => ⟨_, rfl, rfl⟩

theorem leaves_disposeDevice (device : Option BoundDevice) :
    (disposeDevice engine device).Leaves Event.isPreparing := by
  cases device with
  | none => exact .pure _
  | some d => exact leaves_release engine _

theorem TransferPath.leaves_dispose (path : TransferPath) :
    (path.dispose engine).Leaves Event.isPreparing := by
  cases path with
  | none => exact .pure _
  | some staging => exact leaves_release engine _

namespace Session

theorem leaves_withdraw (b : OpenBackend κ) (path : TransferPath) :
    (withdraw engine b path).Leaves Event.isPreparing := by
  refine .bind (leaves_disposeDevice engine _) fun _ => ?_
  refine .bind (path.leaves_dispose engine) fun _ => ?_
  exact .bind (leaves_unclaimAll _) fun _ => leaves_release engine _

/-- a start that lacks a frame says so, and gives up what was acquired before it -/
theorem leaves_giveUp (n : Notice) (b : OpenBackend κ) (path : TransferPath) (a : α) :
    Act.Leaves (do
      tell n
      withdraw engine b path
      return a) Event.isPreparing :=
  .bind (leaves_tell rfl) fun _ => .bind (leaves_withdraw engine b path) fun _ => .pure _

end Session

/-! ## frames, and the rest of a start -/

theorem Act.leaves_allocFrame : (allocFrame engine).Leaves Event.isEquipping := by
  refine .of_event fun w => ?_
  unfold allocFrame
  split <;> exact ⟨_, rfl, rfl⟩

theorem Act.leaves_allocFrames (count : Nat) :
    (allocFrames engine count).Leaves Event.isEquipping := by
  intro w e he
  rcases List.mem_append.1 he with h | h
  all_goals
    obtain ⟨_, -, rfl⟩ := List.mem_map.1 h
    rfl

theorem Act.leaves_allocRing (count : Nat) :
    (allocRing engine count).Leaves Event.isEquipping := by
  unfold allocRing
  split
  · exact .pure _
  · refine .bind (leaves_allocFrames engine count) fun r => ?_
    obtain ⟨frames, failure⟩ := r
    cases failure with
    | some cause =>
      have hback := (leaves_releaseFrames engine frames).mono Event.isEquipping_of_isPreparing
      exact hback.bind fun _ => .pure _
    | none => exact .pure _

namespace Session

theorem leaves_furnish (config : SessionConfig) (codec : Codec) (b : OpenBackend κ)
    (path : TransferPath) : (furnish engine config codec b path).Leaves Event.isEquipping := by
  refine .bind (leaves_allocRing engine _) fun r => ?_
  rcases r with fault | cause | ring
  · have hback := (leaves_withdraw engine b path).mono Event.isEquipping_of_isPreparing
    exact hback.bind fun _ => .pure _
  · exact (leaves_giveUp engine _ b path _).mono Event.isEquipping_of_isPreparing
  · exact .bind (leaves_tell rfl) fun _ => .pure _

theorem leaves_equip (config : SessionConfig) (codec : Codec) (b : OpenBackend κ) :
    (equip engine config codec b).Leaves Event.isEquipping := by
  refine .bind ?_ fun r => ?_
  · cases b.accel with
    | none => exact .pure _
    | some a => exact .bind (leaves_allocFrame engine) fun _ => .pure _
  · cases r with
    | error cause =>
      exact (leaves_giveUp engine _ b none _).mono Event.isEquipping_of_isPreparing
    | ok path => exact leaves_furnish engine config codec b path

end Session

end

end StreamDecode
