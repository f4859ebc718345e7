import StreamDecode.Proofs.Session.Accounting
import StreamDecode.Proofs.Session.Ending
import StreamDecode.Proofs.Session.Opened

/-!
# Nothing faults

A ring is never made of no slots, its cursors stay in range, no packet is cut past its buffer, and the
planes of a picture are read where they are.  The end of a session has no value to fault with.  What is
left is a start that asks for more slots than there can be room for.

* `Ring.InRange`     the cursors of a ring; kept by every turn (`Turn.inRange`);
* `Engine.Paints`    what all pictures of an engine have in common; kept by every turn (`Turn.stores`);
* `Session.Live`     sessions in use; what every turn keeps holds of them (`Live.kept`);
* `Synthetic.Filled` the pictures of the synthetic engine have a stride for each plane;
* `Session.faultless`   no call, packet or look at a frame faults, and a start only for want of room.
-/

namespace StreamDecode

variable {σ κ α : Type}

/-! ## rings -/

namespace Ring

/-- the cursors point at slots -/
structure InRange (r : Ring α) : Prop where
  next : r.next < r.slots.length
  current : ∀ index ∈ r.current, index < r.slots.length

namespace InRange

variable {r : Ring α}

theorem length_pos (h : r.InRange) : 0 < r.slots.length := Nat.zero_lt_of_lt h.next

theorem write (h : r.InRange) (a : α) : (r.write a).InRange := by
  have hlen : (r.write a).slots.length = r.slots.length := List.length_set
  exact ⟨hlen ▸ h.next, hlen ▸ h.current⟩

theorem advanced (h : r.InRange) :
    InRange { r with current := some r.next, next := (r.next + 1) % r.slots.length } where
  next := Nat.mod_lt _ h.length_pos
  current := by
    rintro index ⟨⟩
    exact h.next

/-- the slots that a ring is asked for are there -/
theorem exists_slots (h : r.InRange) : (∃ x, r.acquire = .ok x) ∧ (∃ x, r.advance = .ok x) ∧
    ∃ x, r.latest = .ok x := by
  refine ⟨⟨_, acquire_of_lt h.next⟩, ⟨_, advance_of_lt h.next⟩, ?_⟩
  unfold latest
  cases hcurrent : r.current with
  | none => exact ⟨none, rfl⟩
  | some index =>
    dsimp only
    rw [slot_of_lt (h.current index hcurrent)]
    exact ⟨_, rfl⟩

end InRange

end Ring

/-! ## planes -/

/-- there is a stride for each plane, so reading any plane of the frame is no fault -/
theorem OutputFrame.exists_plane {f : OutputFrame}
    (h : f.frame.picture.strides.length = f.frame.picture.planes.length) (plane : Nat) :
    (∃ n, f.stride plane = .ok n) ∧ ∃ bytes, f.data plane = .ok bytes := by
  unfold stride data
  by_cases hplane : plane < f.planes
  · have hlen : plane < f.frame.picture.planes.length := by
      unfold planes at hplane
      split at hplane
      · exact hplane
      · exact absurd hplane (Nat.not_lt_zero _)
    rw [if_pos hplane, if_pos hplane, Picture.stride, Picture.data,
      List.getElem?_eq_getElem hlen, List.getElem?_eq_getElem (h ▸ hlen)]
    exact ⟨⟨_, rfl⟩, _, rfl⟩
  · rw [if_neg hplane, if_neg hplane]
    exact ⟨⟨_, rfl⟩, _, rfl⟩

/-- all pictures of an engine meet `P`, and those that it received or transferred meet `Q` -/
structure Engine.Paints (engine : Engine σ κ) (P Q : Picture → Prop) : Prop where
  alloc {s s' : σ} {picture : Picture} (h : engine.allocFrame s = (.ok picture, s')) : P picture
  receive {target : Picture} (c : κ) (s : σ) (h : P target) :
    P (engine.receiveFrame target c s).picture
  received {target : Picture} {c : κ} {s : σ}
    (h : (engine.receiveFrame target c s).result = .ok ()) :
    Q (engine.receiveFrame target c s).picture
  transfer {staging : Picture} (source : Picture) (s : σ) (h : P staging) :
    P (engine.transfer staging source s).1.2
  transferred {staging source : Picture} {s : σ}
    (h : (engine.transfer staging source s).1.1 = .ok ()) :
    Q (engine.transfer staging source s).1.2

namespace Session

/-- the pictures in the ring and in the staging frame meet `P` -/
structure Stores (P : Picture → Prop) (s : Session κ) : Prop where
  ring : ∀ f ∈ s.ring.slots, P f.picture
  staging : ∀ staging ∈ s.path, P staging.frame.picture

section
variable {engine : Engine σ κ} {P Q : Picture → Prop} (h : engine.Paints P Q)
include h

open Act

theorem yields_allocFrame :
    (allocFrame engine).Yields fun r => ∀ frame, r = .ok frame → P frame.picture := by
  intro w
  rcases halloc : engine.allocFrame w.engine with ⟨cause | picture, s⟩
  · rw [allocFrame_of_error halloc]
    rintro frame ⟨⟩
  · rw [allocFrame_of_ok halloc]
    rintro frame ⟨⟩
    exact h.alloc halloc

theorem yields_allocFrames (count : Nat) :
    (allocFrames engine count).Yields fun r => ∀ frame ∈ r.1, P frame.picture := by
  induction count with
  | zero =>
    intro w frame hmem
    cases hmem
  | succ count ih =>
    rw [allocFrames_succ]
    refine (yields_allocFrame h).bind fun r hr => ?_
    cases r with
    | error cause => exact .pure (by simp)
    | ok first =>
      refine ih.bind fun r hrest => .pure fun frame hmem => ?_
      rcases List.mem_cons.1 hmem with rfl | hmem
      · exact hr _ rfl
      · exact hrest frame hmem

theorem yields_staging (accel : Option Accelerator) :
    (allocPath engine accel).Yields fun r =>
      ∀ path, r = .ok path → ∀ staging ∈ path, P staging.frame.picture := by
  cases accel with
  | none =>
    refine .pure ?_
    rintro path ⟨⟩ staging ⟨⟩
  | some a =>
    refine (yields_allocFrame h).bind fun r hr => .pure ?_
    cases r with
    | error cause => rintro path ⟨⟩
    | ok frame =>
      rintro path ⟨⟩ staging ⟨⟩
      exact hr frame rfl

theorem stores_start {config : SessionConfig} {w : World σ} {s : Session κ}
    (hstart : (start engine config w).value = .ok (.ok s)) : s.Stores P := by
  obtain ⟨codec, b, path, frames, u, v, -, hpath, hframes, rfl⟩ := exists_of_start hstart
  refine ⟨fun f hf => ?_, yields_staging h b.accel u path hpath⟩
  have hall := yields_allocFrames h config.bufferCount.toNat v
  rw [hframes] at hall
  exact hall f hf

variable {s s' : Session κ} {w : World σ} {call : Call} {t : Trace} {answer : Answer}

theorem Stores.received (hs : s.Stores P) {target : Frame} {r : Reception σ κ}
    (hr : Receives engine s w target r) : (s.received target r).Stores P := by
  refine ⟨fun f hf => ?_, hs.staging⟩
  have htarget : P target.picture := hs.ring target (List.mem_of_getElem? hr.slot)
  rcases List.mem_or_eq_of_mem_set hf with hf | rfl
  · exact hs.ring f hf
  · exact hr.reception ▸ h.receive _ _ htarget

/-- a turn leaves pictures of the engine, and hands out a picture that was received or transferred -/
theorem Turn.stores (hturn : Turn engine s w call t answer s') (hs : s.Stores P) :
    s'.Stores P ∧ ∀ f, answer = .received (.ok (some f)) → Q f.frame.picture := by
  have htransfer : ∀ {staging : Staging} {r : Reception σ κ} {result content e},
      s.path = some staging → engine.transfer staging.frame.picture r.picture r.state =
        ((result, content), e) → P content := by
    intro staging r result content e hpath htransfer
    have hcontent := h.transfer r.picture r.state (hs.staging staging hpath)
    rwa [htransfer] at hcontent
  cases hturn with
  | short _ | sent _ _ | refused _ _ | reset _ => exact ⟨⟨hs.ring, hs.staging⟩, by rintro f ⟨⟩⟩
  | nothing hr _ _ | lost hr _ _ =>
    have hkept := hs.received h hr
    exact ⟨⟨hkept.ring, hkept.staging⟩, by rintro f ⟨⟩⟩
  | direct hr hresult _ =>
    have hkept := hs.received h hr
    refine ⟨⟨hkept.ring, hkept.staging⟩, ?_⟩
    obtain ⟨-, rfl⟩ := hr
    rintro f ⟨⟩
    exact h.received hresult
  | staged hr hresult hshown hpath hformat hdone =>
    have hkept := hs.received h hr
    refine ⟨⟨hkept.ring, ?_⟩, ?_⟩
    · rintro staging ⟨⟩
      exact htransfer hpath hdone
    · rintro f ⟨⟩
      have hcontent := h.transferred (congrArg (·.1.1) hdone)
      rwa [hdone] at hcontent
  | untransferred hr hresult hshown hpath hformat hfailed =>
    have hkept := hs.received h hr
    refine ⟨⟨hkept.ring, ?_⟩, by rintro f ⟨⟩⟩
    rintro staging ⟨⟩
    exact htransfer hpath hfailed

end

section
variable {engine : Engine σ κ} {s s' : Session κ} {w : World σ} {call : Call} {t : Trace}
  {answer : Answer}

/-- the cursors of the ring stay in range -/
theorem Turn.inRange (hturn : Turn engine s w call t answer s') (hs : s.ring.InRange) :
    s'.ring.InRange := by
  cases hturn with
  | short _ | sent _ _ | refused _ _ | reset _ => exact hs
  | nothing _ _ _ | lost _ _ _ => exact hs.write _
  | direct _ _ _ | staged _ _ _ _ _ _ | untransferred _ _ _ _ _ _ => exact (hs.write _).advanced

theorem inRange_start {config : SessionConfig}
    (hstart : (start engine config w).value = .ok (.ok s)) : s.ring.InRange := by
  obtain ⟨hs, -⟩ := sound_of_start engine hstart
  refine ⟨hs.cursor, ?_⟩
  rw [(opened_start hstart).current]
  rintro index ⟨⟩

end

/-! ## sessions in use -/

/-- a session that was started and then called any number of times, in any worlds -/
inductive Live (engine : Engine σ κ) : Session κ → Prop
  | started {config : SessionConfig} {w : World σ} {s : Session κ}
    (h : (start engine config w).value = .ok (.ok s)) : Live engine s
  | called {s s' : Session κ} {w : World σ} {call : Call} {answer : Answer} (hs : Live engine s)
    (h : (call.act engine s w).value = .ok (answer, s')) : Live engine s'

namespace Live

variable {engine : Engine σ κ} {s s' : Session κ} {w : World σ}

/-- what holds after a start and is kept by every turn holds of a session in use -/
theorem kept {P : Session κ → Prop} (hcursor : ∀ {s}, P s → s.ring.next < s.ring.slots.length)
    (hstart : ∀ {config w s}, (start engine config w).value = .ok (.ok s) → P s)
    (hturn : ∀ {s w call t answer s'}, P s → Turn engine s w call t answer s' → P s')
    (hs : s.Live engine) : P s := by
  induction hs with
  | started h => exact hstart h
  | @called s s' w call answer _ h ih =>
    -- with its cursor in range the session takes a turn, and the value of the call is that of the turn
    have htakes : call.Takes engine s w := call.takes (hcursor ih) w
    obtain ⟨answer', s₁, hvalue, hcall⟩ := htakes
    cases hvalue.symm.trans h
    exact hturn ih hcall

theorem inRange (hs : s.Live engine) : s.ring.InRange :=
  hs.kept (P := fun s => s.ring.InRange) (·.next) inRange_start fun hs hturn => hturn.inRange hs

/-- calls in a row are answered, one by one -/
theorem perform (hs : s.Live engine) (calls : List Call) (w : World σ) :
    ∃ answers s', (s.perform engine calls w).value = .ok (answers, s') ∧
      answers.length = calls.length ∧ s'.Live engine := by
  induction calls generalizing s w with
  | nil => exact ⟨[], s, rfl, rfl, hs⟩
  | cons call calls ih =>
    obtain ⟨answer, s₁, hvalue, -⟩ := call.takes hs.inRange.next w
    obtain ⟨answers, s₂, hvalue', hlen, hlive⟩ := ih (hs.called hvalue) (call.act engine s w).world
    exact ⟨answer :: answers, s₂, perform_cons engine hvalue hvalue', congrArg (· + 1) hlen, hlive⟩

/-- a packet is submitted by a call that cuts its payload from its buffer -/
theorem decodePacket (hs : s.Live engine) (packet : Packet) (w : World σ) :
    ∃ result s', (s.decodePacket engine packet w).value = .ok (result, s') ∧ s'.Live engine := by
  let call : Call := .decode packet.padded packet.len.toUInt64
  obtain ⟨answer, s₁, hvalue, -⟩ := call.takes hs.inRange.next w
  have hlive : s₁.Live engine := hs.called hvalue
  change Outcome.answer .submitted (s.decodePacket engine packet w).value = _ at hvalue
  cases hresult : (s.decodePacket engine packet w).value with
  | error fault =>
    rw [hresult] at hvalue
    cases hvalue
  | ok r =>
    rw [hresult] at hvalue
    cases hvalue
    exact ⟨r.1, r.2, rfl, hlive⟩

variable {P Q : Picture → Prop} (h : engine.Paints P Q)
include h

theorem stores (hs : s.Live engine) : s.Stores P := by
  have hboth : s.ring.InRange ∧ s.Stores P :=
    hs.kept (P := fun s => s.ring.InRange ∧ s.Stores P) (·.1.next)
      (fun hstart => ⟨inRange_start hstart, stores_start h hstart⟩)
      fun hs hturn => ⟨hturn.inRange hs.1, (hturn.stores h hs.2).1⟩
  exact hboth.2

/-- a picture that is handed out was received or transferred -/
theorem shown {hostVisible : Bool} {f : OutputFrame} (hs : s.Live engine)
    (hframe : (s.nextFrame engine hostVisible w).value = .ok (.ok (some f), s')) :
    Q f.frame.picture := by
  have htakes : (Call.nextFrame hostVisible).Takes engine s w := Call.takes hs.inRange.next w _
  obtain ⟨answer, s₁, hvalue, hturn⟩ := htakes
  change Outcome.answer .received (s.nextFrame engine hostVisible w).value = _ at hvalue
  rw [hframe] at hvalue
  cases hvalue
  exact (hturn.stores h (hs.stores h)).2 f rfl

end Live

end Session

/-! ## the synthetic engine -/

namespace Synthetic

/-- a surface has no planes, any other picture has three; each plane has a stride -/
structure Filled (p : Picture) : Prop where
  strides : p.strides.length = if p.format.isHardware then 0 else 3
  planes : p.planes.length = if p.format.isHardware then 0 else 3

theorem filled_picture (format : PixelFormat) (width height : UInt32) (sequence : Nat) :
    Filled (picture format width height sequence) := by
  constructor
  all_goals
    rw [format_picture]
    unfold picture
    split <;> rfl

theorem receiveFrame_filled (target : Picture) (c : Context) (l : Ledger) :
    (∃ cause, (receiveFrame target c l).result = .error cause ∧
      (receiveFrame target c l).picture = target) ∨ Filled (receiveFrame target c l).picture := by
  unfold receiveFrame
  split
  · exact .inl ⟨_, rfl, rfl⟩
  · dsimp only
    split
    · exact .inl ⟨_, rfl, rfl⟩
    · exact .inr (filled_picture _ _ _ _)

theorem transfer_filled (staging source : Picture) (l : Ledger) :
    (∃ cause, (transfer staging source l).1 = (.error cause, staging)) ∨
      Filled (transfer staging source l).1.2 := by
  unfold transfer
  split
  · exact .inl ⟨_, rfl⟩
  · split
    · exact .inr (filled_picture .yuv420p source.width source.height source.sequence)
    · exact .inl ⟨_, rfl⟩

/-- a frame is blank until a picture is received or transferred into it -/
theorem paints_filled (scope : String) :
    (engine scope).Paints (fun p => p = .blank ∨ Filled p) Filled where
  alloc {l l' p} h := by
    have halloc : allocFrame l = (.ok p, l') := h
    unfold allocFrame at halloc
    split at halloc <;> cases halloc <;> exact .inl rfl
  receive {target} c l h := by
    rcases receiveFrame_filled target c l with ⟨cause, -, hpicture⟩ | hfilled
    · show (receiveFrame target c l).picture = _ ∨ Filled (receiveFrame target c l).picture
      rw [hpicture]
      exact h
    · exact .inr hfilled
  received {target c l} h := by
    rcases receiveFrame_filled target c l with ⟨cause, hresult, -⟩ | hfilled
    · cases hresult.symm.trans h
    · exact hfilled
  transfer {staging} source l h := by
    rcases transfer_filled staging source l with ⟨cause, hanswer⟩ | hfilled
    · show (transfer staging source l).1.2 = _ ∨ Filled (transfer staging source l).1.2
      rw [hanswer]
      exact h
    · exact .inr hfilled
  transferred {staging source l} h := by
    rcases transfer_filled staging source l with ⟨cause, hanswer⟩ | hfilled
    · cases (congrArg Prod.fst hanswer).symm.trans h
    · exact hfilled

end Synthetic

/-! ## sessions -/

namespace Session

/-- no call on a session in use, no packet and no look at a frame faults, and each of them leaves a
session in use; a start faults only if there can be no room for the slots of its ring -/
theorem faultless :
    (∀ {σ κ : Type} (engine : Engine σ κ) (config : SessionConfig) (w : World σ),
      (∃ result, (start engine config w).value = .ok result) ∨
        ((start engine config w).value = .error .capacityOverflow ∧
          Ring.Overflows engine.frameSize config.bufferCount.toNat)) ∧
    (∀ {σ κ : Type} (engine : Engine σ κ) (s : Session κ), s.Live engine →
      0 < s.ring.slots.length ∧ s.ring.InRange ∧
        ((∃ x, s.ring.acquire = .ok x) ∧ (∃ x, s.ring.advance = .ok x) ∧
          ∃ x, s.ring.latest = .ok x) ∧
        (∀ calls w, ∃ answers s', (s.perform engine calls w).value = .ok (answers, s') ∧
          answers.length = calls.length ∧ s'.Live engine) ∧
        ∀ packet w, ∃ result s', (s.decodePacket engine packet w).value = .ok (result, s') ∧
          s'.Live engine) ∧
    ∀ (scope : String) (s : Session Synthetic.Context), s.Live (Synthetic.engine scope) →
      s.Stores (fun p => p = .blank ∨ Synthetic.Filled p) ∧
        ∀ hostVisible w f s',
          (s.nextFrame (Synthetic.engine scope) hostVisible w).value = .ok (.ok (some f), s') →
            Synthetic.Filled f.frame.picture ∧
              ∀ plane, (∃ n, f.stride plane = .ok n) ∧ ∃ bytes, f.data plane = .ok bytes := by
  refine ⟨?_, ?_, ?_⟩
  · intro σ κ engine config w
    obtain ⟨held, -, -, hpost⟩ := ensures_start engine config w (.vacant w)
    rcases hresult : (start engine config w).value with fault | result
    · rw [hresult] at hpost
      obtain ⟨-, hoverflows, rfl⟩ := hpost
      exact .inr ⟨rfl, hoverflows⟩
    · exact .inl ⟨result, rfl⟩
  · intro σ κ engine s hs
    have hrange : s.ring.InRange := hs.inRange
    exact ⟨hrange.length_pos, hrange, hrange.exists_slots, hs.perform, hs.decodePacket⟩
  · intro scope s hs
    refine ⟨hs.stores (Synthetic.paints_filled scope), ?_⟩
    intro hostVisible w f s' hframe
    have hfilled : Synthetic.Filled f.frame.picture :=
      hs.shown (Synthetic.paints_filled scope) hframe
    exact ⟨hfilled, OutputFrame.exists_plane (hfilled.strides.trans hfilled.planes.symm)⟩

theorem faultless_vaapi :
    let engine := Synthetic.engine "s"
    let started := start engine smallConfig vaapiWorld
    ∃ s, started.value = .ok (.ok s) ∧ s.ring.slots.length = 2 ∧
      ∃ answers s', (s.perform engine mixedCalls started.world).value = .ok (answers, s') ∧
        answers.length = 6 ∧ s'.Stores (fun p => p = .blank ∨ Synthetic.Filled p) := by
  refine ⟨_, rfl, rfl, ?_⟩
  have hstart : (start (Synthetic.engine "s") smallConfig vaapiWorld).value = .ok (.ok _) := rfl
  obtain ⟨-, hlive, hsynthetic⟩ := faultless
  obtain ⟨-, -, -, hcalls, -⟩ := hlive (Synthetic.engine "s") _ (.started hstart)
  obtain ⟨answers, s', hvalue, hlen, hs'⟩ := hcalls mixedCalls
    (start (Synthetic.engine "s") smallConfig vaapiWorld).world
  exact ⟨answers, s', hvalue, hlen, (hsynthetic "s" s' hs').1⟩

end Session

end StreamDecode
