import StreamDecode.Proofs.Session.Faultless

/-!
# Delivery of packets

A packet goes to the engine if its padding follows it in its buffer, and then as it is; otherwise the
engine is not asked, and nothing changes.  The lengths are added without a bound here: a buffer is
shorter than the greatest length, so the sum that the check cuts down to that length is too great for
it anyway (`requiredSize_le_iff`).

* `Call.payload?`, `Call.refusal?`   what a call brings to the engine, or why it brings nothing;
* `decode_delivered`, `decode_refused`   one packet;
* `Delivered`      the payloads and the refusals of calls in a row; `Turn.delivered` adds a call;
* `Engine.deliver` the engine after some payloads; packets in a row leave it so (`sends_perform`);
* `delivery`       all of it.
-/

namespace StreamDecode

variable {σ κ α : Type}

/-- the bytes that the engine was sent -/
def Event.payload? : Event → Option Bytes
  | submission payload _ => some payload
  | _ => none

/-- a context and its engine after they were sent some payloads, whatever the answers -/
def Engine.deliver (engine : Engine σ κ) : List Bytes → κ × σ → κ × σ
  | [], x => x
  | payload :: rest, x => engine.deliver rest (engine.sendPacket payload x.1 x.2).2

theorem Engine.deliver_append (engine : Engine σ κ) (payloads more : List Bytes) (x : κ × σ) :
    engine.deliver (payloads ++ more) x = engine.deliver more (engine.deliver payloads x) := by
  induction payloads generalizing x with
  | nil => rfl
  | cons payload rest ih => exact ih _

namespace Session

/-! ## one packet -/

section
variable {buf : Bytes} {len padding : UInt64}

/-- in a buffer that is short enough, a length that was cut down is too great as well -/
theorem requiredSize_le_iff (hbuf : buf.length < maxSize) :
    requiredSize len padding ≤ buf.length ↔ len.toNat + padding.toNat ≤ buf.length := by
  unfold requiredSize
  omega

namespace Call

/-- the buffer of a packet is shorter than the greatest length -/
def Stored : Call → Prop
  | decode buf _ => buf.length < maxSize
  | nextFrame _ | reset => True

/-- the bytes that a call brings to an engine that asks for so much padding -/
def payload? (padding : UInt64) : Call → Option Bytes
  | decode buf len =>
    if len.toNat + padding.toNat ≤ buf.length then some (buf.take len.toNat) else none
  | nextFrame _ | reset => none

/-- why a call brings nothing to an engine that asks for so much padding -/
def refusal? (padding : UInt64) : Call → Option SessionError
  | decode buf len =>
    if len.toNat + padding.toNat ≤ buf.length then none
    else some (.insufficientPadding len.toNat (buf.length - len.toNat) padding.toNat)
  | nextFrame _ | reset => none

end Call

/-- a call was answered without the engine -/
def Answer.refusal? : Answer → Option SessionError
  | submitted (.error (.insufficientPadding len available required)) =>
    some (.insufficientPadding len available required)
  | _ => none

variable (engine : Engine σ κ) (s : Session κ) (w : World σ)

theorem decode_delivered (hbuf : buf.length < maxSize)
    (hpadded : len.toNat + engine.padding.toNat ≤ buf.length) :
    s.decode engine buf len w =
      match engine.sendPacket (buf.take len.toNat) s.context.state w.engine with
      | (.ok (), state, e) =>
        ⟨.ok (.ok (), { s with context.state := state, stats := s.stats.countSubmit }),
          [.submission (buf.take len.toNat) (.ok ())], { w with engine := e }⟩
      | (.error cause, state, e) =>
        ⟨.ok (.error (.submit cause),
            { s with context.state := state, stats := s.stats.countSubmit.countSubmitError }),
          [.submission (buf.take len.toNat) (.error cause), .notice (.submitFailed cause)],
          { w with engine := e }⟩ := by
  have hlen : ¬buf.length < requiredSize len engine.padding :=
    Nat.not_lt.2 ((requiredSize_le_iff hbuf).2 hpadded)
  rcases hsend : engine.sendPacket (buf.take len.toNat) s.context.state w.engine with
    ⟨cause | _, state, e⟩
  · rw [decode_of_error hlen hsend]
  · rw [decode_of_ok hlen hsend]

theorem decode_refused (hbuf : buf.length < maxSize)
    (hshort : buf.length < len.toNat + engine.padding.toNat) :
    s.decode engine buf len w =
      ⟨.ok (.error (.insufficientPadding len.toNat (buf.length - len.toNat)
        engine.padding.toNat), s), [], w⟩ := by
  have hlen : buf.length < requiredSize len engine.padding := by
    have hpadded : ¬len.toNat + engine.padding.toNat ≤ buf.length := Nat.not_le.2 hshort
    exact Nat.not_le.1 fun h => hpadded ((requiredSize_le_iff hbuf).1 h)
  rw [decode_of_short engine hlen, Act.pure_apply]

end

/-! ## any calls -/

/-- the engine was sent the payloads of the calls, in order, and the calls that brought none were
refused -/
structure Delivered (padding : UInt64) (calls : List Call) (answers : List Answer) (t : Trace) :
    Prop where
  payloads : t.filterMap Event.payload? = calls.filterMap (·.payload? padding)
  refusals : answers.map Answer.refusal? = calls.map (·.refusal? padding)

theorem Delivered.append {padding : UInt64} {calls calls' : List Call}
    {answers answers' : List Answer} {t t' : Trace} (h : Delivered padding calls answers t)
    (h' : Delivered padding calls' answers' t') :
    Delivered padding (calls ++ calls') (answers ++ answers') (t ++ t') where
  payloads := by rw [List.filterMap_append, List.filterMap_append, h.payloads, h'.payloads]
  refusals := by rw [List.map_append, List.map_append, h.refusals, h'.refusals]

theorem payloads_receptionTrace (frame : Nat) (r : Reception σ κ) :
    (receptionTrace frame r).filterMap Event.payload? = [] := by
  refine List.filterMap_eq_nil_iff.2 fun e he => ?_
  rcases List.mem_cons.1 he with rfl | he
  · rfl
  · obtain ⟨refusal, -, rfl⟩ := List.mem_map.1 he
    rfl

section
variable {engine : Engine σ κ} {s s' : Session κ} {w : World σ} {call : Call} {answer : Answer}
  {t : Trace}

theorem Turn.delivered (h : Turn engine s w call t answer s') (hcall : call.Stored) :
    Delivered engine.padding [call] [answer] t := by
  have hreceived : ∀ {hostVisible frame} {r : Reception σ κ} {answer : Answer} {rest : Trace},
      rest.filterMap Event.payload? = [] → answer.refusal? = none →
      Delivered engine.padding [.nextFrame hostVisible] [answer]
        (receptionTrace frame r ++ rest) := by
    intro hostVisible frame r answer rest hrest hanswer
    refine ⟨?_, congrArg ([·]) hanswer⟩
    rw [List.filterMap_append, payloads_receptionTrace, hrest]
    rfl
  cases h with
  | @short buf len hlen =>
    have hpadded : ¬len.toNat + engine.padding.toNat ≤ buf.length := fun h =>
      Nat.not_le.2 hlen ((requiredSize_le_iff hcall).2 h)
    have hpayload : (Call.decode buf len).payload? engine.padding = none := if_neg hpadded
    have hrefusal : (Call.decode buf len).refusal? engine.padding =
        some (.insufficientPadding len.toNat (buf.length - len.toNat) engine.padding.toNat) :=
      if_neg hpadded
    refine ⟨?_, congrArg ([·]) hrefusal.symm⟩
    rw [List.filterMap_cons_none hpayload]
    rfl
  | @sent buf len _ _ hlen _ | @refused buf len _ _ _ hlen _ =>
    have hpadded := (requiredSize_le_iff hcall).1 (Nat.not_lt.1 hlen)
    have hpayload : (Call.decode buf len).payload? engine.padding = some (buf.take len.toNat) :=
      if_pos hpadded
    have hrefusal : (Call.decode buf len).refusal? engine.padding = none := if_pos hpadded
    refine ⟨?_, congrArg ([·]) hrefusal.symm⟩
    show [buf.take len.toNat] = _
    rw [List.filterMap_cons_some hpayload]
    rfl
  | nothing _ _ _ | direct _ _ _ =>
    rw [← List.append_nil (receptionTrace _ _)]
    exact hreceived rfl rfl
  | lost _ _ _ | staged _ _ _ _ _ _ | untransferred _ _ _ _ _ _ => exact hreceived rfl rfl
  | reset _ => exact ⟨rfl, rfl⟩

end

/-! ## packets in a row -/

/-- an act left the context of a session and the engine as some payloads leave them -/
def Sends (engine : Engine σ κ) (payloads : List Bytes) (s : Session κ) (w : World σ)
    (x : Step σ (Except Fault (α × Session κ))) : Prop :=
  ∃ a s', x.value = .ok (a, s') ∧
    (s'.context.state, x.world.engine) = engine.deliver payloads (s.context.state, w.engine)

section
variable (engine : Engine σ κ) (s : Session κ) (w : World σ)

theorem sends_decode {buf : Bytes} (len : UInt64) (hbuf : buf.length < maxSize) :
    Sends engine ((Call.decode buf len).payload? engine.padding).toList s w
      ((Call.decode buf len).act engine s w) := by
  rw [Call.act, Act.map_apply, Call.payload?]
  by_cases hpadded : len.toNat + engine.padding.toNat ≤ buf.length
  · rw [if_pos hpadded, decode_delivered engine s w hbuf hpadded]
    rcases hsend : engine.sendPacket (buf.take len.toNat) s.context.state w.engine with
      ⟨cause | _, state, e⟩
    all_goals
      refine ⟨_, _, rfl, ?_⟩
      rw [Option.toList_some, Engine.deliver, hsend]
      rfl
  · rw [if_neg hpadded, decode_refused engine s w hbuf (Nat.not_le.1 hpadded)]
    exact ⟨_, _, rfl, rfl⟩

theorem sends_perform (packets : List (Bytes × UInt64))
    (hpackets : ∀ p ∈ packets, p.1.length < maxSize) :
    Sends engine
      (packets.filterMap fun p => (Call.decode p.1 p.2).payload? engine.padding) s w
      (s.perform engine (packets.map fun p => .decode p.1 p.2) w) := by
  induction packets generalizing s w with
  | nil => exact ⟨[], s, rfl, rfl⟩
  | cons p rest ih =>
    obtain ⟨hp, hrest⟩ := List.forall_mem_cons.1 hpackets
    obtain ⟨answer, s₁, hvalue, hfirst⟩ := sends_decode engine s w p.2 hp
    obtain ⟨answers, s₂, hvalue', hothers⟩ :=
      ih s₁ ((Call.decode p.1 p.2).act engine s w).world hrest
    refine ⟨answer :: answers, s₂, perform_cons engine hvalue hvalue', ?_⟩
    rw [List.map_cons, world_perform_cons engine hvalue hvalue', hothers, hfirst,
      ← Engine.deliver_append, List.filterMap_cons]
    cases (Call.decode p.1 p.2).payload? engine.padding <;> rfl

end

/-- a packet goes to the engine once and as it is if its padding follows it in the buffer; otherwise
the call fails with the lengths, and neither the session nor the world changes.  So, whatever is called
in between, the engine is sent the packets that were not refused, in order; and packets in a row leave it
as if it was sent these by themselves -/
theorem delivery (engine : Engine σ κ) :
    (∀ (s : Session κ) (w : World σ) (buf : Bytes) (len : UInt64), buf.length < maxSize →
      (len.toNat + engine.padding.toNat ≤ buf.length →
        (buf.take len.toNat).length = len.toNat ∧
        s.decode engine buf len w =
          match engine.sendPacket (buf.take len.toNat) s.context.state w.engine with
          | (.ok (), state, e) =>
            ⟨.ok (.ok (), { s with context.state := state, stats := s.stats.countSubmit }),
              [.submission (buf.take len.toNat) (.ok ())], { w with engine := e }⟩
          | (.error cause, state, e) =>
            ⟨.ok (.error (.submit cause),
                { s with context.state := state, stats := s.stats.countSubmit.countSubmitError }),
              [.submission (buf.take len.toNat) (.error cause), .notice (.submitFailed cause)],
              { w with engine := e }⟩) ∧
      (buf.length < len.toNat + engine.padding.toNat →
        s.decode engine buf len w =
          ⟨.ok (.error (.insufficientPadding len.toNat (buf.length - len.toNat)
            engine.padding.toNat), s), [], w⟩)) ∧
    (∀ (s : Session κ) (w : World σ) (calls : List Call), s.Live engine →
      (∀ call ∈ calls, call.Stored) →
      let run := s.perform engine calls w
      ∃ answers s', run.value = .ok (answers, s') ∧
        Delivered engine.padding calls answers run.events) ∧
    ∀ (s : Session κ) (w : World σ) (packets : List (Bytes × UInt64)),
      (∀ p ∈ packets, p.1.length < maxSize) →
      let calls := packets.map fun p => Call.decode p.1 p.2
      Sends engine (calls.filterMap (·.payload? engine.padding)) s w (s.perform engine calls w) := by
  refine ⟨fun s w buf len hbuf => ⟨fun hpadded => ?_, decode_refused engine s w hbuf⟩, ?_, ?_⟩
  · have hlen : len.toNat ≤ buf.length := Nat.le_trans (Nat.le_add_right _ _) hpadded
    exact ⟨List.length_take_of_le hlen, decode_delivered engine s w hbuf hpadded⟩
  · intro s w calls hs hcalls
    obtain ⟨answers, s', hvalue, -, hdelivered⟩ :=
      perform_turns (P := fun calls answers t _ => (∀ call ∈ calls, call.Stored) →
        Delivered engine.padding calls answers t)
        (fun hbefore hturn hstored => by
          obtain ⟨hfirst, hlast⟩ := List.forall_mem_append.1 hstored
          exact (hbefore hfirst).append (hturn.delivered (hlast _ List.mem_cons_self)))
        hs.inRange.next (fun _ => ⟨rfl, rfl⟩) w calls
    exact ⟨answers, s', hvalue, hdelivered hcalls⟩
  · intro s w packets hpackets
    dsimp only
    rw [List.filterMap_map]
    exact sends_perform engine s w packets hpackets

/-- an exact fit, a byte of padding too few, the greatest length, and a packet that the engine rejects -/
def edgePackets : List (Bytes × UInt64) :=
  [(1 :: List.replicate 64 0, 1), (2 :: List.replicate 63 0, 1),
    (List.replicate 70 0, 18446744073709551615), (0xFF :: List.replicate 64 0, 1)]

theorem delivery_edges :
    let engine := Synthetic.engine "s"
    let started := start engine smallConfig vaapiWorld
    let calls := edgePackets.map fun p => Call.decode p.1 p.2
    let run (s : Session Synthetic.Context) := s.perform engine calls started.world
    ∃ s, started.value = .ok (.ok s) ∧
      s.decode engine (List.replicate 70 0) 18446744073709551615 started.world =
        ⟨.ok (.error (.insufficientPadding 18446744073709551615 0 64), s), [], started.world⟩ ∧
      (∃ answers s', (run s).value = .ok (answers, s') ∧
        (run s).events.filterMap Event.payload? = [[1], [0xFF]] ∧
        answers.map Answer.refusal? = [none, some (.insufficientPadding 1 63 64),
          some (.insufficientPadding 18446744073709551615 0 64), none]) ∧
      Sends engine [[1], [0xFF]] s started.world (run s) := by
  refine ⟨_, rfl, ?_⟩
  have hstart : (start (Synthetic.engine "s") smallConfig vaapiWorld).value = .ok (.ok _) := rfl
  obtain ⟨hone, hany, hrow⟩ := delivery (Synthetic.engine "s")
  refine ⟨?_, ?_, ?_⟩
  · obtain ⟨-, hrefused⟩ := hone _ (start (Synthetic.engine "s") smallConfig vaapiWorld).world
      (List.replicate 70 0) 18446744073709551615 (by decide)
    exact hrefused (by decide)
  · have hstored : ∀ call ∈ edgePackets.map fun p => Call.decode p.1 p.2, call.Stored := by
      simp [edgePackets, Call.Stored, maxSize]
    obtain ⟨answers, s', hvalue, hdelivered⟩ :=
      hany _ (start (Synthetic.engine "s") smallConfig vaapiWorld).world _ (.started hstart) hstored
    exact ⟨answers, s', hvalue, hdelivered.payloads.trans (by decide),
      hdelivered.refusals.trans (by decide)⟩
  · exact hrow _ (start (Synthetic.engine "s") smallConfig vaapiWorld).world edgePackets (by decide)

end Session

end StreamDecode
