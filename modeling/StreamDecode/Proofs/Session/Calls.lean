import StreamDecode.Session.Decoding

/-!
# Calls on a session, case by case

What each call on a session comes to, by the answer of the engine.

* `decode_of_short`, `decode_of_ok`, `decode_of_error`   packets;
* `nextFrame_of_none`, `nextFrame_of_error`   nothing is received;
* `nextFrame_shown`, `nextFrame_kept`   a picture is received, and the host looks at it or not;
* `handOut_direct`, `handOut_staged`, `handOut_failed`   the transfer path.
-/

namespace StreamDecode.Session

variable {σ κ : Type} (engine : Engine σ κ) {s : Session κ} {w : World σ}

/-! ## packets -/

section
variable {buf payload : Bytes} {len padding : UInt64}

/-- a length that has its padding in the buffer is within the buffer -/
theorem cut_eq_ok (h : ¬buf.length < requiredSize len padding) :
    cut buf len.toNat = .ok (buf.take len.toNat) := by
  have hlen : len.toNat ≤ maxSize := Nat.le_sub_one_of_lt len.toNat_lt
  have hsize : len.toNat ≤ requiredSize len padding := Nat.le_min.2 ⟨Nat.le_add_right _ _, hlen⟩
  exact if_pos (Nat.le_trans hsize (Nat.not_lt.1 h))

theorem decode_of_short (h : buf.length < requiredSize len engine.padding) :
    s.decode engine buf len = (pure (.ok (.error (.insufficientPadding len.toNat
      (buf.length - len.toNat) engine.padding.toNat), s)) : Act σ (Outcome κ Unit)) := if_pos h

theorem decode_of_padded (h : ¬buf.length < requiredSize len engine.padding) :
    s.decode engine buf len = .ok <$> s.submit engine (buf.take len.toNat) := by
  rw [decode, if_neg h, cut_eq_ok h]

variable {engine} {state : κ} {e : σ}

theorem submit_of_ok (h : engine.sendPacket payload s.context.state w.engine = (.ok (), state, e)) :
    s.submit engine payload w =
      ⟨(.ok (), { s with context.state := state, stats := s.stats.countSubmit }),
        [.submission payload (.ok ())], { w with engine := e }⟩ := by
  have hsend : Act.submit engine payload s.context w =
      ⟨(.ok (), { s.context with state }), [.submission payload (.ok ())],
        { w with engine := e }⟩ := by
    simp only [Act.submit, h]
  rw [submit, Act.bind_apply, hsend]
  rfl

theorem submit_of_error {cause : EngineError}
    (h : engine.sendPacket payload s.context.state w.engine = (.error cause, state, e)) :
    s.submit engine payload w =
      ⟨(.error (.submit cause),
          { s with context.state := state, stats := s.stats.countSubmit.countSubmitError }),
        [.submission payload (.error cause), .notice (.submitFailed cause)],
        { w with engine := e }⟩ := by
  have hsend : Act.submit engine payload s.context w =
      ⟨(.error cause, { s.context with state }), [.submission payload (.error cause)],
        { w with engine := e }⟩ := by
    simp only [Act.submit, h]
  rw [submit, Act.bind_apply, hsend]
  rfl

theorem decode_of_ok (hlen : ¬buf.length < requiredSize len engine.padding)
    (h : engine.sendPacket (buf.take len.toNat) s.context.state w.engine = (.ok (), state, e)) :
    s.decode engine buf len w =
      ⟨.ok (.ok (), { s with context.state := state, stats := s.stats.countSubmit }),
        [.submission (buf.take len.toNat) (.ok ())], { w with engine := e }⟩ := by
  rw [decode_of_padded engine hlen, Act.map_apply, submit_of_ok h]

theorem decode_of_error {cause : EngineError}
    (hlen : ¬buf.length < requiredSize len engine.padding)
    (h : engine.sendPacket (buf.take len.toNat) s.context.state w.engine =
      (.error cause, state, e)) :
    s.decode engine buf len w =
      ⟨.ok (.error (.submit cause),
          { s with context.state := state, stats := s.stats.countSubmit.countSubmitError }),
        [.submission (buf.take len.toNat) (.error cause), .notice (.submitFailed cause)],
        { w with engine := e }⟩ := by
  rw [decode_of_padded engine hlen, Act.map_apply, submit_of_error h]

end

/-! ## pictures -/

/-- the session after a receive into the next slot -/
def received (s : Session κ) (target : Frame) (r : Reception σ κ) : Session κ :=
  { s with context.state := r.context, ring := s.ring.write { target with picture := r.picture } }

def advanced (s : Session κ) : Session κ :=
  { s with
    ring := { s.ring with current := some s.ring.next,
                          next := (s.ring.next + 1) % s.ring.slots.length }
    stats := s.stats.countFrame }

section
variable {engine} (hostVisible : Bool) {cause : EngineError} {r : Reception σ κ}

def receptionTrace (frame : Nat) (r : Reception σ κ) : Trace :=
  .reception frame r.result :: r.refusals.map (.notice ∘ .formatRefused)

theorem receive_apply {frame : Frame} {context : OpenContext κ}
    (hr : engine.receiveFrame frame.picture context.state w.engine = r) :
    Act.receive engine frame context w =
      ⟨(r.result, { frame with picture := r.picture }, { context with state := r.context }),
        receptionTrace frame.id r, { w with engine := r.state }⟩ := by
  subst hr
  rfl

theorem nextFrame_of_none (hcursor : s.ring.next < s.ring.slots.length)
    (hr : engine.receiveFrame s.ring.slots[s.ring.next].picture s.context.state w.engine = r)
    (hresult : r.result = .error cause) (hcause : cause.isNoFrame) :
    s.nextFrame engine hostVisible w =
      ⟨.ok (.ok none, s.received s.ring.slots[s.ring.next] r),
        receptionTrace s.ring.slots[s.ring.next].id r, { w with engine := r.state }⟩ := by
  rw [nextFrame, Ring.acquire_of_lt hcursor]
  dsimp only
  rw [Act.bind_apply, receive_apply hr, hresult]
  simp only [hcause, if_true, Act.pure_apply, List.append_nil]
  rfl

theorem nextFrame_of_error (hcursor : s.ring.next < s.ring.slots.length)
    (hr : engine.receiveFrame s.ring.slots[s.ring.next].picture s.context.state w.engine = r)
    (hresult : r.result = .error cause) (hcause : ¬cause.isNoFrame) :
    s.nextFrame engine hostVisible w =
      ⟨.ok (.error (.receive cause), { s.received s.ring.slots[s.ring.next] r with
          stats := s.stats.countReceiveError }),
        receptionTrace s.ring.slots[s.ring.next].id r ++ [.notice (.receiveFailed cause)],
        { w with engine := r.state }⟩ := by
  rw [nextFrame, Ring.acquire_of_lt hcursor]
  dsimp only
  rw [Act.bind_apply, receive_apply hr, hresult]
  simp only [hcause]
  rfl

theorem nextFrame_of_ok (hcursor : s.ring.next < s.ring.slots.length)
    (hr : engine.receiveFrame s.ring.slots[s.ring.next].picture s.context.state w.engine = r)
    (hresult : r.result = .ok ()) :
    s.nextFrame engine hostVisible w =
      let step := (s.received s.ring.slots[s.ring.next] r).produce engine hostVisible
        { w with engine := r.state }
      ⟨step.value, receptionTrace s.ring.slots[s.ring.next].id r ++ step.events, step.world⟩ := by
  rw [nextFrame, Ring.acquire_of_lt hcursor]
  dsimp only
  rw [Act.bind_apply, receive_apply hr, hresult]
  rfl

/-- the ring of a session that has received is ready to produce -/
theorem advance_received (hcursor : s.ring.next < s.ring.slots.length) (target : Frame) :
    (s.received target r).ring.advance =
      .ok ((s.ring.next, { target with picture := r.picture }),
        (s.received target r).advanced.ring) := by
  have hcursor' : (s.received target r).ring.next < (s.received target r).ring.slots.length := by
    rw [received, Ring.write, List.length_set]
    exact hcursor
  have hslot : (s.received target r).ring.slots[(s.received target r).ring.next] =
      { target with picture := r.picture } := Ring.getElem_write hcursor'
  rw [Ring.advance_of_lt hcursor', hslot]
  rfl

theorem cursor_received (hcursor : s.ring.next < s.ring.slots.length) (target : Frame) :
    (s.received target r).ring.next < (s.received target r).ring.slots.length := by
  rw [received, Ring.write, List.length_set]
  exact hcursor

/-- a picture that the host looks at takes the transfer path -/
theorem nextFrame_shown (hcursor : s.ring.next < s.ring.slots.length)
    (hr : engine.receiveFrame s.ring.slots[s.ring.next].picture s.context.state w.engine = r)
    (hresult : r.result = .ok ()) (hshown : s.preference = .software ∨ hostVisible) :
    s.nextFrame engine hostVisible w =
      let step := (s.received s.ring.slots[s.ring.next] r).advanced.handOut engine s.ring.next
        { s.ring.slots[s.ring.next] with picture := r.picture } { w with engine := r.state }
      ⟨.ok step.value, receptionTrace s.ring.slots[s.ring.next].id r ++ step.events,
        step.world⟩ := by
  have hproduce : (s.received s.ring.slots[s.ring.next] r).produce engine hostVisible =
      .ok <$> (s.received s.ring.slots[s.ring.next] r).advanced.handOut engine s.ring.next
        { s.ring.slots[s.ring.next] with picture := r.picture } := by
    rw [produce, advance_received hcursor]
    exact if_pos hshown
  rw [nextFrame_of_ok hostVisible hcursor hr hresult, hproduce, Act.map_apply]

theorem nextFrame_kept (hcursor : s.ring.next < s.ring.slots.length)
    (hr : engine.receiveFrame s.ring.slots[s.ring.next].picture s.context.state w.engine = r)
    (hresult : r.result = .ok ()) (hkept : ¬(s.preference = .software ∨ hostVisible)) :
    s.nextFrame engine hostVisible w =
      ⟨.ok (.ok (some ⟨{ s.ring.slots[s.ring.next] with picture := r.picture }, s.ring.next, .ring⟩),
          (s.received s.ring.slots[s.ring.next] r).advanced),
        receptionTrace s.ring.slots[s.ring.next].id r, { w with engine := r.state }⟩ := by
  have hproduce : (s.received s.ring.slots[s.ring.next] r).produce engine hostVisible =
      (pure (.ok (.ok (some ⟨{ s.ring.slots[s.ring.next] with picture := r.picture }, s.ring.next,
        .ring⟩), (s.received s.ring.slots[s.ring.next] r).advanced)) :
          Act σ (Outcome κ (Option OutputFrame))) := by
    rw [produce, advance_received hcursor]
    exact if_neg hkept
  rw [nextFrame_of_ok hostVisible hcursor hr hresult, hproduce]
  simp

variable {slot : Nat} {source : Option Nat} {frame : Frame} {picture content : Picture}
  {staging : Staging} {e : σ}

theorem resolve_direct {path : TransferPath} (h : path.needsTransfer picture = false) :
    path.resolve engine source picture =
      (pure (.ok .direct, path) : Act σ (Except EngineError Resolution × TransferPath)) := by
  cases path with
  | none => rfl
  | some staging =>
    have hformat : staging.format ≠ picture.format := by
      simpa [TransferPath.needsTransfer, TransferPath.format] using h
    exact if_neg hformat

theorem resolve_transfer {result : Except EngineError Unit}
    (hformat : staging.format = picture.format)
    (h : engine.transfer staging.frame.picture picture w.engine = ((result, content), e)) :
    TransferPath.resolve engine (some staging) source picture w =
      ⟨(result.map fun _ => .staged { staging.frame with picture := content },
          some { staging with frame.picture := content }),
        [.transfer staging.frame.id source result], { w with engine := e }⟩ := by
  have htransfer : Act.transfer engine staging.frame source picture w =
      ⟨(result, { staging.frame with picture := content }),
        [.transfer staging.frame.id source result], { w with engine := e }⟩ := by
    simp only [Act.transfer, h]
  rw [TransferPath.resolve, if_pos hformat, Act.bind_apply, htransfer]
  rfl

theorem handOut_direct (h : s.path.needsTransfer frame.picture = false) :
    s.handOut engine slot frame w = ⟨(.ok (some ⟨frame, slot, .ring⟩), s), [], w⟩ := by
  rw [handOut, resolve_direct h]
  rfl

theorem handOut_staged (hpath : s.path = some staging)
    (hformat : staging.format = frame.picture.format)
    (h : engine.transfer staging.frame.picture frame.picture w.engine = ((.ok (), content), e)) :
    s.handOut engine slot frame w =
      ⟨(.ok (some ⟨{ staging.frame with picture := content }, slot, .staging⟩),
          { s with path := some { staging with frame.picture := content },
                   stats := s.stats.countTransfer }),
        [.transfer staging.frame.id (some frame.id) (.ok ())], { w with engine := e }⟩ := by
  rw [handOut, Act.bind_apply, hpath, resolve_transfer hformat h]
  rfl

theorem handOut_failed (hpath : s.path = some staging)
    (hformat : staging.format = frame.picture.format)
    (h : engine.transfer staging.frame.picture frame.picture w.engine =
      ((.error cause, content), e)) :
    s.handOut engine slot frame w =
      ⟨(.error (.transfer cause), { s with path := some { staging with frame.picture := content },
                                           stats := s.stats.countTransferError }),
        [.transfer staging.frame.id (some frame.id) (.error cause),
          .notice (.transferFailed cause)], { w with engine := e }⟩ := by
  rw [handOut, Act.bind_apply, hpath, resolve_transfer hformat h]
  rfl

end

end StreamDecode.Session
