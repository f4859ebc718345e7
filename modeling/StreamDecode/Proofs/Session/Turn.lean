import StreamDecode.Proofs.Session.Run

/-!
# Turns

What a call on a session can come to, whatever the engine answers.

* `Turn`            one constructor for each outcome: the trace, the answer, the session after it;
* `Call.takes`      every call takes a turn;
* `perform_turns`   what each turn keeps holds after any number of calls.
-/

namespace StreamDecode.Session

variable {σ κ : Type}

/-- when it is to receive into the next slot, which is `target`, the engine answers `r` -/
structure Receives (engine : Engine σ κ) (s : Session κ) (w : World σ) (target : Frame)
    (r : Reception σ κ) : Prop where
  slot : s.ring.slots[s.ring.next]? = some target
  reception : engine.receiveFrame target.picture s.context.state w.engine = r

/-- what a call in the world `w` can come to -/
inductive Turn (engine : Engine σ κ) (s : Session κ) (w : World σ) :
    Call → Trace → Answer → Session κ → Prop
  /-- too little follows the packet -/
  | short {buf : Bytes} {len : UInt64} (hlen : buf.length < requiredSize len engine.padding) :
    Turn engine s w (.decode buf len) [] (.submitted (.error (.insufficientPadding len.toNat
      (buf.length - len.toNat) engine.padding.toNat))) s
  | sent {buf : Bytes} {len : UInt64} {state : κ} {e : σ}
    (hlen : ¬buf.length < requiredSize len engine.padding)
    (hsend : engine.sendPacket (buf.take len.toNat) s.context.state w.engine =
      (.ok (), state, e)) :
    Turn engine s w (.decode buf len) [.submission (buf.take len.toNat) (.ok ())]
      (.submitted (.ok ())) { s with context.state := state, stats := s.stats.countSubmit }
  | refused {buf : Bytes} {len : UInt64} {cause : EngineError} {state : κ} {e : σ}
    (hlen : ¬buf.length < requiredSize len engine.padding)
    (hsend : engine.sendPacket (buf.take len.toNat) s.context.state w.engine =
      (.error cause, state, e)) :
    Turn engine s w (.decode buf len)
      [.submission (buf.take len.toNat) (.error cause), .notice (.submitFailed cause)]
      (.submitted (.error (.submit cause)))
      { s with context.state := state, stats := s.stats.countSubmit.countSubmitError }
  /-- the engine has no picture -/
  | nothing {hostVisible : Bool} {target : Frame} {r : Reception σ κ} {cause : EngineError}
    (hr : Receives engine s w target r) (hresult : r.result = .error cause)
    (hcause : cause.isNoFrame) :
    Turn engine s w (.nextFrame hostVisible) (receptionTrace target.id r) (.received (.ok none))
      (s.received target r)
  | lost {hostVisible : Bool} {target : Frame} {r : Reception σ κ} {cause : EngineError}
    (hr : Receives engine s w target r) (hresult : r.result = .error cause)
    (hcause : ¬cause.isNoFrame) :
    Turn engine s w (.nextFrame hostVisible)
      (receptionTrace target.id r ++ [.notice (.receiveFailed cause)])
      (.received (.error (.receive cause)))
      { s.received target r with stats := s.stats.countReceiveError }
  /-- the host does not look at the picture, or it is not in the negotiated format -/
  | direct {hostVisible : Bool} {target : Frame} {r : Reception σ κ}
    (hr : Receives engine s w target r) (hresult : r.result = .ok ())
    (hdirect : s.preference = .software ∨ hostVisible → s.path.needsTransfer r.picture = false) :
    Turn engine s w (.nextFrame hostVisible) (receptionTrace target.id r)
      (.received (.ok (some ⟨{ target with picture := r.picture }, s.ring.next, .ring⟩)))
      (s.received target r).advanced
  | staged {hostVisible : Bool} {target : Frame} {r : Reception σ κ} {staging : Staging}
    {content : Picture} {e : σ} (hr : Receives engine s w target r) (hresult : r.result = .ok ())
    (hshown : s.preference = .software ∨ hostVisible) (hpath : s.path = some staging)
    (hformat : staging.format = r.picture.format)
    (htransfer : engine.transfer staging.frame.picture r.picture r.state = ((.ok (), content), e)) :
    Turn engine s w (.nextFrame hostVisible)
      (receptionTrace target.id r ++ [.transfer staging.frame.id (some target.id) (.ok ())])
      (.received (.ok (some ⟨{ staging.frame with picture := content }, s.ring.next, .staging⟩)))
      { (s.received target r).advanced with
        path := some { staging with frame.picture := content }
        stats := s.stats.countFrame.countTransfer }
  | untransferred {hostVisible : Bool} {target : Frame} {r : Reception σ κ} {staging : Staging}
    {cause : EngineError} {content : Picture} {e : σ} (hr : Receives engine s w target r)
    (hresult : r.result = .ok ()) (hshown : s.preference = .software ∨ hostVisible)
    (hpath : s.path = some staging) (hformat : staging.format = r.picture.format)
    (htransfer : engine.transfer staging.frame.picture r.picture r.state =
      ((.error cause, content), e)) :
    Turn engine s w (.nextFrame hostVisible)
      (receptionTrace target.id r ++ [.transfer staging.frame.id (some target.id) (.error cause),
        .notice (.transferFailed cause)])
      (.received (.error (.transfer cause)))
      { (s.received target r).advanced with
        path := some { staging with frame.picture := content }
        stats := s.stats.countFrame.countTransferError }
  | reset {state : κ} {e : σ} (hflush : engine.flush s.context.state w.engine = (state, e)) :
    Turn engine s w .reset [.notice (.flushing s.decoder), .flush] .flushed
      { s with context.state := state }

variable {engine : Engine σ κ} {s s' : Session κ} {w : World σ}

theorem exists_of_needsTransfer {path : TransferPath} {picture : Picture}
    (h : path.needsTransfer picture) :
    ∃ staging, path = some staging ∧ staging.format = picture.format := by
  cases path with
  | none => cases h
  | some staging =>
    rw [TransferPath.needsTransfer, beq_iff_eq] at h
    exact ⟨staging, rfl, Option.some_inj.1 h⟩

/-- the call comes to an answer, by a turn -/
def Call.Takes (engine : Engine σ κ) (s : Session κ) (w : World σ) (call : Call) : Prop :=
  ∃ answer s', (call.act engine s w).value = .ok (answer, s') ∧
    Turn engine s w call (call.act engine s w).events answer s'

theorem Call.takes_of {call : Call} {t : Trace} {answer : Answer} {v : World σ}
    (h : call.act engine s w = ⟨.ok (answer, s'), t, v⟩)
    (hturn : Turn engine s w call t answer s') : call.Takes engine s w := by
  refine ⟨answer, s', congrArg Step.value h, ?_⟩
  rwa [congrArg Step.events h]

theorem Call.takes_decode (buf : Bytes) (len : UInt64) :
    (Call.decode buf len).Takes engine s w := by
  by_cases hlen : buf.length < requiredSize len engine.padding
  · refine takes_of (v := w) ?_ (.short hlen)
    rw [act, decode_of_short engine hlen]
    rfl
  · rcases hsend : engine.sendPacket (buf.take len.toNat) s.context.state w.engine with
      ⟨cause | _, state, e⟩
    · refine takes_of (v := { w with engine := e }) ?_ (.refused hlen hsend)
      rw [act, Act.map_apply, decode_of_error hlen hsend]
      rfl
    · refine takes_of (v := { w with engine := e }) ?_ (.sent hlen hsend)
      rw [act, Act.map_apply, decode_of_ok hlen hsend]
      rfl

theorem Call.takes_nextFrame (hcursor : s.ring.next < s.ring.slots.length) (hostVisible : Bool) :
    (Call.nextFrame hostVisible).Takes engine s w := by
  obtain ⟨r, hreceive⟩ : ∃ r, engine.receiveFrame s.ring.slots[s.ring.next].picture
    s.context.state w.engine = r := ⟨_, rfl⟩
  have hr : Receives engine s w s.ring.slots[s.ring.next] r :=
    ⟨List.getElem?_eq_getElem hcursor, hreceive⟩
  rcases hresult : r.result with cause | _
  · by_cases hcause : cause.isNoFrame
    · refine takes_of (v := { w with engine := r.state }) ?_ (.nothing hr hresult hcause)
      rw [act, Act.map_apply, nextFrame_of_none hostVisible hcursor hreceive hresult hcause]
      rfl
    · refine takes_of (v := { w with engine := r.state }) ?_ (.lost hr hresult hcause)
      rw [act, Act.map_apply, nextFrame_of_error hostVisible hcursor hreceive hresult hcause]
      rfl
  by_cases hshown : s.preference = .software ∨ hostVisible
  · have hact := nextFrame_shown (w := w) hostVisible hcursor hreceive hresult hshown
    cases hneeds : s.path.needsTransfer r.picture with
    | false =>
      refine takes_of (v := { w with engine := r.state }) ?_ (.direct hr hresult fun _ => hneeds)
      rw [act, Act.map_apply, hact, handOut_direct hneeds]
      simp only [List.append_nil]
      rfl
    | true =>
      obtain ⟨staging, hpath, hformat⟩ := exists_of_needsTransfer hneeds
      rcases htransfer : engine.transfer staging.frame.picture r.picture r.state with
        ⟨⟨cause | _, content⟩, e⟩
      · have hout : (s.received s.ring.slots[s.ring.next] r).advanced.handOut engine s.ring.next
            { s.ring.slots[s.ring.next] with picture := r.picture }
            { w with engine := r.state } = _ := handOut_failed hpath hformat htransfer
        refine takes_of (v := { w with engine := e }) ?_
          (.untransferred hr hresult hshown hpath hformat htransfer)
        rw [act, Act.map_apply, hact, hout]
        rfl
      · have hout : (s.received s.ring.slots[s.ring.next] r).advanced.handOut engine s.ring.next
            { s.ring.slots[s.ring.next] with picture := r.picture }
            { w with engine := r.state } = _ := handOut_staged hpath hformat htransfer
        refine takes_of (v := { w with engine := e }) ?_
          (.staged hr hresult hshown hpath hformat htransfer)
        rw [act, Act.map_apply, hact, hout]
        rfl
  · refine takes_of (v := { w with engine := r.state }) ?_
      (.direct hr hresult fun h => absurd h hshown)
    rw [act, Act.map_apply, nextFrame_kept hostVisible hcursor hreceive hresult hshown]
    rfl

theorem Call.takes_reset : Call.reset.Takes engine s w := by
  rcases hflush : engine.flush s.context.state w.engine with ⟨state, e⟩
  have hact : Act.flush engine s.context w =
      ⟨{ s.context with state }, [.flush], { w with engine := e }⟩ := by
    simp only [Act.flush, hflush]
  refine takes_of (v := { w with engine := e }) ?_ (.reset hflush)
  rw [act, Act.map_apply, Session.reset, Act.bind_apply, Act.tell_apply]
  dsimp only
  rw [Act.bind_apply, hact]
  rfl

theorem Call.takes (hcursor : s.ring.next < s.ring.slots.length) (w : World σ) (call : Call) :
    call.Takes engine s w := by
  cases call with
  | decode buf len => exact takes_decode buf len
  | nextFrame hostVisible => exact takes_nextFrame hcursor hostVisible
  | reset => exact takes_reset

/-! ## runs -/

/-- the cursor stays in the ring -/
theorem Turn.cursor {call : Call} {t : Trace} {answer : Answer}
    (h : Turn engine s w call t answer s') (hcursor : s.ring.next < s.ring.slots.length) :
    s'.ring.next < s'.ring.slots.length := by
  have hadvanced : ∀ target (r : Reception σ κ), (s.received target r).advanced.ring.next <
      (s.received target r).advanced.ring.slots.length := fun target r =>
    Nat.mod_lt _ (Nat.zero_lt_of_lt (cursor_received hcursor target))
  cases h with
  | short _ | sent _ _ | refused _ _ | reset _ => exact hcursor
  | nothing _ _ _ | lost _ _ _ => exact cursor_received hcursor _
  | direct _ _ _ | staged _ _ _ _ _ _ | untransferred _ _ _ _ _ _ => exact hadvanced _ _

/-- what is so at first and is kept by every turn is so after any number of calls -/
theorem perform_turns {P : List Call → List Answer → Trace → Session κ → Prop}
    (hturn : ∀ {calls answers t s w call t' answer s'}, P calls answers t s →
      Turn engine s w call t' answer s' → P (calls ++ [call]) (answers ++ [answer]) (t ++ t') s')
    (hcursor : s.ring.next < s.ring.slots.length) (hs : P [] [] [] s) (w : World σ)
    (calls : List Call) :
    ∃ answers s', (s.perform engine calls w).value = .ok (answers, s') ∧
      s'.ring.next < s'.ring.slots.length ∧
      P calls answers (s.perform engine calls w).events s' := by
  -- the calls before are carried along, since a turn is added behind them
  suffices hrun : ∀ before earlier t, P before earlier t s →
      ∃ answers s', (s.perform engine calls w).value = .ok (answers, s') ∧
        s'.ring.next < s'.ring.slots.length ∧
        P (before ++ calls) (earlier ++ answers) (t ++ (s.perform engine calls w).events) s' from
    hrun [] [] [] hs
  clear hs
  induction calls generalizing s w with
  | nil =>
    intro before earlier t h
    refine ⟨[], s, rfl, hcursor, ?_⟩
    rw [List.append_nil, List.append_nil]
    exact (List.append_nil t).symm ▸ h
  | cons call calls ih =>
    intro before earlier t h
    obtain ⟨answer, s₁, hvalue, hcall⟩ := call.takes hcursor w
    obtain ⟨answers, s₂, hvalue', hcursor', hP⟩ :=
      ih (hcall.cursor hcursor) _ _ _ _ (hturn h hcall)
    refine ⟨answer :: answers, s₂, perform_cons engine hvalue hvalue', hcursor', ?_⟩
    rw [events_perform_cons engine hvalue hvalue']
    simpa only [List.append_assoc, List.singleton_append] using hP

end StreamDecode.Session
