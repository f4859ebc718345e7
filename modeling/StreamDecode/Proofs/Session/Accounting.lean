import StreamDecode.Engine.Synthetic
import StreamDecode.Proofs.Session.Opened
import StreamDecode.Proofs.Session.StagingOrder
import StreamDecode.Proofs.Session.Turn

/-!
# Accounting

The counters of a session and the cursors of its ring follow from the calls, their answers and the
questions to the engine since its start.

* `Counts`       the counters against calls, answers and trace; `Turn.counts` is what a turn adds;
* `Cursors`      the ring after a number of pictures; kept by every turn (`Turn.cursors`);
* `Books`        which slot a call is for, and what it leaves alone (`Turn.books`);
* `accounting`   all of it after any number of calls on a session that was started.
-/

namespace StreamDecode

variable {σ κ : Type}

/-! ## what is counted -/

namespace Event

def isSubmission : Event → Bool
  | submission _ _ => true
  | _ => false

def isTransfer : Event → Bool
  | transfer _ _ _ => true
  | _ => false

/-- the frame that the engine was to receive into -/
def target? : Event → Option Nat
  | reception frame _ => some frame
  | _ => none

end Event

namespace Stats

def counters (s : Stats) : List Nat :=
  [s.packetsSubmitted, s.submitErrors, s.framesDecoded, s.receiveErrors, s.transfers,
    s.transferErrors]

instance : Add Stats where
  add a b := ⟨a.packetsSubmitted + b.packetsSubmitted, a.submitErrors + b.submitErrors,
    a.framesDecoded + b.framesDecoded, a.receiveErrors + b.receiveErrors,
    a.transfers + b.transfers, a.transferErrors + b.transferErrors⟩

end Stats

namespace Session

namespace Call

/-- a packet that its padding follows -/
def isPadded (padding : UInt64) : Call → Bool
  | decode buf len => requiredSize len padding ≤ buf.length
  | nextFrame _ | reset => false

def isNextFrame : Call → Bool
  | nextFrame _ => true
  | decode _ _ | reset => false

end Call

namespace Answer

def isSubmitError : Answer → Bool
  | submitted (.error (.submit _)) => true
  | _ => false

def isFrame : Answer → Bool
  | received (.ok (some _)) => true
  | _ => false

def isStaged : Answer → Bool
  | received (.ok (some f)) => f.source = .staging
  | _ => false

def isReceiveError : Answer → Bool
  | received (.error (.receive _)) => true
  | _ => false

def isTransferError : Answer → Bool
  | received (.error (.transfer _)) => true
  | _ => false

/-- the call came to nothing: the packet was too short, there was no picture, or there was nothing
to answer -/
def isIdle : Answer → Bool
  | submitted (.error (.insufficientPadding _ _ _)) | received (.ok none) | flushed => true
  | _ => false

theorem not_isFrame_of_isTransferError {a : Answer} (h : a.isTransferError) :
    a.isFrame = false := by
  unfold isTransferError at h
  split at h
  · rfl
  · cases h

end Answer

/-! ## counters -/

/-- the counters agree with the calls, the answers and the questions to the engine -/
structure Counts (padding : UInt64) (calls : List Call) (answers : List Answer) (t : Trace)
    (stats : Stats) : Prop where
  packets : stats.packetsSubmitted = calls.countP (·.isPadded padding)
  submissions : stats.packetsSubmitted = t.countP Event.isSubmission
  submitErrors : stats.submitErrors = answers.countP Answer.isSubmitError
  frames : stats.framesDecoded =
    answers.countP Answer.isFrame + answers.countP Answer.isTransferError
  receiveErrors : stats.receiveErrors = answers.countP Answer.isReceiveError
  transfers : stats.transfers = answers.countP Answer.isStaged
  transferErrors : stats.transferErrors = answers.countP Answer.isTransferError
  questions : stats.transfers + stats.transferErrors = t.countP Event.isTransfer

namespace Counts

variable {padding : UInt64} {calls calls' : List Call} {answers answers' : List Answer}
  {t t' : Trace} {stats stats' : Stats}

theorem nil (padding : UInt64) : Counts padding [] [] [] .zero :=
  ⟨rfl, rfl, rfl, rfl, rfl, rfl, rfl, rfl⟩

theorem append (h : Counts padding calls answers t stats)
    (h' : Counts padding calls' answers' t' stats') :
    Counts padding (calls ++ calls') (answers ++ answers') (t ++ t') (stats + stats') where
  packets := by
    rw [List.countP_append, ← h.packets, ← h'.packets]
    rfl
  submissions := by
    rw [List.countP_append, ← h.submissions, ← h'.submissions]
    rfl
  submitErrors := by
    rw [List.countP_append, ← h.submitErrors, ← h'.submitErrors]
    rfl
  frames := by
    have hframes := h.frames
    have hframes' := h'.frames
    rw [List.countP_append, List.countP_append]
    show stats.framesDecoded + stats'.framesDecoded = _
    omega
  receiveErrors := by
    rw [List.countP_append, ← h.receiveErrors, ← h'.receiveErrors]
    rfl
  transfers := by
    rw [List.countP_append, ← h.transfers, ← h'.transfers]
    rfl
  transferErrors := by
    rw [List.countP_append, ← h.transferErrors, ← h'.transferErrors]
    rfl
  questions := by
    rw [List.countP_append, ← h.questions, ← h'.questions]
    exact Nat.add_add_add_comm _ _ _ _

/-- no counter passes the number of calls -/
theorem counters_le (h : Counts padding calls answers t stats)
    (hlen : answers.length = calls.length) : ∀ n ∈ stats.counters, n ≤ calls.length := by
  have hanswers : ∀ p : Answer → Bool, answers.countP p ≤ calls.length := fun p =>
    List.countP_le_length.trans_eq hlen
  have hframes : answers.countP Answer.isFrame + answers.countP Answer.isTransferError ≤
      calls.length := by
    have hnot : answers.countP Answer.isTransferError ≤ answers.countP (¬Answer.isFrame ·) :=
      List.countP_mono_left fun a _ ha => by
        rw [Answer.not_isFrame_of_isTransferError ha]
        rfl
    have hsplit := List.length_eq_countP_add_countP Answer.isFrame (l := answers)
    omega
  intro n hn
  rw [Stats.counters, h.packets, h.submitErrors, h.frames, h.receiveErrors, h.transfers,
    h.transferErrors] at hn
  simp only [List.mem_cons, List.not_mem_nil, or_false] at hn
  rcases hn with rfl | rfl | rfl | rfl | rfl | rfl
  · exact List.countP_le_length
  · exact hanswers _
  · exact hframes
  · exact hanswers _
  · exact hanswers _
  · exact hanswers _

end Counts

variable {engine : Engine σ κ} {s s' : Session κ} {w : World σ} {call : Call} {answer : Answer}
  {t : Trace}

/-- to receive is to submit nothing and to transfer nothing -/
theorem Counts.received {hostVisible : Bool} {padding : UInt64} {added : Stats} (frame : Nat)
    (r : Reception σ κ) (h : Counts padding [.nextFrame hostVisible] [answer] t added) :
    Counts padding [.nextFrame hostVisible] [answer] (receptionTrace frame r ++ t) added := by
  have hother : ∀ p : Event → Bool, p (.reception frame r.result) = false →
      (∀ n, p (.notice n) = false) → (receptionTrace frame r ++ t).countP p = t.countP p := by
    intro p hreception hnotice
    have hnone : (receptionTrace frame r).countP p = 0 := by
      refine List.countP_eq_zero.2 fun e he => ?_
      rcases List.mem_cons.1 he with rfl | he
      · rw [hreception]
        exact Bool.false_ne_true
      · obtain ⟨refusal, -, rfl⟩ := List.mem_map.1 he
        rw [Function.comp_apply, hnotice]
        exact Bool.false_ne_true
    rw [List.countP_append, hnone, Nat.zero_add]
  exact { h with
    submissions := h.submissions.trans (hother _ rfl fun _ => rfl).symm
    questions := h.questions.trans (hother _ rfl fun _ => rfl).symm }

/-- what a turn adds to the counters is what is counted of it -/
theorem Turn.counts (h : Turn engine s w call t answer s') :
    ∃ added, s'.stats = s.stats + added ∧ Counts engine.padding [call] [answer] t added := by
  cases h with
  | short hlen =>
    refine ⟨.zero, rfl, ?_, rfl, rfl, rfl, rfl, rfl, rfl, rfl⟩
    rw [List.countP_singleton, Call.isPadded, decide_eq_false (Nat.not_le.2 hlen)]
    rfl
  | sent hlen _ =>
    refine ⟨⟨1, 0, 0, 0, 0, 0⟩, rfl, ?_, rfl, rfl, rfl, rfl, rfl, rfl, rfl⟩
    rw [List.countP_singleton, Call.isPadded, decide_eq_true (Nat.not_lt.1 hlen)]
    rfl
  | refused hlen _ =>
    refine ⟨⟨1, 1, 0, 0, 0, 0⟩, rfl, ?_, rfl, rfl, rfl, rfl, rfl, rfl, rfl⟩
    rw [List.countP_singleton, Call.isPadded, decide_eq_true (Nat.not_lt.1 hlen)]
    rfl
  | nothing _ _ _ =>
    refine ⟨.zero, rfl, ?_⟩
    rw [← List.append_nil (receptionTrace _ _)]
    exact .received _ _ ⟨rfl, rfl, rfl, rfl, rfl, rfl, rfl, rfl⟩
  | lost _ _ _ =>
    exact ⟨⟨0, 0, 0, 1, 0, 0⟩, rfl, .received _ _ ⟨rfl, rfl, rfl, rfl, rfl, rfl, rfl, rfl⟩⟩
  | direct _ _ _ =>
    refine ⟨⟨0, 0, 1, 0, 0, 0⟩, rfl, ?_⟩
    rw [← List.append_nil (receptionTrace _ _)]
    exact .received _ _ ⟨rfl, rfl, rfl, rfl, rfl, rfl, rfl, rfl⟩
  | staged _ _ _ _ _ _ =>
    exact ⟨⟨0, 0, 1, 0, 1, 0⟩, rfl, .received _ _ ⟨rfl, rfl, rfl, rfl, rfl, rfl, rfl, rfl⟩⟩
  | untransferred _ _ _ _ _ _ =>
    exact ⟨⟨0, 0, 1, 0, 0, 1⟩, rfl, .received _ _ ⟨rfl, rfl, rfl, rfl, rfl, rfl, rfl, rfl⟩⟩
  | reset _ => exact ⟨.zero, rfl, rfl, rfl, rfl, rfl, rfl, rfl, rfl, rfl⟩

/-! ## cursors -/

/-- the slots of a ring and its cursors after so many pictures -/
structure Cursors (ids : List Nat) (count : Nat) (ring : Ring Frame) : Prop where
  slots : ring.slots.map (·.id) = ids
  next : ring.next = count % ids.length
  current : ring.current = if count = 0 then none else some ((count - 1) % ids.length)

section
variable {ids : List Nat} {count : Nat} {target : Frame} {r : Reception σ κ}

theorem Cursors.received (h : Cursors ids count s.ring) (hr : Receives engine s w target r) :
    Cursors ids count (s.received target r).ring := by
  obtain ⟨hcursor, htarget⟩ := List.getElem?_eq_some_iff.1 hr.slot
  have hid : ({ target with picture := r.picture } : Frame).id = s.ring.slots[s.ring.next].id := by
    rw [htarget]
  exact { h with slots := (ids_write hcursor hid).trans h.slots }

theorem Cursors.advanced (h : Cursors ids count s.ring) :
    Cursors ids (count + 1) s.advanced.ring where
  slots := h.slots
  next := by
    have hlen : s.ring.slots.length = ids.length := by rw [← h.slots, List.length_map]
    show (s.ring.next + 1) % s.ring.slots.length = _
    rw [hlen, h.next, Nat.mod_add_mod]
  current := by
    rw [if_neg (Nat.succ_ne_zero count), Nat.add_sub_cancel, ← h.next]
    rfl

theorem Turn.cursors (h : Turn engine s w call t answer s')
    (hs : Cursors ids s.stats.framesDecoded s.ring) :
    Cursors ids s'.stats.framesDecoded s'.ring := by
  cases h with
  | short _ | sent _ _ | refused _ _ | reset _ => exact hs
  | nothing hr _ _ | lost hr _ _ => exact hs.received hr
  | direct hr _ _ | staged hr _ _ _ _ _ | untransferred hr _ _ _ _ _ =>
    exact (hs.received hr).advanced

/-- the slot that the engine is to receive into is told by the number of pictures -/
theorem Cursors.next_target (h : Cursors ids count s.ring) (hr : Receives engine s w target r) :
    ids[count % ids.length]? = some target.id := by
  rw [← h.next, ← h.slots, List.getElem?_map, hr.slot]
  rfl

end

/-! ## one call -/

/-- what a call does to the books -/
structure Books (ids : List Nat) (s : Session κ) (call : Call) (t : Trace) (answer : Answer)
    (s' : Session κ) : Prop where
  /-- a picture is asked of the engine once, into the slot that comes next -/
  target : call.isNextFrame → ∃ id, ids[s.stats.framesDecoded % ids.length]? = some id ∧
    t.filterMap Event.target? = [id]
  quiet : ¬call.isNextFrame → t.filterMap Event.target? = []
  slot : ∀ f, answer = .received (.ok (some f)) → s'.ring.current = some f.slot
  idle : answer.isIdle → s'.stats = s.stats ∧ s'.ring.next = s.ring.next ∧
    s'.ring.current = s.ring.current

theorem targets_receptionTrace (frame : Nat) (r : Reception σ κ) :
    (receptionTrace frame r).filterMap Event.target? = [frame] := by
  have hrefusals :
      (r.refusals.map (Event.notice ∘ .formatRefused)).filterMap Event.target? = [] := by
    rw [List.filterMap_map]
    exact List.filterMap_eq_nil_iff.2 fun _ _ => rfl
  exact congrArg (frame :: ·) hrefusals

theorem Turn.books {ids : List Nat} (h : Turn engine s w call t answer s')
    (hs : Cursors ids s.stats.framesDecoded s.ring) : Books ids s call t answer s' := by
  -- a call for a picture asks the engine first, whatever comes of it
  have htarget : ∀ {target r} rest, Receives engine s w target r →
      rest.filterMap Event.target? = [] →
      ∃ id, ids[s.stats.framesDecoded % ids.length]? = some id ∧
        (receptionTrace target.id r ++ rest).filterMap Event.target? = [id] := by
    intro target r rest hr hrest
    refine ⟨target.id, hs.next_target hr, ?_⟩
    rw [List.filterMap_append, targets_receptionTrace, hrest]
    rfl
  cases h with
  | short _ | reset _ => exact ⟨nofun, fun _ => rfl, nofun, fun _ => ⟨rfl, rfl, rfl⟩⟩
  | sent _ _ | refused _ _ => exact ⟨nofun, fun _ => rfl, nofun, nofun⟩
  | nothing hr _ _ =>
    refine ⟨fun _ => ?_, fun hcall => absurd rfl hcall, nofun, fun _ => ⟨rfl, rfl, rfl⟩⟩
    rw [← List.append_nil (receptionTrace _ _)]
    exact htarget _ hr rfl
  | lost hr _ _ =>
    exact ⟨fun _ => htarget _ hr rfl, fun hcall => absurd rfl hcall, nofun, nofun⟩
  | direct hr _ _ =>
    refine ⟨fun _ => ?_, fun hcall => absurd rfl hcall, ?_, nofun⟩
    · rw [← List.append_nil (receptionTrace _ _)]
      exact htarget _ hr rfl
    · rintro _ ⟨⟩
      rfl
  | staged hr _ _ _ _ _ =>
    refine ⟨fun _ => htarget _ hr rfl, fun hcall => absurd rfl hcall, ?_, nofun⟩
    rintro _ ⟨⟩
    rfl
  | untransferred hr _ _ _ _ _ =>
    exact ⟨fun _ => htarget _ hr rfl, fun hcall => absurd rfl hcall, nofun, nofun⟩

/-! ## any number of calls -/

/-- the books of a session whose slots are the frames `ids`, since its start -/
structure Account (padding : UInt64) (ids : List Nat) (calls : List Call) (answers : List Answer)
    (t : Trace) (s : Session κ) : Prop where
  answered : answers.length = calls.length
  counts : Counts padding calls answers t s.stats
  cursors : Cursors ids s.stats.framesDecoded s.ring

theorem Turn.account {padding : UInt64} {ids : List Nat} {calls : List Call}
    {answers : List Answer} {t' : Trace} (hpadding : engine.padding = padding)
    (hs : Account padding ids calls answers t s) (h : Turn engine s w call t' answer s') :
    Account padding ids (calls ++ [call]) (answers ++ [answer]) (t ++ t') s' := by
  subst hpadding
  obtain ⟨added, hstats, hadded⟩ := h.counts
  refine ⟨?_, ?_, h.cursors hs.cursors⟩
  · rw [List.length_append, List.length_append, hs.answered]
    rfl
  · rw [hstats]
    exact hs.counts.append hadded

section
variable {config : SessionConfig} (engine)

theorem account_start (hstart : (start engine config w).value = .ok (.ok s)) :
    Account engine.padding (s.ring.slots.map (·.id)) [] [] [] s := by
  have hopened := opened_start hstart
  refine ⟨rfl, ?_, rfl, ?_, ?_⟩
  · rw [hopened.stats]
    exact .nil _
  · rw [hopened.stats, hopened.next]
    exact (Nat.zero_mod _).symm
  · rw [hopened.stats, hopened.current]
    rfl

/-- the slots of a ring are different frames -/
theorem nodup_slots (hstart : (start engine config w).value = .ok (.ok s)) :
    (s.ring.slots.map (·.id)).Nodup := by
  have hall := (accounts_lifetime engine hstart [] false).nodup_released
  rw [Trace.released_append, released_farewell] at hall
  have hslots := (List.nodup_cons.1 (List.nodup_append.1 (List.nodup_append.1 hall).2.1).2.1).2
  have hframes : (s.ring.slots.map fun f => Resource.frame f.id) =
      (s.ring.slots.map (·.id)).map .frame := by
    rw [List.map_map]
    rfl
  rw [hframes] at hslots
  exact hslots.of_map _

end

/-- after any calls, in whatever world they begin, the counters and the cursors are those of the
calls, the answers and the questions to the engine, and the next call keeps to them -/
theorem accounting (engine : Engine σ κ) (config : SessionConfig) (w : World σ) (s : Session κ)
    (hstart : (start engine config w).value = .ok (.ok s)) (v : World σ) (calls : List Call) :
    let run := s.perform engine calls v
    let ids := s.ring.slots.map (·.id)
    ids.length = config.bufferCount.toNat ∧ ids.Nodup ∧
    ∃ answers s', run.value = .ok (answers, s') ∧
      s'.ring.capacity = config.bufferCount.toNat ∧
      Account engine.padding ids calls answers run.events s' ∧
      (∀ n ∈ s'.stats.counters, n ≤ calls.length) ∧
      ∀ call, ∃ answer s'', (call.act engine s' run.world).value = .ok (answer, s'') ∧
        Books ids s' call (call.act engine s' run.world).events answer s'' := by
  obtain ⟨hs, hlen⟩ := sound_of_start engine hstart
  have hcapacity : (s.ring.slots.map (·.id)).length = config.bufferCount.toNat := by
    rw [List.length_map, hlen]
  obtain ⟨answers, s', hvalue, hcursor, haccount⟩ :=
    perform_turns (Turn.account rfl) hs.cursor (account_start engine hstart) v calls
  refine ⟨hcapacity, nodup_slots engine hstart, answers, s', hvalue, ?_, haccount,
    haccount.counts.counters_le haccount.answered, fun call => ?_⟩
  · rw [← hcapacity, ← haccount.cursors.slots, List.length_map]
    rfl
  · have hcall : call.Takes engine s' (s.perform engine calls v).world := call.takes hcursor _
    obtain ⟨answer, s'', hanswer, hturn⟩ := hcall
    exact ⟨answer, s'', hanswer, hturn.books haccount.cursors⟩

/-- an engine that decodes on a device -/
def vaapiWorld : World Synthetic.Ledger :=
  ⟨.empty, .fresh [⟨"h264", true, Synthetic.deviceModes [(.vaapi, .vaapi)]⟩] [], .none⟩

def smallConfig : SessionConfig := { width := 2, height := 2 }

/-- two packets with their padding and one without, and two pictures -/
def mixedCalls : List Call :=
  [.decode (1 :: List.replicate 64 0) 1, .decode [1] 1, .decode (2 :: List.replicate 64 0) 1,
    .nextFrame true, .nextFrame false, .reset]

theorem accounting_vaapi :
    let engine := Synthetic.engine "s"
    let started := start engine smallConfig vaapiWorld
    ∃ s, started.value = .ok (.ok s) ∧
      ∃ answers s', (s.perform engine mixedCalls started.world).value = .ok (answers, s') ∧
        s'.ring.capacity = 2 ∧ s'.stats.packetsSubmitted = 2 ∧
        Account 64 [1, 2] mixedCalls answers
          (s.perform engine mixedCalls started.world).events s' := by
  refine ⟨_, rfl, ?_⟩
  obtain ⟨-, -, answers, s', hvalue, hcapacity, haccount, -⟩ :=
    accounting (Synthetic.engine "s") smallConfig vaapiWorld _ rfl
      (start (Synthetic.engine "s") smallConfig vaapiWorld).world mixedCalls
  exact ⟨answers, s', hvalue, hcapacity, haccount.counts.packets.trans (by decide), haccount⟩

end Session

end StreamDecode
