import StreamDecode.Engine.Synthetic
import StreamDecode.Proofs.Session.Opened

/-!
# A session on the synthetic engine is a queue

* `Fifo.step`     what a call does to a queue of packets, and what is seen of it;
* `Tracks.step`   a call on a session does what it does to the queue that the session stands for;
* `Synthetic.session_refines_queue`   so does any number of calls, from the start of a session on.
-/

namespace StreamDecode.Synthetic

/-! ## the queue -/

/-- a call on a session, or the switch that makes transfers fail -/
inductive Call where
  | decode (buf : Bytes) (len : UInt64)
  | nextFrame (hostVisible : Bool)
  | reset
  | setFailTransfer (fail : Bool)

inductive Observation where
  | accepted
  | refused (cause : SessionError)
  | noFrame
  | frame (slot : Nat) (width height : UInt32) (sequence : Nat)
  | done
  deriving DecidableEq

structure Setup where
  width : UInt32
  height : UInt32
  /-- the number of ring slots -/
  slots : Nat
  preference : Preference
  /-- the format that was negotiated, if the session runs on a device -/
  surface : Option PixelFormat

/-- the error of a transfer, if there is a transfer and it fails -/
def Setup.transferError (setup : Setup) (failing hostVisible : Bool) : Option EngineError :=
  match setup.surface with
  | none => none
  | some format =>
    if setup.preference = .software ∨ hostVisible then
      if failing then some ioError
      else if format.isHardware then none
      else some (.unsupported (format.label ++ " is not an accelerator format"))
    else none

def Setup.seen (setup : Setup) (failing hostVisible : Bool) (slot sequence : Nat) : Observation :=
  match setup.transferError failing hostVisible with
  | some cause => .refused (.transfer cause)
  | none => .frame slot setup.width setup.height sequence

theorem Setup.seen_of_kept {setup : Setup} {failing hostVisible : Bool} {slot sequence : Nat}
    (h : ¬(setup.preference = .software ∨ hostVisible)) :
    setup.seen failing hostVisible slot sequence =
      .frame slot setup.width setup.height sequence := by
  rw [seen, transferError]
  cases setup.surface with
  | none => rfl
  | some format => simp only [if_neg h]

structure Fifo where
  /-- packets that were accepted, and neither taken nor reset away, the oldest first -/
  waiting : List Bytes
  /-- how many packets were taken that gave a picture -/
  taken : Nat
  /-- transfers fail at present -/
  failing : Bool

namespace Fifo

def step (setup : Setup) (q : Fifo) : Call → Observation × Fifo
  | .decode buf len =>
    if buf.length < requiredSize len 64 then
      (.refused (.insufficientPadding len.toNat (buf.length - len.toNat) 64), q)
    else if (buf.take len.toNat).head? = some 0xFF then (.refused (.submit invalidData), q)
    else (.accepted, { q with waiting := q.waiting ++ [buf.take len.toNat] })
  | .nextFrame hostVisible =>
    match q.waiting with
    | [] => (.noFrame, q)
    | packet :: waiting =>
      if packet.head? = some 0xEE then (.refused (.receive invalidData), { q with waiting })
      else (setup.seen q.failing hostVisible (q.taken % setup.slots) (q.taken + 1),
        { q with waiting, taken := q.taken + 1 })
  | .reset => (.done, { q with waiting := [] })
  | .setFailTransfer fail => (.done, { q with failing := fail })

section
variable {setup : Setup} {q : Fifo} {buf packet : Bytes} {len : UInt64} {waiting : List Bytes}
  {hostVisible : Bool}

theorem step_decode_short (h : buf.length < requiredSize len 64) :
    q.step setup (.decode buf len) =
      (.refused (.insufficientPadding len.toNat (buf.length - len.toNat) 64), q) := if_pos h

theorem step_decode_rejected (h : ¬buf.length < requiredSize len 64)
    (hreject : (buf.take len.toNat).head? = some 0xFF) :
    q.step setup (.decode buf len) = (.refused (.submit invalidData), q) := by
  rw [step, if_neg h, if_pos hreject]

theorem step_decode_accepted (h : ¬buf.length < requiredSize len 64)
    (haccept : (buf.take len.toNat).head? ≠ some 0xFF) :
    q.step setup (.decode buf len) =
      (.accepted, { q with waiting := q.waiting ++ [buf.take len.toNat] }) := by
  rw [step, if_neg h, if_neg haccept]

theorem step_nextFrame_nil (h : q.waiting = []) :
    q.step setup (.nextFrame hostVisible) = (.noFrame, q) := by
  simp only [step, h]

theorem step_nextFrame_rejected (h : q.waiting = packet :: waiting)
    (hreject : packet.head? = some 0xEE) :
    q.step setup (.nextFrame hostVisible) =
      (.refused (.receive invalidData), { q with waiting }) := by
  simp only [step, h, if_pos hreject]

theorem step_nextFrame_taken (h : q.waiting = packet :: waiting)
    (htake : packet.head? ≠ some 0xEE) :
    q.step setup (.nextFrame hostVisible) =
      (setup.seen q.failing hostVisible (q.taken % setup.slots) (q.taken + 1),
        { q with waiting, taken := q.taken + 1 }) := by
  simp only [step, h, if_neg htake]

end

def run (setup : Setup) (q : Fifo) : List Call → List Observation × Fifo
  | [] => ([], q)
  | call :: calls =>
    let (seen, q) := q.step setup call
    let (rest, q) := run setup q calls
    (seen :: rest, q)

end Fifo

/-! ## the session -/

def observe {α : Type} (see : α → Observation) : Except SessionError α → Observation
  | .error cause => .refused cause
  | .ok a => see a

/-- what is seen of a call, with the session and the world after it -/
def outcome {α : Type} (see : α → Observation) (step : Step Ledger (Outcome Context α)) :
    Except Fault (Observation × Session Context × World Ledger) :=
  match step.value with
  | .error fault => .error fault
  | .ok (answer, s) => .ok (observe see answer, s, step.world)

def seenFrame : Option OutputFrame → Observation
  | none => .noFrame
  | some f => .frame f.slot f.frame.picture.width f.frame.picture.height f.frame.picture.sequence

def Call.perform (scope : String) (s : Session Context) (w : World Ledger) :
    Call → Except Fault (Observation × Session Context × World Ledger)
  | .decode buf len => outcome (fun () => .accepted) (s.decode (engine scope) buf len w)
  | .nextFrame hostVisible => outcome seenFrame (s.nextFrame (engine scope) hostVisible w)
  | .reset =>
    let step := s.reset (engine scope) w
    .ok (.done, step.value, step.world)
  | .setFailTransfer fail => .ok (.done, s, { w with engine.failTransfer := fail })

/-- calls one after the other; a fault ends it -/
def performAll (scope : String) (s : Session Context) (w : World Ledger) :
    List Call → Except Fault (List Observation × Session Context × World Ledger)
  | [] => .ok ([], s, w)
  | call :: calls =>
    match call.perform scope s w with
    | .error fault => .error fault
    | .ok (seen, s, w) =>
      match performAll scope s w calls with
      | .error fault => .error fault
      | .ok (rest, s, w) => .ok (seen :: rest, s, w)

/-! ## the session stands for the queue -/

structure Tracks (setup : Setup) (q : Fifo) (s : Session Context) (w : World Ledger) : Prop where
  pending : s.context.state.pending = q.waiting
  produced : s.context.state.produced = q.taken
  width : s.context.state.width = setup.width
  height : s.context.state.height = setup.height
  choice : s.context.state.choice.map (·.target) = setup.surface
  /-- the first picture settles the format that was negotiated, if there is one -/
  format : ∀ f ∈ s.context.state.format, f = setup.surface.getD .yuv420p
  surface : s.surfaceFormat = setup.surface
  preference : s.preference = setup.preference
  slots : s.ring.slots.length = setup.slots
  next : s.ring.next = q.taken % setup.slots
  cursor : s.ring.next < s.ring.slots.length
  failing : w.engine.failTransfer = q.failing

variable {setup : Setup} {q : Fifo} {s : Session Context} {w : World Ledger} {scope : String}

/-- with a device, all pictures are in the negotiated format -/
theorem Context.nextFormat_eq {c : Context} {surface : Option PixelFormat}
    (hchoice : c.choice.map (·.target) = surface)
    (hformat : ∀ f ∈ c.format, f = surface.getD .yuv420p) :
    c.nextFormat = (surface.getD .yuv420p, []) := by
  subst hchoice
  unfold Context.nextFormat
  split
  · next f hf => rw [hformat f hf]
  · split
    · next hnone => rw [hnone]; rfl
    · next choice hsome =>
      rw [hsome, (choice.choose_eq_ok_iff _ _).2 ⟨List.mem_cons_self, rfl⟩]
      rfl

/-- a call on the session is seen as the call on the queue, and leaves a session that stands for the
queue after it -/
def Call.Follows (call : Call) (setup : Setup) (q : Fifo) (scope : String) (s : Session Context)
    (w : World Ledger) : Prop :=
  ∃ s' w', call.perform scope s w = .ok ((q.step setup call).1, s', w') ∧
    Tracks setup (q.step setup call).2 s' w'

theorem Call.follows_of {call : Call} {seen : Observation} {q' : Fifo} {s' : Session Context}
    {w' : World Ledger} (hstep : q.step setup call = (seen, q'))
    (hperform : call.perform scope s w = .ok (seen, s', w')) (h : Tracks setup q' s' w') :
    call.Follows setup q scope s w := by
  rw [Call.Follows, hstep]
  exact ⟨s', w', hperform, h⟩

section
variable {hostVisible : Bool} {number : Nat}

/-- a picture of the session that is looked at by the host: its transfer fails, or it shows -/
theorem handOut_seen (scope : String) (w : World Ledger) (slot : Nat) (s : Session Context)
    (frame : Frame) (hsurface : s.surfaceFormat = setup.surface)
    (hpicture : frame.picture =
      picture (setup.surface.getD .yuv420p) setup.width setup.height number)
    (hshown : setup.preference = .software ∨ hostVisible) :
    ∃ answer path stats events, s.handOut (engine scope) slot frame w =
        ⟨(answer, { s with path, stats }), events, w⟩ ∧ path.format = setup.surface ∧
      observe seenFrame answer =
        setup.seen w.engine.failTransfer hostVisible slot number := by
  have hseen : seenFrame (some ⟨frame, slot, .ring⟩) =
      .frame slot setup.width setup.height number := by
    simp [seenFrame, hpicture]
  cases hformat : setup.surface with
  | none =>
    have hpath : s.path.needsTransfer frame.picture = false := by
      rw [TransferPath.needsTransfer, show s.path.format = none from hsurface.trans hformat]
      rfl
    refine ⟨_, s.path, s.stats, _, Session.handOut_direct hpath, hsurface.trans hformat, ?_⟩
    rw [Setup.seen, Setup.transferError, hformat]
    exact hseen
  | some format =>
    obtain ⟨staging, hpath, hstaging⟩ := Option.map_eq_some_iff.1 (hsurface.trans hformat)
    have hsame : staging.format = frame.picture.format := by
      rw [hpicture, hformat, format_picture, hstaging]
      rfl
    rw [Setup.seen, Setup.transferError, hformat]
    by_cases hfail : w.engine.failTransfer
    · have htransfer : (engine scope).transfer staging.frame.picture frame.picture w.engine =
          ((.error ioError, staging.frame.picture), w.engine) := if_pos hfail
      refine ⟨_, _, _, _, Session.handOut_failed hpath hsame htransfer, congrArg some hstaging, ?_⟩
      simp [hshown, hfail, observe]
    · by_cases hhardware : format.isHardware
      · have htransfer : (engine scope).transfer staging.frame.picture frame.picture w.engine =
            ((.ok (), picture .yuv420p setup.width setup.height number), w.engine) := by
          show transfer _ _ _ = _
          simp [transfer, hfail, hpicture, hformat, hhardware]
        refine ⟨_, _, _, _, Session.handOut_staged hpath hsame htransfer, congrArg some hstaging, ?_⟩
        simp [hshown, hfail, hhardware, observe, seenFrame]
      · have htransfer : (engine scope).transfer staging.frame.picture frame.picture w.engine =
            ((.error (.unsupported (format.label ++ " is not an accelerator format")),
              staging.frame.picture), w.engine) := by
          show transfer _ _ _ = _
          simp [transfer, hfail, hpicture, hformat, hhardware]
        refine ⟨_, _, _, _, Session.handOut_failed hpath hsame htransfer, congrArg some hstaging, ?_⟩
        simp [hshown, hfail, hhardware, observe]

end

namespace Tracks

theorem decode (h : Tracks setup q s w) (buf : Bytes) (len : UInt64) :
    (Call.decode buf len).Follows setup q scope s w := by
  by_cases hsize : buf.length < requiredSize len 64
  · have hdecode := congrFun (Session.decode_of_short (engine scope) (s := s) hsize) w
    exact Call.follows_of (Fifo.step_decode_short hsize) (congrArg (outcome _) hdecode) h
  · by_cases hreject : (buf.take len.toNat).head? = some 0xFF
    · have hsend : (engine scope).sendPacket (buf.take len.toNat) s.context.state w.engine =
          (.error invalidData, s.context.state,
            { w.engine with submitted := w.engine.submitted ++ [buf.take len.toNat] }) :=
        if_pos hreject
      have hdecode := Session.decode_of_error hsize hsend
      exact Call.follows_of (Fifo.step_decode_rejected hsize hreject)
        (congrArg (outcome _) hdecode) { h with }
    · have hsend : (engine scope).sendPacket (buf.take len.toNat) s.context.state w.engine =
          (.ok (), { s.context.state with
              pending := s.context.state.pending ++ [buf.take len.toNat] },
            { w.engine with submitted := w.engine.submitted ++ [buf.take len.toNat] }) :=
        if_neg hreject
      have hdecode := Session.decode_of_ok hsize hsend
      exact Call.follows_of (Fifo.step_decode_accepted hsize hreject)
        (congrArg (outcome _) hdecode)
        { h with pending := congrArg (· ++ [buf.take len.toNat]) h.pending }

section
variable (scope : String) {picture : Picture} {packet : Bytes} {waiting : List Bytes}

theorem receive_nil (h : Tracks setup q s w) (hq : q.waiting = []) :
    (engine scope).receiveFrame picture s.context.state w.engine =
      ⟨.error .again, picture, [], s.context.state, w.engine⟩ := by
  show receiveFrame _ _ _ = _
  rw [receiveFrame, h.pending, hq]

theorem receive_rejected (h : Tracks setup q s w) (hq : q.waiting = packet :: waiting)
    (hpacket : packet.head? = some 0xEE) :
    (engine scope).receiveFrame picture s.context.state w.engine =
      ⟨.error invalidData, picture, [], { s.context.state with pending := waiting }, w.engine⟩ := by
  show receiveFrame _ _ _ = _
  rw [receiveFrame, h.pending, hq]
  exact if_pos hpacket

/-- the picture of a packet carries the number after that of the packets taken before -/
theorem receive_picture (h : Tracks setup q s w) (hq : q.waiting = packet :: waiting)
    (hpacket : packet.head? ≠ some 0xEE) :
    (engine scope).receiveFrame picture s.context.state w.engine =
      ⟨.ok (), Synthetic.picture (setup.surface.getD .yuv420p) setup.width setup.height
          (q.taken + 1), [],
        { s.context.state with pending := waiting, format := some (setup.surface.getD .yuv420p),
                               produced := q.taken + 1 }, w.engine⟩ := by
  have hformat : ({ s.context.state with pending := waiting } : Context).nextFormat =
      (setup.surface.getD .yuv420p, []) := Context.nextFormat_eq h.choice h.format
  show receiveFrame _ _ _ = _
  rw [receiveFrame, h.pending, hq]
  simp only [hpacket, if_false, hformat]
  rw [h.width, h.height, h.produced]

end

theorem taken (h : Tracks setup q s w) (target : Frame) (waiting : List Bytes)
    {r : Reception Ledger Context} (hcontext : r.context = { s.context.state with
      pending := waiting, format := some (setup.surface.getD .yuv420p), produced := q.taken + 1 })
    {path : TransferPath} (hpath : path.format = setup.surface) (stats : Stats) :
    Tracks setup { q with waiting, taken := q.taken + 1 }
      { (s.received target r).advanced with path, stats } w where
  pending := by
    show r.context.pending = _
    rw [hcontext]
  produced := by
    show r.context.produced = _
    rw [hcontext]
  width := by
    show r.context.width = _
    rw [hcontext, ← h.width]
  height := by
    show r.context.height = _
    rw [hcontext, ← h.height]
  choice := by
    show r.context.choice.map (·.target) = _
    rw [hcontext, ← h.choice]
  format f hf := by
    have hsome : f ∈ r.context.format := hf
    rw [hcontext] at hsome
    exact (Option.some.inj hsome).symm
  surface := hpath
  preference := h.preference
  slots := by
    rw [← h.slots]
    exact List.length_set
  next := by
    show (s.ring.next + 1) % (s.ring.slots.set _ _).length = _
    rw [List.length_set, h.next, h.slots, Nat.mod_add_mod]
  cursor := Nat.mod_lt _ (by
    rw [Session.received, Ring.write, List.length_set]
    exact Nat.zero_lt_of_lt h.cursor)
  failing := h.failing

theorem nextFrame (h : Tracks setup q s w) (hostVisible : Bool) :
    (Call.nextFrame hostVisible).Follows setup q scope s w := by
  have hcursor := h.cursor
  have hslots : ∀ frame, (s.ring.write frame).slots.length = setup.slots := fun frame => by
    rw [← h.slots]
    exact List.length_set
  cases hq : q.waiting with
  | nil =>
    have hnext := Session.nextFrame_of_none hostVisible hcursor (h.receive_nil scope hq) rfl rfl
    exact Call.follows_of (Fifo.step_nextFrame_nil hq) (congrArg (outcome seenFrame) hnext)
      { h with
        slots := hslots _
        cursor := Session.cursor_received hcursor _ }
  | cons packet waiting =>
    by_cases hpacket : packet.head? = some 0xEE
    · have hnext := Session.nextFrame_of_error hostVisible hcursor
        (h.receive_rejected scope hq hpacket) rfl (by decide)
      exact Call.follows_of (Fifo.step_nextFrame_rejected hq hpacket)
        (congrArg (outcome seenFrame) hnext)
        { h with
          pending := rfl
          slots := hslots _
          cursor := Session.cursor_received hcursor _ }
    · -- the reception stays a variable, so that the two ways of handing out share its facts
      obtain ⟨r, hr, hresult, hpicture, hcontext, hstate⟩ :
          ∃ r, (engine scope).receiveFrame s.ring.slots[s.ring.next].picture s.context.state
              w.engine = r ∧ r.result = .ok () ∧
            r.picture = picture (setup.surface.getD .yuv420p) setup.width setup.height
              (q.taken + 1) ∧
            r.context = { s.context.state with
              pending := waiting, format := some (setup.surface.getD .yuv420p),
              produced := q.taken + 1 } ∧ r.state = w.engine :=
        ⟨_, h.receive_picture scope hq hpacket, rfl, rfl, rfl, rfl⟩
      by_cases hshown : setup.preference = .software ∨ hostVisible
      · obtain ⟨answer, path, stats, events, hout, hpath, hseen⟩ := handOut_seen scope w s.ring.next
          (s.received s.ring.slots[s.ring.next] r).advanced
          { s.ring.slots[s.ring.next] with picture := r.picture } h.surface hpicture hshown
        refine Call.follows_of (Fifo.step_nextFrame_taken hq hpacket) ?_
          (h.taken s.ring.slots[s.ring.next] waiting hcontext hpath stats)
        rw [Call.perform, Session.nextFrame_shown hostVisible hcursor hr hresult (by rwa [h.preference]),
          hstate, hout, ← h.failing, ← h.next, ← hseen]
        rfl
      · refine Call.follows_of (Fifo.step_nextFrame_taken hq hpacket) ?_
          (h.taken s.ring.slots[s.ring.next] waiting hcontext h.surface s.stats.countFrame)
        rw [Call.perform, Session.nextFrame_kept hostVisible hcursor hr hresult (by rwa [h.preference]),
          hstate, Setup.seen_of_kept hshown, ← h.next]
        simp only [outcome, observe, seenFrame, hpicture, width_picture, height_picture,
          sequence_picture]
        rfl

theorem reset (h : Tracks setup q s w) : Call.reset.Follows setup q scope s w :=
  ⟨_, _, rfl, { h with pending := rfl }⟩

theorem setFailTransfer (h : Tracks setup q s w) (fail : Bool) :
    (Call.setFailTransfer fail).Follows setup q scope s w :=
  ⟨_, _, rfl, { h with failing := rfl }⟩

theorem step (h : Tracks setup q s w) (call : Call) : call.Follows setup q scope s w := by
  cases call with
  | decode buf len => exact h.decode buf len
  | nextFrame hostVisible => exact h.nextFrame hostVisible
  | reset => exact h.reset
  | setFailTransfer fail => exact h.setFailTransfer fail

theorem run (h : Tracks setup q s w) (calls : List Call) :
    ∃ s' w', performAll scope s w calls = .ok ((q.run setup calls).1, s', w') ∧
      Tracks setup (q.run setup calls).2 s' w' := by
  induction calls generalizing q s w with
  | nil => exact ⟨s, w, rfl, h⟩
  | cons call calls ih =>
    obtain ⟨s₁, w₁, hperform, h₁⟩ := h.step call
    obtain ⟨s₂, w₂, hrest, h₂⟩ := ih h₁
    refine ⟨s₂, w₂, ?_, h₂⟩
    rw [performAll, hperform]
    dsimp only
    rw [hrest]
    rfl

end Tracks

/-! ## from the start on -/

/-- what a session settled when it started -/
def Setup.of (config : SessionConfig) (s : Session Context) : Setup where
  width := config.width
  height := config.height
  slots := config.bufferCount.toNat
  preference := config.preference
  surface := s.surfaceFormat

def Fifo.empty (failing : Bool) : Fifo := ⟨[], 0, failing⟩

theorem openContext_eq_ok {name : String} {settings : CodecSettings} {binding : Option Binding}
    {l l' : Ledger} {context : Context}
    (h : openContext name settings binding l = (.ok context, l')) :
    context = ⟨[], binding.map (·.choice), none, settings.width, settings.height, 0⟩ := by
  unfold openContext at h
  split at h
  · cases h
  · dsimp only at h
    split at h
    · cases h
      rfl
    · cases h

/-- a session that was just started stands for an empty queue -/
theorem tracks_start {config : SessionConfig}
    (hstart : (Session.start (engine scope) config w).value = .ok (.ok s)) (w' : World Ledger) :
    Tracks (.of config s) (.empty w'.engine.failTransfer) s w' := by
  have hopen : ∀ decoder binding l context l',
      (engine scope).openContext decoder config.settings binding l = (.ok context, l') →
        context = ⟨[], binding.map (·.choice), none, config.width, config.height, 0⟩ :=
    fun _ _ _ _ _ => openContext_eq_ok
  obtain ⟨⟨⟨binding, hfresh, hsurface⟩, -, hpreference, -, -, hnext⟩, hlen, hcursor⟩ :=
    Session.yields_start hopen w s hstart
  exact
    { pending := by rw [hfresh]; rfl
      produced := by rw [hfresh]; rfl
      width := by rw [hfresh]; rfl
      height := by rw [hfresh]; rfl
      choice := by
        rw [hfresh, Option.map_map]
        exact hsurface.symm
      format := fun f hf => by
        rw [hfresh] at hf
        cases hf
      surface := rfl
      preference := hpreference
      slots := hlen
      next := by rw [hnext]; exact (Nat.zero_mod _).symm
      cursor := hcursor
      failing := rfl }

/-- from its start on, a session on the synthetic engine answers any calls as the queue does, and has
the same packets left; transfers fail only on a device -/
theorem session_refines_queue (scope : String) (config : SessionConfig) (w : World Ledger)
    (s : Session Context) (hstart : (Session.start (engine scope) config w).value = .ok (.ok s))
    (calls : List Call) :
    let started := (Session.start (engine scope) config w).world
    let queue := (Fifo.empty started.engine.failTransfer).run (.of config s) calls
    s.deviceKind.isSome = s.surfaceFormat.isSome ∧
      ∃ s' w', performAll scope s started calls = .ok (queue.1, s', w') ∧
        s'.context.state.pending = queue.2.waiting := by
  have hopen : ∀ decoder binding l context l',
      (engine scope).openContext decoder config.settings binding l = (.ok context, l') →
        (fun _ _ => True : Option Binding → Context → Prop) binding context :=
    fun _ _ _ _ _ _ => trivial
  obtain ⟨hopened, -⟩ := Session.yields_start hopen w s hstart
  obtain ⟨s', w', hrun, h⟩ := (tracks_start hstart _).run calls
  exact ⟨hopened.device, s', w', hrun, h.pending⟩

def vaapiWorld : World Ledger :=
  ⟨.empty, .fresh [⟨"h264", true, deviceModes [(.vaapi, .vaapi)]⟩] [], .none⟩

/-- a picture, a packet that fails to be received, one that is rejected, and a failing transfer -/
def mixedCalls : List Call :=
  [.decode (1 :: List.replicate 64 0) 1, .decode (0xEE :: List.replicate 64 0) 1,
    .decode (0xFF :: List.replicate 64 0) 1, .nextFrame true, .nextFrame true,
    .setFailTransfer true, .decode (2 :: List.replicate 64 0) 1, .nextFrame true, .nextFrame true]

theorem session_refines_queue_vaapi :
    ∃ s, (Session.start (engine "s") { width := 2, height := 2 } vaapiWorld).value = .ok (.ok s) ∧
      ∃ s' w', performAll "s" s
          (Session.start (engine "s") { width := 2, height := 2 } vaapiWorld).world mixedCalls =
        .ok ([.accepted, .accepted, .refused (.submit invalidData), .frame 0 2 2 1,
          .refused (.receive invalidData), .done, .accepted, .refused (.transfer ioError),
          .noFrame], s', w') := by
  refine ⟨_, rfl, ?_⟩
  obtain ⟨-, s', w', hrun, -⟩ :=
    session_refines_queue "s" { width := 2, height := 2 } vaapiWorld _ rfl mixedCalls
  exact ⟨s', w', hrun⟩

end StreamDecode.Synthetic
