import Mathlib.Data.List.Forall2
import StreamDecode.Proofs.Session.Counting
import StreamDecode.Proofs.Synthetic.Queue

/-!
# Acceleration does not show

A session on a device and one in software, on the synthetic engine and with the same calls.

* `Fifo.step_plain`   the queue that a session stands for does the same without a device;
* `Tracks.pictured`   what is shown to the host does not depend on the device;
* `Paired.act`        one call on the two sessions;
* `acceleration_transparent`   any number of calls, from the start of the two on.
-/

namespace StreamDecode

open Session (Answer)

/-! ## what a host sees -/

/-- frames that a host cannot tell apart -/
structure OutputFrame.LooksLike (a b : OutputFrame) : Prop where
  slot : a.slot = b.slot
  format : a.format = b.format
  memory : a.memory = b.memory
  width : a.frame.picture.width = b.frame.picture.width
  height : a.frame.picture.height = b.frame.picture.height
  planes : a.planes = b.planes
  stride : ∀ plane, a.stride plane = b.stride plane
  data : ∀ plane, a.data plane = b.data plane
  sequence : a.frame.picture.sequence = b.frame.picture.sequence

theorem OutputFrame.LooksLike.of_picture {a b : OutputFrame} (hslot : a.slot = b.slot)
    (h : a.frame.picture = b.frame.picture) : a.LooksLike b := by
  obtain ⟨⟨_, picture⟩, slot, _⟩ := a
  obtain ⟨⟨_, picture'⟩, slot', _⟩ := b
  cases hslot
  cases h
  exact ⟨rfl, rfl, rfl, rfl, rfl, rfl, fun _ => rfl, fun _ => rfl, rfl⟩

/-- answers that are alike but for frames that are not shown to the host; the second session hands
its frames out of the ring -/
inductive Session.Answer.Agrees (shown : Prop) : Answer → Answer → Prop
  | submitted (result : Except SessionError Unit) :
    Agrees shown (.submitted result) (.submitted result)
  | failed (cause : SessionError) :
    Agrees shown (.received (.error cause)) (.received (.error cause))
  | nothing : Agrees shown (.received (.ok none)) (.received (.ok none))
  | frame {a b : OutputFrame} (slot : a.slot = b.slot)
    (width : a.frame.picture.width = b.frame.picture.width)
    (height : a.frame.picture.height = b.frame.picture.height)
    (sequence : a.frame.picture.sequence = b.frame.picture.sequence)
    (looks : shown → a.LooksLike b) (source : b.source = .ring) :
    Agrees shown (.received (.ok (some a))) (.received (.ok (some b)))
  | flushed : Agrees shown .flushed .flushed

/-- the counters of answers that agree differ in the transfers -/
theorem Session.Answer.Agrees.note {shown : Prop} {answer answer' : Answer} {stats stats' : Stats}
    (h : answer.Agrees shown answer') (hstats : stats' = { stats with transfers := 0 }) :
    stats'.note answer' = { stats.note answer with transfers := 0 } := by
  subst hstats
  cases h with
  | submitted result =>
    obtain cause | _ := result
    · cases cause <;> rfl
    · rfl
  | failed cause => cases cause <;> rfl
  | nothing => rfl
  | @frame a b _ _ _ _ _ source =>
    rw [Stats.note, Stats.note, source]
    cases a.source <;> rfl
  | flushed => rfl

namespace Synthetic

/-! ## the queue -/

/-- a call on a session as one on the queue -/
def Call.of : Session.Call → Call
  | .decode buf len => .decode buf len
  | .nextFrame hostVisible => .nextFrame hostVisible
  | .reset => .reset

variable {setup : Setup} {q : Fifo} {s a b : Session Context} {v w : World Ledger}
  {scope scope' : String}

theorem Fifo.failing_step (setup : Setup) (q : Fifo) (call : Session.Call) :
    (q.step setup (.of call)).2.failing = q.failing := by
  cases call with
  | decode buf len =>
    rw [Call.of, step]
    split_ifs <;> rfl
  | nextFrame hostVisible =>
    rw [Call.of, step]
    split
    · rfl
    · split_ifs <;> rfl
  | reset => rfl

/-- as long as transfers work, the queue does the same with and without a device -/
theorem Fifo.step_plain (hsurface : ∀ format ∈ setup.surface, format.isHardware)
    (hfailing : q.failing = false) (call : Session.Call) :
    q.step { setup with surface := none } (.of call) = q.step setup (.of call) := by
  have hseen : ∀ hostVisible slot number, ({ setup with surface := none } : Setup).seen q.failing
      hostVisible slot number = setup.seen q.failing hostVisible slot number := by
    intro hostVisible slot number
    rw [hfailing, Setup.seen, Setup.seen, Setup.transferError, Setup.transferError]
    cases hformat : setup.surface with
    | none => rfl
    | some format => simp [hsurface format hformat]
  cases call with
  | nextFrame hostVisible => simp only [Call.of, step, hseen]
  | _ => rfl

/-! ## what is shown -/

theorem transfer_eq_ok {staging source content : Picture} {l l' : Ledger}
    (h : transfer staging source l = ((.ok (), content), l')) :
    content = picture .yuv420p source.width source.height source.sequence := by
  unfold transfer at h
  split_ifs at h <;> cases h
  rfl

theorem handOut_pictured {slot number : Nat} {frame : Frame} {f : OutputFrame}
    {s' : Session Context} (hsurface : s.surfaceFormat = setup.surface)
    (hpicture : frame.picture =
      picture (setup.surface.getD .yuv420p) setup.width setup.height number)
    (hvalue : (s.handOut (engine scope) slot frame w).value = (.ok (some f), s')) :
    f.frame.picture = picture .yuv420p setup.width setup.height number ∧
      (setup.surface = none → f.source = .ring) := by
  cases hpath : s.path with
  | none =>
    have hnone : setup.surface = none := by
      rw [← hsurface, Session.surfaceFormat, hpath]
      rfl
    have hdirect : s.path.needsTransfer frame.picture = false := by
      rw [hpath]
      rfl
    rw [Session.handOut_direct hdirect] at hvalue
    cases hvalue
    rw [hpicture, hnone]
    exact ⟨rfl, fun _ => rfl⟩
  | some staging =>
    have hsome : setup.surface = some staging.format := by
      rw [← hsurface, Session.surfaceFormat, hpath]
      rfl
    have hsame : staging.format = frame.picture.format := by
      rw [hpicture, format_picture, hsome]
      rfl
    rcases htransfer : (engine scope).transfer staging.frame.picture frame.picture w.engine with
      ⟨⟨cause | _, content⟩, l⟩
    · rw [Session.handOut_failed hpath hsame htransfer] at hvalue
      cases hvalue
    · rw [Session.handOut_staged hpath hsame htransfer] at hvalue
      cases hvalue
      refine ⟨?_, fun hnone => absurd (hsome.symm.trans hnone) (Option.some_ne_none _)⟩
      rw [transfer_eq_ok htransfer, hpicture, width_picture, height_picture, sequence_picture]

/-- the host is shown the picture of the packet; a session in software hands it out of the ring -/
theorem Tracks.pictured (h : Tracks setup q s w) {hostVisible : Bool} {f : OutputFrame}
    {s' : Session Context}
    (hvalue : (s.nextFrame (engine scope) hostVisible w).value = .ok (.ok (some f), s')) :
    (setup.preference = .software ∨ hostVisible →
        f.frame.picture = picture .yuv420p setup.width setup.height (q.taken + 1)) ∧
      (setup.surface = none → f.source = .ring) := by
  have hcursor := h.cursor
  cases hq : q.waiting with
  | nil =>
    rw [Session.nextFrame_of_none hostVisible hcursor (h.receive_nil scope hq) rfl rfl] at hvalue
    cases hvalue
  | cons packet waiting =>
    by_cases hpacket : packet.head? = some 0xEE
    · rw [Session.nextFrame_of_error hostVisible hcursor (h.receive_rejected scope hq hpacket) rfl
        (by decide)] at hvalue
      cases hvalue
    · obtain ⟨r, hr, hresult, hpicture⟩ :
          ∃ r, (engine scope).receiveFrame s.ring.slots[s.ring.next].picture s.context.state
              w.engine = r ∧ r.result = .ok () ∧
            r.picture = picture (setup.surface.getD .yuv420p) setup.width setup.height
              (q.taken + 1) := ⟨_, h.receive_picture scope hq hpacket, rfl, rfl⟩
      by_cases hshown : setup.preference = .software ∨ hostVisible
      · rw [Session.nextFrame_shown hostVisible hcursor hr hresult (by rwa [h.preference])]
          at hvalue
        have hsurface : (s.received s.ring.slots[s.ring.next] r).advanced.surfaceFormat =
            setup.surface := h.surface
        obtain ⟨hshow, hsource⟩ := handOut_pictured hsurface hpicture (Except.ok.inj hvalue)
        exact ⟨fun _ => hshow, hsource⟩
      · rw [Session.nextFrame_kept hostVisible hcursor hr hresult (by rwa [h.preference])] at hvalue
        cases hvalue
        exact ⟨fun hshow => absurd hshow hshown, fun _ => rfl⟩

/-! ## the two sessions -/

/-- an accelerated and a plain session that stand for the same queue -/
structure Paired (setup : Setup) (q : Fifo) (a : Session Context) (v : World Ledger)
    (b : Session Context) (w : World Ledger) : Prop where
  accelerated : Tracks setup q a v
  plain : Tracks { setup with surface := none } q b w
  hardware : ∀ format ∈ setup.surface, format.isHardware
  steady : q.failing = false
  stats : b.stats = { a.stats with transfers := 0 }

theorem outcome_eq_ok {α : Type} {see : α → Observation} {step : Step Ledger (Outcome Context α)}
    {seen : Observation} {s' : Session Context} {w' : World Ledger}
    (h : outcome see step = .ok (seen, s', w')) :
    ∃ result, step.value = .ok (result, s') ∧ observe see result = seen ∧ step.world = w' := by
  unfold outcome at h
  split at h
  · cases h
  · next result s'' heq =>
    cases h
    exact ⟨result, heq, rfl, rfl⟩

/-- a call is answered, and seen as the call on the queue -/
theorem Tracks.act (h : Tracks setup q s w) (scope : String) (call : Session.Call) :
    ∃ answer s', (call.act (engine scope) s w).value = .ok (answer, s') ∧
      Tracks setup (q.step setup (.of call)).2 s' (call.act (engine scope) s w).world ∧
      match call with
      | .decode _ _ => ∃ result, answer = .submitted result ∧
        observe (fun () => .accepted) result = (q.step setup (.of call)).1
      | .nextFrame hostVisible => ∃ result, answer = .received result ∧
        observe seenFrame result = (q.step setup (.of call)).1 ∧
        ∀ f, result = .ok (some f) →
          (setup.preference = .software ∨ hostVisible →
            f.frame.picture = picture .yuv420p setup.width setup.height (q.taken + 1)) ∧
          (setup.surface = none → f.source = .ring)
      | .reset => answer = .flushed := by
  obtain ⟨s', w', hperform, h'⟩ : (Call.of call).Follows setup q scope s w := h.step _
  cases call with
  | decode buf len =>
    obtain ⟨result, hvalue, hseen, rfl⟩ := outcome_eq_ok hperform
    exact ⟨_, s', congrArg (Session.Outcome.answer .submitted) hvalue, h', result, rfl, hseen⟩
  | nextFrame hostVisible =>
    obtain ⟨result, hvalue, hseen, rfl⟩ := outcome_eq_ok hperform
    refine ⟨_, s', congrArg (Session.Outcome.answer .received) hvalue, h', result, rfl, hseen, ?_⟩
    rintro f rfl
    exact h.pictured hvalue
  | reset =>
    cases hperform
    exact ⟨_, _, rfl, h', rfl⟩

theorem observe_accepted_inj {r r' : Except SessionError Unit}
    (h : observe (fun () => .accepted) r = observe (fun () => .accepted) r') : r = r' := by
  cases r <;> cases r' <;> cases h <;> rfl

/-- frames that are seen alike agree, if the host is shown the same picture on both sides -/
theorem agrees_received {shown : Prop} {r r' : Except SessionError (Option OutputFrame)}
    {shot : Picture} (h : observe seenFrame r = observe seenFrame r')
    (hr : ∀ f, r = .ok (some f) → shown → f.frame.picture = shot)
    (hr' : ∀ f, r' = .ok (some f) → (shown → f.frame.picture = shot) ∧ f.source = .ring) :
    Answer.Agrees shown (.received r) (.received r') := by
  obtain cause | _ | f := r <;> obtain cause' | _ | f' := r' <;> simp only [observe, seenFrame] at h
  case error.error =>
    cases h
    exact .failed cause
  case ok.none.ok.none => exact .nothing
  case ok.some.ok.some =>
    obtain ⟨hslot, hwidth, hheight, hsequence⟩ := Observation.frame.inj h
    obtain ⟨hpicture, hsource⟩ := hr' f' rfl
    exact .frame hslot hwidth hheight hsequence
      (fun hshown => .of_picture hslot ((hr f rfl hshown).trans (hpicture hshown).symm)) hsource
  all_goals cases h

theorem Paired.act (h : Paired setup q a v b w) (scope scope' : String) (call : Session.Call) :
    ∃ answer a' answer' b',
      (call.act (engine scope) a v).value = .ok (answer, a') ∧
      (call.act (engine scope') b w).value = .ok (answer', b') ∧
      answer.Agrees (call.shows setup.preference) answer' ∧
      Paired setup (q.step setup (.of call)).2 a' (call.act (engine scope) a v).world b'
        (call.act (engine scope') b w).world := by
  obtain ⟨answer, a', hvalue, hq, hanswer⟩ := h.accelerated.act scope call
  obtain ⟨answer', b', hvalue', hq', hanswer'⟩ := h.plain.act scope' call
  rw [Fifo.step_plain h.hardware h.steady] at hq' hanswer'
  have hagrees : answer.Agrees (call.shows setup.preference) answer' := by
    cases call with
    | decode buf len =>
      obtain ⟨result, rfl, hseen⟩ := hanswer
      obtain ⟨result', rfl, hseen'⟩ := hanswer'
      cases observe_accepted_inj (hseen.trans hseen'.symm)
      exact .submitted result
    | nextFrame hostVisible =>
      obtain ⟨result, rfl, hseen, hshow⟩ := hanswer
      obtain ⟨result', rfl, hseen', hshow'⟩ := hanswer'
      exact agrees_received (hseen.trans hseen'.symm) (fun f hf => (hshow f hf).1)
        fun f hf => ⟨(hshow' f hf).1, (hshow' f hf).2 rfl⟩
    | reset =>
      subst hanswer hanswer'
      exact .flushed
  have hstats := Session.notes_act (engine scope) a call v answer a' hvalue
  have hstats' := Session.notes_act (engine scope') b call w answer' b' hvalue'
  refine ⟨answer, a', answer', b', hvalue, hvalue', hagrees, hq, hq', h.hardware, ?_, ?_⟩
  · rw [Fifo.failing_step, h.steady]
  · rw [hstats, hstats', hagrees.note h.stats]

theorem Paired.perform (h : Paired setup q a v b w) (scope scope' : String)
    (calls : List Session.Call) :
    ∃ (pairs : List (Answer × Answer)) (a' b' : Session Context),
      (a.perform (engine scope) calls v).value = .ok (pairs.map (·.1), a') ∧
      (b.perform (engine scope') calls w).value = .ok (pairs.map (·.2), b') ∧
      List.Forall₂ (fun call p => p.1.Agrees (call.shows setup.preference) p.2) calls pairs ∧
      b'.stats = { a'.stats with transfers := 0 } := by
  induction calls generalizing q a v b w with
  | nil => exact ⟨[], a, b, rfl, rfl, .nil, h.stats⟩
  | cons call calls ih =>
    obtain ⟨answer, a₁, answer', b₁, hvalue, hvalue', hagrees, h₁⟩ := h.act scope scope' call
    obtain ⟨pairs, a₂, b₂, hrest, hrest', hpairs, hstats⟩ := ih h₁
    exact ⟨(answer, answer') :: pairs, a₂, b₂, Session.perform_cons _ hvalue hrest,
      Session.perform_cons _ hvalue' hrest', .cons hagrees hpairs, hstats⟩

/-- from their starts on, a session on a device and one in software answer any calls alike, as far
as the host can see, and count the same but for the transfers -/
theorem acceleration_transparent (config : SessionConfig) (scope scope' : String)
    (v w : World Ledger) (a b : Session Context)
    (ha : (Session.start (engine scope) config v).value = .ok (.ok a))
    (hb : (Session.start (engine scope') config w).value = .ok (.ok b))
    (format : PixelFormat) (hformat : a.surfaceFormat = some format)
    (hhardware : format.isHardware) (hplain : b.deviceKind = none)
    (hv : (Session.start (engine scope) config v).world.engine.failTransfer = false)
    (hw : (Session.start (engine scope') config w).world.engine.failTransfer = false)
    (calls : List Session.Call) :
    ∃ (pairs : List (Answer × Answer)) (a' b' : Session Context),
      (a.perform (engine scope) calls (Session.start (engine scope) config v).world).value =
        .ok (pairs.map (·.1), a') ∧
      (b.perform (engine scope') calls (Session.start (engine scope') config w).world).value =
        .ok (pairs.map (·.2), b') ∧
      List.Forall₂ (fun call p => p.1.Agrees (call.shows config.preference) p.2) calls pairs ∧
      b'.stats = { a'.stats with transfers := 0 } := by
  have hopened := Session.opened_start ha
  have hopened' := Session.opened_start hb
  have hnone : b.surfaceFormat = none := by
    have hsome := hopened'.device
    rw [hplain] at hsome
    exact Option.isNone_iff_eq_none.1 (by simpa using hsome.symm)
  have haccelerated := tracks_start ha (Session.start (engine scope) config v).world
  have hsoftware := tracks_start hb (Session.start (engine scope') config w).world
  rw [hv] at haccelerated
  rw [hw, Setup.of, hnone] at hsoftware
  have hpaired : Paired (.of config a) (.empty false) a _ b _ :=
    { accelerated := haccelerated
      plain := hsoftware
      hardware := by
        intro f hf
        cases hformat.symm.trans hf
        exact hhardware
      steady := rfl
      stats := by rw [hopened.stats, hopened'.stats]; rfl }
  exact hpaired.perform scope scope' calls

def plainWorld : World Ledger := ⟨.empty, .fresh [⟨"h264", true, []⟩] [], .none⟩

/-- two pictures, of which the host looks at one, and a packet that fails to be received -/
def mixedReceives : List Session.Call :=
  [.decode (1 :: List.replicate 64 0) 1, .nextFrame true, .decode (0xEE :: List.replicate 64 0) 1,
    .nextFrame true, .decode (2 :: List.replicate 64 0) 1, .nextFrame false, .reset,
    .nextFrame false]

theorem acceleration_transparent_vaapi :
    ∃ a b, (Session.start (engine "s") { width := 2, height := 2 } vaapiWorld).value = .ok (.ok a) ∧
      (Session.start (engine "s") { width := 2, height := 2 } plainWorld).value = .ok (.ok b) ∧
      ∃ (pairs : List (Answer × Answer)) (a' b' : Session Context),
        (a.perform (engine "s") mixedReceives
          (Session.start (engine "s") { width := 2, height := 2 } vaapiWorld).world).value =
            .ok (pairs.map (·.1), a') ∧
        (b.perform (engine "s") mixedReceives
          (Session.start (engine "s") { width := 2, height := 2 } plainWorld).world).value =
            .ok (pairs.map (·.2), b') ∧
        List.Forall₂ (fun call p => p.1.Agrees (call.shows .accelerated) p.2) mixedReceives pairs ∧
        b'.stats = { a'.stats with transfers := 0 } := by
  refine ⟨_, _, rfl, rfl, ?_⟩
  exact acceleration_transparent { width := 2, height := 2 } "s" "s" vaapiWorld plainWorld _ _ rfl
    rfl .vaapi rfl rfl rfl rfl rfl mixedReceives

end Synthetic

end StreamDecode
