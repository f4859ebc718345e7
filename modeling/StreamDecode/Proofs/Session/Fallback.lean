import StreamDecode.Engine.Synthetic
import StreamDecode.Proofs.Engine.Mirror
import StreamDecode.Proofs.Session.Run

/-!
# Falling back to software

A session whose negotiations all failed, and one on an engine without hardware modes.

* `mirrors_start`    the two start alike;
* `mirrors_perform`  they answer all calls alike;
* `fallback_as_software`  both in one, from any two worlds that are alike;
* `Synthetic.mirrors_stripped`  a synthetic engine and the one whose decoders have no modes.
-/

namespace StreamDecode

variable {σ τ κ μ α : Type} {R : σ → τ → Prop} {Q : κ → μ → Prop}

open Act

/-- backends without a device, opened alike -/
structure OpenBackend.Twins (Q : κ → μ → Prop) (b : OpenBackend κ) (b' : OpenBackend μ) :
    Prop where
  candidate : b.candidate = b'.candidate
  context : b.context.Twins Q b'.context
  claim : b.backendClaim = b'.backendClaim
  accel : b.accel = none ∧ b'.accel = none

/-- sessions without a device that hold the same and stand alike -/
structure Session.Twins (Q : κ → μ → Prop) (s : Session κ) (s' : Session μ) : Prop where
  path : s.path = none ∧ s'.path = none
  device : s.device = none ∧ s'.device = none
  claims : s.claims = s'.claims
  context : s.context.Twins Q s'.context
  ring : s.ring = s'.ring
  codec : s.codec = s'.codec
  preference : s.preference = s'.preference
  decoder : s.decoder = s'.decoder
  backend : s.backend = s'.backend
  stats : s.stats = s'.stats

/-! ## the start -/

section
variable {engine : Engine σ κ} {plain : Engine τ μ}

theorem mirrors_abandon (claim : Option Claim) :
    Mirrors R (abandon engine none claim) (abandon plain none claim) fun _ _ => True :=
  Mirrors.skip.bind fun _ _ _ => mirrors_unclaimAll _

variable (h : engine.Mirrors plain R Q)
include h

theorem mirrors_claimBackend (c : Candidate) :
    Mirrors R (claimBackend engine c) (claimBackend plain c) Eq := by
  unfold claimBackend
  rw [h.scope]
  split
  · exact (mirrors_claim _).map fun _ _ hr => congrArg _ hr
  all_goals exact .pure rfl

theorem mirrors_openFirst (codec : Codec) (preference : Preference) (settings : CodecSettings)
    (list : List Candidate) :
    Mirrors R (openFirst engine codec preference settings list)
      (openFirst plain codec preference settings list) (Matches (OpenBackend.Twins Q)) := by
  induction list with
  | nil => exact (mirrors_tell _ _).bind fun _ _ _ => .pure (.error _)
  | cons c rest ih =>
    rw [openFirst, openFirst]
    refine (mirrors_hasDecoder h c.name).bind fun found _ hfound => ?_
    subst hfound
    cases found with
    | false => exact (mirrors_tell _ _).bind fun _ _ _ => ih
    | true =>
      refine (mirrors_tell _ _).bind fun _ _ _ =>
        (mirrors_claimBackend h c).bind fun claim _ hclaim => ?_
      subst hclaim
      cases claim with
      | error cause => exact (mirrors_tell _ _).bind fun _ _ _ => ih
      | ok claim =>
        refine (mirrors_acquireAccel h c.name).bind fun accel accel' haccel => ?_
        obtain ⟨rfl, rfl⟩ := haccel
        refine (mirrors_openContext h c.name settings).bind fun r r' hr => ?_
        cases hr with
        | ok hcontext => exact .pure (.ok ⟨rfl, hcontext, rfl, rfl, rfl⟩)
        | error cause =>
          cases cause with
          | outOfMemory what =>
            exact (mirrors_tell _ _).bind fun _ _ _ => (mirrors_abandon claim).bind fun _ _ _ =>
              .pure (.error _)
          | _ =>
            exact (mirrors_tell _ _).bind fun _ _ _ => (mirrors_abandon claim).bind fun _ _ _ => ih

namespace Session

variable {config : SessionConfig} {b : OpenBackend κ} {b' : OpenBackend μ}

theorem mirrors_furnish (codec : Codec) (hb : b.Twins Q b') :
    Mirrors R (furnish engine config codec b none) (furnish plain config codec b' none)
      (Matches (Matches (Twins Q))) := by
  obtain ⟨candidate, context, accel, claim⟩ := b
  obtain ⟨candidate', context', accel', claim'⟩ := b'
  obtain ⟨hcandidate, hcontext, hclaim, haccel, haccel'⟩ := hb
  dsimp only at hcandidate hcontext hclaim haccel haccel'
  subst hcandidate hclaim haccel haccel'
  have hback : Mirrors R (withdraw engine ⟨candidate, context, none, claim⟩ none)
      (withdraw plain ⟨candidate, context', none, claim⟩ none) fun _ _ => True := by
    -- neither side has a device or a staging frame to give back
    refine Mirrors.skip.bind fun _ _ _ => Mirrors.skip.bind fun _ _ _ => ?_
    refine (mirrors_unclaimAll _).bind fun _ _ _ => ?_
    rw [hcontext.id]
    exact mirrors_release h _
  refine (mirrors_allocRing h _).bind fun r r' hr => ?_
  subst hr
  rcases r with fault | cause | ring
  · exact hback.bind fun _ _ _ => .pure (.error _)
  · exact (mirrors_tell _ _).bind fun _ _ _ => hback.bind fun _ _ _ => .pure (.ok (.error _))
  · refine (mirrors_tell _ _).bind fun _ _ _ => .pure (.ok (.ok ?_))
    exact ⟨⟨rfl, rfl⟩, ⟨rfl, rfl⟩, rfl, hcontext, rfl, rfl, rfl, rfl, rfl, rfl⟩

theorem mirrors_equip (codec : Codec) (hb : b.Twins Q b') :
    Mirrors R (equip engine config codec b) (equip plain config codec b')
      (Matches (Matches (Twins Q))) := by
  rw [equip, equip, hb.accel.1, hb.accel.2]
  exact mirrors_furnish h codec hb

theorem mirrors_start (config : SessionConfig) :
    Mirrors R (start engine config) (start plain config) (Matches (Matches (Twins Q))) := by
  unfold start
  cases config.check with
  | error cause => exact .pure (.ok (.error cause))
  | ok codec =>
    refine (mirrors_openFirst h codec config.preference config.settings _).bind fun r r' hr => ?_
    cases hr with
    | error cause => exact .pure (.ok (.error cause))
    | ok hb => exact mirrors_equip h codec hb

/-! ## the calls -/

/-- the same answer, and twin sessions after it -/
def SameAnswer (Q : κ → μ → Prop) (p : α × Session κ) (p' : α × Session μ) : Prop :=
  p.1 = p'.1 ∧ p.2.Twins Q p'.2

variable {s : Session κ} {s' : Session μ}

theorem mirrors_submit (hs : s.Twins Q s') (payload : Bytes) :
    Mirrors R (s.submit engine payload) (s'.submit plain payload) (SameAnswer Q) := by
  refine (StreamDecode.mirrors_submit h payload hs.context).bind fun r r' hr => ?_
  obtain ⟨result, context⟩ := r
  obtain ⟨result', context'⟩ := r'
  obtain ⟨hresult, hcontext⟩ := hr
  dsimp only at hresult hcontext
  subst hresult
  have hstats := congrArg Stats.countSubmit hs.stats
  cases result with
  | ok => exact .pure ⟨rfl, { hs with context := hcontext, stats := hstats }⟩
  | error cause =>
    refine (mirrors_tell _ _).bind fun _ _ _ => .pure ⟨rfl, ?_⟩
    exact { hs with context := hcontext, stats := congrArg Stats.countSubmitError hstats }

theorem mirrors_decode (hs : s.Twins Q s') (buf : Bytes) (len : UInt64) :
    Mirrors R (s.decode engine buf len) (s'.decode plain buf len) (Matches (SameAnswer Q)) := by
  by_cases hshort : buf.length < requiredSize len engine.padding
  · rw [decode_of_short engine hshort, decode_of_short plain (by rwa [h.padding]), h.padding]
    exact .pure (.ok ⟨rfl, hs⟩)
  · rw [decode_of_padded engine hshort, decode_of_padded plain (by rwa [h.padding])]
    exact (mirrors_submit h hs _).map fun _ _ hr => .ok hr

omit h in
/-- without a device, a picture is handed out as it is -/
theorem mirrors_handOut (hs : s.Twins Q s') (slot : Nat) (frame : Frame) :
    Mirrors R (s.handOut engine slot frame) (s'.handOut plain slot frame) (SameAnswer Q) := by
  intro w v hw _
  rw [handOut_direct (by rw [hs.path.1]; rfl), handOut_direct (by rw [hs.path.2]; rfl)]
  exact ⟨hw, rfl, hs⟩

omit h in
theorem mirrors_produce (hs : s.Twins Q s') (hostVisible : Bool) :
    Mirrors R (s.produce engine hostVisible) (s'.produce plain hostVisible)
      (Matches (SameAnswer Q)) := by
  unfold produce
  rw [hs.ring]
  obtain fault | ⟨⟨slot, frame⟩, ring⟩ := s'.ring.advance
  · exact .pure (.error fault)
  · have hs₁ : Twins Q { s with ring, stats := s.stats.countFrame }
        { s' with ring, stats := s'.stats.countFrame } :=
      { hs with ring := rfl, stats := congrArg Stats.countFrame hs.stats }
    dsimp only
    by_cases hshown : s.preference = .software ∨ hostVisible
    · rw [if_pos hshown, if_pos (by rwa [← hs.preference])]
      exact (mirrors_handOut hs₁ slot frame).map fun _ _ hr => .ok hr
    · rw [if_neg hshown, if_neg (by rwa [← hs.preference])]
      exact .pure (.ok ⟨rfl, hs₁⟩)

theorem mirrors_nextFrame (hs : s.Twins Q s') (hostVisible : Bool) :
    Mirrors R (s.nextFrame engine hostVisible) (s'.nextFrame plain hostVisible)
      (Matches (SameAnswer Q)) := by
  unfold nextFrame
  rw [hs.ring]
  obtain fault | ⟨slot, target⟩ := s'.ring.acquire
  · exact .pure (.error fault)
  · refine (mirrors_receive h target hs.context).bind fun r r' hr => ?_
    obtain ⟨result, frame, context⟩ := r
    obtain ⟨result', frame', context'⟩ := r'
    obtain ⟨hresult, hframe, hcontext⟩ := hr
    dsimp only at hresult hframe hcontext
    subst hresult hframe
    have hs₁ : Twins Q { s with context, ring := s'.ring.write frame }
        { s' with context := context', ring := s'.ring.write frame } :=
      { hs with context := hcontext, ring := rfl }
    cases result with
    | ok => exact mirrors_produce hs₁ hostVisible
    | error cause =>
      dsimp only
      split
      · exact .pure (.ok ⟨rfl, hs₁⟩)
      · refine (mirrors_tell _ _).bind fun _ _ _ => .pure (.ok ⟨rfl, ?_⟩)
        exact { hs₁ with stats := congrArg Stats.countReceiveError hs.stats }

theorem mirrors_reset (hs : s.Twins Q s') :
    Mirrors R (s.reset engine) (s'.reset plain) (Twins Q) := by
  refine (mirrors_tell _ _).bind fun _ _ _ => (mirrors_flush h hs.context).bind fun c c' hc => ?_
  exact .pure { hs with context := hc }

theorem mirrors_act (hs : s.Twins Q s') (call : Call) :
    Mirrors R (call.act engine s) (call.act plain s') (Matches (SameAnswer Q)) := by
  have hanswer {α : Type} (f : Except SessionError α → Answer) {r : Outcome κ α} {r' : Outcome μ α}
      (hr : Matches (SameAnswer Q) r r') :
      Matches (SameAnswer Q) (Outcome.answer f r) (Outcome.answer f r') := by
    cases hr with
    | error fault => exact .error fault
    | ok hr => exact .ok ⟨congrArg f hr.1, hr.2⟩
  cases call with
  | decode buf len => exact (mirrors_decode h hs buf len).map fun _ _ hr => hanswer _ hr
  | nextFrame hostVisible =>
    exact (mirrors_nextFrame h hs hostVisible).map fun _ _ hr => hanswer _ hr
  | reset => exact (mirrors_reset h hs).map fun _ _ hr => .ok ⟨rfl, hr⟩

theorem mirrors_perform (hs : s.Twins Q s') (calls : List Call) :
    Mirrors R (s.perform engine calls) (s'.perform plain calls) (Matches (SameAnswer Q)) := by
  induction calls generalizing s s' with
  | nil => exact .pure (.ok ⟨rfl, hs⟩)
  | cons call calls ih =>
    rw [perform, perform]
    refine (mirrors_act h hs call).bind fun r r' hr => ?_
    cases hr with
    | error fault => exact .pure (.error fault)
    | ok hr =>
      refine (ih hr.2).bind fun r r' hr' => ?_
      cases hr' with
      | error fault => exact .pure (.error fault)
      | ok hr' => exact .pure (.ok ⟨by rw [hr.1, hr'.1], hr'.2⟩)

/-- twin sessions answer any calls alike, and are twins after them -/
theorem perform_twins (hs : s.Twins Q s') (hcursor : s.ring.next < s.ring.slots.length)
    {w : World σ} {v : World τ} (hw : w.Alike R v) (calls : List Call) :
    ∃ answers t t', (s.perform engine calls w).value = .ok (answers, t) ∧
      (s'.perform plain calls v).value = .ok (answers, t') ∧ t.Twins Q t' := by
  obtain ⟨-, -, -, answers, t, hvalue, -⟩ := idles_perform engine hcursor calls w
  have hevents : ∀ e ∈ (s.perform engine calls w).events, e.createsNothing := fun e he =>
    Event.createsNothing_of_isDecoding (leaves_perform engine s calls w e he)
  obtain ⟨-, hanswers⟩ := mirrors_perform h hs calls w v hw hevents
  rw [hvalue] at hanswers
  obtain ⟨⟨_, t'⟩, hvalue', rfl, ht⟩ := hanswers.exists_ok
  exact ⟨answers, t, t', hvalue, hvalue', ht⟩

/-! ## from the start on -/

omit h in
theorem deviceKind_of_none (hs : s.device = none) : s.deviceKind = none := by
  rw [deviceKind, hs]
  rfl

omit h in
theorem surfaceFormat_of_none (hs : s.path = none) : s.surfaceFormat = none := by
  rw [surfaceFormat, hs]
  rfl

/-- if no hardware mode of the candidates that are tried can be had, the start of a session and all
calls on it come out as on an engine without hardware modes -/
theorem fallback_as_software (config : SessionConfig) {w : World σ} {v : World τ}
    (hw : w.Alike R v) (hunavailable : ∀ e ∈ (start engine config w).events, e.createsNothing) :
    (start engine config w).world.registry = (start plain config v).world.registry ∧
      match (start engine config w).value, (start plain config v).value with
      | .error fault, .error fault' => fault = .capacityOverflow ∧ fault' = .capacityOverflow
      | .ok (.error cause), .ok (.error cause') => cause = cause'
      | .ok (.ok s), .ok (.ok s') =>
        s.decoder = s'.decoder ∧ s.backend = s'.backend ∧ s.codec = s'.codec ∧
        s.preference = s'.preference ∧ s.ring.capacity = s'.ring.capacity ∧
        s.deviceKind = none ∧ s'.deviceKind = none ∧
        s.surfaceFormat = none ∧ s'.surfaceFormat = none ∧
        ∀ calls, ∃ answers t t',
          (s.perform engine calls (start engine config w).world).value = .ok (answers, t) ∧
          (s'.perform plain calls (start plain config v).world).value = .ok (answers, t') ∧
          t.stats = t'.stats ∧ t.ring.current = t'.ring.current ∧ t.ring.next = t'.ring.next
      | _, _ => False := by
  obtain ⟨hstarted, hresults⟩ := mirrors_start h config w v hw hunavailable
  refine ⟨hstarted.registry, ?_⟩
  obtain ⟨held, -, -, hpost⟩ := ensures_start engine config w (.vacant w)
  generalize (start engine config w).value = r at hresults hpost ⊢
  generalize (start plain config v).value = r' at hresults ⊢
  rcases hresults with fault | hmatches
  · exact ⟨hpost.2.2, hpost.2.2⟩
  rcases hmatches with cause | hs
  · rfl
  · refine ⟨hs.decoder, hs.backend, hs.codec, hs.preference, congrArg Ring.capacity hs.ring,
      deviceKind_of_none hs.device.1, deviceKind_of_none hs.device.2,
      surfaceFormat_of_none hs.path.1, surfaceFormat_of_none hs.path.2, fun calls => ?_⟩
    obtain ⟨answers, t, t', hvalue, hvalue', ht⟩ :=
      perform_twins h hs hpost.2.1.cursor hstarted calls
    exact ⟨answers, t, t', hvalue, hvalue', ht.stats, congrArg Ring.current ht.ring,
      congrArg Ring.next ht.ring⟩

end Session

end

/-! ## synthetic engines -/

namespace Synthetic

def Decoder.stripped (d : Decoder) : Decoder := { d with modes := [] }

/-- ledgers that differ in the hardware modes of their decoders, and in what was noted -/
structure Stripped (l l' : Ledger) : Prop where
  decoders : l'.decoders = l.decoders.map Decoder.stripped
  failContextAlloc : l'.failContextAlloc = l.failContextAlloc
  frameBudget : l'.frameBudget = l.frameBudget

namespace Stripped

variable {l l' m : Ledger}

theorem decoder? (h : Stripped l l') (name : String) :
    l'.decoder? name = (l.decoder? name).map Decoder.stripped := by
  rw [Ledger.decoder?, h.decoders, List.find?_map]
  rfl

theorem createDevice {mode : HardwareMode} {cause : EngineError} (h : Stripped l l')
    (hfail : createDevice mode l = (.error cause, m)) : Stripped m l' := by
  unfold Synthetic.createDevice at hfail
  dsimp only at hfail
  split_ifs at hfail <;> cases hfail
  exact { h with }

theorem openContext (h : Stripped l l') (decoder : String) (settings : CodecSettings) :
    Matches Eq (openContext decoder settings none l).1 (openContext decoder settings none l').1 ∧
      Stripped (openContext decoder settings none l).2
        (openContext decoder settings none l').2 := by
  unfold Synthetic.openContext
  rw [h.failContextAlloc]
  split
  · exact ⟨.error _, h⟩
  · have hopens : (l'.decoder? decoder).any (·.opens) = (l.decoder? decoder).any (·.opens) := by
      rw [h.decoder?]
      cases l.decoder? decoder <;> rfl
    simp only [Ledger.decoder?] at hopens ⊢
    simp only [hopens]
    by_cases hopen : (l.decoders.find? (·.name == decoder)).any (·.opens)
    · simp only [hopen, if_true]
      exact ⟨.ok rfl, { h with failContextAlloc := rfl }⟩
    · simp only [hopen]
      exact ⟨.error _, { h with failContextAlloc := rfl }⟩

theorem allocFrame (h : Stripped l l') :
    (allocFrame l).1 = (allocFrame l').1 ∧ Stripped (allocFrame l).2 (allocFrame l').2 := by
  unfold Synthetic.allocFrame
  rw [h.frameBudget]
  split
  · exact ⟨rfl, { h with }⟩
  · exact ⟨rfl, h⟩
  · exact ⟨rfl, { h with frameBudget := rfl }⟩

theorem sendPacket (h : Stripped l l') (payload : Bytes) (c : Context) :
    (sendPacket payload c l).1 = (sendPacket payload c l').1 ∧
      (sendPacket payload c l).2.1 = (sendPacket payload c l').2.1 ∧
      Stripped (sendPacket payload c l).2.2 (sendPacket payload c l').2.2 := by
  unfold Synthetic.sendPacket
  dsimp only
  split
  · exact ⟨rfl, rfl, { h with }⟩
  · exact ⟨rfl, rfl, { h with }⟩

theorem receiveFrame (h : Stripped l l') (target : Picture) (c : Context) :
    (receiveFrame target c l).result = (receiveFrame target c l').result ∧
      (receiveFrame target c l).picture = (receiveFrame target c l').picture ∧
      (receiveFrame target c l).context = (receiveFrame target c l').context ∧
      Stripped (receiveFrame target c l).state (receiveFrame target c l').state := by
  unfold Synthetic.receiveFrame
  split
  · exact ⟨rfl, rfl, rfl, h⟩
  · dsimp only
    split
    · exact ⟨rfl, rfl, rfl, h⟩
    · exact ⟨rfl, rfl, rfl, h⟩

end Stripped

theorem mirrors_stripped (scope : String) :
    (engine scope).Mirrors (engine scope) Stripped Eq where
  scope := rfl
  padding := rfl
  frameSize := rfl
  hasDecoder decoder h := by
    refine ⟨?_, h⟩
    show (Ledger.decoder? _ _).isSome = (Ledger.decoder? _ _).isSome
    rw [h.decoder?, Option.isSome_map]
  hardwareModes decoder h := by
    refine ⟨?_, h⟩
    show ((Ledger.decoder? _ _).map (·.modes)).getD [] = []
    rw [h.decoder?]
    cases Ledger.decoder? _ decoder <;> rfl
  createDevice _ _ h hfail := h.createDevice hfail
  openContext decoder settings h := h.openContext decoder settings
  allocFrame h := h.allocFrame
  sendPacket payload h hc := hc ▸ h.sendPacket payload _
  receiveFrame target h hc := hc ▸ h.receiveFrame target _
  flush h hc := ⟨by rw [hc]; rfl, h⟩
  release kind h := { h with }

/-- one takes no device, and the devices of the others are in use and broken -/
def brokenModes : List HardwareMode :=
  [⟨0, .cuda, .cuda, ⟨0x02⟩⟩, ⟨1, .vdpau, .vdpau, .deviceContext⟩,
    ⟨2, .vaapi, .vaapi, .deviceContext⟩]

def fallbackWorld (modes : List HardwareMode) : World Ledger :=
  ⟨⟨["s/device:vdpau"]⟩, .fresh [⟨"h264", true, modes⟩] [.vaapi], .none⟩

def fallbackCalls : List Session.Call :=
  [.decode (1 :: List.replicate 64 0) 1, .nextFrame true, .reset, .nextFrame false]

theorem fallback_three_modes :
    ∃ s s', (Session.start (engine "s") { width := 2, height := 2 }
          (fallbackWorld brokenModes)).value = .ok (.ok s) ∧
      (Session.start (engine "s") { width := 2, height := 2 } (fallbackWorld [])).value =
        .ok (.ok s') ∧
      ∃ answers t t',
        (s.perform (engine "s") fallbackCalls (Session.start (engine "s")
          { width := 2, height := 2 } (fallbackWorld brokenModes)).world).value = .ok (answers, t) ∧
        (s'.perform (engine "s") fallbackCalls (Session.start (engine "s")
          { width := 2, height := 2 } (fallbackWorld [])).world).value = .ok (answers, t') ∧
        t.stats = t'.stats := by
  have halike : (fallbackWorld brokenModes).Alike Stripped (fallbackWorld []) :=
    ⟨rfl, rfl, rfl, rfl, rfl⟩
  have hmatch := (Session.fallback_as_software (mirrors_stripped "s") { width := 2, height := 2 }
    halike (by decide)).2
  obtain ⟨s, hs⟩ : ∃ s, (Session.start (engine "s") { width := 2, height := 2 }
      (fallbackWorld brokenModes)).value = .ok (.ok s) := ⟨_, rfl⟩
  obtain ⟨s', hs'⟩ : ∃ s, (Session.start (engine "s") { width := 2, height := 2 }
      (fallbackWorld [])).value = .ok (.ok s) := ⟨_, rfl⟩
  rw [hs, hs'] at hmatch
  obtain ⟨-, -, -, -, -, -, -, -, -, hcalls⟩ := hmatch
  obtain ⟨answers, t, t', hperform, hperform', hstats, -⟩ := hcalls fallbackCalls
  exact ⟨s, s', hs, hs', answers, t, t', hperform, hperform', hstats⟩

end Synthetic

end StreamDecode
