import StreamDecode.Engine.Prepared
import StreamDecode.Proofs.Session.Accounting
import StreamDecode.Proofs.Synthetic.Transparency

/-!
# What the host can read

A picture that the host looks at takes the transfer path, which brings the pictures of the
negotiated format to the host and lets all others pass.  So the host can read what it is handed, but
for pictures in an accelerator format that was not negotiated.

* `Shown`           what a call for a picture comes to, by what the engine received;
* `Turn.shown`      each call of which the host looks at the frame;
* `host_visibility` the frames of all calls on a session that was started;
* `surface_shown`   an engine that changes its format hands the host a surface.
-/

namespace StreamDecode

variable {σ κ : Type}

/-- a transfer that succeeds leaves a picture that the host can read -/
def Engine.Downloads (engine : Engine σ κ) : Prop :=
  ∀ staging source e content e', engine.transfer staging source e = ((.ok (), content), e') →
    content.format.isHardware = false

theorem OutputFrame.isHost_iff (f : OutputFrame) : f.isHost ↔ f.format.isHardware = false := by
  rw [isHost, memory, beq_iff_eq]
  cases f.format.isHardware <;> decide

namespace Session

/-! ## one call -/

/-- what a call for a picture that the host looks at comes to, if `surface` was negotiated -/
inductive Shown (surface : Option PixelFormat) (r : Reception σ κ) :
    Except SessionError (Option OutputFrame) → Prop
  | nothing {cause : EngineError} (hresult : r.result = .error cause) (hcause : cause.isNoFrame) :
    Shown surface r (.ok none)
  | lost {cause : EngineError} (hresult : r.result = .error cause) (hcause : ¬cause.isNoFrame) :
    Shown surface r (.error (.receive cause))
  | staged {f : OutputFrame} (hresult : r.result = .ok ())
    (hformat : surface = some r.picture.format) (hsource : f.source = .staging) (hhost : f.isHost) :
    Shown surface r (.ok (some f))
  | untransferred {cause : EngineError} (hresult : r.result = .ok ())
    (hformat : surface = some r.picture.format) : Shown surface r (.error (.transfer cause))
  /-- a picture in another format is handed out as it is -/
  | direct {f : OutputFrame} (hresult : r.result = .ok ())
    (hformat : surface ≠ some r.picture.format) (hsource : f.source = .ring)
    (hpicture : f.frame.picture = r.picture) : Shown surface r (.ok (some f))

/-- the host can read the frame, or it is a surface in a format that was not negotiated -/
def Readable (surface : Option PixelFormat) (f : OutputFrame) : Prop :=
  f.isHost ∨ f.source = .ring ∧ f.format.isHardware ∧ surface ≠ some f.format

theorem Shown.readable {surface : Option PixelFormat} {r : Reception σ κ} {f : OutputFrame}
    (h : Shown surface r (.ok (some f))) : Readable surface f := by
  cases h with
  | staged _ _ _ hhost => exact .inl hhost
  | direct _ hformat hsource hpicture =>
    cases hhardware : f.format.isHardware with
    | false => exact .inl (f.isHost_iff.2 hhardware)
    | true => exact .inr ⟨hsource, hhardware, by rwa [OutputFrame.format, hpicture]⟩

variable {engine : Engine σ κ} {s s' : Session κ} {w : World σ} {call : Call} {answer : Answer}
  {t : Trace}

theorem Turn.shown {hostVisible : Bool} (hdown : engine.Downloads)
    (h : Turn engine s w (.nextFrame hostVisible) t answer s')
    (hshown : s.preference = .software ∨ hostVisible) :
    ∃ target r result, Receives engine s w target r ∧ answer = .received result ∧
      Shown s.surfaceFormat r result := by
  have hsurface : ∀ {staging : Staging} {picture : Picture}, s.path = some staging →
      staging.format = picture.format → s.surfaceFormat = some picture.format := by
    intro staging picture hpath hformat
    rw [surfaceFormat, hpath, ← hformat]
    rfl
  cases h with
  | nothing hr hresult hcause => exact ⟨_, _, _, hr, rfl, .nothing hresult hcause⟩
  | lost hr hresult hcause => exact ⟨_, _, _, hr, rfl, .lost hresult hcause⟩
  | direct hr hresult hdirect =>
    have hformat : s.surfaceFormat ≠ some _ := beq_eq_false_iff_ne.1 (hdirect hshown)
    exact ⟨_, _, _, hr, rfl, .direct hresult hformat rfl rfl⟩
  | staged hr hresult _ hpath hformat htransfer =>
    have hhost := hdown _ _ _ _ _ htransfer
    exact ⟨_, _, _, hr, rfl, .staged hresult (hsurface hpath hformat) rfl
      ((OutputFrame.isHost_iff _).2 hhost)⟩
  | untransferred hr hresult _ hpath hformat _ =>
    exact ⟨_, _, _, hr, rfl, .untransferred hresult (hsurface hpath hformat)⟩

/-- the preference and the negotiated format are settled at the start of a session -/
theorem Turn.surfaceFormat (h : Turn engine s w call t answer s') :
    s'.preference = s.preference ∧ s'.surfaceFormat = s.surfaceFormat := by
  cases h with
  | staged _ _ _ hpath _ _ | untransferred _ _ _ hpath _ _ =>
    refine ⟨rfl, ?_⟩
    rw [Session.surfaceFormat, Session.surfaceFormat, hpath]
    rfl
  | _ => exact ⟨rfl, rfl⟩

/-! ## any number of calls -/

/-- the frames of the calls so far are readable where the host looks at them -/
structure Watched (preference : Preference) (surface : Option PixelFormat) (calls : List Call)
    (answers : List Answer) (s : Session κ) : Prop where
  readable : List.Forall₂ (fun call answer => call.shows preference →
    ∀ f, answer = .received (.ok (some f)) → Readable surface f) calls answers
  preference : s.preference = preference
  surface : s.surfaceFormat = surface

theorem Turn.watched {preference : Preference} {surface : Option PixelFormat} {calls : List Call}
    {answers : List Answer} (hdown : engine.Downloads)
    (hs : Watched preference surface calls answers s) (h : Turn engine s w call t answer s') :
    Watched preference surface (calls ++ [call]) (answers ++ [answer]) s' := by
  obtain ⟨hpreference, hsurface⟩ := h.surfaceFormat
  refine ⟨List.rel_append hs.readable (.cons ?_ .nil), hpreference.trans hs.preference,
    hsurface.trans hs.surface⟩
  rintro hshown f rfl
  cases call with
  | decode _ _ | reset => cases hshown
  | nextFrame hostVisible =>
    have hlooks : s.preference = .software ∨ hostVisible := by rwa [hs.preference]
    obtain ⟨target, r, result, -, hresult, hframe⟩ := h.shown hdown hlooks
    cases hresult
    rw [← hs.surface]
    exact hframe.readable

/-- where the host looks at a frame it can read it, or the engine has produced a surface in a format
that was not negotiated; a picture in the negotiated format is brought to the host, or the call
fails with the transfer -/
theorem host_visibility (engine : Engine σ κ) (hdown : engine.Downloads) (config : SessionConfig)
    (w : World σ) (s : Session κ) (hstart : (start engine config w).value = .ok (.ok s))
    (v : World σ) (calls : List Call) :
    let run := s.perform engine calls v
    ∃ answers s', run.value = .ok (answers, s') ∧
      List.Forall₂ (fun call answer => call.shows config.preference →
        ∀ f, answer = .received (.ok (some f)) → Readable s.surfaceFormat f) calls answers ∧
      ∀ hostVisible : Bool, config.preference = .software ∨ hostVisible →
        ∃ target r result s'', Receives engine s' run.world target r ∧
          ((Call.nextFrame hostVisible).act engine s' run.world).value =
            .ok (.received result, s'') ∧
          Shown s.surfaceFormat r result := by
  obtain ⟨hs, -⟩ := sound_of_start engine hstart
  have hstarted : Watched config.preference s.surfaceFormat [] [] s :=
    ⟨.nil, (opened_start hstart).preference, rfl⟩
  obtain ⟨answers, s', hvalue, hcursor, hwatched⟩ :=
    perform_turns (P := fun calls answers _ s' =>
      Watched config.preference s.surfaceFormat calls answers s')
      (Turn.watched hdown) hs.cursor hstarted v calls
  refine ⟨answers, s', hvalue, hwatched.readable, fun hostVisible hshown => ?_⟩
  have hcall : (Call.nextFrame hostVisible).Takes engine s' (s.perform engine calls v).world :=
    Call.takes hcursor _ _
  obtain ⟨answer, s'', hanswer, hturn⟩ := hcall
  obtain ⟨target, r, result, hr, rfl, hframe⟩ :=
    hturn.shown hdown (by rwa [hwatched.preference])
  rw [hwatched.surface] at hframe
  exact ⟨target, r, result, s'', hr, hanswer, hframe⟩

end Session

/-! ## engines -/

theorem Synthetic.downloads (scope : String) : (engine scope).Downloads := by
  intro staging source l content l' h
  rw [transfer_eq_ok h, format_picture]
  rfl

namespace Session

/-- a software session that decodes on a device -/
theorem host_visibility_vaapi :
    let engine := Synthetic.engine "s"
    let config : SessionConfig := { smallConfig with perfOptions := ⟨0⟩ }
    let started := start engine config vaapiWorld
    let calls := [.decode (1 :: List.replicate 64 0) 1, .nextFrame false]
    ∃ s, started.value = .ok (.ok s) ∧ s.surfaceFormat = some .vaapi ∧
      ∃ answers s', (s.perform engine calls started.world).value = .ok (answers, s') ∧
        List.Forall₂ (fun call answer => call.shows .software →
          ∀ f, answer = .received (.ok (some f)) → Readable (some .vaapi) f) calls answers := by
  refine ⟨_, rfl, rfl, ?_⟩
  obtain ⟨answers, s', hvalue, hreadable, -⟩ := host_visibility (Synthetic.engine "s")
    (Synthetic.downloads "s") { smallConfig with perfOptions := ⟨0⟩ } vaapiWorld _ rfl
    (start (Synthetic.engine "s") { smallConfig with perfOptions := ⟨0⟩ } vaapiWorld).world
    [.decode (1 :: List.replicate 64 0) 1, .nextFrame false]
  exact ⟨answers, s', hvalue, hreadable⟩

/-- a prepared engine all of whose transfers leave an NV12 picture -/
def downloading : Engine Prepared.State Prepared.Context :=
  { Prepared.engine "s" 64 with
    transfer := fun _ source e =>
      ((.ok (), ⟨.nv12, source.width, source.height, [], [], 0⟩), e) }

/-- the decoder negotiates one accelerator format and then produces a picture in another -/
def switchingWorld : World Prepared.State :=
  ⟨.empty, { Prepared.State.empty with scripts := [⟨"h264", [⟨0, .vaapi, .vaapi, .deviceContext⟩],
    none, [], [.ok ⟨some .drmPrime, 2, 2, [], []⟩], none⟩] }, .none⟩

/-- a software session hands out a surface, although the host asks to see the picture -/
theorem surface_shown :
    downloading.Downloads ∧
      let config : SessionConfig := { smallConfig with perfOptions := ⟨0⟩ }
      let started := start downloading config switchingWorld
      ∃ s f s', started.value = .ok (.ok s) ∧ s.preference = .software ∧
        ((Call.nextFrame true).act downloading s started.world).value =
          .ok (.received (.ok (some f)), s') ∧ f.isHost = false := by
  refine ⟨?_, _, _, _, rfl, rfl, rfl, rfl⟩
  rintro staging source e content e' ⟨⟩
  rfl

end Session

end StreamDecode
