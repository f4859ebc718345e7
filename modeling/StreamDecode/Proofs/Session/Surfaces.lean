import StreamDecode.Proofs.Session.Visibility

/-!
# What is shown of a surface

A session hands out pictures in the negotiated format as they are, where the host does not look at
them.  Their planes are kept back if the format counts as one of an accelerator; this is settled by
the name of the format, and not by the negotiation.

* `OutputFrame.Hidden`, `OutputFrame.Exposed`   nothing or everything of a frame is shown;
* `Engine.Advertises`   where the negotiated format comes from (`advertised_of_start`);
* `surface_exposure`    the frames in the negotiated format, over all calls on a session with a device;
* `surface_exposed`     a decoder advertises a format without a name, and its surface is shown.
-/

namespace StreamDecode

variable {σ κ : Type}

/-! ## frames -/

namespace OutputFrame

/-- the frame is reported as a surface, and nothing of it can be read -/
structure Hidden (f : OutputFrame) : Prop where
  memory : f.memory = .device
  planes : f.planes = 0
  stride : ∀ plane, f.stride plane = .ok none
  data : ∀ plane, f.data plane = .ok none

/-- the frame is reported as one of the host, and all its planes can be read -/
structure Exposed (f : OutputFrame) : Prop where
  memory : f.memory = .host
  planes : f.planes = f.frame.picture.planes.length
  stride : ∀ plane < f.planes, f.stride plane = (f.frame.picture.stride plane).map some
  data : ∀ plane < f.planes, f.data plane = (f.frame.picture.data plane).map some

variable {f : OutputFrame}

theorem hidden_of_isHardware (h : f.format.isHardware) : f.Hidden := by
  have hhost : ¬f.isHost := by
    rw [isHost_iff, h]
    decide
  have hplanes : f.planes = 0 := if_neg hhost
  refine ⟨if_pos h, hplanes, fun plane => ?_, fun plane => ?_⟩
  · rw [stride, hplanes, if_neg (Nat.not_lt_zero plane)]
  · rw [data, hplanes, if_neg (Nat.not_lt_zero plane)]

theorem exposed_of_not_isHardware (h : f.format.isHardware = false) : f.Exposed := by
  have hplanes : f.planes = f.frame.picture.planes.length := if_pos (f.isHost_iff.2 h)
  refine ⟨?_, hplanes, fun plane hlt => if_pos hlt, fun plane hlt => if_pos hlt⟩
  rw [memory, h]
  rfl

end OutputFrame

/-! ## the negotiated format -/

/-- the decoder has a mode for devices of this kind, with this format, for which a device is created -/
def Engine.Advertises (engine : Engine σ κ) (decoder : String) (kind : DeviceKind)
    (format : PixelFormat) : Prop :=
  ∃ e, ∃ mode ∈ (engine.hardwareModes decoder e).1,
    mode.takesDevice ∧ mode.device = kind ∧ mode.format = format

open Act

section
variable {engine : Engine σ κ}

theorem yields_negotiate (decoder : String) (modes : List HardwareMode) :
    (negotiate engine decoder modes).Yields fun r => ∀ a ∈ r,
      ∃ mode ∈ modes, mode.takesDevice ∧ mode.device = a.deviceKind ∧ mode.format = a.format := by
  induction modes with
  | nil => exact .after fun _ => .pure (by rintro a ⟨⟩)
  | cons mode rest ih =>
    have hrest : (negotiate engine decoder rest).Yields fun r => ∀ a ∈ r,
        ∃ mode' ∈ mode :: rest,
          mode'.takesDevice ∧ mode'.device = a.deviceKind ∧ mode'.format = a.format := by
      refine ih.mono fun r hr a ha => ?_
      obtain ⟨mode', hmode', hfits⟩ := hr a ha
      exact ⟨mode', List.mem_cons_of_mem mode hmode', hfits⟩
    rw [negotiate]
    split
    · next htakes =>
      refine .after fun claim => ?_
      cases claim with
      | error cause => exact .after fun _ => hrest
      | ok claim =>
        refine .after fun _ => .after fun device => ?_
        cases device with
        | error cause => exact .after fun _ => .after fun _ => hrest
        | ok device =>
          refine .pure ?_
          rintro a ⟨⟩
          exact ⟨mode, List.mem_cons_self, htakes, rfl, rfl⟩
    · exact hrest

theorem yields_acquireAccel (engine : Engine σ κ) (decoder : String) :
    (acquireAccel engine decoder).Yields fun r => ∀ a ∈ r,
      engine.Advertises decoder a.deviceKind a.format := by
  have hlisting : (hardwareModes engine decoder).Yields fun modes =>
      ∃ e, modes = (engine.hardwareModes decoder e).1 := fun w => ⟨w.engine, rfl⟩
  refine hlisting.bind fun modes hmodes => ?_
  obtain ⟨e, rfl⟩ := hmodes
  split
  · exact .pure (by rintro a ⟨⟩)
  · exact (yields_negotiate decoder _).mono fun r hr a ha => ⟨e, hr a ha⟩

namespace Session

variable {config : SessionConfig} {w : World σ} {s : Session κ}

/-- a session on a device has a surface format, and its decoder advertised both -/
theorem advertised_of_start (hstart : (start engine config w).value = .ok (.ok s))
    {kind : DeviceKind} (hkind : s.deviceKind = some kind) :
    ∃ format, s.surfaceFormat = some format ∧ engine.Advertises s.decoder kind format := by
  obtain ⟨codec, b, path, frames, u, v, hb, hpath, -, rfl⟩ := exists_of_start hstart
  have hformat := yields_allocPath b.accel u path hpath
  obtain ⟨x, haccel⟩ := (yields_openedOn codec config.preference config.settings _ w b hb).accel
  have hadvertised := yields_acquireAccel engine b.candidate.name x
  rw [haccel] at hadvertised
  cases hdevice : b.accel with
  | none =>
    rw [deviceKind, assemble, OpenBackend.device, hdevice] at hkind
    cases hkind
  | some a =>
    rw [deviceKind, assemble, OpenBackend.device, hdevice] at hkind
    cases hkind
    refine ⟨a.format, ?_, hadvertised a hdevice⟩
    show path.format = _
    rw [hformat, hdevice]
    rfl

/-! ## one call -/

/-- a frame in the negotiated format is taken from the ring only where the host does not look at it -/
theorem Turn.unlooked {s' : Session κ} {call : Call} {t : Trace} {f : OutputFrame}
    (h : Turn engine s w call t (.received (.ok (some f))) s') (hsource : f.source = .ring)
    (hformat : s.surfaceFormat = some f.format) : ¬call.shows s.preference := by
  intro hshown
  cases h with
  | @direct hostVisible target r _ _ hdirect =>
    have hneeds : s.path.needsTransfer r.picture := beq_iff_eq.2 hformat
    rw [hdirect hshown] at hneeds
    cases hneeds
  | staged _ _ _ _ _ _ => cases hsource

/-! ## any number of calls -/

/-- a session on a device has the surface format that its decoder advertised; a frame in this format is
staged wherever the host looks at it, and what it shows elsewhere depends on whether the format counts
as one of an accelerator -/
theorem surface_exposure (engine : Engine σ κ) (config : SessionConfig) (w : World σ)
    (s : Session κ) (hstart : (start engine config w).value = .ok (.ok s)) (kind : DeviceKind)
    (hkind : s.deviceKind = some kind) :
    ∃ format, s.surfaceFormat = some format ∧ engine.Advertises s.decoder kind format ∧
      ∀ (v : World σ) (calls : List Call), ∃ answers s',
        (s.perform engine calls v).value = .ok (answers, s') ∧ s'.surfaceFormat = some format ∧
        List.Forall₂ (fun call answer => ∀ f, answer = .received (.ok (some f)) →
          f.source = .ring → f.format = format → ¬call.shows config.preference ∧
            (format.isHardware → f.Hidden) ∧ (format.isHardware = false → f.Exposed))
          calls answers := by
  obtain ⟨hs, -⟩ := sound_of_start engine hstart
  obtain ⟨format, hsurface, hadvertised⟩ := advertised_of_start hstart hkind
  refine ⟨format, hsurface, hadvertised, fun v calls => ?_⟩
  obtain ⟨answers, s', hvalue, -, hpreference, hsurface', hframes⟩ :=
    perform_turns (P := fun calls answers _ s' => s'.preference = config.preference ∧
      s'.surfaceFormat = some format ∧ List.Forall₂ (fun call answer => ∀ f,
        answer = .received (.ok (some f)) → f.source = .ring → f.format = format →
          ¬call.shows config.preference) calls answers)
      (fun ⟨hpreference, hsurface, hframes⟩ hturn => by
        obtain ⟨hpreference', hsurface'⟩ := hturn.surfaceFormat
        refine ⟨hpreference'.trans hpreference, hsurface'.trans hsurface,
          List.rel_append hframes (.cons ?_ .nil)⟩
        rintro f rfl hsource rfl
        rw [← hpreference]
        exact hturn.unlooked hsource hsurface)
      hs.cursor ⟨(opened_start hstart).preference, hsurface, .nil⟩ v calls
  refine ⟨answers, s', hvalue, hsurface', hframes.imp fun call answer h f hf hsource hformat => ?_⟩
  subst hformat
  exact ⟨h f hf hsource rfl, OutputFrame.hidden_of_isHardware, OutputFrame.exposed_of_not_isHardware⟩

end Session

end

/-! ## engines -/

namespace Session

/-- the surface of a decoder on a device of a kind with a name, in a format with a name -/
theorem surface_exposure_vaapi :
    let started := start (Synthetic.engine "s") smallConfig vaapiWorld
    let calls := [.decode (1 :: List.replicate 64 0) 1, .nextFrame false]
    ∃ s, started.value = .ok (.ok s) ∧ s.deviceKind = some .vaapi ∧
      ∃ f s', (s.perform (Synthetic.engine "s") calls started.world).value =
          .ok ([.submitted (.ok ()), .received (.ok (some f))], s') ∧
        f.source = .ring ∧ f.format = .vaapi ∧ f.Hidden := by
  obtain ⟨format, hformat, -, hcalls⟩ :=
    surface_exposure (Synthetic.engine "s") smallConfig vaapiWorld _ rfl .vaapi rfl
  cases hformat
  obtain ⟨answers, s', hvalue, -, hframes⟩ :=
    hcalls (start (Synthetic.engine "s") smallConfig vaapiWorld).world
      [.decode (1 :: List.replicate 64 0) 1, .nextFrame false]
  cases hvalue
  obtain _ | ⟨-, _ | ⟨hframe, -⟩⟩ := hframes
  exact ⟨_, rfl, rfl, _, _, rfl, rfl, rfl, (hframe _ rfl rfl rfl).2.1 rfl⟩

/-- the decoder runs on a device of a kind with a name, in a format without one -/
def openClWorld : World Prepared.State :=
  ⟨.empty, { Prepared.State.empty with scripts := [⟨"h264", [⟨0, .openCl, .other 7, .deviceContext⟩],
    none, [], [.ok ⟨none, 2, 1, [2], [[1, 2]]⟩], none⟩] }, .none⟩

/-- a session shows a surface in the negotiated format as if the host could read it -/
theorem surface_exposed :
    let engine := Prepared.engine "s" 64
    let started := start engine smallConfig openClWorld
    ∃ s f s', started.value = .ok (.ok s) ∧ s.deviceKind = some .openCl ∧
      ((Call.nextFrame false).act engine s started.world).value =
        .ok (.received (.ok (some f)), s') ∧
      f.source = .ring ∧ s.surfaceFormat = some f.format ∧ f.memory = .host ∧ f.planes = 1 ∧
      f.stride 0 = .ok (some 2) ∧ f.data 0 = .ok (some [1, 2]) :=
  ⟨_, _, _, rfl, rfl, rfl, rfl, rfl, rfl, rfl, rfl, rfl⟩

end Session

end StreamDecode
