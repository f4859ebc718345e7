import StreamDecode.Proofs.Backend.Selection

/-!
# What a start comes to

A start that passes the checks of its configuration asks the engine for codec contexts and for frames.
Three answers decide: a context that is opened, a context for which there is no memory, and a frame
that cannot be allocated.  Once a context is opened, the number of slots decides too: the checks let
any number pass but zero, and a ring that there can be no room for is a fault.

* `SessionConfig.check_eq_error_iff`   the checks, in numbers;
* `Search.verdict`   a search decides on the first context that is opened or lacks memory;
* `Session.verdict_start`   the decisive answers tell what a start comes to;
* `Session.start_outcome`   what a start comes to, for any engine, configuration and registry;
* `Session.start_faults`    a configuration that passes the checks may have no outcome but a fault.
-/

namespace StreamDecode

variable {σ κ α β : Type}

/-! ## the checks -/

/-- the format has no bit of any codec -/
theorem StreamFormat.codec_eq_error_iff (f : StreamFormat) (cause : SessionError) :
    f.codec = .error cause ↔ f.bits &&& 0xFF0F = 0 ∧ cause = .unsupportedFormat f.bits := by
  have hbits : f.bits &&& 0xFF0F =
      (f.bits &&& 0x000F) ||| ((f.bits &&& 0x0F00) ||| (f.bits &&& 0xF000)) := by
    rw [← UInt32.toBitVec_inj]
    simp only [UInt32.toBitVec_and, UInt32.toBitVec_or, ← BitVec.and_or_distrib_left]
    rfl
  rw [hbits, UInt32.or_eq_zero_iff, UInt32.or_eq_zero_iff]
  unfold codec Flags.intersects maskH264 maskH265 maskAv1
  by_cases h264 : f.bits &&& 0x000F = 0
  · by_cases h265 : f.bits &&& 0x0F00 = 0
    · by_cases hav1 : f.bits &&& 0xF000 = 0
      · simp [h264, h265, hav1, eq_comm]
      · simp [h264, h265, hav1]
    · simp [h264, h265]
  · simp [h264]

namespace SessionConfig

/-- the numbers of a configuration are out of range, or at odds with its options -/
def IsInvalid (c : SessionConfig) : Prop :=
  (c.width = 0 ∨ 2 ^ 31 - 1 < c.width.toNat) ∨ (c.height = 0 ∨ 2 ^ 31 - 1 < c.height.toNat) ∨
    2 ^ 31 - 1 < c.threadCount.toNat ∨ c.bufferCount = 0 ∨
    (c.perfOptions.contains PerfOptions.sliceThreading ∧ c.threadCount = 0)

theorem isSome_defect_iff (c : SessionConfig) : c.defect.isSome ↔ c.IsInvalid := by
  have hmax : maxCount = 2 ^ 31 - 1 := rfl
  unfold defect IsInvalid
  rw [hmax]
  split_ifs with hsize hrange hthreads hbuffers hslices
  all_goals simp only [Option.isSome_some, Option.isSome_none, true_iff]
  all_goals tauto

theorem isInvalid_of_defect {c : SessionConfig} {reason : String} (h : c.defect = some reason) :
    c.IsInvalid := by
  rw [← isSome_defect_iff, h]
  rfl

/-- the checks of a configuration; its numbers come before its format -/
theorem check_eq_error_iff (c : SessionConfig) (cause : SessionError) :
    c.check = .error cause ↔
      (∃ reason, c.defect = some reason ∧ cause = .invalidConfig reason) ∨
        (¬c.IsInvalid ∧ c.streamFormat.bits &&& 0xFF0F = 0 ∧
          cause = .unsupportedFormat c.streamFormat.bits) := by
  rw [← isSome_defect_iff, ← StreamFormat.codec_eq_error_iff, check, validate]
  cases c.defect with
  | some reason => simp [eq_comm]
  | none => simp

theorem check_eq_ok_iff (c : SessionConfig) (codec : Codec) :
    c.check = .ok codec ↔ ¬c.IsInvalid ∧ c.streamFormat.codec = .ok codec := by
  rw [← isSome_defect_iff, check, validate]
  cases c.defect <;> simp

theorem exists_check_eq_ok_iff (c : SessionConfig) :
    (∃ codec, c.check = .ok codec) ↔ ¬(c.IsInvalid ∨ c.streamFormat.bits &&& 0xFF0F = 0) := by
  rw [not_or]
  cases hcheck : c.check with
  | error cause =>
    refine iff_of_false (by rintro ⟨codec, ⟨⟩⟩) fun ⟨hvalid, hbits⟩ => ?_
    rcases (c.check_eq_error_iff cause).1 hcheck with ⟨reason, hdefect, -⟩ | ⟨-, hzero, -⟩
    · exact hvalid (isInvalid_of_defect hdefect)
    · exact hbits hzero
  | ok codec =>
    obtain ⟨hvalid, hcodec⟩ := (c.check_eq_ok_iff codec).1 hcheck
    refine iff_of_true ⟨codec, rfl⟩ ⟨hvalid, fun hbits => ?_⟩
    cases hcodec.symm.trans ((c.streamFormat.codec_eq_error_iff _).2 ⟨hbits, rfl⟩)

end SessionConfig

/-! ## decisive answers -/

/-- the answer decides what a start comes to -/
def Event.isDecisive : Event → Bool
  | opening _ _ _ (.ok _) | opening _ _ _ (.error (.outOfMemory _)) | frameAllocation (.error _) => true
  | opening _ _ _ (.error _) | frameAllocation (.ok _) | notice _ | lookup _ _ | listing _
  | deviceCreation _ _ _ | submission _ _ | reception _ _ | flush | transfer _ _ _ | release _ => false

theorem not_isDecisive {e : Event} (h : e.isPreparing) : ¬e.isDecisive := by
  cases e with
  | opening _ _ _ _ | frameAllocation _ => cases h
  | _ => exact Bool.false_ne_true

theorem not_isDecisive_opening {decoder : String} {settings : CodecSettings}
    {binding : Option Binding} {cause : EngineError} (h : ∀ what, cause ≠ .outOfMemory what) :
    ¬(Event.opening decoder settings binding (.error cause)).isDecisive := by
  cases cause with
  | outOfMemory what => exact absurd rfl (h what)
  | _ => exact Bool.false_ne_true

/-- what a start comes to, by its decisive answers, and by whether its ring `overflows` -/
inductive Verdict (codec : Codec) (overflows : Prop) :
    Trace → Except Fault (Except SessionError α) → Prop
  | noDecoder : Verdict codec overflows [] (.ok (.error (.noDecoder codec)))
  | starved (decoder : String) (settings : CodecSettings) (binding : Option Binding) (what : String) :
    Verdict codec overflows [.opening decoder settings binding (.error (.outOfMemory what))]
      (.ok (.error (.allocation (.outOfMemory what))))
  | ready (decoder : String) (settings : CodecSettings) (binding : Option Binding) (id : Nat)
    (a : α) (h : ¬overflows) :
    Verdict codec overflows [.opening decoder settings binding (.ok id)] (.ok (.ok a))
  | lacking (decoder : String) (settings : CodecSettings) (binding : Option Binding) (id : Nat)
    (cause : EngineError) :
    Verdict codec overflows
      [.opening decoder settings binding (.ok id), .frameAllocation (.error cause)]
      (.ok (.error (.allocation cause)))
  | overflowing (decoder : String) (settings : CodecSettings) (binding : Option Binding) (id : Nat)
    (h : overflows) : Verdict codec overflows [.opening decoder settings binding (.ok id)]
      (.error .capacityOverflow)

/-! ## the search -/

/-- only the last of the openings decides; a search makes no ring -/
theorem Search.verdict {codec : Codec} {settings : CodecSettings} {t : Trace}
    {result : Except SessionError (OpenBackend κ)} (h : Search codec settings t result) :
    Verdict codec False (t.filter Event.isDecisive) (.ok result) := by
  induction h with
  | failed => exact .noDecoder
  | opened b => exact .ready _ _ _ _ b id
  | exhausted decoder binding what ht =>
    rw [List.filter_cons_of_pos rfl, filter_of_preparing not_isDecisive ht]
    exact .starved _ _ _ what
  | passed decoder binding hcause _ ih =>
    rw [List.filter_cons_of_neg (not_isDecisive_opening hcause)]
    exact ih
  | prepared ht _ ih =>
    rw [List.filter_append, filter_of_preparing not_isDecisive ht]
    exact ih

open Act

section
variable (engine : Engine σ κ)

/-! ## the frames -/

theorem decisive_allocFrames (count : Nat) (w : World σ) :
    (allocFrames engine count w).events.filter Event.isDecisive =
      (allocFrames engine count w).value.2.toList.map fun cause =>
        .frameAllocation (.error cause) := by
  unfold allocFrames
  simp [List.filter_append, List.filter_map, Function.comp_def, Event.isDecisive]

/-- what only prepares decides nothing -/
theorem decisive_append {x : Act σ α} (hx : x.Leaves Event.isPreparing) (t : Trace) (w : World σ) :
    (t ++ (x w).events).filter Event.isDecisive = t.filter Event.isDecisive := by
  rw [List.filter_append, filter_of_preparing not_isDecisive (hx w), List.append_nil]

theorem decisive_allocRing (count : Nat) (w : World σ) :
    let x := allocRing engine count w
    match x.value with
    | .ok (.ok _) => x.events.filter Event.isDecisive = [] ∧ ¬Ring.Overflows engine.frameSize count
    | .ok (.error cause) => x.events.filter Event.isDecisive = [.frameAllocation (.error cause)]
    | .error _ => x.events.filter Event.isDecisive = [] := by
  by_cases h : Ring.Overflows engine.frameSize count
  · rw [allocRing_of_overflows h]
    rfl
  · have hdecisive := decisive_allocFrames engine count w
    rw [allocRing_of_fits h, bind_apply]
    generalize allocFrames engine count w = x at hdecisive ⊢
    obtain ⟨⟨frames, failure⟩, t, v⟩ := x
    cases failure with
    | some cause =>
      have hback := (leaves_releaseFrames engine frames).bind fun _ =>
        .pure (.ok (.error cause) : Except Fault (Except EngineError (Ring Frame)))
      exact (decisive_append hback t v).trans hdecisive
    | none =>
      have hfilter : (t ++ []).filter Event.isDecisive = [] := by
        rw [List.append_nil]
        exact hdecisive
      cases frames with
      | nil => exact hfilter
      | cons frame frames => exact ⟨hfilter, h⟩

/-- frames are all there is to decide on, and the room for the ring; the first frame that cannot be
allocated is the reason of a failure -/
def Step.Equips (overflows : Prop) (x : Step σ (Except Fault (Except SessionError (Session κ)))) :
    Prop :=
  match x.value with
  | .ok (.ok _) => x.events.filter Event.isDecisive = [] ∧ ¬overflows
  | .ok (.error e) => ∃ cause, e = .allocation cause ∧
      x.events.filter Event.isDecisive = [.frameAllocation (.error cause)]
  | .error _ => x.events.filter Event.isDecisive = []

theorem equips_furnish (config : SessionConfig) (codec : Codec) (b : OpenBackend κ)
    (path : TransferPath) (w : World σ) : (Session.furnish engine config codec b path w).Equips
      (Ring.Overflows engine.frameSize config.bufferCount.toNat) := by
  have hring := decisive_allocRing engine config.bufferCount.toNat w
  rw [Session.furnish, bind_apply]
  generalize allocRing engine config.bufferCount.toNat w = x at hring ⊢
  obtain ⟨fault | cause | ring, t, v⟩ := x
  · have hback := (Session.leaves_withdraw engine b path).bind fun _ =>
      .pure (.error fault : Except Fault (Except SessionError (Session κ)))
    exact (decisive_append hback t v).trans hring
  · have hback := Session.leaves_giveUp engine (.framesNotAllocated cause) b path
      (.ok (.error (.allocation cause)) : Except Fault (Except SessionError (Session κ)))
    exact ⟨cause, rfl, (decisive_append hback t v).trans hring⟩
  · obtain ⟨hevents, hfits⟩ := hring
    refine ⟨?_, hfits⟩
    show (t ++ [_]).filter Event.isDecisive = []
    rw [List.filter_append, hevents]
    rfl

theorem equips_equip (config : SessionConfig) (codec : Codec) (b : OpenBackend κ) (w : World σ) :
    (Session.equip engine config codec b w).Equips
      (Ring.Overflows engine.frameSize config.bufferCount.toNat) := by
  cases haccel : b.accel with
  | none =>
    rw [Session.equip, haccel]
    exact equips_furnish engine config codec b none w
  | some a =>
    rw [Session.equip, haccel, allocPath, bind_assoc, bind_apply]
    rcases hframe : engine.allocFrame w.engine with ⟨cause | picture, s⟩
    · rw [allocFrame_of_error hframe]
      have hback := Session.leaves_giveUp engine (.stagingNotAllocated cause) b none
        (.ok (.error (.allocation cause)) : Except Fault (Except SessionError (Session κ)))
      exact ⟨cause, rfl, decisive_append hback [.frameAllocation (.error cause)] _⟩
    · rw [allocFrame_of_ok hframe]
      exact equips_furnish engine config codec b (some ⟨a.format, _⟩) _

end

/-! ## the start -/

/-- the error of an allocation that failed: of a codec context for want of memory, or of a frame -/
def Event.shortage? : Event → Option EngineError
  | opening _ _ _ (.error (.outOfMemory what)) => some (.outOfMemory what)
  | frameAllocation (.error cause) => some cause
  | _ => none

theorem Event.shortage?_eq_none {e : Event} (h : ¬e.isDecisive) : e.shortage? = none := by
  unfold shortage?
  split
  · exact absurd rfl h
  · exact absurd rfl h
  · rfl

/-- the first shortage is a decisive answer -/
theorem findSome?_shortage (t : Trace) :
    t.findSome? Event.shortage? = (t.filter Event.isDecisive).findSome? Event.shortage? := by
  induction t with
  | nil => rfl
  | cons e t ih =>
    by_cases he : e.isDecisive
    · rw [List.filter_cons_of_pos he, List.findSome?_cons, List.findSome?_cons, ih]
    · rw [List.filter_cons_of_neg he, List.findSome?_cons, Event.shortage?_eq_none he, ih]

theorem isDecisive_opening_iff (decoder : String) (settings : CodecSettings)
    (binding : Option Binding) (answer : Except EngineError Nat) :
    (Event.opening decoder settings binding answer).isDecisive ↔
      ∀ cause, answer = .error cause → ∃ what, cause = .outOfMemory what := by
  rcases answer with cause | id
  · cases cause <;> simp [Event.isDecisive]
  · simp [Event.isDecisive]

/-- an error that a start can end with -/
def SessionError.isOfStart : SessionError → Bool
  | invalidConfig _ | unsupportedFormat _ | noDecoder _ | allocation _ => true
  | deviceBusy _ | insufficientPadding _ _ _ | submit _ | receive _ | transfer _ => false

/-- a codec context is opened -/
def Trace.Opens (t : Trace) : Prop :=
  ∃ decoder settings binding id, .opening decoder settings binding (.ok id) ∈ t

/-- the opening of a context is a decisive answer -/
theorem opens_filter (t : Trace) : Trace.Opens (t.filter Event.isDecisive) ↔ t.Opens := by
  simp [Trace.Opens, List.mem_filter, Event.isDecisive]

namespace Verdict

variable {codec : Codec} {overflows overflows' : Prop} {t : Trace}
  {result : Except Fault (Except SessionError α)}

/-- no error depends on the room for the ring -/
theorem error {cause : SessionError}
    (h : Verdict codec overflows t (.ok (.error cause) : Except Fault (Except SessionError α))) :
    Verdict codec overflows' t (.ok (.error cause) : Except Fault (Except SessionError β)) := by
  cases h with
  | noDecoder => exact .noDecoder
  | starved => exact .starved _ _ _ _
  | lacking => exact .lacking _ _ _ _ _

theorem possible (h : Verdict codec overflows t result) : (∃ a, result = .ok (.ok a)) ∨
    result = .ok (.error (.noDecoder codec)) ∨
      (∃ cause, result = .ok (.error (.allocation cause))) ∨ result = .error .capacityOverflow := by
  cases h with
  | noDecoder => exact .inr (.inl rfl)
  | starved _ _ _ what => exact .inr (.inr (.inl ⟨_, rfl⟩))
  | ready _ _ _ _ a => exact .inl ⟨a, rfl⟩
  | lacking _ _ _ _ cause => exact .inr (.inr (.inl ⟨_, rfl⟩))
  | overflowing => exact .inr (.inr (.inr rfl))

theorem noDecoder_iff (h : Verdict codec overflows (t.filter Event.isDecisive) result) :
    result = .ok (.error (.noDecoder codec)) ↔
      ∀ decoder settings binding answer, .opening decoder settings binding answer ∈ t →
        ∃ cause, answer = .error cause ∧ ∀ what, cause ≠ .outOfMemory what := by
  have hopening : ∀ {decoder settings binding answer l},
      t.filter Event.isDecisive = .opening decoder settings binding answer :: l →
      ¬∀ decoder settings binding answer, .opening decoder settings binding answer ∈ t →
        ∃ cause, answer = .error cause ∧ ∀ what, cause ≠ .outOfMemory what := by
    intro decoder settings binding answer l hl hall
    obtain ⟨hmem, hdecisive⟩ := List.mem_filter.1 (hl ▸ List.mem_cons_self)
    obtain ⟨cause, hcause, hnot⟩ := hall decoder settings binding answer hmem
    obtain ⟨what, hwhat⟩ := (isDecisive_opening_iff _ _ _ _).1 hdecisive cause hcause
    exact hnot what hwhat
  generalize hl : t.filter Event.isDecisive = l at h
  cases h with
  | noDecoder =>
    refine iff_of_true rfl fun decoder settings binding answer hmem => ?_
    have hnot := List.filter_eq_nil_iff.1 hl _ hmem
    rw [isDecisive_opening_iff] at hnot
    simpa using hnot
  | starved _ _ _ what => exact iff_of_false (by rintro ⟨⟩) (hopening hl)
  | ready _ _ _ _ a => exact iff_of_false (by rintro ⟨⟩) (hopening hl)
  | lacking _ _ _ _ cause => exact iff_of_false (by rintro ⟨⟩) (hopening hl)
  | overflowing => exact iff_of_false (by rintro ⟨⟩) (hopening hl)

theorem allocation_iff (h : Verdict codec overflows (t.filter Event.isDecisive) result)
    (cause : EngineError) :
    result = .ok (.error (.allocation cause)) ↔ t.findSome? Event.shortage? = some cause := by
  rw [findSome?_shortage]
  generalize t.filter Event.isDecisive = l at h ⊢
  cases h with
  | noDecoder => simp
  | starved _ _ _ what => simp [Event.shortage?]
  | ready _ _ _ _ a => simp [Event.shortage?]
  | lacking _ _ _ _ first =>
    show _ ↔ some first = some cause
    simp
  | overflowing => simp [Event.shortage?]

/-- a context and the frames that are asked for make a session, if there can be room for its ring -/
theorem ok_iff (h : Verdict codec overflows (t.filter Event.isDecisive) result) :
    (∃ a, result = .ok (.ok a)) ↔
      t.Opens ∧ t.findSome? Event.shortage? = none ∧ ¬overflows := by
  rw [findSome?_shortage, ← opens_filter]
  generalize t.filter Event.isDecisive = l at h ⊢
  cases h with
  | noDecoder => simp [Trace.Opens]
  | starved => simp [Trace.Opens]
  | ready _ _ _ _ a hfits => simp [Trace.Opens, Event.shortage?, hfits]
  | lacking => simp [Event.shortage?]
  | overflowing _ _ _ _ hoverflows => simp [hoverflows]

/-- and a fault if there cannot -/
theorem fault_iff (h : Verdict codec overflows (t.filter Event.isDecisive) result) :
    result = .error .capacityOverflow ↔
      t.Opens ∧ t.findSome? Event.shortage? = none ∧ overflows := by
  rw [findSome?_shortage, ← opens_filter]
  generalize t.filter Event.isDecisive = l at h ⊢
  cases h with
  | noDecoder => simp [Trace.Opens]
  | starved => simp [Trace.Opens]
  | ready _ _ _ _ a hfits => simp [hfits]
  | lacking => simp [Event.shortage?]
  | overflowing _ _ _ _ hoverflows => simp [Trace.Opens, Event.shortage?, hoverflows]

end Verdict

namespace Session

variable (engine : Engine σ κ) {config : SessionConfig} (w : World σ)

/-- the decisive answers and the room for the ring tell what a start comes to -/
theorem verdict_start {codec : Codec} (h : config.check = .ok codec) :
    Verdict codec (Ring.Overflows engine.frameSize config.bufferCount.toNat)
      ((start engine config w).events.filter Event.isDecisive) (start engine config w).value := by
  have hsearch := (search_openBackend engine codec config.preference config.settings w).verdict
  obtain ⟨held, -, -, hleaves⟩ := ensures_start engine config w (.vacant w)
  rcases hopen : openBackend engine codec config.preference config.settings w with
    ⟨cause | b, t, v⟩
  · rw [hopen] at hsearch
    rw [start_of_failed h hopen]
    exact hsearch.error
  · rw [hopen] at hsearch
    rw [start_of_opened h hopen] at hleaves ⊢
    have hequip := equips_equip engine config codec b v
    dsimp only at hsearch hleaves ⊢
    rw [List.filter_append]
    -- a search that has a backend leaves one decisive answer, and that of a missing frame may follow
    generalize t.filter Event.isDecisive = l at hsearch ⊢
    cases hsearch with
    | ready _ _ _ id =>
      unfold Step.Equips at hequip
      rcases hresult : (equip engine config codec b v).value with fault | cause | s
      · rw [hresult] at hequip hleaves
        obtain ⟨-, hoverflows, rfl⟩ := hleaves
        rw [hequip]
        exact .overflowing _ _ _ _ hoverflows
      · rw [hresult] at hequip
        obtain ⟨cause, rfl, hevents⟩ := hequip
        rw [hevents]
        exact .lacking _ _ _ _ cause
      · rw [hresult] at hequip
        obtain ⟨hevents, hfits⟩ := hequip
        rw [hevents]
        exact .ready _ _ _ _ s hfits

/-- once the checks are passed, two kinds of error are left -/
theorem error_of_check_eq_ok {codec : Codec} {cause : SessionError} (h : config.check = .ok codec)
    (hvalue : (start engine config w).value = .ok (.error cause)) :
    cause = .noDecoder codec ∨ ∃ e, cause = .allocation e := by
  have hpossible := (verdict_start engine w h).possible
  rw [hvalue] at hpossible
  simpa using hpossible

theorem exists_invalidConfig_iff (config : SessionConfig) :
    (∃ reason, (start engine config w).value = .ok (.error (.invalidConfig reason))) ↔
      config.IsInvalid := by
  cases hcheck : config.check with
  | error cause =>
    rw [start_of_error hcheck]
    rcases (config.check_eq_error_iff cause).1 hcheck with
      ⟨reason, hdefect, rfl⟩ | ⟨hvalid, -, rfl⟩
    · exact iff_of_true ⟨reason, rfl⟩ (SessionConfig.isInvalid_of_defect hdefect)
    · exact iff_of_false (by rintro ⟨reason, ⟨⟩⟩) hvalid
  | ok codec =>
    refine iff_of_false ?_ ((config.check_eq_ok_iff codec).1 hcheck).1
    rintro ⟨reason, h⟩
    simpa using error_of_check_eq_ok engine w hcheck h

theorem unsupportedFormat_iff (config : SessionConfig) (bits : UInt32) :
    (start engine config w).value = .ok (.error (.unsupportedFormat bits)) ↔ ¬config.IsInvalid ∧
      config.streamFormat.bits &&& 0xFF0F = 0 ∧ bits = config.streamFormat.bits := by
  cases hcheck : config.check with
  | error cause =>
    rw [start_of_error hcheck]
    rcases (config.check_eq_error_iff cause).1 hcheck with
      ⟨reason, hdefect, rfl⟩ | ⟨hvalid, hbits, rfl⟩
    · exact iff_of_false (by rintro ⟨⟩) fun h => h.1 (SessionConfig.isInvalid_of_defect hdefect)
    · simp [hvalid, hbits, eq_comm]
  | ok codec =>
    have hpassed := config.exists_check_eq_ok_iff.1 ⟨codec, hcheck⟩
    refine iff_of_false (fun h => ?_) fun h => hpassed (.inr h.2.1)
    simpa using error_of_check_eq_ok engine w hcheck h

theorem isOfStart_of_start {cause : SessionError}
    (h : (start engine config w).value = .ok (.error cause)) : cause.isOfStart := by
  cases hcheck : config.check with
  | error cause' =>
    rw [start_of_error hcheck] at h
    cases h
    rcases (config.check_eq_error_iff cause).1 hcheck with ⟨reason, -, rfl⟩ | ⟨-, -, rfl⟩
    all_goals rfl
  | ok codec =>
    rcases error_of_check_eq_ok engine w hcheck h with rfl | ⟨e, rfl⟩
    all_goals rfl

/-- a start answers that its configuration is invalid, or else that its format is unsupported, before
anything happens; otherwise it has no decoder if no context was opened and none lacked memory, or the
first shortage, and without a shortage a session, or a fault if there can be no room for its ring -/
theorem start_outcome (config : SessionConfig) :
    let x := start engine config w
    ((∃ reason, x.value = .ok (.error (.invalidConfig reason))) ↔ config.IsInvalid) ∧
    (∀ bits, x.value = .ok (.error (.unsupportedFormat bits)) ↔ ¬config.IsInvalid ∧
      config.streamFormat.bits &&& 0xFF0F = 0 ∧ bits = config.streamFormat.bits) ∧
    (config.IsInvalid ∨ config.streamFormat.bits &&& 0xFF0F = 0 → x.events = [] ∧ x.world = w) ∧
    (¬(config.IsInvalid ∨ config.streamFormat.bits &&& 0xFF0F = 0) →
      ∃ codec, config.streamFormat.codec = .ok codec ∧
        ((∃ s, x.value = .ok (.ok s)) ∨ x.value = .ok (.error (.noDecoder codec)) ∨
          (∃ cause, x.value = .ok (.error (.allocation cause))) ∨
          x.value = .error .capacityOverflow) ∧
        (x.value = .ok (.error (.noDecoder codec)) ↔ ∀ decoder settings binding answer,
          .opening decoder settings binding answer ∈ x.events →
            ∃ cause, answer = .error cause ∧ ∀ what, cause ≠ .outOfMemory what) ∧
        (∀ cause, x.value = .ok (.error (.allocation cause)) ↔
          x.events.findSome? Event.shortage? = some cause) ∧
        ((∃ s, x.value = .ok (.ok s)) ↔ x.events.Opens ∧
          x.events.findSome? Event.shortage? = none ∧
          ¬Ring.Overflows engine.frameSize config.bufferCount.toNat) ∧
        (x.value = .error .capacityOverflow ↔ x.events.Opens ∧
          x.events.findSome? Event.shortage? = none ∧
          Ring.Overflows engine.frameSize config.bufferCount.toNat)) ∧
    ∀ cause, x.value = .ok (.error cause) → cause.isOfStart := by
  refine ⟨exists_invalidConfig_iff engine w config, unsupportedFormat_iff engine w config,
    fun hfailed => ?_, fun hpassed => ?_, fun _ => isOfStart_of_start engine w⟩
  · cases hcheck : config.check with
    | error cause =>
      rw [start_of_error hcheck]
      exact ⟨rfl, rfl⟩
    | ok codec => exact absurd hfailed (config.exists_check_eq_ok_iff.1 ⟨codec, hcheck⟩)
  · obtain ⟨codec, hcheck⟩ := config.exists_check_eq_ok_iff.2 hpassed
    have hverdict := verdict_start engine w hcheck
    exact ⟨codec, ((config.check_eq_ok_iff codec).1 hcheck).2, hverdict.possible,
      hverdict.noDecoder_iff, hverdict.allocation_iff, hverdict.ok_iff, hverdict.fault_iff⟩

/-- it passes all checks -/
def boundlessConfig : SessionConfig :=
  { width := 1280, height := 720, perfOptions := ⟨0⟩, bufferCount := 0xffffffffffffffff,
    threadCount := 1 }

/-- an engine that has no frame to give -/
def framelessWorld : World Synthetic.Ledger :=
  ⟨.empty, { Synthetic.Ledger.fresh [⟨"h264", true, []⟩] [] with frameBudget := some 0 }, .none⟩

/-- a start that passes all checks and opens a context may come neither to a session nor to an error:
it does not get as far as to ask for a frame, and be told that there is none -/
theorem start_faults :
    let x := start (Synthetic.engine "s") boundlessConfig framelessWorld
    ¬boundlessConfig.IsInvalid ∧ boundlessConfig.streamFormat.bits &&& 0xFF0F ≠ 0 ∧
      x.events.Opens ∧ (¬∃ s, x.value = .ok (.ok s)) ∧ ¬∃ cause, x.value = .ok (.error cause) := by
  have hvalue : (start (Synthetic.engine "s") boundlessConfig framelessWorld).value =
      .error .capacityOverflow := rfl
  dsimp only
  rw [hvalue]
  refine ⟨?_, by decide, ?_, by simp, by simp⟩
  · rw [← SessionConfig.isSome_defect_iff]
    decide
  · exact ⟨"h264", _, _, 0, List.mem_of_getElem? (i := 11) rfl⟩

end Session

end StreamDecode
