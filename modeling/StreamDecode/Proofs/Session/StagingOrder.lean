import StreamDecode.Proofs.Backend.Selection
import StreamDecode.Proofs.Session.Ending

/-!
# The staging frame and its device

A session gives its staging frame back before its device.  A start that comes to nothing for want of
ring slots, or of room for them, does it the other way round.

* `Search.opensLast`       a search for a backend ends with the opening of the one that it found;
* `furnishes_start`        a start that allocates a staging frame gives it back after the device, or
                           makes a session that has the two;
* `staging_order`          the order of the two, for a start that fails and for a session that ends.
-/

namespace StreamDecode

variable {σ κ α : Type}

open Act

/-! ## the opening -/

/-- an opened backend is opened last, and nothing is opened before -/
def Step.OpensLast (settings : CodecSettings) (x : Step σ (Except SessionError (OpenBackend κ))) :
    Prop :=
  match x.value with
  | .error _ => ∀ e ∈ x.events, e.opensNothing
  | .ok b => ∃ before : Trace, (∀ e ∈ before, e.opensNothing) ∧
      x.events = before ++ [.opening b.candidate.name settings (b.accel.map (·.binding))
        (.ok b.context.id)]

section
variable {settings : CodecSettings}

theorem Step.OpensLast.prepend {t : Trace} {x : Step σ (Except SessionError (OpenBackend κ))}
    (hx : x.OpensLast settings) (ht : ∀ e ∈ t, e.opensNothing) :
    Step.OpensLast settings ⟨x.value, t ++ x.events, x.world⟩ := by
  obtain ⟨r, events, world⟩ := x
  cases r with
  | error cause => exact List.forall_mem_append.2 ⟨ht, hx⟩
  | ok b =>
    obtain ⟨before, hbefore, rfl⟩ := hx
    exact ⟨t ++ before, List.forall_mem_append.2 ⟨ht, hbefore⟩, (List.append_assoc _ _ _).symm⟩

theorem Search.opensLast {codec : Codec} {t : Trace}
    {result : Except SessionError (OpenBackend κ)} (h : Search codec settings t result)
    (v : World σ) : Step.OpensLast settings ⟨result, t, v⟩ := by
  have hpreparing : ∀ {t : Trace}, (∀ e ∈ t, e.isPreparing) → ∀ e ∈ t, e.opensNothing :=
    fun ht e he => Event.opensNothing_of_isPreparing (ht e he)
  induction h with
  | failed =>
    intro e he
    cases he
  | opened b => exact ⟨[], by simp, rfl⟩
  | exhausted decoder binding what ht =>
    exact List.forall_mem_cons.2 ⟨rfl, hpreparing ht⟩
  | passed decoder binding hcause _ ih => exact ih.prepend (t := [_]) (by simp [Event.opensNothing])
  | prepared ht _ ih => exact ih.prepend (hpreparing ht)

end

/-! ## what follows it -/

section
variable (engine : Engine σ κ) {config : SessionConfig} {codec : Codec} {b : OpenBackend κ}
  {w : World σ}

theorem Trace.released_append (s t : Trace) : (s ++ t).released = s.released ++ t.released :=
  List.filterMap_append

theorem Trace.Accounts.nodup_released {t : Trace} {resources : Multiset Resource}
    {keys : Multiset String} (h : t.Accounts resources keys) : t.released.Nodup := by
  have hall : (↑t.acquired : Multiset Resource).Nodup := h.distinct
  rw [h.resources] at hall
  exact (Multiset.nodup_add.1 hall).1

/-- a session has the device and the staging frame, or they were given back, the device first -/
def Step.Furnishes (device staging : Nat)
    (x : Step σ (Except Fault (Except SessionError (Session κ)))) : Prop :=
  match x.value with
  | .ok (.ok s) => s.device.map (·.id) = some device ∧ s.path.map (·.frame.id) = some staging
  | .ok (.error _) | .error _ => [.device device, .frame staging].Sublist x.events.released

theorem Step.Furnishes.prepend {device staging : Nat} (t : Trace)
    {x : Step σ (Except Fault (Except SessionError (Session κ)))}
    (hx : x.Furnishes device staging) :
    Step.Furnishes device staging ⟨x.value, t ++ x.events, x.world⟩ := by
  obtain ⟨r, events, world⟩ := x
  have hlater : [.device device, .frame staging].Sublist events.released →
      [.device device, .frame staging].Sublist (t ++ events).released := fun h => by
    rw [Trace.released_append]
    exact h.trans (List.sublist_append_right _ _)
  rcases r with fault | cause | s
  · exact hlater hx
  · exact hlater hx
  · exact hx

theorem furnishes_after {device staging : Nat} {x : Act σ α}
    {f : α → Act σ (Except Fault (Except SessionError (Session κ)))}
    (hf : ∀ a w, (f a w).Furnishes device staging) (w : World σ) :
    ((x >>= f) w).Furnishes device staging := (hf _ _).prepend _

/-- what was to be a session is given back, the device first -/
theorem furnishes_withdrawn {d : BoundDevice} (hdevice : b.device = some d) (staging : Staging)
    {r : Except Fault (Except SessionError (Session κ))} (hr : ∀ s, r ≠ .ok (.ok s)) (w : World σ) :
    ((Session.withdraw engine b (some staging) >>= fun _ => return r) w).Furnishes d.id
      staging.frame.id := by
  rw [Session.withdraw, hdevice]
  rcases r with fault | cause | s
  · exact .cons_cons _ (.cons_cons _ (List.nil_sublist _))
  · exact .cons_cons _ (.cons_cons _ (List.nil_sublist _))
  · exact absurd rfl (hr s)

theorem furnishes_furnish {a : Accelerator} (haccel : b.accel = some a) (staging : Staging)
    (w : World σ) :
    (Session.furnish engine config codec b (some staging) w).Furnishes a.device
      staging.frame.id := by
  have hdevice : b.device = some ⟨a.device, a.deviceKind⟩ := by
    rw [OpenBackend.device, haccel]
    rfl
  refine furnishes_after (fun r => ?_) w
  rcases r with fault | cause | ring
  · exact furnishes_withdrawn engine hdevice staging (by rintro s ⟨⟩)
  · exact furnishes_after fun _ => furnishes_withdrawn engine hdevice staging (by rintro s ⟨⟩)
  · exact furnishes_after fun _ w => ⟨congrArg (Option.map (·.id)) hdevice, rfl⟩

theorem furnishes_equip {binding : Binding} {staging : Nat} {after : Trace} {w : World σ}
    (hbinding : b.accel.map (·.binding) = some binding)
    (halloc : (Session.equip engine config codec b w).events =
      .frameAllocation (.ok staging) :: after) :
    (Session.equip engine config codec b w).Furnishes binding.device staging := by
  obtain ⟨a, haccel, rfl⟩ := Option.map_eq_some_iff.1 hbinding
  unfold Session.equip at halloc ⊢
  rw [haccel, allocPath, bind_assoc, bind_apply] at halloc ⊢
  rcases hframe : engine.allocFrame w.engine with ⟨cause | picture, s⟩
  · rw [allocFrame_of_error hframe] at halloc
    cases halloc
  · rw [allocFrame_of_ok hframe] at halloc ⊢
    obtain ⟨hid, -⟩ := List.cons.inj halloc
    cases hid
    exact (furnishes_furnish engine haccel ⟨a.format, ⟨w.issued.frames, picture⟩⟩ _).prepend _

end

namespace Session

variable (engine : Engine σ κ) (config : SessionConfig) (w : World σ)

/-- a start that allocates a staging frame for a device ends with a session that has the two, or
gives them back -/
theorem furnishes_start {before after : Trace} {decoder : String} {settings : CodecSettings}
    {binding : Binding} {context staging : Nat}
    (halloc : (start engine config w).events = before ++
      .opening decoder settings (some binding) (.ok context) ::
        .frameAllocation (.ok staging) :: after) :
    (start engine config w).Furnishes binding.device staging := by
  cases hcheck : config.check with
  | error cause =>
    rw [start_of_error hcheck] at halloc
    simp at halloc
  | ok codec =>
    have hlast := (search_openBackend engine codec config.preference config.settings w).opensLast
      (openBackend engine codec config.preference config.settings w).world
    have hopened : ∀ t : Trace, (∀ e ∈ t, e.opensNothing) →
        .opening decoder settings (some binding) (.ok context) ∉ t := fun t ht hmem => by
      cases ht _ hmem
    rcases hopen : openBackend engine codec config.preference config.settings w with
      ⟨cause | b, events, v⟩
    · rw [hopen] at hlast
      rw [start_of_failed hcheck hopen] at halloc
      refine absurd ?_ (hopened events hlast)
      rw [show events = _ from halloc]
      simp
    · rw [hopen] at hlast
      rw [start_of_opened hcheck hopen] at halloc ⊢
      obtain ⟨t, ht, rfl⟩ := hlast
      have hequip := (leaves_equip engine config codec b).mono Event.opensNothing_of_isEquipping v
      dsimp only at halloc
      rw [List.append_assoc] at halloc
      -- nothing but the backend was opened, so the opening of the device is that of the backend
      obtain ⟨-, hbinding, halloc⟩ :=
        (List.append_cons_inj_of_notMem (hopened t ht) (hopened _ hequip)).1 halloc
      injection hbinding with _ _ hbinding
      exact (furnishes_equip engine hbinding halloc).prepend _

theorem released_farewell (s : Session κ) (scope : String) (announced : Bool) :
    (s.farewell scope announced).released =
      s.path.toList.map (fun staging => .frame staging.frame.id) ++
        s.device.toList.map (fun d => .device d.id) ++
        .context s.context.id :: s.ring.slots.map fun f => .frame f.id := by
  cases announced <;>
    simp [farewell, Trace.released, List.filterMap_cons, List.filterMap_map, Function.comp_def,
      Event.released?]

/-- a session gives its staging frame back before its device; a start that fails or faults when the
staging frame is there gives the device back first -/
theorem staging_order {before after : Trace} {decoder : String} {settings : CodecSettings}
    {binding : Binding} {context staging : Nat}
    (halloc : (start engine config w).events = before ++
      .opening decoder settings (some binding) (.ok context) ::
        .frameAllocation (.ok staging) :: after) :
    match (start engine config w).value with
      | .error fault => fault = .capacityOverflow ∧
        (start engine config w).events.released.Nodup ∧
        [.device binding.device, .frame staging].Sublist (start engine config w).events.released
      | .ok (.error _) => (start engine config w).events.released.Nodup ∧
        [.device binding.device, .frame staging].Sublist (start engine config w).events.released
      | .ok (.ok s) => s.device.map (·.id) = some binding.device ∧
        s.path.map (·.frame.id) = some staging ∧
        ∀ calls announced, ∃ answers s',
          (s.perform engine calls (start engine config w).world).value = .ok (answers, s') ∧
            ∀ v, (s'.finish engine announced v).events.released.Nodup ∧
              [.frame staging, .device binding.device].Sublist
                (s'.finish engine announced v).events.released := by
  have horder := furnishes_start engine config w halloc
  obtain ⟨held, hpath, hfits, hpost⟩ := ensures_start engine config w (.vacant w)
  have hnodup := hpath.accounts.nodup_released
  unfold Step.Furnishes at horder
  rcases hresult : (start engine config w).value with fault | cause | s
  · rw [hresult] at hpost horder
    exact ⟨hpost.2.2, hnodup, horder⟩
  · rw [hresult] at horder
    exact ⟨hnodup, horder⟩
  · rw [hresult] at hpost horder
    obtain ⟨rfl, hs, -⟩ := hpost
    refine ⟨horder.1, horder.2, fun calls announced => ?_⟩
    obtain ⟨-, -, -, answers, s', hvalue, -, hcontinues⟩ :=
      idles_perform engine hs.cursor calls (start engine config w).world
    refine ⟨answers, s', hvalue, fun v => ?_⟩
    rw [events_finish engine (hcontinues.sound hs), hcontinues.farewell]
    constructor
    · have hall := (accounts_lifetime engine hresult calls announced).nodup_released
      rw [Trace.released_append] at hall
      exact (List.nodup_append.1 hall).2.1
    · obtain ⟨d, hd, hdevice⟩ := Option.map_eq_some_iff.1 horder.1
      obtain ⟨f, hf, hframe⟩ := Option.map_eq_some_iff.1 horder.2
      rw [released_farewell, hd, hf, ← hdevice, ← hframe]
      exact .cons_cons _ (.cons_cons _ (List.nil_sublist _))

/-- an engine with a device, and with frames for the staging frame and one ring slot -/
def scarceWorld : World Synthetic.Ledger :=
  ⟨.empty, { Synthetic.Ledger.fresh
      [⟨"h264", true, Synthetic.deviceModes [(.vaapi, .vaapi)]⟩] [] with frameBudget := some 2 },
    .none⟩

def scarceConfig : SessionConfig := { width := 1280, height := 720, bufferCount := 2 }

/-- what happens there before the opening -/
def scarcePrelude : Trace :=
  [.lookup "h264" true, .notice (.tryingDecoder "h264"), .listing "h264",
    .notice (.claimed "s/device:vaapi"), .notice (.usingDevice .vaapi),
    .deviceCreation "h264" ⟨0, .vaapi, .vaapi, .deviceContext⟩ (.ok 0)]

theorem staging_order_scarce :
    let x := start (Synthetic.engine "s") scarceConfig scarceWorld
    x.value = .ok (.error (.allocation (.outOfMemory "frame"))) ∧
      [.device 0, .frame 0].Sublist x.events.released := by
  have hevents : (start (Synthetic.engine "s") scarceConfig scarceWorld).events =
      scarcePrelude ++
        .opening "h264" scarceConfig.settings (some ⟨0, ⟨.vaapi⟩⟩) (.ok 0) ::
          .frameAllocation (.ok 0) :: _ := rfl
  have horder := staging_order _ _ _ hevents
  have hvalue : (start (Synthetic.engine "s") scarceConfig scarceWorld).value =
      .ok (.error (.allocation (.outOfMemory "frame"))) := rfl
  rw [hvalue] at horder
  exact ⟨hvalue, horder.2⟩

/-- for want of a ring slot, a start gives the device back before the staging frame -/
theorem staging_outlives_device :
    ∃ before after decoder settings binding context staging cause,
      (start (Synthetic.engine "s") scarceConfig scarceWorld).value = .ok (.error cause) ∧
        (start (Synthetic.engine "s") scarceConfig scarceWorld).events = before ++
          .opening decoder settings (some binding) (.ok context) ::
            .frameAllocation (.ok staging) :: after ∧
        ¬[.frame staging, .device binding.device].Sublist
          (start (Synthetic.engine "s") scarceConfig scarceWorld).events.released := by
  refine ⟨scarcePrelude, _, _, _, _, _, _, _, rfl, rfl, ?_⟩
  decide

end Session

end StreamDecode
