import StreamDecode.Proofs.Session.Outcome
import Mathlib.Data.Nat.Bitwise

/-!
# What codec contexts are opened with

Every context that a start asks for, of whichever candidate and on whichever device, is asked for with
the settings of the configuration; and no start asks for one before the configuration has passed its
checks, so the numbers in the settings fit a signed word of 32 bits.

* `Flags.contains_bit_iff`   a flag of one bit, as a bit of the word;
* `SessionConfig.settings_follow`   the settings of a configuration that has passed its checks;
* `leaves_start`             a start asks for contexts with these settings only;
* `Session.opening_follows`   both, for every opening in the trace of a start.
-/

namespace StreamDecode

variable {σ κ : Type}

/-! ## the settings -/

theorem Flags.contains_bit_iff {t : FlagTable} (a b : Flags t) {i : Nat} (hb : b.bits.toNat = 2 ^ i) :
    a.contains b ↔ a.bits.toNat.testBit i := by
  rw [contains, beq_iff_eq, ← UInt32.toNat_inj, UInt32.toNat_and, hb, Nat.and_two_pow]
  cases a.bits.toNat.testBit i with
  | true => simp
  | false => simp [(Nat.two_pow_pos i).ne]

/-- the settings say what a configuration asks for, in numbers that a signed word of 32 bits holds -/
structure CodecSettings.Follows (s : CodecSettings) (c : SessionConfig) : Prop where
  width : s.width = c.width
  height : s.height = c.height
  width_range : 1 ≤ s.width.toNat ∧ s.width.toNat ≤ 2 ^ 31 - 1
  height_range : 1 ≤ s.height.toNat ∧ s.height.toNat ≤ 2 ^ 31 - 1
  /-- every switch that there is is on -/
  flags : ∀ flag ∈ contextFlagTable.flags, s.flags.contains ⟨flag.bits⟩
  /-- whatever other bits the options have, the third one asks for slice threads -/
  threads : c.perfOptions.bits.toNat.testBit 2 ↔ ∃ n, s.sliceThreads = some n ∧
    n = c.threadCount ∧ 1 ≤ n.toNat ∧ n.toNat ≤ 2 ^ 31 - 1
  single : ¬c.perfOptions.bits.toNat.testBit 2 → s.sliceThreads = none

namespace SessionConfig

variable {c : SessionConfig}

theorem settings_follow (h : ¬c.IsInvalid) : c.settings.Follows c := by
  have hbit : c.perfOptions.contains PerfOptions.sliceThreading ↔
      c.perfOptions.bits.toNat.testBit 2 := c.perfOptions.contains_bit_iff _ rfl
  have hflags : ∀ flag ∈ contextFlagTable.flags, Flags.contains
      (.lowDelay ∪ .outputCorrupt ∪ .showAll ∪ .explode : ContextFlags) ⟨flag.bits⟩ := by decide
  unfold IsInvalid at h
  push Not at h
  obtain ⟨⟨hwidth, hwidth'⟩, ⟨hheight, hheight'⟩, hthreads, -, hslices⟩ := h
  have hsliced : c.perfOptions.bits.toNat.testBit 2 → c.settings.sliceThreads = some c.threadCount :=
    fun h => if_pos (hbit.2 h)
  have hplain : ¬c.perfOptions.bits.toNat.testBit 2 → c.settings.sliceThreads = none :=
    fun h => if_neg fun hcontains => h (hbit.1 hcontains)
  have hpos : ∀ {n : UInt32}, n ≠ 0 → 1 ≤ n.toNat := fun hn =>
    Nat.pos_of_ne_zero fun hzero => hn (UInt32.toNat_inj.1 hzero)
  refine ⟨rfl, rfl, ⟨hpos hwidth, hwidth'⟩, ⟨hpos hheight, hheight'⟩, hflags, ⟨fun h => ?_, ?_⟩,
    hplain⟩
  · have hcount : c.threadCount.toNat ≠ 0 := fun hzero =>
      hslices (hbit.2 h) (UInt64.toNat_inj.1 hzero)
    exact ⟨_, hsliced h, rfl, Nat.pos_of_ne_zero hcount, hthreads⟩
  · rintro ⟨n, hn, -⟩
    by_contra h
    cases (hplain h).symm.trans hn

end SessionConfig

/-! ## the openings -/

open Act

/-- if a codec context is asked for, then with these settings -/
def Event.opensWith (settings : CodecSettings) : Event → Bool
  | opening _ s _ _ => decide (s = settings)
  | notice _ | lookup _ _ | listing _ | deviceCreation _ _ _ | frameAllocation _ | submission _ _
  | reception _ _ | flush | transfer _ _ _ | release _ => true

section
variable {settings : CodecSettings}

theorem Event.opensWith_of_isEquipping {e : Event} (h : e.isEquipping) : e.opensWith settings := by
  cases e <;> first | rfl | cases h

theorem Search.opensWith {codec : Codec} {t : Trace} {result : Except SessionError (OpenBackend κ)}
    (h : Search codec settings t result) : ∀ e ∈ t, e.opensWith settings := by
  have hopening : ∀ decoder binding answer,
      (Event.opening decoder settings binding answer).opensWith settings :=
    fun _ _ _ => decide_eq_true rfl
  have hprepared : ∀ {t : Trace}, (∀ e ∈ t, e.isPreparing) → ∀ e ∈ t, e.opensWith settings :=
    fun ht e he => Event.opensWith_of_isEquipping (Event.isEquipping_of_isPreparing (ht e he))
  induction h with
  | failed =>
    intro e he
    cases he
  | opened b => exact List.forall_mem_singleton.2 (hopening _ _ _)
  | exhausted decoder binding what ht =>
    exact List.forall_mem_cons.2 ⟨hopening _ _ _, hprepared ht⟩
  | passed decoder binding _ _ ih => exact List.forall_mem_cons.2 ⟨hopening _ _ _, ih⟩
  | prepared ht _ ih => exact List.forall_mem_append.2 ⟨hprepared ht, ih⟩

end

namespace Session

variable (engine : Engine σ κ) (config : SessionConfig)

theorem leaves_start : (start engine config).Leaves (Event.opensWith config.settings) := by
  unfold start
  split
  · exact .pure _
  · next codec _ =>
    have hsearch : (openBackend engine codec config.preference config.settings).Leaves
        (Event.opensWith config.settings) := fun w => (search_openBackend engine codec _ _ w).opensWith
    refine .bind hsearch fun r => ?_
    cases r with
    | error cause => exact .pure _
    | ok b => exact (leaves_equip engine config codec b).mono Event.opensWith_of_isEquipping

/-- whatever context a start asks for, the settings say what the configuration asks for -/
theorem opening_follows (w : World σ) (decoder : String) (settings : CodecSettings)
    (binding : Option Binding) (answer : Except EngineError Nat)
    (h : .opening decoder settings binding answer ∈ (start engine config w).events) :
    settings.Follows config := by
  obtain rfl : settings = config.settings := of_decide_eq_true (leaves_start engine config w _ h)
  cases hcheck : config.check with
  | error cause =>
    rw [start_of_error hcheck] at h
    cases h
  | ok codec => exact SessionConfig.settings_follow ((config.check_eq_ok_iff codec).1 hcheck).1

/-- the greatest numbers that there may be, slice threads, and bits that no option has -/
def extremeConfig : SessionConfig where
  width := 0x7fffffff
  height := 0x7fffffff
  perfOptions := ⟨0xfffffff4⟩
  threadCount := 0x7fffffff

/-- a backend that cannot be opened, and one that is opened after it -/
theorem opening_follows_extreme :
    let events := (start (Prepared.engine "s" 64) extremeConfig Prepared.crowdedWorld).events
    let refused := Event.opening "h264_nvmpi" extremeConfig.settings (some ⟨0, ⟨.vaapi⟩⟩)
      (.error (.unsupported "h264"))
    let opened := Event.opening "h264" extremeConfig.settings (some ⟨1, ⟨.vaapi⟩⟩) (.ok 0)
    (refused ∈ events ∧ opened ∈ events) ∧ extremeConfig.settings.Follows extremeConfig ∧
      extremeConfig.settings.sliceThreads = some 0x7fffffff := by
  intro events refused opened
  have hopenings : events.filter Event.isOpening = [refused, opened] := rfl
  have hmem : ∀ e ∈ [refused, opened], e ∈ events := fun e he =>
    List.mem_of_mem_filter (hopenings ▸ he)
  have hopened : opened ∈ events := hmem _ (by simp)
  exact ⟨⟨hmem _ (by simp), hopened⟩, opening_follows _ _ _ _ _ _ _ hopened, rfl⟩

end Session

end StreamDecode
