import StreamDecode.Frame.Ring
import Mathlib.Data.List.DropRight

/-!
# What a ring retains

A ring is asked for its next slot, written to and advanced, in any order.  Its slots, and the frames
that it produces, are numbered from zero: frame `k` comes from slot `k % N` of a ring of `N` slots, and
stays there until frame `k + N` is written.

* `Op`, `run`    what is done with a ring, and the frames that are produced on the way;
* `Retains`      the cursors of a ring, and which of its frames are still in their slots;
* `Retains.written`, `Retains.advanced`   what one operation does to them;
* `retention`    a new ring after any operations.
-/

namespace StreamDecode.Ring

variable {α : Type}

/-! ## operations -/

inductive Op (α : Type) where
  | acquire
  /-- writes to the slot that is acquired -/
  | write (a : α)
  | advance

namespace Op

def isAdvance : Op α → Bool
  | advance => true
  | acquire | write _ => false

def isWrite : Op α → Bool
  | write _ => true
  | acquire | advance => false

/-- nothing was written since the last time that the ring was advanced -/
def Settled (ops : List (Op α)) : Prop := ∀ op ∈ ops.rtakeWhile (!·.isAdvance), ¬op.isWrite

instance (ops : List (Op α)) : Decidable (Settled ops) :=
  inferInstanceAs (Decidable (∀ op ∈ ops.rtakeWhile (!·.isAdvance), ¬op.isWrite))

theorem settled_acquire {ops : List (Op α)} (h : Settled (ops ++ [acquire])) : Settled ops := by
  intro op hop
  refine h op ?_
  rw [List.rtakeWhile_concat_pos _ _ _ rfl]
  exact List.mem_append_left _ hop

theorem not_settled_write (ops : List (Op α)) (a : α) : ¬Settled (ops ++ [write a]) := by
  intro h
  refine h (write a) ?_ rfl
  rw [List.rtakeWhile_concat_pos _ _ _ rfl]
  exact List.mem_append_right _ List.mem_cons_self

end Op

/-- the frame that an operation produces, if it does, and the ring after it -/
def perform (r : Ring α) : Op α → Except Fault (Option (Nat × α) × Ring α)
  | .acquire => r.acquire.map fun _ => (none, r)
  | .write a => r.acquire.map fun _ => (none, r.write a)
  | .advance => r.advance.map fun (frame, r) => (some frame, r)

/-- operations one after the other, with the frames that they produce; a fault ends it -/
def run (r : Ring α) : List (Op α) → Except Fault (List (Nat × α) × Ring α)
  | [] => .ok ([], r)
  | op :: ops => do
    let (frame, r) ← r.perform op
    let (frames, r) ← r.run ops
    return (frame.toList ++ frames, r)

theorem run_cons {r r' r'' : Ring α} {op : Op α} {ops : List (Op α)} {frame : Option (Nat × α)}
    {frames : List (Nat × α)} (h : r.perform op = .ok (frame, r'))
    (h' : r'.run ops = .ok (frames, r'')) :
    r.run (op :: ops) = .ok (frame.toList ++ frames, r'') := by
  rw [run, h]
  show (do let (frames, r) ← r'.run ops; return (frame.toList ++ frames, r)) = _
  rw [h']
  rfl

/-! ## what is retained -/

/-- a ring of `size` slots that has produced `frames`, each of them listed with its slot; `settled` if
nothing was written since -/
structure Retains (size : Nat) (frames : List (Nat × α)) (settled : Prop) (r : Ring α) : Prop where
  capacity : r.capacity = size
  slots : frames.map (·.1) = (List.range frames.length).map (· % size)
  next : r.next = frames.length % size
  current : r.current = if frames.length = 0 then none else some ((frames.length - 1) % size)
  /-- a frame stays in its slot until something is written for the frame `size` places after it -/
  kept (k : Nat) (hk : k < frames.length)
    (hrecent : frames.length < k + size ∨ frames.length = k + size ∧ settled) :
    r.slot? (k % size) = some frames[k].2

/-- fewer than `size` numbers in a row belong to different slots -/
theorem mod_ne_mod {k m size : Nat} (hk : k < m) (hm : m < k + size) : k % size ≠ m % size := by
  intro h
  have hdvd : size ∣ m - k := Nat.dvd_of_mod_eq_zero (Nat.sub_mod_eq_zero_of_mod_eq h.symm)
  have hle : size ≤ m - k := Nat.le_of_dvd (by omega) hdvd
  omega

namespace Retains

variable {size : Nat} {frames : List (Nat × α)} {settled settled' : Prop} {r : Ring α}

theorem fresh (slots : List α) (settled : Prop) :
    Retains slots.length [] settled ⟨slots, none, 0⟩ where
  capacity := rfl
  slots := rfl
  next := (Nat.zero_mod _).symm
  current := rfl
  kept k hk := absurd hk (Nat.not_lt_zero k)

theorem next_lt (h : Retains size frames settled r) (hsize : 0 < size) :
    r.next < r.slots.length := by
  have hlen : r.slots.length = size := h.capacity
  rw [hlen, h.next]
  exact Nat.mod_lt _ hsize

/-- to acquire a slot changes nothing -/
theorem acquired (h : Retains size frames settled r) (hsettled : settled' → settled) :
    Retains size frames settled' r :=
  { h with
    kept := fun k hk hrecent => by
      refine h.kept k hk ?_
      rcases hrecent with hrecent | ⟨hlen, hset⟩
      · exact .inl hrecent
      · exact .inr ⟨hlen, hsettled hset⟩ }

/-- of the frames still in their slots, a write changes the one `size` places back -/
theorem written (h : Retains size frames settled r) (a : α) (hsettled : ¬settled') :
    Retains size frames settled' (r.write a) where
  capacity := by rw [capacity_write, h.capacity]
  slots := h.slots
  next := h.next
  current := h.current
  kept k hk hrecent := by
    rcases hrecent with hrecent | ⟨-, hset⟩
    · have hother : r.next ≠ k % size := by
        rw [h.next]
        exact (mod_ne_mod hk hrecent).symm
      show (r.slots.set r.next a)[k % size]? = _
      rw [List.getElem?_set_ne hother]
      exact h.kept k hk (.inl hrecent)
    · exact absurd hset hsettled

/-- the slot that was acquired becomes a frame, and no slot changes -/
theorem advanced (h : Retains size frames settled r) (hcursor : r.next < r.slots.length) :
    Retains size (frames ++ [(r.next, r.slots[r.next])]) settled'
      { r with current := some r.next, next := (r.next + 1) % r.slots.length } where
  capacity := h.capacity
  slots := by
    have hslot : [r.next] = [frames.length].map (· % size) := congrArg ([·]) h.next
    rw [List.map_append, List.length_append, List.length_singleton, List.range_succ, List.map_append,
      h.slots, ← hslot]
    rfl
  next := by
    have hlen : r.slots.length = size := h.capacity
    show (r.next + 1) % r.slots.length = _
    rw [List.length_append, List.length_singleton, hlen, h.next, Nat.mod_add_mod]
  current := by
    rw [List.length_append, List.length_singleton, if_neg (Nat.succ_ne_zero _), Nat.add_sub_cancel,
      ← h.next]
  kept k hk hrecent := by
    rw [List.length_append, List.length_singleton] at hk hrecent
    rcases Nat.lt_succ_iff_lt_or_eq.1 hk with hk' | rfl
    · have hbefore : frames.length < k + size := by omega
      rw [List.getElem_append_left hk']
      exact h.kept k hk' (.inl hbefore)
    · rw [List.getElem_concat_length rfl, ← h.next]
      exact List.getElem?_eq_getElem hcursor

/-- the slot that the current cursor names is there -/
theorem latest (h : Retains size frames settled r) (hsize : 0 < size) :
    (frames.length = 0 → r.latest = .ok none) ∧
      (0 < frames.length → ∃ a, r.slot? ((frames.length - 1) % size) = some a ∧
        r.latest = .ok (some ((frames.length - 1) % size, a))) := by
  unfold Ring.latest
  rw [h.current]
  refine ⟨fun hnone => ?_, fun hsome => ?_⟩
  · rw [if_pos hnone]
  · have hlen : r.slots.length = size := h.capacity
    have hlt : (frames.length - 1) % size < r.slots.length := by
      rw [hlen]
      exact Nat.mod_lt _ hsize
    rw [if_neg (by omega)]
    refine ⟨_, List.getElem?_eq_getElem hlt, ?_⟩
    dsimp only
    rw [slot_of_lt hlt]
    rfl

/-- one operation, after the operations `ops` -/
theorem perform {ops : List (Op α)} (h : Retains size frames (Op.Settled ops) r) (hsize : 0 < size)
    (op : Op α) :
    ∃ frame r', r.perform op = .ok (frame, r') ∧ frame.isSome = op.isAdvance ∧
      Retains size (frames ++ frame.toList) (Op.Settled (ops ++ [op])) r' := by
  have hcursor : r.next < r.slots.length := h.next_lt hsize
  cases op with
  | acquire =>
    refine ⟨none, r, ?_, rfl, ?_⟩
    · rw [Ring.perform, acquire_of_lt hcursor]
      rfl
    · rw [Option.toList_none, List.append_nil]
      exact h.acquired Op.settled_acquire
  | write a =>
    refine ⟨none, r.write a, ?_, rfl, ?_⟩
    · rw [Ring.perform, acquire_of_lt hcursor]
      rfl
    · rw [Option.toList_none, List.append_nil]
      exact h.written a (Op.not_settled_write ops a)
  | advance =>
    refine ⟨some (r.next, r.slots[r.next]), _, ?_, rfl, h.advanced hcursor⟩
    rw [Ring.perform, advance_of_lt hcursor]
    rfl

/-- any operations, after the operations `before` -/
theorem run {before : List (Op α)} (h : Retains size frames (Op.Settled before) r)
    (hsize : 0 < size) (ops : List (Op α)) :
    ∃ more r', r.run ops = .ok (more, r') ∧ more.length = ops.countP Op.isAdvance ∧
      Retains size (frames ++ more) (Op.Settled (before ++ ops)) r' := by
  induction ops generalizing before frames r with
  | nil =>
    refine ⟨[], r, rfl, rfl, ?_⟩
    rwa [List.append_nil, List.append_nil]
  | cons op ops ih =>
    obtain ⟨frame, r₁, hop, hframe, h₁⟩ := h.perform hsize op
    obtain ⟨more, r₂, hops, hmore, h₂⟩ := ih h₁
    refine ⟨frame.toList ++ more, r₂, run_cons hop hops, ?_, ?_⟩
    · have hone : frame.toList.length = if op.isAdvance then 1 else 0 := by
        rw [← hframe]
        cases frame <;> rfl
      rw [List.length_append, List.countP_cons, hone, hmore, Nat.add_comm]
    · rw [List.append_assoc, List.append_assoc] at h₂
      exact h₂

end Retains

/-! ## any operations -/

/-- a new ring of `N` slots works without a fault whatever is done with it.  Each advance yields a frame;
frame `k` comes from slot `k % N`, and is still there if fewer than `N - 1` frames followed, or if `N - 1`
did and nothing was written since.  So its slot is written to for frame `k + N` at the earliest -/
theorem retention (slots : List α) (hslots : slots ≠ []) (ops : List (Op α)) :
    ∃ r frames r', ofSlots slots = .ok r ∧ r.run ops = .ok (frames, r') ∧
      frames.length = ops.countP Op.isAdvance ∧
      Retains slots.length frames (Op.Settled ops) r' ∧
      (frames.length = 0 → r'.latest = .ok none) ∧
      (0 < frames.length → ∃ a, r'.slot? ((frames.length - 1) % slots.length) = some a ∧
        r'.latest = .ok (some ((frames.length - 1) % slots.length, a))) := by
  have hsize : 0 < slots.length := List.length_pos_iff.2 hslots
  have hnew : ofSlots slots = .ok ⟨slots, none, 0⟩ := by
    cases slots with
    | nil => exact absurd rfl hslots
    | cons first rest => rfl
  have hfresh : Retains slots.length [] (Op.Settled ([] : List (Op α))) ⟨slots, none, 0⟩ :=
    .fresh slots _
  obtain ⟨frames, r', hrun, hlen, hr'⟩ := hfresh.run hsize ops
  exact ⟨_, frames, r', hnew, hrun, hlen, hr', hr'.latest hsize⟩

/-- two slots; frame 2 is written twice, over frame 0, and frame 3 is not written at all -/
def unevenOps : List (Op Nat) :=
  [.write 10, .advance, .acquire, .write 11, .advance, .write 12, .write 13, .advance, .advance]

/-- frame 3 is what was left of frame 1 -/
theorem retention_uneven :
    ∃ r frames r', ofSlots [0, 0] = .ok r ∧ r.run unevenOps = .ok (frames, r') ∧
      frames = [(0, 10), (1, 11), (0, 13), (1, 11)] ∧ r'.slot? 0 = some 13 ∧
      r'.slot? 1 = some 11 ∧ ∃ a, r'.latest = .ok (some (1, a)) := by
  obtain ⟨r, frames, r', hr, hrun, -, hkept, -, hlatest⟩ := retention [0, 0] (by decide) unevenOps
  cases hr
  have hframes : frames = [(0, 10), (1, 11), (0, 13), (1, 11)] :=
    congrArg Prod.fst (Except.ok.inj hrun.symm)
  subst hframes
  have hsettled : Op.Settled unevenOps := by decide
  obtain ⟨a, -, ha⟩ := hlatest (by decide)
  refine ⟨_, _, r', rfl, hrun, rfl, ?_, ?_, a, ha⟩
  · exact hkept.kept 2 (by decide) (.inr ⟨rfl, hsettled⟩)
  · exact hkept.kept 3 (by decide) (.inl (by decide))

end StreamDecode.Ring
