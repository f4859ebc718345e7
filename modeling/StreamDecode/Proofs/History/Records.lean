import Mathlib.Data.Finset.Option
import StreamDecode.Proofs.History.Ledger

/-!
# What the records say

The keys that are claimed, and the devices and contexts that are live, as they can be read off the
records alone.

* `History.mem_claimedKeys`, `History.mem_heldBy`   the ledger has the keys that the records say;
* `History.device_held`, `History.context_held`   the ledger has what the records say is live.
-/

namespace StreamDecode

/-- the claimed keys after an event -/
def Event.tally (keys : Finset String) (e : Event) : Finset String :=
  (keys ∪ e.claimed?.toFinset) \ e.unclaimed?.toFinset

/-- the keys that are claimed after some records -/
def claimedKeys (records : List Record) : Finset String :=
  records.foldl (fun keys r => r.event.tally keys) ∅

/-- the keys that a station holds after some records, or the host itself -/
def heldBy (o : Option Nat) (records : List Record) : Finset String :=
  claimedKeys (records.filter (·.station = o))

/-- a device that was created for a hardware mode and not given back -/
structure LiveDevice (records : List Record) (i id : Nat) (mode : HardwareMode) : Prop where
  created : ∃ decoder, ⟨some i, .deviceCreation decoder mode (.ok id)⟩ ∈ records
  unreleased : ⟨some i, .release (.device id)⟩ ∉ records

/-- a context that was opened with a decoder and not given back -/
structure LiveContext (records : List Record) (i id : Nat) (decoder : String) : Prop where
  opened : ∃ settings binding, ⟨some i, .opening decoder settings binding (.ok id)⟩ ∈ records
  unreleased : ⟨some i, .release (.context id)⟩ ∉ records

@[simp] theorem Event.mem_tally (keys : Finset String) (e : Event) (k : String) :
    k ∈ e.tally keys ↔ (k ∈ keys ∨ e.claimed? = some k) ∧ e.unclaimed? ≠ some k := by
  simp [Event.tally, Option.mem_def]

namespace History

variable {scope : Option Nat → String} {l l' : Ledger} {records : List Record}

/-- the keys of some stations are what the records of these stations say -/
theorem mem_tally (h : History scope l records l') (hl : l.Exclusive) (q : Option Nat → Bool)
    (keys : Finset String) (hkeys : ∀ k, k ∈ keys ↔ ∃ o, q o ∧ k ∈ (l o).held.keys) (k : String) :
    k ∈ (records.filter fun r => q r.station).foldl (fun keys r => r.event.tally keys) keys ↔
      ∃ o, q o ∧ k ∈ (l' o).held.keys := by
  induction h generalizing keys with
  | nil l => exact hkeys k
  | @cons l l' r records c head alone tail ih =>
    have hl' := hl.update (head.exclusive (hl _))
    cases hq : q r.station with
    | false =>
      rw [List.filter_cons_of_neg (by simp [hq])]
      refine ih hl' keys fun j => (hkeys j).trans (exists_congr fun o => and_congr_right fun ho => ?_)
      have hne : o ≠ r.station := fun h => by simp [h, hq] at ho
      rw [Function.update_of_ne hne]
    | true =>
      rw [List.filter_cons_of_pos (by simp [hq]), List.foldl_cons]
      refine ih hl' _ fun j => ?_
      rw [Event.mem_tally, hkeys]
      constructor
      · rintro ⟨⟨o, ho, hj⟩ | hj, hne⟩
        · by_cases hr : o = r.station
          · subst hr
            refine ⟨r.station, hq, ?_⟩
            rw [Function.update_self]
            exact (head.mem_keys (hl _) j).2 ⟨.inl hj, hne⟩
          · refine ⟨o, ho, ?_⟩
            rwa [Function.update_of_ne hr]
        · refine ⟨r.station, hq, ?_⟩
          rw [Function.update_self]
          exact (head.mem_keys (hl _) j).2 ⟨.inr hj, hne⟩
      · rintro ⟨o, ho, hj⟩
        by_cases hr : o = r.station
        · subst hr
          rw [Function.update_self] at hj
          obtain ⟨hmem, hne⟩ := (head.mem_keys (hl _) j).1 hj
          exact ⟨hmem.imp_left fun h => ⟨r.station, hq, h⟩, hne⟩
        · rw [Function.update_of_ne hr] at hj
          -- what another station holds is not this one's to free
          exact ⟨.inl ⟨o, ho, hj⟩, fun hu =>
            (hl o).apart j hj ⟨r.station, Ne.symm hr, head.mem_of_unclaimed hu⟩⟩

theorem mem_claimedKeys (h : History scope .empty records l) (k : String) :
    k ∈ claimedKeys records ↔ ∃ o, k ∈ (l o).held.keys := by
  have htally := h.mem_tally Ledger.exclusive_empty (fun _ => true) ∅ (by simp) k
  simpa [claimedKeys] using htally

theorem mem_heldBy (h : History scope .empty records l) (o : Option Nat) (k : String) :
    k ∈ heldBy o records ↔ k ∈ (l o).held.keys := by
  have htally := h.mem_tally Ledger.exclusive_empty (fun p => p = o) ∅ (by simp) k
  simpa [heldBy, claimedKeys] using htally

/-- what a station has until the event `e` lasts until then -/
theorem lasts (h : History scope l records l') {o : Option Nat} {e : Event} {p : Holdings → Prop}
    (hp : ∀ {scope others c e' c'}, Moves scope others c e' c' → p c.held → e' = e ∨ p c'.held)
    (hheld : p (l o).held) : ⟨o, e⟩ ∈ records ∨ p (l' o).held := by
  induction h with
  | nil => exact .inr hheld
  | @cons l l' r records c head alone tail ih =>
    by_cases hr : o = r.station
    · subst hr
      rcases hp head hheld with he | hc
      · exact .inl (List.mem_cons.2 (.inl (by rw [← he])))
      · exact (ih (by rwa [Function.update_self])).imp_left (List.mem_cons_of_mem _)
    · exact (ih (by rwa [Function.update_of_ne hr])).imp_left (List.mem_cons_of_mem _)

theorem device_kept (h : History scope l records l') {o : Option Nat} {id : Nat} {key : String}
    (hheld : .device id key ∈ (l o).held) :
    ⟨o, .release (.device id)⟩ ∈ records ∨ .device id key ∈ (l' o).held :=
  h.lasts (p := fun held => .device id key ∈ held) (fun hmove => hmove.device_of_mem) hheld

/-- a context that is held stays so until it is given back, with its key or without -/
theorem context_kept (h : History scope l records l') {o : Option Nat} {id : Nat}
    {key : Option String} (hheld : .context id key ∈ (l o).held) :
    ⟨o, .release (.context id)⟩ ∈ records ∨ .context id key ∈ (l' o).held ∨
      .closing id ∈ (l' o).held := by
  refine h.lasts (p := fun held => .context id key ∈ held ∨ .closing id ∈ held)
    (fun hmove hc => ?_) (.inl hheld)
  rcases hc with hcontext | hclosing
  · exact hmove.context_of_mem hcontext
  · exact (hmove.closing_of_mem hclosing).imp_right .inr

/-- what is live is held -/
theorem device_held (h : History scope l records l') {i id : Nat} {mode : HardwareMode}
    (hlive : LiveDevice records i id mode) :
    .device id (mode.key (scope (some i))) ∈ (l' (some i)).held := by
  obtain ⟨⟨decoder, hcreated⟩, hreleased⟩ := hlive
  obtain ⟨before, after, rfl⟩ := List.append_of_mem hcreated
  obtain ⟨m, -, hafter⟩ := h.split
  cases hafter with
  | @cons _ _ _ _ c head alone tail =>
    obtain ⟨give, get, rest, hx, -, hc⟩ := head.exchange
    have hget := hx.get_of_creation
    have hheld : .device id (mode.key (scope (some i))) ∈
        (Function.update m (some i) c (some i)).held := by
      rw [Function.update_self, hc, hget]
      exact Multiset.mem_add.2 (.inl (Multiset.mem_singleton_self _))
    exact (tail.device_kept hheld).resolve_left fun hmem =>
      hreleased (List.mem_append_right _ (List.mem_cons_of_mem _ hmem))

/-- what is live is held; the key of its backend may be given back already -/
theorem context_held (h : History scope l records l') {i id : Nat} {decoder : String}
    (hlive : LiveContext records i id decoder) :
    .context id (backingKey (scope (some i)) decoder) ∈ (l' (some i)).held ∨
      .closing id ∈ (l' (some i)).held := by
  obtain ⟨⟨settings, binding, hopened⟩, hreleased⟩ := hlive
  obtain ⟨before, after, rfl⟩ := List.append_of_mem hopened
  obtain ⟨m, -, hafter⟩ := h.split
  cases hafter with
  | @cons _ _ _ _ c head alone tail =>
    obtain ⟨give, get, rest, hx, -, hc⟩ := head.exchange
    have hget := hx.get_of_opening
    have hheld : .context id (backingKey (scope (some i)) decoder) ∈
        (Function.update m (some i) c (some i)).held := by
      rw [Function.update_self, hc, hget]
      exact Multiset.mem_add.2 (.inl (Multiset.mem_singleton_self _))
    exact (tail.context_kept hheld).resolve_left fun hmem =>
      hreleased (List.mem_append_right _ (List.mem_cons_of_mem _ hmem))

end History

end StreamDecode
