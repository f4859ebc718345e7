import Mathlib.Data.Multiset.UnionInter
import StreamDecode.Proofs.Custody.Holding

/-!
# Custody along a trace

The holdings of one station change with each event; `others` are the keys that are held elsewhere.
`Moves` is one event, `Path` a whole trace.

* `Path.keys_add`, `Path.resources_add`   what is acquired is given back or still held;
* `Path.nodup_acquired`   no resource is handed out twice;
* `Path.released_le`   nothing is given back before it was handed out.
-/

namespace StreamDecode

namespace Trace

def acquired (t : Trace) : List Resource := t.filterMap Event.acquired?

def released (t : Trace) : List Resource := t.filterMap Event.released?

def claims (t : Trace) : List String := t.filterMap Event.claimed?

def unclaims (t : Trace) : List String := t.filterMap Event.unclaimed?

end Trace

namespace Issued

def next (n : Issued) : ResourceKind → Nat
  | .frame => n.frames
  | .device => n.devices
  | .context => n.contexts

/-- the numbers after a resource was handed out -/
def hand (n : Issued) : Option Resource → Issued
  | .none => n
  | some (.frame _) => { n with frames := n.frames + 1 }
  | some (.device _) => { n with devices := n.devices + 1 }
  | some (.context _) => { n with contexts := n.contexts + 1 }

theorem next_le_hand (n : Issued) (r : Option Resource) (kind : ResourceKind) :
    n.next kind ≤ (n.hand r).next kind := by
  rcases r with _ | (_ | _ | _) <;> cases kind <;> simp [next, hand]

theorem next_lt_hand (n : Issued) (r : Resource) : n.next r.kind < (n.hand (some r)).next r.kind := by
  cases r <;> simp [next, hand, Resource.kind]

end Issued

/-- the state of a station's engine as far as it is held to account -/
structure Custody where
  issued : Issued
  held : Holdings

/-- no key is held twice, here or elsewhere -/
structure Exclusive (others : Set String) (held : Holdings) : Prop where
  nodup : held.keys.Nodup
  apart : ∀ k ∈ held.keys, k ∉ others

theorem coe_filterMap_cons {α : Type} (f : Event → Option α) (e : Event) (t : Trace) :
    (((e :: t).filterMap f : List α) : Multiset α) = ↑(f e).toList + ↑(t.filterMap f) := by
  cases hf : f e <;> simp [hf]

/-- what one event does to a station -/
structure Moves (scope : String) (others : Set String) (c : Custody) (e : Event) (c' : Custody) :
    Prop where
  exchange : ∃ give get rest, Exchange scope e give get ∧ c.held = give + rest ∧
    c'.held = get + rest
  /-- a key that is claimed was free -/
  free : ∀ k, e.claimed? = some k → k ∉ others ∧ k ∉ c.held.keys
  /-- resources are numbered in order -/
  numbered : ∀ r, e.acquired? = some r → r.id = c.issued.next r.kind
  issued : c'.issued = c.issued.hand e.acquired?
  /-- a context that outlives its key is given back before anything else is done -/
  orderly : ∀ id, .closing id ∈ c.held → e.isHandback
  winding : ∀ id, .closing id ∈ c'.held → c'.held.Winding id

/-- what a trace does to a station -/
inductive Path (scope : String) (others : Set String) : Custody → Trace → Custody → Prop
  | nil (c : Custody) : Path scope others c [] c
  | cons {c m c' : Custody} {e : Event} {t : Trace} (head : Moves scope others c e m)
      (tail : Path scope others m t c') : Path scope others c (e :: t) c'

variable {scope : String} {others : Set String} {c m c' : Custody} {e : Event} {s t : Trace}

namespace Moves

theorem keys_add (h : Moves scope others c e c') :
    ↑e.unclaimed?.toList + c'.held.keys = ↑e.claimed?.toList + c.held.keys := by
  obtain ⟨give, get, rest, hx, hc, hc'⟩ := h.exchange
  rw [hc, hc', Holdings.keys_add, Holdings.keys_add, ← add_assoc, ← add_assoc, hx.keys_add]

theorem resources_add (h : Moves scope others c e c') :
    ↑e.released?.toList + c'.held.resources = ↑e.acquired?.toList + c.held.resources := by
  obtain ⟨give, get, rest, hx, hc, hc'⟩ := h.exchange
  rw [hc, hc', Holdings.resources_add, Holdings.resources_add, ← add_assoc, ← add_assoc,
    hx.resources_add]

theorem next_le (h : Moves scope others c e c') (kind : ResourceKind) :
    c.issued.next kind ≤ c'.issued.next kind := by
  rw [h.issued]
  exact Issued.next_le_hand _ _ kind

theorem keys_cases (h : Moves scope others c e c') :
    (∃ k, e.claimed? = some k ∧ e.unclaimed? = none ∧ c'.held.keys = k ::ₘ c.held.keys) ∨
      (∃ k, e.claimed? = none ∧ e.unclaimed? = some k ∧ k ::ₘ c'.held.keys = c.held.keys) ∨
      (e.claimed? = none ∧ e.unclaimed? = none ∧ c'.held.keys = c.held.keys) := by
  have hadd := h.keys_add
  cases hk : e.claimed? with
  | some k =>
    have hu : e.unclaimed? = none := by
      cases e with
      | notice n => cases n <;> first | rfl | cases hk
      | _ => cases hk
    left
    exact ⟨k, rfl, hu, by simpa [hk, hu] using hadd⟩
  | none =>
    right
    cases hu : e.unclaimed? with
    | some k =>
      left
      exact ⟨k, rfl, rfl, by simpa [hk, hu] using hadd⟩
    | none =>
      right
      exact ⟨rfl, rfl, by simpa [hk, hu] using hadd⟩

theorem exclusive (h : Moves scope others c e c') (hc : Exclusive others c.held) :
    Exclusive others c'.held := by
  rcases h.keys_cases with ⟨k, hk, -, heq⟩ | ⟨k, -, -, heq⟩ | ⟨-, -, heq⟩
  · obtain ⟨hout, hin⟩ := h.free k hk
    constructor
    · rw [heq]
      exact Multiset.nodup_cons.2 ⟨hin, hc.nodup⟩
    · intro j hj
      rw [heq] at hj
      rcases Multiset.mem_cons.1 hj with rfl | hj
      · exact hout
      · exact hc.apart j hj
  · constructor
    · exact (Multiset.nodup_cons.1 (heq ▸ hc.nodup)).2
    · intro j hj
      exact hc.apart j (heq ▸ Multiset.mem_cons_of_mem hj)
  · exact ⟨heq ▸ hc.nodup, heq ▸ hc.apart⟩

theorem mem_keys (h : Moves scope others c e c') (hc : Exclusive others c.held) (k : String) :
    k ∈ c'.held.keys ↔ (k ∈ c.held.keys ∨ e.claimed? = some k) ∧ e.unclaimed? ≠ some k := by
  rcases h.keys_cases with ⟨j, hj, hu, heq⟩ | ⟨j, hj, hu, heq⟩ | ⟨hj, hu, heq⟩
  · rw [heq, hj, hu, Multiset.mem_cons]
    simp [or_comm, eq_comm]
  · have hfresh := (Multiset.nodup_cons.1 (heq ▸ hc.nodup)).1
    rw [← heq, hj, hu, Multiset.mem_cons]
    constructor
    · intro hk
      exact ⟨.inl (.inr hk), fun h => hfresh (Option.some.inj h ▸ hk)⟩
    · rintro ⟨(rfl | hk) | hk, hne⟩
      · exact absurd rfl hne
      · exact hk
      · cases hk
  · simp [heq, hj, hu]

theorem mem_of_unclaimed (h : Moves scope others c e c') {k : String} (hk : e.unclaimed? = some k) :
    k ∈ c.held.keys := by
  rcases h.keys_cases with ⟨j, -, hu, -⟩ | ⟨j, -, hu, heq⟩ | ⟨-, hu, -⟩
  · rw [hu] at hk
    cases hk
  · rw [hu] at hk
    cases hk
    exact heq ▸ Multiset.mem_cons_self _ _
  · rw [hu] at hk
    cases hk

section
variable {id : Nat}

theorem device_of_mem (h : Moves scope others c e c') {key : String}
    (hmem : .device id key ∈ c.held) :
    e = .release (.device id) ∨ .device id key ∈ c'.held := by
  obtain ⟨give, get, rest, hx, hc, hc'⟩ := h.exchange
  rw [hc] at hmem
  rcases Multiset.mem_add.1 hmem with hgive | hrest
  · exact .inl (hx.device_of_mem_give hgive)
  · exact .inr (hc' ▸ Multiset.mem_add.2 (.inr hrest))

/-- a context is held until it is given back, with its key or without -/
theorem context_of_mem (h : Moves scope others c e c') {key : Option String}
    (hmem : .context id key ∈ c.held) :
    e = .release (.context id) ∨ .context id key ∈ c'.held ∨ .closing id ∈ c'.held := by
  obtain ⟨give, get, rest, hx, hc, hc'⟩ := h.exchange
  rw [hc] at hmem
  rcases Multiset.mem_add.1 hmem with hgive | hrest
  · rcases hx.context_of_mem_give hgive with he | hget
    · exact .inl he
    · exact .inr (.inr (hc' ▸ Multiset.mem_add.2 (.inl hget)))
  · exact .inr (.inl (hc' ▸ Multiset.mem_add.2 (.inr hrest)))

theorem closing_of_mem (h : Moves scope others c e c') (hmem : .closing id ∈ c.held) :
    e = .release (.context id) ∨ .closing id ∈ c'.held := by
  obtain ⟨give, get, rest, hx, hc, hc'⟩ := h.exchange
  rw [hc] at hmem
  rcases Multiset.mem_add.1 hmem with hgive | hrest
  · exact .inl (hx.closing_of_mem_give hgive)
  · exact .inr (hc' ▸ Multiset.mem_add.2 (.inr hrest))

end

end Moves

namespace Path

theorem append (hs : Path scope others c s m) (ht : Path scope others m t c') :
    Path scope others c (s ++ t) c' := by
  induction hs with
  | nil => exact ht
  | cons head _ ih => exact .cons head (ih ht)

theorem split (h : Path scope others c (s ++ t) c') :
    ∃ m, Path scope others c s m ∧ Path scope others m t c' := by
  induction s generalizing c with
  | nil => exact ⟨c, .nil c, h⟩
  | cons e s ih =>
    cases h with
    | cons head tail =>
      obtain ⟨m, hs, ht⟩ := ih tail
      exact ⟨m, .cons head hs, ht⟩

theorem single (h : Moves scope others c e c') : Path scope others c [e] c' := .cons h (.nil c')

/-- the keys that are claimed are freed or still held -/
theorem keys_add (h : Path scope others c t c') :
    ↑t.unclaims + c'.held.keys = ↑t.claims + c.held.keys := by
  induction h with
  | nil c => rfl
  | @cons c m c' e t head _ ih =>
    simp only [Trace.unclaims, Trace.claims] at ih ⊢
    calc _ = ↑e.unclaimed?.toList + (↑(t.filterMap Event.unclaimed?) + c'.held.keys) := by
            rw [coe_filterMap_cons, add_assoc]
      _ = ↑(t.filterMap Event.claimed?) + (↑e.unclaimed?.toList + m.held.keys) := by
            rw [ih, add_left_comm]
      _ = _ := by rw [head.keys_add, coe_filterMap_cons, add_left_comm, add_assoc]

/-- the resources that are handed out are given back or still held -/
theorem resources_add (h : Path scope others c t c') :
    ↑t.released + c'.held.resources = ↑t.acquired + c.held.resources := by
  induction h with
  | nil c => rfl
  | @cons c m c' e t head _ ih =>
    simp only [Trace.released, Trace.acquired] at ih ⊢
    calc _ = ↑e.released?.toList + (↑(t.filterMap Event.released?) + c'.held.resources) := by
            rw [coe_filterMap_cons, add_assoc]
      _ = ↑(t.filterMap Event.acquired?) + (↑e.released?.toList + m.held.resources) := by
            rw [ih, add_left_comm]
      _ = _ := by rw [head.resources_add, coe_filterMap_cons, add_left_comm, add_assoc]

/-- resources that are handed out have new numbers -/
theorem next_le_of_mem (h : Path scope others c t c') {r : Resource} (hr : r ∈ t.acquired) :
    c.issued.next r.kind ≤ r.id := by
  induction h with
  | nil => cases hr
  | @cons c m c' e t head _ ih =>
    obtain ⟨f, hf, hfr⟩ := List.mem_filterMap.1 hr
    rcases List.mem_cons.1 hf with rfl | hf
    · exact (head.numbered r hfr).ge
    · exact (head.next_le _).trans (ih (List.mem_filterMap.2 ⟨f, hf, hfr⟩))

theorem nodup_acquired (h : Path scope others c t c') : t.acquired.Nodup := by
  induction h with
  | nil => exact List.nodup_nil
  | @cons c m c' e t head tail ih =>
    cases hr : e.acquired? with
    | none => rwa [Trace.acquired, List.filterMap_cons_none hr]
    | some r =>
      rw [Trace.acquired, List.filterMap_cons_some hr]
      -- what is handed out later has a greater number
      refine List.nodup_cons.2 ⟨fun hmem => ?_, ih⟩
      have hle := tail.next_le_of_mem hmem
      have hlt := Issued.next_lt_hand c.issued r
      have hid := head.numbered r hr
      rw [head.issued, hr] at hle
      omega

/-- what was given back at any moment had been handed out before -/
theorem released_le (h : Path scope others c (s ++ t) c') :
    (↑s.released : Multiset Resource) ≤ ↑s.acquired + c.held.resources := by
  obtain ⟨m, hs, -⟩ := h.split
  rw [← hs.resources_add]
  exact Multiset.le_add_right _ _

theorem unclaims_le (h : Path scope others c (s ++ t) c') :
    (↑s.unclaims : Multiset String) ≤ ↑s.claims + c.held.keys := by
  obtain ⟨m, hs, -⟩ := h.split
  rw [← hs.keys_add]
  exact Multiset.le_add_right _ _

end Path

end StreamDecode
