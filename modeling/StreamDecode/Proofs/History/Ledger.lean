import Mathlib.Logic.Function.Basic
import StreamDecode.Host.Basic
import StreamDecode.Proofs.Custody.Ensures

/-!
# The custody of all stations

A ledger has the custody of each station, and that of the host itself under `none`.  A record moves
the custody of the station where it happened.

* `Path.history`   what a station does is a part of the history of all;
* `History.exclusive`   no key is held twice, here or there, at any moment of a history;
* `Ledger.Exclusive.unique`   a key that is held says where, and what it guards.
-/

namespace StreamDecode

abbrev Ledger := Option Nat → Custody

namespace Ledger

def others (l : Ledger) (o : Option Nat) : Set String := {k | ∃ p, p ≠ o ∧ k ∈ (l p).held.keys}

def Exclusive (l : Ledger) : Prop := ∀ o, StreamDecode.Exclusive (l.others o) (l o).held

/-- no context has outlived its key -/
def Settled (l : Ledger) : Prop := ∀ o, (l o).held.Settled

def empty : Ledger := fun _ => ⟨.none, 0⟩

@[simp] theorem keys_empty (o : Option Nat) : (empty o).held.keys = 0 := rfl

theorem exclusive_empty : empty.Exclusive := fun _ => ⟨Multiset.nodup_zero, by rintro k ⟨⟩⟩

variable {l : Ledger} {o p : Option Nat} {c : Custody}

@[simp] theorem others_update_self : Ledger.others (Function.update l o c) o = l.others o := by
  ext k
  constructor
  · rintro ⟨p, hp, hk⟩
    rw [Function.update_of_ne hp] at hk
    exact ⟨p, hp, hk⟩
  · rintro ⟨p, hp, hk⟩
    refine ⟨p, hp, ?_⟩
    rwa [Function.update_of_ne hp]

/-- a key is held by somebody if it is held here or elsewhere -/
theorem exists_mem_keys (o : Option Nat) {k : String} :
    (∃ p, k ∈ (l p).held.keys) ↔ k ∈ l.others o ∨ k ∈ (l o).held.keys := by
  constructor
  · rintro ⟨p, hk⟩
    by_cases hp : p = o
    · exact .inr (hp ▸ hk)
    · exact .inl ⟨p, hp, hk⟩
  · rintro (⟨p, -, hk⟩ | hk)
    · exact ⟨p, hk⟩
    · exact ⟨o, hk⟩

theorem Exclusive.update (hl : l.Exclusive) (hc : StreamDecode.Exclusive (l.others o) c.held) :
    Ledger.Exclusive (Function.update l o c) := by
  intro p
  by_cases hp : p = o
  · subst hp
    rw [Function.update_self, others_update_self]
    exact hc
  · rw [Function.update_of_ne hp]
    refine ⟨(hl p).nodup, ?_⟩
    rintro k hk ⟨q, hq, hkq⟩
    by_cases hqo : q = o
    · subst hqo
      rw [Function.update_self] at hkq
      exact hc.apart k hkq ⟨p, hp, hk⟩
    · rw [Function.update_of_ne hqo] at hkq
      exact (hl p).apart k hk ⟨q, hq, hkq⟩

/-- a key that is held is held in one place, and guards one thing -/
theorem Exclusive.unique (hl : l.Exclusive) {a b : Holding} (ha : a ∈ (l o).held)
    (hb : b ∈ (l p).held) {k : String} (hka : k ∈ a.keys) (hkb : k ∈ b.keys) : o = p ∧ a = b := by
  have hko : k ∈ (l o).held.keys := Holdings.mem_keys.2 ⟨a, ha, hka⟩
  have hkp : k ∈ (l p).held.keys := Holdings.mem_keys.2 ⟨b, hb, hkb⟩
  have hop : o = p := by
    by_contra hne
    exact (hl o).apart k hko ⟨p, fun h => hne h.symm, hkp⟩
  subst hop
  refine ⟨rfl, ?_⟩
  by_contra hne
  obtain ⟨rest, hrest⟩ := Multiset.exists_cons_of_mem ha
  rw [hrest] at hb
  have hbrest : b ∈ rest := (Multiset.mem_cons.1 hb).resolve_left fun h => hne h.symm
  have hnodup := (hl o).nodup
  rw [hrest, Holdings.keys_cons] at hnodup
  obtain ⟨-, -, hdisj⟩ := Multiset.nodup_add.1 hnodup
  exact Multiset.disjoint_left.1 hdisj hka (Holdings.mem_keys.2 ⟨b, hbrest, hkb⟩)

end Ledger

inductive History (scope : Option Nat → String) : Ledger → List Record → Ledger → Prop
  | nil (l : Ledger) : History scope l [] l
  | cons {l l' : Ledger} {r : Record} {records : List Record} {c : Custody}
      (head : Moves (scope r.station) (l.others r.station) (l r.station) r.event c)
      -- while a context outlives its key, nothing happens elsewhere
      (alone : ∀ o id, .closing id ∈ (l o).held → o = r.station)
      (tail : History scope (Function.update l r.station c) records l') :
      History scope l (r :: records) l'

variable {scope : Option Nat → String} {l m l' : Ledger} {o : Option Nat} {s t : List Record}

/-- what a station does is a part of the history of all -/
theorem Path.history {others : Set String} {c c' : Custody} {events : Trace}
    (h : Path (scope o) others c events c') (hothers : l.others o = others) (hc : l o = c)
    (hset : ∀ p, p ≠ o → (l p).held.Settled) :
    History scope l (events.map (⟨o, ·⟩)) (Function.update l o c') := by
  induction h generalizing l with
  | nil c =>
    subst hc
    rw [Function.update_eq_self]
    exact .nil l
  | @cons c m c' e t head tail ih =>
    subst hc
    have halone : ∀ p id, .closing id ∈ (l p).held → p = o := by
      intro p id hmem
      by_contra hp
      exact hset p hp id hmem
    refine .cons (hothers.symm ▸ head) halone ?_
    have ih := ih (l := Function.update l o m) (by rwa [Ledger.others_update_self])
      (Function.update_self o m l) fun p hp => by
        rw [Function.update_of_ne hp]
        exact hset p hp
    rwa [Function.update_idem] at ih

namespace History

theorem append (hs : History scope l s m) (ht : History scope m t l') :
    History scope l (s ++ t) l' := by
  induction hs with
  | nil => exact ht
  | cons head alone _ ih => exact .cons head alone (ih ht)

theorem split (h : History scope l (s ++ t) l') :
    ∃ m, History scope l s m ∧ History scope m t l' := by
  induction s generalizing l with
  | nil => exact ⟨l, .nil l, h⟩
  | cons r s ih =>
    cases h with
    | cons head alone tail =>
      obtain ⟨m, hs, ht⟩ := ih tail
      exact ⟨m, .cons head alone hs, ht⟩

theorem exclusive (h : History scope l s l') (hl : l.Exclusive) : l'.Exclusive := by
  induction h with
  | nil => exact hl
  | cons head _ _ ih => exact ih (hl.update (head.exclusive (hl _)))

end History

end StreamDecode
