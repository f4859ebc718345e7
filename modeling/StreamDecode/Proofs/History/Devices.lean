import StreamDecode.Proofs.History.Host
import StreamDecode.Proofs.History.Records

/-!
# Devices are not shared

`device_exclusivity`: over the whole history of a host, a live device has its key claimed, no two
live devices have the same key, and a device is created only where its key is held.
-/

namespace StreamDecode

/-- the keys of devices at one moment of a history -/
structure DevicesGuarded (scope : Option Nat → String) (past future : List Record) : Prop where
  /-- the key of a live device is claimed, and held where the device is -/
  claimed : ∀ i id mode, LiveDevice past i id mode → mode.key (scope (some i)) ∈ claimedKeys past ∧
    mode.key (scope (some i)) ∈ heldBy (some i) past
  /-- no two live devices share a key -/
  distinct : ∀ i id mode i' id' mode', LiveDevice past i id mode → LiveDevice past i' id' mode' →
    mode.key (scope (some i)) = mode'.key (scope (some i')) → i = i' ∧ id = id'
  /-- a device is asked for where its key is held, and the key is held nowhere else -/
  creation : ∀ i decoder mode result, future.head? = some ⟨some i, .deviceCreation decoder mode result⟩ →
    mode.key (scope (some i)) ∈ heldBy (some i) past ∧
      ∀ o, o ≠ some i → mode.key (scope (some i)) ∉ heldBy o past
  /-- a key that is freed guards no live device -/
  freed : ∀ k, k ∈ claimedKeys past → ∀ r ∈ future.head?, k ∉ claimedKeys (past ++ [r]) →
    ∀ i id mode, LiveDevice past i id mode → mode.key (scope (some i)) ≠ k

theorem History.devicesGuarded {scope : Option Nat → String} {past future : List Record}
    {l : Ledger} (h : History scope .empty (past ++ future) l) :
    DevicesGuarded scope past future := by
  obtain ⟨m, hpast, hfuture⟩ := h.split
  have hm := hpast.exclusive Ledger.exclusive_empty
  have hself : ∀ id k, k ∈ Holding.keys (.device id k) := fun _ k => Multiset.mem_singleton_self k
  refine ⟨fun i id mode hlive => ?_, fun i id mode i' id' mode' hlive hlive' hkey => ?_,
    fun i decoder mode result hhead => ?_, fun k hk r hr hfree i id mode hlive hkey => ?_⟩
  · have hkey : mode.key (scope (some i)) ∈ (m (some i)).held.keys :=
      Holdings.mem_keys.2 ⟨_, hpast.device_held hlive, hself _ _⟩
    exact ⟨(hpast.mem_claimedKeys _).2 ⟨_, hkey⟩, (hpast.mem_heldBy _ _).2 hkey⟩
  · obtain ⟨ho, ha⟩ := hm.unique (hpast.device_held hlive) (hpast.device_held hlive') (hself _ _)
      (hkey ▸ hself _ _)
    exact ⟨Option.some.inj ho, (Holding.device.inj ha).1⟩
  · cases hfuture with
    | nil => cases hhead
    | cons head _ _ =>
      cases hhead
      obtain ⟨give, get, rest, hx, hheld, -⟩ := head.exchange
      have hgive := hx.give_of_creation
      have hkey : mode.key (scope (some i)) ∈ (m (some i)).held.keys := by
        rw [hheld, hgive, Holdings.keys_add]
        exact Multiset.mem_add.2 (.inl (Multiset.mem_singleton_self _))
      refine ⟨(hpast.mem_heldBy _ _).2 hkey, fun o ho hmem => ?_⟩
      exact (hm (some i)).apart _ hkey ⟨o, ho, (hpast.mem_heldBy _ _).1 hmem⟩
  · cases hfuture with
    | nil => cases hr
    | @cons _ _ _ records c head alone tail =>
      cases hr
      have hu : r.event.unclaimed? = some k := by
        by_contra hne
        apply hfree
        rw [claimedKeys, List.foldl_append]
        exact (Event.mem_tally _ _ _).2 ⟨.inl hk, hne⟩
      have hone := hpast.append (.cons head alone (.nil _))
      have hlive' : LiveDevice (past ++ [r]) i id mode := by
        obtain ⟨⟨decoder, hcreated⟩, hreleased⟩ := hlive
        refine ⟨⟨decoder, List.mem_append_left _ hcreated⟩, fun hmem => ?_⟩
        rcases List.mem_append.1 hmem with h | h
        · exact hreleased h
        · cases List.mem_singleton.1 h
          cases hu
      have hheld := hone.device_held hlive'
      exact hfree ((hone.mem_claimedKeys k).2
        ⟨some i, Holdings.mem_keys.2 ⟨_, hheld, hkey ▸ hself _ _⟩⟩)

/-- requests to a host never share a device: at each moment of its history, its end included, whether or
not each request is answered -/
theorem device_exclusivity {σ κ : Type} (requests : List (Request σ κ)) :
    ∃ replies host, Host.empty.run requests = (replies, host) ∧
      List.Forall₂ Request.Admits requests (replies.map (·.1)) ∧
      (∀ k, k ∈ host.registry ↔ k ∈ claimedKeys (replies.flatMap (·.2))) ∧
      ∀ past future, replies.flatMap (·.2) ++ host.close.1 = past ++ future →
        DevicesGuarded host.scope past future := by
  obtain ⟨replies, host, hrun, hadmits, hsound, hhistory, l, -, hall⟩ := Host.history requests
  refine ⟨replies, host, hrun, hadmits, fun k => ?_, fun past future heq => ?_⟩
  · rw [hsound.registry, hhistory.mem_claimedKeys]
  · rw [heq] at hall
    exact hall.devicesGuarded

end StreamDecode
