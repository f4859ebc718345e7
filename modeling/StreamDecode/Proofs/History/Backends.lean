import StreamDecode.Engine.Synthetic
import StreamDecode.Proofs.History.Host
import StreamDecode.Proofs.History.Records

/-!
# Vendor backends are not shared

A session gives its claims back before its codec context.  Until then the key of a vendor backend is
claimed, and what follows is in one piece, so that nobody can open the backend while the context is
still there.

* `History.closes`   once the key of a context was given back, the context goes at once;
* `backend_exclusivity`   over the whole history of a host, a vendor backend is opened only where its
                     key is held, and never while a context is open on it.
-/

namespace StreamDecode

/-- what happens next is the release of a context, or that of one claim which the same session still
holds and then that of the context -/
def Closes (i id : Nat) (past future : List Record) : Prop :=
  future.head? = some ⟨some i, .release (.context id)⟩ ∨
    ∃ k ∈ heldBy (some i) past, future.take 2 =
      [⟨some i, .notice (.unclaimed k)⟩, ⟨some i, .release (.context id)⟩]

/-- the keys of vendor backends at one moment of a history -/
structure BackendsGuarded (scope : Option Nat → String) (past future : List Record) : Prop where
  /-- the key is claimed, and held where the context is, or the context is about to go -/
  claimed : ∀ i id decoder, LiveContext past i id decoder → decoder ∈ vendorBackends →
    backendKey (scope (some i)) decoder ∈ claimedKeys past ∧
        backendKey (scope (some i)) decoder ∈ heldBy (some i) past ∨
      Closes i id past future
  /-- a backend is opened where its key is held, and the key is held nowhere else -/
  opening : ∀ i decoder settings binding result,
    future.head? = some ⟨some i, .opening decoder settings binding result⟩ →
    decoder ∈ vendorBackends →
      backendKey (scope (some i)) decoder ∈ heldBy (some i) past ∧
        ∀ o, o ≠ some i → backendKey (scope (some i)) decoder ∉ heldBy o past
  /-- a backend is not opened while a context is open on it -/
  alone : ∀ i decoder settings binding result,
    future.head? = some ⟨some i, .opening decoder settings binding result⟩ →
    decoder ∈ vendorBackends → ∀ j id decoder', LiveContext past j id decoder' →
      decoder' ∈ vendorBackends →
      backendKey (scope (some j)) decoder' ≠ backendKey (scope (some i)) decoder

namespace Moves

variable {scope : String} {others : Set String} {c c' : Custody} {e : Event} {id : Nat}
  {key : Option String} {frames : List Frame}

/-- of a station with a context that outlived its key, a claim is given back or the context -/
theorem of_winding (h : Moves scope others c e c')
    (hc : c.held = {.closing id} + (spare key + .ofFrames frames)) :
    e = .release (.context id) ∨ ∃ k, key = some k ∧ e = .notice (.unclaimed k) ∧
      c'.held = {.closing id} + (spare none + .ofFrames frames) := by
  obtain ⟨give, get, rest, hx, hgive, hget⟩ := h.exchange
  have hback := h.orderly id (hc ▸ Multiset.mem_add.2 (.inl (Multiset.mem_singleton_self _)))
  have heq : give + rest = {.closing id} + (spare key + .ofFrames frames) := hgive ▸ hc
  -- only what gives something back is allowed, and of that only what is held
  cases hx with
  | idle he => exact absurd hback (Event.not_isHandback_of_isIdle he)
  | unclaim k =>
    have hmem : .key k ∈ ({.closing id} + (spare key + .ofFrames frames) : Holdings) :=
      heq ▸ Multiset.mem_add.2 (.inl (Multiset.mem_singleton_self _))
    have hkey : key = some k := by
      simpa [Holdings.key_mem_spare, Holdings.ofFrames] using hmem
    subst hkey
    refine .inr ⟨k, rfl, rfl, ?_⟩
    rw [spare_some, add_left_comm] at heq
    rw [hget, add_left_cancel heq, spare_none, zero_add, zero_add]
  | surrender id' k =>
    have hmem : .context id' (some k) ∈ ({.closing id} + (spare key + .ofFrames frames) : Holdings) :=
      heq ▸ Multiset.mem_add.2 (.inl (Multiset.mem_singleton_self _))
    simp [Holdings.context_notMem_spare, Holdings.ofFrames] at hmem
  | returnContext id' =>
    have hmem : .context id' none ∈ ({.closing id} + (spare key + .ofFrames frames) : Holdings) :=
      heq ▸ Multiset.mem_add.2 (.inl (Multiset.mem_singleton_self _))
    simp [Holdings.context_notMem_spare, Holdings.ofFrames] at hmem
  | close id' =>
    have hmem : .closing id' ∈ ({.closing id} + (spare key + .ofFrames frames) : Holdings) :=
      heq ▸ Multiset.mem_add.2 (.inl (Multiset.mem_singleton_self _))
    have hid : id' = id := by
      have hspare := Holdings.settled_spare key id'
      simpa [hspare, Holdings.ofFrames] using hmem
    exact .inl (by rw [hid])
  | _ => cases hback

end Moves

namespace History

variable {scope : Option Nat → String} {l l' : Ledger} {records : List Record}

/-- where a context has outlived its key, all that is left besides are frames and at most one key -/
theorem winding (h : History scope l records l')
    (hl : ∀ o id, .closing id ∈ (l o).held → (l o).held.Winding id) (o : Option Nat) (id : Nat)
    (hclosing : .closing id ∈ (l' o).held) : (l' o).held.Winding id := by
  induction h with
  | nil => exact hl o id hclosing
  | @cons l l' r records c head alone tail ih =>
    refine ih (fun p id' hp => ?_) hclosing
    by_cases hr : p = r.station
    · subst hr
      rw [Function.update_self] at hp ⊢
      exact head.winding id' hp
    · rw [Function.update_of_ne hr] at hp ⊢
      exact hl p id' hp

/-- a context that outlived its key goes next, or after one more key -/
theorem winds_up (h : History scope l records l') (hl' : l'.Settled) {i id : Nat}
    {key : Option String} {frames : List Frame}
    (heq : (l (some i)).held = {.closing id} + (spare key + .ofFrames frames)) :
    ∃ e rest c, records = ⟨some i, e⟩ :: rest ∧
      History scope (Function.update l (some i) c) rest l' ∧
      (e = .release (.context id) ∨ ∃ k, key = some k ∧ e = .notice (.unclaimed k) ∧
        c.held = {.closing id} + (spare none + .ofFrames frames)) := by
  have hclosing : .closing id ∈ (l (some i)).held :=
    heq ▸ Multiset.mem_add.2 (.inl (Multiset.mem_singleton_self _))
  cases h with
  | nil => exact absurd hclosing (hl' (some i) id)
  | @cons _ _ r rest c head alone tail =>
    obtain ⟨station, e⟩ := r
    obtain rfl : some i = station := alone (some i) id hclosing
    exact ⟨e, rest, c, rfl, tail, head.of_winding heq⟩

/-- once the key of a context was given back, the context goes at once -/
theorem closes {past future : List Record} (hpast : History scope .empty past l)
    (hfuture : History scope l future l') (hl' : l'.Settled) {i id : Nat}
    (hclosing : .closing id ∈ (l (some i)).held) : Closes i id past future := by
  obtain ⟨key, frames, heq⟩ :=
    hpast.winding (fun _ _ h => absurd h (Multiset.notMem_zero _)) (some i) id hclosing
  obtain ⟨e, rest, c, rfl, tail, rfl | ⟨k, rfl, rfl, hc⟩⟩ := hfuture.winds_up hl' heq
  · exact .inl rfl
  · have hkey : k ∈ (l (some i)).held.keys := by
      rw [heq, spare_some]
      simp [Holding.keys]
    have heq' : (Function.update l (some i) c (some i)).held =
        {.closing id} + (spare none + .ofFrames frames) := by
      rw [Function.update_self, hc]
    obtain ⟨e, rest, -, rfl, -, rfl | ⟨k', hk', -, -⟩⟩ := tail.winds_up hl' heq'
    · exact .inr ⟨k, (hpast.mem_heldBy _ _).2 hkey, rfl⟩
    · cases hk'

theorem backendsGuarded {past future : List Record}
    (h : History scope .empty (past ++ future) l') (hl' : l'.Settled) :
    BackendsGuarded scope past future := by
  obtain ⟨m, hpast, hfuture⟩ := h.split
  have hm := hpast.exclusive Ledger.exclusive_empty
  have hvendor : ∀ {i decoder}, decoder ∈ vendorBackends →
      backingKey (scope (some i)) decoder = some (backendKey (scope (some i)) decoder) :=
    fun hmem => if_pos hmem
  -- the key of an open backend is held unless the context is about to go
  have hheld : ∀ {i id decoder}, LiveContext past i id decoder → decoder ∈ vendorBackends →
      .context id (some (backendKey (scope (some i)) decoder)) ∈ (m (some i)).held ∨
        .closing id ∈ (m (some i)).held := fun hlive hmem => hvendor hmem ▸ hpast.context_held hlive
  have hopening : ∀ {i decoder settings binding result},
      future.head? = some ⟨some i, .opening decoder settings binding result⟩ →
      decoder ∈ vendorBackends → .key (backendKey (scope (some i)) decoder) ∈ (m (some i)).held ∧
        ∀ o id, .closing id ∉ (m o).held := by
    intro i decoder settings binding result hhead hmem
    cases hfuture with
    | nil => cases hhead
    | cons head alone _ =>
      cases hhead
      obtain ⟨give, get, rest, hx, hmheld, -⟩ := head.exchange
      refine ⟨?_, fun o id hclosing => ?_⟩
      · rw [hmheld, hx.give_of_opening, hvendor hmem]
        exact Multiset.mem_add.2 (.inl (Multiset.mem_singleton_self _))
      · cases alone o id hclosing
        exact Bool.false_ne_true (head.orderly id hclosing)
  refine ⟨fun i id decoder hlive hmem => ?_,
    fun i decoder settings binding result hhead hmem => ?_,
    fun i decoder settings binding result hhead hmem j id decoder' hlive hmem' hkey => ?_⟩
  · rcases hheld hlive hmem with hcontext | hclosing
    · have hkey : backendKey (scope (some i)) decoder ∈ (m (some i)).held.keys :=
        Holdings.mem_keys.2 ⟨_, hcontext, Multiset.mem_singleton_self _⟩
      exact .inl ⟨(hpast.mem_claimedKeys _).2 ⟨_, hkey⟩, (hpast.mem_heldBy _ _).2 hkey⟩
    · exact .inr (closes hpast hfuture hl' hclosing)
  · have hkey : backendKey (scope (some i)) decoder ∈ (m (some i)).held.keys :=
      Holdings.mem_keys.2 ⟨_, (hopening hhead hmem).1, Multiset.mem_singleton_self _⟩
    refine ⟨(hpast.mem_heldBy _ _).2 hkey, fun o ho hmem => ?_⟩
    exact (hm (some i)).apart _ hkey ⟨o, ho, (hpast.mem_heldBy _ _).1 hmem⟩
  · obtain ⟨hopens, hsettled⟩ := hopening hhead hmem
    rcases hheld hlive hmem' with hcontext | hclosing
    · have huse := hm.unique hcontext hopens (Multiset.mem_singleton_self _)
        (hkey ▸ Multiset.mem_singleton_self _)
      cases huse.2
    · exact hsettled _ _ hclosing

end History

/-- a session on a vendor backend, from its start to its end -/
def vendorSession : List (Request Synthetic.Ledger Synthetic.Context) :=
  [.start "a" (Synthetic.engine "s") (.fresh [⟨"h264_nvmpi", true, []⟩] []) { perfOptions := ⟨0⟩ },
   .finish "a" false]

end StreamDecode
