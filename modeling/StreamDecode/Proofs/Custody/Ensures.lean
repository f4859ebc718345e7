import StreamDecode.Engine.Acts
import StreamDecode.Proofs.Custody.Path

/-!
# What acts do to the holdings

`Act.Ensures scope others x held post`: in every world that agrees with the holdings `held`, the act
`x` follows a path of custody; the holdings after it meet `post`, and the world agrees with them.

* `Ensures.bind`   acts in a row;
* `ensures_claim`, `ensures_createDevice` and the like   the single acts;
* `ensures_windUp`   the claims of a session are given back before its context.
-/

namespace StreamDecode

variable {σ κ α β : Type} {scope : String} {others : Set String} {held : Holdings}

/-! ## worlds -/

/-- what is claimed in the world is held by the station or by others -/
structure Fits (others : Set String) (held : Holdings) (w : World σ) : Prop where
  registry : ∀ k, k ∈ w.registry ↔ k ∈ others ∨ k ∈ held.keys
  exclusive : Exclusive others held
  settled : held.Settled

theorem Fits.vacant (w : World σ) : Fits {k | k ∈ w.registry} 0 w := by
  refine ⟨fun k => ?_, ⟨Multiset.nodup_zero, ?_⟩, Holdings.settled_zero⟩
  · simp
  · rintro k ⟨⟩

theorem Fits.of_keys {held' : Holdings} {w w' : World σ} (h : Fits others held w)
    (hkeys : held'.keys = held.keys) (hreg : w'.registry = w.registry) (hset : held'.Settled) :
    Fits others held' w' := by
  refine ⟨fun k => ?_, ⟨?_, ?_⟩, hset⟩
  · rw [hreg, hkeys]
    exact h.registry k
  · rw [hkeys]
    exact h.exclusive.nodup
  · rw [hkeys]
    exact h.exclusive.apart

/-- freeing keys that are held leaves the rest of what is held -/
theorem Fits.of_release {keys : List String} {held' : Holdings} {w w' : World σ}
    (hw : Fits others held w) (hkeys : held.keys = ↑keys + held'.keys) (hset : held'.Settled)
    (hreg : ∀ k, k ∈ w'.registry ↔ k ∈ w.registry ∧ k ∉ keys) : Fits others held' w' := by
  have hnodup := hw.exclusive.nodup
  have hapart := hw.exclusive.apart
  rw [hkeys] at hnodup hapart
  obtain ⟨-, hnodup', hdisj⟩ := Multiset.nodup_add.1 hnodup
  refine ⟨fun k => ?_, ⟨hnodup', fun k hk => hapart k (Multiset.mem_add.2 (.inr hk))⟩, hset⟩
  have hout : k ∈ others → k ∉ keys := fun h hk => hapart k (Multiset.mem_add.2 (.inl hk)) h
  have hin : k ∈ held'.keys → k ∉ keys := fun h hk => Multiset.disjoint_left.1 hdisj hk h
  rw [hreg, hw.registry, hkeys, Multiset.mem_add, Multiset.mem_coe]
  tauto

/-- a step from the world `w` with one event, which neither claims nor frees a key -/
structure Step.Exchanges (scope : String) (x : Step σ α) (w : World σ) (e : Event)
    (give get : Holdings) : Prop where
  events : x.events = [e]
  exchange : Exchange scope e give get
  claimed : e.claimed? = none
  unclaimed : e.unclaimed? = none
  numbered : ∀ r, e.acquired? = some r → r.id = w.issued.next r.kind
  registry : x.world.registry = w.registry
  issued : x.world.issued = w.issued.hand e.acquired?

namespace Act

/-- an act that leaves the registry and the numbers alone, with a trace of idle events and a value
that meets `post` -/
def Idles (x : Act σ α) (post : α → Prop) : Prop :=
  ∀ w, (∀ e ∈ (x w).events, e.isIdle) ∧ (x w).world.registry = w.registry ∧
    (x w).world.issued = w.issued ∧ post (x w).value

/-- from the holdings `held`, an act follows a path of custody to holdings that meet `post` -/
def Ensures (scope : String) (others : Set String) (x : Act σ α) (held : Holdings)
    (post : α → Holdings → Prop) : Prop :=
  ∀ w, Fits others held w → ∃ held',
    Path scope others ⟨w.issued, held⟩ (x w).events ⟨(x w).world.issued, held'⟩ ∧
      Fits others held' (x w).world ∧ post (x w).value held'

namespace Ensures

variable {x : Act σ α} {post : α → Holdings → Prop} {post' : β → Holdings → Prop}

theorem mono {post' : α → Holdings → Prop} (hx : Ensures scope others x held post)
    (h : ∀ a held', post a held' → post' a held') : Ensures scope others x held post' := by
  intro w hw
  obtain ⟨held', hpath, hfits, hpost⟩ := hx w hw
  exact ⟨held', hpath, hfits, h _ _ hpost⟩

theorem pure {a : α} (h : post a held) : Ensures scope others (Pure.pure a : Act σ α) held post :=
  fun _ hw => ⟨held, .nil _, hw, h⟩

theorem bind {f : α → Act σ β} (hx : Ensures scope others x held post)
    (hf : ∀ a held', post a held' → Ensures scope others (f a) held' post') :
    Ensures scope others (x >>= f) held post' := by
  intro w hw
  obtain ⟨held₁, hpath₁, hfits₁, hpost⟩ := hx w hw
  obtain ⟨held₂, hpath₂, hfits₂, hpost₂⟩ := hf _ _ hpost _ hfits₁
  exact ⟨held₂, hpath₁.append hpath₂, hfits₂, hpost₂⟩

theorem bind_to {f : α → Act σ β} {held' : Holdings}
    (hx : Ensures scope others x held fun _ h => h = held')
    (hf : ∀ a, Ensures scope others (f a) held' post') :
    Ensures scope others (x >>= f) held post' :=
  hx.bind fun a _ h => h ▸ hf a

end Ensures

end Act

/-! ## single events -/

section
variable {e : Event} {give get rest held' : Holdings} {n : Issued}

/-- an exchange that neither claims nor frees a key keeps a settled station settled -/
theorem Moves.of_exchange (hx : Exchange scope e give get) (hheld : held = give + rest)
    (hheld' : held' = get + rest) (hc : e.claimed? = none) (hu : e.unclaimed? = none)
    (hset : held.Settled) (hid : ∀ r, e.acquired? = some r → r.id = n.next r.kind) :
    Moves scope others ⟨n, held⟩ e ⟨n.hand e.acquired?, held'⟩ where
  exchange := ⟨give, get, rest, hx, hheld, hheld'⟩
  free k hk := by rw [hc] at hk; cases hk
  numbered := hid
  issued := rfl
  orderly id hmem := absurd hmem (hset id)
  winding id hmem := by
    have hrest : rest.Settled := ((Holdings.settled_add _ _).1 (hheld ▸ hset)).2
    have hset' : held'.Settled := hheld' ▸ (Holdings.settled_add _ _).2 ⟨hx.settled hu, hrest⟩
    exact absurd hmem (hset' id)

theorem Moves.idle (he : e.isIdle) (hset : held.Settled) :
    Moves scope others ⟨n, held⟩ e ⟨n, held⟩ := by
  obtain ⟨hc, hu, ha⟩ : e.claimed? = none ∧ e.unclaimed? = none ∧ e.acquired? = none := by
    cases e with
    | notice n => cases n <;> first | exact ⟨rfl, rfl, rfl⟩ | cases he
    | frameAllocation result => cases result <;> first | exact ⟨rfl, rfl, rfl⟩ | cases he
    | deviceCreation _ _ _ | opening _ _ _ _ | release _ => cases he
    | _ => exact ⟨rfl, rfl, rfl⟩
  have h : Moves scope others ⟨n, held⟩ e ⟨n.hand e.acquired?, held⟩ :=
    .of_exchange (.idle he) (zero_add _).symm (zero_add _).symm hc hu hset (by simp [ha])
  rwa [ha] at h

theorem Moves.handback (hx : Exchange scope e give get) (hheld : held = give + rest)
    (hheld' : held' = get + rest) (he : e.isHandback)
    (hwind : ∀ id, .closing id ∈ held' → held'.Winding id) :
    Moves scope others ⟨n, held⟩ e ⟨n, held'⟩ := by
  obtain ⟨hc, ha⟩ : e.claimed? = none ∧ e.acquired? = none := by
    cases e with
    | notice n => cases n <;> first | exact ⟨rfl, rfl⟩ | cases he
    | release _ => exact ⟨rfl, rfl⟩
    | _ => cases he
  exact ⟨⟨give, get, rest, hx, hheld, hheld'⟩, by simp [hc], by simp [ha], by simp [ha, Issued.hand],
    fun _ _ => he, hwind⟩

end

theorem Path.idle {n : Issued} {t : Trace} (ht : ∀ e ∈ t, e.isIdle) (hset : held.Settled) :
    Path scope others ⟨n, held⟩ t ⟨n, held⟩ := by
  induction t with
  | nil => exact .nil _
  | cons e t ih =>
    exact .cons (.idle (ht e List.mem_cons_self) hset)
      (ih fun f hf => ht f (List.mem_cons_of_mem _ hf))

/-! ## single acts -/

namespace Act

namespace Idles

variable {x : Act σ α} {post : α → Prop} {post' : β → Prop}

theorem mono {post' : α → Prop} (hx : Idles x post) (h : ∀ a, post a → post' a) : Idles x post' :=
  fun w => by
    obtain ⟨hidle, hreg, hissued, hpost⟩ := hx w
    exact ⟨hidle, hreg, hissued, h _ hpost⟩

theorem pure {a : α} (h : post a) : Idles (Pure.pure a : Act σ α) post := fun _ =>
  ⟨by simp, rfl, rfl, h⟩

theorem bind {f : α → Act σ β} (hx : Idles x post) (hf : ∀ a, post a → Idles (f a) post') :
    Idles (x >>= f) post' := by
  intro w
  obtain ⟨he₁, hreg₁, hissued₁, hpost⟩ := hx w
  obtain ⟨he₂, hreg₂, hissued₂, hpost₂⟩ := hf _ hpost (x w).world
  refine ⟨fun e he => ?_, hreg₂.trans hreg₁, hissued₂.trans hissued₁, hpost₂⟩
  rcases List.mem_append.1 he with h | h
  · exact he₁ e h
  · exact he₂ e h

theorem keeps (hx : Idles x post) :
    Ensures scope others x held fun a held' => post a ∧ held' = held := by
  intro w hw
  obtain ⟨hidle, hreg, hissued, hpost⟩ := hx w
  refine ⟨held, ?_, hw.of_keys rfl hreg hw.settled, hpost, rfl⟩
  rw [hissued]
  exact .idle hidle hw.settled

theorem ensures (hx : Idles x post) : Ensures scope others x held fun _ held' => held' = held :=
  hx.keeps.mono fun _ _ h => h.2

end Idles

theorem ensures_of_exchanges {x : Act σ α} {give rest : Holdings} {post : α → Holdings → Prop}
    (hx : ∀ w, ∃ e get, (x w).Exchanges scope w e give get ∧ post (x w).value (get + rest)) :
    Ensures scope others x (give + rest) post := by
  intro w hw
  obtain ⟨e, get, h, hpost⟩ := hx w
  have hrest := ((Holdings.settled_add _ _).1 hw.settled).2
  refine ⟨get + rest, ?_, ?_, hpost⟩
  · rw [h.events, h.issued]
    exact .single (.of_exchange h.exchange rfl rfl h.claimed h.unclaimed hw.settled h.numbered)
  · refine hw.of_keys ?_ h.registry
      ((Holdings.settled_add _ _).2 ⟨h.exchange.settled h.unclaimed, hrest⟩)
    rw [Holdings.keys_add, Holdings.keys_add, h.exchange.keys_eq h.claimed h.unclaimed]

theorem idles_tell {n : Notice} (hn : (Event.notice n).isIdle) :
    (tell n : Act σ Unit).Idles fun _ => True :=
  fun _ => ⟨by simpa using hn, rfl, rfl, trivial⟩

/-- a key that is claimed was free, and is held afterwards -/
theorem ensures_claim (key : String) :
    Ensures scope others (claim key : Act σ (Except SessionError Claim)) held fun r held' =>
      match r with
      | .ok claim => claim = ⟨key⟩ ∧ held' = {.key key} + held
      | .error _ => held' = held := by
  intro w hw
  unfold claim
  cases hreg : w.registry.claim? key with
  | none => exact ⟨held, .nil _, hw, rfl⟩
  | some registry =>
    have hfree : ¬(key ∈ others ∨ key ∈ held.keys) := by
      rw [← hw.registry, ← Registry.claim?_eq_none_iff, hreg]
      exact Option.some_ne_none _
    have hmove : Moves scope others ⟨w.issued, held⟩ (.notice (.claimed key))
        ⟨w.issued, {.key key} + held⟩ :=
      { exchange := ⟨0, {.key key}, held, .claim key, (zero_add _).symm, rfl⟩
        free := by
          rintro k ⟨⟩
          exact not_or.1 hfree
        numbered := fun _ h => by cases h
        issued := rfl
        orderly := fun id hmem => absurd hmem (hw.settled id)
        winding := fun id hmem => absurd hmem (by simpa using hw.settled id) }
    refine ⟨{.key key} + held, .single hmove, ?_, rfl, rfl⟩
    refine ⟨fun k => ?_, hmove.exclusive hw.exclusive, ?_⟩
    · rw [Registry.mem_claim? hreg, hw.registry]
      simp only [Holdings.keys_add, Holdings.keys_singleton, Holding.keys, Multiset.mem_add,
        Multiset.mem_singleton]
      tauto
    · exact (Holdings.settled_add _ _).2 ⟨by simp [Holdings.Settled], hw.settled⟩

theorem ensures_unclaim (claim : Claim) (rest : Holdings) :
    Ensures scope others (unclaim claim : Act σ Unit) ({.key claim.key} + rest) fun _ held' =>
      held' = rest := by
  intro w hw
  have hset : rest.Settled := ((Holdings.settled_add _ _).1 hw.settled).2
  have hkeys : ({.key claim.key} + rest : Holdings).keys = ↑[claim.key] + rest.keys := by
    simp [Holding.keys]
  refine ⟨rest, ?_, hw.of_release hkeys hset fun k => ?_, rfl⟩
  · exact .single (.handback (.unclaim claim.key) rfl (zero_add _).symm rfl
      fun id hmem => absurd hmem (hset id))
  · simp [unclaim]

section
variable (engine : Engine σ κ) (decoder : String)

theorem idles_hasDecoder : (hasDecoder engine decoder).Idles fun _ => True := fun w =>
  ⟨by simp [hasDecoder, Event.isIdle], rfl, rfl, trivial⟩

theorem idles_hardwareModes : (hardwareModes engine decoder).Idles fun _ => True := fun w =>
  ⟨by simp [hardwareModes, Event.isIdle], rfl, rfl, trivial⟩

theorem idles_submit (payload : Bytes) (context : OpenContext κ) :
    (submit engine payload context).Idles fun r => r.2.id = context.id := fun w =>
  ⟨by simp [submit, Event.isIdle], rfl, rfl, rfl⟩

theorem idles_receive (frame : Frame) (context : OpenContext κ) :
    (receive engine frame context).Idles fun r => r.2.1.id = frame.id ∧ r.2.2.id = context.id := by
  refine fun w => ⟨fun e he => ?_, rfl, rfl, rfl, rfl⟩
  rcases List.mem_cons.1 he with rfl | he
  · rfl
  · obtain ⟨refusal, -, rfl⟩ := List.mem_map.1 he
    rfl

theorem idles_flush (context : OpenContext κ) :
    (flush engine context).Idles fun context' => context'.id = context.id := fun w =>
  ⟨by simp [flush, Event.isIdle], rfl, rfl, rfl⟩

theorem idles_transfer (staging : Frame) (source : Option Nat) (picture : Picture) :
    (transfer engine staging source picture).Idles fun r => r.2.id = staging.id := fun w =>
  ⟨by simp [transfer, Event.isIdle], rfl, rfl, rfl⟩

theorem ensures_createDevice (mode : HardwareMode) (rest : Holdings) :
    Ensures scope others (createDevice engine decoder mode) ({.key (mode.key scope)} + rest)
      fun r held' => match r with
        | .ok id => held' = {.device id (mode.key scope)} + rest
        | .error _ => held' = {.key (mode.key scope)} + rest := by
  apply ensures_of_exchanges
  intro w
  unfold createDevice
  rcases engine.createDevice decoder mode w.engine with ⟨cause | _, s⟩
  · exact ⟨_, _, ⟨rfl, .refuse _ _ _, rfl, rfl, by rintro r ⟨⟩, rfl, rfl⟩, rfl⟩
  · exact ⟨_, _, ⟨rfl, .create _ _ _, rfl, rfl, by rintro r ⟨⟩; rfl, rfl, rfl⟩, rfl⟩

theorem ensures_openContext (settings : CodecSettings) (binding : Option Binding)
    (rest : Holdings) :
    Ensures scope others (openContext engine decoder settings binding)
      (spare (backingKey scope decoder) + rest)
      fun r held' => match r with
        | .ok context => held' = {.context context.id (backingKey scope decoder)} + rest
        | .error _ => held' = spare (backingKey scope decoder) + rest := by
  apply ensures_of_exchanges
  intro w
  unfold openContext
  rcases engine.openContext decoder settings binding w.engine with ⟨cause | _, s⟩
  · exact ⟨_, _, ⟨rfl, .openFail _ _ _ _, rfl, rfl, by rintro r ⟨⟩, rfl, rfl⟩, rfl⟩
  · exact ⟨_, _, ⟨rfl, .openContext _ _ _ _, rfl, rfl, by rintro r ⟨⟩; rfl, rfl, rfl⟩, rfl⟩

theorem ensures_allocFrame :
    Ensures scope others (allocFrame engine) held fun r held' => match r with
      | .ok frame => held' = {.frame frame.id} + held
      | .error _ => held' = held := by
  rw [show Ensures scope others (allocFrame engine) held =
    Ensures scope others (allocFrame engine) (0 + held) by rw [zero_add]]
  apply ensures_of_exchanges
  intro w
  unfold allocFrame
  rcases engine.allocFrame w.engine with ⟨cause | _, s⟩
  · exact ⟨_, _, ⟨rfl, .idle rfl, rfl, rfl, by rintro r ⟨⟩, rfl, rfl⟩, zero_add _⟩
  · exact ⟨_, _, ⟨rfl, .allocate _, rfl, rfl, by rintro r ⟨⟩; rfl, rfl, rfl⟩, rfl⟩

theorem ensures_release {r : Resource} {give get rest held' : Holdings}
    (hx : Exchange scope (.release r) give get) (hheld : held = give + rest)
    (hheld' : held' = get + rest) :
    Ensures scope others (release engine r) held fun _ h => h = held' := by
  subst hheld hheld'
  exact ensures_of_exchanges fun _ =>
    ⟨_, get, ⟨rfl, hx, rfl, rfl, by simp [Event.acquired?], rfl, rfl⟩, rfl⟩

/-! ## several acts of a kind -/

/-- all frames are allocated, unless there is a failure -/
theorem ensures_allocFrames (count : Nat) :
    Ensures scope others (allocFrames engine count) held fun r held' =>
      held' = Holdings.ofFrames r.1 + held ∧ (r.2 = none → r.1.length = count) := by
  induction count generalizing held with
  | zero => exact fun w hw => ⟨held, .nil _, hw, (zero_add _).symm, fun _ => rfl⟩
  | succ count ih =>
    rw [allocFrames_succ]
    refine (ensures_allocFrame engine).bind fun r held₁ h => ?_
    cases r with
    | error cause =>
      subst h
      exact .pure ⟨(zero_add _).symm, fun h => by cases h⟩
    | ok frame =>
      subst h
      refine ih.bind fun ⟨frames, failure⟩ held₂ h => ?_
      obtain ⟨rfl, hlen⟩ := h
      refine .pure ⟨?_, fun hf => by rw [List.length_cons, hlen hf]⟩
      rw [Holdings.ofFrames_cons, add_left_comm, add_assoc]

theorem ensures_releaseFrames (frames : List Frame) (rest : Holdings) :
    Ensures scope others (releaseFrames engine frames) (Holdings.ofFrames frames + rest)
      fun _ held' => held' = rest := by
  induction frames with
  | nil => exact fun w hw => ⟨0 + rest, .nil _, hw, zero_add _⟩
  | cons frame frames ih =>
    rw [releaseFrames_cons, Holdings.ofFrames_cons, add_assoc]
    exact (ensures_release engine (.returnFrame frame.id) rfl (zero_add _).symm).bind_to
      fun _ => ih

/-- a ring holds its slots; what does not come to a ring holds nothing -/
theorem ensures_allocRing {count : Nat} (hcount : count ≠ 0) :
    Ensures scope others (allocRing engine count) held fun r held' => match r with
      | .ok (.ok ring) => held' = Holdings.ofFrames ring.slots + held ∧
          ring.slots.length = count ∧ ring.next = 0
      | .ok (.error _) => held' = held
      | .error fault => held' = held ∧ Ring.Overflows engine.frameSize count ∧
          fault = .capacityOverflow := by
  by_cases h : Ring.Overflows engine.frameSize count
  · rw [allocRing_of_overflows h]
    exact .pure ⟨rfl, h, rfl⟩
  · rw [allocRing_of_fits h]
    refine (ensures_allocFrames engine count).bind fun ⟨frames, failure⟩ held₁ hframes => ?_
    obtain ⟨rfl, hlen⟩ := hframes
    cases failure with
    | some cause => exact (ensures_releaseFrames engine frames _).bind_to fun _ => .pure rfl
    | none =>
      have hlen := hlen rfl
      cases frames with
      | nil => exact absurd hlen.symm hcount
      | cons frame frames => exact .pure ⟨rfl, hlen, rfl⟩

end

theorem unclaimAll_apply (claims : List Claim) (w : World σ) :
    unclaimAll claims w = ⟨(), claims.map fun c => .notice (.unclaimed c.key),
      { w with registry := claims.foldl (fun r c => r.release c.key) w.registry }⟩ := by
  induction claims generalizing w with
  | nil => rfl
  | cons claim claims ih =>
    show Act.bind (unclaim claim) (fun _ => unclaimAll claims) w = _
    simp [Act.bind, unclaim, ih]

theorem mem_foldl_release (claims : List Claim) (r : Registry) (k : String) :
    k ∈ claims.foldl (fun r c => r.release c.key) r ↔ k ∈ r ∧ k ∉ claims.map (·.key) := by
  induction claims generalizing r with
  | nil => simp
  | cons claim claims ih =>
    rw [List.foldl_cons, ih, Registry.mem_release, List.map_cons, List.mem_cons]
    tauto

theorem ensures_unclaimAll (claims : List Claim) (rest : Holdings) :
    Ensures scope others (unclaimAll claims : Act σ Unit)
      (↑(claims.map fun c => Holding.key c.key) + rest) fun _ held' => held' = rest := by
  induction claims with
  | nil => exact fun w hw => ⟨0 + rest, .nil _, hw, zero_add _⟩
  | cons claim claims ih =>
    rw [List.map_cons, ← Multiset.cons_coe, ← Multiset.singleton_add, add_assoc]
    exact (ensures_unclaim claim _).bind_to fun _ => ih

end Act

/-! ## the end of a codec context -/

section
variable {n : Issued} {id : Nat} {frames : List Frame}

/-- the key of a backend is given back while its context is still there -/
theorem Moves.surrender (k : String) (key : Option String) :
    Moves scope others ⟨n, {.context id (some k)} + (spare key + .ofFrames frames)⟩
      (.notice (.unclaimed k)) ⟨n, {.closing id} + (spare key + .ofFrames frames)⟩ := by
  refine .handback (.surrender id k) rfl rfl rfl fun id' hmem => ?_
  have hrest : (spare key + Holdings.ofFrames frames).Settled :=
    (Holdings.settled_add _ _).2 ⟨Holdings.settled_spare _, Holdings.settled_ofFrames _⟩
  rcases Multiset.mem_add.1 hmem with h | h
  · cases Multiset.mem_singleton.1 h
    exact ⟨key, frames, rfl⟩
  · exact absurd h (hrest id')

theorem Moves.unclaim_winding (k : String) :
    Moves scope others ⟨n, {.closing id} + (spare (some k) + .ofFrames frames)⟩
      (.notice (.unclaimed k)) ⟨n, {.closing id} + .ofFrames frames⟩ := by
  refine .handback (.unclaim k) (add_left_comm _ _ _) (zero_add _).symm rfl fun id' hmem => ?_
  rcases Multiset.mem_add.1 hmem with h | h
  · cases Multiset.mem_singleton.1 h
    exact ⟨none, frames, by rw [spare_none, zero_add]⟩
  · exact absurd h (Holdings.settled_ofFrames _ id')

theorem Moves.close :
    Moves scope others ⟨n, {.closing id} + .ofFrames frames⟩ (.release (.context id))
      ⟨n, .ofFrames frames⟩ :=
  .handback (.close id) rfl (zero_add _).symm rfl
    fun id' hmem => absurd hmem (Holdings.settled_ofFrames _ id')

end

/-- the claims of a session are given back, the one of the backend first, and then its context -/
theorem Act.ensures_windUp (engine : Engine σ κ) {claims : List Claim} {backing key : Option String}
    (hclaims : claims.map (·.key) = backing.toList ++ key.toList) (id : Nat) (frames : List Frame) :
    Ensures scope others (unclaimAll claims >>= fun _ => release engine (.context id))
      ({.context id backing} + (spare key + .ofFrames frames))
      fun _ held' => held' = .ofFrames frames := by
  have hkeys : (↑(claims.map fun c => Holding.key c.key) : Holdings) =
      ↑((backing.toList ++ key.toList).map Holding.key) := by
    rw [← hclaims, List.map_map]
    rfl
  cases backing with
  | none =>
    rw [add_left_comm]
    have hspare : spare key = ↑(claims.map fun c => Holding.key c.key) := by
      rw [hkeys]
      cases key <;> rfl
    rw [hspare]
    exact (ensures_unclaimAll claims _).bind_to fun _ =>
      ensures_release engine (.returnContext id) rfl (zero_add _).symm
  | some k =>
    -- the claims are no acts of their own here: between them, the context has outlived its key
    intro w hw
    have hpath : Path scope others ⟨w.issued, {.context id (some k)} + (spare key + .ofFrames frames)⟩
        ((claims.map fun c => .notice (.unclaimed c.key)) ++ [.release (.context id)])
        ⟨w.issued, .ofFrames frames⟩ := by
      rw [show (claims.map fun c => Event.notice (.unclaimed c.key)) =
        (claims.map (·.key)).map fun k => Event.notice (.unclaimed k) by rw [List.map_map]; rfl,
        hclaims]
      cases key with
      | none =>
        refine .cons (.surrender k none) (.single ?_)
        rw [spare_none, zero_add]
        exact .close
      | some k' => exact .cons (.surrender k _) (.cons (.unclaim_winding k') (.single .close))
    have hheld : ({.context id (some k)} + (spare key + .ofFrames frames) : Holdings).keys =
        ↑(claims.map (·.key)) + (Holdings.ofFrames frames).keys := by
      rw [hclaims]
      simp only [Holdings.keys_add, Holdings.keys_singleton, Holding.keys, Holdings.keys_spare,
        Holdings.keys_ofFrames, add_zero]
      rfl
    refine ⟨.ofFrames frames, ?_, hw.of_release hheld (Holdings.settled_ofFrames _) fun k => ?_, rfl⟩
    · simpa [unclaimAll_apply, release] using hpath
    · simp [unclaimAll_apply, release, mem_foldl_release]

end StreamDecode
