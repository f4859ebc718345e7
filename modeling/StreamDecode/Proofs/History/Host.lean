import StreamDecode.Host.Request
import StreamDecode.Proofs.Custody.Session
import StreamDecode.Proofs.History.Ledger

/-!
# Histories of hosts

Each request, and the end of a host, moves the ledger of the host along its records, also where it
faults.

* `Host.Sound`   the registry has the keys that are held, each once;
* `Host.Sound.attempt`, `Host.Sound.run`, `Host.Sound.close`   a host that is sound stays sound, and
                 leaves a history;
* `Request.Admits`   it answers, but for the start of a session whose ring there can be no room for.
-/

namespace StreamDecode

variable {σ κ α : Type}

open Act

/-! ## the ledger of a host -/

namespace Station

def holdings (st : Station σ κ) : Holdings :=
  match st.session with
  | some s => s.holdings st.engine.scope
  | none => 0

end Station

namespace Host

def custody (h : Host σ κ) : Ledger
  | none => ⟨.none, ↑(h.claims.map fun c => Holding.key c.2.key)⟩
  | some i =>
    match h.stations[i]? with
    | some st => ⟨st.issued, st.holdings⟩
    | none => ⟨.none, 0⟩

structure Sound (h : Host σ κ) : Prop where
  registry : ∀ k, k ∈ h.registry ↔ ∃ o, k ∈ (h.custody o).held.keys
  exclusive : h.custody.Exclusive
  sessions : ∀ (i : Nat) (st : Station σ κ) (s : Session κ), h.stations[i]? = some st →
    st.session = some s → s.Sound st.engine.scope

/-- `scope` names the scopes of the stations -/
def Scoped (h : Host σ κ) (scope : Option Nat → String) : Prop :=
  ∀ (i : Nat) (st : Station σ κ), h.stations[i]? = some st → scope (some i) = st.engine.scope

def scope (h : Host σ κ) : Option Nat → String
  | some i =>
    match h.stations[i]? with
    | some st => st.engine.scope
    | none => ""
  | none => ""

/-- the records lead from a host to one that is sound -/
structure Passes (h : Host σ κ) (records : List Record) (h' : Host σ κ) : Prop where
  sound : h'.Sound
  scopes : ∀ scope, h'.Scoped scope → h.Scoped scope
  history : ∀ scope, h'.Scoped scope → History scope h.custody records h'.custody

end Host

theorem Session.settled_holdings (s : Session κ) (scope : String) :
    (s.holdings scope).Settled := by
  have hdevice : (deviceHoldings s.device scope).Settled := by
    cases s.device <;> simp [deviceHoldings, Holdings.Settled]
  have hpath : s.path.holdings.Settled := by
    cases s.path <;> simp [TransferPath.holdings, Holdings.Settled]
  simp only [Session.holdings, Holdings.settled_add]
  exact ⟨by simp [Holdings.Settled], hdevice, hpath, Holdings.settled_ofFrames _⟩

/-- the request can come to that: to an answer, or to a fault if it starts a session whose ring there
can be no room for -/
def Request.Admits (request : Request σ κ) (response : Except Fault Response) : Prop :=
  (∃ answer, response = .ok answer) ∨
    ∃ name engine state config, request = .start name engine state config ∧
      Ring.Overflows engine.frameSize config.bufferCount.toNat ∧
      response = .error .capacityOverflow

namespace Host

variable {h h' h'' : Host σ κ} {i : Nat} {st : Station σ κ}

theorem custody_some (hst : h.stations[i]? = some st) :
    h.custody (some i) = ⟨st.issued, st.holdings⟩ := by
  simp [custody, hst]

theorem settled_custody (h : Host σ κ) : h.custody.Settled := by
  intro o
  cases o with
  | none => simp [custody, Holdings.Settled]
  | some i =>
    rw [custody]
    split
    · next st _ =>
      simp only [Station.holdings]
      split
      · exact Session.settled_holdings _ _
      · exact Holdings.settled_zero
    · exact Holdings.settled_zero

theorem Sound.fits (hs : h.Sound) (o : Option Nat) {τ : Type} (state : τ) (issued : Issued) :
    Fits (h.custody.others o) (h.custody o).held ⟨h.registry, state, issued⟩ where
  registry k := by
    rw [hs.registry]
    exact Ledger.exists_mem_keys o
  exclusive := hs.exclusive o
  settled := h.settled_custody o

namespace Passes

theorem refl (hs : h.Sound) : h.Passes [] h := ⟨hs, fun _ => id, fun _ _ => .nil _⟩

theorem trans {s t : List Record} (hh : h.Passes s h') (hh' : h'.Passes t h'') :
    h.Passes (s ++ t) h'' where
  sound := hh'.sound
  scopes scope hscope := hh.scopes scope (hh'.scopes scope hscope)
  history scope hscope := (hh.history scope (hh'.scopes scope hscope)).append
    (hh'.history scope hscope)

theorem still (hs : h.Sound) (hreg : h'.registry = h.registry) (hcustody : h'.custody = h.custody)
    (hsessions : ∀ (i : Nat) (st : Station σ κ) (s : Session κ), h'.stations[i]? = some st →
      st.session = some s → s.Sound st.engine.scope)
    (hscoped : ∀ scope, h'.Scoped scope → h.Scoped scope) : h.Passes [] h' where
  sound := ⟨fun k => by rw [hreg, hcustody, hs.registry], hcustody ▸ hs.exclusive, hsessions⟩
  scopes := hscoped
  history scope _ := by
    rw [hcustody]
    exact .nil _

/-- a path of custody at one place leads from host to host -/
theorem of_path (hs : h.Sound) {τ : Type} {o : Option Nat} {events : Trace} {c : Custody}
    {w : World τ} (hpath : ∀ scope, h'.Scoped scope →
      Path (scope o) (h.custody.others o) (h.custody o) events c)
    (hfits : Fits (h.custody.others o) c.held w) (hreg : h'.registry = w.registry)
    (hcustody : h'.custody = Function.update h.custody o c)
    (hsessions : ∀ (i : Nat) (st : Station σ κ) (s : Session κ), h'.stations[i]? = some st →
      st.session = some s → s.Sound st.engine.scope)
    (hscoped : ∀ scope, h'.Scoped scope → h.Scoped scope) :
    h.Passes (events.map (⟨o, ·⟩)) h' where
  sound := by
    refine ⟨fun k => ?_, ?_, hsessions⟩
    · rw [hreg, hfits.registry, Ledger.exists_mem_keys o, hcustody, Ledger.others_update_self,
        Function.update_self]
    · rw [hcustody]
      exact hs.exclusive.update hfits.exclusive
  scopes := hscoped
  history scope hscope := by
    rw [hcustody]
    exact (hpath scope hscope).history rfl rfl fun p _ => h.settled_custody p

end Passes

/-- an act at a station, after which the station has a session that holds what is held then -/
theorem Sound.acts (hs : h.Sound) (hst : h.stations[i]? = some st) (act : Act σ α)
    {post : α → Holdings → Prop}
    (hact : ∀ others, Ensures st.engine.scope others act st.holdings post) :
    ∃ held', post (act (st.world h.registry)).value held' ∧ ∀ session : Option (Session κ),
      held' = Station.holdings { st with session } →
      (∀ s, session = some s → s.Sound st.engine.scope) →
      h.Passes ((act (st.world h.registry)).events.map (⟨some i, ·⟩))
        { h with registry := (act (st.world h.registry)).world.registry,
                 stations := h.stations.set i
                   { st.settle (act (st.world h.registry)).world with session } } := by
  have hlt : i < h.stations.length := (List.getElem?_eq_some_iff.1 hst).1
  have hcustody := custody_some hst
  have hw := hs.fits (some i) st.state st.issued
  rw [hcustody] at hw
  obtain ⟨held', hpath, hfits, hpost⟩ := hact _ _ hw
  refine ⟨held', hpost, fun session hheld hsession => ?_⟩
  refine .of_path (c := ⟨(act (st.world h.registry)).world.issued, held'⟩) hs (fun scope hscope => ?_)
    hfits rfl ?_ (fun j st' s hst' hs' => ?_) (fun scope hscope j st' hst' => ?_)
  · rw [hcustody, hscope i _ (List.getElem?_set_self hlt)]
    exact hpath
  · funext o
    cases o with
    | none => rfl
    | some j =>
      by_cases hj : j = i
      · subst hj
        rw [Function.update_self, custody_some (List.getElem?_set_self hlt), hheld]
        rfl
      · have hne : some j ≠ some i := fun h => hj (Option.some.inj h)
        rw [Function.update_of_ne hne, custody, custody, List.getElem?_set_ne (Ne.symm hj)]
  · by_cases hj : j = i
    · subst hj
      rw [List.getElem?_set_self hlt] at hst'
      cases hst'
      exact hsession s hs'
    · rw [List.getElem?_set_ne (Ne.symm hj)] at hst'
      exact hs.sessions j st' s hst' hs'
  · by_cases hj : j = i
    · subst hj
      rw [hst] at hst'
      cases hst'
      exact (hscope j _ (List.getElem?_set_self hlt)).trans rfl
    · exact hscope j st' (by rwa [List.getElem?_set_ne (Ne.symm hj)])

theorem Sound.actsFree (hs : h.Sound) {act : Act Unit α} {held' : α → Holdings}
    {post : α → Prop} (hact : ∀ scope others, Ensures scope others act (h.custody none).held
      fun a held => post a ∧ held = held' a) :
    post (act ⟨h.registry, (), .none⟩).value ∧ ∀ claims : List (String × Claim),
      ↑(claims.map fun c => Holding.key c.2.key) = held' (act ⟨h.registry, (), .none⟩).value →
      (act ⟨h.registry, (), .none⟩).world.issued = .none →
      h.Passes ((act ⟨h.registry, (), .none⟩).events.map (⟨none, ·⟩))
        { h with registry := (act ⟨h.registry, (), .none⟩).world.registry, claims } := by
  have hw := hs.fits none () .none
  obtain ⟨held, -, hfits, hpost, rfl⟩ := hact "" _ _ hw
  refine ⟨hpost, fun claims hclaims hissued => ?_⟩
  refine .of_path (c := ⟨.none, held' (act ⟨h.registry, (), .none⟩).value⟩) hs (fun scope _ => ?_)
    hfits rfl ?_ hs.sessions fun _ => id
  · obtain ⟨_, hpath, -, -, rfl⟩ := hact (scope none) _ _ hw
    rwa [hissued] at hpath
  · funext o
    cases o with
    | none => rw [Function.update_self, custody, hclaims]
    | some i => rfl

/-! ## requests -/

/-- the attempt is answered, and leads to a host that is sound -/
structure Answers (h : Host σ κ) (a : Attempt σ κ) : Prop where
  answered : ∃ answer, a.response = .ok answer
  passes : h.Passes a.records a.host

/-- a station that is set up is vacant -/
theorem Sound.enlist (hs : h.Sound) (hissued : st.issued = .none) (hsession : st.session = none) :
    h.Passes [] { h with stations := h.stations ++ [st] } := by
  have hold : ∀ (i : Nat) (st' : Station σ κ), h.stations[i]? = some st' →
      (h.stations ++ [st])[i]? = some st' := fun i st' hst' => by
    rw [List.getElem?_append_left (List.getElem?_eq_some_iff.1 hst').1, hst']
  have hnew : ∀ (i : Nat) (st' : Station σ κ), (h.stations ++ [st])[i]? = some st' →
      h.stations[i]? = none → st' = st := fun i st' hst' hnone => by
    rw [List.getElem?_append_right (List.getElem?_eq_none_iff.1 hnone), List.getElem?_singleton]
      at hst'
    split at hst' <;> cases hst'
    rfl
  refine .still hs rfl ?_ (fun i st' s hst' hs' => ?_) fun scope hscope i st' hst' =>
    hscope i st' (hold i st' hst')
  · funext o
    cases o with
    | none => rfl
    | some i =>
      cases hi : h.stations[i]? with
      | some st' => rw [custody_some hi, custody_some (hold i st' hi)]
      | none =>
        rw [custody, custody, hi]
        split
        · next st' hst' =>
          cases hnew i st' hst' hi
          rw [hissued, Station.holdings, hsession]
        · rfl
  · cases hi : h.stations[i]? with
    | some st'' =>
      cases (hold i st'' hi).symm.trans hst'
      exact hs.sessions i st' s hi hs'
    | none =>
      cases hnew i st' hst' hi
      rw [hsession] at hs'
      cases hs'

theorem set_modify {β : Type} (list : List β) (i : Nat) (b : β) (f : β → β) :
    (list.set i b).modify i f = list.set i (f b) := by
  apply List.ext_getElem?
  intro j
  rw [List.getElem?_modify, List.getElem?_set, List.getElem?_set]
  split
  · split <;> rfl
  · rw [id_map']

theorem Sound.start (hs : h.Sound) (name : String) (engine : Engine σ κ) (state : σ)
    (config : SessionConfig) :
    (Request.start name engine state config).Admits (h.start name engine state config).response ∧
      h.Passes (h.start name engine state config).records
        (h.start name engine state config).host := by
  let st : Station σ κ := ⟨name, engine, state, .none, none⟩
  have henlist : h.Passes [] { h with stations := h.stations ++ [st] } := hs.enlist rfl rfl
  have hst : (h.stations ++ [st])[h.stations.length]? = some st := List.getElem?_concat_length
  obtain ⟨held', hpost, hpass⟩ := henlist.sound.acts hst (Session.start engine config) fun _ =>
    Session.ensures_start engine config
  have hvacant : held' = 0 → h.Passes _ _ := fun hheld =>
    henlist.trans (hpass none hheld (by rintro s ⟨⟩))
  simp only [Host.start, runAt]
  rcases hresult : (Session.start engine config (st.world h.registry)).value with
    fault | cause | session
  all_goals
    rw [show (Session.start engine config (st.world h.registry)).value = _ from hresult] at hpost
  · obtain ⟨hheld, hoverflows, rfl⟩ := hpost
    exact ⟨.inr ⟨_, _, _, _, rfl, hoverflows, rfl⟩, hvacant hheld⟩
  · exact ⟨.inl ⟨_, rfl⟩, hvacant hpost⟩
  · obtain ⟨hheld, hsession, -⟩ := hpost
    refine ⟨.inl ⟨_, rfl⟩, henlist.trans ?_⟩
    have h := hpass (some session) hheld (by rintro s ⟨⟩; exact hsession)
    simp only [seat, modify, set_modify]
    exact h

/-- a request to a session is answered if the live sessions answer it -/
theorem Sound.withSession (hs : h.Sound) (name : String)
    {respond : Nat → Station σ κ → Session κ → Attempt σ κ}
    (hrespond : ∀ i st session, h.stations[i]? = some st → st.session = some session →
      session.Sound st.engine.scope → h.Answers (respond i st session)) :
    h.Answers (h.withSession name respond) := by
  have hnone : h.Answers ⟨.ok .noSession, [], h⟩ := ⟨⟨_, rfl⟩, .refl hs⟩
  unfold Host.withSession
  split
  · exact hnone
  · next i _ =>
    split
    · exact hnone
    · next st hst =>
      split
      · exact hnone
      · next session hsession =>
        exact hrespond i st session hst hsession (hs.sessions i st session hst hsession)

theorem holdings_of_session {s : Session κ} (hsession : st.session = some s) :
    st.holdings = s.holdings st.engine.scope := by
  rw [Station.holdings, hsession]

/-- a call that a session answers with what it held before -/
theorem Sound.call (hs : h.Sound) (name : String) {act : Engine σ κ → Session κ → Act σ (Outcome κ α)}
    (hact : ∀ engine s, s.Sound engine.scope → (act engine s).Idles s.Answers)
    (respond : α → Response) :
    h.Answers (h.call name act respond) := by
  refine hs.withSession name fun i st session hst hsession hsound => ?_
  obtain ⟨held', ⟨⟨answer, s', hvalue, hs'⟩, rfl⟩, hpass⟩ :=
    hs.acts hst _ fun _ => (hact st.engine session hsound).keeps
  have hpass := hpass (some s')
    (by rw [holdings_of_session hsession, holdings_of_session rfl, hs'.holdings])
    (by rintro s ⟨⟩; exact hs'.sound hsound)
  simp only [runAt, hvalue]
  cases answer <;> exact ⟨⟨_, rfl⟩, by simpa only [seat, modify, set_modify] using hpass⟩

theorem Sound.finish (hs : h.Sound) (name : String) (announced : Bool) :
    h.Answers (h.finish name announced) := by
  refine hs.withSession name fun i st session hst hsession hsound => ?_
  have hact : ∀ others, Ensures st.engine.scope others
      (if announced then session.destroy st.engine else session.dispose st.engine) st.holdings
      fun _ held' => held' = 0 := fun others => by
    rw [holdings_of_session hsession]
    split
    · exact Session.ensures_destroy st.engine hsound
    · exact Session.ensures_dispose st.engine hsound
  obtain ⟨held', rfl, hpass⟩ := hs.acts hst _ hact
  refine ⟨⟨_, rfl⟩, ?_⟩
  simpa only [runAt, seat, modify, set_modify] using hpass none rfl (by rintro s ⟨⟩)

def asked (key : String) (held : Holdings) : Except SessionError Claim → Holdings
  | .ok _ => {.key key} + held
  | .error _ => held

theorem Sound.claim (hs : h.Sound) (name key : String) :
    h.Answers (h.attempt (.claim name key)) := by
  have hact : ∀ scope others, Ensures scope others
      (Act.claim key : Act Unit (Except SessionError Claim)) (h.custody none).held
      fun r held => (∀ c, r = .ok c → c = ⟨key⟩) ∧ held = asked key (h.custody none).held r :=
      fun scope others => by
    refine (ensures_claim key).mono fun r held hr => ?_
    cases r with
    | ok c =>
      obtain ⟨rfl, hheld⟩ := hr
      exact ⟨by rintro c ⟨⟩; rfl, hheld⟩
    | error cause => exact ⟨by rintro c ⟨⟩, hr⟩
  obtain ⟨hkey, hpass⟩ := hs.actsFree hact
  have hissued : (Act.claim key (⟨h.registry, (), .none⟩ : World Unit)).world.issued = .none := by
    unfold Act.claim
    split <;> rfl
  simp only [Host.attempt, runFree]
  cases hvalue : (Act.claim key (⟨h.registry, (), .none⟩ : World Unit)).value with
  | error cause =>
    rw [hvalue] at hpass
    exact ⟨⟨_, rfl⟩, hpass h.claims rfl hissued⟩
  | ok c =>
    cases hkey c hvalue
    rw [hvalue] at hpass
    refine ⟨⟨_, rfl⟩, hpass (h.claims ++ [(name, ⟨key⟩)]) ?_ hissued⟩
    rw [List.map_append, ← Multiset.coe_add, add_comm]
    rfl

theorem Sound.unclaim (hs : h.Sound) (name : String) :
    h.Answers (h.attempt (.unclaim name)) := by
  simp only [Host.attempt]
  cases hlookup : h.claims.lookup name with
  | none => exact ⟨⟨_, rfl⟩, .refl hs⟩
  | some c =>
    obtain ⟨before, after, hclaims, hbefore⟩ := List.lookup_eq_some_iff.1 hlookup
    have herase : h.claims.eraseP (·.1 == name) = before ++ after := by
      have hskip : ∀ p ∈ before, ¬(p.1 == name) = true := fun p hp heq =>
        bne_iff_ne.1 (hbefore p hp) (beq_iff_eq.1 heq).symm
      rw [hclaims, List.eraseP_append_right _ hskip, List.eraseP_cons_of_pos (by simp)]
    have hheld : (h.custody none).held = {.key c.key} +
        ↑((h.claims.eraseP (·.1 == name)).map fun c => Holding.key c.2.key) := by
      rw [custody, herase, hclaims]
      simp [← Multiset.coe_add, ← Multiset.cons_coe]
    have hact : ∀ scope others, Ensures scope others (Act.unclaim c : Act Unit Unit)
        (h.custody none).held fun _ held => True ∧
          held = ↑((h.claims.eraseP (·.1 == name)).map fun c => Holding.key c.2.key) :=
      fun scope others => by
        rw [hheld]
        exact (ensures_unclaim c _).mono fun _ _ h => ⟨trivial, h⟩
    obtain ⟨-, hpass⟩ := hs.actsFree hact
    exact ⟨⟨_, rfl⟩, hpass _ rfl rfl⟩

theorem Sound.adjust (hs : h.Sound) (name : String) (change : σ → σ) :
    h.Answers (h.attempt (.adjust name change)) := by
  simp only [Host.attempt]
  cases h.find? name with
  | none => exact ⟨⟨_, rfl⟩, .refl hs⟩
  | some i =>
    refine ⟨⟨_, rfl⟩, ?_⟩
    show h.Passes [] (h.modify i fun st => { st with state := change st.state })
    refine .still hs rfl ?_ (fun j st s hst hs' => ?_) fun scope hscope j st hst => ?_
    · funext o
      cases o with
      | none => rfl
      | some j =>
        rw [custody, custody, modify, List.getElem?_modify]
        cases h.stations[j]? with
        | none => rfl
        | some st => by_cases hi : i = j <;> simp [hi, Station.holdings]
    · rw [modify, List.getElem?_modify] at hst
      obtain ⟨st', hst', rfl⟩ := Option.map_eq_some_iff.1 hst
      by_cases hi : i = j
      · rw [if_pos hi] at hs' ⊢
        exact hs.sessions j st' s hst' hs'
      · rw [if_neg hi] at hs' ⊢
        exact hs.sessions j st' s hst' hs'
    · have hst' := hscope j _ (by rw [modify, List.getElem?_modify, hst]; rfl)
      split at hst' <;> exact hst'

theorem Answers.admits {a : Attempt σ κ} (ha : h.Answers a) (request : Request σ κ) :
    request.Admits a.response ∧ h.Passes a.records a.host := ⟨.inl ha.answered, ha.passes⟩

/-- whatever is requested of a host that is sound, it comes to what it can come to, and leaves a host
that is sound -/
theorem Sound.attempt (hs : h.Sound) (request : Request σ κ) :
    request.Admits (h.attempt request).response ∧
      h.Passes (h.attempt request).records (h.attempt request).host := by
  cases request with
  | start name engine state config => exact hs.start name engine state config
  | describe name =>
    exact (hs.withSession name fun i st session _ _ _ => ⟨⟨_, rfl⟩, .refl hs⟩).admits _
  | decode name buf len =>
    exact (hs.call name (fun engine s _ => Session.idles_decode engine s buf len)
      fun () => .accepted).admits _
  | decodePacket name packet =>
    exact (hs.call name (fun engine s _ => Session.idles_decodePacket engine s _)
      fun () => .accepted).admits _
  | nextFrame name hostVisible =>
    exact (hs.call name (fun engine s hsound =>
      Session.idles_nextFrame engine hsound.cursor hostVisible) .frame).admits _
  | reset name =>
    exact (hs.call name (fun engine s _ => (Session.idles_reset engine s).bind
      fun _ hs' => .pure ⟨.ok (), _, rfl, hs'⟩) fun () => .done).admits _
  | finish name announced => exact (hs.finish name announced).admits _
  | gather packet padding fresh bytes =>
    exact ⟨.inl ⟨_, rfl⟩, .still hs rfl rfl hs.sessions fun _ => id⟩
  | claim name key => exact (hs.claim name key).admits _
  | unclaim name => exact (hs.unclaim name).admits _
  | isClaimed key => exact ⟨.inl ⟨_, rfl⟩, .refl hs⟩
  | adjust name change => exact (hs.adjust name change).admits _

theorem Sound.run (hs : h.Sound) (requests : List (Request σ κ)) :
    List.Forall₂ Request.Admits requests ((h.run requests).1.map (·.1)) ∧
      h.Passes ((h.run requests).1.flatMap (·.2)) (h.run requests).2 := by
  induction requests generalizing h with
  | nil => exact ⟨.nil, .refl hs⟩
  | cons request rest ih =>
    obtain ⟨hadmits, hpass⟩ := hs.attempt request
    obtain ⟨hadmits', hpass'⟩ := ih hpass.sound
    exact ⟨.cons hadmits hadmits', hpass.trans hpass'⟩

/-! ## the end of a host -/

theorem Sound.vacate (hs : h.Sound) (i : Nat) : h.Passes (h.vacate i).1 (h.vacate i).2 := by
  unfold Host.vacate
  split
  · exact .refl hs
  · next st hst =>
    split
    · exact .refl hs
    · next session hsession =>
      have hsound := hs.sessions i st session hst hsession
      obtain ⟨held', rfl, hpass⟩ := hs.acts hst _ fun others => by
        rw [holdings_of_session hsession]
        exact Session.ensures_dispose st.engine hsound
      simpa only [runAt, seat, modify, set_modify] using hpass none rfl (by rintro s ⟨⟩)

theorem Sound.vacateAll (hs : h.Sound) (list : List Nat) :
    h.Passes (h.vacateAll list).1 (h.vacateAll list).2 := by
  induction list generalizing h with
  | nil => exact .refl hs
  | cons i rest ih => exact (hs.vacate i).trans (ih (hs.vacate i).sound)

theorem Sound.close (hs : h.Sound) : h.Passes h.close.1 h.close.2 := by
  have hpass := hs.vacateAll (List.range h.stations.length)
  let claims := (h.vacateAll (List.range h.stations.length)).2.claims
  have hact : ∀ scope others, Ensures scope others (Act.unclaimAll (claims.map (·.2)) : Act Unit Unit)
      ((h.vacateAll (List.range h.stations.length)).2.custody none).held
      fun _ held => True ∧ held = 0 := fun scope others => by
    have hheld : ((h.vacateAll (List.range h.stations.length)).2.custody none).held =
        ↑((claims.map (·.2)).map fun c => Holding.key c.key) + 0 := by
      rw [List.map_map, add_zero]
      rfl
    rw [hheld]
    exact (ensures_unclaimAll _ 0).mono fun _ _ h => ⟨trivial, h⟩
  obtain ⟨-, hfree⟩ := hpass.sound.actsFree hact
  exact hpass.trans (hfree [] rfl (by rw [unclaimAll_apply]))

theorem scoped_scope (h : Host σ κ) : h.Scoped h.scope := by
  intro i st hst
  simp only [scope, hst]

theorem scoped_vacate {scope : Option Nat → String} (hscope : h.Scoped scope) (i : Nat) :
    (h.vacate i).2.Scoped scope := by
  unfold Host.vacate
  split
  · exact hscope
  · next st hst =>
    split
    · exact hscope
    · intro j st' hst'
      simp only [runAt, seat, modify, set_modify] at hst'
      by_cases hj : j = i
      · subst hj
        rw [List.getElem?_set_self (List.getElem?_eq_some_iff.1 hst).1] at hst'
        cases hst'
        exact hscope j st hst
      · rw [List.getElem?_set_ne (Ne.symm hj)] at hst'
        exact hscope j st' hst'

theorem scoped_vacateAll {scope : Option Nat → String} (hscope : h.Scoped scope)
    (list : List Nat) : (h.vacateAll list).2.Scoped scope := by
  induction list generalizing h with
  | nil => exact hscope
  | cons i rest ih => exact ih (scoped_vacate hscope i)

theorem sound_empty : (empty : Host σ κ).Sound where
  registry k := by
    constructor
    · rintro ⟨⟩
    · rintro ⟨o, hk⟩
      cases o <;> cases hk
  exclusive o := by
    cases o <;> exact ⟨Multiset.nodup_zero, by rintro k ⟨⟩⟩
  sessions i st s hst := by
    simp [empty] at hst

theorem custody_empty : (empty : Host σ κ).custody = .empty := by
  funext o
  cases o <;> rfl

/-- requests to a new host come to what they can come to; they and the end of the host leave a
history -/
theorem history (requests : List (Request σ κ)) :
    ∃ replies host, empty.run requests = (replies, host) ∧
      List.Forall₂ Request.Admits requests (replies.map (·.1)) ∧ host.Sound ∧
      History host.scope .empty (replies.flatMap (·.2)) host.custody ∧
      ∃ l : Ledger, l.Settled ∧
        History host.scope .empty (replies.flatMap (·.2) ++ host.close.1) l := by
  obtain ⟨hadmits, hpass⟩ := sound_empty.run requests
  rcases hrun : empty.run requests with ⟨replies, host⟩
  rw [hrun] at hadmits hpass
  have hclose := hpass.sound.close
  have hscoped := scoped_scope host
  have hhistory := hpass.history host.scope hscoped
  rw [custody_empty] at hhistory
  exact ⟨replies, host, rfl, hadmits, hpass.sound, hhistory, host.close.2.custody,
    settled_custody _, hhistory.append (hclose.history host.scope (scoped_vacateAll hscoped _))⟩

end Host

end StreamDecode
