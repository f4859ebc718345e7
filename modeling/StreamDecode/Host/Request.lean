import StreamDecode.Host.Basic

/-!
# Requests to a host

What a host can be asked, and its answer with the records that the request leaves.  Sessions, claims
and packets are asked for by name.  A request for a session that is not there is answered with
`noSession` and changes nothing.

A request that faults has no answer, but it leaves records as others do.  It does not end the host:
other requests may follow, on the sessions that are there.

`Host.close` is the end of a host: the sessions that are left end in the order of their start, then
the claims that are left are given back in the order in which they were taken.
-/

namespace StreamDecode

inductive Request (σ κ : Type) where
  /-- starts a session on a new engine -/
  | start (name : String) (engine : Engine σ κ) (state : σ) (config : SessionConfig)
  | describe (name : String)
  | decode (name : String) (buf : Bytes) (len : UInt64)
  | decodePacket (name packet : String)
  | nextFrame (name : String) (hostVisible : Bool)
  | reset (name : String)
  /-- ends a session, and says so if `announced` -/
  | finish (name : String) (announced : Bool)
  /-- appends to a packet, which is cleared first if `fresh`; a new packet has that padding -/
  | gather (packet : String) (padding : Nat) (fresh : Bool) (bytes : Bytes)
  | claim (name key : String)
  | unclaim (name : String)
  | isClaimed (key : String)
  /-- changes the engine of a station from outside -/
  | adjust (name : String) (change : σ → σ)

/-- what a session says about itself -/
structure SessionInfo where
  decoder : String
  backend : BackendKind
  codec : Codec
  preference : Preference
  deviceKind : Option DeviceKind
  surfaceFormat : Option PixelFormat
  capacity : Nat
  scope : String
  deriving DecidableEq

inductive Response where
  | noSession
  | refused (cause : SessionError)
  | done
  /-- a packet was accepted -/
  | accepted
  | info (info : SessionInfo)
  | frame (frame : Option OutputFrame)
  | claimed (claim : Claim)
  | truth (value : Bool)
  | size (n : Nat)

/-- the answer, the records and the host after a request -/
structure Reply (ρ σ κ : Type) where
  response : ρ
  records : List Record
  host : Host σ κ

/-- what becomes of a request, with or without an answer -/
abbrev Attempt (σ κ : Type) := Reply (Except Fault Response) σ κ

variable {σ κ α : Type}

def Session.info (s : Session κ) (scope : String) : SessionInfo where
  decoder := s.decoder
  backend := s.backend
  codec := s.codec
  preference := s.preference
  deviceKind := s.deviceKind
  surfaceFormat := s.surfaceFormat
  capacity := s.ring.capacity
  scope := scope

namespace Host

/-- the entry under a name is changed, or set to the change of `initial` if there is none -/
def upsert {β : Type} (name : String) (initial : β) (change : β → β) :
    List (String × β) → List (String × β)
  | [] => [(name, change initial)]
  | (n, b) :: rest =>
    if n = name then (n, change b) :: rest else (n, b) :: upsert name initial change rest

/-- sets up a station, and starts a session there -/
def start (h : Host σ κ) (name : String) (engine : Engine σ κ) (state : σ)
    (config : SessionConfig) : Attempt σ κ :=
  let i := h.stations.length
  let st : Station σ κ := ⟨name, engine, state, .none, none⟩
  let (result, records, h) :=
    { h with stations := h.stations ++ [st] }.runAt i st (Session.start engine config)
  match result with
  | .error fault => ⟨.error fault, records, h⟩
  | .ok (.error cause) => ⟨.ok (.refused cause), records, h⟩
  | .ok (.ok session) => ⟨.ok (.info (session.info engine.scope)), records, h.seat i (some session)⟩

/-- answers with `respond` for the live session under a name, if there is one -/
def withSession (h : Host σ κ) (name : String)
    (respond : Nat → Station σ κ → Session κ → Attempt σ κ) : Attempt σ κ :=
  match h.find? name with
  | none => ⟨.ok .noSession, [], h⟩
  | some i =>
    match h.stations[i]? with
    | none => ⟨.ok .noSession, [], h⟩
    | some st =>
      match st.session with
      | none => ⟨.ok .noSession, [], h⟩
      | some session => respond i st session

/-- runs a call on the session under a name, and keeps the session after it; if the call faults, the
session is kept as it was before -/
def call (h : Host σ κ) (name : String)
    (act : Engine σ κ → Session κ → Act σ (Outcome κ α)) (respond : α → Response) :
    Attempt σ κ :=
  h.withSession name fun i st session =>
    let (result, records, h) := h.runAt i st (act st.engine session)
    match result with
    | .error fault => ⟨.error fault, records, h⟩
    | .ok (.error cause, session) => ⟨.ok (.refused cause), records, h.seat i (some session)⟩
    | .ok (.ok a, session) => ⟨.ok (respond a), records, h.seat i (some session)⟩

/-- ends the session under a name -/
def finish (h : Host σ κ) (name : String) (announced : Bool) : Attempt σ κ :=
  h.withSession name fun i st session =>
    let act := if announced then session.destroy st.engine else session.dispose st.engine
    let ((), records, h) := h.runAt i st act
    ⟨.ok .done, records, h.seat i none⟩

/-- the packet under a name -/
def packet? (h : Host σ κ) (name : String) : Option Packet := h.packets.lookup name

/-- makes a request -/
def attempt (h : Host σ κ) : Request σ κ → Attempt σ κ
  | .start name engine state config => h.start name engine state config
  | .describe name =>
    h.withSession name fun _ st session => ⟨.ok (.info (session.info st.engine.scope)), [], h⟩
  | .decode name buf len =>
    h.call name (fun engine session => session.decode engine buf len) fun () => .accepted
  | .decodePacket name packet =>
    let packet := (h.packet? packet).getD (.empty Packet.defaultPadding)
    h.call name (fun engine session => session.decodePacket engine packet) fun () => .accepted
  | .nextFrame name hostVisible =>
    h.call name (fun engine session => session.nextFrame engine hostVisible) .frame
  | .reset name =>
    let act (engine : Engine σ κ) (session : Session κ) : Act σ (Outcome κ Unit) := do
      let session ← session.reset engine
      return .ok (.ok (), session)
    h.call name act fun () => .done
  | .finish name announced => h.finish name announced
  | .gather name padding fresh bytes =>
    let change (p : Packet) := (if fresh then p.clear else p).append bytes
    let h := { h with packets := upsert name (.empty padding) change h.packets }
    ⟨.ok (.size (((h.packet? name).map (·.len)).getD 0)), [], h⟩
  | .claim name key =>
    let (result, records, h) := h.runFree (Act.claim key)
    match result with
    | .error cause => ⟨.ok (.refused cause), records, h⟩
    | .ok claim => ⟨.ok (.claimed claim), records, { h with claims := h.claims ++ [(name, claim)] }⟩
  | .unclaim name =>
    match h.claims.lookup name with
    | none => ⟨.ok (.truth false), [], h⟩
    | some claim =>
      let ((), records, h) := h.runFree (Act.unclaim claim)
      ⟨.ok (.truth true), records, { h with claims := h.claims.eraseP (·.1 == name) }⟩
  | .isClaimed key => ⟨.ok (.truth (decide (key ∈ h.registry))), [], h⟩
  | .adjust name change =>
    match h.find? name with
    | none => ⟨.ok .done, [], h⟩
    | some i => ⟨.ok .done, [], h.modify i fun st => { st with state := change st.state }⟩

/-- answers a request, unless it faults -/
def perform (h : Host σ κ) (request : Request σ κ) : Except Fault (Reply Response σ κ) :=
  let a := h.attempt request
  a.response.map fun response => ⟨response, a.records, a.host⟩

/-- ends the session at station `i`, if there is one -/
def vacate (h : Host σ κ) (i : Nat) : List Record × Host σ κ :=
  match h.stations[i]? with
  | none => ([], h)
  | some st =>
    match st.session with
    | none => ([], h)
    | some session =>
      let ((), records, h) := h.runAt i st (session.dispose st.engine)
      (records, h.seat i none)

/-- ends the sessions at the stations of a list, in order -/
def vacateAll (h : Host σ κ) : List Nat → List Record × Host σ κ
  | [] => ([], h)
  | i :: rest =>
    let (records, h) := h.vacate i
    let (more, h) := h.vacateAll rest
    (records ++ more, h)

/-- ends the sessions that are left, then gives back the claims that are left -/
def close (h : Host σ κ) : List Record × Host σ κ :=
  let (records, h) := h.vacateAll (List.range h.stations.length)
  let ((), more, h) := h.runFree (Act.unclaimAll (h.claims.map (·.2)))
  (records ++ more, { h with claims := [] })

/-- makes requests one after the other -/
def run (h : Host σ κ) :
    List (Request σ κ) → List (Except Fault Response × List Record) × Host σ κ
  | [] => ([], h)
  | request :: rest =>
    let a := h.attempt request
    let (replies, h) := a.host.run rest
    ((a.response, a.records) :: replies, h)

end Host

end StreamDecode
