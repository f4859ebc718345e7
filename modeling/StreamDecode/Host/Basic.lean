import StreamDecode.Session.Decoding
import StreamDecode.Session.Opening

/-!
# Hosts

A host runs sessions side by side.  Every start of a session sets up a station, with an engine of
its own; the registry is shared by all.  A station outlasts its session, so that its engine can
still be looked at.  Besides, a host holds claims and packets of its own, by name.

`Host.runAt` runs an act at a station: in the world that is made of the host's registry and the
station's engine.
-/

namespace StreamDecode

/-- an engine in use, with the session on it while that lives -/
structure Station (σ κ : Type) where
  name : String
  engine : Engine σ κ
  state : σ
  issued : Issued
  session : Option (Session κ)

/-- an event, and the number of the station where it happened if it happened at one -/
structure Record where
  station : Option Nat
  event : Event

structure Host (σ κ : Type) where
  registry : Registry
  /-- in the order in which they were set up -/
  stations : List (Station σ κ)
  claims : List (String × Claim)
  packets : List (String × Packet)

variable {σ κ α : Type}

namespace Station

/-- the world in which an act runs at a station -/
def world (st : Station σ κ) (registry : Registry) : World σ := ⟨registry, st.state, st.issued⟩

/-- the station after an act -/
def settle (st : Station σ κ) (w : World σ) : Station σ κ :=
  { st with state := w.engine, issued := w.issued }

end Station

namespace Host

def empty : Host σ κ := ⟨.empty, [], [], []⟩

/-- the number of the station that was set up last under a name -/
def find? (h : Host σ κ) (name : String) : Option Nat :=
  (h.stations.zipIdx.filter (·.1.name == name)).getLast?.map (·.2)

/-- the station that was set up last under a name -/
def station? (h : Host σ κ) (name : String) : Option (Station σ κ) :=
  (h.find? name).bind fun i => h.stations[i]?

/-- the live session under a name -/
def session? (h : Host σ κ) (name : String) : Option (Session κ) :=
  (h.station? name).bind (·.session)

/-- runs an act at station `i`, which is `st`; `settle` puts the outcome into the station -/
def runAt (h : Host σ κ) (i : Nat) (st : Station σ κ) (act : Act σ α) :
    α × List Record × Host σ κ :=
  let step := act (st.world h.registry)
  (step.value, step.events.map (⟨some i, ·⟩),
    { h with registry := step.world.registry,
             stations := h.stations.set i (st.settle step.world) })

/-- runs an act on the registry alone -/
def runFree (h : Host σ κ) (act : Act Unit α) : α × List Record × Host σ κ :=
  let step := act ⟨h.registry, (), .none⟩
  (step.value, step.events.map (⟨none, ·⟩), { h with registry := step.world.registry })

/-- changes the station at `i` -/
def modify (h : Host σ κ) (i : Nat) (f : Station σ κ → Station σ κ) : Host σ κ :=
  { h with stations := h.stations.modify i f }

/-- puts a session, or none, at station `i` -/
def seat (h : Host σ κ) (i : Nat) (session : Option (Session κ)) : Host σ κ :=
  h.modify i fun st => { st with session }

end Host

end StreamDecode
