import StreamDecode.Engine.Basic

/-!
# Engines side by side

Two kinds of engine over one type of state, so that a host can run sessions on both.  Each engine
sees its own side of a pair and leaves the other alone.
-/

namespace StreamDecode

namespace Engine

variable {σ κ τ μ : Type}

/-- the engine on the left side of a pair; `idle` is the other side of a new context -/
def onLeft (e : Engine σ κ) (idle : μ) : Engine (σ × τ) (κ × μ) where
  scope := e.scope
  padding := e.padding
  frameSize := e.frameSize
  hasDecoder name p :=
    let (r, s) := e.hasDecoder name p.1
    (r, s, p.2)
  hardwareModes name p :=
    let (r, s) := e.hardwareModes name p.1
    (r, s, p.2)
  createDevice name config p :=
    let (r, s) := e.createDevice name config p.1
    (r, s, p.2)
  openContext name settings binding p :=
    let (r, s) := e.openContext name settings binding p.1
    (r.map (·, idle), s, p.2)
  allocFrame p :=
    let (r, s) := e.allocFrame p.1
    (r, s, p.2)
  sendPacket payload c p :=
    let (r, k, s) := e.sendPacket payload c.1 p.1
    (r, (k, c.2), s, p.2)
  receiveFrame target c p :=
    let r := e.receiveFrame target c.1 p.1
    ⟨r.result, r.picture, r.refusals, (r.context, c.2), (r.state, p.2)⟩
  flush c p :=
    let (k, s) := e.flush c.1 p.1
    ((k, c.2), s, p.2)
  transfer staging source p :=
    let (r, s) := e.transfer staging source p.1
    (r, s, p.2)
  release kind p := (e.release kind p.1, p.2)

/-- the engine on the right side of a pair; `idle` is the other side of a new context -/
def onRight (e : Engine τ μ) (idle : κ) : Engine (σ × τ) (κ × μ) where
  scope := e.scope
  padding := e.padding
  frameSize := e.frameSize
  hasDecoder name p :=
    let (r, s) := e.hasDecoder name p.2
    (r, p.1, s)
  hardwareModes name p :=
    let (r, s) := e.hardwareModes name p.2
    (r, p.1, s)
  createDevice name config p :=
    let (r, s) := e.createDevice name config p.2
    (r, p.1, s)
  openContext name settings binding p :=
    let (r, s) := e.openContext name settings binding p.2
    (r.map (idle, ·), p.1, s)
  allocFrame p :=
    let (r, s) := e.allocFrame p.2
    (r, p.1, s)
  sendPacket payload c p :=
    let (r, k, s) := e.sendPacket payload c.2 p.2
    (r, (c.1, k), p.1, s)
  receiveFrame target c p :=
    let r := e.receiveFrame target c.2 p.2
    ⟨r.result, r.picture, r.refusals, (c.1, r.context), (p.1, r.state)⟩
  flush c p :=
    let (k, s) := e.flush c.2 p.2
    ((c.1, k), p.1, s)
  transfer staging source p :=
    let (r, s) := e.transfer staging source p.2
    (r, p.1, s)
  release kind p := (p.1, e.release kind p.2)

end Engine

end StreamDecode
