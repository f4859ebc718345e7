import StreamDecode.Session.Basic

/-!
# The end of a session

A session gives back its staging frame, its device, its claims, its codec context and its ring
slots, in this order.  `destroy` says so first.
-/

namespace StreamDecode

variable {σ κ : Type} (engine : Engine σ κ)

/-- gives a device back if there is one -/
def disposeDevice (device : Option BoundDevice) : Act σ Unit :=
  match device with
  | none => return ()
  | some d => Act.release engine (.device d.id)

namespace Session

/-- gives back all that the session holds -/
def dispose (s : Session κ) : Act σ Unit := do
  s.path.dispose engine
  disposeDevice engine s.device
  Act.unclaimAll s.claims
  Act.release engine (.context s.context.id)
  Act.releaseFrames engine s.ring.slots

/-- announces the end of the session and gives back all that it holds -/
def destroy (s : Session κ) : Act σ Unit := do
  Act.tell (.destroying s.decoder)
  s.dispose engine

end Session

end StreamDecode
