import StreamDecode.Picture.Basic

/-!
# Resources

What an engine hands out and gets back: frames, device contexts and codec contexts.  An engine
counts each kind on its own, so a kind and a number name one resource of one engine.
-/

namespace StreamDecode

inductive ResourceKind where
  | frame
  | device
  | context
  deriving DecidableEq, Repr

def ResourceKind.label : ResourceKind → String
  | frame => "frame"
  | device => "device"
  | context => "context"

inductive Resource where
  | frame (id : Nat)
  | device (id : Nat)
  | context (id : Nat)
  deriving DecidableEq, Repr

namespace Resource

def kind : Resource → ResourceKind
  | frame _ => .frame
  | device _ => .device
  | context _ => .context

def id : Resource → Nat
  | frame n | device n | context n => n

end Resource

/-- a picture buffer that an engine allocated -/
structure Frame where
  id : Nat
  picture : Picture
  deriving DecidableEq

/-- an opened codec context, with what the engine keeps in it -/
structure OpenContext (κ : Type) where
  id : Nat
  state : κ

end StreamDecode
