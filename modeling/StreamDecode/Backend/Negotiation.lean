import StreamDecode.Engine.Acts

/-!
# Negotiation of a device

`negotiate` goes through the hardware modes of a decoder and creates a device for the first mode that
takes one, whose device is not in use and can be created.  The key of a device is claimed before the
device is created, and given back if that fails.
-/

namespace StreamDecode

/-- a device that was created for a decoder, with the claim that guards it -/
structure Accelerator where
  device : Nat
  deviceKind : DeviceKind
  choice : SurfaceChoice
  claim : Claim
  deriving DecidableEq

namespace Accelerator

/-- what a codec context is told of the device -/
def binding (a : Accelerator) : Binding := ⟨a.device, a.choice⟩

/-- the surface format that was negotiated -/
def format (a : Accelerator) : PixelFormat := a.choice.target

end Accelerator

variable {σ κ : Type} (engine : Engine σ κ)

/-- a device for the first of some hardware modes that one can be had for -/
def negotiate (decoder : String) : List HardwareMode → Act σ (Option Accelerator)
  | [] => do
    Act.tell (.noDevice decoder)
    return none
  | mode :: rest =>
    if mode.takesDevice then do
      let key := deviceKey engine.scope mode.device.name
      match ← Act.claim key with
      | .error _ =>
        Act.tell (.deviceBusy mode.device decoder key)
        negotiate decoder rest
      | .ok claim =>
        Act.tell (.usingDevice mode.device)
        match ← Act.createDevice engine decoder mode with
        | .ok device => return some ⟨device, mode.device, ⟨mode.format⟩, claim⟩
        | .error cause =>
          Act.tell (.deviceNotCreated mode.device decoder cause)
          Act.unclaim claim
          negotiate decoder rest
    else negotiate decoder rest

/-- gives a device back, then its claim -/
def Accelerator.dispose (a : Accelerator) : Act σ Unit := do
  Act.release engine (.device a.device)
  Act.unclaim a.claim

/-- gives a device back if there is one -/
def disposeAccel (accel : Option Accelerator) : Act σ Unit :=
  match accel with
  | some a => a.dispose engine
  | none => return ()

end StreamDecode
