import StreamDecode.Backend.Selection
import StreamDecode.Frame.Output
import StreamDecode.Frame.Ring
import StreamDecode.Frame.Staging

/-!
# Decode sessions

A session holds an opened codec context, the ring of frames that it decodes into, and, if it runs on
a device, the device, its staging frame and the claims on both backend and device.
-/

namespace StreamDecode

/-- counters of a session -/
structure Stats where
  packetsSubmitted : Nat
  submitErrors : Nat
  framesDecoded : Nat
  receiveErrors : Nat
  transfers : Nat
  transferErrors : Nat
  deriving DecidableEq, Repr

namespace Stats

def zero : Stats := ⟨0, 0, 0, 0, 0, 0⟩

def countSubmit (s : Stats) : Stats := { s with packetsSubmitted := s.packetsSubmitted + 1 }

def countSubmitError (s : Stats) : Stats := { s with submitErrors := s.submitErrors + 1 }

def countFrame (s : Stats) : Stats := { s with framesDecoded := s.framesDecoded + 1 }

def countReceiveError (s : Stats) : Stats := { s with receiveErrors := s.receiveErrors + 1 }

def countTransfer (s : Stats) : Stats := { s with transfers := s.transfers + 1 }

def countTransferError (s : Stats) : Stats := { s with transferErrors := s.transferErrors + 1 }

end Stats

structure BoundDevice where
  id : Nat
  deviceKind : DeviceKind
  deriving DecidableEq

structure Session (κ : Type) where
  path : TransferPath
  device : Option BoundDevice
  /-- the claim of a vendor backend, then the claim of the device -/
  claims : List Claim
  context : OpenContext κ
  ring : Ring Frame
  codec : Codec
  preference : Preference
  decoder : String
  backend : BackendKind
  stats : Stats

/-- what a call on a session leaves: the answer and the session after it -/
abbrev Outcome (κ α : Type) := Except Fault (Except SessionError α × Session κ)

namespace Session

variable {κ : Type} (s : Session κ)

/-- the kind of device that the session runs on -/
def deviceKind : Option DeviceKind := s.device.map (·.deviceKind)

/-- the surface format that was negotiated -/
def surfaceFormat : Option PixelFormat := s.path.format

end Session

end StreamDecode
