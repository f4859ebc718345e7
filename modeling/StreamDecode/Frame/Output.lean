import StreamDecode.Resource.Basic

/-!
# Decoded frames

A frame as it is handed out for display.  The planes of an accelerator surface are not shown.
-/

namespace StreamDecode

/-- where the pixels of a frame are -/
inductive PixelMemory where
  /-- the host can read the planes -/
  | host
  /-- a surface of the accelerator -/
  | device
  deriving DecidableEq, Repr

def PixelMemory.label : PixelMemory → String
  | host => "Host"
  | device => "Device"

/-- which buffer a frame was handed out from -/
inductive FrameOrigin where
  | ring
  | staging
  deriving DecidableEq, Repr

def FrameOrigin.label : FrameOrigin → String
  | ring => "Ring"
  | staging => "Staging"

structure OutputFrame where
  frame : Frame
  /-- the ring slot that the frame was decoded into, also if it was staged -/
  slot : Nat
  source : FrameOrigin
  deriving DecidableEq

namespace OutputFrame

variable (f : OutputFrame)

def format : PixelFormat := f.frame.picture.format

def memory : PixelMemory := if f.format.isHardware then .device else .host

def isHost : Bool := f.memory == .host

/-- the number of planes that can be read -/
def planes : Nat := if f.isHost then f.frame.picture.planes.length else 0

/-- bytes from one row of a plane to the next, if the plane can be read -/
def stride (plane : Nat) : Except Fault (Option Nat) :=
  if plane < f.planes then (f.frame.picture.stride plane).map some else .ok none

/-- the bytes of a plane, if it can be read -/
def data (plane : Nat) : Except Fault (Option Bytes) :=
  if plane < f.planes then (f.frame.picture.data plane).map some else .ok none

end OutputFrame

end StreamDecode
