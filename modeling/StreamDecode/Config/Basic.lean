import StreamDecode.Stream.Format

/-!
# Session configuration

What a host asks of a decode session, with the checks that come before anything is opened.
-/

namespace StreamDecode

def perfOptionTable : FlagTable where
  typeName := "PerfFlags"
  flags := [⟨"SLICE_THREADING", 0x04⟩, ⟨"HARDWARE_ACCELERATION", 0x08⟩]

/-- performance options -/
abbrev PerfOptions := Flags perfOptionTable

def PerfOptions.sliceThreading : PerfOptions := ⟨0x04⟩
def PerfOptions.hardwareAcceleration : PerfOptions := ⟨0x08⟩

/-- whether accelerated decoding is wanted.  A session with the software preference may still use a
device, but hands every frame out through the transfer path. -/
inductive Preference where
  | software
  | accelerated
  deriving DecidableEq, Repr

namespace Preference

def label : Preference → String
  | software => "Software"
  | accelerated => "Accelerated"

def ofFlags (flags : PerfOptions) : Preference :=
  if flags.contains PerfOptions.hardwareAcceleration then accelerated else software

end Preference

structure SessionConfig where
  streamFormat : StreamFormat := StreamFormat.h264
  width : UInt32 := 1920
  height : UInt32 := 1080
  perfOptions : PerfOptions := PerfOptions.hardwareAcceleration
  /-- the number of slots of the frame ring -/
  bufferCount : UInt64 := 2
  /-- the number of slice threads; of use only with slice threading -/
  threadCount : UInt64 := 1
  deriving DecidableEq

namespace SessionConfig

instance : Inhabited SessionConfig := ⟨{}⟩

/-- the greatest width, height or thread count that an engine takes -/
def maxCount : Nat := 0x7fffffff

/-- `width`x`height` -/
def dimensions (c : SessionConfig) : String :=
  decimal c.width.toNat ++ "x" ++ decimal c.height.toNat

/-- what is wrong with a configuration; of several things, the first in this order -/
def defect (c : SessionConfig) : Option String :=
  if c.width = 0 ∨ c.height = 0 then
    some ("dimensions must be non-zero, got " ++ c.dimensions)
  else if maxCount < c.width.toNat ∨ maxCount < c.height.toNat then
    some ("dimensions out of range, got " ++ c.dimensions)
  else if maxCount < c.threadCount.toNat then
    some ("thread count out of range, got " ++ decimal c.threadCount.toNat)
  else if c.bufferCount = 0 then
    some "at least one frame buffer is required"
  else if c.perfOptions.contains PerfOptions.sliceThreading ∧ c.threadCount = 0 then
    some "slice threading needs a non-zero thread count"
  else none

def validate (c : SessionConfig) : Except SessionError Unit :=
  match c.defect with
  | some reason => .error (.invalidConfig reason)
  | none => .ok ()

def preference (c : SessionConfig) : Preference := Preference.ofFlags c.perfOptions

/-- the number of slice threads that the configuration asks for -/
def sliceThreads (c : SessionConfig) : Option UInt64 :=
  if c.perfOptions.contains PerfOptions.sliceThreading then some c.threadCount else none

end SessionConfig

end StreamDecode
