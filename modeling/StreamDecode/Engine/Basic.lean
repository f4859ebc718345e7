import StreamDecode.Device.Basic
import StreamDecode.Picture.Surface
import StreamDecode.Resource.Basic

/-!
# Codec engines

An engine is what a session decodes on: a record of the questions that a session asks, each a
function of the engine's state.  Nothing is promised about the answers.

`σ` is the state of the engine, `κ` what it keeps in an opened codec context.  A question may change
either.  A frame that is to be received into may be changed also by a receive that fails.
-/

namespace StreamDecode

/-- switches of a codec context -/
def contextFlagTable : FlagTable where
  typeName := "DecodeFlags"
  flags := [⟨"LOW_DELAY", 0x01⟩, ⟨"OUTPUT_CORRUPT", 0x02⟩, ⟨"SHOW_ALL", 0x04⟩, ⟨"EXPLODE", 0x08⟩]

abbrev ContextFlags := Flags contextFlagTable

namespace ContextFlags

/-- hand frames out as soon as possible -/
def lowDelay : ContextFlags := ⟨0x01⟩

/-- hand corrupt frames out instead of dropping them -/
def outputCorrupt : ContextFlags := ⟨0x02⟩

/-- hand frames out even when references are missing -/
def showAll : ContextFlags := ⟨0x04⟩

/-- fail on errors in the stream, so that a key frame can be asked for -/
def explode : ContextFlags := ⟨0x08⟩

end ContextFlags

/-- what a codec context is opened with -/
structure CodecSettings where
  width : UInt32
  height : UInt32
  flags : ContextFlags
  /-- the number of slice threads; one thread if there is none -/
  sliceThreads : Option UInt64
  deriving DecidableEq

/-- the device that a codec context is opened on, and the choice of its surface format -/
structure Binding where
  device : Nat
  choice : SurfaceChoice
  deriving DecidableEq

/-- what a receive leaves behind -/
structure Reception (σ κ : Type) where
  result : Except EngineError Unit
  picture : Picture
  /-- surface formats that were refused on the way -/
  refusals : List FormatRefusal
  context : κ
  state : σ

structure Engine (σ κ : Type) where
  /-- the name space of the devices that the engine uses -/
  scope : String
  /-- the bytes that have to follow a packet -/
  padding : UInt64
  /-- the bytes that the record of a frame takes in a list of frames -/
  frameSize : Nat
  hasDecoder : String → σ → Bool × σ
  hardwareModes : String → σ → List HardwareMode × σ
  createDevice : String → HardwareMode → σ → Except EngineError Unit × σ
  openContext : String → CodecSettings → Option Binding → σ → Except EngineError κ × σ
  allocFrame : σ → Except EngineError Picture × σ
  sendPacket : Bytes → κ → σ → Except EngineError Unit × κ × σ
  receiveFrame : Picture → κ → σ → Reception σ κ
  flush : κ → σ → κ × σ
  /-- the content of the staging frame after the picture was brought to the host -/
  transfer : Picture → Picture → σ → (Except EngineError Unit × Picture) × σ
  /-- what the engine notes when a resource is given back -/
  release : ResourceKind → σ → σ

end StreamDecode
