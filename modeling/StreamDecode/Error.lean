import StreamDecode.Picture.Format
import StreamDecode.Stream.Codec
import StreamDecode.Text.Number

/-!
# What can go wrong

* `EngineError`    what a codec engine answers instead of a result;
* `SessionError`   what a decode session answers instead of a result;
* `Fault`          a broken promise inside the program or of its caller, after which it cannot go on.
-/

namespace StreamDecode

inductive EngineError where
  /-- nothing to hand out yet: more input is needed -/
  | again
  | endOfStream
  | outOfMemory (what : String)
  | unsupported (what : String)
  | backend (code : Int32) (message : String)
  deriving DecidableEq

namespace EngineError

def message : EngineError → String
  | again => "Resource temporarily unavailable"
  | endOfStream => "End of file"
  | outOfMemory what => "Out of memory: " ++ what
  | unsupported what => "Not supported: " ++ what
  | backend code text => text ++ " (" ++ signedDecimal code.toInt ++ ")"

/-- the engine has no frame to hand out, and nothing is wrong -/
def isNoFrame : EngineError → Bool
  | again | endOfStream => true
  | outOfMemory _ | unsupported _ | backend _ _ => false

end EngineError

inductive SessionError where
  | unsupportedFormat (bits : UInt32)
  | invalidConfig (reason : String)
  | noDecoder (codec : Codec)
  | allocation (cause : EngineError)
  | deviceBusy (key : String)
  | insufficientPadding (len available required : Nat)
  | submit (cause : EngineError)
  | receive (cause : EngineError)
  | transfer (cause : EngineError)
  deriving DecidableEq

def SessionError.message : SessionError → String
  | unsupportedFormat bits => "Video format not supported: " ++ hexText 4 bits.toNat
  | invalidConfig reason => "Invalid decoder configuration: " ++ reason
  | noDecoder codec => "Couldn't find a usable " ++ codec.title ++ " decoder"
  | allocation cause => "Allocation failed: " ++ cause.message
  | deviceBusy key => "Device " ++ key ++ " is already in use by another decode session"
  | insufficientPadding len available required =>
    "Packet of " ++ decimal len ++ " bytes needs " ++ decimal required ++
      " bytes of trailing padding, buffer holds " ++ decimal available
  | submit cause => "Decode failed: " ++ cause.message
  | receive cause => "Receive failed: " ++ cause.message
  | transfer cause => "Error transferring the data to system memory: " ++ cause.message

inductive Fault where
  /-- a list was to have more elements than memory can be addressed for -/
  | capacityOverflow
  /-- a ring was to be made of no slots -/
  | emptyRing
  | slotOutOfRange (index count : Nat)
  | planeOutOfRange (index count : Nat)
  | sliceOutOfRange (len size : Nat)
  /-- a picture for the host was asked for in an accelerator format -/
  | acceleratorFormat (format : PixelFormat)
  /-- an accelerator surface was asked for in a host format -/
  | hostFormat (format : PixelFormat)
  deriving DecidableEq

def Fault.message : Fault → String
  | capacityOverflow => "capacity overflow"
  | emptyRing => "frame ring needs at least one slot"
  | slotOutOfRange index count | planeOutOfRange index count =>
    "index out of bounds: the len is " ++ decimal count ++ " but the index is " ++ decimal index
  | sliceOutOfRange len size =>
    "range end index " ++ decimal len ++ " out of range for slice of length " ++ decimal size
  | acceleratorFormat format => format.label ++ " is an accelerator format"
  | hostFormat format => format.label ++ " is not an accelerator format"

end StreamDecode
