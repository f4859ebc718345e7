import StreamDecode.Backend.Candidate
import StreamDecode.Device.Basic
import StreamDecode.Picture.Surface

/-!
# Notices

What a session tells its log, as data.  `Notice.level` and `Notice.text` give the record.
-/

namespace StreamDecode

inductive Level where
  | error
  | warn
  | info
  | debug
  deriving DecidableEq, Repr

def Level.label : Level → String
  | error => "error"
  | warn => "warn"
  | info => "info"
  | debug => "debug"

/-- what a session is set up for, as it is reported when the session is ready -/
structure SessionSummary where
  decoder : String
  codec : Codec
  width : UInt32
  height : UInt32
  buffers : UInt64
  sliceThreads : Option UInt64
  deriving DecidableEq

inductive Notice where
  /- claims -/
  | claimed (key : String)
  | unclaimed (key : String)
  /- choice of a backend -/
  | decoderMissing (decoder : String)
  | tryingDecoder (decoder : String)
  | decoderBusy (decoder key : String)
  | contextNotAllocated (decoder what : String)
  | decoderNotOpened (decoder : String) (cause : EngineError)
  | noDecoder (codec : Codec) (preference : Preference)
  /- choice of a device -/
  | deviceBusy (device : DeviceKind) (decoder key : String)
  | usingDevice (device : DeviceKind)
  | deviceNotCreated (device : DeviceKind) (decoder : String) (cause : EngineError)
  | noDevice (decoder : String)
  | formatRefused (refusal : FormatRefusal)
  /- a session -/
  | stagingNotAllocated (cause : EngineError)
  | framesNotAllocated (cause : EngineError)
  | sessionReady (summary : SessionSummary)
  | submitFailed (cause : EngineError)
  | receiveFailed (cause : EngineError)
  | transferFailed (cause : EngineError)
  | flushing (decoder : String)
  | destroying (decoder : String)
  deriving DecidableEq

namespace Notice

def level : Notice → Level
  | claimed _ | unclaimed _ | decoderMissing _ | flushing _ => .debug
  | tryingDecoder _ | usingDevice _ | sessionReady _ | destroying _ => .info
  | decoderBusy _ _ | decoderNotOpened _ _ | deviceBusy _ _ _ | deviceNotCreated _ _ _
  | noDevice _ | submitFailed _ | receiveFailed _ => .warn
  | contextNotAllocated _ _ | noDecoder _ _ | formatRefused _ | stagingNotAllocated _
  | framesNotAllocated _ | transferFailed _ => .error

/-- labels in brackets, with commas between them -/
def bracketed (labels : List String) : String :=
  "[" ++ String.intercalate ", " labels ++ "]"

def threading : Option UInt64 → String
  | some n => decimal n.toNat ++ " slice threads"
  | none => "single threaded"

def text : Notice → String
  | claimed key => "Claimed device " ++ key
  | unclaimed key => "Released device " ++ key
  | decoderMissing decoder => "Decoder not available: " ++ decoder
  | tryingDecoder decoder => "Trying decoder " ++ decoder
  | decoderBusy decoder key =>
    "Skipping decoder " ++ decoder ++ ": " ++ (SessionError.deviceBusy key).message
  | contextNotAllocated decoder what =>
    "Couldn't allocate context for " ++ decoder ++ ": " ++ what
  | decoderNotOpened decoder cause =>
    "Couldn't open codec " ++ decoder ++ ": " ++ cause.message
  | noDecoder codec preference =>
    "Couldn't find decoder for " ++ codec.title ++ " (" ++ preference.label ++ ")"
  | deviceBusy device decoder key =>
    "Skipping hwaccel type " ++ device.title ++ " for " ++ decoder ++ ": " ++
      (SessionError.deviceBusy key).message
  | usingDevice device => "Using hwaccel type " ++ device.title
  | deviceNotCreated device decoder cause =>
    "Failed to create " ++ device.title ++ " device for " ++ decoder ++ ": " ++ cause.message
  | noDevice decoder =>
    "Decoder " ++ decoder ++ " does not support any of the available hwaccel methods"
  | formatRefused refusal =>
    "Failed to get HW surface format " ++ refusal.target.label ++ ", decoder offered " ++
      bracketed (refusal.offered.map (·.label))
  | stagingNotAllocated cause => "Couldn't allocate staging frame: " ++ cause.message
  | framesNotAllocated cause => "Couldn't allocate frames: " ++ cause.message
  | sessionReady s =>
    "Decoder " ++ s.decoder ++ " ready: " ++ s.codec.title ++ " " ++ decimal s.width.toNat ++
      "x" ++ decimal s.height.toNat ++ ", " ++ decimal s.buffers.toNat ++ " buffers, " ++
      threading s.sliceThreads
  | submitFailed cause => "Decode failed - " ++ cause.message
  | receiveFailed cause => "Receive failed - " ++ cause.message
  | transferFailed cause =>
    "Error transferring the data to system memory: " ++ cause.message
  | flushing decoder => "Flushing decoder " ++ decoder
  | destroying decoder => "Destroying decoder " ++ decoder

end Notice

end StreamDecode
