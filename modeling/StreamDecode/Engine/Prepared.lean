import StreamDecode.Engine.Basic

/-!
# The prepared engine

An engine without logic: its answers are laid out beforehand, in lists that are used up from the
front.  An exhausted list of receives answers that nothing is ready, one of sends accepts, and one of
transfers gives an NV12 picture of the source's size.
-/

namespace StreamDecode

namespace Prepared

/-- a picture that is laid out; without a format it is in the format that the context chooses -/
structure Content where
  format : Option PixelFormat
  width : UInt32
  height : UInt32
  strides : List Nat
  planes : List Bytes

def Content.picture (c : Content) (chosen : PixelFormat) : Picture :=
  ⟨c.format.getD chosen, c.width, c.height, c.strides, c.planes, 0⟩

/-- the answer to a receive or a transfer -/
abbrev Cue := Except EngineError Content

/-- the answers of one decoder -/
structure Script where
  name : String
  modes : List HardwareMode
  /-- why the decoder cannot be opened -/
  refusal : Option EngineError
  sends : List (Option EngineError)
  receives : List Cue
  /-- the formats that the context chooses from -/
  offered : Option (List PixelFormat)

structure State where
  scripts : List Script
  /-- the devices that cannot be created -/
  failing : List (DeviceKind × EngineError)
  /-- how many frames can still be allocated -/
  frameBudget : Option Nat
  allocError : EngineError
  transfers : List Cue

structure Context where
  choice : Option SurfaceChoice
  sends : List (Option EngineError)
  receives : List Cue
  offered : Option (List PixelFormat)

def State.empty : State := ⟨[], [], none, .outOfMemory "frame", []⟩

def Context.empty : Context := ⟨none, [], [], none⟩

/-- the first decoder of that name -/
def State.script? (s : State) (name : String) : Option Script :=
  s.scripts.find? (·.name == name)

/-- the first entry of a list of answers and the rest of them -/
def next {α : Type} (default : α) : List α → α × List α
  | [] => (default, [])
  | a :: rest => (a, rest)

/-- an answer of a list in which no error is laid out as `none` -/
def answer : Option EngineError → Except EngineError Unit
  | some e => .error e
  | none => .ok ()

def createDevice (config : HardwareMode) (s : State) : Except EngineError Unit × State :=
  (answer (s.failing.lookup config.device), s)

def openContext (name : String) (binding : Option Binding) (s : State) :
    Except EngineError Context × State :=
  match s.script? name with
  | none => (.error (.unsupported name), s)
  | some script =>
    match script.refusal with
    | some e => (.error e, s)
    | none =>
      (.ok ⟨binding.map (·.choice), script.sends, script.receives, script.offered⟩, s)

def allocFrame (s : State) : Except EngineError Picture × State :=
  match s.frameBudget with
  | none => (.ok .blank, s)
  | some 0 => (.error s.allocError, s)
  | some (left + 1) => (.ok .blank, { s with frameBudget := some left })

def sendPacket (c : Context) (s : State) : Except EngineError Unit × Context × State :=
  let (entry, sends) := next none c.sends
  (answer entry, { c with sends }, s)

/-- the format that a context chooses, and the refusal if it refuses -/
def chooseFormat (c : Context) : PixelFormat × List FormatRefusal :=
  match c.choice with
  | none => (.yuv420p, [])
  | some choice =>
    match choice.choose (c.offered.getD [choice.target, .yuv420p]) with
    | .ok format => (format, [])
    | .error refusal => (.yuv420p, [refusal])

def receiveFrame (target : Picture) (c : Context) (s : State) : Reception State Context :=
  let (cue, receives) := next (.error .again) c.receives
  let c := { c with receives }
  match cue with
  | .error e => ⟨.error e, target, [], c, s⟩
  | .ok content =>
    match content.format with
    | some format => ⟨.ok (), content.picture format, [], c, s⟩
    | none =>
      let (format, refusals) := chooseFormat c
      ⟨.ok (), content.picture format, refusals, c, s⟩

def transfer (staging source : Picture) (s : State) :
    (Except EngineError Unit × Picture) × State :=
  let (cue, transfers) := next (.ok ⟨none, source.width, source.height, [], []⟩) s.transfers
  let s := { s with transfers }
  match cue with
  | .error e => ((.error e, staging), s)
  | .ok content => ((.ok (), content.picture .nv12), s)

/-- the prepared engine of a scope that asks for so much padding -/
def engine (scope : String) (padding : UInt64) : Engine State Context where
  scope := scope
  padding := padding
  frameSize := 64
  hasDecoder name s := ((s.script? name).isSome, s)
  hardwareModes name s := (((s.script? name).map (·.modes)).getD [], s)
  createDevice _ := createDevice
  openContext name _ := openContext name
  allocFrame := allocFrame
  sendPacket _ := sendPacket
  receiveFrame := receiveFrame
  flush c s := (c, s)
  transfer := transfer
  release _ s := s

end Prepared

end StreamDecode
