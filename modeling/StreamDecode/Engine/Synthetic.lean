import StreamDecode.Engine.Basic

/-!
# The synthetic engine

An engine that makes pictures up.  Every packet that it accepts gives one picture, in order, and the
pictures of a context are numbered from one.  A packet that starts with `0xFF` is rejected when it is
sent, one that starts with `0xEE` when its picture is received.

The ledger keeps what was asked of the engine and what it has handed out, and holds the switches
that make it fail.
-/

namespace StreamDecode

namespace Synthetic

structure Decoder where
  name : String
  /-- the decoder can be opened -/
  opens : Bool
  modes : List HardwareMode

/-- hardware configurations on a device context, numbered by their place -/
def deviceModes (pairs : List (DeviceKind × PixelFormat)) : List HardwareMode :=
  pairs.mapIdx fun index (device, format) => ⟨index, device, format, .deviceContext⟩

structure Ledger where
  decoders : List Decoder
  failingDevices : List DeviceKind
  failTransfer : Bool
  failContextAlloc : Bool
  /-- how many frames can still be allocated -/
  frameBudget : Option Nat
  /-- the resources that are handed out, by kind, in the order of first use -/
  live : List (ResourceKind × Nat)
  /-- the kinds of the resources that came back, the latest first -/
  returned : List ResourceKind
  openAttempts : List String
  deviceAttempts : List DeviceKind
  submitted : List Bytes
  lastSettings : Option CodecSettings
  /-- the last opened context got a device -/
  lastBound : Option Bool

/-- the ledger of an engine that was not used yet -/
def Ledger.fresh (decoders : List Decoder) (failingDevices : List DeviceKind) : Ledger where
  decoders := decoders
  failingDevices := failingDevices
  failTransfer := false
  failContextAlloc := false
  frameBudget := none
  live := []
  returned := []
  openAttempts := []
  deviceAttempts := []
  submitted := []
  lastSettings := none
  lastBound := none

structure Context where
  /-- packets that were accepted and not received yet, the oldest first -/
  pending : List Bytes
  choice : Option SurfaceChoice
  /-- the format of all pictures, settled by the first one -/
  format : Option PixelFormat
  width : UInt32
  height : UInt32
  /-- the number of the last picture -/
  produced : Nat

def Context.empty : Context := ⟨[], none, none, 0, 0, 0⟩

def invalidData : EngineError := .backend (-1094995529) "Invalid data found when processing input"
def ioError : EngineError := .backend (-5) "Input/output error"
def invalidArgument : EngineError := .backend (-22) "Invalid argument"

namespace Ledger

/-- the number of resources of a kind that are handed out -/
def liveOf (l : Ledger) (kind : ResourceKind) : Nat := (l.live.lookup kind).getD 0

def liveTotal (l : Ledger) : Nat := l.live.foldl (fun total count => total + count.2) 0

/-- changes the count of a kind; a kind without a count gets one -/
def recount (kind : ResourceKind) (change : Nat → Nat) :
    List (ResourceKind × Nat) → List (ResourceKind × Nat)
  | [] => [(kind, change 0)]
  | (k, n) :: rest =>
    if k = kind then (k, change n) :: rest else (k, n) :: recount kind change rest

/-- one more resource of a kind is handed out -/
def handOut (kind : ResourceKind) (l : Ledger) : Ledger :=
  { l with live := recount kind (· + 1) l.live }

/-- a resource of a kind came back -/
def takeBack (kind : ResourceKind) (l : Ledger) : Ledger :=
  { l with live := recount kind (· - 1) l.live, returned := kind :: l.returned }

/-- the kinds of the resources that came back, in order -/
def released (l : Ledger) : List ResourceKind := l.returned.reverse

def decoder? (l : Ledger) (name : String) : Option Decoder := l.decoders.find? (·.name == name)

end Ledger

/-- a plane of so many equal bytes -/
def plane (value : UInt8) (width height : Nat) : Bytes := List.replicate (width * height) value

/-- the picture of a number: a grey that tells the number, without colour; an accelerator surface has
no planes -/
def picture (format : PixelFormat) (width height : UInt32) (sequence : Nat) : Picture :=
  if format.isHardware then ⟨format, width, height, [], [], sequence⟩
  else
    let w := width.toNat
    let h := height.toNat
    let cw := (w + 1) / 2
    let ch := (h + 1) / 2
    ⟨format, width, height, [w, cw, cw],
      [plane sequence.toUInt8 w h, plane 128 cw ch, plane 128 cw ch], sequence⟩

section
variable (format : PixelFormat) (width height : UInt32) (sequence : Nat)

@[simp] theorem format_picture : (picture format width height sequence).format = format := by
  unfold picture
  split <;> rfl

@[simp] theorem width_picture : (picture format width height sequence).width = width := by
  unfold picture
  split <;> rfl

@[simp] theorem height_picture : (picture format width height sequence).height = height := by
  unfold picture
  split <;> rfl

@[simp] theorem sequence_picture : (picture format width height sequence).sequence = sequence := by
  unfold picture
  split <;> rfl

end

/-- a picture for the host -/
def hostPicture (format : PixelFormat) (width height : UInt32) (sequence : Nat) :
    Except Fault Picture :=
  if format.isHardware then .error (.acceleratorFormat format)
  else .ok (picture format width height sequence)

/-- an accelerator surface -/
def surface (format : PixelFormat) (width height : UInt32) (sequence : Nat) :
    Except Fault Picture :=
  if format.isHardware then .ok (picture format width height sequence)
  else .error (.hostFormat format)

def createDevice (config : HardwareMode) (l : Ledger) : Except EngineError Unit × Ledger :=
  let l := { l with deviceAttempts := l.deviceAttempts ++ [config.device] }
  if config.device ∈ l.failingDevices then (.error ioError, l)
  else (.ok (), l.handOut .device)

def openContext (name : String) (settings : CodecSettings) (binding : Option Binding)
    (l : Ledger) : Except EngineError Context × Ledger :=
  if l.failContextAlloc then (.error (.outOfMemory "codec context"), l)
  else
    let l := { l with openAttempts := l.openAttempts ++ [name] }
    if (l.decoder? name).any (·.opens) then
      let l := { l with lastSettings := some settings, lastBound := some binding.isSome }
      (.ok ⟨[], binding.map (·.choice), none, settings.width, settings.height, 0⟩,
        l.handOut .context)
    else (.error invalidArgument, l)

def allocFrame (l : Ledger) : Except EngineError Picture × Ledger :=
  match l.frameBudget with
  | none => (.ok .blank, l.handOut .frame)
  | some 0 => (.error (.outOfMemory "frame"), l)
  | some (left + 1) => (.ok .blank, { l with frameBudget := some left }.handOut .frame)

def sendPacket (payload : Bytes) (c : Context) (l : Ledger) :
    Except EngineError Unit × Context × Ledger :=
  let l := { l with submitted := l.submitted ++ [payload] }
  if payload.head? = some 0xFF then (.error invalidData, c, l)
  else (.ok (), { c with pending := c.pending ++ [payload] }, l)

/-- the format of the next picture, with the refusal if it refuses -/
def Context.nextFormat (c : Context) : PixelFormat × List FormatRefusal :=
  match c.format with
  | some format => (format, [])
  | none =>
    match c.choice with
    | none => (.yuv420p, [])
    | some choice =>
      match choice.choose [choice.target, .yuv420p] with
      | .ok format => (format, [])
      | .error refusal => (.yuv420p, [refusal])

def receiveFrame (target : Picture) (c : Context) (l : Ledger) : Reception Ledger Context :=
  match c.pending with
  | [] => ⟨.error .again, target, [], c, l⟩
  | packet :: pending =>
    let c := { c with pending }
    if packet.head? = some 0xEE then ⟨.error invalidData, target, [], c, l⟩
    else
      let (format, refusals) := c.nextFormat
      let number := c.produced + 1
      ⟨.ok (), picture format c.width c.height number, refusals,
        { c with format := some format, produced := number }, l⟩

def transfer (staging source : Picture) (l : Ledger) :
    (Except EngineError Unit × Picture) × Ledger :=
  if l.failTransfer then ((.error ioError, staging), l)
  else if source.format.isHardware then
    ((.ok (), picture .yuv420p source.width source.height source.sequence), l)
  else
    ((.error (.unsupported (source.format.label ++ " is not an accelerator format")), staging), l)

/-- the synthetic engine of a scope; the record of a frame takes twelve words -/
def engine (scope : String) : Engine Ledger Context where
  scope := scope
  padding := 64
  frameSize := 96
  hasDecoder name l := ((l.decoder? name).isSome, l)
  hardwareModes name l := (((l.decoder? name).map (·.modes)).getD [], l)
  createDevice _ := createDevice
  openContext := openContext
  allocFrame := allocFrame
  sendPacket := sendPacket
  receiveFrame := receiveFrame
  flush c l := ({ c with pending := [] }, l)
  transfer := transfer
  release := fun kind l => l.takeBack kind

end Synthetic

end StreamDecode
