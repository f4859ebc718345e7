import StreamDecode.Session.Closing

/-!
# The start of a session

`Session.start` checks the configuration, opens a decoder, and allocates the staging frame and the
ring.  Without a staging frame or a full ring there is no session.  What was acquired is given back
then: the slots that were allocated, and by `withdraw` the device, the staging frame if there is one,
the claims and the codec context.

The configuration has no upper bound for the number of slots.  A ring that there can be no room for
is a fault, which ends a start without an answer but gives everything back as well.

`start_of_error`, `start_of_failed` and `start_of_opened` tell what a start comes to, by its checks and
by the search for a backend.
-/

namespace StreamDecode

namespace SessionConfig

/-- the codec to decode, once the configuration has passed its checks -/
def check (c : SessionConfig) : Except SessionError Codec :=
  match c.validate with
  | .error e => .error e
  | .ok () => c.streamFormat.codec

/-- what codec contexts are opened with: low delay, corrupt and incomplete pictures shown, errors in
the stream reported -/
def settings (c : SessionConfig) : CodecSettings where
  width := c.width
  height := c.height
  flags := .lowDelay ∪ .outputCorrupt ∪ .showAll ∪ .explode
  sliceThreads := c.sliceThreads

end SessionConfig

variable {σ κ : Type} (engine : Engine σ κ)

namespace OpenBackend

variable (b : OpenBackend κ)

/-- the claims of a session on this backend -/
def claims : List Claim := b.backendClaim.toList ++ (b.accel.map (·.claim)).toList

/-- the device of a session on this backend -/
def device : Option BoundDevice := b.accel.map fun a => ⟨a.device, a.deviceKind⟩

end OpenBackend

/-- the transfer path of a session on this device; its staging frame is allocated -/
def allocPath (accel : Option Accelerator) : Act σ (Except EngineError TransferPath) :=
  match accel with
  | none => return .ok none
  | some a => do
    let frame ← Act.allocFrame engine
    return frame.map fun f => some ⟨a.format, f⟩

namespace Session

/-- what a session reports when it is ready -/
def summary (config : SessionConfig) (codec : Codec) (decoder : String) : SessionSummary where
  decoder := decoder
  codec := codec
  width := config.width
  height := config.height
  buffers := config.bufferCount
  sliceThreads := config.sliceThreads

/-- the session on an opened backend, once its frames are allocated -/
def assemble (config : SessionConfig) (codec : Codec) (backend : OpenBackend κ)
    (path : TransferPath) (ring : Ring Frame) : Session κ where
  path := path
  device := backend.device
  claims := backend.claims
  context := backend.context
  ring := ring
  codec := codec
  preference := config.preference
  decoder := backend.candidate.name
  backend := backend.candidate.kind
  stats := .zero

/-- gives back what a session was to be put together from -/
def withdraw (backend : OpenBackend κ) (path : TransferPath) : Act σ Unit := do
  disposeDevice engine backend.device
  path.dispose engine
  Act.unclaimAll backend.claims
  Act.release engine (.context backend.context.id)

/-- allocates the ring of a session and puts the session together -/
def furnish (config : SessionConfig) (codec : Codec) (backend : OpenBackend κ)
    (path : TransferPath) : Act σ (Except Fault (Except SessionError (Session κ))) := do
  match ← Act.allocRing engine config.bufferCount.toNat with
  | .error fault =>
    withdraw engine backend path
    return .error fault
  | .ok (.error cause) =>
    Act.tell (.framesNotAllocated cause)
    withdraw engine backend path
    return .ok (.error (.allocation cause))
  | .ok (.ok ring) =>
    Act.tell (.sessionReady (summary config codec backend.candidate.name))
    return .ok (.ok (assemble config codec backend path ring))

/-- allocates the frames of a session on an opened backend -/
def equip (config : SessionConfig) (codec : Codec) (backend : OpenBackend κ) :
    Act σ (Except Fault (Except SessionError (Session κ))) := do
  match ← allocPath engine backend.accel with
  | .error cause =>
    Act.tell (.stagingNotAllocated cause)
    withdraw engine backend none
    return .ok (.error (.allocation cause))
  | .ok path => furnish engine config codec backend path

/-- a session for a configuration, or the reason why there is none -/
def start (config : SessionConfig) : Act σ (Except Fault (Except SessionError (Session κ))) :=
  match config.check with
  | .error e => return .ok (.error e)
  | .ok codec => do
    match ← openBackend engine codec config.preference config.settings with
    | .error e => return .ok (.error e)
    | .ok backend => equip engine config codec backend

section
variable {engine} {config : SessionConfig} {codec : Codec} {cause : SessionError} {w v : World σ}
  {t : Trace}

theorem start_of_error (h : config.check = .error cause) :
    start engine config w = ⟨.ok (.error cause), [], w⟩ := by
  simp only [start, h]
  rfl

theorem start_of_failed (h : config.check = .ok codec)
    (hopen : openBackend engine codec config.preference config.settings w = ⟨.error cause, t, v⟩) :
    start engine config w = ⟨.ok (.error cause), t, v⟩ := by
  simp only [start, h, Act.bind_apply, hopen, Act.pure_apply, List.append_nil]

theorem start_of_opened {backend : OpenBackend κ} (h : config.check = .ok codec)
    (hopen : openBackend engine codec config.preference config.settings w = ⟨.ok backend, t, v⟩) :
    start engine config w =
      let step := equip engine config codec backend v
      ⟨step.value, t ++ step.events, step.world⟩ := by
  simp only [start, h, Act.bind_apply, hopen]

end

end Session

end StreamDecode
