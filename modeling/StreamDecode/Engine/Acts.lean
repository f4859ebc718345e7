import StreamDecode.Act
import StreamDecode.Frame.Ring

/-!
# Acts on an engine and on the registry

Each question to an engine as an act: it leaves one event with the answer, and numbers what the
engine hands out.  A failing question uses up no number.  `Act.claim` and `Act.unclaim` are the
acts on the registry.

Acts on any number of frames leave their whole trace at once; it is the trace of the single acts in
a row.

* `claim_of_notMem`, `createDevice_of_ok`, `openContext_of_error` and the like   what an act comes to,
                        by the answer;
* `allocFrames_succ`    frames are allocated one by one, until an allocation fails;
* `releaseFrames_cons`  frames are given back one by one;
* `allocRing_of_overflows`, `allocRing_of_fits`   a ring is allocated if there is room for it.
-/

namespace StreamDecode

namespace Act

variable {σ κ : Type}

/-- claims a key, or says that it is held -/
def claim (key : String) : Act σ (Except SessionError Claim) := fun w =>
  match w.registry.claim? key with
  | some registry => ⟨.ok ⟨key⟩, [.notice (.claimed key)], { w with registry }⟩
  | none => ⟨.error (.deviceBusy key), [], w⟩

section
variable {key : String} {w : World σ}

theorem claim_of_mem (h : key ∈ w.registry) : claim key w = ⟨.error (.deviceBusy key), [], w⟩ := by
  simp only [claim, (Registry.claim?_eq_none_iff _ _).2 h]

theorem claim_of_notMem (h : key ∉ w.registry) :
    claim key w = ⟨.ok ⟨key⟩, [.notice (.claimed key)],
      { w with registry := ⟨key :: w.registry.keys⟩ }⟩ := by
  simp only [claim, Registry.claim?_of_notMem h]

end

def unclaim (claim : Claim) : Act σ Unit := fun w =>
  ⟨(), [.notice (.unclaimed claim.key)], { w with registry := w.registry.release claim.key }⟩

/-- gives the claims back, the first one first -/
def unclaimAll (claims : List Claim) : Act σ Unit := claims.forM unclaim

def isClaimed (key : String) : Act σ Bool := fun w => ⟨decide (key ∈ w.registry), [], w⟩

variable (engine : Engine σ κ)

def hasDecoder (decoder : String) : Act σ Bool := fun w =>
  match engine.hasDecoder decoder w.engine with
  | (found, s) => ⟨found, [.lookup decoder found], { w with engine := s }⟩

def hardwareModes (decoder : String) : Act σ (List HardwareMode) := fun w =>
  match engine.hardwareModes decoder w.engine with
  | (modes, s) => ⟨modes, [.listing decoder], { w with engine := s }⟩

def createDevice (decoder : String) (mode : HardwareMode) :
    Act σ (Except EngineError Nat) := fun w =>
  match engine.createDevice decoder mode w.engine with
  | (.ok (), s) =>
    let id := w.issued.devices
    ⟨.ok id, [.deviceCreation decoder mode (.ok id)],
      { w with engine := s, issued := { w.issued with devices := id + 1 } }⟩
  | (.error e, s) =>
    ⟨.error e, [.deviceCreation decoder mode (.error e)], { w with engine := s }⟩

def openContext (decoder : String) (settings : CodecSettings) (binding : Option Binding) :
    Act σ (Except EngineError (OpenContext κ)) := fun w =>
  match engine.openContext decoder settings binding w.engine with
  | (.ok state, s) =>
    let id := w.issued.contexts
    ⟨.ok ⟨id, state⟩, [.opening decoder settings binding (.ok id)],
      { w with engine := s, issued := { w.issued with contexts := id + 1 } }⟩
  | (.error e, s) =>
    ⟨.error e, [.opening decoder settings binding (.error e)], { w with engine := s }⟩

def allocFrame : Act σ (Except EngineError Frame) := fun w =>
  match engine.allocFrame w.engine with
  | (.ok picture, s) =>
    let id := w.issued.frames
    ⟨.ok ⟨id, picture⟩, [.frameAllocation (.ok id)],
      { w with engine := s, issued := { w.issued with frames := id + 1 } }⟩
  | (.error e, s) => ⟨.error e, [.frameAllocation (.error e)], { w with engine := s }⟩

section
variable {engine} {decoder : String} {mode : HardwareMode} {settings : CodecSettings}
  {binding : Option Binding} {w : World σ} {s : σ} {cause : EngineError}

theorem createDevice_of_ok (h : engine.createDevice decoder mode w.engine = (.ok (), s)) :
    createDevice engine decoder mode w =
      ⟨.ok w.issued.devices, [.deviceCreation decoder mode (.ok w.issued.devices)],
        { w with engine := s, issued.devices := w.issued.devices + 1 }⟩ := by
  simp only [createDevice, h]

theorem createDevice_of_error (h : engine.createDevice decoder mode w.engine = (.error cause, s)) :
    createDevice engine decoder mode w =
      ⟨.error cause, [.deviceCreation decoder mode (.error cause)], { w with engine := s }⟩ := by
  simp only [createDevice, h]

theorem openContext_of_ok {state : κ}
    (h : engine.openContext decoder settings binding w.engine = (.ok state, s)) :
    openContext engine decoder settings binding w =
      ⟨.ok ⟨w.issued.contexts, state⟩, [.opening decoder settings binding (.ok w.issued.contexts)],
        { w with engine := s, issued.contexts := w.issued.contexts + 1 }⟩ := by
  simp only [openContext, h]

theorem openContext_of_error
    (h : engine.openContext decoder settings binding w.engine = (.error cause, s)) :
    openContext engine decoder settings binding w =
      ⟨.error cause, [.opening decoder settings binding (.error cause)],
        { w with engine := s }⟩ := by
  simp only [openContext, h]

theorem allocFrame_of_ok {picture : Picture} (h : engine.allocFrame w.engine = (.ok picture, s)) :
    allocFrame engine w =
      ⟨.ok ⟨w.issued.frames, picture⟩, [.frameAllocation (.ok w.issued.frames)],
        { w with engine := s, issued.frames := w.issued.frames + 1 }⟩ := by
  simp only [allocFrame, h]

theorem allocFrame_of_error (h : engine.allocFrame w.engine = (.error cause, s)) :
    allocFrame engine w =
      ⟨.error cause, [.frameAllocation (.error cause)], { w with engine := s }⟩ := by
  simp only [allocFrame, h]

end

/-- allocates `count` frames, which there is room for: the frames, and the first failure if there was
one -/
def allocFrames (count : Nat) : Act σ (List Frame × Option EngineError) := fun w =>
  let c := collect engine.allocFrame count w.engine
  let first := w.issued.frames
  let frames := c.slots.zipIdx first |>.map fun (picture, id) => ⟨id, picture⟩
  ⟨(frames, c.failure),
    frames.map (fun frame => .frameAllocation (.ok frame.id)) ++
      c.failure.toList.map (fun e => .frameAllocation (.error e)),
    { w with engine := c.state, issued := { w.issued with frames := first + c.slots.length } }⟩

@[simp] theorem allocFrames_zero (w : World σ) : allocFrames engine 0 w = ⟨([], none), [], w⟩ := rfl

theorem allocFrames_succ (count : Nat) :
    allocFrames engine (count + 1) = (do
      match ← allocFrame engine with
      | .error e => return ([], some e)
      | .ok frame =>
        let (frames, failure) ← allocFrames engine count
        return (frame :: frames, failure)) := by
  ext w
  show _ = Act.bind _ _ w
  simp only [Act.bind, allocFrame, allocFrames, collect_succ]
  split
  · next picture s heq =>
    simp [heq, allocFrames, -bind_pure_comp, Nat.add_assoc, Nat.add_comm 1]
  · next e s heq => simp [heq, Pure.pure, Act.pure]

def submit (payload : Bytes) (context : OpenContext κ) :
    Act σ (Except EngineError Unit × OpenContext κ) := fun w =>
  match engine.sendPacket payload context.state w.engine with
  | (result, state, s) =>
    ⟨(result, { context with state }), [.submission payload result], { w with engine := s }⟩

/-- receives into a frame; the formats refused on the way are told after the answer -/
def receive (frame : Frame) (context : OpenContext κ) :
    Act σ (Except EngineError Unit × Frame × OpenContext κ) := fun w =>
  let r := engine.receiveFrame frame.picture context.state w.engine
  ⟨(r.result, { frame with picture := r.picture }, { context with state := r.context }),
    .reception frame.id r.result :: r.refusals.map (.notice ∘ .formatRefused),
    { w with engine := r.state }⟩

def flush (context : OpenContext κ) : Act σ (OpenContext κ) := fun w =>
  match engine.flush context.state w.engine with
  | (state, s) => ⟨{ context with state }, [.flush], { w with engine := s }⟩

/-- brings a picture to the host, into the staging frame; `source` is the number of the picture's
frame if it has one -/
def transfer (staging : Frame) (source : Option Nat) (picture : Picture) :
    Act σ (Except EngineError Unit × Frame) := fun w =>
  match engine.transfer staging.picture picture w.engine with
  | ((result, content), s) =>
    ⟨(result, { staging with picture := content }), [.transfer staging.id source result],
      { w with engine := s }⟩

/-- gives a resource back to the engine -/
def release (resource : Resource) : Act σ Unit := fun w =>
  ⟨(), [.release resource], { w with engine := engine.release resource.kind w.engine }⟩

/-- gives frames back, the first one first -/
def releaseFrames (frames : List Frame) : Act σ Unit := fun w =>
  ⟨(), frames.map fun frame => .release (.frame frame.id),
    { w with engine := frames.foldl (fun s _ => engine.release .frame s) w.engine }⟩

@[simp] theorem releaseFrames_nil (w : World σ) : releaseFrames engine [] w = ⟨(), [], w⟩ := rfl

theorem releaseFrames_cons (frame : Frame) (frames : List Frame) :
    releaseFrames engine (frame :: frames) =
      (release engine (.frame frame.id) >>= fun _ => releaseFrames engine frames) := rfl

/-- a ring of `count` frames; room is made for all of them first, and frames that are too few are
given back -/
def allocRing (count : Nat) : Act σ (Except Fault (Except EngineError (Ring Frame))) :=
  match Ring.reserve engine.frameSize count with
  | .error fault => return .error fault
  | .ok () => do
    let (frames, failure) ← allocFrames engine count
    match failure with
    | some cause =>
      releaseFrames engine frames
      return .ok (.error cause)
    | none => return (Ring.ofSlots frames).map .ok

section
variable {engine} {count : Nat}

theorem allocRing_of_overflows (h : Ring.Overflows engine.frameSize count) :
    allocRing engine count = pure (.error .capacityOverflow) := by
  rw [allocRing, Ring.reserve_of_overflows h]
  rfl

theorem allocRing_of_fits (h : ¬Ring.Overflows engine.frameSize count) :
    allocRing engine count = (do
      let (frames, failure) ← allocFrames engine count
      match failure with
      | some cause =>
        releaseFrames engine frames
        return .ok (.error cause)
      | none => return (Ring.ofSlots frames).map .ok) := by
  rw [allocRing, Ring.reserve_of_fits h]

end

end Act

end StreamDecode
