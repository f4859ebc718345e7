import StreamDecode.Packet
import StreamDecode.Session.Basic

/-!
# Decoding

Packets go in with `decode`, pictures come out with `nextFrame`, and `reset` drops what is buffered.
A packet is accepted only if the engine's padding follows it in its buffer.  A picture is received
into the next slot of the ring; if the host has to be able to read it, it takes the transfer path.
-/

namespace StreamDecode

/-- the greatest length that a buffer can be asked to have -/
def maxSize : Nat := UInt64.size - 1

/-- the size of a buffer that holds `len` bytes and the padding; a sum too great for a length is the
greatest length -/
def requiredSize (len padding : UInt64) : Nat := min (len.toNat + padding.toNat) maxSize

/-- the first `len` bytes of a buffer -/
def cut (buf : Bytes) (len : Nat) : Except Fault Bytes :=
  if len ≤ buf.length then .ok (buf.take len) else .error (.sliceOutOfRange len buf.length)

namespace Session

variable {σ κ : Type} (engine : Engine σ κ)

/-- sends a packet to the engine and counts it -/
def submit (s : Session κ) (payload : Bytes) : Act σ (Except SessionError Unit × Session κ) := do
  let (result, context) ← Act.submit engine payload s.context
  let s := { s with context, stats := s.stats.countSubmit }
  match result with
  | .ok () => return (.ok (), s)
  | .error cause =>
    Act.tell (.submitFailed cause)
    return (.error (.submit cause), { s with stats := s.stats.countSubmitError })

/-- submits the first `len` bytes of a buffer -/
def decode (s : Session κ) (buf : Bytes) (len : UInt64) : Act σ (Outcome κ Unit) :=
  if buf.length < requiredSize len engine.padding then
    return .ok
      (.error (.insufficientPadding len.toNat (buf.length - len.toNat) engine.padding.toNat), s)
  else
    match cut buf len.toNat with
    | .error fault => return .error fault
    | .ok payload => .ok <$> s.submit engine payload

/-- submits the payload of a packet -/
def decodePacket (s : Session κ) (packet : Packet) : Act σ (Outcome κ Unit) :=
  s.decode engine packet.padded packet.len.toUInt64

/-- hands out the picture in a slot by the transfer path -/
def handOut (s : Session κ) (slot : Nat) (frame : Frame) :
    Act σ (Except SessionError (Option OutputFrame) × Session κ) := do
  let (result, path) ← s.path.resolve engine (some frame.id) frame.picture
  let s := { s with path }
  match result with
  | .ok .direct => return (.ok (some ⟨frame, slot, .ring⟩), s)
  | .ok (.staged staged) =>
    return (.ok (some ⟨staged, slot, .staging⟩), { s with stats := s.stats.countTransfer })
  | .error cause =>
    Act.tell (.transferFailed cause)
    return (.error (.transfer cause), { s with stats := s.stats.countTransferError })

/-- hands out the picture that was received into the next slot -/
def produce (s : Session κ) (hostVisible : Bool) :
    Act σ (Outcome κ (Option OutputFrame)) :=
  match s.ring.advance with
  | .error fault => return .error fault
  | .ok ((slot, frame), ring) =>
    let s := { s with ring, stats := s.stats.countFrame }
    if s.preference = .software ∨ hostVisible then .ok <$> s.handOut engine slot frame
    else return .ok (.ok (some ⟨frame, slot, .ring⟩), s)

/-- the next picture, if the engine has one; with `hostVisible` it takes the transfer path -/
def nextFrame (s : Session κ) (hostVisible : Bool) : Act σ (Outcome κ (Option OutputFrame)) :=
  match s.ring.acquire with
  | .error fault => return .error fault
  | .ok (_, target) => do
    let (result, frame, context) ← Act.receive engine target s.context
    let s := { s with context, ring := s.ring.write frame }
    match result with
    | .ok () => s.produce engine hostVisible
    | .error cause =>
      if cause.isNoFrame then return .ok (.ok none, s)
      else
        Act.tell (.receiveFailed cause)
        return .ok (.error (.receive cause), { s with stats := s.stats.countReceiveError })

/-- drops what the engine has buffered; the ring keeps its contents -/
def reset (s : Session κ) : Act σ (Session κ) := do
  Act.tell (.flushing s.decoder)
  let context ← Act.flush engine s.context
  return { s with context }

end Session

end StreamDecode
