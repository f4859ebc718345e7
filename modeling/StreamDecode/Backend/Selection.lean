import StreamDecode.Backend.Negotiation

/-!
# Choice of a backend

`openBackend` opens the first candidate of a codec that can be opened.  A candidate that the
engine does not have, or whose backend is in use, is passed over; one that cannot be opened gives
back its device, the claim of the device and the claim of the backend, in this order, before the
next is tried.  Only a failure to allocate the codec context ends the search.
-/

namespace StreamDecode

/-- a candidate that was opened, with all that it holds -/
structure OpenBackend (κ : Type) where
  candidate : Candidate
  context : OpenContext κ
  accel : Option Accelerator
  /-- the claim of a vendor backend -/
  backendClaim : Option Claim

variable {σ κ : Type} (engine : Engine σ κ)

/-- the claim that a candidate needs before it is opened -/
def claimBackend (candidate : Candidate) : Act σ (Except SessionError (Option Claim)) :=
  match candidate.kind with
  | .vendor => do
    let claim ← Act.claim (backendKey engine.scope candidate.name)
    return claim.map some
  | .reference | .generic => return .ok none

/-- a device for a decoder; a decoder without hardware modes takes none -/
def acquireAccel (decoder : String) : Act σ (Option Accelerator) := do
  let modes ← Act.hardwareModes engine decoder
  if modes.isEmpty then return none else negotiate engine decoder modes

/-- gives back what a candidate holds that was not opened -/
def abandon (accel : Option Accelerator) (backendClaim : Option Claim) : Act σ Unit := do
  disposeAccel engine accel
  Act.unclaimAll backendClaim.toList

/-- the first candidate of a list that can be opened -/
def openFirst (codec : Codec) (preference : Preference) (settings : CodecSettings) :
    List Candidate → Act σ (Except SessionError (OpenBackend κ))
  | [] => do
    Act.tell (.noDecoder codec preference)
    return .error (.noDecoder codec)
  | candidate :: rest => do
    if ← Act.hasDecoder engine candidate.name then
      Act.tell (.tryingDecoder candidate.name)
      match ← claimBackend engine candidate with
      | .error _ =>
        Act.tell (.decoderBusy candidate.name (backendKey engine.scope candidate.name))
        openFirst codec preference settings rest
      | .ok backendClaim =>
        let accel ← acquireAccel engine candidate.name
        match ← Act.openContext engine candidate.name settings (accel.map (·.binding)) with
        | .ok context => return .ok ⟨candidate, context, accel, backendClaim⟩
        | .error (.outOfMemory what) =>
          Act.tell (.contextNotAllocated candidate.name what)
          abandon engine accel backendClaim
          return .error (.allocation (.outOfMemory what))
        | .error cause =>
          Act.tell (.decoderNotOpened candidate.name cause)
          abandon engine accel backendClaim
          openFirst codec preference settings rest
    else
      Act.tell (.decoderMissing candidate.name)
      openFirst codec preference settings rest

/-- opens the first candidate of a codec that can be opened -/
def openBackend (codec : Codec) (preference : Preference) (settings : CodecSettings) :
    Act σ (Except SessionError (OpenBackend κ)) :=
  openFirst engine codec preference settings (candidates codec preference)

/-- gives an opened backend back: its context, its device, and the claims -/
def OpenBackend.dispose (b : OpenBackend κ) : Act σ Unit := do
  Act.release engine (.context b.context.id)
  abandon engine b.accel b.backendClaim

end StreamDecode
