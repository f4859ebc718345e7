import StreamDecode.Engine.Acts

/-!
# The transfer path

A session on a device keeps one staging frame, into which pictures in the negotiated surface format
are brought to the host.  Any other picture is passed through as it is.
-/

namespace StreamDecode

/-- the staging frame of a session on a device -/
structure Staging where
  format : PixelFormat
  frame : Frame
  deriving DecidableEq

/-- a session in software has no staging frame -/
abbrev TransferPath := Option Staging

/-- what became of a picture on the transfer path -/
inductive Resolution where
  /-- it is handed out as it is -/
  | direct
  /-- it was brought into the staging frame -/
  | staged (frame : Frame)
  deriving DecidableEq

namespace TransferPath

/-- the surface format that was negotiated -/
def format (path : TransferPath) : Option PixelFormat := path.map (·.format)

/-- the picture is in the negotiated surface format -/
def needsTransfer (path : TransferPath) (picture : Picture) : Bool :=
  path.format == some picture.format

variable {σ κ : Type} (engine : Engine σ κ)

/-- what to hand out for a picture; `source` is the number of its frame if it has one -/
def resolve (path : TransferPath) (source : Option Nat) (picture : Picture) :
    Act σ (Except EngineError Resolution × TransferPath) :=
  match path with
  | none => return (.ok .direct, none)
  | some staging =>
    if staging.format = picture.format then do
      let (result, frame) ← Act.transfer engine staging.frame source picture
      return (result.map fun _ => .staged frame, some { staging with frame })
    else return (.ok .direct, some staging)

/-- gives the staging frame back if there is one -/
def dispose (path : TransferPath) : Act σ Unit :=
  match path with
  | none => return ()
  | some staging => Act.release engine (.frame staging.frame.id)

end TransferPath

end StreamDecode
