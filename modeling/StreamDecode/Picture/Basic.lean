import StreamDecode.Error
import StreamDecode.Picture.Format

/-!
# Pictures

The content of a frame.  `strides` and `planes` are two lists, one entry for each plane; reading an
entry that is not there is a fault.
-/

namespace StreamDecode

abbrev Bytes := List UInt8

structure Picture where
  format : PixelFormat
  width : UInt32
  height : UInt32
  /-- bytes from one row of a plane to the next -/
  strides : List Nat
  planes : List Bytes
  /-- the number that the engine gave the picture, 0 where it numbers none -/
  sequence : Nat
  deriving DecidableEq

namespace Picture

/-- the content of a frame that nothing was decoded into -/
def blank : Picture := ⟨.yuv420p, 0, 0, [], [], 0⟩

/-- the stride of a plane that has to be there -/
def stride (p : Picture) (plane : Nat) : Except Fault Nat :=
  match p.strides[plane]? with
  | some n => .ok n
  | none => .error (.planeOutOfRange plane p.strides.length)

/-- the bytes of a plane that has to be there -/
def data (p : Picture) (plane : Nat) : Except Fault Bytes :=
  match p.planes[plane]? with
  | some bytes => .ok bytes
  | none => .error (.planeOutOfRange plane p.planes.length)

end Picture

end StreamDecode
