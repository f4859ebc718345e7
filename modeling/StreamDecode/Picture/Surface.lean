import StreamDecode.Picture.Format

/-!
# Choice of a surface format

An engine offers the formats that it can decode into; the choice falls on the format that was
negotiated, or on none.
-/

namespace StreamDecode

/-- the negotiated format was not among the offered ones -/
structure FormatRefusal where
  target : PixelFormat
  offered : List PixelFormat
  deriving DecidableEq

/-- the format that was negotiated for a codec context -/
structure SurfaceChoice where
  target : PixelFormat
  deriving DecidableEq

namespace SurfaceChoice

/-- the negotiated format, if it is offered -/
def choose (s : SurfaceChoice) (offered : List PixelFormat) :
    Except FormatRefusal PixelFormat :=
  if s.target ∈ offered then .ok s.target else .error ⟨s.target, offered⟩

theorem choose_eq_ok_iff (s : SurfaceChoice) (offered : List PixelFormat) (f : PixelFormat) :
    s.choose offered = .ok f ↔ s.target ∈ offered ∧ f = s.target := by
  unfold choose
  split <;> simp_all [eq_comm]

end SurfaceChoice

end StreamDecode
