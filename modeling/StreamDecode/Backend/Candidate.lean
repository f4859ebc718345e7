import StreamDecode.Config.Basic

/-!
# Candidate backends

The decoders that are tried for a codec, in order.  Vendor backends come before the generic
one, and only the software preference tries them; the generic decoder is always the last.
-/

namespace StreamDecode

/-- how a backend reaches the hardware -/
inductive BackendKind where
  /-- a decoder that owns its device and hands out plain frames -/
  | vendor
  /-- a reference decoder in software -/
  | reference
  /-- the engine's own decoder, in software or through a device context -/
  | generic
  deriving DecidableEq, Repr

def BackendKind.label : BackendKind → String
  | vendor => "Vendor"
  | reference => "Reference"
  | generic => "Generic"

structure Candidate where
  name : String
  kind : BackendKind
  deriving DecidableEq, Repr

def candidates : Codec → Preference → List Candidate
  | .h264, .software =>
    [⟨"h264_nvv4l2", .vendor⟩, ⟨"h264_nvmpi", .vendor⟩, ⟨"h264_omx", .vendor⟩,
     ⟨"h264_v4l2m2m", .vendor⟩, ⟨"h264", .generic⟩]
  | .h264, .accelerated => [⟨"h264", .generic⟩]
  | .h265, .software =>
    [⟨"hevc_nvv4l2", .vendor⟩, ⟨"hevc_nvmpi", .vendor⟩, ⟨"hevc_omx", .vendor⟩,
     ⟨"hevc_v4l2m2m", .vendor⟩, ⟨"hevc", .generic⟩]
  | .h265, .accelerated => [⟨"hevc", .generic⟩]
  | .av1, .software => [⟨"libdav1d", .reference⟩, ⟨"av1", .generic⟩]
  | .av1, .accelerated => [⟨"av1", .generic⟩]

end StreamDecode
