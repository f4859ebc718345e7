import StreamDecode.Text.Number

/-!
# Pixel formats

The layouts of a decoded picture.  The formats in `isHardware` are surfaces of an accelerator: their
planes cannot be read by the host.  A format without a name here carries the raw value of the
engine, and counts as a host format.
-/

namespace StreamDecode

inductive PixelFormat where
  | yuv420p
  | yuvj420p
  | yuv420p10
  | nv12
  | p010
  | vaapi
  | cuda
  | vdpau
  | qsv
  | d3d11
  | dxva2
  | videoToolbox
  | vulkan
  | drmPrime
  | mediaCodec
  | other (raw : Int32)
  deriving DecidableEq

namespace PixelFormat

/-- every format that has a name -/
def named : List PixelFormat :=
  [yuv420p, yuvj420p, yuv420p10, nv12, p010, vaapi, cuda, vdpau, qsv, d3d11, dxva2, videoToolbox,
   vulkan, drmPrime, mediaCodec]

/-- the format is a surface of an accelerator -/
def isHardware : PixelFormat → Bool
  | vaapi | cuda | vdpau | qsv | d3d11 | dxva2 | videoToolbox | vulkan | drmPrime | mediaCodec =>
    true
  | yuv420p | yuvj420p | yuv420p10 | nv12 | p010 | other _ => false

/-- the identifier of a format -/
def label : PixelFormat → String
  | yuv420p => "Yuv420p"
  | yuvj420p => "Yuvj420p"
  | yuv420p10 => "Yuv420p10"
  | nv12 => "Nv12"
  | p010 => "P010"
  | vaapi => "Vaapi"
  | cuda => "Cuda"
  | vdpau => "Vdpau"
  | qsv => "Qsv"
  | d3d11 => "D3d11"
  | dxva2 => "Dxva2"
  | videoToolbox => "VideoToolbox"
  | vulkan => "Vulkan"
  | drmPrime => "DrmPrime"
  | mediaCodec => "MediaCodec"
  | other raw => "Other(" ++ signedDecimal raw.toInt ++ ")"

end PixelFormat

end StreamDecode
