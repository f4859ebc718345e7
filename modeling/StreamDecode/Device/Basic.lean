import StreamDecode.Flag.Set
import StreamDecode.Picture.Format
import StreamDecode.Text.Number

/-!
# Accelerator devices

* `DeviceKind`     the kinds of device that pictures can be decoded on;
* `HardwareMode`   one way, advertised by a decoder, to decode on such a device.

`DeviceKind.name` is the same for all kinds without a name of their own; `DeviceKind.title` tells
them apart.
-/

namespace StreamDecode

inductive DeviceKind where
  | vdpau
  | cuda
  | vaapi
  | dxva2
  | qsv
  | videoToolbox
  | d3d11va
  | drm
  | openCl
  | mediaCodec
  | vulkan
  | other (raw : Int32)
  deriving DecidableEq

namespace DeviceKind

/-- every kind that has a name -/
def named : List DeviceKind :=
  [vdpau, cuda, vaapi, dxva2, qsv, videoToolbox, d3d11va, drm, openCl, mediaCodec, vulkan]

/-- the name under which a device is claimed -/
def name : DeviceKind → String
  | vdpau => "vdpau"
  | cuda => "cuda"
  | vaapi => "vaapi"
  | dxva2 => "dxva2"
  | qsv => "qsv"
  | videoToolbox => "videotoolbox"
  | d3d11va => "d3d11va"
  | drm => "drm"
  | openCl => "opencl"
  | mediaCodec => "mediacodec"
  | vulkan => "vulkan"
  | other _ => "unknown"

/-- the name of a device in messages -/
def title : DeviceKind → String
  | other raw => "unknown(" ++ signedDecimal raw.toInt ++ ")"
  | known => known.name

/-- the identifier of a kind -/
def label : DeviceKind → String
  | vdpau => "Vdpau"
  | cuda => "Cuda"
  | vaapi => "Vaapi"
  | dxva2 => "Dxva2"
  | qsv => "Qsv"
  | videoToolbox => "VideoToolbox"
  | d3d11va => "D3d11va"
  | drm => "Drm"
  | openCl => "OpenCl"
  | mediaCodec => "MediaCodec"
  | vulkan => "Vulkan"
  | other raw => "Other(" ++ signedDecimal raw.toInt ++ ")"

end DeviceKind

/-- the ways to set up a hardware mode -/
def setupTable : FlagTable where
  typeName := "HwConfigMethods"
  flags := [⟨"HW_DEVICE_CTX", 0x01⟩, ⟨"HW_FRAMES_CTX", 0x02⟩, ⟨"INTERNAL", 0x04⟩, ⟨"AD_HOC", 0x08⟩]

abbrev SetupMethods := Flags setupTable

/-- the caller supplies a device context -/
def SetupMethods.deviceContext : SetupMethods := ⟨0x01⟩

/-- a way to decode on a device, as a decoder advertises it -/
structure HardwareMode where
  /-- the position in the decoder's own list -/
  index : Nat
  device : DeviceKind
  format : PixelFormat
  methods : SetupMethods
  deriving DecidableEq

/-- the mode runs on a device context that is created for the decoder -/
def HardwareMode.takesDevice (m : HardwareMode) : Bool :=
  m.methods.contains SetupMethods.deviceContext

end StreamDecode
