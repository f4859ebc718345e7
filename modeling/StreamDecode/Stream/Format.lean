import StreamDecode.Error
import StreamDecode.Flag.Set

/-!
# Stream formats

The formats a host announces for a stream, as a flag set: one flag for each profile, and one mask
for the four bits of each codec.  `StreamFormat.codec` answers with the first codec, in the order
H.264, H.265, AV1, of which any bit is set.
-/

namespace StreamDecode

def streamFormatTable : FlagTable where
  typeName := "VideoFormat"
  flags :=
    [⟨"H264", 0x0001⟩, ⟨"H265", 0x0100⟩, ⟨"H265_MAIN10", 0x0200⟩, ⟨"AV1_MAIN8", 0x1000⟩,
     ⟨"AV1_MAIN10", 0x2000⟩, ⟨"MASK_H264", 0x000F⟩, ⟨"MASK_H265", 0x0F00⟩, ⟨"MASK_AV1", 0xF000⟩]

abbrev StreamFormat := Flags streamFormatTable

namespace StreamFormat

def h264 : StreamFormat := ⟨0x0001⟩
def h265 : StreamFormat := ⟨0x0100⟩
def av1Main8 : StreamFormat := ⟨0x1000⟩

def maskH264 : StreamFormat := ⟨0x000F⟩
def maskH265 : StreamFormat := ⟨0x0F00⟩
def maskAv1 : StreamFormat := ⟨0xF000⟩

/-- the codec that a format belongs to -/
def codec (f : StreamFormat) : Except SessionError Codec :=
  if f.intersects maskH264 then .ok .h264
  else if f.intersects maskH265 then .ok .h265
  else if f.intersects maskAv1 then .ok .av1
  else .error (.unsupportedFormat f.bits)

/-- the plainest format of a codec -/
def ofCodec : Codec → StreamFormat
  | .h264 => h264
  | .h265 => h265
  | .av1 => av1Main8

theorem codec_ofCodec (f : Codec) : (ofCodec f).codec = .ok f := by
  cases f <;> rfl

end StreamFormat

end StreamDecode
