/-!
# Codecs

The compressed video codecs that a session can decode.
-/

namespace StreamDecode

inductive Codec where
  | h264
  | h265
  | av1
  deriving DecidableEq, Repr

namespace Codec

def all : List Codec := [.h264, .h265, .av1]

/-- the identifier of a codec in configuration text -/
def label : Codec → String
  | h264 => "H264"
  | h265 => "H265"
  | av1 => "Av1"

/-- the name of a codec in messages -/
def title : Codec → String
  | h264 => "H.264"
  | h265 => "H.265"
  | av1 => "AV1"

def ofLabel? (s : String) : Option Codec := all.find? (·.label == s)

theorem ofLabel?_label (f : Codec) : ofLabel? f.label = some f := by
  cases f <;> decide

end Codec

end StreamDecode
