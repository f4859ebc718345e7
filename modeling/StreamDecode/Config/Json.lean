import StreamDecode.Config.Basic
import StreamDecode.Flag.Text
import StreamDecode.Json.Value

/-!
# Configuration in JSON

A configuration is written as an object of its six fields in order, flag sets as their texts.

It is read from an object, in which known fields occur once at most and others are passed over, or
from an array of the first few fields in order.  A field that is not given has its default.  A
codec is read from its label, or from an object with the label as its one key and null behind it.
-/

namespace StreamDecode

namespace Flags

variable {t : FlagTable}

def ofJson? (v : Json.Value) : Option (Flags t) := v.text?.bind ofText?

def json (a : Flags t) : String := Json.quote a.text

end Flags

namespace Codec

def ofJson? : Json.Value → Option Codec
  | .quoted q => q.text?.bind ofLabel?
  | .object [(key, .null)] => key.text?.bind ofLabel?
  | _ => none

def json (f : Codec) : String := Json.quote f.label

end Codec

/-- a field of a configuration -/
inductive ConfigField where
  | streamFormat
  | width
  | height
  | perfOptions
  | bufferCount
  | threadCount
  deriving DecidableEq, Repr

namespace ConfigField

/-- the fields in the order in which they are written -/
def all : List ConfigField :=
  [.streamFormat, .width, .height, .perfOptions, .bufferCount, .threadCount]

def name : ConfigField → String
  | streamFormat => "video_format"
  | width => "width"
  | height => "height"
  | perfOptions => "perf_flags"
  | bufferCount => "buffer_count"
  | threadCount => "thread_count"

def ofName? (s : String) : Option ConfigField := all.find? (·.name == s)

/-- the value of a field as it is written -/
def json (c : SessionConfig) : ConfigField → String
  | streamFormat => c.streamFormat.json
  | width => decimal c.width.toNat
  | height => decimal c.height.toNat
  | perfOptions => c.perfOptions.json
  | bufferCount => decimal c.bufferCount.toNat
  | threadCount => decimal c.threadCount.toNat

/-- a field as a member of an object -/
def member (c : SessionConfig) (f : ConfigField) : String := Json.quote f.name ++ ":" ++ f.json c

/-- the configuration with the value of a field replaced -/
def assign? (c : SessionConfig) (v : Json.Value) : ConfigField → Option SessionConfig
  | streamFormat => (Flags.ofJson? v).map fun streamFormat => { c with streamFormat }
  | width => (v.natBelow UInt32.size).map fun n => { c with width := n.toUInt32 }
  | height => (v.natBelow UInt32.size).map fun n => { c with height := n.toUInt32 }
  | perfOptions => (Flags.ofJson? v).map fun perfOptions => { c with perfOptions }
  | bufferCount => (v.natBelow UInt64.size).map fun n => { c with bufferCount := n.toUInt64 }
  | threadCount => (v.natBelow UInt64.size).map fun n => { c with threadCount := n.toUInt64 }

end ConfigField

namespace SessionConfig

/-- an object of some fields of a configuration -/
def jsonOf (c : SessionConfig) (fields : List ConfigField) : String :=
  "\x7b" ++ String.intercalate "," (fields.map (·.member c)) ++ "\x7d"

def json (c : SessionConfig) : String := c.jsonOf ConfigField.all

/-- a configuration on the way, with the fields that were read -/
structure Draft where
  config : SessionConfig
  seen : List ConfigField

def Draft.blank : Draft := ⟨{}, []⟩

/-- takes a member of an object in; a known field may be given once -/
def Draft.add? (d : Draft) (member : Json.Quoted × Json.Value) : Option Draft :=
  match member.1.text? with
  | none => none
  | some key =>
    match ConfigField.ofName? key with
    | none => some d
    | some field =>
      if field ∈ d.seen then none
      else (field.assign? d.config member.2).map fun config => ⟨config, field :: d.seen⟩

def ofMembers? (members : List (Json.Quoted × Json.Value)) : Option SessionConfig :=
  (members.foldlM Draft.add? .blank).map (·.config)

/-- the items of an array are the first fields -/
def ofItems? (items : List Json.Value) : Option SessionConfig :=
  if items.length ≤ ConfigField.all.length then
    (ConfigField.all.zip items).foldlM (fun c (field, v) => field.assign? c v) {}
  else none

def ofJson? : Json.Value → Option SessionConfig
  | .object members => ofMembers? members
  | .array items => ofItems? items
  | _ => none

/-- reads a configuration from JSON text -/
def ofText? (s : String) : Option SessionConfig := (Json.parse s).bind ofJson?

end SessionConfig

end StreamDecode
