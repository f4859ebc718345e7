import StreamDecode.Engine.Synthetic
import StreamDecode.Notice

/-!
# Synthetic resources as text

One line that shows the frames and devices of a synthetic engine, with the counts of its ledger.
-/

namespace StreamDecode

namespace Synthetic

/-- text between braces, with blanks inside -/
def braced (body : String) : String := "\x7b " ++ body ++ " \x7d"

/-- a name and the fields of a record, in order -/
def record (name : String) (fields : List (String × String)) : String :=
  name ++ " " ++ braced (String.intercalate ", " (fields.map fun (key, value) => key ++ ": " ++ value))

def quoted (s : String) : String := "\"" ++ s ++ "\""

def describeNumbers (numbers : List Nat) : String := Notice.bracketed (numbers.map decimal)

def describePlanes (planes : List Bytes) : String :=
  Notice.bracketed (planes.map fun bytes => describeNumbers (bytes.map (·.toNat)))

/-- the counts of the resources that are handed out -/
def Ledger.describe (l : Ledger) : String :=
  let counts := l.live.map fun (kind, n) => quoted kind.label ++ ": " ++ decimal n
  record "Ledger" [("live", "\x7b" ++ String.intercalate ", " counts ++ "\x7d")]

/-- what ties a resource to the ledger of its engine -/
def Ledger.describeToken (l : Ledger) (kind : ResourceKind) : String :=
  record "Token"
    [("kind", quoted kind.label), ("ledger", record "RefCell" [("value", l.describe)])]

/-- a frame with that token, if it has one -/
def describePicture (p : Picture) (token : Option String) : String :=
  record "ScriptedFrame"
    [("format", p.format.label),
     ("width", decimal p.width.toNat),
     ("height", decimal p.height.toNat),
     ("planes", describePlanes p.planes),
     ("strides", describeNumbers p.strides),
     ("sequence", decimal p.sequence),
     ("_token", match token with
       | some t => "Some(" ++ t ++ ")"
       | none => "None")]

/-- a frame that an engine handed out -/
def Ledger.describeFrame (l : Ledger) (f : Frame) : String :=
  describePicture f.picture (some (l.describeToken .frame))

/-- a frame that no engine handed out -/
def describeLoose (p : Picture) : String := describePicture p none

def Ledger.describeDevice (l : Ledger) : String :=
  record "ScriptedDevice" [("_token", l.describeToken .device)]

end Synthetic

end StreamDecode
