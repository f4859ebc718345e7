import StreamDecode.Engine.Basic
import StreamDecode.Notice

/-!
# Events

What happens in the course of an operation, in order: notices, questions to the engine with their
answers, and resources given back.  A claim and its release are seen by their notices.

`Event.acquired?` and `Event.released?` say which resource an event hands out or gives back.
-/

namespace StreamDecode

inductive Event where
  | notice (n : Notice)
  | lookup (decoder : String) (found : Bool)
  | listing (decoder : String)
  | deviceCreation (decoder : String) (mode : HardwareMode) (result : Except EngineError Nat)
  | opening (decoder : String) (settings : CodecSettings) (binding : Option Binding)
      (result : Except EngineError Nat)
  | frameAllocation (result : Except EngineError Nat)
  | submission (payload : Bytes) (result : Except EngineError Unit)
  | reception (frame : Nat) (result : Except EngineError Unit)
  | flush
  | transfer (staging : Nat) (source : Option Nat) (result : Except EngineError Unit)
  | release (resource : Resource)

namespace Event

def notice? : Event → Option Notice
  | notice n => some n
  | _ => none

def acquired? : Event → Option Resource
  | deviceCreation _ _ (.ok id) => some (.device id)
  | opening _ _ _ (.ok id) => some (.context id)
  | frameAllocation (.ok id) => some (.frame id)
  | _ => none

def released? : Event → Option Resource
  | release r => some r
  | _ => none

/-- the key that a claim takes -/
def claimed? : Event → Option String
  | notice (.claimed key) => some key
  | _ => none

/-- the key that a release of a claim frees -/
def unclaimed? : Event → Option String
  | notice (.unclaimed key) => some key
  | _ => none

end Event

/-- a run of events, the earliest first -/
abbrev Trace := List Event

/-- the notices of a trace -/
def Trace.notices (t : Trace) : List Notice := t.filterMap Event.notice?

end StreamDecode
