import Mathlib.Data.Multiset.Bind
import StreamDecode.Act

/-!
# What has to be given back

A station holds claims, devices, codec contexts and frames until it gives them back.  A device keeps
the key that guards it, and so does the context of a vendor backend: as long as the device or the
context is there, the key is not free to be given back.

* `Holdings.keys`, `Holdings.resources`   what is claimed and what is handed out, with such holdings;
* `Exchange`   what each event takes from the holdings and what it puts there.
-/

namespace StreamDecode

/-! ## keys of backends -/

/-- the decoders that own their device -/
def vendorBackends : List String :=
  Codec.all.flatMap fun codec =>
    ((candidates codec .software ++ candidates codec .accelerated).filter (·.kind = .vendor)).map
      (·.name)

/-- the key that has to be held to open a decoder -/
def backingKey (scope decoder : String) : Option String :=
  if decoder ∈ vendorBackends then some (backendKey scope decoder) else none

def BackendKind.key? (kind : BackendKind) (scope decoder : String) : Option String :=
  if kind = .vendor then some (backendKey scope decoder) else none

theorem mem_vendorBackends {c : Candidate} {codec : Codec} {preference : Preference}
    (h : c ∈ candidates codec preference) : c.name ∈ vendorBackends ↔ c.kind = .vendor := by
  revert c
  cases codec <;> cases preference <;> decide

theorem backingKey_of_mem (scope : String) {c : Candidate} {codec : Codec}
    {preference : Preference} (h : c ∈ candidates codec preference) :
    backingKey scope c.name = c.kind.key? scope c.name := by
  simp [backingKey, BackendKind.key?, mem_vendorBackends h]

def HardwareMode.key (mode : HardwareMode) (scope : String) : String :=
  deviceKey scope mode.device.name

/-! ## holdings -/

inductive Holding where
  /-- a claimed key that guards nothing at present -/
  | key (key : String)
  /-- a device with the key that guards it -/
  | device (id : Nat) (key : String)
  /-- a codec context with the key of its backend, if that has one -/
  | context (id : Nat) (key : Option String)
  /-- a codec context; the key of its backend was given back before it -/
  | closing (id : Nat)
  | frame (id : Nat)
  deriving DecidableEq

namespace Holding

def keys : Holding → Multiset String
  | key k | device _ k | context _ (some k) => {k}
  | context _ none | closing _ | frame _ => 0

def resources : Holding → Multiset Resource
  | key _ => 0
  | device id _ => {.device id}
  | context id _ | closing id => {.context id}
  | frame id => {.frame id}

end Holding

abbrev Holdings := Multiset Holding

def spare : Option String → Holdings
  | some k => {.key k}
  | none => 0

@[simp] theorem spare_none : spare none = 0 := rfl
@[simp] theorem spare_some (k : String) : spare (some k) = {.key k} := rfl

namespace Holdings

def keys (h : Holdings) : Multiset String := h.bind Holding.keys

def resources (h : Holdings) : Multiset Resource := h.bind Holding.resources

/-- no context has outlived the key of its backend -/
def Settled (h : Holdings) : Prop := ∀ id, .closing id ∉ h

def ofFrames (frames : List Frame) : Holdings := ↑(frames.map fun f => Holding.frame f.id)

/-- a context has outlived the key of its backend, and all that is left besides are frames and at
most one key -/
def Winding (h : Holdings) (id : Nat) : Prop :=
  ∃ (key : Option String) (frames : List Frame), h = {.closing id} + (spare key + ofFrames frames)

section
variable (a : Holding) (g h : Holdings)

@[simp] theorem keys_zero : keys 0 = 0 := rfl
@[simp] theorem keys_singleton : keys {a} = a.keys := Multiset.singleton_bind _ _
@[simp] theorem keys_cons : keys (a ::ₘ h) = a.keys + keys h := Multiset.cons_bind _ _ _
@[simp] theorem keys_add : keys (g + h) = keys g + keys h := Multiset.add_bind _ _ _
@[simp] theorem resources_zero : resources 0 = 0 := rfl
@[simp] theorem resources_singleton : resources {a} = a.resources := Multiset.singleton_bind _ _
@[simp] theorem resources_add : resources (g + h) = resources g + resources h :=
  Multiset.add_bind _ _ _

theorem settled_zero : Settled 0 := fun _ => Multiset.notMem_zero _

theorem settled_add : Settled (g + h) ↔ Settled g ∧ Settled h := by
  simp [Settled, forall_and]

end

@[simp] theorem keys_spare (key : Option String) : keys (spare key) = ↑key.toList := by
  cases key <;> rfl

@[simp] theorem resources_spare (key : Option String) : resources (spare key) = 0 := by
  cases key <;> rfl

@[simp] theorem settled_spare (key : Option String) : Settled (spare key) := by
  cases key <;> simp [Settled]

theorem key_mem_spare {k : String} {key : Option String} : .key k ∈ spare key ↔ key = some k := by
  cases key <;> simp [eq_comm]

theorem device_notMem_spare {id : Nat} {k : String} (key : Option String) :
    .device id k ∉ spare key := by
  cases key <;> simp

theorem context_notMem_spare {id : Nat} {k : Option String} (key : Option String) :
    .context id k ∉ spare key := by
  cases key <;> simp

@[simp] theorem ofFrames_nil : ofFrames [] = 0 := rfl

@[simp] theorem ofFrames_cons (frame : Frame) (frames : List Frame) :
    ofFrames (frame :: frames) = {.frame frame.id} + ofFrames frames := rfl

@[simp] theorem keys_ofFrames (frames : List Frame) : keys (ofFrames frames) = 0 := by
  induction frames with
  | nil => rfl
  | cons frame frames ih => rw [ofFrames_cons, keys_add, ih, keys_singleton]; rfl

@[simp] theorem resources_ofFrames (frames : List Frame) :
    resources (ofFrames frames) = ↑(frames.map fun f => Resource.frame f.id) := by
  induction frames with
  | nil => rfl
  | cons frame frames ih => rw [ofFrames_cons, resources_add, ih, resources_singleton]; rfl

@[simp] theorem settled_ofFrames (frames : List Frame) : Settled (ofFrames frames) := by
  simp [Settled, ofFrames]

theorem mem_keys {h : Holdings} {k : String} : k ∈ keys h ↔ ∃ a ∈ h, k ∈ a.keys :=
  Multiset.mem_bind

theorem keys_context (id : Nat) (key : Option String) :
    Holding.keys (.context id key) = ↑key.toList := by
  cases key <;> rfl

end Holdings

/-! ## exchanges -/

namespace Event

/-- nothing is acquired, claimed or given back, and no device or context is asked for -/
def isIdle : Event → Bool
  | notice (.claimed _) | notice (.unclaimed _) => false
  | notice _ | lookup _ _ | listing _ | submission _ _ | reception _ _ | flush | transfer _ _ _ =>
    true
  | frameAllocation (.error _) => true
  | frameAllocation (.ok _) | deviceCreation _ _ _ | opening _ _ _ _ | release _ => false

/-- a claim or a context is given back -/
def isHandback : Event → Bool
  | notice (.unclaimed _) | release (.context _) => true
  | _ => false

theorem not_isHandback_of_isIdle {e : Event} (h : e.isIdle) : ¬e.isHandback := by
  cases e with
  | notice n => cases n <;> first | exact Bool.false_ne_true | cases h
  | release r => cases h
  | _ => exact Bool.false_ne_true

end Event

/-- what an event takes from the holdings of a station, and what it puts there -/
inductive Exchange (scope : String) : Event → Holdings → Holdings → Prop
  | idle {e : Event} (h : e.isIdle) : Exchange scope e 0 0
  | claim (k : String) : Exchange scope (.notice (.claimed k)) 0 {.key k}
  | unclaim (k : String) : Exchange scope (.notice (.unclaimed k)) {.key k} 0
  | create (decoder : String) (mode : HardwareMode) (id : Nat) :
    Exchange scope (.deviceCreation decoder mode (.ok id)) {.key (mode.key scope)}
      {.device id (mode.key scope)}
  | refuse (decoder : String) (mode : HardwareMode) (cause : EngineError) :
    Exchange scope (.deviceCreation decoder mode (.error cause)) {.key (mode.key scope)}
      {.key (mode.key scope)}
  | openContext (decoder : String) (settings : CodecSettings) (binding : Option Binding)
      (id : Nat) :
    Exchange scope (.opening decoder settings binding (.ok id)) (spare (backingKey scope decoder))
      {.context id (backingKey scope decoder)}
  | openFail (decoder : String) (settings : CodecSettings) (binding : Option Binding)
      (cause : EngineError) :
    Exchange scope (.opening decoder settings binding (.error cause))
      (spare (backingKey scope decoder)) (spare (backingKey scope decoder))
  | allocate (id : Nat) : Exchange scope (.frameAllocation (.ok id)) 0 {.frame id}
  | surrender (id : Nat) (k : String) :
    Exchange scope (.notice (.unclaimed k)) {.context id (some k)} {.closing id}
  | returnDevice (id : Nat) (k : String) :
    Exchange scope (.release (.device id)) {.device id k} {.key k}
  | returnContext (id : Nat) : Exchange scope (.release (.context id)) {.context id none} 0
  | close (id : Nat) : Exchange scope (.release (.context id)) {.closing id} 0
  | returnFrame (id : Nat) : Exchange scope (.release (.frame id)) {.frame id} 0

namespace Exchange

variable {scope : String} {e : Event} {give get : Holdings}

/-- the keys balance with the claims and releases of the event -/
theorem keys_add (h : Exchange scope e give get) :
    ↑e.unclaimed?.toList + get.keys = ↑e.claimed?.toList + give.keys := by
  cases h with
  | @idle e h =>
    cases e with
    | notice n => cases n <;> first | rfl | cases h
    | _ => rfl
  | openContext decoder settings binding id =>
    simp [Event.claimed?, Event.unclaimed?, Holdings.keys_context]
  | openFail decoder settings binding cause => rfl
  | _ => rfl

/-- the resources balance with what the event hands out and gives back -/
theorem resources_add (h : Exchange scope e give get) :
    ↑e.released?.toList + get.resources = ↑e.acquired?.toList + give.resources := by
  cases h with
  | @idle e h =>
    cases e with
    | frameAllocation result => cases result <;> first | rfl | cases h
    | deviceCreation _ _ _ | opening _ _ _ _ | release _ => cases h
    | _ => rfl
  | openContext decoder settings binding id =>
    simp [Event.acquired?, Event.released?, Holding.resources]
  | openFail decoder settings binding cause =>
    simp [Event.acquired?, Event.released?]
  | _ => rfl

/-- only the release of a key can let a context outlive its key -/
theorem settled (h : Exchange scope e give get) (hu : e.unclaimed? = none) : get.Settled := by
  cases h with
  | surrender id k => cases hu
  | idle _ | unclaim _ | returnContext _ | close _ | returnFrame _ => exact Holdings.settled_zero
  | openFail decoder settings binding cause => exact Holdings.settled_spare _
  | _ => simp [Holdings.Settled]

theorem keys_eq (h : Exchange scope e give get) (hc : e.claimed? = none)
    (hu : e.unclaimed? = none) : get.keys = give.keys := by
  simpa [hc, hu] using h.keys_add

theorem give_of_creation {decoder : String} {mode : HardwareMode} {result : Except EngineError Nat}
    (h : Exchange scope (.deviceCreation decoder mode result) give get) :
    give = {.key (mode.key scope)} := by
  cases h with
  | idle he => cases he
  | create _ _ id | refuse _ _ cause => rfl

theorem get_of_creation {decoder : String} {mode : HardwareMode} {id : Nat}
    (h : Exchange scope (.deviceCreation decoder mode (.ok id)) give get) :
    get = {.device id (mode.key scope)} := by
  cases h with
  | idle he => cases he
  | create _ _ id => rfl

theorem give_of_opening {decoder : String} {settings : CodecSettings} {binding : Option Binding}
    {result : Except EngineError Nat}
    (h : Exchange scope (.opening decoder settings binding result) give get) :
    give = spare (backingKey scope decoder) := by
  cases h with
  | idle he => cases he
  | openContext _ _ _ id | openFail _ _ _ cause => rfl

theorem get_of_opening {decoder : String} {settings : CodecSettings} {binding : Option Binding}
    {id : Nat} (h : Exchange scope (.opening decoder settings binding (.ok id)) give get) :
    get = {.context id (backingKey scope decoder)} := by
  cases h with
  | idle he => cases he
  | openContext _ _ _ id => rfl

/-- a device goes when it is given back, and not before -/
theorem device_of_mem_give (h : Exchange scope e give get) {id : Nat} {key : String}
    (hmem : .device id key ∈ give) : e = .release (.device id) := by
  cases h with
  | openContext _ _ _ _ | openFail _ _ _ _ => exact absurd hmem (Holdings.device_notMem_spare _)
  | returnDevice id' key' =>
    cases Multiset.mem_singleton.1 hmem
    rfl
  | _ => simp at hmem

/-- a context goes when it is given back, or outlives its key -/
theorem context_of_mem_give (h : Exchange scope e give get) {id : Nat} {key : Option String}
    (hmem : .context id key ∈ give) : e = .release (.context id) ∨ .closing id ∈ get := by
  cases h with
  | openContext _ _ _ _ | openFail _ _ _ _ => exact absurd hmem (Holdings.context_notMem_spare _)
  | surrender id' k =>
    cases Multiset.mem_singleton.1 hmem
    exact .inr (Multiset.mem_singleton_self _)
  | returnContext id' =>
    cases Multiset.mem_singleton.1 hmem
    exact .inl rfl
  | _ => simp at hmem

theorem closing_of_mem_give (h : Exchange scope e give get) {id : Nat}
    (hmem : .closing id ∈ give) : e = .release (.context id) := by
  cases h with
  | openContext _ _ _ _ | openFail _ _ _ _ => exact absurd hmem (Holdings.settled_spare _ _)
  | close id' =>
    cases Multiset.mem_singleton.1 hmem
    rfl
  | _ => simp at hmem

end Exchange

end StreamDecode
