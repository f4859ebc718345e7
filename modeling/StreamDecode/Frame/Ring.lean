import StreamDecode.Error

/-!
# The frame ring

A fixed number of slots that are filled in turn.  `next` is the slot that is written to, `current`
the last one that was produced.  A slot is produced by `advance`; what was written to it before stays
until the ring comes round.

Slots are plain data: an index that is out of range, or a ring without slots, is a fault.

A ring is made in two steps.  `Ring.reserve` makes room for all slots of its list at once; more bytes
than a list can have are a fault, before the first slot is allocated.  Up to that bound the memory is
taken to be there.  `collect` then allocates the slots one after the other.

* `Ring.reserve_of_overflows`, `Ring.reserve_of_fits`   there is room for slots that do not overflow;
* `collect_succ`    the first slot and then the others, unless the first one fails;
* `collectOnto_eq`  slots made before stand in front;
* `acquire_of_lt`, `advance_of_lt`   a ring whose cursor is in range works without a fault.
-/

namespace StreamDecode

/-! ## slots -/

/-- what a number of allocations left: the slots, the first failure if there was one, and the state
of the allocator -/
structure Collected (σ ε α : Type) where
  slots : List α
  failure : Option ε
  state : σ
  deriving DecidableEq

section
variable {σ ε α : Type} (alloc : σ → Except ε α × σ)

/-- allocates up to `count` slots more; `made` are the slots so far, backwards -/
def collectOnto : Nat → List α → σ → Collected σ ε α
  | 0, made, s => ⟨made.reverse, none, s⟩
  | count + 1, made, s =>
    match alloc s with
    | (.ok a, s) => collectOnto count (a :: made) s
    | (.error e, s) => ⟨made.reverse, some e, s⟩

/-- allocates `count` slots, which there is room for; the first failure ends it -/
def collect (count : Nat) (s : σ) : Collected σ ε α := collectOnto alloc count [] s

theorem collectOnto_eq (count : Nat) (made : List α) (s : σ) :
    collectOnto alloc count made s =
      { collect alloc count s with slots := made.reverse ++ (collect alloc count s).slots } := by
  induction count generalizing made s with
  | zero => simp [collect, collectOnto]
  | succ count ih =>
    simp only [collect, collectOnto]
    split
    · next a t _ =>
      rw [ih (a :: made), ih [a]]
      simp
    · simp

@[simp] theorem collect_zero (s : σ) : collect alloc 0 s = ⟨[], none, s⟩ := rfl

theorem collect_succ (count : Nat) (s : σ) :
    collect alloc (count + 1) s =
      match alloc s with
      | (.ok a, s) =>
        { collect alloc count s with slots := a :: (collect alloc count s).slots }
      | (.error e, s) => ⟨[], some e, s⟩ := by
  simp only [collect, collectOnto]
  split
  · rw [collectOnto_eq]
    rfl
  · rfl

end

/-! ## the ring -/

structure Ring (α : Type) where
  slots : List α
  current : Option Nat
  next : Nat
  deriving DecidableEq

namespace Ring

/-- the bytes that a list can have: no more than a signed word can count -/
def maxBytes : Nat := 0x7fffffffffffffff

/-- so many slots of that size take more bytes than a list can have -/
def Overflows (size count : Nat) : Prop := maxBytes < size * count

instance (size count : Nat) : Decidable (Overflows size count) :=
  inferInstanceAs (Decidable (maxBytes < size * count))

/-- makes room for `count` slots of `size` bytes each -/
def reserve (size count : Nat) : Except Fault Unit :=
  if Overflows size count then .error .capacityOverflow else .ok ()

section
variable {size count : Nat}

theorem reserve_of_overflows (h : Overflows size count) :
    reserve size count = .error .capacityOverflow := if_pos h

theorem reserve_of_fits (h : ¬Overflows size count) : reserve size count = .ok () := if_neg h

end

variable {α : Type}

/-- a ring that has produced nothing yet -/
def ofSlots : List α → Except Fault (Ring α)
  | [] => .error .emptyRing
  | slots => .ok ⟨slots, none, 0⟩

def capacity (r : Ring α) : Nat := r.slots.length

def slot? (r : Ring α) (index : Nat) : Option α := r.slots[index]?

/-- a slot that has to be there -/
def slot (r : Ring α) (index : Nat) : Except Fault α :=
  match r.slots[index]? with
  | some a => .ok a
  | none => .error (.slotOutOfRange index r.slots.length)

/-- the slot to write to, with its index -/
def acquire (r : Ring α) : Except Fault (Nat × α) :=
  (r.slot r.next).map (r.next, ·)

/-- writes to the slot that `acquire` names -/
def write (r : Ring α) (a : α) : Ring α := { r with slots := r.slots.set r.next a }

/-- the slot that was written to becomes the current one -/
def advance (r : Ring α) : Except Fault ((Nat × α) × Ring α) :=
  (r.slot r.next).map fun a =>
    ((r.next, a), { r with current := some r.next, next := (r.next + 1) % r.slots.length })

/-- the slot that was produced last, with its index -/
def latest (r : Ring α) : Except Fault (Option (Nat × α)) :=
  match r.current with
  | none => .ok none
  | some index => (r.slot index).map fun a => some (index, a)

theorem slot_of_lt {r : Ring α} {index : Nat} (h : index < r.slots.length) :
    r.slot index = .ok r.slots[index] := by
  rw [slot, List.getElem?_eq_getElem h]

theorem acquire_of_lt {r : Ring α} (h : r.next < r.slots.length) :
    r.acquire = .ok (r.next, r.slots[r.next]) := by
  rw [acquire, slot_of_lt h]
  rfl

theorem advance_of_lt {r : Ring α} (h : r.next < r.slots.length) :
    r.advance = .ok ((r.next, r.slots[r.next]),
      { r with current := some r.next, next := (r.next + 1) % r.slots.length }) := by
  rw [advance, slot_of_lt h]
  rfl

/-- what is written is what the cursor points at -/
theorem getElem_write {r : Ring α} {a : α} (h : (r.write a).next < (r.write a).slots.length) :
    (r.write a).slots[(r.write a).next] = a := List.getElem_set_self h

@[simp] theorem capacity_write (r : Ring α) (a : α) : (r.write a).capacity = r.capacity := by
  simp [write, capacity]

@[simp] theorem next_write (r : Ring α) (a : α) : (r.write a).next = r.next := rfl

@[simp] theorem current_write (r : Ring α) (a : α) : (r.write a).current = r.current := rfl

end Ring

end StreamDecode
