import StreamDecode.Picture.Basic

/-!
# Packets

A packet gathers the pieces of one access unit, followed by zero bytes that an engine may read past
its end.  The store holds the payload and the padding in one piece.

`payload_append`, `payload_clear` and `padded_eq` say what the operations do.
-/

namespace StreamDecode

structure Packet where
  store : Bytes
  len : Nat
  padding : Nat
  deriving DecidableEq

/-- `bytes` cut or filled up with zeros to `size` bytes -/
def resize (bytes : Bytes) (size : Nat) : Bytes :=
  bytes.take size ++ List.replicate (size - bytes.length) 0

namespace Packet

/-- the padding that is used where no other is asked for -/
def defaultPadding : Nat := 64

/-- a packet without payload -/
def empty (padding : Nat) : Packet := ⟨resize [] padding, 0, padding⟩

/-- a packet without payload whose store is laid out for `room` bytes of payload; room that is not
used does not show.  No store can be laid out for more bytes than a list can have: for a `room` that
is beyond that together with the padding there is no packet, and this one stands for none -/
def withRoom (_room padding : Nat) : Packet := ⟨resize [] padding, 0, padding⟩

/-- appends to the payload; the padding stays zero behind it -/
def append (p : Packet) (bytes : Bytes) : Packet :=
  let len := p.len + bytes.length
  ⟨resize (p.store.take p.len ++ bytes) (len + p.padding), len, p.padding⟩

def clear (p : Packet) : Packet := ⟨resize [] p.padding, 0, p.padding⟩

def isEmpty (p : Packet) : Bool := p.len == 0

def payload (p : Packet) : Bytes := p.store.take p.len

/-- the payload followed by the padding -/
def padded (p : Packet) : Bytes := p.store

/-- the store holds the payload and then zeros -/
def WellFormed (p : Packet) : Prop :=
  p.len ≤ p.store.length ∧ p.store.drop p.len = List.replicate p.padding 0

theorem wellFormed_empty (padding : Nat) : (empty padding).WellFormed := by
  simp [WellFormed, empty, resize]

theorem wellFormed_clear (p : Packet) : p.clear.WellFormed := wellFormed_empty p.padding

theorem length_payload {p : Packet} (h : p.WellFormed) : p.payload.length = p.len := by
  rw [payload, List.length_take]
  exact Nat.min_eq_left h.1

theorem padded_eq {p : Packet} (h : p.WellFormed) :
    p.padded = p.payload ++ List.replicate p.padding 0 := by
  rw [← h.2]
  exact (List.take_append_drop p.len p.store).symm

@[simp] theorem payload_empty (padding : Nat) : (empty padding).payload = [] := by
  simp [payload, empty]

@[simp] theorem payload_clear (p : Packet) : p.clear.payload = [] := by
  simp [payload, clear]

theorem store_append {p : Packet} (h : p.WellFormed) (bytes : Bytes) :
    (p.append bytes).store = p.payload ++ bytes ++ List.replicate p.padding 0 := by
  have hlen : (p.store.take p.len).length = p.len := length_payload h
  have hcut : (p.store.take p.len ++ bytes).take (p.len + bytes.length + p.padding) =
      p.store.take p.len ++ bytes :=
    List.take_of_length_le (by rw [List.length_append, hlen]; omega)
  have hfill : p.len + bytes.length + p.padding - (p.store.take p.len ++ bytes).length =
      p.padding := by
    rw [List.length_append, hlen]
    omega
  simp only [append, resize, payload]
  rw [hcut, hfill]

theorem payload_append {p : Packet} (h : p.WellFormed) (bytes : Bytes) :
    (p.append bytes).payload = p.payload ++ bytes := by
  show (p.append bytes).store.take (p.len + bytes.length) = _
  rw [store_append h, List.take_left' (by rw [List.length_append, length_payload h])]

theorem wellFormed_append {p : Packet} (h : p.WellFormed) (bytes : Bytes) :
    (p.append bytes).WellFormed := by
  refine ⟨?_, ?_⟩
  · show p.len + bytes.length ≤ _
    rw [store_append h]
    simp only [List.length_append, length_payload h]
    omega
  · show (p.append bytes).store.drop (p.len + bytes.length) = List.replicate p.padding 0
    rw [store_append h, List.drop_left' (by rw [List.length_append, length_payload h])]

end Packet

end StreamDecode
