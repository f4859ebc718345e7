import StreamDecode.Proofs.Session.Accounting
import Mathlib.Data.List.DropRight

/-!
# Packets on their way to the engine

A packet is filled and cleared any number of times before it is decoded.

* `Packet.edits_spec`   it holds the pieces since it was cleared last, and then its padding;
* `Session.decodePacket_of_le`, `Session.decodePacket_of_lt`   the payload goes to the engine, or
                 nothing at all does;
* `Session.decodePacket_edits`   both, for the packets of all histories.
-/

namespace StreamDecode

namespace Packet

/-! ## histories of a packet -/

inductive Edit where
  | append (bytes : Bytes)
  | clear

namespace Edit

def isAppend : Edit → Bool
  | append _ => true
  | clear => false

/-- the bytes that an edit adds -/
def bytes : Edit → Bytes
  | append bytes => bytes
  | clear => []

/-- the pieces since the last time that a packet was cleared, in order -/
def gathered (edits : List Edit) : Bytes := (edits.rtakeWhile isAppend).flatMap bytes

theorem gathered_append (edits : List Edit) (bytes : Bytes) :
    gathered (edits ++ [append bytes]) = gathered edits ++ bytes := by
  rw [gathered, List.rtakeWhile_concat_pos _ _ _ rfl, List.flatMap_append, List.flatMap_singleton]
  rfl

theorem gathered_clear (edits : List Edit) : gathered (edits ++ [clear]) = [] := by
  rw [gathered, List.rtakeWhile_concat_neg _ _ _ Bool.false_ne_true]
  rfl

end Edit

def edit (p : Packet) : Edit → Packet
  | .append bytes => p.append bytes
  | .clear => p.clear

def edits (p : Packet) (edits : List Edit) : Packet := edits.foldl edit p

/-- the packet holds a payload, and its padding behind it -/
structure Holds (p : Packet) (payload : Bytes) (padding : Nat) : Prop where
  wellFormed : p.WellFormed
  payload : p.payload = payload
  padding : p.padding = padding

namespace Holds

variable {p : Packet} {payload : Bytes} {padding : Nat}

theorem withRoom (room padding : Nat) : (withRoom room padding).Holds [] padding :=
  ⟨wellFormed_empty padding, payload_empty padding, rfl⟩

theorem append (h : p.Holds payload padding) (bytes : Bytes) :
    (p.append bytes).Holds (payload ++ bytes) padding where
  wellFormed := wellFormed_append h.wellFormed bytes
  payload := by rw [payload_append h.wellFormed, h.payload]
  padding := h.padding

theorem clear (h : p.Holds payload padding) : p.clear.Holds [] padding :=
  ⟨wellFormed_clear p, payload_clear p, h.padding⟩

theorem len (h : p.Holds payload padding) : p.len = payload.length := by
  rw [← length_payload h.wellFormed, h.payload]

theorem padded (h : p.Holds payload padding) :
    p.padded = payload ++ List.replicate padding 0 := by
  rw [padded_eq h.wellFormed, h.payload, h.padding]

end Holds

/-- whatever a packet held before it was cleared, it holds the pieces since then -/
theorem edits_spec (room padding : Nat) (edits : List Edit) :
    ((withRoom room padding).edits edits).Holds (Edit.gathered edits) padding := by
  induction edits using List.reverseRecOn with
  | nil => exact .withRoom room padding
  | append_singleton edits last ih =>
    rw [Packet.edits, List.foldl_append]
    cases last with
    | append bytes =>
      rw [Edit.gathered_append]
      exact ih.append bytes
    | clear =>
      rw [Edit.gathered_clear]
      exact ih.clear

end Packet

/-! ## the length check -/

namespace Session

variable {σ κ : Type} (engine : Engine σ κ) (s : Session κ) {w : World σ} {p : Packet}
  {payload : Bytes} {padding : Nat}

section
variable (hp : p.Holds payload padding) (hsize : payload.length + padding < maxSize)
include hp hsize

theorem toNat_len : p.len.toUInt64.toNat = payload.length := by
  have hlt : payload.length < UInt64.size := by
    have hmax : maxSize < UInt64.size := by decide
    omega
  rw [hp.len]
  exact UInt64.toNat_ofNat_of_lt' hlt

/-- the length check compares the paddings -/
theorem padded_lt_iff (required : UInt64) :
    p.padded.length < requiredSize p.len.toUInt64 required ↔ padding < required.toNat := by
  rw [hp.padded, List.length_append, List.length_replicate, requiredSize, toNat_len hp hsize]
  omega

theorem take_padded : p.padded.take p.len.toUInt64.toNat = payload := by
  rw [toNat_len hp hsize, hp.padded, List.take_left]

theorem decodePacket_of_lt (h : padding < engine.padding.toNat) :
    s.decodePacket engine p w =
      ⟨.ok (.error (.insufficientPadding payload.length padding engine.padding.toNat), s), [],
        w⟩ := by
  have hshort : p.padded.length < requiredSize p.len.toUInt64 engine.padding :=
    (padded_lt_iff hp hsize _).2 h
  rw [decodePacket, decode_of_short engine hshort, Act.pure_apply, toNat_len hp hsize, hp.padded,
    List.length_append, List.length_replicate, Nat.add_sub_cancel_left]

theorem decodePacket_of_le (h : engine.padding.toNat ≤ padding) :
    s.decodePacket engine p = .ok <$> s.submit engine payload := by
  have hlen : ¬p.padded.length < requiredSize p.len.toUInt64 engine.padding := fun hshort =>
    Nat.not_lt.2 h ((padded_lt_iff hp hsize _).1 hshort)
  rw [decodePacket, decode_of_padded engine hlen, take_padded hp hsize]

end

section
open Packet

/-- a packet of any history reaches the engine as the pieces since it was cleared last, if its
padding is enough for the engine, and is refused before the engine is asked if it is not; no store
has the greatest length -/
theorem decodePacket_edits (engine : Engine σ κ) (s : Session κ) (w : World σ) (room padding : Nat)
    (edits : List Edit) (hsize : (Edit.gathered edits).length + padding < maxSize) :
    let packet := (withRoom room padding).edits edits
    let payload := Edit.gathered edits
    packet.padded = payload ++ List.replicate padding 0 ∧
    (engine.padding.toNat ≤ padding → s.decodePacket engine packet w =
      match engine.sendPacket payload s.context.state w.engine with
      | (.ok (), state, e) =>
        ⟨.ok (.ok (), { s with context.state := state, stats := s.stats.countSubmit }),
          [.submission payload (.ok ())], { w with engine := e }⟩
      | (.error cause, state, e) =>
        ⟨.ok (.error (.submit cause),
            { s with context.state := state, stats := s.stats.countSubmit.countSubmitError }),
          [.submission payload (.error cause), .notice (.submitFailed cause)],
          { w with engine := e }⟩) ∧
    (padding < engine.padding.toNat → s.decodePacket engine packet w =
      ⟨.ok (.error (.insufficientPadding payload.length padding engine.padding.toNat), s), [],
        w⟩) := by
  have hp := edits_spec room padding edits
  refine ⟨hp.padded, fun h => ?_, decodePacket_of_lt engine s hp hsize⟩
  rw [decodePacket_of_le engine s hp hsize h, Act.map_apply]
  rcases hsend : engine.sendPacket (Edit.gathered edits) s.context.state w.engine with
    ⟨cause | _, state, e⟩
  · rw [submit_of_error hsend]
  · rw [submit_of_ok hsend]

/-- a packet that was cleared and filled anew, in two pieces -/
def refilled : List Edit :=
  [.append (List.replicate 30 0xAB), .clear, .append [0, 0, 0, 1, 0x67], .append [0x42, 0xC0]]

theorem decodePacket_refilled :
    let engine := Synthetic.engine "s"
    let started := start engine smallConfig vaapiWorld
    ∃ s, started.value = .ok (.ok s) ∧
      (s.decodePacket engine ((withRoom 1024 64).edits refilled) started.world).events =
        [.submission [0, 0, 0, 1, 0x67, 0x42, 0xC0] (.ok ())] ∧
      (s.decodePacket engine ((withRoom 0 8).edits refilled) started.world).value =
        .ok (.error (.insufficientPadding 7 8 64), s) := by
  refine ⟨_, rfl, ?_, ?_⟩
  · obtain ⟨-, hsent, -⟩ := decodePacket_edits (Synthetic.engine "s") _
      (start (Synthetic.engine "s") smallConfig vaapiWorld).world 1024 64 refilled (by decide)
    rw [hsent (by decide)]
    rfl
  · obtain ⟨-, -, hrefused⟩ := decodePacket_edits (Synthetic.engine "s") _
      (start (Synthetic.engine "s") smallConfig vaapiWorld).world 0 8 refilled (by decide)
    rw [hrefused (by decide)]
    rfl

end

end Session

end StreamDecode
