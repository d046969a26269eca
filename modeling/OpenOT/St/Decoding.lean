import OpenOT.St.Emissions
import OpenOT.St.Steps

set_option relaxedAutoImplicit false
set_option autoImplicit false

/-!
# Reading what has been published

A reader decodes the bytes of a published record and looks up its slots.

## Main definitions

* `OpenOT.St.Published.record` — the record that its bytes decode to.
* `OpenOT.St.Published.field` — the number in the first slot with a key.

## Main results

* `OpenOT.St.Published.record_eq` — what an encoder has written is read back.
* `OpenOT.St.Producer.published_emit` — what a data operation publishes, and what becomes of the
  table of conditions.
-/

namespace OpenOT.St

open Rust

/-- The number in the first slot with a key. -/
def slotValue (key : UInt16) (slots : List Slot) : Option ℕ :=
  (slots.find? fun slot => slot.key == key).map fun slot => fromLe slot.payload

namespace Published

/-- The record that the bytes decode to. -/
def record (entry : Published) : Option Record :=
  match decode entry.bytes with
  | .ok decoded => some decoded.record
  | _ => none

/-- The number in the first slot with a key. -/
def field (key : UInt16) (entry : Published) : Option ℕ :=
  entry.record.bind fun record => slotValue key record.slots

end Published

/-- A record that fits into the buffer of an encoder is within the limits of the format. -/
lemma encodable_of_area_le (envelope : Envelope) (eventTypeId : UInt32) {slots : List Slot}
    (hle : 44 + area slots ≤ 256) : (envelope.record eventTypeId slots).Encodable true where
  payload_le slot hslot := by
    have := payload_le_area (show slot ∈ slots from hslot)
    omega
  total_le := by
    rw [← length_bytes, length_record]
    omega

namespace Published

variable {entry : Published} {envelope : Envelope} {eventTypeId : UInt32} {slots : List Slot}

/-- **What an encoder has written is read back.** -/
lemma record_eq (hbytes : entry.bytes = (envelope.record eventTypeId slots).bytes true)
    (hle : 44 + area slots ≤ 256) : entry.record = some (envelope.record eventTypeId slots) := by
  have hdecode := decode_bytes (encodable_of_area_le envelope eventTypeId hle) []
  rw [List.append_nil, ← hbytes] at hdecode
  have hflags : (envelope.record eventTypeId slots).withCrcFlag true =
      envelope.record eventTypeId slots := by
    have hflag : crcFlags FLAG_HAS_CRC true = FLAG_HAS_CRC := by decide
    rw [Record.withCrcFlag, show (envelope.record eventTypeId slots).flags = FLAG_HAS_CRC from rfl,
      hflag]
    rfl
  unfold record
  rw [hdecode, hflags]

/-- The fields of a record that an encoder has written. -/
lemma field_eq (hbytes : entry.bytes = (envelope.record eventTypeId slots).bytes true)
    (hle : 44 + area slots ≤ 256) (key : UInt16) : entry.field key = slotValue key slots := by
  rw [field, record_eq hbytes hle]
  rfl

end Published

/-- **What a data operation publishes**: its record or nothing. The table of conditions follows. -/
lemma Producer.published_emit {inputs : Inputs} {p p' : Producer} {emission : Emission}
    {slots : List Slot} (hwrites : emission.Writes slots) (h : p.emit inputs emission = some p') :
    p'.store.published = p.store.published ∧ p'.memory.conditions = p.memory.conditions ∨
      ∃ (taken : Bool) (entry : Published) (envelope : Envelope), entry.inputs = inputs ∧
        envelope.sourceId = emission.sourceId ∧
        entry.record = some (envelope.record emission.eventTypeId slots) ∧
        p'.store.published = (if taken then p.store.published ++ [entry]
          else p.store.published) ∧
        p'.memory.conditions = if taken then emission.settle (emission.drawn p.memory.conditions)
          else emission.drawn p.memory.conditions := by
  rcases core_emit h with ⟨-, -, hcore⟩ | ⟨index, sources, encoded, -, hencoded, -, hcore⟩
  · have hstore : p'.store = p.store := congrArg Core.store hcore
    exact .inl ⟨by rw [hstore], congrArg (fun c => c.memory.conditions) hcore⟩
  · obtain ⟨hfits, -, -, hbytes⟩ := (hwrites _).of_some hencoded
    rw [length_record] at hfits
    refine .inr ⟨p.store.takes encoded.length, ⟨inputs, emission.eventTypeId, p.runId,
      emission.sourceId, (sources.get index).nextSeq, encoded.buffer.take encoded.length.toNat⟩, _,
      rfl, rfl, Published.record_eq hbytes hfits, ?_, ?_⟩
    · rw [show p'.store = _ from (congrArg Core.store hcore).trans Core.store_emit]
      exact Store.published_publish
    · exact (congrArg (fun c => c.memory.conditions) hcore).trans Core.conditions_emit

end OpenOT.St
