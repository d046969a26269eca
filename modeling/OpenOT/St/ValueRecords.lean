import OpenOT.Lib.ChangeLog
import OpenOT.St.Decoding
import OpenOT.St.ValueTables

set_option relaxedAutoImplicit false
set_option autoImplicit false

/-!
# Records of values

The records that carry a value before and after, read back as values, and what the tables store when
one has been published.

## Main definitions

* `OpenOT.St.Value.payload`, `OpenOT.St.Kind.read` — the bytes of a value, and the value of bytes.
* `OpenOT.St.slotPayload` — the bytes in the first slot with a key.
* `OpenOT.St.Published.change` — the change of a value that a reader finds in a record.

## Main results

* `OpenOT.St.Kind.read_payload` — the bytes of a value are read back.
* `OpenOT.St.Producer.emit_cases` — a record is published and its value kept, or neither.
-/

namespace OpenOT.St

open Rust

/-! ## Bytes of values -/

/-- The kind of a value. -/
def Value.kind : Value → Kind
  | real _ => .real
  | int _ => .int
  | bits _ => .bits
  | string _ => .string

/-- The bytes of a value in a slot; those of a bit string are as many as its payload length says. -/
def Value.payload (width : ℕ) : Value → Bytes
  | real value => toLe 4 value.toNat
  | int value => toLe 4 value.toUInt32.toNat
  | bits value => toLe width value.toNat
  | string value => value.chars

/-- The value that a slot holds as far as it has bytes: a bit string is cut at its payload
length. -/
def Value.cut (width : ℕ) : Value → Value
  | bits value => .bits (UInt64.ofNat (value.toNat % 256 ^ width))
  | value => value

/-- The value of the bytes in a slot, for a reader that knows its kind. -/
def Kind.read : Kind → Bytes → Value
  | real, bytes => .real (UInt32.ofNat (fromLe bytes))
  | int, bytes => .int (UInt32.ofNat (fromLe bytes)).toInt32
  | bits, bytes => .bits (UInt64.ofNat (fromLe bytes))
  | string, bytes => .string ⟨bytes.take 96, List.length_take_le 96 bytes⟩

/-- **The bytes of a value are read back.** -/
lemma Kind.read_payload (value : Value) (width : ℕ) :
    value.kind.read (value.payload width) = value.cut width := by
  cases value with
  | real value => exact congrArg Value.real (ofNat_fromLe_toLe_u32 value)
  | int value =>
    exact congrArg (fun bits => Value.int bits.toInt32) (ofNat_fromLe_toLe_u32 value.toUInt32)
  | bits value => exact congrArg (fun n => Value.bits (UInt64.ofNat n)) (fromLe_toLe width _)
  | string value =>
    obtain ⟨chars, hle⟩ := value
    simp [Value.kind, Kind.read, Value.payload, Value.cut, List.take_of_length_le hle]

/-- A value that fits into its slot is not cut. -/
lemma Value.cut_eq {value : Value} {width : ℕ}
    (h : ∀ bits, value = .bits bits → bits.toNat < 256 ^ width) : value.cut width = value := by
  cases value with
  | bits value => rw [cut, Nat.mod_eq_of_lt (h value rfl), UInt64.ofNat_toNat]
  | _ => rfl

/-- A number that fits into the payload length fits into the bytes written; with length 0 there
would be more of them. -/
lemma lt_pow_writtenBytes {payloadLength : UInt16} {n : ℕ}
    (h : n < 2 ^ (8 * payloadLength.toNat)) : n < 256 ^ writtenBytes payloadLength := by
  have hle : payloadLength.toNat ≤ writtenBytes payloadLength := by
    by_cases hzero : payloadLength = 0
    · rw [hzero]
      exact Nat.zero_le _
    · exact (writtenBytes_eq hzero).ge
  calc n < 2 ^ (8 * payloadLength.toNat) := h
    _ = 256 ^ payloadLength.toNat := by rw [pow_mul]; rfl
    _ ≤ 256 ^ writtenBytes payloadLength := Nat.pow_le_pow_right (by decide) hle

/-! ## Slots of values -/

/-- The bytes in the first slot with a key. -/
def slotPayload (key : UInt16) (slots : List Slot) : Option Bytes :=
  (slots.find? fun slot => slot.key == key).map Slot.payload

/-- The slot carries a value under a key. -/
def SlotOf (key : UInt16) (value : Value) (width : ℕ) (slot : Slot) : Prop :=
  slot.key = key ∧ slot.payload = value.payload width

/-- The encoders of a kind write its values into the slots for the new and the previous value. -/
structure ValueKind.Spells {α β : Type} (kind : ValueKind α β) (wrap : α → Value) : Prop where
  change : ∀ (inputs : Inputs) index state, ∃ newField previousField,
    (kind.change inputs index state).Writes (valueChangedSlots inputs.valueId newField
      previousField (state.hasLast && !inputs.suppressPrevious) inputs.hasQuality
      inputs.quality) ∧
    SlotOf KEY_NEW_VALUE (wrap (kind.value inputs)) (writtenBytes inputs.valuePayloadLength)
      newField ∧
    SlotOf KEY_PREVIOUS_VALUE (wrap state.lastValue) (writtenBytes inputs.valuePayloadLength)
      previousField
  parameter : ∀ (inputs : Inputs) index previous, ∃ newField previousField,
    (parameterEmission kind inputs index previous).Writes (parameterSlots inputs.valueId
      previousField newField inputs.audit) ∧
    SlotOf KEY_NEW_VALUE (wrap (kind.value inputs)) (writtenBytes inputs.valuePayloadLength)
      newField ∧
    SlotOf KEY_PREVIOUS_VALUE (wrap previous) (writtenBytes inputs.valuePayloadLength)
      previousField

lemma spells_real : realKind.Spells .real where
  change _ _ _ := ⟨_, _, fun _ => encodes_valueChangedReal .., ⟨rfl, rfl⟩, ⟨rfl, rfl⟩⟩
  parameter _ _ _ := ⟨_, _, fun _ => encodes_parameterChangeReal .., ⟨rfl, rfl⟩, ⟨rfl, rfl⟩⟩

lemma spells_int : intKind.Spells .int where
  change _ _ _ := ⟨_, _, fun _ => encodes_valueChangedInt .., ⟨rfl, rfl⟩, ⟨rfl, rfl⟩⟩
  parameter _ _ _ := ⟨_, _, fun _ => encodes_parameterChangeInt .., ⟨rfl, rfl⟩, ⟨rfl, rfl⟩⟩

lemma spells_bits : bitsKind.Spells .bits where
  change _ _ _ := ⟨_, _, fun _ => encodes_valueChangedBits .., ⟨rfl, rfl⟩, ⟨rfl, rfl⟩⟩
  parameter _ _ _ := ⟨_, _, fun _ => encodes_parameterChangeBits .., ⟨rfl, rfl⟩, ⟨rfl, rfl⟩⟩

lemma spells_string : stringKind.Spells .string where
  change _ _ _ := ⟨_, _, fun _ => encodes_valueChangedString .., ⟨rfl, rfl⟩, ⟨rfl, rfl⟩⟩
  parameter _ _ _ := ⟨_, _, fun _ => encodes_parameterChangeString .., ⟨rfl, rfl⟩, ⟨rfl, rfl⟩⟩

section

variable {valueId : UInt32} {newField previousField : Slot} {hasPrevious hasQuality : Bool}
  {quality : UInt16} {audit : AuditInputs}

/-- The slots of a changed value. -/
lemma slots_valueChanged (hnew : newField.key = KEY_NEW_VALUE)
    (hprevious : previousField.key = KEY_PREVIOUS_VALUE) :
    slotValue KEY_VALUE_ID (valueChangedSlots valueId newField previousField hasPrevious hasQuality
        quality) = some valueId.toNat ∧
      slotPayload KEY_NEW_VALUE (valueChangedSlots valueId newField previousField hasPrevious
        hasQuality quality) = some newField.payload ∧
      slotPayload KEY_PREVIOUS_VALUE (valueChangedSlots valueId newField previousField hasPrevious
        hasQuality quality) = if hasPrevious then some previousField.payload else none := by
  refine ⟨?_, ?_, ?_⟩
  · simp [slotValue, valueChangedSlots, udintField, fromLe_toLe]
  · simp [slotPayload, valueChangedSlots, udintField, hnew, KEY_VALUE_ID, KEY_NEW_VALUE]
  · cases hasPrevious <;> cases hasQuality <;>
      simp [slotPayload, valueChangedSlots, udintField, uintField, onlyIf, hnew, hprevious,
        KEY_VALUE_ID, KEY_NEW_VALUE, KEY_PREVIOUS_VALUE, KEY_QUALITY]

/-- The slots of a parameter change. -/
lemma slots_parameter (hnew : newField.key = KEY_NEW_VALUE)
    (hprevious : previousField.key = KEY_PREVIOUS_VALUE) :
    slotValue KEY_VALUE_ID (parameterSlots valueId previousField newField audit) =
        some valueId.toNat ∧
      slotPayload KEY_NEW_VALUE (parameterSlots valueId previousField newField audit) =
        some newField.payload ∧
      slotPayload KEY_PREVIOUS_VALUE (parameterSlots valueId previousField newField audit) =
        some previousField.payload := by
  refine ⟨?_, ?_, ?_⟩
  · simp [slotValue, parameterSlots, udintField, fromLe_toLe]
  · simp [slotPayload, parameterSlots, udintField, hnew, hprevious, KEY_VALUE_ID, KEY_NEW_VALUE,
      KEY_PREVIOUS_VALUE]
  · simp [slotPayload, parameterSlots, udintField, hprevious, KEY_VALUE_ID, KEY_PREVIOUS_VALUE]

end

/-! ## Changes of values -/

namespace Published

/-- The change of a value that a record of an event tells of. -/
def change (eventTypeId : UInt32) (entry : Published) : Option (ChangeLog.Change UInt32 Bytes) :=
  entry.record.bind fun record =>
    if record.eventTypeId = eventTypeId then
      (slotValue KEY_VALUE_ID record.slots).bind fun valueId =>
        (slotPayload KEY_NEW_VALUE record.slots).map fun value =>
          ⟨UInt32.ofNat valueId, slotPayload KEY_PREVIOUS_VALUE record.slots, value⟩
    else none

variable {entry : Published} {envelope : Envelope} {eventTypeId : UInt32} {slots : List Slot}

/-- The change that is read from the slots. -/
lemma change_eq {valueId : UInt32} {value : Bytes}
    (hrecord : entry.record = some (envelope.record eventTypeId slots))
    (hid : slotValue KEY_VALUE_ID slots = some valueId.toNat)
    (hnew : slotPayload KEY_NEW_VALUE slots = some value) :
    entry.change eventTypeId = some ⟨valueId, slotPayload KEY_PREVIOUS_VALUE slots, value⟩ := by
  simp [change, hrecord, Envelope.record, hid, hnew]

/-- A record of another event. -/
lemma change_eq_none {other : UInt32} (hrecord : entry.record = some (envelope.record other slots))
    (hne : other ≠ eventTypeId) : entry.change eventTypeId = none := by
  rw [change, hrecord]
  exact if_neg hne

end Published

/-! ## Publishing -/

namespace Producer

variable {arith : RealArith} {inputs : Inputs} {p p' : Producer}

/-- **A record is published and its value kept, or neither.** -/
lemma emit_cases {emission : Emission} (hidle : p.done = false)
    (h : p.emit inputs emission = some p') :
    p'.done = false ∧ p'.store.published = p.store.published ∧
        p'.memory.values = p.memory.values ∨
      p'.done = true ∧ ∃ entry sourceTime, p'.store.published = p.store.published ++ [entry] ∧
        p'.memory.values = emission.keep sourceTime p.memory.values ∧
        ∀ slots, emission.Writes slots → ∃ envelope,
          entry.record = some (Envelope.record envelope emission.eventTypeId slots) := by
  unfold emit at h
  cases hfind : openSource emission.sourceId p.sources with
  | none =>
    rw [hfind] at h
    cases h
    exact .inl ⟨hidle, rfl, rfl⟩
  | some found =>
    obtain ⟨index, sources⟩ := found
    rw [hfind] at h
    obtain ⟨encoded, hencoded, h⟩ := Option.bind_eq_some_iff.mp h
    simp only [publish, tick, Store.appendOk_publish] at h
    by_cases htakes : p.store.takes encoded.length = true
    · rw [if_pos htakes] at h
      refine .inr ?_
      split_ifs at h <;>
      · cases h
        refine ⟨rfl, _, p.nextSourceTime inputs, Store.published_publish.trans (if_pos htakes),
          rfl, fun slots hwrites => ?_⟩
        obtain ⟨hfits, -, -, hbytes⟩ := (hwrites _).of_some hencoded
        rw [length_record] at hfits
        exact ⟨_, Published.record_eq hbytes hfits⟩
    · rw [if_neg htakes] at h
      cases h
      exact .inl ⟨hidle, Store.published_publish.trans (if_neg htakes), rfl⟩

end Producer

end OpenOT.St
