import OpenOT.Carriage.Crc

set_option relaxedAutoImplicit false
set_option autoImplicit false

/-!
# The wire record

The binary record of `wire.rs`: a 40-byte little-endian header, four-byte aligned TLV slots and
an optional CRC-32C trailer flagged by `HasCrc`. The decoder is modelled with the accesses the
source makes: every index and every slice goes through a checked read that panics out of range.

## Main definitions

* `OpenOT.Slot`, `OpenOT.Record` — a TLV slot and an event record.
* `OpenOT.Record.encode` — the encoder, with its two length errors.
* `OpenOT.validateRecord`, `OpenOT.decode` — the validator and the decoder.

## Design

`usize` values are natural numbers: they are lengths and offsets of byte strings in memory. The
`while` loops over the slot area are recursions on the bytes that remain.
-/

namespace OpenOT

open Rust

/-! ## Constants -/

/-- Fixed record header length in bytes. -/
def HEADER_LEN : ℕ := 40

/-- CRC-32C trailer length in bytes. -/
def CRC_LEN : ℕ := 4

/-- Sync marker at the start of every record: ASCII `OOT2`. -/
def SYNC : Bytes := [0x4F, 0x4F, 0x54, 0x32]

/-- Flag bit 1: the record was synthesized downstream. -/
def FLAG_SYNTHETIC : UInt16 := (1 : UInt16) <<< 1

/-- Flag bit 3: a CRC-32C trailer is present. -/
def FLAG_HAS_CRC : UInt16 := (1 : UInt16) <<< 3

/-! ## Slots, records and errors -/

/-- A TLV value slot: key, type tag and payload. -/
structure Slot where
  key : UInt16
  ty : UInt8
  payload : Bytes
  deriving DecidableEq, Repr

/-- A decoded or to-be-encoded event record. -/
structure Record where
  flags : UInt16
  sourceTime : UInt64
  runId : UInt64
  seq : UInt64
  sourceId : UInt32
  eventTypeId : UInt32
  slots : List Slot
  deriving DecidableEq, Repr

/-- A record with no flags and no slots. -/
def Record.new (sourceTime runId seq : UInt64) (sourceId eventTypeId : UInt32) : Record :=
  ⟨0, sourceTime, runId, seq, sourceId, eventTypeId, []⟩

/-- A decoded record plus the number of bytes it consumed. -/
structure DecodedRecord where
  record : Record
  consumed : ℕ
  deriving DecidableEq, Repr

/-- Errors from wire-level decoding and encoding. -/
inductive WireError where
  | crcMismatch (expected actual : UInt32)
  | invalidLength (totalLen available : ℕ)
  | invalidPadding (offset : ℕ)
  | invalidSlot (offset : ℕ)
  | recordTooLong (len : ℕ)
  | slotTooLong (key : UInt16) (len : ℕ)
  | truncated (needed available : ℕ)
  | wrongSync
  deriving DecidableEq, Repr

/-! ## Encoding -/

/-- Zero bytes that bring a payload to the next four-byte boundary. -/
def paddingLen (payloadLen : ℕ) : ℕ := (4 - payloadLen % 4) % 4

/-- The encoded length of a slot. -/
def Slot.encodedLen (slot : Slot) : Outcome WireError ℕ :=
  if 255 < slot.payload.length then .err (.slotTooLong slot.key slot.payload.length)
  else .ok (4 + slot.payload.length + paddingLen slot.payload.length)

/-- Appends the bytes of a slot to `out`. -/
def Slot.encodeInto (slot : Slot) (out : Bytes) : Outcome WireError Bytes :=
  if 255 < slot.payload.length then .err (.slotTooLong slot.key slot.payload.length)
  else .ok (out ++ toLe 2 slot.key.toNat ++ [slot.ty] ++ [UInt8.ofNat slot.payload.length] ++
    slot.payload ++ List.replicate (paddingLen slot.payload.length) 0)

/-- The first loop of `encode`: the summed length of the slots. -/
def slotsLen : List Slot → ℕ → Outcome WireError ℕ
  | [], len => .ok len
  | slot :: slots, len => do
    let n ← slot.encodedLen
    slotsLen slots (len + n)

/-- The second loop of `encode`: the bytes of the slots. -/
def encodeSlots : List Slot → Bytes → Outcome WireError Bytes
  | [], out => .ok out
  | slot :: slots, out => do
    let out ← slot.encodeInto out
    encodeSlots slots out

/-- The flags as written: `HasCrc` is set or cleared to match the trailer. -/
def crcFlags (flags : UInt16) (withCrc : Bool) : UInt16 :=
  if withCrc then flags ||| FLAG_HAS_CRC else flags &&& ~~~ FLAG_HAS_CRC

/-- Encodes a record to wire bytes, with a CRC-32C trailer when `withCrc`. -/
def Record.encode (record : Record) (withCrc : Bool) : Outcome WireError Bytes := do
  let len ← slotsLen record.slots 0
  let totalLen := HEADER_LEN + len + (if withCrc then CRC_LEN else 0)
  if 65535 < totalLen then .err (.recordTooLong totalLen)
  else do
    let out := SYNC ++ toLe 2 totalLen ++ toLe 2 (crcFlags record.flags withCrc).toNat ++
      toLe 8 record.sourceTime.toNat ++ toLe 8 record.runId.toNat ++ toLe 8 record.seq.toNat ++
      toLe 4 record.sourceId.toNat ++ toLe 4 record.eventTypeId.toNat
    let out ← encodeSlots record.slots out
    pure (if withCrc then out ++ toLe 4 (crc32c out).toNat else out)

/-! ## Validation -/

/-- The slot walk of `validate_record`: every slot and its padding lie before `slotsEnd`, and
the padding is zero. -/
def validateSlots (bytes : Bytes) (slotsEnd offset : ℕ) : Outcome WireError Unit :=
  if offset < slotsEnd then
    if slotsEnd - offset < 4 then .err (.invalidSlot offset)
    else do
      let len := (← index bytes (offset + 3)).toNat
      let payloadEnd := offset + 4 + len
      if slotsEnd < payloadEnd then .err (.invalidSlot offset)
      else
        let next := payloadEnd + paddingLen len
        if slotsEnd < next then .err (.invalidSlot offset)
        else do
          let pad ← slice bytes payloadEnd next
          match pad.findIdx? (· != 0) with
          | some i => .err (.invalidPadding (payloadEnd + i))
          | none => validateSlots bytes slotsEnd next
  else .ok ()
termination_by slotsEnd - offset

/-- The `slots_end` block of `validate_record`: the slots end before a trailer, whose checksum
must match, or else with the record. -/
def verifiedSlotsEnd (bytes : Bytes) (totalLen : ℕ) (flags : UInt16) : Outcome WireError ℕ :=
  if flags &&& FLAG_HAS_CRC ≠ 0 then do
    let trailer := totalLen - CRC_LEN
    let expected ← readU32 bytes trailer
    let actual := crc32c (← slice bytes 0 trailer)
    if expected ≠ actual then .err (.crcMismatch expected actual) else .ok trailer
  else .ok totalLen

/-- Validates one record at the front of `bytes` and returns its `TotalRecordLength`. -/
def validateRecord (bytes : Bytes) : Outcome WireError ℕ :=
  if bytes.length < HEADER_LEN then .err (.truncated HEADER_LEN bytes.length)
  else do
    let sync ← slice bytes 0 4
    if sync ≠ SYNC then .err .wrongSync
    else do
      let totalLen := (← readU16 bytes 4).toNat
      if totalLen < HEADER_LEN then .err (.invalidLength totalLen bytes.length)
      else if bytes.length < totalLen then .err (.truncated totalLen bytes.length)
      else do
        let flags ← readU16 bytes 6
        if flags &&& FLAG_HAS_CRC ≠ 0 ∧ totalLen < HEADER_LEN + CRC_LEN then
          .err (.invalidLength totalLen bytes.length)
        else do
          let slotsEnd ← verifiedSlotsEnd bytes totalLen flags
          validateSlots bytes slotsEnd HEADER_LEN
          pure totalLen

/-! ## Decoding -/

/-- The slot loop of `decode`. -/
def decodeSlots (bytes : Bytes) (slotsEnd offset : ℕ) : Outcome WireError (List Slot) :=
  if offset < slotsEnd then do
    let key ← readU16 bytes offset
    let ty ← index bytes (offset + 2)
    let len := (← index bytes (offset + 3)).toNat
    let payloadEnd := offset + 4 + len
    let next := payloadEnd + paddingLen len
    let payload ← slice bytes (offset + 4) payloadEnd
    let slots ← decodeSlots bytes slotsEnd next
    pure (⟨key, ty, payload⟩ :: slots)
  else .ok []
termination_by slotsEnd - offset

/-- Decodes one record from the front of `bytes`. -/
def decode (bytes : Bytes) : Outcome WireError DecodedRecord := do
  let totalLen ← validateRecord bytes
  let flags ← readU16 bytes 6
  let slotsEnd := if flags &&& FLAG_HAS_CRC ≠ 0 then totalLen - CRC_LEN else totalLen
  let slots ← decodeSlots bytes slotsEnd HEADER_LEN
  let sourceTime ← readU64 bytes 8
  let runId ← readU64 bytes 16
  let seq ← readU64 bytes 24
  let sourceId ← readU32 bytes 32
  let eventTypeId ← readU32 bytes 36
  pure ⟨⟨flags, sourceTime, runId, seq, sourceId, eventTypeId, slots⟩, totalLen⟩

end OpenOT
