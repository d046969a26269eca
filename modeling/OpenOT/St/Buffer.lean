import OpenOT.Carriage.Crc
import OpenOT.Carriage.WireFormat

set_option relaxedAutoImplicit false
set_option autoImplicit false

/-!
# Writing into a byte buffer

The writers of the Structured Text producer: bytes, little-endian integers, strings and slots, one
behind the other into a buffer of 256 bytes.

## Main definitions

* `OpenOT.St.Writes` — a function with the buffer as its in-out variable.
* `OpenOT.St.writeByte`, `OpenOT.St.writeU16LE`, `OpenOT.St.writeHeader`, … — the writers.
* `OpenOT.St.crc32c` — the checksum over the front of the buffer.
* `OpenOT.St.encodeRecord` — what the encoders share: header, slots, checksum.

## Design

An index outside an array stops the program: the result is then `none`. A `STRING[96]` is a list
of at most 96 bytes. `REAL` and `LREAL` values are their bit patterns. An encoder starts from a
blank buffer; what an earlier record has left behind `Length` is never read.
-/

namespace OpenOT.St

open Rust

/-- A function with a byte buffer as its in-out variable; `none` if an index is out of range. -/
abbrev Writes : Type → Type := StateT Bytes Option

/-- `STRING[96]`. -/
structure String96 where
  chars : Bytes
  length_le : chars.length ≤ 96
  deriving DecidableEq

/-- `INT_TO_UINT(LEN(value))`. -/
def len (value : String96) : UInt16 := UInt16.ofNat value.chars.length

/-- The length of a string, cut at 96. -/
def len96 (value : String96) : UInt16 :=
  if 96 < len value then 96 else len value

/-! ## Writers -/

/-- `OPENOT_WriteByte`. -/
def writeByte (offset : UInt16) (value : UInt8) : Writes UInt16 := fun buffer =>
  if offset.toNat < buffer.length then some (offset + 1, buffer.set offset.toNat value) else none

/-- A loop over the bytes of an array. -/
def writeBytes : Bytes → UInt16 → Writes UInt16
  | [], pos => pure pos
  | value :: values, pos => do
    let pos ← writeByte pos value
    writeBytes values pos

/-- The loop of the little-endian writers: `Remaining MOD 256`, then `Remaining / 256`. -/
def writeLE : ℕ → ℕ → UInt16 → Writes UInt16
  | 0, _, pos => pure pos
  | rounds + 1, remaining, pos => do
    let pos ← writeByte pos (UInt8.ofNat (remaining % 256))
    writeLE rounds (remaining / 256) pos

/-- `OPENOT_WriteU16LE`. -/
def writeU16LE (offset : UInt16) (value : UInt16) : Writes UInt16 := writeLE 2 value.toNat offset

/-- `OPENOT_WriteU32LE`. -/
def writeU32LE (offset : UInt16) (value : UInt32) : Writes UInt16 := writeLE 4 value.toNat offset

/-- `OPENOT_WriteU64LE`. -/
def writeU64LE (offset : UInt16) (value : UInt64) : Writes UInt16 := writeLE 8 value.toNat offset

/-- The loop of `OPENOT_WriteDWordLE`. -/
def writeDWordLoop : ℕ → UInt32 → UInt16 → Writes UInt16
  | 0, _, pos => pure pos
  | rounds + 1, remaining, pos => do
    let pos ← writeByte pos (remaining &&& 0x000000FF).toUInt8
    writeDWordLoop rounds (remaining >>> 8) pos

/-- `OPENOT_WriteDWordLE`. -/
def writeDWordLE (offset : UInt16) (value : UInt32) : Writes UInt16 :=
  writeDWordLoop 4 value offset

/-- `WHILE (Pos MOD 4) <> 0`: writes zeros; three rounds are enough. -/
def writePadding : ℕ → UInt16 → Writes UInt16
  | 0, pos => pure pos
  | rounds + 1, pos =>
    if pos % 4 ≠ 0 then do
      let pos ← writeByte pos 0
      writePadding rounds pos
    else pure pos

/-- `OPENOT_WriteValueBitsLE`. The loop runs to `PayloadLength - 1`, so for a length of zero it
runs to 65535. -/
def writeValueBitsLE (offset : UInt16) (value : UInt64) (payloadLength : UInt16) :
    Writes UInt16 := do
  let pos ← writeLE ((payloadLength - 1).toNat + 1) value.toNat offset
  writePadding 3 pos

/-- `OPENOT_WriteStringPayload`. -/
def writeStringPayload (offset : UInt16) (value : String96) (payloadLength : UInt16) :
    Writes UInt16 := do
  let pos ← writeBytes ((List.range payloadLength.toNat).map fun index =>
    value.chars.getD index 0) offset
  writePadding 3 pos

/-- `OPENOT_ValueSlotEncodedLength`. -/
def valueSlotEncodedLength (payloadLength : UInt16) : UInt16 :=
  4 + payloadLength + (if payloadLength % 4 ≠ 0 then 4 - payloadLength % 4 else 0)

/-- `OPENOT_WriteSlotHeader`. -/
def writeSlotHeader (offset : UInt16) (key : UInt16) (typeTag payloadLength : UInt8) :
    Writes UInt16 := do
  let pos ← writeU16LE offset key
  let pos ← writeByte pos typeTag
  writeByte pos payloadLength

/-- The inputs that every encoder has. -/
structure Envelope where
  sourceTime : UInt64
  runId : UInt64
  seq : UInt64
  sourceId : UInt32
  deriving DecidableEq

/-- `OPENOT_WriteHeader`. -/
def writeHeader (totalLength flags : UInt16) (envelope : Envelope) (eventTypeId : UInt32) :
    Writes UInt16 := do
  let pos ← writeByte 0 0x4F
  let pos ← writeByte pos 0x4F
  let pos ← writeByte pos 0x54
  let pos ← writeByte pos 0x32
  let pos ← writeU16LE pos totalLength
  let pos ← writeU16LE pos flags
  let pos ← writeU64LE pos envelope.sourceTime
  let pos ← writeU64LE pos envelope.runId
  let pos ← writeU64LE pos envelope.seq
  let pos ← writeU32LE pos envelope.sourceId
  writeU32LE pos eventTypeId

/-! ## The checksum -/

/-- One round of the inner loop of `OPENOT_Crc32c`. -/
def crcBit (crc : UInt32) : UInt32 :=
  if crc &&& 1 ≠ 0 then (crc >>> 1) ^^^ 0x82F63B78 else crc >>> 1

/-- One round of the outer loop. -/
def crcByte (crc : UInt32) (byte : UInt8) : UInt32 := Nat.repeat crcBit 8 (crc ^^^ byte.toUInt32)

/-- `OPENOT_Crc32c`: the checksum of the first bytes of a buffer. -/
def crc32c (data : Bytes) (length : UInt16) : Option UInt32 :=
  if length.toNat ≤ data.length then
    some (~~~ ((data.take length.toNat).foldl crcByte 0xFFFFFFFF))
  else none

/-! ## Slots -/

/-- A slot of type `UDINT`. -/
def udintSlot (key : UInt16) (value : UInt32) (pos : UInt16) : Writes UInt16 := do
  let pos ← writeSlotHeader pos key 0x05 4
  writeU32LE pos value

/-- A slot of type `UINT`, with its padding. -/
def uintSlot (key : UInt16) (value : UInt16) (pos : UInt16) : Writes UInt16 := do
  let pos ← writeSlotHeader pos key 0x03 2
  let pos ← writeU16LE pos value
  let pos ← writeByte pos 0
  writeByte pos 0

/-- A slot of eight bytes written as a `ULINT`. -/
def u64Slot (key : UInt16) (typeTag : UInt8) (value : UInt64) (pos : UInt16) : Writes UInt16 := do
  let pos ← writeSlotHeader pos key typeTag 8
  writeU64LE pos value

/-- A slot of four bytes written as a `DWORD`. -/
def dwordSlot (key : UInt16) (typeTag : UInt8) (value : UInt32) (pos : UInt16) :
    Writes UInt16 := do
  let pos ← writeSlotHeader pos key typeTag 4
  writeDWordLE pos value

/-- A slot of type `BOOL`, with its padding. -/
def boolSlot (key : UInt16) (value : UInt8) (pos : UInt16) : Writes UInt16 := do
  let pos ← writeSlotHeader pos key 0x00 1
  let pos ← writeByte pos value
  let pos ← writeByte pos 0
  let pos ← writeByte pos 0
  writeByte pos 0

/-- A slot of eight bytes of an array. -/
def hashSlot (key : UInt16) (value : Vector UInt8 8) (pos : UInt16) : Writes UInt16 := do
  let pos ← writeSlotHeader pos key 0x0D 8
  writeBytes value.toList pos

/-- A slot of type `STRING`, of the given length. -/
def stringSlot (key : UInt16) (value : String96) (length : UInt16) (pos : UInt16) :
    Writes UInt16 := do
  let pos ← writeSlotHeader pos key 0x0C length.toUInt8
  writeStringPayload pos value length

/-- A slot of the bytes of a bit string. -/
def bitsSlot (key : UInt16) (typeTag : UInt8) (value : UInt64) (payloadLength : UInt16)
    (pos : UInt16) : Writes UInt16 := do
  let pos ← writeSlotHeader pos key typeTag payloadLength.toUInt8
  writeValueBitsLE pos value payloadLength

/-- A slot behind an `IF`. -/
def optional (present : Bool) (slot : UInt16 → Writes UInt16) (pos : UInt16) : Writes UInt16 :=
  if present then slot pos else pure pos

/-! ## Records -/

/-- The outputs of an encoder. -/
structure Encoded where
  buffer : Bytes
  length : UInt16
  deriving DecidableEq

/-- A buffer before its first record. -/
def blankBuffer : Bytes := List.replicate 256 0

/-- What every encoder does around its slots: the header with the length computed before, the
slots, and the checksum of what has been written. -/
def encodeRecord (totalLength : UInt16) (envelope : Envelope) (eventTypeId : UInt32)
    (slots : UInt16 → Writes UInt16) : Option Encoded := do
  let (pos, buffer) ← (do
    let pos ← writeHeader totalLength 0x0008 envelope eventTypeId
    slots pos : Writes UInt16).run blankBuffer
  let crc ← crc32c buffer pos
  let (length, buffer) ← (writeDWordLE pos crc).run buffer
  pure ⟨buffer, length⟩

end OpenOT.St
