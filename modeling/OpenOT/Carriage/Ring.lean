import OpenOT.Carriage.Control

set_option relaxedAutoImplicit false
set_option autoImplicit false

/-!
# The byte-pool ring

The controller-side store of `ring.rs`: a fixed byte pool addressed by ever-increasing absolute
offsets, with the in-memory span index of the producer and the two readers, one over the index
and one over the raw bytes.

## Main definitions

* `OpenOT.RingBuffer` — the ring.
* `OpenOT.RingBuffer.writeRecord` — encode, evict what would be clobbered, mark the gap, write.
* `OpenOT.RingBuffer.readFrom` — the reader over the span index.
* `OpenOT.RingBuffer.readRawFrom` — the reader over the raw bytes.

## Design

Absolute offsets and counters of bytes and records are natural numbers; the sequence numbers of
`LossRange` are the record's own `u64` values, and their successor wraps. A `VecDeque` and a
`Vec` are lists, front first. The closure that re-reads `oldest_abs` during a raw read has, for
a ring in one process, a constant value.
-/

namespace OpenOT

open Rust

/-- One record returned by a read, tagged with its absolute byte span. -/
structure ReadRecord where
  startAbs : ℕ
  endAbs : ℕ
  record : Record
  deriving DecidableEq, Repr

/-- The result of reading from a cursor. -/
structure ReadBatch where
  records : List ReadRecord
  nextAbs : ℕ
  lapped : Bool
  deriving DecidableEq, Repr

/-- An entry of the span index. -/
structure RecordIndex where
  startAbs : ℕ
  endAbs : ℕ
  runId : UInt64
  sourceId : UInt32
  seq : UInt64
  deriving DecidableEq, Repr

/-- A contiguous run of records the producer dropped for one source. -/
structure LossRange where
  runId : UInt64
  sourceId : UInt32
  firstSeq : UInt64
  lastSeq : UInt64
  deriving DecidableEq, Repr

/-- Errors from ring reads and writes. -/
inductive RingError where
  | overwrittenMidRead (readAbs oldestAbs : ℕ)
  | recordCrossesBoundary (abs : ℕ)
  | recordExceedsCapacity (recordLen capacity : ℕ)
  | encodedRecordLengthMismatch (declaredLen actualLen : ℕ)
  | encodedRecordMissingCrc (flags : UInt16)
  | controlBlockCapacityMismatch (snapshotBytes : UInt32) (capacity : ℕ)
  | capturedCapacityZero
  | invalidCapturedWindow (headAbs oldestAbs capacity : ℕ)
  | controlBlock (error : ControlBlockError)
  | unexpectedWrapMarker (abs : ℕ)
  | wire (error : WireError)
  deriving DecidableEq, Repr

/-- A single-writer ring buffer over a fixed byte pool. -/
structure RingBuffer where
  bytes : Bytes
  headAbs : ℕ
  oldestAbs : ℕ
  lostCount : ℕ
  wraps : ℕ
  index : List RecordIndex
  producerLossRanges : List LossRange
  deriving DecidableEq, Repr

namespace RingBuffer

/-- A ring with a fixed byte capacity; panics if it is zero. -/
def new (capacity : ℕ) : Outcome RingError RingBuffer :=
  if capacity = 0 then .panic
  else .ok ⟨List.replicate capacity 0, 0, 0, 0, 0, [], []⟩

/-- Byte capacity of the ring. -/
def capacity (ring : RingBuffer) : ℕ := ring.bytes.length

/-- The physical index of an absolute offset. -/
def physicalOffset (ring : RingBuffer) (abs : ℕ) : Outcome RingError ℕ :=
  if ring.capacity = 0 then .panic else .ok (abs % ring.capacity)

/-! ## Writing -/

/-- Remembers an evicted record, extending the last range when it continues it. -/
def recordProducerLoss (ranges : List LossRange) (runId : UInt64) (sourceId : UInt32)
    (seq : UInt64) : List LossRange :=
  match ranges.getLast? with
  | some last =>
    if last.runId = runId ∧ last.sourceId = sourceId ∧ last.lastSeq + 1 = seq then
      ranges.dropLast ++ [{ last with lastSeq := seq }]
    else ranges ++ [⟨runId, sourceId, seq, seq⟩]
  | none => ranges ++ [⟨runId, sourceId, seq, seq⟩]

/-- The loop of `evict_before_clobber`: the index that stays, the loss ranges and the number of
records evicted. -/
def evictLoop (retentionFloor : ℕ) :
    List RecordIndex → List LossRange → ℕ → List RecordIndex × List LossRange × ℕ
  | [], ranges, evicted => ([], ranges, evicted)
  | front :: index, ranges, evicted =>
    if front.startAbs < retentionFloor then
      evictLoop retentionFloor index
        (recordProducerLoss ranges front.runId front.sourceId front.seq) (evicted + 1)
    else (front :: index, ranges, evicted)

/-- Evicts the records that a head at `finalHead` no longer retains. -/
def evictBeforeClobber (finalHead nextRecordStart : ℕ) : Mut RingBuffer RingError Unit :=
  Mut.modify fun ring =>
    let retentionFloor := finalHead - ring.capacity
    let (index, ranges, evicted) := evictLoop retentionFloor ring.index ring.producerLossRanges 0
    { ring with
      index := index
      producerLossRanges := ranges
      lostCount := ring.lostCount + evicted
      oldestAbs := index.head?.elim nextRecordStart (·.startAbs) }

/-- Encodes and appends `record`, reclaiming the oldest bytes if needed; returns its span. -/
def writeRecord (record : Record) : Mut RingBuffer RingError (ℕ × ℕ) := do
  let encoded ← Mut.lift ((record.encode true).mapErr .wire)
  let ring ← Mut.get
  if ring.capacity < encoded.length then
    Mut.throw (.recordExceedsCapacity encoded.length ring.capacity)
  else do
    let startPhys ← Mut.lift (ring.physicalOffset ring.headAbs)
    let startAbs :=
      if startPhys = 0 ∨ startPhys + encoded.length ≤ ring.capacity then ring.headAbs
      else ring.headAbs + (ring.capacity - startPhys)
    let endAbs := startAbs + encoded.length
    evictBeforeClobber endAbs startAbs
    if startAbs ≠ ring.headAbs then do
      let bytes ← Mut.lift (assign ring.bytes startPhys 0)
      Mut.modify fun ring => { ring with bytes := bytes, wraps := ring.wraps + 1 }
    else pure ()
    let start ← Mut.lift (ring.physicalOffset startAbs)
    let marked ← Mut.get
    let bytes ← Mut.lift (copyFromSlice marked.bytes start encoded)
    Mut.modify fun ring =>
      { ring with
        bytes := bytes
        headAbs := endAbs
        index := ring.index ++ [⟨startAbs, endAbs, record.runId, record.sourceId, record.seq⟩] }
    pure (startAbs, endAbs)

/-- Drains the producer-side record of everything evicted so far. -/
def takeProducerLossRanges : Mut RingBuffer RingError (List LossRange) := do
  let ring ← Mut.get
  Mut.modify fun ring => { ring with producerLossRanges := [] }
  pure ring.producerLossRanges

/-! ## Reading through the index -/

/-- The loop of `read_from`: decodes the indexed spans at or after the cursor. -/
def readIndexed (ring : RingBuffer) (cursor : ℕ) :
    List RecordIndex → Outcome RingError (List ReadRecord)
  | [] => .ok []
  | idx :: index =>
    if cursor ≤ idx.startAbs then do
      let start ← ring.physicalOffset idx.startAbs
      let len := idx.endAbs - idx.startAbs
      let span ← slice ring.bytes start (start + len)
      let decoded ← (decode span).mapErr .wire
      let records ← readIndexed ring cursor index
      pure (⟨idx.startAbs, idx.endAbs, decoded.record⟩ :: records)
    else readIndexed ring cursor index

/-- Reads records at or after `cursorAbs` using the in-memory index. -/
def readFrom (ring : RingBuffer) (cursorAbs : ℕ) : Outcome RingError ReadBatch := do
  let lapped := decide (cursorAbs < ring.oldestAbs)
  let effectiveCursor := if lapped then ring.oldestAbs else cursorAbs
  let records ← readIndexed ring effectiveCursor ring.index
  pure ⟨records, ring.headAbs, lapped⟩

/-! ## Reading the raw bytes -/

/-- The loop of `read_raw_window`: walks from `abs` to `headAbs`, following wrap markers. The
re-check of the oldest offset returns `oldestAfter`. -/
def readRawLoop (ring : RingBuffer) (headAbs firstOldest oldestAfter : ℕ) (abs : ℕ)
    (records : List ReadRecord) : Outcome RingError (List ReadRecord) :=
  if abs < headAbs then
    if abs < firstOldest then .err (.overwrittenMidRead abs firstOldest)
    else if ring.capacity = 0 then .panic
    else do
      let phys := abs % ring.capacity
      let first ← Rust.index ring.bytes phys
      if first = 0 then
        if phys = 0 then .err (.unexpectedWrapMarker abs)
        else readRawLoop ring headAbs firstOldest oldestAfter (abs + (ring.capacity - phys)) records
      else if ring.capacity < phys + HEADER_LEN then .err (.recordCrossesBoundary abs)
      else do
        let sync ← slice ring.bytes phys (phys + 4)
        if sync ≠ SYNC then .err (.wire .wrongSync)
        else do
          let totalLen := (← readU16 ring.bytes (phys + 4)).toNat
          if totalLen < HEADER_LEN then
            .err (.wire (.invalidLength totalLen (ring.capacity - phys)))
          else if ring.capacity < phys + totalLen then .err (.recordCrossesBoundary abs)
          else do
            let span ← slice ring.bytes phys (phys + totalLen)
            let decoded ← (decode span).mapErr .wire
            if abs < oldestAfter then .err (.overwrittenMidRead abs oldestAfter)
            else
              readRawLoop ring headAbs firstOldest oldestAfter (abs + totalLen)
                (records ++ [⟨abs, abs + decoded.consumed, decoded.record⟩])
  else .ok records
termination_by headAbs - abs
decreasing_by
  · have := Nat.mod_lt abs (Nat.pos_of_ne_zero ‹¬ring.capacity = 0›)
    omega
  · unfold HEADER_LEN at *
    omega

/-- Reads the raw bytes of the window from `firstOldest` to `headAbs`. -/
def readRawWindow (ring : RingBuffer) (cursorAbs headAbs firstOldest oldestAfter : ℕ) :
    Outcome RingError ReadBatch := do
  let lapped := decide (cursorAbs < firstOldest)
  let abs := if lapped then firstOldest else cursorAbs
  let records ← readRawLoop ring headAbs firstOldest oldestAfter abs []
  if oldestAfter ≠ firstOldest ∧ cursorAbs < oldestAfter then
    .err (.overwrittenMidRead cursorAbs oldestAfter)
  else pure ⟨records, headAbs, lapped⟩

/-- Reads records at or after `cursorAbs` by walking raw bytes. -/
def readRawFrom (ring : RingBuffer) (cursorAbs : ℕ) : Outcome RingError ReadBatch :=
  ring.readRawWindow cursorAbs ring.headAbs ring.oldestAbs ring.oldestAbs

end RingBuffer

end OpenOT
