import OpenOT.Carriage.Ring
import OpenOT.Lib.Reader

set_option relaxedAutoImplicit false
set_option autoImplicit false

/-!
# The concurrent publish/read protocol

The producer and the raw consumer of `concurrent.rs`, over a store that both share. The producer
never reads the store: a call computes, from the producer's own span list and head, the stores it
performs, in order. The consumer only loads. Both sides are given load by load and store by
store, so that they can be interleaved.

## Main definitions

* `OpenOT.StoreOp` — the stores and fences of the `ConcurrentStore` contract.
* `OpenOT.ConcurrentProducer` — the producer's private state, with `writeRecord` and
  `appendEncoded`.
* `OpenOT.AppendCall` — a call of the producer.
* `OpenOT.Load` — the loads of the contract.
* `OpenOT.readRawFromStore` — the walk over raw bytes with the overwrite re-check.
* `OpenOT.ConcurrentRawConsumer.poll` — one poll with its recovery.
* `OpenOT.ConcurrentRing` — the owned in-process store.

## Design

Loads and stores are sequentially consistent, so the fences have no effect of their own. A store
is described by what its contract offers; `Load κ` leaves room for the loads `κ` that a store's
own control snapshot needs. The two loads on which the walk decides that a record crosses the
pool's end carry the offset they are about. The capacity of a store is not zero: both stores of
the source refuse to be built otherwise.
-/

namespace OpenOT

open Rust Shared

/-! ## The producer -/

/-- The stores and fences a producer performs. -/
inductive StoreOp where
  | beginControlUpdate
  | fetchAddLost (value : ℕ)
  | storeOldest (value : ℕ)
  | releaseBeforeClobber
  | storeByte (phys : ℕ) (value : UInt8)
  | storeHead (value : ℕ)
  | endControlUpdate
  deriving DecidableEq, Repr

/-- The private state of the single writer: the spans it retains and its head, for a store of the
given capacity. -/
structure ConcurrentProducer where
  capacity : ℕ
  spans : List (ℕ × ℕ)
  headAbs : ℕ
  deriving DecidableEq, Repr

namespace ConcurrentProducer

/-- A producer bound to a store: it starts with no spans and at head zero. -/
def withStore (capacity : ℕ) : ConcurrentProducer := ⟨capacity, [], 0⟩

/-- The absolute start the next record of `encodedLen` bytes will use. -/
def nextStartAbs (producer : ConcurrentProducer) (encodedLen : ℕ) : ℕ :=
  let startPhys := producer.headAbs % producer.capacity
  if startPhys = 0 ∨ startPhys + encodedLen ≤ producer.capacity then producer.headAbs
  else producer.headAbs + (producer.capacity - startPhys)

/-- The loop of `evict_before_clobber`: the spans that stay and the number evicted. -/
def evictLoop (retentionFloor : ℕ) : List (ℕ × ℕ) → ℕ → List (ℕ × ℕ) × ℕ
  | [], evicted => ([], evicted)
  | (startAbs, endAbs) :: spans, evicted =>
    if startAbs < retentionFloor then evictLoop retentionFloor spans (evicted + 1)
    else ((startAbs, endAbs) :: spans, evicted)

/-- Evicts the spans that a head at `finalHead` no longer retains, and publishes the loss and the
new oldest offset before anything is clobbered. -/
def evictBeforeClobber (finalHead nextRecordStart : ℕ) (producer : ConcurrentProducer) :
    List StoreOp × ConcurrentProducer :=
  let retentionFloor := finalHead - producer.capacity
  let (spans, evicted) := evictLoop retentionFloor producer.spans 0
  let newOldest := spans.head?.elim nextRecordStart (·.1)
  ((if 0 < evicted then [.fetchAddLost evicted] else []) ++
    [.storeOldest newOldest, .releaseBeforeClobber], { producer with spans := spans })

/-- The stores of an append: evict, mark the gap, write the bytes, publish the head. -/
def appendBytesCore (bytes : Bytes) (producer : ConcurrentProducer) :
    List StoreOp × ConcurrentProducer :=
  let startPhys := producer.headAbs % producer.capacity
  let recordStartAbs := producer.nextStartAbs bytes.length
  let finalHead := recordStartAbs + bytes.length
  let (evict, evicted) := producer.evictBeforeClobber finalHead recordStartAbs
  let marker := if recordStartAbs ≠ producer.headAbs then [StoreOp.storeByte startPhys 0] else []
  let recordStart := recordStartAbs % producer.capacity
  let body := bytes.mapIdx fun i byte => StoreOp.storeByte (recordStart + i) byte
  ([.beginControlUpdate] ++ evict ++ marker ++ body ++
      [.storeHead finalHead, .endControlUpdate],
    { evicted with spans := evicted.spans ++ [(recordStartAbs, finalHead)], headAbs := finalHead })

/-- Publishes `bytes`: the value is the list of stores performed. -/
def publish (bytes : Bytes) : Mut ConcurrentProducer RingError (List StoreOp) := fun producer =>
  (.ok (producer.appendBytesCore bytes).1, (producer.appendBytesCore bytes).2)

/-- Encodes and publishes `record`. -/
def writeRecord (record : Record) : Mut ConcurrentProducer RingError (List StoreOp) := do
  let encoded ← Mut.lift ((record.encode true).mapErr .wire)
  let producer ← Mut.get
  if producer.capacity < encoded.length then
    Mut.throw (.recordExceedsCapacity encoded.length producer.capacity)
  else publish encoded

/-- Publishes one already-encoded record with a CRC, after checking that it is one. -/
def appendEncoded (bytes : Bytes) : Mut ConcurrentProducer RingError (List StoreOp) := do
  if bytes.length < HEADER_LEN then
    match validateRecord bytes with
    | .err error => Mut.throw (.wire error)
    | _ => Mut.lift .panic
  else do
    let flags ← Mut.lift (readU16 bytes 6)
    if flags &&& FLAG_HAS_CRC = 0 then Mut.throw (.encodedRecordMissingCrc flags)
    else do
      let consumed ← Mut.lift ((validateRecord bytes).mapErr .wire)
      if consumed ≠ bytes.length then
        Mut.throw (.encodedRecordLengthMismatch consumed bytes.length)
      else do
        let producer ← Mut.get
        if producer.capacity < bytes.length then
          Mut.throw (.recordExceedsCapacity bytes.length producer.capacity)
        else publish bytes

end ConcurrentProducer

/-- A call of the producer. -/
inductive AppendCall where
  | writeRecord (record : Record)
  | appendEncoded (bytes : Bytes)
  deriving DecidableEq, Repr

/-- The call: the stores it will perform. -/
def AppendCall.run : AppendCall → Mut ConcurrentProducer RingError (List StoreOp)
  | writeRecord record => ConcurrentProducer.writeRecord record
  | appendEncoded bytes => ConcurrentProducer.appendEncoded bytes

/-- The bytes the call appends. -/
def AppendCall.bytes : AppendCall → Bytes
  | writeRecord record =>
    match record.encode true with
    | .ok bytes => bytes
    | _ => []
  | appendEncoded bytes => bytes

/-! ## The consumer -/

/-- The loads a consumer performs. The byte loads that decide whether a record crosses the pool's
end say which record it is: `firstByte` the byte at its start, `lengthHigh` the second byte of
its length, the first being `low`. -/
inductive Load (κ : Type) where
  | head
  | oldest
  | lost
  | byte (phys : ℕ)
  | firstByte (abs phys : ℕ)
  | lengthHigh (abs phys : ℕ) (low : UInt8)
  | control (location : κ)
  deriving DecidableEq

/-- What a load returns: a word, a byte (or a panic, out of range), or a value of the control
block. -/
def Load.Value {κ : Type} (value : κ → Type) : Load κ → Type
  | head => ℕ
  | oldest => ℕ
  | lost => ℕ
  | byte _ => Outcome RingError UInt8
  | firstByte _ _ => Outcome RingError UInt8
  | lengthHigh _ _ _ => Outcome RingError UInt8
  | control location => value location

section Consumer

variable {κ : Type} {value : κ → Type}

/-- `load_head_acquire`. -/
def loadHead {ε : Type} : Attempt (Load κ) (Load.Value value) ε ℕ :=
  Attempt.load (ρ := Load.Value value) Load.head

/-- `load_oldest_acquire` and `load_oldest_relaxed`. -/
def loadOldest {ε : Type} : Attempt (Load κ) (Load.Value value) ε ℕ :=
  Attempt.load (ρ := Load.Value value) Load.oldest

/-- `load_lost_acquire`. -/
def loadLost {ε : Type} : Attempt (Load κ) (Load.Value value) ε ℕ :=
  Attempt.load (ρ := Load.Value value) Load.lost

/-- `load_byte_relaxed`. -/
def loadByte (phys : ℕ) : Attempt (Load κ) (Load.Value value) RingError UInt8 :=
  Reader.load (ρ := Load.Value value) (Load.byte phys) .ret

/-- The load of the byte at the start of a record or gap. -/
def loadFirst (abs phys : ℕ) : Attempt (Load κ) (Load.Value value) RingError UInt8 :=
  Reader.load (ρ := Load.Value value) (Load.firstByte abs phys) .ret

/-- The load of the second length byte. -/
def loadLengthHigh (abs phys : ℕ) (low : UInt8) :
    Attempt (Load κ) (Load.Value value) RingError UInt8 :=
  Reader.load (ρ := Load.Value value) (Load.lengthHigh abs phys low) .ret

/-- Byte after byte, `n` of them from `phys` on. -/
def loadBytes (phys : ℕ) : ℕ → Attempt (Load κ) (Load.Value value) RingError Bytes
  | 0 => pure []
  | n + 1 => do
    let byte ← loadByte phys
    let bytes ← loadBytes (phys + 1) n
    pure (byte :: bytes)

/-- The loop of `read_raw_from_store`. -/
def readRawLoop (capacity headAbs firstOldest abs : ℕ) (records : List ReadRecord) :
    Attempt (Load κ) (Load.Value value) RingError (List ReadRecord) :=
  if abs < headAbs then
    if abs < firstOldest then Attempt.throw (.overwrittenMidRead abs firstOldest)
    else if capacity = 0 then Attempt.lift .panic
    else do
      let phys := abs % capacity
      let first ← loadFirst abs phys
      if first = 0 then
        if phys = 0 then Attempt.throw (.unexpectedWrapMarker abs)
        else readRawLoop capacity headAbs firstOldest (abs + (capacity - phys)) records
      else if capacity < phys + HEADER_LEN then Attempt.throw (.recordCrossesBoundary abs)
      else do
        let sync ← loadBytes phys 4
        if sync ≠ SYNC then Attempt.throw (.wire .wrongSync)
        else do
          let low ← loadByte (phys + 4)
          let high ← loadLengthHigh abs (phys + 5) low
          let totalLen := fromLe [low, high]
          if totalLen < HEADER_LEN then
            Attempt.throw (.wire (.invalidLength totalLen (capacity - phys)))
          else if capacity < phys + totalLen then Attempt.throw (.recordCrossesBoundary abs)
          else do
            let bytes ← loadBytes phys totalLen
            let oldestAfter ← loadOldest
            if abs < oldestAfter then Attempt.throw (.overwrittenMidRead abs oldestAfter)
            else do
              let decoded ← Attempt.lift ((decode bytes).mapErr .wire)
              readRawLoop capacity headAbs firstOldest (abs + totalLen)
                (records ++ [⟨abs, abs + decoded.consumed, decoded.record⟩])
  else pure records
termination_by headAbs - abs
decreasing_by
  · have := Nat.mod_lt abs (Nat.pos_of_ne_zero ‹¬capacity = 0›)
    omega
  · unfold HEADER_LEN at *
    omega

/-- Reads records at or after `cursorAbs` from a store that offers a control snapshot. -/
def readRawFromStore (capacity : ℕ)
    (readControlSnapshot :
      Attempt (Load κ) (Load.Value value) ControlBlockError ControlBlockSnapshot)
    (cursorAbs : ℕ) : Attempt (Load κ) (Load.Value value) RingError ReadBatch := do
  let snapshot ← readControlSnapshot.mapErr .controlBlock
  if snapshot.bufferBytes.toNat ≠ capacity then
    Attempt.throw (.controlBlockCapacityMismatch snapshot.bufferBytes capacity)
  else do
    let firstOldest := snapshot.oldestAbs
    let headAbs := snapshot.headAbs
    let lapped := decide (cursorAbs < firstOldest)
    let records ←
      readRawLoop capacity headAbs firstOldest (if lapped then firstOldest else cursorAbs) []
    let finalOldest ← loadOldest
    if finalOldest ≠ firstOldest ∧ cursorAbs < finalOldest then
      Attempt.throw (.overwrittenMidRead cursorAbs finalOldest)
    else pure ⟨records, headAbs, lapped⟩

/-- The private state of a consumer. -/
structure ConcurrentRawConsumer where
  cursorAbs : ℕ
  lappedBatches : ℕ
  overwrittenRetries : ℕ
  rejectedRecords : ℕ
  deriving DecidableEq, Repr

/-- A new consumer starts at offset zero. -/
def ConcurrentRawConsumer.withStore : ConcurrentRawConsumer := ⟨0, 0, 0, 0⟩

/-- Reads available records, lapping the cursor to the oldest offset after an overwrite or a
decode fault. Returns the result of the call and the consumer it leaves. -/
def ConcurrentRawConsumer.poll (capacity : ℕ)
    (readControlSnapshot :
      Attempt (Load κ) (Load.Value value) ControlBlockError ControlBlockSnapshot)
    (consumer : ConcurrentRawConsumer) :
    Reader (Load κ) (Load.Value value) (Outcome RingError ReadBatch × ConcurrentRawConsumer) :=
  Reader.bind (readRawFromStore capacity readControlSnapshot consumer.cursorAbs) fun
    | .ok batch => .ret (.ok batch, { consumer with
        lappedBatches := if batch.lapped then consumer.lappedBatches + 1
          else consumer.lappedBatches
        cursorAbs := batch.nextAbs })
    | .err (.overwrittenMidRead _ oldestAbs) => .ret (.ok ⟨[], oldestAbs, true⟩, { consumer with
        cursorAbs := oldestAbs
        overwrittenRetries := consumer.overwrittenRetries + 1 })
    | .err (.controlBlock _) => .ret (.ok ⟨[], consumer.cursorAbs, false⟩, { consumer with
        overwrittenRetries := consumer.overwrittenRetries + 1 })
    | .err (.wire error) => .load .oldest fun (oldest : ℕ) =>
        if consumer.cursorAbs < oldest then
          .ret (.ok ⟨[], oldest, true⟩, { consumer with
            cursorAbs := oldest
            rejectedRecords := consumer.rejectedRecords + 1 })
        else .ret (.err (.wire error), consumer)
    | .err error => .ret (.err error, consumer)
    | .panic => .ret (.panic, consumer)

end Consumer

/-! ## The owned store -/

/-- A ring whose bytes and control fields are shared with a consumer in the same process. -/
structure ConcurrentRing where
  bytes : Bytes
  headAbs : ℕ
  oldestAbs : ℕ
  lostCount : ℕ
  deriving DecidableEq, Repr

namespace ConcurrentRing

/-- A zeroed ring; panics if the capacity is zero. -/
def new (capacity : ℕ) : Outcome RingError ConcurrentRing :=
  if capacity = 0 then .panic else .ok ⟨List.replicate capacity 0, 0, 0, 0⟩

/-- The effect of one store. The owned store has no control version, and its fences order
nothing that is not already ordered. -/
def apply (ring : ConcurrentRing) : StoreOp → ConcurrentRing
  | .beginControlUpdate => ring
  | .fetchAddLost value => { ring with lostCount := ring.lostCount + value }
  | .storeOldest value => { ring with oldestAbs := value }
  | .releaseBeforeClobber => ring
  | .storeByte phys value => { ring with bytes := ring.bytes.set phys value }
  | .storeHead value => { ring with headAbs := value }
  | .endControlUpdate => ring

/-- The effect of a list of stores, one after the other. -/
def applyAll (ring : ConcurrentRing) (ops : List StoreOp) : ConcurrentRing :=
  ops.foldl apply ring

/-- What a load returns. -/
def read : (load : Load Empty) → ConcurrentRing → load.Value Empty.elim
  | .head, ring => ring.headAbs
  | .oldest, ring => ring.oldestAbs
  | .lost, ring => ring.lostCount
  | .byte phys, ring => index ring.bytes phys
  | .firstByte _ phys, ring => index ring.bytes phys
  | .lengthHigh _ phys _, ring => index ring.bytes phys

/-- The control snapshot of the owned store: three separate loads. -/
def readControlSnapshot (capacity : ℕ) :
    Attempt (Load Empty) (Load.Value Empty.elim) ControlBlockError ControlBlockSnapshot := do
  let headAbs ← loadHead
  let oldestAbs ← loadOldest
  let lostCount ← loadLost
  pure {
    version := 2
    caps := 0
    bufferId := DEFAULT_BUFFER_ID
    bufferBytes := if capacity < 2 ^ 32 then UInt32.ofNat capacity else 0xFFFFFFFF
    headAbs := headAbs
    oldestAbs := oldestAbs
    lostCount := lostCount
    runId := 0
    epochId := 0
    epochFirstAbs := 0
    definitionHash := List.replicate 8 0
    prevDefinitionHash := List.replicate 8 0 }

end ConcurrentRing

end OpenOT
