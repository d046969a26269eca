import OpenOT.Carriage.Concurrent

set_option relaxedAutoImplicit false
set_option autoImplicit false

/-!
# The shared-memory store

The mapped store of `open-ot-shm`: the pool and, in front of it, the 88-byte control block whose
words the producer updates between two increments of `SeqLock`. A reader takes a snapshot of the
block byte by byte and word by word, and retries until `SeqLock` was even and did not change.

## Main definitions

* `OpenOT.SharedStore` — the mapped store.
* `OpenOT.SharedStore.apply` — the effect of one store.
* `OpenOT.ControlLoad` — the loads of the snapshot, besides those of the common contract.
* `OpenOT.SharedStore.readControlSnapshot` — the snapshot with its retries.

## Design

`HeadAbs`, `OldestAbs` and `LostCount` are kept as natural numbers, like every absolute offset; a
load of the 64-bit word sees the number modulo `2 ^ 64`. `SeqLock` wraps. The other fields of the
block are written once, when the store is created; the bytes of the block, which single-byte loads
see, are those of `OpenOT.SharedStore.controlBlock`. The two loads of `SeqLock` in an attempt are
kept apart by name. A mapping that cannot be made is outside the model.
-/

namespace OpenOT

open Rust Shared

/-- `CONTROL_SNAPSHOT_RETRIES`. -/
def CONTROL_SNAPSHOT_RETRIES : ℕ := 1000

/-- The mapped store: the pool with the three words of the ring, `SeqLock` and `BufferBytes`. -/
structure SharedStore where
  ring : ConcurrentRing
  seqLock : UInt32
  bufferBytes : UInt32
  deriving DecidableEq, Repr

/-- The loads of the control block that a snapshot performs besides the three words of the
ring. -/
inductive ControlLoad where
  | byte (offset : ℕ)
  | firstSeqLock
  | secondSeqLock
  | bufferId
  | bufferBytes
  | runId
  | epochId
  | epochFirstAbs
  deriving DecidableEq, Repr

/-- What such a load returns. -/
def ControlLoad.Value : ControlLoad → Type
  | byte _ => UInt8
  | firstSeqLock => UInt32
  | secondSeqLock => UInt32
  | bufferId => UInt32
  | bufferBytes => UInt32
  | runId => UInt64
  | epochId => UInt64
  | epochFirstAbs => UInt64

/-- A reader of a shared store. -/
abbrev SharedAttempt (ε α : Type) : Type :=
  Attempt (Load ControlLoad) (Load.Value ControlLoad.Value) ε α

namespace SharedStore

/-- A zeroed store with an initialized control block; `none` for a capacity of zero. -/
def create (capacity : ℕ) : Option SharedStore :=
  if capacity = 0 then none
  else some ⟨⟨List.replicate capacity 0, 0, 0, 0⟩, 0,
    if capacity < 2 ^ 32 then UInt32.ofNat capacity else 0xFFFFFFFF⟩

/-- The bytes of the control block. -/
def controlBlock (store : SharedStore) : Bytes :=
  CONTROL_BLOCK_SYNC ++ [2, 0, 0, 0] ++ toLe 4 DEFAULT_BUFFER_ID.toNat ++
    toLe 4 store.bufferBytes.toNat ++ toLe 4 store.seqLock.toNat ++ [0, 0, 0, 0] ++
    toLe 8 store.ring.headAbs ++ toLe 8 store.ring.oldestAbs ++ toLe 8 store.ring.lostCount ++
    List.replicate 40 0

/-- The effect of one store. -/
def apply (store : SharedStore) : StoreOp → SharedStore
  | .beginControlUpdate => { store with seqLock := store.seqLock + 1 }
  | .endControlUpdate => { store with seqLock := store.seqLock + 1 }
  | op => { store with ring := store.ring.apply op }

/-- The effect of a list of stores, one after the other. -/
def applyAll (store : SharedStore) (ops : List StoreOp) : SharedStore := ops.foldl apply store

/-- What a load of the control block returns. -/
def readControl : (location : ControlLoad) → SharedStore → location.Value
  | .byte offset, store => store.controlBlock.getD offset 0
  | .firstSeqLock, store => store.seqLock
  | .secondSeqLock, store => store.seqLock
  | .bufferId, _ => DEFAULT_BUFFER_ID
  | .bufferBytes, store => store.bufferBytes
  | .runId, _ => (0 : UInt64)
  | .epochId, _ => (0 : UInt64)
  | .epochFirstAbs, _ => (0 : UInt64)

/-- What a load returns. -/
def read : (load : Load ControlLoad) → SharedStore → load.Value ControlLoad.Value
  | .head, store => store.ring.headAbs % 2 ^ 64
  | .oldest, store => store.ring.oldestAbs % 2 ^ 64
  | .lost, store => store.ring.lostCount % 2 ^ 64
  | .byte phys, store => index store.ring.bytes phys
  | .firstByte _ phys, store => index store.ring.bytes phys
  | .lengthHigh _ phys _, store => index store.ring.bytes phys
  | .control location, store => readControl location store

/-! ## The control snapshot -/

/-- A load of the control block. -/
def loadControl {ε : Type} (location : ControlLoad) : SharedAttempt ε location.Value :=
  Attempt.load (ρ := Load.Value ControlLoad.Value) (Load.control location)

/-- Byte after byte of the block, `n` of them from `offset` on. -/
def loadControlBytes {ε : Type} (offset : ℕ) : ℕ → SharedAttempt ε Bytes
  | 0 => pure []
  | n + 1 => do
    let byte ← loadControl (.byte offset)
    let bytes ← loadControlBytes (offset + 1) n
    pure (byte :: bytes)

/-- A copy of the block: all bytes one by one, then the words over them. -/
def readControlImage (seqLock : UInt32) : SharedAttempt ControlBlockError Bytes := do
  let bytes ← loadControlBytes 0 CONTROL_BLOCK_LEN
  let bytes ← Attempt.lift (copyFromSlice bytes OFF_SEQ_LOCK (toLe 4 seqLock.toNat))
  let bufferId ← loadControl .bufferId
  let bytes ← Attempt.lift (copyFromSlice bytes OFF_BUFFER_ID (toLe 4 (UInt32.toNat bufferId)))
  let bufferBytes ← loadControl .bufferBytes
  let bytes ←
    Attempt.lift (copyFromSlice bytes OFF_BUFFER_BYTES (toLe 4 (UInt32.toNat bufferBytes)))
  let headAbs ← loadHead
  let bytes ← Attempt.lift (copyFromSlice bytes OFF_HEAD_ABS (toLe 8 headAbs))
  let oldestAbs ← loadOldest
  let bytes ← Attempt.lift (copyFromSlice bytes OFF_OLDEST_ABS (toLe 8 oldestAbs))
  let lostCount ← loadLost
  let bytes ← Attempt.lift (copyFromSlice bytes OFF_LOST_COUNT (toLe 8 lostCount))
  let runId ← loadControl .runId
  let bytes ← Attempt.lift (copyFromSlice bytes OFF_RUN_ID (toLe 8 (UInt64.toNat runId)))
  let epochId ← loadControl .epochId
  let bytes ← Attempt.lift (copyFromSlice bytes OFF_EPOCH_ID (toLe 8 (UInt64.toNat epochId)))
  let epochFirstAbs ← loadControl .epochFirstAbs
  Attempt.lift (copyFromSlice bytes OFF_EPOCH_FIRST_ABS (toLe 8 (UInt64.toNat epochFirstAbs)))

/-- An attempt, after `SeqLock` was found to be `first`: copy the block, load `SeqLock` again and
decode. -/
def attemptSnapshot (first : UInt32) : SharedAttempt ControlBlockError ControlBlockSnapshot := do
  let bytes ← readControlImage first
  let second ← loadControl .secondSeqLock
  Attempt.lift (decodeWithLocks bytes first second)

/-- What follows an attempt: a snapshot or a lasting error is returned, an update in progress is
retried. -/
def afterAttempt
    (retry : ControlBlockError → SharedAttempt ControlBlockError ControlBlockSnapshot) :
    Outcome ControlBlockError ControlBlockSnapshot →
      SharedAttempt ControlBlockError ControlBlockSnapshot
  | .ok snapshot => pure snapshot
  | .err (.updating seqLock) => retry (.updating seqLock)
  | .err (.staleSnapshot first second) => retry (.staleSnapshot first second)
  | .err error => Attempt.throw error
  | .panic => Attempt.lift .panic

/-- The retry loop: `retries` attempts are left. -/
def retrySnapshot : ℕ → ControlBlockError → SharedAttempt ControlBlockError ControlBlockSnapshot
  | 0, lastError => Attempt.throw lastError
  | retries + 1, _ => do
    let (first : UInt32) ← loadControl .firstSeqLock
    if first % 2 ≠ 0 then retrySnapshot retries (.updating first)
    else Reader.bind (attemptSnapshot first) (afterAttempt (retrySnapshot retries))

/-- The control snapshot of the mapped store. -/
def readControlSnapshot : SharedAttempt ControlBlockError ControlBlockSnapshot :=
  retrySnapshot CONTROL_SNAPSHOT_RETRIES (.updating 1)

end SharedStore

end OpenOT
