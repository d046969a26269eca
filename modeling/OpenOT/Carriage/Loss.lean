import OpenOT.Carriage.Registry
import OpenOT.Carriage.Ring
import Mathlib.Data.List.Sort

set_option relaxedAutoImplicit false
set_option autoImplicit false

/-!
# Loss accounting

The tracker of `loss.rs` and the raw consumer of `consumer.rs` that drives it. The tracker infers
loss from jumps of the sequence numbers of a stream, from checkpoints and from authoritative
`RecordsDropped` records, and keeps it as intervals that never touch.

## Main definitions

* `OpenOT.recordsDroppedRecord` — the record that reports a dropped range.
* `OpenOT.LossTracker` — counts and loss intervals per stream.
* `OpenOT.LossTracker.account` — accounts for one record.
* `OpenOT.LossTracker.insertLossEvent` — the interval union.
* `OpenOT.RawByteConsumer.poll` — reads the raw bytes of a ring and accounts for what it finds.

## Design

The arithmetic is that of `u64`, and an overflow panics. The `retain` closure of the interval
union splits the list in two; the sort by first number is stable.
-/

namespace OpenOT

open Rust

/-- A reconciled loss interval of one stream. -/
structure LossEvent where
  bufferId : UInt32
  runId : UInt64
  sourceId : UInt32
  firstSeq : UInt64
  lastSeq : UInt64
  count : UInt64
  synthetic : Bool
  deriving DecidableEq, Repr

/-- The order of the keys `(run_id, source_id)`. -/
abbrev compareStream : UInt64 × UInt32 → UInt64 × UInt32 → Ordering :=
  compareLex (compareOn Prod.fst) (compareOn Prod.snd)

/-- Delivery counts, next sequence numbers and merged loss intervals. -/
structure LossTracker where
  bufferId : UInt32
  nextSeqBySource : Std.TreeMap (UInt64 × UInt32) UInt64 compareStream
  deliveredBySource : Std.TreeMap (UInt64 × UInt32) UInt64 compareStream
  lossEvents : List LossEvent

/-! ## Reporting loss -/

/-- The number of records in the range. -/
def LossRange.count {ε : Type} (range : LossRange) : Outcome ε UInt64 := do
  checkedAdd (← checkedSub range.lastSeq range.firstSeq) 1

/-- The slots of the `RecordsDropped` record of a range of `count` records. -/
def droppedSlots (count : UInt64) (range : LossRange) : List Slot :=
  [⟨KEY_DROPPED_COUNT, TY_UDINT, toLe 4 (count.toNat % 2 ^ 32)⟩,
    ⟨KEY_FIRST_LOST_SEQ, TY_ULINT, toLe 8 range.firstSeq.toNat⟩,
    ⟨KEY_LAST_LOST_SEQ, TY_ULINT, toLe 8 range.lastSeq.toNat⟩]

/-- The authoritative `RecordsDropped` record of a range the producer dropped. -/
def recordsDroppedRecord {ε : Type} (seq : UInt64) (range : LossRange) : Outcome ε Record := do
  let sourceTime ← checkedAdd 1780000000000000000 seq
  let count ← range.count
  pure { Record.new sourceTime range.runId seq range.sourceId EVENT_RECORDS_DROPPED with
    slots := droppedSlots count range }

/-! ## The interval union -/

/-- `a.saturating_add(b)`. -/
def saturatingAdd (a b : UInt64) : UInt64 :=
  if a.toNat + b.toNat < 2 ^ 64 then a + b else 0xFFFFFFFFFFFFFFFF

/-- The two events belong to the same stream of the same buffer. -/
def sameLossStream (left right : LossEvent) : Bool :=
  left.bufferId == right.bufferId && left.runId == right.runId && left.sourceId == right.sourceId

/-- The two ranges overlap, or one ends where the other begins. -/
def rangesTouchOrOverlap (left right : LossEvent) : Bool :=
  decide (right.firstSeq ≤ saturatingAdd left.lastSeq 1) &&
    decide (left.firstSeq ≤ saturatingAdd right.lastSeq 1)

/-- The loop that merges intervals sorted by their first number. -/
def mergeIntervals {ε : Type} : List LossEvent → List LossEvent → Outcome ε (List LossEvent)
  | [], merged => .ok merged
  | interval :: intervals, merged =>
    match merged.getLast? with
    | some last =>
      if rangesTouchOrOverlap last interval then do
        let firstSeq := min last.firstSeq interval.firstSeq
        let lastSeq := max last.lastSeq interval.lastSeq
        let count ← checkedAdd (← checkedSub lastSeq firstSeq) 1
        mergeIntervals intervals (merged.dropLast ++ [{ last with
          firstSeq := firstSeq
          lastSeq := lastSeq
          count := count
          synthetic := last.synthetic && interval.synthetic }])
      else mergeIntervals intervals (merged ++ [interval])
    | none => mergeIntervals intervals (merged ++ [interval])

namespace LossTracker

variable {ε : Type}

/-- A tracker that has seen nothing. -/
def new (bufferId : UInt32) : LossTracker := ⟨bufferId, ∅, ∅, []⟩

/-- Adds an interval, merging it with those it touches. -/
def insertLossEvent (event : LossEvent) : Mut LossTracker ε Unit := do
  let tracker ← Mut.get
  let touches := fun existing =>
    sameLossStream existing event && rangesTouchOrOverlap existing event
  Mut.modify fun tracker =>
    { tracker with lossEvents := tracker.lossEvents.filter fun existing => !touches existing }
  let intervals := tracker.lossEvents.filter touches ++ [event]
  let sorted := intervals.insertionSort fun a b => a.firstSeq ≤ b.firstSeq
  let merged ← Mut.lift (mergeIntervals sorted [])
  Mut.modify fun tracker => { tracker with lossEvents := tracker.lossEvents ++ merged }

/-! ## Reading the loss records -/

/-- The produced count a checkpoint attests, when it is the record's own number. -/
def parseSourceHighWater (record : Record) : Option UInt64 :=
  if record.eventTypeId ≠ EVENT_SOURCE_HIGH_WATER then none
  else record.slots.findSome? fun slot =>
    if slot.key ≠ KEY_SOURCE_HIGH_WATER ∨ slot.payload.length ≠ 8 then none
    else
      let producedCount := UInt64.ofNat (fromLe slot.payload)
      if producedCount = record.seq then some producedCount else none

/-- The fields of a `RecordsDropped` record: count, first and last, the last slot of each kind. -/
def droppedFields (slots : List Slot) : Option UInt64 × Option UInt64 × Option UInt64 :=
  slots.foldl (fun (count, first, last) slot =>
    if slot.key = KEY_DROPPED_COUNT ∧ slot.payload.length = 4 then
      (some (UInt64.ofNat (fromLe slot.payload)), first, last)
    else if slot.key = KEY_FIRST_LOST_SEQ ∧ slot.payload.length = 8 then
      (count, some (UInt64.ofNat (fromLe slot.payload)), last)
    else if slot.key = KEY_LAST_LOST_SEQ ∧ slot.payload.length = 8 then
      (count, first, some (UInt64.ofNat (fromLe slot.payload)))
    else (count, first, last)) (none, none, none)

/-- The loss a `RecordsDropped` record reports, if it is consistent. -/
def parseRecordsDropped (record : Record) (bufferId : UInt32) : Outcome ε (Option LossEvent) :=
  if record.eventTypeId ≠ EVENT_RECORDS_DROPPED then .ok none
  else match droppedFields record.slots with
    | (some count, some first, some last) =>
      if last < first then .ok none
      else do
        let expected ← checkedAdd (← checkedSub last first) 1
        if count ≠ expected then pure none
        else pure (some ⟨bufferId, record.runId, record.sourceId, first, last, count,
          decide (record.flags &&& FLAG_SYNTHETIC ≠ 0)⟩)
    | _ => .ok none

/-! ## Accounting -/

/-- Accounts for the loss a checkpoint attests, up to its own number. -/
def accountHighWater (record : Record) (expected : UInt64) : Mut LossTracker ε Unit := do
  let tracker ← Mut.get
  match parseSourceHighWater record with
  | some producedCount =>
    if expected < producedCount then do
      let lastSeq ← Mut.lift (checkedSub producedCount 1)
      let count ← Mut.lift (checkedSub producedCount expected)
      insertLossEvent
        ⟨tracker.bufferId, record.runId, record.sourceId, expected, lastSeq, count, false⟩
    else pure ()
  | none => pure ()

/-- Accounts for a jump of the sequence number. -/
def accountGap (record : Record) (expected : UInt64) : Mut LossTracker ε Unit := do
  let tracker ← Mut.get
  if expected < record.seq then do
    let last ← Mut.lift (checkedSub record.seq 1)
    let difference ← Mut.lift (checkedSub last expected)
    let count ← Mut.lift (checkedAdd difference 1)
    insertLossEvent
      ⟨tracker.bufferId, record.runId, record.sourceId, expected, last, count, true⟩
  else pure ()

/-- Counts a record that is not behind its stream as delivered. -/
def accountDelivered (record : Record) (expected : UInt64) : Mut LossTracker ε Unit :=
  if expected ≤ record.seq then do
    let sourceKey := (record.runId, record.sourceId)
    Mut.modify fun tracker =>
      { tracker with deliveredBySource := tracker.deliveredBySource.insertIfNew sourceKey 0 }
    let tracker ← Mut.get
    let delivered ← Mut.lift (checkedAdd (tracker.deliveredBySource.getD sourceKey 0) 1)
    Mut.modify fun tracker =>
      { tracker with deliveredBySource := tracker.deliveredBySource.insert sourceKey delivered }
    let next ← Mut.lift (checkedAdd record.seq 1)
    Mut.modify fun tracker =>
      { tracker with nextSeqBySource := tracker.nextSeqBySource.insert sourceKey next }
  else pure ()

/-- Accounts for one record: the loss before it, its delivery, and the loss it reports. -/
def account (record : Record) : Mut LossTracker ε Unit := do
  let tracker ← Mut.get
  let expected := tracker.nextSeqBySource.getD (record.runId, record.sourceId) 0
  accountHighWater record expected
  accountGap record expected
  accountDelivered record expected
  match ← Mut.lift (parseRecordsDropped record tracker.bufferId) with
  | some authoritative => insertLossEvent authoritative
  | none => pure ()

/-- The number of records delivered of a stream. -/
def delivered (tracker : LossTracker) (runId : UInt64) (sourceId : UInt32) : UInt64 :=
  tracker.deliveredBySource.getD (runId, sourceId) 0

/-- The number of records lost of a stream. -/
def lost (tracker : LossTracker) (runId : UInt64) (sourceId : UInt32) : Outcome ε UInt64 :=
  ((tracker.lossEvents.filter fun event =>
    event.runId == runId && event.sourceId == sourceId).map (·.count)).foldlM checkedAdd 0

end LossTracker

/-! ## The raw consumer -/

/-- Reads raw bytes while accounting for loss. -/
structure RawByteConsumer where
  cursorAbs : ℕ
  tracker : LossTracker

namespace RawByteConsumer

/-- A consumer for the default buffer. -/
def new : RawByteConsumer := ⟨0, LossTracker.new DEFAULT_BUFFER_ID⟩

/-- The loop of `account_batch`. -/
def accountRecords : List ReadRecord → Mut LossTracker RingError Unit
  | [] => pure ()
  | read :: records => do
    LossTracker.account read.record
    accountRecords records

/-- Accounts for a batch and moves the cursor behind it. -/
def accountBatch (batch : ReadBatch) : Mut RawByteConsumer RingError Unit := do
  Mut.field (·.tracker) (fun tracker consumer => { consumer with tracker := tracker }) id
    (accountRecords batch.records)
  Mut.modify fun consumer => { consumer with cursorAbs := batch.nextAbs }

/-- Walks the new bytes of a ring and accounts for the decoded records. -/
def poll (ring : RingBuffer) : Mut RawByteConsumer RingError ReadBatch := do
  let consumer ← Mut.get
  let batch ← Mut.lift (ring.readRawFrom consumer.cursorAbs)
  accountBatch batch
  pure batch

/-- The number of records delivered of a stream. -/
def deliveredInRun (consumer : RawByteConsumer) (runId : UInt64) (sourceId : UInt32) : UInt64 :=
  consumer.tracker.delivered runId sourceId

/-- The number of records lost of a stream. -/
def lostInRun (consumer : RawByteConsumer) (runId : UInt64) (sourceId : UInt32) :
    Outcome RingError UInt64 :=
  consumer.tracker.lost runId sourceId

end RawByteConsumer

end OpenOT
