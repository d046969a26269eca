import OpenOT.St.Encoders
import OpenOT.St.Ring256

set_option relaxedAutoImplicit false
set_option autoImplicit false

/-!
# Publishing a record

What the operations of `OPENOT_Producer` share: its inputs, the list of the records of a scan, and
the step that hands an encoded record to the ring and then to that list.

## Main definitions

* `OpenOT.St.Inputs` — the inputs of `OPENOT_Producer`.
* `OpenOT.St.ScanList` — the scan records, with `ScanList.append` and `ScanList.reset`.
* `OpenOT.St.Store` — the ring, the scan list and the counters behind them, with
  `Store.publish`.

## Design

Positions and counts of the scan list are natural numbers: `ScanWritePos` never goes above 1024. The
emission log is the list of the first `EmissionCount` entries of its array. The field `published`
is history: the records that the ring and the scan list have taken, with the inputs of the calls
that emitted them; the fields `listed` and `countAtReset` are history too: what has been published
since the scan list was reset, and the counter at that time. No function reads them.
-/

namespace OpenOT.St

open Rust CircularLog

/-! ## Inputs -/

/-- An empty string. -/
def String96.empty : String96 := ⟨[], Nat.zero_le 96⟩

/-- The inputs of `OPENOT_Producer`. -/
structure Inputs where
  execute : Bool := false
  op : UInt16 := 0
  sourceId : UInt32 := 0
  checkpoint : Bool := false
  defHashOld : Vector UInt8 8 := .replicate 8 0
  defHashNew : Vector UInt8 8 := .replicate 8 0
  transitionEpochId : UInt64 := 0
  useSourceTimeInput : Bool := false
  sourceTimeInput : UInt64 := 0
  stageRecord : Vector UInt8 256 := .replicate 256 0
  stageLength : UInt16 := 0
  stageSeq : UInt64 := 0
  stageEventTypeId : UInt32 := 0
  resetScanRecords : Bool := false
  accumulateScanRecords : Bool := false
  valueId : UInt32 := 0
  valueReal : UInt32 := 0
  valueInt : Int32 := 0
  valueBits : UInt64 := 0
  valueTypeTag : UInt8 := 0
  valuePayloadLength : UInt16 := 0
  valueString : String96 := .empty
  deadbandReal : UInt32 := 0
  samplingMode : UInt16 := 0
  samplingIntervalMs : UInt64 := 0
  suppressPrevious : Bool := false
  hasQuality : Bool := false
  quality : UInt16 := 0
  stateMachineId : UInt32 := 0
  category : UInt16 := 0
  previousState : UInt16 := 0
  newState : UInt16 := 0
  conditionId : UInt32 := 0
  conditionClass : UInt16 := 0
  severity : UInt16 := 0
  conditionActive : Bool := false
  hasCauseOperand : Bool := false
  causeOperand : UInt32 := 0
  conditionLifecycleEventTypeId : UInt32 := 0
  lifecycle : LifecycleInputs :=
    ⟨false, .empty, false, 0, false, .empty, false, .empty, false, 0, false, 0⟩
  procedure : ProcedureInputs :=
    ⟨0, 0, false, .empty, false, 0, false, 0, false, .empty, 0, 0, 0, false, 0⟩
  regulated : RegulatedInputs :=
    ⟨0, 0, .empty, false, 0, false, 0, false, 0, false, 0, false, 0, false, .empty, false, 0,
      false, .empty⟩
  audit : AuditInputs := ⟨.empty, .empty, false, 0⟩
  message : MessageInputs :=
    ⟨0, false, 0, 0, ⟨0, 0, 0, .empty⟩, ⟨0, 0, 0, .empty⟩, ⟨0, 0, 0, .empty⟩, ⟨0, 0, 0, .empty⟩⟩
  attestableId : UInt32 := 0
  signatureActionId : UInt32 := 0
  signatureActor : String96 := .empty
  signatureMeaning : UInt16 := 0
  signatureAttestsId : UInt32 := 0
  signatureHasAuthResult : Bool := false
  signatureAuthResult : UInt16 := 0
  deriving DecidableEq

/-- `ActiveSourceId`: source 0 is taken as source 1. -/
def Inputs.activeSourceId (inputs : Inputs) : UInt32 :=
  if inputs.sourceId = 0 then 1 else inputs.sourceId

/-! ## The scan list -/

/-- The scan records: their bytes one behind the other, and the offset and length of each. -/
structure ScanList where
  records : Bytes
  offsets : Vector ℕ 17
  lengths : Vector ℕ 17
  writePos : ℕ
  count : ℕ
  deriving DecidableEq

namespace ScanList

/-- The scan list before the first call. -/
def new : ScanList where
  records := List.replicate 1024 0
  offsets := .replicate 17 0
  lengths := .replicate 17 0
  writePos := 0
  count := 0

/-- Whether `OPENOT_AppendScanRecord` takes a record of the given length. -/
def hasRoom (length : UInt16) (scan : ScanList) : Bool :=
  !(decide (length = 0) || decide (256 < length) || decide (16 < scan.count) ||
    decide (1024 < scan.writePos + length.toNat))

/-- `OPENOT_AppendScanRecord`, when it returns `TRUE`. -/
def put (record : Bytes) (length : UInt16) (scan : ScanList) : ScanList where
  records := overwrite scan.records scan.writePos (record.take length.toNat)
  offsets := scan.offsets.setIfInBounds scan.count scan.writePos
  lengths := scan.lengths.setIfInBounds scan.count length.toNat
  writePos := scan.writePos + length.toNat
  count := scan.count + 1

/-- `OPENOT_ResetScanRecordList`: the bytes stay. -/
def reset (scan : ScanList) : ScanList where
  records := scan.records
  offsets := .replicate 17 0
  lengths := .replicate 17 0
  writePos := 0
  count := 0

end ScanList

/-! ## The store -/

/-- `OPENOT_EMISSION_ENTRY`. -/
structure EmissionEntry where
  eventTypeId : UInt32
  runId : UInt64
  sourceId : UInt32
  seq : UInt64
  deriving DecidableEq

/-- A record that has been published, with the inputs of the call that emitted it. -/
structure Published where
  inputs : Inputs
  eventTypeId : UInt32
  runId : UInt64
  sourceId : UInt32
  seq : UInt64
  bytes : Bytes
  deriving DecidableEq

/-- The ring, the scan list, and what is counted behind them. -/
structure Store where
  ring : Ring256
  scan : ScanList
  publishedRecordCount : UInt64
  emissions : List EmissionEntry
  appendOk : Bool
  /-- history: all that has been published -/
  published : List Published
  /-- history: what has been published since the scan list was reset -/
  listed : List Published
  /-- history: `PublishedRecordCount` when the scan list was reset -/
  countAtReset : UInt64
  deriving DecidableEq

namespace Store

/-- The store before the first call. -/
def new : Store where
  ring := .new
  scan := .new
  publishedRecordCount := 0
  emissions := []
  appendOk := false
  published := []
  listed := []
  countAtReset := 0

/-- Resets the scan list. -/
def reset (store : Store) : Store :=
  { store with
    scan := store.scan.reset
    listed := []
    countAtReset := store.publishedRecordCount }

/-- Hands a record to the ring. -/
def write (runId : UInt64) (sourceId : UInt32) (seq : UInt64) (encoded : Encoded)
    (store : Store) : Store :=
  { store with ring := store.ring.call true encoded.buffer encoded.length runId sourceId seq }

/-- `RingProducer.Done AND (NOT RingProducer.Error)`. -/
def accepted (store : Store) : Bool := store.ring.done && !store.ring.error

/-- Appends a record to the scan list and counts it. -/
def list (entry : Published) (encoded : Encoded) (store : Store) : Store :=
  { store with
    scan := store.scan.put encoded.buffer encoded.length
    publishedRecordCount := store.publishedRecordCount + 1
    emissions := if store.emissions.length < 32 then
        store.emissions ++ [⟨entry.eventTypeId, entry.runId, entry.sourceId, entry.seq⟩]
      else store.emissions
    appendOk := true
    published := store.published ++ [entry]
    listed := store.listed ++ [entry] }

/-- Hands a record to the ring and, if the ring has taken it, to the scan list. `AppendOk` says
whether both have taken it; only then it counts as published. -/
def publish (inputs : Inputs) (eventTypeId : UInt32) (runId : UInt64) (sourceId : UInt32)
    (seq : UInt64) (encoded : Encoded) (store : Store) : Store :=
  let store := store.write runId sourceId seq encoded
  if store.accepted && store.scan.hasRoom encoded.length then
    store.list ⟨inputs, eventTypeId, runId, sourceId, seq,
      encoded.buffer.take encoded.length.toNat⟩ encoded
  else { store with appendOk := false }

end Store

end OpenOT.St
