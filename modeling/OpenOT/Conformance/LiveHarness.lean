import OpenOT.Carriage.Polling
import OpenOT.Conformance.Report
import OpenOT.Shm.SharedRing

set_option relaxedAutoImplicit false
set_option autoImplicit false

/-!
# The live harness

A producer process writes numbered records of several sources to a ring in shared memory, each with
the offset at which it expects to stand, and a consumer process polls the ring, checks every record
against the offset it carries, and accounts for loss. When the producer has left a file to say that
it is done and the consumer has reached the head, the consumer reports what it has seen, and a
third process gives the verdict.

## Main definitions

* `OpenOT.Conformance.EmbeddedAbsOracle` — the oracle of the offset that a record carries.
* `OpenOT.LiveHarness.plan` — the records the producer writes, in order.
* `OpenOT.LiveHarness.recordWithExpectedAbs` — a record with its offset.
* `OpenOT.Conformance.ObservedReport.fromConsumer` — the report.
* `OpenOT.LiveHarness.assertRunResult` — the verdict on a report.
* `OpenOT.LiveHarness.LiveRun`, `OpenOT.LiveHarness.step` — both processes over the mapped store.

## Design

Runs are fenced: a run without fences is not sequentially consistent. A process that fails ends; the
texts of its errors are left out, except for those of the verdict. The deadline of the consumer is
left out, since a run that has reached it is one that stops there.
-/

namespace OpenOT

open Rust CircularLog Shared

/-! ## The counts of the consumer -/

namespace LossAccountingConsumer

/-- The number of records delivered of a stream. -/
def deliveredInRun (consumer : LossAccountingConsumer) (runId : UInt64) (sourceId : UInt32) :
    UInt64 :=
  consumer.tracker.delivered runId sourceId

/-- The number of records lost of a stream. -/
def lostInRun (consumer : LossAccountingConsumer) (runId : UInt64) (sourceId : UInt32) :
    Outcome RingError UInt64 :=
  consumer.tracker.lost runId sourceId

end LossAccountingConsumer

namespace Conformance

/-! ## The oracle of the embedded offset -/

/-- Vendor-range field key of the offset at which a record expects to stand. -/
def KEY_EXPECTED_RECORD_START_ABS : UInt16 := 0x8001

/-- The slot with the offset at which a record expects to stand. -/
def expectedAbsSlot (expectedAbs : ℕ) : Slot :=
  ⟨KEY_EXPECTED_RECORD_START_ABS, TY_ULINT, toLe 8 expectedAbs⟩

/-- The oracle that checks a record against the offset it carries. -/
structure EmbeddedAbsOracle where
  deriving DecidableEq, Repr

namespace EmbeddedAbsOracle

/-- The offset that the record carries, or what is wrong with it. -/
def expectedRecordStartAbs (read : ReadRecord) : Outcome StaleViolation ℕ :=
  match read.record.slots.find? fun slot => slot.key = KEY_EXPECTED_RECORD_START_ABS with
  | none => .err (StaleViolation.new .missingExpectedAbsSlot read 0 read.startAbs)
  | some slot =>
    if slot.ty ≠ TY_ULINT ∨ slot.payload.length ≠ 8 then
      .err (StaleViolation.new .invalidExpectedAbsSlot read 0 read.startAbs)
    else .ok (fromLe slot.payload)

/-- Reports a record that does not stand where it expects to. -/
def observe (read : ReadRecord) : Mut EmbeddedAbsOracle ConformanceError (List StaleViolation) :=
  match expectedRecordStartAbs read with
  | .ok expectedAbs =>
    if read.startAbs = expectedAbs then pure []
    else pure [StaleViolation.new .expectedAbsMismatch read expectedAbs read.startAbs]
  | .err violation => pure [violation]
  | .panic => Mut.lift .panic

instance : StaleOracle EmbeddedAbsOracle where
  observe := observe

end EmbeddedAbsOracle

/-! ## The report of a consumer -/

/-- Expected reconciliation total for one source stream. -/
structure ExpectedSource where
  runId : UInt64
  sourceId : UInt32
  expectedTotal : UInt64
  deriving DecidableEq, Repr

/-- Inputs used to build an observed report. -/
structure ReportInputs where
  mode : String
  appendMode : String
  fenceMode : FenceMode
  expectedSources : List ExpectedSource
  raw : ConcurrentRawConsumer
  accounting : LossAccountingConsumer
  capacity : ℕ
  store : SharedStore
  pollErrors : UInt64
  staleViolations : List StaleViolation

/-- The rows of a report: what was delivered and lost of every expected source. -/
def observedSources (accounting : LossAccountingConsumer) :
    List ExpectedSource → Outcome RingError (List SourceObserved)
  | [] => pure []
  | expected :: sources => do
    let lost ← accounting.lostInRun expected.runId expected.sourceId
    let rows ← observedSources accounting sources
    pure (⟨expected.runId, expected.sourceId, expected.expectedTotal,
      accounting.deliveredInRun expected.runId expected.sourceId, lost⟩ :: rows)

/-- `iter().sum()`. -/
def checkedSum {ε : Type} (counts : List UInt64) : Outcome ε UInt64 :=
  counts.foldlM checkedAdd 0

/-- Builds a report from the state of the consumer and of its loss accounting. -/
def ObservedReport.fromConsumer (inputs : ReportInputs) : Outcome RingError ObservedReport := do
  let sources ← observedSources inputs.accounting inputs.expectedSources
  let deliveredTotal ← checkedSum (sources.map (·.delivered))
  let lostTotal ← checkedSum (sources.map (·.lost))
  pure {
    mode := inputs.mode
    fenceMode := inputs.fenceMode
    appendMode := inputs.appendMode
    cap := UInt64.ofNat inputs.capacity
    headAbs := UInt64.ofNat inputs.store.ring.headAbs
    lostCount := UInt64.ofNat inputs.store.ring.lostCount
    lappedBatches := UInt64.ofNat inputs.raw.lappedBatches
    overwrittenRetries := UInt64.ofNat inputs.raw.overwrittenRetries
    rejectedRecords := UInt64.ofNat inputs.raw.rejectedRecords
    pollErrors := inputs.pollErrors
    deliveredTotal := deliveredTotal
    lostTotal := lostTotal
    staleViolations := inputs.staleViolations
    sources := sources }

end Conformance

namespace LiveHarness

open Conformance

/-! ## Arguments -/

/-- Which defaults the arguments have. -/
inductive RunMode where
  | smoke
  | litmus
  deriving DecidableEq, Repr

/-- The label of a mode. -/
def RunMode.asStr : RunMode → String
  | smoke => "smoke"
  | litmus => "litmus"

/-- How the producer appends. -/
inductive AppendMode where
  | writeRecord
  | encoded
  deriving DecidableEq, Repr

/-- The label of a mode. -/
def AppendMode.asStr : AppendMode → String
  | writeRecord => "write-record"
  | encoded => "encoded"

/-- The arguments of a run that reach its producer and its consumer. -/
structure RunArgs where
  mode : RunMode
  cap : ℕ
  sources : UInt32
  perSource : UInt64
  appendMode : AppendMode
  deriving DecidableEq, Repr

/-- The run of every record. -/
def RUN_ID : UInt64 := 1

/-- `1..=count`. -/
def sourceIds (count : UInt32) : List UInt32 :=
  (List.range count.toNat).map fun i => UInt32.ofNat (i + 1)

/-- What is expected of every source: its messages and its checkpoint. -/
def expectedSources {ε : Type} (perSource : UInt64) :
    List UInt32 → Outcome ε (List ExpectedSource)
  | [] => pure []
  | sourceId :: sources => do
    let expectedTotal ← checkedAdd perSource 1
    let rest ← expectedSources perSource sources
    pure (⟨RUN_ID, sourceId, expectedTotal⟩ :: rest)

/-! ## The records -/

/-- A record that the producer is going to write. -/
inductive Planned where
  | message (sourceId : UInt32) (seq : UInt64)
  | sourceHighWater (sourceId : UInt32) (producedCount : UInt64)
  deriving DecidableEq, Repr

/-- The records that the producer writes: round by round a message of every source, and at last
a checkpoint of every source. -/
def plan (args : RunArgs) : List Planned :=
  ((List.range args.perSource.toNat).flatMap fun seq =>
      (sourceIds args.sources).map fun sourceId => .message sourceId (UInt64.ofNat seq)) ++
    (sourceIds args.sources).map fun sourceId => .sourceHighWater sourceId args.perSource

/-- A message with its source and number. -/
def messageRecord {ε : Type} (sourceId : UInt32) (seq : UInt64) : Outcome ε Record := do
  let sourceTime ← checkedAdd 1780000000000000000 seq
  pure (Record.new sourceTime RUN_ID seq sourceId EVENT_MESSAGE)

/-- A record that attests how many records a source has produced. -/
def sourceHighWaterRecord {ε : Type} (sourceId : UInt32) (producedCount : UInt64) :
    Outcome ε Record := do
  let sourceTime ← checkedAdd 1780000000000000000 producedCount
  pure { Record.new sourceTime RUN_ID producedCount sourceId EVENT_SOURCE_HIGH_WATER with
    slots := [⟨KEY_SOURCE_HIGH_WATER, TY_ULINT, toLe 8 producedCount.toNat⟩] }

/-- A record with the offset at which the producer is going to write it: the length is that of
the record with an offset of zero. -/
def recordWithExpectedAbs (producer : ConcurrentProducer) (record : Record) :
    Outcome RingError Record := do
  let placeholder := { record with slots := record.slots ++ [expectedAbsSlot 0] }
  let encoded ← (placeholder.encode true).mapErr .wire
  let expectedAbs := producer.nextStartAbs encoded.length
  if 2 ^ 64 ≤ expectedAbs then .panic
  else match placeholder.slots.getLast? with
    | none => .panic
    | some slot => .ok { placeholder with
        slots := placeholder.slots.dropLast ++ [{ slot with payload := toLe 8 expectedAbs }] }

/-- The record without its offset. -/
def Planned.record {ε : Type} : Planned → Outcome ε Record
  | message sourceId seq => messageRecord sourceId seq
  | sourceHighWater sourceId producedCount => sourceHighWaterRecord sourceId producedCount

/-- The call that publishes a record. -/
def publishRecord (appendMode : AppendMode) (record : Record) : Outcome RingError AppendCall :=
  match appendMode with
  | .writeRecord => .ok (.writeRecord record)
  | .encoded => do
    let encoded ← (record.encode true).mapErr .wire
    pure (.appendEncoded encoded)

/-- The call that publishes a planned record. -/
def Planned.call (args : RunArgs) (producer : ConcurrentProducer) (planned : Planned) :
    Outcome RingError AppendCall := do
  let record ← planned.record
  let record ← recordWithExpectedAbs producer record
  publishRecord args.appendMode record

/-! ## The verdict -/

/-- `BTreeMap::from_iter` over the rows, by source. -/
def observedBySource (sources : List SourceObserved) : Std.TreeMap UInt32 SourceObserved compare :=
  sources.foldl (fun rows source => rows.insert source.sourceId source) ∅

/-- The loop over the expected sources. -/
def assertSources (fenceMode : FenceMode)
    (observedBySource : Std.TreeMap UInt32 SourceObserved compare) :
    List ExpectedSource → Outcome String Unit
  | [] => .ok ()
  | expected :: sources =>
    match observedBySource[expected.sourceId]? with
    | none => .err ("missing observed source " ++ toString expected.sourceId)
    | some source =>
      if source.expectedTotal ≠ expected.expectedTotal then
        .err ("source " ++ toString expected.sourceId ++ " expected-total mismatch: run=" ++
          toString expected.expectedTotal ++ " observed=" ++ toString source.expectedTotal)
      else do
        -- the counts are added up only if the run was fenced
        let reconciled ← if fenceMode = .fenced then do
            let total ← checkedAdd source.delivered source.lost
            pure (decide (total = expected.expectedTotal))
          else pure true
        if reconciled then assertSources fenceMode observedBySource sources
        else .err ("source " ++ toString expected.sourceId ++
          " in-band reconciliation failed: delivered=" ++ toString source.delivered ++ " lost=" ++
          toString source.lost ++ " expected_total=" ++ toString expected.expectedTotal)

/-- `u64::from(sources) * (per_source + 1)`. -/
def expectedTotal {ε : Type} (sources : UInt32) (perSource : UInt64) : Outcome ε UInt64 := do
  let perSource ← checkedAdd perSource 1
  if sources.toNat * perSource.toNat < 2 ^ 64 then pure (sources.toUInt64 * perSource) else .panic

/-- What a report must say about a run. -/
def assertRunResult (fenceMode : FenceMode) (cap : ℕ) (sources : UInt32) (perSource : UInt64)
    (observed : ObservedReport) : Outcome String Unit :=
  if observed.deliveredTotal = 0 then .err "consumer made no progress"
  else if 2 ^ 64 ≤ cap * 100 then .panic
  else if observed.headAbs.toNat ≤ cap * 100 then
    .err ("insufficient absolute progress: head_abs=" ++ toString observed.headAbs ++ " cap=" ++
      toString cap)
  else if observed.lostCount = 0 then .err "producer did not report ring evictions"
  else do
    let total ← expectedTotal sources perSource
    let short ← if fenceMode = .fenced then do
        let reconciled ← checkedAdd observed.deliveredTotal observed.lostTotal
        pure (decide (reconciled < total))
      else pure false
    if short then
      .err ("consumer did not reconcile the full in-band stream: delivered=" ++
        toString observed.deliveredTotal ++ " lost=" ++ toString observed.lostTotal ++
        " expected_total=" ++ toString total)
    else if fenceMode = .fenced ∧ observed.staleViolations ≠ [] then
      .err ("fenced run accepted stale records: " ++ toString observed.staleViolations.length)
    else do
      let expected ← expectedSources perSource (sourceIds sources)
      assertSources fenceMode (observedBySource observed.sources) expected

/-- What `run_once` makes of the report that the consumer has written. -/
def judge (args : RunArgs) (content : List Char) : Outcome String ObservedReport := do
  let observed ← (ObservedReport.read content).mapErr (·.message)
  assertRunResult .fenced args.cap args.sources args.perSource observed
  pure observed

/-! ## Both processes -/

/-- Where the producer process is; the file that says it is done is there once it has exited. -/
inductive ProducerPhase where
  | publishing (left : List Planned)
  | exited
  | failed
  deriving DecidableEq, Repr

/-- Where the consumer process is in its loop. -/
inductive ConsumerPhase where
  /-- about to poll -/
  | ready
  /-- in a poll -/
  | polling
  /-- behind a poll with its result -/
  | polled (result : Outcome RingError ReadBatch)
  /-- about to look for the file of the producer -/
  | checking
  /-- the file was there; about to compare its cursor with the head -/
  | comparing
  | exited (report : ObservedReport)
  | failed

/-- The state of a run. -/
structure LiveRun where
  ring : SharedSystem
  producer : ProducerPhase
  consumer : ConsumerPhase
  observer : BatchObserver EmbeddedAbsOracle
  accounting : LossAccountingConsumer

namespace LiveRun

/-- Both processes have been started over a new store. -/
def start (args : RunArgs) (store : SharedStore) : LiveRun :=
  ⟨.start args.cap store, .publishing (plan args), .ready, .new ⟨⟩, .new⟩

/-- What can happen next. -/
inductive Action where
  /-- the producer announces its next record -/
  | publish
  /-- a store of the producer -/
  | store
  /-- the producer says that it is done -/
  | done
  /-- the consumer begins a poll -/
  | poll
  /-- a load of the consumer -/
  | load
  /-- the consumer observes a batch and accounts for it -/
  | observe
  /-- the consumer looks for the file of the producer -/
  | check
  /-- the consumer compares its cursor with the head, and reports -/
  | compare
  deriving DecidableEq, Repr

/-- The producer's call is accepted; it panics when the new head does not fit a word. -/
def publishes (producer : ConcurrentProducer) (call : AppendCall) : Bool :=
  match call.run producer with
  | (.ok _, producer) => decide (producer.headAbs < 2 ^ 64)
  | _ => false

/-- Behind a step of the poll: it goes on, or has returned. -/
def polls (run : LiveRun) (ring : SharedSystem) : LiveRun :=
  { run with
    ring := ring
    consumer := match ring.poll, ring.results.getLast? with
      | none, some result => .polled result
      | _, _ => .polling }

/-- The batch of a poll is checked and accounted for. -/
def observeBatch (run : LiveRun) (batch : ReadBatch) : LiveRun :=
  match run.observer.observeBatch batch with
  | (.ok (), observer) =>
    match run.accounting.accountBatch batch with
    | (.ok (), accounting) =>
      { run with
        consumer := .checking
        observer := observer
        accounting := accounting }
    | _ => { run with consumer := .failed }
  | _ => { run with consumer := .failed }

/-- The report of the consumer. -/
def report (args : RunArgs) (run : LiveRun) : Outcome RingError ObservedReport := do
  let expected ← expectedSources args.perSource (sourceIds args.sources)
  ObservedReport.fromConsumer {
    mode := args.mode.asStr
    appendMode := args.appendMode.asStr
    fenceMode := .fenced
    expectedSources := expected
    raw := run.ring.consumer
    accounting := run.accounting
    capacity := args.cap
    store := run.ring.store
    pollErrors := 0
    staleViolations := run.observer.intoViolations }

/-- One step; `none` when the action is not possible. -/
def step (args : RunArgs) (run : LiveRun) : Action → Option LiveRun
  | .publish =>
    match run.producer, run.ring.stores with
    | .publishing (planned :: left), [] =>
      match planned.call args run.ring.producer with
      | .ok call =>
        if publishes run.ring.producer call then
          (run.ring.step args.cap (.append call)).map fun ring =>
            { run with ring := ring, producer := .publishing left }
        else some { run with producer := .failed }
      | _ => some { run with producer := .failed }
    | _, _ => none
  | .store => (run.ring.step args.cap .store).map fun ring => { run with ring := ring }
  | .done =>
    match run.producer, run.ring.stores with
    | .publishing [], [] => some { run with producer := .exited }
    | _, _ => none
  | .poll =>
    match run.consumer with
    | .ready => (run.ring.step args.cap .poll).map run.polls
    | _ => none
  | .load =>
    match run.consumer with
    | .polling => (run.ring.step args.cap .load).map run.polls
    | _ => none
  | .observe =>
    match run.consumer with
    | .polled (.ok batch) => some (run.observeBatch batch)
    | .polled _ => some { run with consumer := .failed }
    | _ => none
  | .check =>
    match run.consumer with
    | .checking =>
      some { run with consumer := if run.producer = .exited then .comparing else .ready }
    | _ => none
  | .compare =>
    match run.consumer with
    | .comparing =>
      if run.ring.consumer.cursorAbs = run.ring.store.ring.headAbs % 2 ^ 64 then
        match run.report args with
        | .ok report => some { run with consumer := .exited report }
        | _ => some { run with consumer := .failed }
      else some { run with consumer := .ready }
    | _ => none

end LiveRun

end LiveHarness

end OpenOT
