import OpenOT.Carriage.Registry
import OpenOT.Carriage.Ring

set_option relaxedAutoImplicit false
set_option autoImplicit false

/-!
# Runs, epochs and source sequences

The producer of `epoch.rs`: it draws the sequence number of every record from a counter per
source and emits the system records that bracket a change of definition.

## Main definitions

* `OpenOT.EpochProducer` — the producer, over a ring of its own.
* `OpenOT.EpochProducer.emitData`, `OpenOT.EpochProducer.checkpointHighWater` — records of a
  source.
* `OpenOT.EpochProducer.beginEpochTransition`, `OpenOT.EpochProducer.emitDefinitionChanged`,
  `OpenOT.EpochProducer.finishDefinitionChange`, `OpenOT.EpochProducer.finishColdStart` — a
  transition, warm or cold.
* `OpenOT.EpochCall`, `OpenOT.EpochProducer.runCalls` — the calls, and a run of them.

## Design

The field `written` is history: every record the ring has accepted, with its span, in order. No
method reads it. The counters are `u64` values, and a counter that overflows panics; a run ends
at a call that panics.
-/

namespace OpenOT

open Rust

/-- The first eight bytes of a definition hash. -/
abbrev DefinitionHash : Type := Vector UInt8 8

/-- Errors from the transition state machine. -/
inductive EpochError where
  | definitionAlreadyEmitted
  | definitionNotEmitted
  | emissionDuringTransition
  | noTransitionOpen
  | ring (error : RingError)
  | transitionAlreadyOpen
  deriving DecidableEq, Repr

/-- A transition that has begun. -/
structure PendingTransition where
  defHashOld : DefinitionHash
  defHashNew : DefinitionHash
  epochId : UInt64
  definitionChangedEmitted : Bool
  deriving DecidableEq

/-- Drives a ring, assigning sequence numbers and emitting lifecycle records. -/
structure EpochProducer where
  ring : RingBuffer
  runId : UInt64
  epochId : UInt64
  epochFirstAbs : ℕ
  systemSeq : UInt64
  sourceSeq : Std.TreeMap UInt32 UInt64
  sourceTime : UInt64
  definitionHash : DefinitionHash
  prevDefinitionHash : DefinitionHash
  transition : Option PendingTransition
  /-- history: what has been written to the ring -/
  written : List ReadRecord

namespace EpochProducer

/-- A producer over a fresh ring of `capacity` bytes. -/
def new (capacity : ℕ) (runId epochId : UInt64) : Outcome EpochError EpochProducer := do
  let ring ← (RingBuffer.new capacity).mapErr .ring
  pure {
    ring := ring
    runId := runId
    epochId := epochId
    epochFirstAbs := 0
    systemSeq := 0
    sourceSeq := ∅
    sourceTime := 1780000000000000000
    definitionHash := .replicate 8 0
    prevDefinitionHash := .replicate 8 0
    transition := none
    written := [] }

/-- Current control-block snapshot for a shared-memory consumer. -/
def controlSnapshot (producer : EpochProducer) : ControlBlockSnapshot where
  version := 2
  caps := 0
  bufferId := DEFAULT_BUFFER_ID
  bufferBytes := UInt32.ofNat producer.ring.capacity
  headAbs := producer.ring.headAbs
  oldestAbs := producer.ring.oldestAbs
  lostCount := producer.ring.lostCount
  runId := producer.runId
  epochId := producer.epochId
  epochFirstAbs := producer.epochFirstAbs
  definitionHash := producer.definitionHash.toList
  prevDefinitionHash := producer.prevDefinitionHash.toList

/-! ## Single records -/

/-- `self.ring.write_record(&record)?`. -/
def writeRecord (record : Record) : Mut EpochProducer EpochError (ℕ × ℕ) := fun producer =>
  match RingBuffer.writeRecord record producer.ring with
  | (.ok (startAbs, endAbs), ring) => (.ok (startAbs, endAbs), { producer with
      ring := ring
      written := producer.written ++ [⟨startAbs, endAbs, record⟩] })
  | (.err error, ring) => (.err (.ring error), { producer with ring := ring })
  | (.panic, ring) => (.panic, { producer with ring := ring })

/-- A record of the current run, stamped with the next source time. -/
def record (sourceId : UInt32) (seq : UInt64) (eventTypeId : UInt32) :
    Mut EpochProducer EpochError Record := do
  let producer ← Mut.get
  let sourceTime ← Mut.lift (checkedAdd producer.sourceTime 1)
  Mut.modify fun producer => { producer with sourceTime := sourceTime }
  pure (Record.new producer.sourceTime producer.runId seq sourceId eventTypeId)

/-- Draws the next sequence number of a source. -/
def nextSourceSeq (sourceId : UInt32) : Mut EpochProducer EpochError UInt64 := do
  Mut.modify fun producer =>
    { producer with sourceSeq := producer.sourceSeq.insertIfNew sourceId 0 }
  let producer ← Mut.get
  let seq := producer.sourceSeq.getD sourceId 0
  let next ← Mut.lift (checkedAdd seq 1)
  Mut.modify fun producer =>
    { producer with sourceSeq := producer.sourceSeq.insert sourceId next }
  pure seq

/-- Emits a record of the system source; returns its span. -/
def emitSystem (eventTypeId : UInt32) (slots : List Slot) :
    Mut EpochProducer EpochError (ℕ × ℕ) := do
  let producer ← Mut.get
  let seq := producer.systemSeq
  let next ← Mut.lift (checkedAdd seq 1)
  Mut.modify fun producer => { producer with systemSeq := next }
  let record ← record SYSTEM_SOURCE_ID seq eventTypeId
  writeRecord { record with slots := slots }

/-! ## The methods -/

/-- Emits one data record for a source. -/
def emitData (sourceId eventTypeId : UInt32) : Mut EpochProducer EpochError Unit := do
  let producer ← Mut.get
  if producer.transition.isSome then Mut.throw .emissionDuringTransition
  else do
    let seq ← nextSourceSeq sourceId
    let record ← record sourceId seq eventTypeId
    let record := if eventTypeId = EVENT_MESSAGE then
        { record with slots := record.slots ++ [⟨KEY_MESSAGE_TEMPLATE_ID, TY_UDINT, toLe 4 0⟩] }
      else record
    let _ ← writeRecord record

/-- The loop of `checkpoint_high_water`. -/
def checkpointLoop : List (UInt32 × UInt64) → Mut EpochProducer EpochError Unit
  | [] => pure ()
  | (sourceId, producedCount) :: highWater => do
    let record ← record sourceId producedCount EVENT_SOURCE_HIGH_WATER
    let _ ← writeRecord { record with slots := record.slots ++
      [⟨KEY_SOURCE_HIGH_WATER, TY_ULINT, toLe 8 producedCount.toNat⟩] }
    let next ← Mut.lift (checkedAdd producedCount 1)
    Mut.modify fun producer =>
      { producer with sourceSeq := producer.sourceSeq.insert sourceId next }
    checkpointLoop highWater

/-- Emits one `SourceHighWater` record for each active source. -/
def checkpointHighWater : Mut EpochProducer EpochError Unit := do
  let producer ← Mut.get
  if producer.transition.isSome then Mut.throw .emissionDuringTransition
  else checkpointLoop producer.sourceSeq.toList

/-- Opens a transition: emits `LoggerStopped` and a high-water checkpoint. -/
def beginEpochTransition (defHashOld defHashNew : DefinitionHash) (epochId : UInt64) :
    Mut EpochProducer EpochError Unit := do
  let producer ← Mut.get
  if producer.transition.isSome then Mut.throw .transitionAlreadyOpen
  else do
    let _ ← emitSystem EVENT_LOGGER_STOPPED []
    checkpointHighWater
    Mut.modify fun producer =>
      { producer with transition := some ⟨defHashOld, defHashNew, epochId, false⟩ }

/-- `self.transition.take()`, with an error when no transition is open. -/
def takeTransition : Mut EpochProducer EpochError PendingTransition := do
  let producer ← Mut.get
  Mut.modify fun producer => { producer with transition := none }
  match producer.transition with
  | some pending => pure pending
  | none => Mut.throw .noTransitionOpen

/-- Emits the `DefinitionChanged` record of the open transition. -/
def emitDefinitionChanged : Mut EpochProducer EpochError Unit := do
  let pending ← takeTransition
  if pending.definitionChangedEmitted then do
    Mut.modify fun producer => { producer with transition := some pending }
    Mut.throw .definitionAlreadyEmitted
  else do
    let _ ← emitSystem EVENT_DEFINITION_CHANGED [
      ⟨KEY_DEF_HASH_OLD, TY_BYTES, pending.defHashOld.toList⟩,
      ⟨KEY_DEF_HASH_NEW, TY_BYTES, pending.defHashNew.toList⟩,
      ⟨KEY_EPOCH_ID, TY_ULINT, toLe 8 pending.epochId.toNat⟩]
    Mut.modify fun producer =>
      { producer with transition := some { pending with definitionChangedEmitted := true } }

/-- Closes a warm transition: `RunId` and the sequences stay. -/
def finishDefinitionChange : Mut EpochProducer EpochError Unit := do
  let pending ← takeTransition
  if !pending.definitionChangedEmitted then do
    Mut.modify fun producer => { producer with transition := some pending }
    Mut.throw .definitionNotEmitted
  else do
    Mut.modify fun producer => { producer with epochId := pending.epochId }
    let (startAbs, _) ← emitSystem EVENT_LOGGER_STARTED [⟨KEY_COLD_START, TY_BOOL, [0]⟩]
    Mut.modify fun producer => { producer with
      epochFirstAbs := startAbs
      prevDefinitionHash := pending.defHashOld
      definitionHash := pending.defHashNew }

/-- Closes a cold start: the next `RunId`, and the sequences start over. -/
def finishColdStart : Mut EpochProducer EpochError Unit := do
  let pending ← takeTransition
  if !pending.definitionChangedEmitted then do
    Mut.modify fun producer => { producer with transition := some pending }
    Mut.throw .definitionNotEmitted
  else do
    let producer ← Mut.get
    let runId ← Mut.lift (checkedAdd producer.runId 1)
    Mut.modify fun producer => { producer with
      runId := runId
      epochId := pending.epochId
      systemSeq := 0
      sourceSeq := ∅ }
    let (startAbs, _) ← emitSystem EVENT_LOGGER_STARTED [⟨KEY_COLD_START, TY_BOOL, [1]⟩]
    Mut.modify fun producer => { producer with
      epochFirstAbs := startAbs
      prevDefinitionHash := pending.defHashOld
      definitionHash := pending.defHashNew }

end EpochProducer

/-! ## Runs of calls -/

/-- A call of the producer. -/
inductive EpochCall where
  | emitData (sourceId eventTypeId : UInt32)
  | checkpointHighWater
  | beginEpochTransition (defHashOld defHashNew : DefinitionHash) (epochId : UInt64)
  | emitDefinitionChanged
  | finishDefinitionChange
  | finishColdStart
  deriving DecidableEq

/-- The method called. -/
def EpochCall.run : EpochCall → Mut EpochProducer EpochError Unit
  | emitData sourceId eventTypeId => EpochProducer.emitData sourceId eventTypeId
  | checkpointHighWater => EpochProducer.checkpointHighWater
  | beginEpochTransition defHashOld defHashNew epochId =>
    EpochProducer.beginEpochTransition defHashOld defHashNew epochId
  | emitDefinitionChanged => EpochProducer.emitDefinitionChanged
  | finishDefinitionChange => EpochProducer.finishDefinitionChange
  | finishColdStart => EpochProducer.finishColdStart

/-- A run of calls, each accepted or rejected; it ends at a call that panics. -/
def EpochProducer.runCalls : List EpochCall → EpochProducer → EpochProducer
  | [], producer => producer
  | call :: calls, producer =>
    match call.run producer with
    | (.panic, producer') => producer'
    | (_, producer') => runCalls calls producer'

end OpenOT
