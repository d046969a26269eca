import OpenOT.St.Operations

set_option relaxedAutoImplicit false
set_option autoImplicit false

/-!
# The producer of the controller

The function block `OPENOT_Producer`: an edge of `Execute` runs one operation, which emits records
through the ring and the scan list and keeps the source table, the transition and the tables of the
data operations.

## Main definitions

* `OpenOT.St.Producer` — the variables of the function block.
* `OpenOT.St.Producer.emit` — the steps of a data operation that has something to emit.
* `OpenOT.St.Producer.beginTransition`, `OpenOT.St.Producer.changeDefinition`,
  `OpenOT.St.Producer.finishWarm`, `OpenOT.St.Producer.finishCold` — the operations 1 to 4.
* `OpenOT.St.Producer.call` — a call of the function block.

## Design

A call is a function that has no value where the program stops at an index out of range. The
variables start as the first call initializes them. `AppendOk` is written by every emission. The
fuel of the `WHILE` loop of operation 1 is one more than the number of sources, which is enough:
every round takes a source above the last one.
-/

namespace OpenOT.St

open Rust

/-- `OPENOT_SOURCE_ENTRY`. -/
structure SourceEntry where
  used : Bool
  sourceId : UInt32
  nextSeq : UInt64
  deriving DecidableEq

/-- The `Pending…` variables. -/
structure Pending where
  defHashOld : Vector UInt8 8
  defHashNew : Vector UInt8 8
  epochId : UInt64
  isOpen : Bool
  defChangedEmitted : Bool
  deriving DecidableEq

/-- The outputs that are copied from the ring at an edge of `Execute`. -/
structure RingOutputs where
  ring : Bytes
  headAbs : ℕ
  oldestAbs : ℕ
  lostCount : ℕ
  lastStartAbs : ℕ
  lastEndAbs : ℕ
  lossRanges : List LossRange
  lossRangeOverflow : Bool
  ringError : Bool
  deriving DecidableEq

/-- The outputs of a ring. -/
def Ring256.outputs (r : Ring256) : RingOutputs where
  ring := r.ring
  headAbs := r.headAbs
  oldestAbs := r.oldestAbs
  lostCount := r.lostCount
  lastStartAbs := r.lastStartAbs
  lastEndAbs := r.lastEndAbs
  lossRanges := r.lossRanges
  lossRangeOverflow := r.lossRangeOverflow
  ringError := r.error

/-- The variables of `OPENOT_Producer`. -/
structure Producer where
  runId : UInt64
  sourceTime : UInt64
  systemSeq : UInt64
  epochId : UInt64
  epochFirstAbs : ℕ
  definitionHash : Vector UInt8 8
  prevDefinitionHash : Vector UInt8 8
  pending : Pending
  sources : Vector SourceEntry 16
  store : Store
  memory : Memory
  attestableEvents : AttestableEventLog
  assignedSeq : UInt64
  producedCount : UInt64
  error : Bool
  sourceTableFull : Bool
  done : Bool
  checkpointDone : Bool
  previousExecute : Bool
  outputs : RingOutputs
  deriving DecidableEq

namespace Producer

/-- An empty source table. -/
def noSources : Vector SourceEntry 16 := .replicate 16 ⟨false, 0, 0⟩

/-- The function block before its first call. -/
def init : Producer where
  runId := 1
  sourceTime := 1780000000000000000
  systemSeq := 0
  epochId := 1
  epochFirstAbs := 0
  definitionHash := .replicate 8 0
  prevDefinitionHash := .replicate 8 0
  pending := ⟨.replicate 8 0, .replicate 8 0, 0, false, false⟩
  sources := noSources
  store := .new
  memory := .new
  attestableEvents := .blank
  assignedSeq := 0
  producedCount := 0
  error := false
  sourceTableFull := false
  done := false
  checkpointDone := false
  previousExecute := false
  outputs := Ring256.new.outputs

/-! ## Steps -/

/-- `OPENOT_NextSourceTime`: the source time of the next record. -/
def nextSourceTime (inputs : Inputs) (p : Producer) : UInt64 :=
  if inputs.useSourceTimeInput then inputs.sourceTimeInput else p.sourceTime

/-- `OPENOT_NextSourceTime`: what becomes of the own clock. -/
def tick (inputs : Inputs) (p : Producer) : Producer :=
  { p with sourceTime := if inputs.useSourceTimeInput then p.sourceTime else p.sourceTime + 1 }

/-- Whether an entry of the source table is that of a source. -/
def isSource (sourceId : UInt32) (entry : SourceEntry) : Bool :=
  entry.used && entry.sourceId == sourceId

/-- The entry of a source, or else a free one. -/
def openSource (sourceId : UInt32) (sources : Vector SourceEntry 16) :
    Option (Fin 16 × Vector SourceEntry 16) :=
  openEntry sources (isSource sourceId) (fun entry => !entry.used) fun _ => ⟨true, sourceId, 0⟩

/-- The next number of the source at an index. -/
def nextSeq (index : Fin 16) (p : Producer) : UInt64 := (p.sources.get index).nextSeq

/-- Counts a number of the source at an index. -/
def advance (index : Fin 16) (seq : UInt64) (p : Producer) : Producer :=
  { p with
    sources := p.sources.set index { p.sources.get index with nextSeq := seq + 1 }
      (entry_lt index) }

/-- Publishes an encoded record in the current run. -/
def publish (inputs : Inputs) (eventTypeId sourceId : UInt32) (seq : UInt64) (encoded : Encoded)
    (p : Producer) : Producer :=
  { p with store := p.store.publish inputs eventTypeId p.runId sourceId seq encoded }

/-- `OPENOT_RecordAttestableSeq` for a record of the call. -/
def attest (inputs : Inputs) (sourceId : UInt32) (seq : UInt64) (p : Producer) : Producer :=
  { p with attestableEvents :=
      recordAttestableSeq inputs.attestableId sourceId seq p.attestableEvents }

/-- `Error := TRUE`. -/
def fail (p : Producer) : Producer := { p with error := true }

/-- `Done := TRUE`. -/
def finish (p : Producer) : Producer := { p with done := true }

/-! ## Checkpoint, messages and staged records -/

/-- Emits the high-water record of the source at an index; its number is counted when it has been
published. -/
def highWater (inputs : Inputs) (index : Fin 16) (p : Producer) : Option Producer := do
  let producedCount := p.nextSeq index
  let sourceId := (p.sources.get index).sourceId
  let sourceTime := p.nextSourceTime inputs
  let p := { p.tick inputs with producedCount := producedCount }
  let encoded ← encodeSourceHighWater sourceId p.runId producedCount sourceTime
  let p := p.publish inputs 0x0108 sourceId producedCount encoded
  if p.store.appendOk then some (p.advance index producedCount) else some p.fail

/-- The `Checkpoint` branch. -/
def checkpoint (inputs : Inputs) (p : Producer) : Option Producer :=
  if p.pending.isOpen then some p.fail
  else if inputs.sourceId = 0 then some p.fail
  else
    match findEntry p.sources (isSource inputs.sourceId) with
    | none => some p.fail
    | some index => do
      let p ← p.highWater inputs index
      if p.error then some p else some { p with done := true, checkpointDone := true }

/-- Operation 0: a message. Its number is counted before it is published. -/
def message (inputs : Inputs) (p : Producer) : Option Producer :=
  if p.pending.isOpen then some p.fail
  else if inputs.sourceId = 0 then some p.fail
  else
    match openSource inputs.sourceId p.sources with
    | none => some { p.fail with sourceTableFull := true }
    | some (index, sources) => do
      let p := { p with sources := sources }
      let seq := p.nextSeq index
      let p := { p.advance index seq with assignedSeq := seq }
      let sourceTime := p.nextSourceTime inputs
      let p := p.tick inputs
      let encoded ← encodeMinimalMessage ⟨sourceTime, p.runId, seq, inputs.sourceId⟩
        inputs.message
      let p := p.publish inputs 0x0003 inputs.sourceId seq encoded
      if p.store.appendOk then some (p.attest inputs inputs.sourceId seq).finish
      else some p.fail

/-- Operation 5: a record that has been encoded elsewhere. -/
def stage (inputs : Inputs) (p : Producer) : Option Producer :=
  if p.pending.isOpen then some p.fail
  else if inputs.sourceId = 0 then some p.fail
  else if inputs.stageLength = 0 ∨ 256 < inputs.stageLength then some p.fail
  else
    match openSource inputs.sourceId p.sources with
    | none => some { p.fail with sourceTableFull := true }
    | some (index, sources) =>
      let p := { p with sources := sources }
      if inputs.stageSeq ≠ p.nextSeq index then some p.fail
      else
        let p := p.publish inputs inputs.stageEventTypeId inputs.sourceId inputs.stageSeq
          ⟨inputs.stageRecord.toList, inputs.stageLength⟩
        if p.store.appendOk then
          some { (p.advance index inputs.stageSeq).finish with assignedSeq := inputs.stageSeq }
        else some p.fail

/-! ## Data operations -/

/-- Emits the record of a data operation: finds its source, draws number and time, encodes and
publishes it. The number is counted when the record has been published. -/
def emit (inputs : Inputs) (emission : Emission) (p : Producer) : Option Producer :=
  match openSource emission.sourceId p.sources with
  | none => some { p.fail with
      sourceTableFull := true
      memory := { p.memory with counters := emission.sourceTableFull p.memory.counters } }
  | some (index, sources) => do
    let p := { p with sources := sources }
    let seq := p.nextSeq index
    let sourceTime := p.nextSourceTime inputs
    let p := { p.tick inputs with
      assignedSeq := seq
      memory := { p.memory with conditions := emission.drawn p.memory.conditions } }
    let encoded ← emission.encode ⟨sourceTime, p.runId, seq, emission.sourceId⟩
    let p := p.publish inputs emission.eventTypeId emission.sourceId seq encoded
    if p.store.appendOk then
      let p := p.advance index seq
      let p := if emission.attestable then p.attest inputs emission.sourceId seq else p
      some { p.finish with memory := { p.memory with
        values := emission.keep sourceTime p.memory.values
        conditions := emission.settle p.memory.conditions } }
    else some { p.fail with
      memory := { p.memory with counters := emission.refused p.memory.counters } }

/-- The operations 6 to 16. -/
def dataOp (arith : RealArith) (inputs : Inputs) (p : Producer) : Option Producer :=
  let prepared := prepare arith inputs (p.nextSourceTime inputs) p.attestableEvents p.memory
  let p := { p with memory := prepared.memory }
  match prepared.plan with
  | .refuse => some p.fail
  | .finish => some p.finish
  | .emit emission => p.emit inputs emission

/-! ## Transitions -/

/-- Emits a record of the system source. Its number is counted before it is published. -/
def emitSystem (inputs : Inputs) (eventTypeId : UInt32)
    (encode : UInt64 → UInt64 → Option Encoded) (p : Producer) : Option Producer := do
  let seq := p.systemSeq
  let sourceTime := p.nextSourceTime inputs
  let p := { p.tick inputs with systemSeq := seq + 1 }
  let encoded ← encode seq sourceTime
  let p := p.publish inputs eventTypeId 0 seq encoded
  if p.store.appendOk then some p else some p.fail

/-- The `FOR` loop that selects the source with the lowest id above the last one. -/
def selectNext (last : Option UInt32) (sources : Vector SourceEntry 16) : Option (Fin 16) :=
  (List.finRange 16).foldl (fun selected index =>
    let entry := sources.get index
    if entry.used && last.all fun lastId => decide (lastId < entry.sourceId) then
      if selected.all fun other => decide (entry.sourceId < (sources.get other).sourceId) then
        some index
      else selected
    else selected) none

/-- The `WHILE SourceLoopActive` loop. -/
def highWaterLoop (inputs : Inputs) : ℕ → Option UInt32 → Producer → Option Producer
  | 0, _, _ => none
  | fuel + 1, last, p =>
    match selectNext last p.sources with
    | none => some p
    | some index => do
      let next ← p.highWater inputs index
      if next.error then some next
      else highWaterLoop inputs fuel (some (p.sources.get index).sourceId) next

/-- Operation 1: opens a transition. -/
def beginTransition (inputs : Inputs) (p : Producer) : Option Producer :=
  if p.pending.isOpen then some p.fail
  else do
    let p ← p.emitSystem inputs 0x0102 (encodeLoggerStopped p.runId)
    let p ← if p.error then some p else p.highWaterLoop inputs 17 none
    if p.error then some p
    else some { p.finish with pending :=
      ⟨inputs.defHashOld, inputs.defHashNew, inputs.transitionEpochId, true, false⟩ }

/-- Operation 2: emits the change of the definition. -/
def changeDefinition (inputs : Inputs) (p : Producer) : Option Producer :=
  if !p.pending.isOpen then some p.fail
  else if p.pending.defChangedEmitted then some p.fail
  else do
    let p ← p.emitSystem inputs 0x0106 fun seq sourceTime => encodeDefinitionChanged p.runId seq
      p.pending.defHashOld p.pending.defHashNew p.pending.epochId sourceTime
    if p.error then some p
    else some { p.finish with pending := { p.pending with defChangedEmitted := true } }

/-- What a `LoggerStarted` record that has been published concludes. -/
def started (p : Producer) : Producer :=
  { p.finish with
    epochFirstAbs := p.store.ring.lastStartAbs
    prevDefinitionHash := p.pending.defHashOld
    definitionHash := p.pending.defHashNew
    pending := { p.pending with isOpen := false, defChangedEmitted := false } }

/-- Operation 3: closes a warm transition. -/
def finishWarm (inputs : Inputs) (p : Producer) : Option Producer :=
  if !p.pending.isOpen then some p.fail
  else if !p.pending.defChangedEmitted then some p.fail
  else do
    let p := { p with epochId := p.pending.epochId }
    let p ← p.emitSystem inputs 0x0101 fun seq => encodeLoggerStarted p.runId seq false
    if p.error then some p else some { p.started with attestableEvents := .blank }

/-- Operation 4: closes a cold start. -/
def finishCold (inputs : Inputs) (p : Producer) : Option Producer :=
  if !p.pending.isOpen then some p.fail
  else if !p.pending.defChangedEmitted then some p.fail
  else do
    let p := { p with
      runId := p.runId + 1
      epochId := p.pending.epochId
      systemSeq := 0
      sources := noSources
      attestableEvents := .blank }
    let p ← p.emitSystem inputs 0x0101 fun seq => encodeLoggerStarted p.runId seq true
    if p.error then some p else some p.started

/-! ## Calls -/

/-- What an edge of `Execute` does. -/
def operate (arith : RealArith) (inputs : Inputs) (p : Producer) : Option Producer :=
  if inputs.checkpoint then p.checkpoint inputs
  else if inputs.op = 0 then p.message inputs
  else if inputs.op = 5 then p.stage inputs
  else if isDataOp inputs.op then p.dataOp arith inputs
  else if inputs.op = 1 then p.beginTransition inputs
  else if inputs.op = 2 then p.changeDefinition inputs
  else if inputs.op = 3 then p.finishWarm inputs
  else if inputs.op = 4 then p.finishCold inputs
  else some p.fail

/-- Whether a call is an edge of `Execute`. -/
def edge (inputs : Inputs) (p : Producer) : Bool := inputs.execute && !p.previousExecute

/-- Whether a call starts with an empty scan list. -/
def resets (inputs : Inputs) (p : Producer) : Bool :=
  inputs.resetScanRecords || p.edge inputs && !inputs.accumulateScanRecords && !isDataOp inputs.op

/-- What every call does first: the outputs of the last one are cleared. -/
def enter (inputs : Inputs) (p : Producer) : Producer :=
  { p with
    done := false
    error := false
    sourceTableFull := false
    assignedSeq := 0
    producedCount := 0
    checkpointDone := false
    store := if p.resets inputs then p.store.reset else p.store }

/-- What every call does last. -/
def leave (inputs : Inputs) (edge : Bool) (p : Producer) : Producer :=
  { p with
    previousExecute := inputs.execute
    outputs := if edge then p.store.ring.outputs else p.outputs }

/-- A call of `OPENOT_Producer`. -/
def call (arith : RealArith) (inputs : Inputs) (p : Producer) : Option Producer :=
  (if p.edge inputs then (p.enter inputs).operate arith inputs
    else some (p.enter inputs)).map (leave inputs (p.edge inputs))

end Producer

end OpenOT.St
