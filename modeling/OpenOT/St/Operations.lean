import OpenOT.St.Publishing

set_option relaxedAutoImplicit false
set_option autoImplicit false

/-!
# The data operations

The operations 6 to 16 of `OPENOT_Producer` up to the decision whether to emit a record: values,
state machines, conditions and their lifecycle, commands, audit and signatures.

## Main definitions

* `OpenOT.St.Memory` — what these operations keep between calls.
* `OpenOT.St.Emission`, `OpenOT.St.Plan` — a record to emit, and the decision of an operation.
* `OpenOT.St.prepareValue`, `OpenOT.St.prepareStateTransition`, `OpenOT.St.prepareCondition`,
  `OpenOT.St.prepareLifecycle`, `OpenOT.St.prepareProcedure`, `OpenOT.St.prepareRegulated`,
  `OpenOT.St.prepareParameter`, `OpenOT.St.prepareSignature` — the operations.
* `OpenOT.St.prepare` — the dispatch on the operation.

## Design

Every one of these operations first checks its inputs and its own tables and then, if it has
something to emit, runs the same steps: find the source, draw its number and the time, encode,
publish. The first part is `prepare`; the steps and what they change afterwards are an `Emission`.
The arithmetic of `REAL` values is a parameter. The operations on the four kinds of values differ
in their table, their test for a change and their encoders, which a `ValueKind` has.
-/

namespace OpenOT.St

open Rust

/-! ## Tables -/

/-- The loop that looks for the first entry of a table with a property. -/
def findEntry {α : Type} {n : ℕ} (table : Vector α n) (p : α → Bool) : Option (Fin n) :=
  (List.finRange n).find? fun i => p (table.get i)

/-- An index into a table of 16 entries. -/
lemma entry_lt (index : Fin 16) : index.val < 16 := index.isLt

/-- An entry that is looked up, or else the first free one with its first contents. -/
def openEntry {α : Type} {n : ℕ} (table : Vector α n) (isEntry isFree : α → Bool)
    (fresh : α → α) : Option (Fin n × Vector α n) :=
  match findEntry table isEntry with
  | some index => some (index, table)
  | none => (findEntry table isFree).map fun index =>
      (index, table.set index (fresh (table.get index)))

/-- The arithmetic of `REAL` values, on their bit patterns. -/
structure RealArith where
  add : UInt32 → UInt32 → UInt32
  sub : UInt32 → UInt32 → UInt32
  lt : UInt32 → UInt32 → Bool
  ne : UInt32 → UInt32 → Bool

/-- `OPENOT_REAL_VALUE_STATE` and its siblings: what is known of a value. -/
structure ValueState (α β : Type) where
  used : Bool
  valueId : UInt32
  hasLast : Bool
  lastValue : α
  hasLastEmitSourceTime : Bool
  lastEmitSourceTime : UInt64
  band : β
  deriving DecidableEq

/-- `HasBandCenter` and `BandCenter` of a `REAL` value. -/
structure Band where
  hasCenter : Bool
  center : UInt32
  deriving DecidableEq

/-- `OPENOT_STATE_MACHINE_STATE`. -/
structure StateMachineState where
  used : Bool
  stateMachineId : UInt32
  hasLast : Bool
  lastState : UInt16
  deriving DecidableEq

/-- The tables of values and state machines. -/
structure Values where
  real : Vector (ValueState UInt32 Band) 16
  int : Vector (ValueState Int32 Unit) 16
  bits : Vector (ValueState UInt64 Unit) 16
  string : Vector (ValueState String96 Unit) 16
  stateMachines : Vector StateMachineState 16
  deriving DecidableEq

/-- `OPENOT_CONDITION_STATE`. -/
structure ConditionState where
  used : Bool
  sourceId : UInt32
  conditionId : UInt32
  hasLast : Bool
  lastActive : Bool
  correlationId : UInt32
  deriving DecidableEq

/-- The table of conditions and the next correlation id. -/
structure Conditions where
  table : Vector ConditionState 16
  nextCorrelationId : UInt32
  /-- history: how often a correlation id has been drawn -/
  attempted : ℕ
  deriving DecidableEq

/-- What is counted of dropped records, with the last reason. -/
structure Counters where
  droppedLifecycleCount : UInt64
  lastLifecycleError : UInt16
  droppedCommandCount : UInt64
  lastCommandError : UInt16
  deriving DecidableEq

/-- A lifecycle record that is refused without being counted. -/
def Counters.refuseLifecycle (reason : UInt16) (counters : Counters) : Counters :=
  { counters with lastLifecycleError := reason }

/-- A lifecycle record that is dropped. -/
def Counters.dropLifecycle (reason : UInt16) (counters : Counters) : Counters :=
  { counters with
    droppedLifecycleCount := counters.droppedLifecycleCount + 1
    lastLifecycleError := reason }

/-- A command that is dropped. -/
def Counters.dropCommand (reason : UInt16) (counters : Counters) : Counters :=
  { counters with
    droppedCommandCount := counters.droppedCommandCount + 1
    lastCommandError := reason }

/-- What the data operations keep between calls. -/
structure Memory where
  values : Values
  conditions : Conditions
  counters : Counters
  deriving DecidableEq

/-- The memory before the first call. -/
def Memory.new : Memory where
  values := {
    real := .replicate 16 ⟨false, 0, false, 0, false, 0, ⟨false, 0⟩⟩
    int := .replicate 16 ⟨false, 0, false, 0, false, 0, ()⟩
    bits := .replicate 16 ⟨false, 0, false, 0, false, 0, ()⟩
    string := .replicate 16 ⟨false, 0, false, .empty, false, 0, ()⟩
    stateMachines := .replicate 16 ⟨false, 0, false, 0⟩ }
  conditions := ⟨.replicate 16 ⟨false, 0, 0, false, false, 0⟩, 1, 0⟩
  counters := ⟨0, 0, 0, 0⟩

/-- `OPENOT_ATTESTABLE_EVENT_STATE`. -/
structure AttestableEventState where
  used : Bool
  attestableId : UInt32
  sourceId : UInt32
  hasSeq : Bool
  lastSeq : UInt64
  deriving DecidableEq

/-- `OPENOT_ATTESTABLE_EVENT_LOG`. -/
abbrev AttestableEventLog : Type := Vector AttestableEventState 32

/-- The attestable events when none is recorded. -/
def AttestableEventLog.blank : AttestableEventLog := .replicate 32 ⟨false, 0, 0, false, 0⟩

/-- `OPENOT_RecordAttestableSeq`. -/
def recordAttestableSeq (attestableId sourceId : UInt32) (seq : UInt64)
    (events : AttestableEventLog) : AttestableEventLog :=
  if 0 < attestableId ∧ attestableId ≤ 32 then
    match (findEntry events fun event => event.used && event.attestableId == attestableId).or
        (findEntry events fun event => !event.used) with
    | some index => events.set index ⟨true, attestableId, sourceId, true, seq⟩
    | none => events
  else events

/-! ## Decisions -/

/-- A record to emit: its source, event and encoder, and what changes at each of its steps. -/
structure Emission where
  sourceId : UInt32
  eventTypeId : UInt32
  encode : Envelope → Option Encoded
  /-- whether the record is recorded under `AttestableId` -/
  attestable : Bool := false
  /-- when its number is drawn -/
  drawn : Conditions → Conditions := id
  /-- when it has been published, with its source time -/
  keep : UInt64 → Values → Values := fun _ values => values
  /-- when it has been published -/
  settle : Conditions → Conditions := id
  /-- when the source table is full -/
  sourceTableFull : Counters → Counters := id
  /-- when it has not been published -/
  refused : Counters → Counters := id

/-- What an operation decides. -/
inductive Plan where
  /-- `Error` -/
  | refuse
  /-- `Done`, with nothing to emit -/
  | finish
  | emit (emission : Emission)

/-- The memory and the decision of an operation. -/
structure Prepared where
  memory : Memory
  plan : Plan

/-! ## Values -/

/-- What the operations on one kind of values differ in. -/
structure ValueKind (α β : Type) where
  table : Values → Vector (ValueState α β) 16
  setTable : Vector (ValueState α β) 16 → Values → Values
  /-- the value observed -/
  value : Inputs → α
  /-- `ShouldEmit` -/
  changed : RealArith → Inputs → ValueState α β → Bool
  /-- `<>` -/
  ne : RealArith → α → α → Bool
  /-- the band of an entry that is new -/
  noBand : β → β
  /-- the band of an entry whose value has been published -/
  band : Inputs → β
  /-- the encoder of a changed value, with the previous one -/
  encodeChange : Inputs → Bool → α → Envelope → Option Encoded
  /-- the lengths of the two value slots of a parameter change -/
  parameterLength : Inputs → α → UInt16
  /-- the encoder of a parameter change, with the previous value -/
  encodeParameter : Inputs → α → Envelope → Option Encoded

/-- The `REAL` values: operation 6. -/
def realKind : ValueKind UInt32 Band where
  table := Values.real
  setTable table values := { values with real := table }
  value := Inputs.valueReal
  changed arith inputs state :=
    if inputs.samplingMode = 2 then
      if state.band.hasCenter then
        arith.lt (arith.add state.band.center inputs.deadbandReal) inputs.valueReal ||
          arith.lt inputs.valueReal (arith.sub state.band.center inputs.deadbandReal)
      else true
    else if state.hasLast then
      let delta := arith.sub inputs.valueReal state.lastValue
      let delta := if arith.lt delta 0 then arith.sub 0 delta else delta
      arith.lt inputs.deadbandReal delta
    else true
  ne arith := arith.ne
  noBand band := { band with hasCenter := false }
  band inputs := ⟨true, inputs.valueReal⟩
  encodeChange inputs hasPrevious previous envelope :=
    encodeValueChangedReal envelope inputs.valueId inputs.valueReal hasPrevious previous
      inputs.hasQuality inputs.quality
  parameterLength _ _ := 16
  encodeParameter inputs previous envelope :=
    encodeParameterChangeReal envelope inputs.valueId previous inputs.valueReal inputs.audit

/-- The `DINT` values: operation 7. -/
def intKind : ValueKind Int32 Unit where
  table := Values.int
  setTable table values := { values with int := table }
  value := Inputs.valueInt
  changed _ inputs state := if state.hasLast then inputs.valueInt != state.lastValue else true
  ne _ a b := a != b
  noBand := id
  band _ := ()
  encodeChange inputs hasPrevious previous envelope :=
    encodeValueChangedInt envelope inputs.valueId inputs.valueInt hasPrevious previous
      inputs.hasQuality inputs.quality
  parameterLength _ _ := 16
  encodeParameter inputs previous envelope :=
    encodeParameterChangeInt envelope inputs.valueId previous inputs.valueInt inputs.audit

/-- The bit strings: operation 10. -/
def bitsKind : ValueKind UInt64 Unit where
  table := Values.bits
  setTable table values := { values with bits := table }
  value := Inputs.valueBits
  changed _ inputs state := if state.hasLast then inputs.valueBits != state.lastValue else true
  ne _ a b := a != b
  noBand := id
  band _ := ()
  encodeChange inputs hasPrevious previous envelope :=
    encodeValueChangedBits envelope inputs.valueId inputs.valueTypeTag inputs.valuePayloadLength
      inputs.valueBits hasPrevious previous inputs.hasQuality inputs.quality
  parameterLength inputs _ := valueSlotEncodedLength inputs.valuePayloadLength +
    valueSlotEncodedLength inputs.valuePayloadLength
  encodeParameter inputs previous envelope :=
    encodeParameterChangeBits envelope inputs.valueId inputs.valueTypeTag
      inputs.valuePayloadLength previous inputs.valueBits inputs.audit

/-- The strings: operation 11. -/
def stringKind : ValueKind String96 Unit where
  table := Values.string
  setTable table values := { values with string := table }
  value := Inputs.valueString
  changed _ inputs state := if state.hasLast then inputs.valueString != state.lastValue else true
  ne _ a b := a != b
  noBand := id
  band _ := ()
  encodeChange inputs hasPrevious previous envelope :=
    encodeValueChangedString envelope inputs.valueId inputs.valueString hasPrevious previous
      inputs.hasQuality inputs.quality
  parameterLength inputs previous := valueSlotEncodedLength (len96 previous) +
    valueSlotEncodedLength (len96 inputs.valueString)
  encodeParameter inputs previous envelope :=
    encodeParameterChangeString envelope inputs.valueId previous inputs.valueString inputs.audit

/-- The lengths a bit string may have. -/
def fixedWidth (payloadLength : UInt16) : Bool :=
  payloadLength == 1 || payloadLength == 2 || payloadLength == 4 || payloadLength == 8

section

variable {α β γ δ : Type}

/-- The entry of a value, or else a free one. A new entry has no last value. -/
def ValueKind.openValue (kind : ValueKind α β) (valueId : UInt32) (values : Values) :
    Option (Fin 16 × Vector (ValueState α β) 16) :=
  openEntry (kind.table values) (fun state => state.used && state.valueId == valueId)
    (fun state => !state.used) fun state => { state with
      used := true
      valueId := valueId
      hasLast := false
      hasLastEmitSourceTime := false
      band := kind.noBand state.band }

/-- `PeriodicDue`. -/
def periodicDue (inputs : Inputs) (policySourceTime : UInt64) (state : ValueState α β) : Bool :=
  if state.hasLastEmitSourceTime then
    if state.lastEmitSourceTime ≤ policySourceTime then
      decide (inputs.samplingIntervalMs * 1000000 ≤ policySourceTime - state.lastEmitSourceTime)
    else true
  else true

/-- The record of a changed value, from the entry of the value. -/
def ValueKind.change (kind : ValueKind α β) (inputs : Inputs) (index : Fin 16)
    (state : ValueState α β) : Emission where
  sourceId := inputs.activeSourceId
  eventTypeId := 0x0002
  encode := kind.encodeChange inputs (state.hasLast && !inputs.suppressPrevious) state.lastValue
  attestable := true
  keep sourceTime values := kind.setTable ((kind.table values).set index
    { (kind.table values).get index with
      hasLast := true
      lastValue := kind.value inputs
      hasLastEmitSourceTime := true
      lastEmitSourceTime := sourceTime
      band := kind.band inputs }) values

/-- The operations 6, 7, 10 and 11: a value is observed. -/
def prepareValue (kind : ValueKind α β) (valid : Bool) (arith : RealArith) (inputs : Inputs)
    (policySourceTime : UInt64) (memory : Memory) : Prepared :=
  if !valid then ⟨memory, .refuse⟩
  else
    match kind.openValue inputs.valueId memory.values with
    | none => ⟨memory, .refuse⟩
    | some (index, table) =>
      let state := table.get index
      let memory := { memory with values := kind.setTable table memory.values }
      if inputs.samplingMode = 1 ∧ inputs.samplingIntervalMs = 0 then ⟨memory, .refuse⟩
      else if kind.changed arith inputs state ||
          (inputs.samplingMode == 1 && periodicDue inputs policySourceTime state) then
        ⟨memory, .emit (kind.change inputs index state)⟩
      else ⟨memory, .finish⟩

end

/-- The record of a state machine that changes its state. -/
def stateTransitionEmission (inputs : Inputs) (index : Fin 16) : Emission where
  sourceId := inputs.activeSourceId
  eventTypeId := 0x0001
  encode envelope := encodeStateTransition envelope inputs.stateMachineId inputs.category
    inputs.previousState inputs.newState
  attestable := true
  keep _ values := { values with
    stateMachines := values.stateMachines.set index
      { values.stateMachines.get index with
        hasLast := true
        lastState := inputs.newState } }

/-- Operation 8: a state machine changes its state. -/
def prepareStateTransition (inputs : Inputs) (memory : Memory) : Prepared :=
  if inputs.stateMachineId = 0 then ⟨memory, .refuse⟩
  else if inputs.previousState = inputs.newState then ⟨memory, .finish⟩
  else
    match openEntry memory.values.stateMachines
        (fun state => state.used && state.stateMachineId == inputs.stateMachineId)
        (fun state => !state.used) fun state => { state with
          used := true
          stateMachineId := inputs.stateMachineId
          hasLast := false } with
    | none => ⟨memory, .refuse⟩
    | some (index, table) =>
      let state := table.get index
      let memory := { memory with values := { memory.values with stateMachines := table } }
      if !state.hasLast || state.lastState != inputs.newState then
        ⟨memory, .emit (stateTransitionEmission inputs index)⟩
      else ⟨memory, .finish⟩

/-! ## Conditions -/

/-- Whether an entry of the table of conditions is that of a condition of a source. -/
def ConditionState.isOf (sourceId conditionId : UInt32) (state : ConditionState) : Bool :=
  state.used && state.sourceId == sourceId && state.conditionId == conditionId

/-- What is kept of an observed condition. -/
def Conditions.observe (index : Fin 16) (active : Bool) (conditions : Conditions) : Conditions :=
  { conditions with
    table := conditions.table.set index
      { conditions.table.get index with hasLast := true, lastActive := active } }

/-- Draws the next correlation id for a condition. -/
def Conditions.activate (index : Fin 16) (conditions : Conditions) : Conditions where
  table := conditions.table.set index
    { conditions.table.get index with correlationId := conditions.nextCorrelationId }
  nextCorrelationId := conditions.nextCorrelationId + 1
  attempted := conditions.attempted + 1

/-- The record of a condition that becomes active or is cleared. -/
def conditionEmission (inputs : Inputs) (index : Fin 16) (correlationId : UInt32) : Emission where
  sourceId := inputs.activeSourceId
  eventTypeId := if inputs.conditionActive then 0x0200 else 0x0201
  encode envelope := encodeCondition envelope
    (if inputs.conditionActive then 0x0200 else 0x0201) inputs.conditionId inputs.conditionClass
    inputs.severity (correlationId != 0) correlationId inputs.hasCauseOperand inputs.causeOperand
  drawn conditions := if inputs.conditionActive then conditions.activate index else conditions
  settle := Conditions.observe index inputs.conditionActive

/-- Operation 9: a condition is observed. -/
def prepareCondition (inputs : Inputs) (memory : Memory) : Prepared :=
  if inputs.conditionId = 0 then ⟨memory, .refuse⟩
  else
    match openEntry memory.conditions.table
        (ConditionState.isOf inputs.activeSourceId inputs.conditionId)
        (fun state => !state.used) fun state => { state with
          used := true
          sourceId := inputs.activeSourceId
          conditionId := inputs.conditionId
          hasLast := false
          correlationId := 0 } with
    | none => ⟨memory, .refuse⟩
    | some (index, table) =>
      let state := table.get index
      let conditions := { memory.conditions with table := table }
      let shouldEmit := if state.hasLast then state.lastActive != inputs.conditionActive
        else inputs.conditionActive
      if shouldEmit then
        ⟨{ memory with conditions := conditions }, .emit (conditionEmission inputs index
          (if inputs.conditionActive then conditions.nextCorrelationId
            else state.correlationId))⟩
      else
        ⟨{ memory with conditions := conditions.observe index inputs.conditionActive }, .finish⟩

/-- The lifecycle inputs that the event allows. -/
def Inputs.allowedLifecycle (inputs : Inputs) : LifecycleInputs :=
  let event := inputs.conditionLifecycleEventTypeId
  { inputs.lifecycle with
    hasAckBy := inputs.lifecycle.hasAckBy && (event == 0x0202 || event == 0x0203 ||
      event == 0x0204 || event == 0x0208 || event == 0x020A || event == 0x020B ||
      event == 0x020C)
    hasShelveSecs := inputs.lifecycle.hasShelveSecs && event == 0x0204
    hasReason := inputs.lifecycle.hasReason && event == 0x0206
    hasComment := inputs.lifecycle.hasComment && event == 0x020A
    hasPreviousPriority := inputs.lifecycle.hasPreviousPriority && event == 0x020C
    hasNewPriority := inputs.lifecycle.hasNewPriority && event == 0x020C }

/-- `LifecycleRecordLength`. -/
def lifecycleRecordLength (eventTypeId : UInt32) (lifecycle : LifecycleInputs) : UInt16 :=
  52 + plus (activationScoped eventTypeId) 8 +
    plus lifecycle.hasComment (valueSlotEncodedLength (len96 lifecycle.comment)) +
    plus lifecycle.hasPreviousPriority 8 + plus lifecycle.hasNewPriority 8 +
    plus lifecycle.hasAckBy (valueSlotEncodedLength (len96 lifecycle.ackBy)) +
    plus lifecycle.hasShelveSecs 8 +
    plus lifecycle.hasReason (valueSlotEncodedLength (len96 lifecycle.reason))

/-- The record of a lifecycle event. -/
def lifecycleEmission (inputs : Inputs) (correlationId : UInt32) : Emission where
  sourceId := inputs.activeSourceId
  eventTypeId := inputs.conditionLifecycleEventTypeId
  encode envelope := encodeConditionLifecycle envelope inputs.conditionLifecycleEventTypeId
    inputs.conditionId correlationId inputs.allowedLifecycle false 0
  sourceTableFull := Counters.refuseLifecycle 4

/-- The record of a lifecycle event, if its inputs are there and it fits. -/
def emitLifecycle (inputs : Inputs) (correlationId : UInt32) (memory : Memory) : Prepared :=
  let event := inputs.conditionLifecycleEventTypeId
  let lifecycle := inputs.allowedLifecycle
  if (event = 0x020A ∧ !lifecycle.hasComment) ∨
      (event = 0x020C ∧ (!lifecycle.hasPreviousPriority ∨ !lifecycle.hasNewPriority)) then
    ⟨{ memory with counters := memory.counters.dropLifecycle 5 }, .refuse⟩
  else if 256 < lifecycleRecordLength event lifecycle then
    ⟨{ memory with counters := memory.counters.dropLifecycle 6 }, .refuse⟩
  else ⟨memory, .emit (lifecycleEmission inputs correlationId)⟩

/-- Operation 12: a lifecycle event of a condition. -/
def prepareLifecycle (inputs : Inputs) (memory : Memory) : Prepared :=
  let event := inputs.conditionLifecycleEventTypeId
  if inputs.conditionId = 0 then
    ⟨{ memory with counters := memory.counters.refuseLifecycle 2 }, .refuse⟩
  else if event < 0x0202 ∨ 0x020C < event then
    ⟨{ memory with counters := memory.counters.refuseLifecycle 3 }, .refuse⟩
  else if activationScoped event then
    match (findEntry memory.conditions.table
        (ConditionState.isOf inputs.activeSourceId inputs.conditionId)).map
          memory.conditions.table.get with
    | some state =>
      if state.hasLast ∧ state.lastActive ∧ state.correlationId ≠ 0 then
        emitLifecycle inputs state.correlationId memory
      else ⟨{ memory with counters := memory.counters.dropLifecycle 1 }, .refuse⟩
    | none => ⟨{ memory with counters := memory.counters.dropLifecycle 1 }, .refuse⟩
  else emitLifecycle inputs 0 memory

/-! ## Commands -/

/-- A command that is dropped for a reason. -/
def dropCommand (reason : UInt16) (memory : Memory) : Prepared :=
  ⟨{ memory with counters := memory.counters.dropCommand reason }, .refuse⟩

/-- A command that is emitted, with the reasons for which it is dropped later. -/
def commandEmission (inputs : Inputs) (eventTypeId : UInt32)
    (encode : Envelope → Option Encoded) : Emission where
  sourceId := inputs.activeSourceId
  eventTypeId := eventTypeId
  encode := encode
  attestable := true
  sourceTableFull := Counters.dropCommand 4
  refused := Counters.dropCommand 5

/-- Operation 13: a batch or recipe event. -/
def prepareProcedure (inputs : Inputs) (memory : Memory) : Prepared :=
  let procedure := inputs.procedure
  let event := procedure.eventTypeId
  if ¬(event = 0x0301 ∨ event = 0x0302 ∨ event = 0x0303 ∨ event = 0x0304) then
    dropCommand 1 memory
  else if (event = 0x0301 ∨ event = 0x0302) ∧ len96 procedure.recipeVersion = 0 then
    dropCommand 2 memory
  else if 256 < procedure.recordLength then dropCommand 3 memory
  else ⟨memory, .emit (commandEmission inputs event (encodeBatchRecipe · procedure))⟩

/-- Operation 14: a regulated action. -/
def prepareRegulated (inputs : Inputs) (memory : Memory) : Prepared :=
  let regulated := inputs.regulated
  let event := regulated.eventTypeId
  if ¬(event = 0x0400 ∨ event = 0x0401 ∨ event = 0x0402 ∨ event = 0x0405) then
    dropCommand 1 memory
  else if len96 regulated.actor = 0 ∨ (event = 0x0401 ∧ !regulated.hasAuthResult) then
    dropCommand 2 memory
  else if 256 < regulated.recordLength then dropCommand 3 memory
  else ⟨memory, .emit (commandEmission inputs event (encodeRegulated · regulated))⟩

/-! ## Audit and signatures -/

/-- `AuditRecordLength`, given the lengths of the two value slots. -/
def auditRecordLength (audit : AuditInputs) (valueLength : UInt16) : UInt16 :=
  52 + valueSlotEncodedLength (len96 audit.actor) + valueSlotEncodedLength (len96 audit.reason) +
    valueLength + plus audit.hasAuthResult 8

section

variable {α β γ δ : Type}

/-- The record of a parameter change, with the previous value. -/
def parameterEmission (kind : ValueKind α β) (inputs : Inputs) (index : Fin 16) (previous : α) :
    Emission :=
  { commandEmission inputs 0x0403 (kind.encodeParameter inputs previous) with
    keep := fun _ values => kind.setTable ((kind.table values).set index
      { (kind.table values).get index with
        hasLast := true
        lastValue := kind.value inputs }) values }

/-- The record of a parameter change, if it has an actor and a reason and fits. -/
def emitParameter (kind : ValueKind α β) (inputs : Inputs) (index : Fin 16) (memory : Memory) :
    Prepared :=
  let previous := ((kind.table memory.values).get index).lastValue
  if len96 inputs.audit.actor = 0 ∨ len96 inputs.audit.reason = 0 then dropCommand 2 memory
  else if 256 < auditRecordLength inputs.audit (kind.parameterLength inputs previous) then
    dropCommand 3 memory
  else ⟨memory, .emit (parameterEmission kind inputs index previous)⟩

/-- The branches of operation 15: the value is looked up among those of the first kind, and the
record is that of the second. A value that is not known yet is taken without a record. -/
def commandParameter (kind : ValueKind α β) (written : ValueKind γ δ) (arith : RealArith)
    (inputs : Inputs) (memory : Memory) : Prepared :=
  match kind.openValue inputs.valueId memory.values with
  | none => dropCommand 4 memory
  | some (index, table) =>
    let state := table.get index
    if state.hasLast then
      if kind.ne arith (kind.value inputs) state.lastValue then
        emitParameter written inputs index memory
      else ⟨memory, .finish⟩
    else
      let table := table.set index { state with
        hasLast := true
        lastValue := kind.value inputs }
      ⟨{ memory with values := kind.setTable table memory.values }, .finish⟩

end

/-- Operation 15: a parameter is changed. The branch is chosen by type tag and length, the encoder
by the tag alone. -/
def prepareParameter (arith : RealArith) (inputs : Inputs) (memory : Memory) : Prepared :=
  if inputs.valueId = 0 then dropCommand 1 memory
  else if inputs.valueTypeTag = 0x09 ∧ inputs.valuePayloadLength = 4 then
    commandParameter realKind realKind arith inputs memory
  else if inputs.valueTypeTag = 0x06 ∧ inputs.valuePayloadLength = 4 then
    commandParameter intKind intKind arith inputs memory
  else if inputs.valueTypeTag = 0x0C then
    commandParameter stringKind stringKind arith inputs memory
  else if fixedWidth inputs.valuePayloadLength then
    if inputs.valueTypeTag = 0x09 then commandParameter bitsKind realKind arith inputs memory
    else if inputs.valueTypeTag = 0x06 then commandParameter bitsKind intKind arith inputs memory
    else commandParameter bitsKind bitsKind arith inputs memory
  else dropCommand 1 memory

/-- `SignatureRecordLength`. -/
def signatureRecordLength (inputs : Inputs) : UInt16 :=
  72 + valueSlotEncodedLength (len96 inputs.signatureActor) + plus inputs.signatureHasAuthResult 8

/-- The record of a signature, with the number of the event that is signed. -/
def signatureEmission (inputs : Inputs) (signedEventSeq : UInt64) : Emission :=
  let encode := fun envelope => encodeESignature envelope inputs.signatureActionId
    inputs.signatureActor inputs.signatureMeaning signedEventSeq inputs.signatureHasAuthResult
    inputs.signatureAuthResult
  { commandEmission inputs 0x0404 encode with attestable := false }

/-- Operation 16: a recorded event is signed. -/
def prepareSignature (events : AttestableEventLog) (inputs : Inputs) (memory : Memory) :
    Prepared :=
  if inputs.signatureAttestsId = 0 ∨ 32 < inputs.signatureAttestsId then dropCommand 1 memory
  else
    match findEntry events fun event => event.used &&
        event.attestableId == inputs.signatureAttestsId && event.hasSeq &&
        event.sourceId == inputs.activeSourceId with
    | none => dropCommand 6 memory
    | some index =>
      if len96 inputs.signatureActor = 0 then dropCommand 2 memory
      else if 256 < signatureRecordLength inputs then dropCommand 3 memory
      else ⟨memory, .emit (signatureEmission inputs (events.get index).lastSeq)⟩

/-! ## Dispatch -/

/-- The operations 6 to 16. -/
def isDataOp (op : UInt16) : Bool := decide (6 ≤ op ∧ op ≤ 16)

/-- The data operations up to the decision what to emit. -/
def prepare (arith : RealArith) (inputs : Inputs) (policySourceTime : UInt64)
    (events : AttestableEventLog) (memory : Memory) : Prepared :=
  let op := inputs.op
  let valid := inputs.valueId != 0
  if op = 6 then prepareValue realKind valid arith inputs policySourceTime memory
  else if op = 7 then prepareValue intKind valid arith inputs policySourceTime memory
  else if op = 10 then prepareValue bitsKind (valid && fixedWidth inputs.valuePayloadLength) arith
    inputs policySourceTime memory
  else if op = 11 then prepareValue stringKind valid arith inputs policySourceTime memory
  else if op = 8 then prepareStateTransition inputs memory
  else if op = 9 then prepareCondition inputs memory
  else if op = 12 then prepareLifecycle inputs memory
  else if op = 13 then prepareProcedure inputs memory
  else if op = 14 then prepareRegulated inputs memory
  else if op = 15 then prepareParameter arith inputs memory
  else prepareSignature events inputs memory

end OpenOT.St
