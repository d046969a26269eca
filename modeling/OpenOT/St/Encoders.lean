import OpenOT.St.Buffer

set_option relaxedAutoImplicit false
set_option autoImplicit false

/-!
# The encoders

One function for each encoder function block of the Structured Text producer, with the groups of
inputs they take.

## Main definitions

* `OpenOT.St.encodeMinimalMessage`, `OpenOT.St.encodeSourceHighWater`,
  `OpenOT.St.encodeLoggerStarted`, … — messages and lifecycle records.
* `OpenOT.St.encodeValueChangedReal`, `OpenOT.St.encodeStateTransition`,
  `OpenOT.St.encodeCondition`, … — values, states and conditions.
* `OpenOT.St.encodeBatchRecipe`, `OpenOT.St.encodeRegulated`,
  `OpenOT.St.encodeParameterChangeReal`, … — commands and audit.

## Design

The encoders of the four kinds of values differ in the slots of the values only: they are
`encodeValueChanged` and `encodeParameterChange` at the slots of their kind.
-/

namespace OpenOT.St

/-- What an `IF` adds to the total length. -/
def plus (present : Bool) (length : UInt16) : UInt16 := if present then length else 0

/-! ## Lifecycle -/

/-- `OPENOT_EncodeSourceHighWater`. -/
def encodeSourceHighWater (sourceId : UInt32) (runId producedCount sourceTime : UInt64) :
    Option Encoded :=
  encodeRecord 56 ⟨sourceTime, runId, producedCount, sourceId⟩ 0x0108
    (u64Slot 0x0038 0x07 producedCount)

/-- `OPENOT_EncodeLoggerStarted`. -/
def encodeLoggerStarted (runId seq : UInt64) (coldStart : Bool) (sourceTime : UInt64) :
    Option Encoded :=
  encodeRecord 52 ⟨sourceTime, runId, seq, 0⟩ 0x0101
    (boolSlot 0x003B (if coldStart then 0x01 else 0x00))

/-- `OPENOT_EncodeLoggerStopped`. -/
def encodeLoggerStopped (runId seq sourceTime : UInt64) : Option Encoded :=
  encodeRecord 44 ⟨sourceTime, runId, seq, 0⟩ 0x0102 pure

/-- `OPENOT_EncodeDefinitionChanged`. -/
def encodeDefinitionChanged (runId seq : UInt64) (defHashOld defHashNew : Vector UInt8 8)
    (epochId sourceTime : UInt64) : Option Encoded :=
  encodeRecord 80 ⟨sourceTime, runId, seq, 0⟩ 0x0106 fun pos => do
    let pos ← hashSlot 0x0039 defHashOld pos
    let pos ← hashSlot 0x001C defHashNew pos
    u64Slot 0x003A 0x07 epochId pos

/-! ## Messages -/

/-- An argument of a message. -/
structure MessageArg where
  typeTag : UInt8
  payloadLength : UInt16
  bits : UInt64
  string : String96
  deriving DecidableEq

/-- The `Message…` inputs. -/
structure MessageInputs where
  templateId : UInt32
  hasSeverity : Bool
  severity : UInt16
  argCount : UInt16
  arg1 : MessageArg
  arg2 : MessageArg
  arg3 : MessageArg
  arg4 : MessageArg
  deriving DecidableEq

/-- `ArgLength`. -/
def MessageArg.length (arg : MessageArg) : UInt16 :=
  if arg.typeTag = 0x0C then len arg.string else arg.payloadLength

/-- The slot of an argument. -/
def MessageArg.slot (arg : MessageArg) (pos : UInt16) : Writes UInt16 :=
  if arg.typeTag = 0x0C then stringSlot 0x0015 arg.string (len arg.string) pos
  else bitsSlot 0x0015 arg.typeTag arg.bits arg.payloadLength pos

/-- `OPENOT_EncodeMinimalMessage`. -/
def encodeMinimalMessage (envelope : Envelope) (message : MessageInputs) : Option Encoded :=
  let totalLength := 40 + 8 + 4 +
    plus (1 ≤ message.argCount) (valueSlotEncodedLength message.arg1.length) +
    plus (2 ≤ message.argCount) (valueSlotEncodedLength message.arg2.length) +
    plus (3 ≤ message.argCount) (valueSlotEncodedLength message.arg3.length) +
    plus (4 ≤ message.argCount) (valueSlotEncodedLength message.arg4.length) +
    plus message.hasSeverity 8
  encodeRecord totalLength envelope 0x0003 fun pos => do
    let pos ← udintSlot 0x0014 message.templateId pos
    let pos ← optional (1 ≤ message.argCount) message.arg1.slot pos
    let pos ← optional (2 ≤ message.argCount) message.arg2.slot pos
    let pos ← optional (3 ≤ message.argCount) message.arg3.slot pos
    let pos ← optional (4 ≤ message.argCount) message.arg4.slot pos
    optional message.hasSeverity (uintSlot 0x0008 message.severity) pos

/-! ## Values -/

/-- The encoders of changed values: the lengths and the writers of the two value slots differ. -/
def encodeValueChanged (envelope : Envelope) (valueId : UInt32) (newLength previousLength : UInt16)
    (newSlot previousSlot : UInt16 → Writes UInt16) (hasPrevious hasQuality : Bool)
    (quality : UInt16) : Option Encoded :=
  let totalLength := 40 + 8 + newLength + 4 + plus hasPrevious previousLength + plus hasQuality 8
  encodeRecord totalLength envelope 0x0002 fun pos => do
    let pos ← udintSlot 0x000D valueId pos
    let pos ← newSlot pos
    let pos ← optional hasPrevious previousSlot pos
    optional hasQuality (uintSlot 0x0011 quality) pos

/-- `OPENOT_EncodeValueChangedReal`. -/
def encodeValueChangedReal (envelope : Envelope) (valueId newValue : UInt32) (hasPrevious : Bool)
    (previousValue : UInt32) (hasQuality : Bool) (quality : UInt16) : Option Encoded :=
  encodeValueChanged envelope valueId 8 8 (dwordSlot 0x0010 0x09 newValue)
    (dwordSlot 0x000F 0x09 previousValue) hasPrevious hasQuality quality

/-- `OPENOT_EncodeValueChangedInt`. -/
def encodeValueChangedInt (envelope : Envelope) (valueId : UInt32) (newValue : Int32)
    (hasPrevious : Bool) (previousValue : Int32) (hasQuality : Bool) (quality : UInt16) :
    Option Encoded :=
  encodeValueChanged envelope valueId 8 8 (dwordSlot 0x0010 0x06 newValue.toUInt32)
    (dwordSlot 0x000F 0x06 previousValue.toUInt32) hasPrevious hasQuality quality

/-- `OPENOT_EncodeValueChangedBits`. -/
def encodeValueChangedBits (envelope : Envelope) (valueId : UInt32) (typeTag : UInt8)
    (payloadLength : UInt16) (newBits : UInt64) (hasPrevious : Bool) (previousBits : UInt64)
    (hasQuality : Bool) (quality : UInt16) : Option Encoded :=
  encodeValueChanged envelope valueId (valueSlotEncodedLength payloadLength)
    (valueSlotEncodedLength payloadLength) (bitsSlot 0x0010 typeTag newBits payloadLength)
    (bitsSlot 0x000F typeTag previousBits payloadLength) hasPrevious hasQuality quality

/-- `OPENOT_EncodeValueChangedString`. -/
def encodeValueChangedString (envelope : Envelope) (valueId : UInt32) (newValue : String96)
    (hasPrevious : Bool) (previousValue : String96) (hasQuality : Bool) (quality : UInt16) :
    Option Encoded :=
  encodeValueChanged envelope valueId (valueSlotEncodedLength (len96 newValue))
    (valueSlotEncodedLength (len96 previousValue)) (stringSlot 0x0010 newValue (len96 newValue))
    (stringSlot 0x000F previousValue (len96 previousValue)) hasPrevious hasQuality quality

/-! ## States and conditions -/

/-- `OPENOT_EncodeStateTransition`. -/
def encodeStateTransition (envelope : Envelope) (stateMachineId : UInt32)
    (category previousState newState : UInt16) : Option Encoded :=
  encodeRecord 76 envelope 0x0001 fun pos => do
    let pos ← udintSlot 0x0001 stateMachineId pos
    let pos ← uintSlot 0x0002 category pos
    let pos ← uintSlot 0x0003 previousState pos
    uintSlot 0x0004 newState pos

/-- `OPENOT_EncodeCondition`. -/
def encodeCondition (envelope : Envelope) (eventTypeId conditionId : UInt32)
    (conditionClass severity : UInt16) (hasCorrelationId : Bool) (correlationId : UInt32)
    (hasCauseOperand : Bool) (causeOperand : UInt32) : Option Encoded :=
  let isActive := eventTypeId == 0x0200
  let totalLength := 60 + plus hasCorrelationId 8 + plus isActive 8 +
    plus (isActive && hasCauseOperand) 8
  encodeRecord totalLength envelope eventTypeId fun pos => do
    let pos ← udintSlot 0x0005 conditionId pos
    let pos ← uintSlot 0x0006 conditionClass pos
    let pos ← optional hasCorrelationId (udintSlot 0x0007 correlationId) pos
    let pos ← optional isActive (uintSlot 0x0008 severity) pos
    optional (isActive && hasCauseOperand) (udintSlot 0x0009 causeOperand) pos

/-- The `Lifecycle…` inputs. -/
structure LifecycleInputs where
  hasAckBy : Bool
  ackBy : String96
  hasShelveSecs : Bool
  shelveSecs : UInt32
  hasReason : Bool
  reason : String96
  hasComment : Bool
  comment : String96
  hasPreviousPriority : Bool
  previousPriority : UInt16
  hasNewPriority : Bool
  newPriority : UInt16
  deriving DecidableEq

/-- `LifecycleActivationScoped`: the lifecycle events that belong to an activation. -/
def activationScoped (eventTypeId : UInt32) : Bool :=
  eventTypeId == 0x0202 || eventTypeId == 0x0203 || eventTypeId == 0x0204 ||
    eventTypeId == 0x0205 || eventTypeId == 0x020A || eventTypeId == 0x020B

/-- `OPENOT_EncodeConditionLifecycle`. -/
def encodeConditionLifecycle (envelope : Envelope) (eventTypeId conditionId correlationId : UInt32)
    (lifecycle : LifecycleInputs) (hasRefreshId : Bool) (refreshId : UInt32) : Option Encoded :=
  let isActivationScoped := activationScoped eventTypeId
  let totalLength := 52 + plus isActivationScoped 8 +
    plus lifecycle.hasComment (valueSlotEncodedLength (len96 lifecycle.comment)) +
    plus lifecycle.hasAckBy (valueSlotEncodedLength (len96 lifecycle.ackBy)) +
    plus lifecycle.hasShelveSecs 8 +
    plus lifecycle.hasReason (valueSlotEncodedLength (len96 lifecycle.reason)) +
    plus lifecycle.hasPreviousPriority 8 + plus lifecycle.hasNewPriority 8 + plus hasRefreshId 8
  let ackBySlot := optional lifecycle.hasAckBy
    (stringSlot 0x001D lifecycle.ackBy (len96 lifecycle.ackBy))
  encodeRecord totalLength envelope eventTypeId fun pos => do
    let pos ← udintSlot 0x0005 conditionId pos
    let pos ← optional isActivationScoped (udintSlot 0x0007 correlationId) pos
    let pos ←
      if eventTypeId = 0x020A then do
        let pos ← optional lifecycle.hasComment
          (stringSlot 0x0037 lifecycle.comment (len96 lifecycle.comment)) pos
        ackBySlot pos
      else if eventTypeId = 0x020C then do
        let pos ← optional lifecycle.hasPreviousPriority
          (uintSlot 0x002E lifecycle.previousPriority) pos
        let pos ← optional lifecycle.hasNewPriority (uintSlot 0x002C lifecycle.newPriority) pos
        ackBySlot pos
      else do
        let pos ← ackBySlot pos
        let pos ← optional lifecycle.hasShelveSecs (udintSlot 0x001E lifecycle.shelveSecs) pos
        optional lifecycle.hasReason
          (stringSlot 0x001F lifecycle.reason (len96 lifecycle.reason)) pos
    optional hasRefreshId (udintSlot 0x0034 refreshId) pos

/-! ## Batches and recipes -/

/-- The `Procedure…` inputs. -/
structure ProcedureInputs where
  eventTypeId : UInt32
  recipeId : UInt32
  hasRecipeId : Bool
  recipeVersion : String96
  hasBatchId : Bool
  batchId : UInt32
  hasAuthResult : Bool
  authResult : UInt16
  hasAckBy : Bool
  ackBy : String96
  newState : UInt16
  materialId : UInt32
  quantity : UInt64
  hasUnit : Bool
  unitId : UInt16
  deriving DecidableEq

/-- The length of a batch or recipe record, as the producer checks it and the encoder computes it
again; zero for any other event. -/
def ProcedureInputs.recordLength (procedure : ProcedureInputs) : UInt16 :=
  if procedure.eventTypeId = 0x0301 then
    52 + valueSlotEncodedLength (len96 procedure.recipeVersion) + plus procedure.hasBatchId 8
  else if procedure.eventTypeId = 0x0302 then
    52 + valueSlotEncodedLength (len96 procedure.recipeVersion) + plus procedure.hasAuthResult 8 +
      plus procedure.hasAckBy (valueSlotEncodedLength (len96 procedure.ackBy))
  else if procedure.eventTypeId = 0x0303 then 60 + plus procedure.hasRecipeId 8
  else if procedure.eventTypeId = 0x0304 then 72 + plus procedure.hasUnit 8
  else 0

/-- `OPENOT_EncodeBatchRecipe`. -/
def encodeBatchRecipe (envelope : Envelope) (procedure : ProcedureInputs) : Option Encoded :=
  if 0 < procedure.recordLength then
    encodeRecord procedure.recordLength envelope procedure.eventTypeId fun pos =>
      if procedure.eventTypeId = 0x0301 then do
        let pos ← udintSlot 0x0023 procedure.recipeId pos
        let pos ← stringSlot 0x0024 procedure.recipeVersion (len96 procedure.recipeVersion) pos
        optional procedure.hasBatchId (udintSlot 0x0025 procedure.batchId) pos
      else if procedure.eventTypeId = 0x0302 then do
        let pos ← udintSlot 0x0023 procedure.recipeId pos
        let pos ← stringSlot 0x0024 procedure.recipeVersion (len96 procedure.recipeVersion) pos
        let pos ← optional procedure.hasAuthResult (uintSlot 0x0020 procedure.authResult) pos
        optional procedure.hasAckBy (stringSlot 0x001D procedure.ackBy (len96 procedure.ackBy)) pos
      else if procedure.eventTypeId = 0x0303 then do
        let pos ← udintSlot 0x0025 procedure.batchId pos
        let pos ← uintSlot 0x0004 procedure.newState pos
        optional procedure.hasRecipeId (udintSlot 0x0023 procedure.recipeId) pos
      else if procedure.eventTypeId = 0x0304 then do
        let pos ← udintSlot 0x0025 procedure.batchId pos
        let pos ← udintSlot 0x0026 procedure.materialId pos
        let pos ← u64Slot 0x0027 0x0A procedure.quantity pos
        optional procedure.hasUnit (uintSlot 0x0013 procedure.unitId) pos
      else pure pos
  else some ⟨blankBuffer, 0⟩

/-! ## Regulated actions -/

/-- The `Regulated…` inputs. -/
structure RegulatedInputs where
  eventTypeId : UInt32
  actionId : UInt32
  actor : String96
  hasContext1 : Bool
  context1 : UInt32
  hasContext2 : Bool
  context2 : UInt32
  hasContext3 : Bool
  context3 : UInt32
  hasContext4 : Bool
  context4 : UInt32
  hasAuthResult : Bool
  authResult : UInt16
  hasWorkstation : Bool
  workstation : String96
  hasRole : Bool
  role : UInt16
  hasReason : Bool
  reason : String96
  deriving DecidableEq

/-- The length of a regulated record, as the producer checks it and the encoder computes it again;
zero for any other event. -/
def RegulatedInputs.recordLength (regulated : RegulatedInputs) : UInt16 :=
  let workstation := plus regulated.hasWorkstation
    (valueSlotEncodedLength (len96 regulated.workstation))
  if regulated.eventTypeId = 0x0400 then
    52 + valueSlotEncodedLength (len96 regulated.actor) + plus regulated.hasContext1 8 +
      plus regulated.hasContext2 8 + plus regulated.hasContext3 8 + plus regulated.hasContext4 8 +
      plus regulated.hasAuthResult 8 + workstation
  else if regulated.eventTypeId = 0x0401 then
    44 + valueSlotEncodedLength (len96 regulated.actor) + 8 + workstation +
      plus regulated.hasRole 8
  else if regulated.eventTypeId = 0x0402 then
    44 + valueSlotEncodedLength (len96 regulated.actor) + workstation
  else if regulated.eventTypeId = 0x0405 then
    44 + valueSlotEncodedLength (len96 regulated.actor) + workstation +
      plus regulated.hasReason (valueSlotEncodedLength (len96 regulated.reason))
  else 0

/-- `OPENOT_EncodeRegulated`. -/
def encodeRegulated (envelope : Envelope) (regulated : RegulatedInputs) : Option Encoded :=
  let actorSlot := stringSlot 0x000B regulated.actor (len96 regulated.actor)
  let workstationSlot := optional regulated.hasWorkstation
    (stringSlot 0x0021 regulated.workstation (len96 regulated.workstation))
  if 0 < regulated.recordLength then
    encodeRecord regulated.recordLength envelope regulated.eventTypeId fun pos =>
      if regulated.eventTypeId = 0x0400 then do
        let pos ← udintSlot 0x000A regulated.actionId pos
        let pos ← actorSlot pos
        let pos ← optional regulated.hasContext1 (udintSlot 0x000C regulated.context1) pos
        let pos ← optional regulated.hasContext2 (udintSlot 0x000C regulated.context2) pos
        let pos ← optional regulated.hasContext3 (udintSlot 0x000C regulated.context3) pos
        let pos ← optional regulated.hasContext4 (udintSlot 0x000C regulated.context4) pos
        let pos ← optional regulated.hasAuthResult (uintSlot 0x0020 regulated.authResult) pos
        workstationSlot pos
      else if regulated.eventTypeId = 0x0401 then do
        let pos ← actorSlot pos
        let pos ← uintSlot 0x0020 regulated.authResult pos
        let pos ← workstationSlot pos
        optional regulated.hasRole (uintSlot 0x0033 regulated.role) pos
      else if regulated.eventTypeId = 0x0402 then do
        let pos ← actorSlot pos
        workstationSlot pos
      else if regulated.eventTypeId = 0x0405 then do
        let pos ← actorSlot pos
        let pos ← workstationSlot pos
        optional regulated.hasReason
          (stringSlot 0x001F regulated.reason (len96 regulated.reason)) pos
      else pure pos
  else some ⟨blankBuffer, 0⟩

/-! ## Signatures and parameter changes -/

/-- `OPENOT_EncodeESignature`. -/
def encodeESignature (envelope : Envelope) (actionId : UInt32) (actor : String96)
    (signatureMeaning : UInt16) (signedEventSeq : UInt64) (hasAuthResult : Bool)
    (authResult : UInt16) : Option Encoded :=
  let totalLength := 72 + valueSlotEncodedLength (len96 actor) + plus hasAuthResult 8
  encodeRecord totalLength envelope 0x0404 fun pos => do
    let pos ← udintSlot 0x000A actionId pos
    let pos ← stringSlot 0x000B actor (len96 actor) pos
    let pos ← uintSlot 0x0022 signatureMeaning pos
    let pos ← u64Slot 0x002F 0x07 signedEventSeq pos
    optional hasAuthResult (uintSlot 0x0020 authResult) pos

/-- The `Audit…` inputs. -/
structure AuditInputs where
  actor : String96
  reason : String96
  hasAuthResult : Bool
  authResult : UInt16
  deriving DecidableEq

/-- The encoders of parameter changes: the lengths and the writers of the two value slots
differ. -/
def encodeParameterChange (envelope : Envelope) (valueId : UInt32)
    (previousLength newLength : UInt16) (previousSlot newSlot : UInt16 → Writes UInt16)
    (audit : AuditInputs) : Option Encoded :=
  let totalLength := 52 + previousLength + newLength +
    valueSlotEncodedLength (len96 audit.actor) + valueSlotEncodedLength (len96 audit.reason) +
    plus audit.hasAuthResult 8
  encodeRecord totalLength envelope 0x0403 fun pos => do
    let pos ← udintSlot 0x000D valueId pos
    let pos ← previousSlot pos
    let pos ← newSlot pos
    let pos ← stringSlot 0x000B audit.actor (len96 audit.actor) pos
    let pos ← stringSlot 0x001F audit.reason (len96 audit.reason) pos
    optional audit.hasAuthResult (uintSlot 0x0020 audit.authResult) pos

/-- `OPENOT_EncodeParameterChangeReal`. -/
def encodeParameterChangeReal (envelope : Envelope) (valueId previousValue newValue : UInt32)
    (audit : AuditInputs) : Option Encoded :=
  encodeParameterChange envelope valueId 8 8 (dwordSlot 0x000F 0x09 previousValue)
    (dwordSlot 0x0010 0x09 newValue) audit

/-- `OPENOT_EncodeParameterChangeInt`. -/
def encodeParameterChangeInt (envelope : Envelope) (valueId : UInt32)
    (previousValue newValue : Int32) (audit : AuditInputs) : Option Encoded :=
  encodeParameterChange envelope valueId 8 8 (dwordSlot 0x000F 0x06 previousValue.toUInt32)
    (dwordSlot 0x0010 0x06 newValue.toUInt32) audit

/-- `OPENOT_EncodeParameterChangeBits`. -/
def encodeParameterChangeBits (envelope : Envelope) (valueId : UInt32) (typeTag : UInt8)
    (payloadLength : UInt16) (previousBits newBits : UInt64) (audit : AuditInputs) :
    Option Encoded :=
  encodeParameterChange envelope valueId (valueSlotEncodedLength payloadLength)
    (valueSlotEncodedLength payloadLength) (bitsSlot 0x000F typeTag previousBits payloadLength)
    (bitsSlot 0x0010 typeTag newBits payloadLength) audit

/-- `OPENOT_EncodeParameterChangeString`. -/
def encodeParameterChangeString (envelope : Envelope) (valueId : UInt32)
    (previousValue newValue : String96) (audit : AuditInputs) : Option Encoded :=
  encodeParameterChange envelope valueId (valueSlotEncodedLength (len96 previousValue))
    (valueSlotEncodedLength (len96 newValue))
    (stringSlot 0x000F previousValue (len96 previousValue))
    (stringSlot 0x0010 newValue (len96 newValue)) audit

end OpenOT.St
