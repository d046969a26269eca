import OpenOT.Carriage.Registry

set_option relaxedAutoImplicit false
set_option autoImplicit false

/-!
# Definition files

The content of a definition file as `model.rs` has it, and the canonical event schemas.

## Main definitions

* `OpenOT.DefinitionFile` — a definition file.
* `OpenOT.canonicalEventType`, `OpenOT.canonicalEventTypes` — the schemas of the reference
  vocabulary.
-/

namespace OpenOT

/-! ## Content -/

/-- Upper bound of occurrences: a number, or a text that should be `unbounded`. -/
inductive MaxOccurs where
  | count (max : UInt16)
  | unbounded (text : String)
  deriving DecidableEq

/-- One slot of an event schema. -/
structure SlotDefinition where
  key : UInt16
  tlvType : Option UInt8
  valuePayload : Bool
  minOccurs : UInt16
  maxOccurs : MaxOccurs
  orderClass : UInt16
  deriving DecidableEq

/-- The schema of an event. -/
structure EventTypeDefinition where
  id : UInt32
  name : String
  profile : String
  slots : List SlotDefinition
  deriving DecidableEq

/-- What a source is. -/
structure SourceDefinition where
  sourceId : UInt32
  name : String
  path : List String
  hierarchy : List String
  dynamic : Bool
  deriving DecidableEq

/-- A state machine. -/
structure StateMachineDefinition where
  stateMachineId : UInt32
  name : String
  category : UInt16
  proceduralModel : Option String
  enumSet : String
  deriving DecidableEq

/-- An operand of the cause of a condition. -/
structure CauseOperandDefinition where
  operandId : UInt32
  name : String
  deriving DecidableEq

/-- A condition. -/
structure ConditionDefinition where
  conditionId : UInt32
  name : String
  conditionClass : UInt16
  defaultSeverity : UInt16
  causeOperands : List CauseOperandDefinition
  deriving DecidableEq

/-- A message template. -/
structure MessageTemplateDefinition where
  messageTemplateId : UInt32
  name : String
  format : String
  argTypes : List UInt8
  deriving DecidableEq

/-- A decimal as an integer and a power of ten. -/
structure ScaledInteger where
  value : Int64
  scale : UInt32
  deriving DecidableEq

/-- A deadband, as a decimal text or a scaled integer. -/
structure Deadband where
  decimal : Option String
  scaled : Option ScaledInteger
  deriving DecidableEq

/-- A value. -/
structure ValueDefinition where
  valueId : UInt32
  name : String
  dataType : UInt8
  semanticRole : UInt16
  unit : Option UInt16
  deadband : Option Deadband
  samplingPolicy : Option String
  deriving DecidableEq

/-- A unit, with its symbol. -/
structure UnitDefinition where
  unitId : UInt16
  symbol : String
  deriving DecidableEq

/-- A recipe. -/
structure RecipeDefinition where
  recipeId : UInt32
  name : String
  version : Option String
  deriving DecidableEq

/-- A batch. -/
structure BatchDefinition where
  batchId : UInt32
  name : String
  recipe : Option UInt32
  deriving DecidableEq

/-- A material. -/
structure MaterialDefinition where
  materialId : UInt32
  name : String
  unit : Option UInt16
  deriving DecidableEq

/-- An operator. -/
structure OperatorDefinition where
  actor : String
  name : String
  roles : List String
  deriving DecidableEq

/-- A meaning of an electronic signature. -/
structure ESignatureMeaningDefinition where
  meaning : UInt16
  label : String
  deriving DecidableEq

/-- A named set of enumeration members. -/
structure EnumSetDefinition where
  name : String
  members : List EnumValue
  deriving DecidableEq

/-- An inclusive range of severities. -/
structure SeverityBandDefinition where
  min : UInt16
  max : UInt16
  deriving DecidableEq

/-- The severity scale. -/
structure SeverityScale where
  name : String
  low : SeverityBandDefinition
  medium : SeverityBandDefinition
  high : SeverityBandDefinition
  deriving DecidableEq

/-- What a producer says it does. -/
structure DefinitionCaps where
  crc : Bool
  sourceHighWater : Bool
  deriving DecidableEq

/-- What a producer does when the ring is full. -/
inductive OverflowPolicy where
  | overwriteOldest
  | dropNewest
  | holdProducer
  deriving DecidableEq

/-- Whether records of the prior epoch are kept. -/
inductive EpochStrategy where
  | retain
  | clear
  deriving DecidableEq

/-- Limits on records. -/
structure DefinitionConstraints where
  maxRecordSize : UInt16
  maxSlots : UInt16
  overflowPolicy : OverflowPolicy
  deriving DecidableEq

/-- The header of a definition file. -/
structure DefinitionHeader where
  wireVersion : UInt16
  semanticVersion : String
  profiles : List String
  conformanceLevel : String
  caps : DefinitionCaps
  constraints : DefinitionConstraints
  epochStrategy : EpochStrategy
  contentHash : String
  deriving DecidableEq

/-- A definition file. -/
structure DefinitionFile where
  header : DefinitionHeader
  eventTypes : List EventTypeDefinition
  sources : List SourceDefinition
  stateMachines : List StateMachineDefinition
  conditions : List ConditionDefinition
  messageTemplates : List MessageTemplateDefinition
  values : List ValueDefinition
  units : List UnitDefinition
  enumSets : List EnumSetDefinition
  recipeDefinitions : List RecipeDefinition
  batchDefinitions : List BatchDefinition
  materialDefinitions : List MaterialDefinition
  operatorDefinitions : List OperatorDefinition
  eSignatureMeanings : List ESignatureMeaningDefinition
  severityScale : SeverityScale
  deriving DecidableEq

/-! ## Canonical schemas -/

namespace SlotDefinition

/-- A slot of a fixed type. -/
def slot (key : UInt16) (tlvType : UInt8) (minOccurs : UInt16) (maxOccurs : MaxOccurs)
    (orderClass : UInt16) : SlotDefinition :=
  ⟨key, some tlvType, false, minOccurs, maxOccurs, orderClass⟩

/-- A slot of the type of the value logged. -/
def valueSlot (key : UInt16) (minOccurs : UInt16) (maxOccurs : MaxOccurs) (orderClass : UInt16) :
    SlotDefinition :=
  ⟨key, none, true, minOccurs, maxOccurs, orderClass⟩

end SlotDefinition

open SlotDefinition in
/-- The slots of an event of the reference vocabulary. -/
def canonicalSlots (id : UInt32) : Option (List SlotDefinition) :=
  if id = EVENT_STATE_TRANSITION then some [
      slot KEY_STATE_MACHINE_ID TY_UDINT 1 (.count 1) 1,
      slot KEY_CATEGORY TY_UINT 1 (.count 1) 2,
      slot KEY_PREVIOUS_STATE TY_UINT 1 (.count 1) 3,
      slot KEY_NEW_STATE TY_UINT 1 (.count 1) 4]
  else if id = EVENT_VALUE_CHANGED then some [
      slot KEY_VALUE_ID TY_UDINT 1 (.count 1) 1,
      valueSlot KEY_NEW_VALUE 1 (.count 1) 2,
      valueSlot KEY_PREVIOUS_VALUE 0 (.count 1) 3,
      slot KEY_QUALITY TY_UINT 0 (.count 1) 4,
      slot KEY_SEMANTIC_ROLE TY_UINT 0 (.count 1) 5,
      slot KEY_UNIT TY_UINT 0 (.count 1) 6]
  else if id = EVENT_MESSAGE then some [
      slot KEY_MESSAGE_TEMPLATE_ID TY_UDINT 1 (.count 1) 1,
      valueSlot KEY_ARG 0 (.unbounded "unbounded") 2,
      slot KEY_SEVERITY TY_UINT 0 (.count 1) 3]
  else if id = EVENT_HEARTBEAT then some [
      slot KEY_INTERVAL_MS TY_UDINT 0 (.count 1) 1,
      slot KEY_SEQ_BASE TY_ULINT 0 (.count 1) 2]
  else if id = EVENT_LOGGER_STARTED then some [
      slot KEY_COLD_START TY_BOOL 1 (.count 1) 1]
  else if id = EVENT_LOGGER_STOPPED ∨ id = EVENT_BUFFER_CLEARED then some []
  else if id = EVENT_RECORDS_DROPPED then some [
      slot KEY_DROPPED_COUNT TY_UDINT 1 (.count 1) 1,
      slot KEY_FIRST_LOST_SEQ TY_ULINT 1 (.count 1) 2,
      slot KEY_LAST_LOST_SEQ TY_ULINT 1 (.count 1) 3,
      slot KEY_WINDOW_START TY_DATE_TIME 0 (.count 1) 4,
      slot KEY_WINDOW_END TY_DATE_TIME 0 (.count 1) 5]
  else if id = EVENT_SOURCE_REGISTERED then some [
      slot KEY_REGISTERED_SOURCE_ID TY_UDINT 1 (.count 1) 1,
      slot KEY_SOURCE_PATH TY_STRING 0 (.count 1) 2]
  else if id = EVENT_DEFINITION_CHANGED then some [
      slot KEY_DEF_HASH_OLD TY_BYTES 1 (.count 1) 1,
      slot KEY_DEF_HASH_NEW TY_BYTES 1 (.count 1) 2,
      slot KEY_EPOCH_ID TY_ULINT 1 (.count 1) 3]
  else if id = EVENT_TIME_SYNC_CHANGED then some [
      slot KEY_CLOCK_QUALITY TY_UINT 1 (.count 1) 1,
      slot KEY_WINDOW_START TY_DATE_TIME 0 (.count 1) 2,
      slot KEY_WINDOW_END TY_DATE_TIME 0 (.count 1) 3]
  else if id = EVENT_SOURCE_HIGH_WATER then some [
      slot KEY_SOURCE_HIGH_WATER TY_ULINT 1 (.count 1) 1]
  else if id = EVENT_CONDITION_ACTIVE then some [
      slot KEY_CONDITION_ID TY_UDINT 1 (.count 1) 1,
      slot KEY_CONDITION_CLASS TY_UINT 1 (.count 1) 2,
      slot KEY_CORRELATION_ID TY_UDINT 1 (.count 1) 3,
      slot KEY_SEVERITY TY_UINT 0 (.count 1) 4,
      slot KEY_CAUSE_OPERAND TY_UDINT 0 (.unbounded "unbounded") 5,
      slot KEY_GROUP_ID TY_UDINT 0 (.count 1) 6,
      slot KEY_FIRST_IN_GROUP TY_BOOL 0 (.count 1) 7,
      slot KEY_REFRESH_ID TY_UDINT 0 (.count 1) 8]
  else if id = EVENT_CONDITION_CLEARED then some [
      slot KEY_CONDITION_ID TY_UDINT 1 (.count 1) 1,
      slot KEY_CONDITION_CLASS TY_UINT 1 (.count 1) 2,
      slot KEY_CORRELATION_ID TY_UDINT 1 (.count 1) 3,
      slot KEY_REFRESH_ID TY_UDINT 0 (.count 1) 4]
  else if id = EVENT_CONDITION_ACKNOWLEDGED ∨ id = EVENT_CONDITION_CONFIRMED then some [
      slot KEY_CONDITION_ID TY_UDINT 1 (.count 1) 1,
      slot KEY_CORRELATION_ID TY_UDINT 1 (.count 1) 2,
      slot KEY_ACK_BY TY_STRING 0 (.count 1) 3,
      slot KEY_REFRESH_ID TY_UDINT 0 (.count 1) 4]
  else if id = EVENT_CONDITION_SHELVED then some [
      slot KEY_CONDITION_ID TY_UDINT 1 (.count 1) 1,
      slot KEY_CORRELATION_ID TY_UDINT 1 (.count 1) 2,
      slot KEY_ACK_BY TY_STRING 0 (.count 1) 3,
      slot KEY_SHELVE_SECS TY_UDINT 0 (.count 1) 4,
      slot KEY_REFRESH_ID TY_UDINT 0 (.count 1) 5]
  else if id = EVENT_CONDITION_UNSHELVED then some [
      slot KEY_CONDITION_ID TY_UDINT 1 (.count 1) 1,
      slot KEY_CORRELATION_ID TY_UDINT 1 (.count 1) 2,
      slot KEY_REFRESH_ID TY_UDINT 0 (.count 1) 3]
  else if id = EVENT_CONDITION_SUPPRESSED then some [
      slot KEY_CONDITION_ID TY_UDINT 1 (.count 1) 1,
      slot KEY_REASON TY_STRING 0 (.count 1) 2,
      slot KEY_REFRESH_ID TY_UDINT 0 (.count 1) 3]
  else if id = EVENT_CONDITION_UNSUPPRESSED ∨ id = EVENT_CONDITION_IN_SERVICE then some [
      slot KEY_CONDITION_ID TY_UDINT 1 (.count 1) 1,
      slot KEY_REFRESH_ID TY_UDINT 0 (.count 1) 2]
  else if id = EVENT_CONDITION_OUT_OF_SERVICE then some [
      slot KEY_CONDITION_ID TY_UDINT 1 (.count 1) 1,
      slot KEY_ACK_BY TY_STRING 0 (.count 1) 2,
      slot KEY_REFRESH_ID TY_UDINT 0 (.count 1) 3]
  else if id = EVENT_CONDITION_COMMENTED then some [
      slot KEY_CONDITION_ID TY_UDINT 1 (.count 1) 1,
      slot KEY_CORRELATION_ID TY_UDINT 1 (.count 1) 2,
      slot KEY_COMMENT TY_STRING 1 (.count 1) 3,
      slot KEY_ACK_BY TY_STRING 0 (.count 1) 4,
      slot KEY_REFRESH_ID TY_UDINT 0 (.count 1) 5]
  else if id = EVENT_CONDITION_RESET then some [
      slot KEY_CONDITION_ID TY_UDINT 1 (.count 1) 1,
      slot KEY_CORRELATION_ID TY_UDINT 1 (.count 1) 2,
      slot KEY_ACK_BY TY_STRING 0 (.count 1) 3,
      slot KEY_REFRESH_ID TY_UDINT 0 (.count 1) 4]
  else if id = EVENT_CONDITION_PRIORITY_CHANGED then some [
      slot KEY_CONDITION_ID TY_UDINT 1 (.count 1) 1,
      slot KEY_PREVIOUS_PRIORITY TY_UINT 1 (.count 1) 2,
      slot KEY_NEW_PRIORITY TY_UINT 1 (.count 1) 3,
      slot KEY_ACK_BY TY_STRING 0 (.count 1) 4,
      slot KEY_REFRESH_ID TY_UDINT 0 (.count 1) 5]
  else if id = EVENT_REFRESH_START ∨ id = EVENT_REFRESH_END then some [
      slot KEY_REFRESH_ID TY_UDINT 1 (.count 1) 1]
  else if id = EVENT_RECIPE_LOADED then some [
      slot KEY_RECIPE_ID TY_UDINT 1 (.count 1) 1,
      slot KEY_RECIPE_VERSION TY_STRING 1 (.count 1) 2,
      slot KEY_BATCH_ID TY_UDINT 0 (.count 1) 3,
      slot KEY_EFFECTIVE_TIME TY_DATE_TIME 0 (.count 1) 4]
  else if id = EVENT_RECIPE_APPROVED then some [
      slot KEY_RECIPE_ID TY_UDINT 1 (.count 1) 1,
      slot KEY_RECIPE_VERSION TY_STRING 1 (.count 1) 2,
      slot KEY_AUTH_RESULT TY_UINT 0 (.count 1) 3,
      slot KEY_ACK_BY TY_STRING 0 (.count 1) 4]
  else if id = EVENT_BATCH_EVENT then some [
      slot KEY_BATCH_ID TY_UDINT 1 (.count 1) 1,
      slot KEY_NEW_STATE TY_UINT 1 (.count 1) 2,
      slot KEY_RECIPE_ID TY_UDINT 0 (.count 1) 3]
  else if id = EVENT_MATERIAL_ADDITION then some [
      slot KEY_BATCH_ID TY_UDINT 1 (.count 1) 1,
      slot KEY_MATERIAL_ID TY_UDINT 1 (.count 1) 2,
      slot KEY_QUANTITY TY_LREAL 1 (.count 1) 3,
      slot KEY_UNIT TY_UINT 0 (.count 1) 4,
      slot KEY_CORRECTION_OF TY_ULINT 0 (.count 1) 5]
  else if id = EVENT_OPERATOR_ACTION then some [
      slot KEY_ACTION_ID TY_UDINT 1 (.count 1) 1,
      slot KEY_ACTOR TY_STRING 1 (.count 1) 2,
      slot KEY_CONTEXT_REF TY_UDINT 0 (.unbounded "unbounded") 3,
      slot KEY_AUTH_RESULT TY_UINT 0 (.count 1) 4,
      slot KEY_WORKSTATION TY_STRING 0 (.count 1) 5]
  else if id = EVENT_OPERATOR_LOGIN then some [
      slot KEY_ACTOR TY_STRING 1 (.count 1) 1,
      slot KEY_AUTH_RESULT TY_UINT 1 (.count 1) 2,
      slot KEY_WORKSTATION TY_STRING 0 (.count 1) 3,
      slot KEY_ROLE TY_UINT 0 (.count 1) 4]
  else if id = EVENT_OPERATOR_LOGOUT then some [
      slot KEY_ACTOR TY_STRING 1 (.count 1) 1,
      slot KEY_WORKSTATION TY_STRING 0 (.count 1) 2]
  else if id = EVENT_PARAMETER_CHANGE then some [
      slot KEY_VALUE_ID TY_UDINT 1 (.count 1) 1,
      valueSlot KEY_PREVIOUS_VALUE 1 (.count 1) 2,
      valueSlot KEY_NEW_VALUE 1 (.count 1) 3,
      slot KEY_ACTOR TY_STRING 1 (.count 1) 4,
      slot KEY_REASON TY_STRING 1 (.count 1) 5,
      slot KEY_AUTH_RESULT TY_UINT 0 (.count 1) 6]
  else if id = EVENT_ESIGNATURE then some [
      slot KEY_ACTION_ID TY_UDINT 1 (.count 1) 1,
      slot KEY_ACTOR TY_STRING 1 (.count 1) 2,
      slot KEY_SIGNATURE_MEANING TY_UINT 1 (.count 1) 3,
      slot KEY_SIGNED_EVENT_SEQ TY_ULINT 1 (.count 1) 4,
      slot KEY_AUTH_RESULT TY_UINT 0 (.count 1) 5]
  else if id = EVENT_SECURITY_ACCESS_FAILURE then some [
      slot KEY_ACTOR TY_STRING 1 (.count 1) 1,
      slot KEY_WORKSTATION TY_STRING 0 (.count 1) 2,
      slot KEY_REASON TY_STRING 0 (.count 1) 3]
  else if id = EVENT_PROGRAM_DOWNLOAD then some [
      slot KEY_DEF_HASH_NEW TY_BYTES 1 (.count 1) 1,
      slot KEY_PROGRAM_ID TY_UDINT 1 (.count 1) 2,
      slot KEY_ACTOR TY_STRING 1 (.count 1) 3,
      slot KEY_AUTH_RESULT TY_UINT 0 (.count 1) 4]
  else none

/-- The schema of an event of the reference vocabulary. -/
def canonicalEventType (id : UInt32) : Option EventTypeDefinition := do
  let slots ← canonicalSlots id
  let spec ← eventSpec id
  pure {
    id := id
    name := spec.name
    profile := if spec.group = .base then "Core" else "Full"
    slots := slots }

/-- The schemas of all events of the registry; `none` if one had no schema. -/
def canonicalEventTypes : Option (List EventTypeDefinition) :=
  EVENT_SPECS.mapM fun spec => canonicalEventType spec.id

end OpenOT
