import OpenOT.Carriage.Wire

set_option relaxedAutoImplicit false
set_option autoImplicit false

/-!
# Registered identifiers

The event types, field keys and type tags of `registry.rs`, and the tables over them that the
schema validation and the resolution of records read.
-/

namespace OpenOT

/-- Source id reserved for logger lifecycle records. -/
def SYSTEM_SOURCE_ID : UInt32 := 0

/-! ## Event types -/

def EVENT_STATE_TRANSITION : UInt32 := 0x0001
def EVENT_VALUE_CHANGED : UInt32 := 0x0002
def EVENT_MESSAGE : UInt32 := 0x0003
def EVENT_HEARTBEAT : UInt32 := 0x0100
def EVENT_LOGGER_STARTED : UInt32 := 0x0101
def EVENT_LOGGER_STOPPED : UInt32 := 0x0102
def EVENT_BUFFER_CLEARED : UInt32 := 0x0103
def EVENT_RECORDS_DROPPED : UInt32 := 0x0104
def EVENT_SOURCE_REGISTERED : UInt32 := 0x0105
def EVENT_DEFINITION_CHANGED : UInt32 := 0x0106
def EVENT_TIME_SYNC_CHANGED : UInt32 := 0x0107
def EVENT_SOURCE_HIGH_WATER : UInt32 := 0x0108
def EVENT_CONDITION_ACTIVE : UInt32 := 0x0200
def EVENT_CONDITION_CLEARED : UInt32 := 0x0201
def EVENT_CONDITION_ACKNOWLEDGED : UInt32 := 0x0202
def EVENT_CONDITION_CONFIRMED : UInt32 := 0x0203
def EVENT_CONDITION_SHELVED : UInt32 := 0x0204
def EVENT_CONDITION_UNSHELVED : UInt32 := 0x0205
def EVENT_CONDITION_SUPPRESSED : UInt32 := 0x0206
def EVENT_CONDITION_UNSUPPRESSED : UInt32 := 0x0207
def EVENT_CONDITION_OUT_OF_SERVICE : UInt32 := 0x0208
def EVENT_CONDITION_IN_SERVICE : UInt32 := 0x0209
def EVENT_CONDITION_COMMENTED : UInt32 := 0x020A
def EVENT_CONDITION_RESET : UInt32 := 0x020B
def EVENT_CONDITION_PRIORITY_CHANGED : UInt32 := 0x020C
def EVENT_REFRESH_START : UInt32 := 0x020D
def EVENT_REFRESH_END : UInt32 := 0x020E
def EVENT_RECIPE_LOADED : UInt32 := 0x0301
def EVENT_RECIPE_APPROVED : UInt32 := 0x0302
def EVENT_BATCH_EVENT : UInt32 := 0x0303
def EVENT_MATERIAL_ADDITION : UInt32 := 0x0304
def EVENT_OPERATOR_ACTION : UInt32 := 0x0400
def EVENT_OPERATOR_LOGIN : UInt32 := 0x0401
def EVENT_OPERATOR_LOGOUT : UInt32 := 0x0402
def EVENT_PARAMETER_CHANGE : UInt32 := 0x0403
def EVENT_ESIGNATURE : UInt32 := 0x0404
def EVENT_SECURITY_ACCESS_FAILURE : UInt32 := 0x0405
def EVENT_PROGRAM_DOWNLOAD : UInt32 := 0x0406

/-! ## Field keys -/

def KEY_STATE_MACHINE_ID : UInt16 := 0x0001
def KEY_CATEGORY : UInt16 := 0x0002
def KEY_PREVIOUS_STATE : UInt16 := 0x0003
def KEY_NEW_STATE : UInt16 := 0x0004
def KEY_CONDITION_ID : UInt16 := 0x0005
def KEY_CONDITION_CLASS : UInt16 := 0x0006
def KEY_CORRELATION_ID : UInt16 := 0x0007
def KEY_SEVERITY : UInt16 := 0x0008
def KEY_CAUSE_OPERAND : UInt16 := 0x0009
def KEY_ACTION_ID : UInt16 := 0x000A
def KEY_ACTOR : UInt16 := 0x000B
def KEY_CONTEXT_REF : UInt16 := 0x000C
def KEY_VALUE_ID : UInt16 := 0x000D
def KEY_DATA_TYPE_RESERVED : UInt16 := 0x000E
def KEY_PREVIOUS_VALUE : UInt16 := 0x000F
def KEY_NEW_VALUE : UInt16 := 0x0010
def KEY_QUALITY : UInt16 := 0x0011
def KEY_SEMANTIC_ROLE : UInt16 := 0x0012
def KEY_UNIT : UInt16 := 0x0013
def KEY_MESSAGE_TEMPLATE_ID : UInt16 := 0x0014
def KEY_ARG : UInt16 := 0x0015
def KEY_COUNT : UInt16 := 0x0016
def KEY_DROPPED_COUNT : UInt16 := KEY_COUNT
def KEY_FIRST_LOST_SEQ : UInt16 := 0x0017
def KEY_LAST_LOST_SEQ : UInt16 := 0x0018
def KEY_WINDOW_START : UInt16 := 0x0019
def KEY_WINDOW_END : UInt16 := 0x001A
def KEY_SOURCE_PATH : UInt16 := 0x001B
def KEY_DEF_HASH_NEW : UInt16 := 0x001C
def KEY_ACK_BY : UInt16 := 0x001D
def KEY_SHELVE_SECS : UInt16 := 0x001E
def KEY_REASON : UInt16 := 0x001F
def KEY_AUTH_RESULT : UInt16 := 0x0020
def KEY_WORKSTATION : UInt16 := 0x0021
def KEY_SIGNATURE_MEANING : UInt16 := 0x0022
def KEY_RECIPE_ID : UInt16 := 0x0023
def KEY_RECIPE_VERSION : UInt16 := 0x0024
def KEY_BATCH_ID : UInt16 := 0x0025
def KEY_MATERIAL_ID : UInt16 := 0x0026
def KEY_QUANTITY : UInt16 := 0x0027
def KEY_PROGRAM_ID : UInt16 := 0x0028
def KEY_REGISTERED_SOURCE_ID : UInt16 := 0x0029
def KEY_INTERVAL_MS : UInt16 := 0x002A
def KEY_SEQ_BASE : UInt16 := 0x002B
def KEY_NEW_PRIORITY : UInt16 := 0x002C
def KEY_RESERVED_002D : UInt16 := 0x002D
def KEY_PREVIOUS_PRIORITY : UInt16 := 0x002E
def KEY_SIGNED_EVENT_SEQ : UInt16 := 0x002F
def KEY_EFFECTIVE_TIME : UInt16 := 0x0030
def KEY_CORRECTION_OF : UInt16 := 0x0031
def KEY_CLOCK_QUALITY : UInt16 := 0x0032
def KEY_ROLE : UInt16 := 0x0033
def KEY_REFRESH_ID : UInt16 := 0x0034
def KEY_GROUP_ID : UInt16 := 0x0035
def KEY_FIRST_IN_GROUP : UInt16 := 0x0036
def KEY_COMMENT : UInt16 := 0x0037
def KEY_PRODUCED_COUNT : UInt16 := 0x0038
def KEY_SOURCE_HIGH_WATER : UInt16 := KEY_PRODUCED_COUNT
def KEY_DEF_HASH_OLD : UInt16 := 0x0039
def KEY_EPOCH_ID : UInt16 := 0x003A
def KEY_COLD_START : UInt16 := 0x003B

/-! ## Type tags -/

def TY_BOOL : UInt8 := 0x00
def TY_SINT : UInt8 := 0x01
def TY_USINT : UInt8 := 0x02
def TY_UINT : UInt8 := 0x03
def TY_INT : UInt8 := 0x04
def TY_UDINT : UInt8 := 0x05
def TY_DINT : UInt8 := 0x06
def TY_ULINT : UInt8 := 0x07
def TY_LINT : UInt8 := 0x08
def TY_REAL : UInt8 := 0x09
def TY_LREAL : UInt8 := 0x0A
def TY_DATE_TIME : UInt8 := 0x0B
def TY_STRING : UInt8 := 0x0C
def TY_BYTES : UInt8 := 0x0D

/-! ## Tables -/

/-- The profile group of an event. -/
inductive EventGroup where
  | base
  | system
  | condition
  | procedural
  | regulated
  deriving DecidableEq

/-- An event of the registry. -/
structure EventSpec where
  id : UInt32
  name : String
  group : EventGroup

/-- The type rule of a field. -/
inductive FieldKind where
  /-- the type tag is fixed -/
  | fixed (ty : UInt8)
  /-- the type tag is that of the value logged -/
  | valuePayload
  /-- the key is reserved -/
  | reserved
  deriving DecidableEq

/-- A field key of the registry. -/
structure FieldSpec where
  key : UInt16
  name : String
  kind : FieldKind
  repeatable : Bool

/-- A type of the registry, with its payload width if that is fixed. -/
structure TlvTypeSpec where
  code : UInt8
  name : String
  fixedWidth : Option ℕ

/-- A value of an enumeration, with its label. -/
structure EnumValue where
  value : UInt16
  label : String
  deriving DecidableEq

/-- A procedural model, with its states. -/
structure ProceduralModelSpec where
  name : String
  states : List EnumValue

/-- The core events. -/
def EVENT_SPECS : List EventSpec := [
  ⟨EVENT_STATE_TRANSITION, "StateTransition", .base⟩,
  ⟨EVENT_VALUE_CHANGED, "ValueChanged", .base⟩,
  ⟨EVENT_MESSAGE, "Message", .base⟩,
  ⟨EVENT_HEARTBEAT, "Heartbeat", .system⟩,
  ⟨EVENT_LOGGER_STARTED, "LoggerStarted", .system⟩,
  ⟨EVENT_LOGGER_STOPPED, "LoggerStopped", .system⟩,
  ⟨EVENT_BUFFER_CLEARED, "BufferCleared", .system⟩,
  ⟨EVENT_RECORDS_DROPPED, "RecordsDropped", .system⟩,
  ⟨EVENT_SOURCE_REGISTERED, "SourceRegistered", .system⟩,
  ⟨EVENT_DEFINITION_CHANGED, "DefinitionChanged", .system⟩,
  ⟨EVENT_TIME_SYNC_CHANGED, "TimeSyncChanged", .system⟩,
  ⟨EVENT_SOURCE_HIGH_WATER, "SourceHighWater", .system⟩,
  ⟨EVENT_CONDITION_ACTIVE, "ConditionActive", .condition⟩,
  ⟨EVENT_CONDITION_CLEARED, "ConditionCleared", .condition⟩,
  ⟨EVENT_CONDITION_ACKNOWLEDGED, "ConditionAcknowledged", .condition⟩,
  ⟨EVENT_CONDITION_CONFIRMED, "ConditionConfirmed", .condition⟩,
  ⟨EVENT_CONDITION_SHELVED, "ConditionShelved", .condition⟩,
  ⟨EVENT_CONDITION_UNSHELVED, "ConditionUnshelved", .condition⟩,
  ⟨EVENT_CONDITION_SUPPRESSED, "ConditionSuppressed", .condition⟩,
  ⟨EVENT_CONDITION_UNSUPPRESSED, "ConditionUnsuppressed", .condition⟩,
  ⟨EVENT_CONDITION_OUT_OF_SERVICE, "ConditionOutOfService", .condition⟩,
  ⟨EVENT_CONDITION_IN_SERVICE, "ConditionInService", .condition⟩,
  ⟨EVENT_CONDITION_COMMENTED, "ConditionCommented", .condition⟩,
  ⟨EVENT_CONDITION_RESET, "ConditionReset", .condition⟩,
  ⟨EVENT_CONDITION_PRIORITY_CHANGED, "ConditionPriorityChanged", .condition⟩,
  ⟨EVENT_REFRESH_START, "RefreshStart", .condition⟩,
  ⟨EVENT_REFRESH_END, "RefreshEnd", .condition⟩,
  ⟨EVENT_RECIPE_LOADED, "RecipeLoaded", .procedural⟩,
  ⟨EVENT_RECIPE_APPROVED, "RecipeApproved", .procedural⟩,
  ⟨EVENT_BATCH_EVENT, "BatchEvent", .procedural⟩,
  ⟨EVENT_MATERIAL_ADDITION, "MaterialAddition", .procedural⟩,
  ⟨EVENT_OPERATOR_ACTION, "OperatorAction", .regulated⟩,
  ⟨EVENT_OPERATOR_LOGIN, "OperatorLogin", .regulated⟩,
  ⟨EVENT_OPERATOR_LOGOUT, "OperatorLogout", .regulated⟩,
  ⟨EVENT_PARAMETER_CHANGE, "ParameterChange", .regulated⟩,
  ⟨EVENT_ESIGNATURE, "ESignature", .regulated⟩,
  ⟨EVENT_SECURITY_ACCESS_FAILURE, "SecurityAccessFailure", .regulated⟩,
  ⟨EVENT_PROGRAM_DOWNLOAD, "ProgramDownload", .regulated⟩]

/-- The core fields. -/
def FIELD_SPECS : List FieldSpec := [
  ⟨KEY_STATE_MACHINE_ID, "stateMachineId", .fixed TY_UDINT, false⟩,
  ⟨KEY_CATEGORY, "category", .fixed TY_UINT, false⟩,
  ⟨KEY_PREVIOUS_STATE, "previousState", .fixed TY_UINT, false⟩,
  ⟨KEY_NEW_STATE, "newState", .fixed TY_UINT, false⟩,
  ⟨KEY_CONDITION_ID, "conditionId", .fixed TY_UDINT, false⟩,
  ⟨KEY_CONDITION_CLASS, "conditionClass", .fixed TY_UINT, false⟩,
  ⟨KEY_CORRELATION_ID, "correlationId", .fixed TY_UDINT, false⟩,
  ⟨KEY_SEVERITY, "severity", .fixed TY_UINT, false⟩,
  ⟨KEY_CAUSE_OPERAND, "causeOperand", .fixed TY_UDINT, true⟩,
  ⟨KEY_ACTION_ID, "actionId", .fixed TY_UDINT, false⟩,
  ⟨KEY_ACTOR, "actor", .fixed TY_STRING, false⟩,
  ⟨KEY_CONTEXT_REF, "contextRef", .fixed TY_UDINT, true⟩,
  ⟨KEY_VALUE_ID, "valueId", .fixed TY_UDINT, false⟩,
  ⟨KEY_DATA_TYPE_RESERVED, "dataType", .reserved, false⟩,
  ⟨KEY_PREVIOUS_VALUE, "previousValue", .valuePayload, false⟩,
  ⟨KEY_NEW_VALUE, "newValue", .valuePayload, false⟩,
  ⟨KEY_QUALITY, "quality", .fixed TY_UINT, false⟩,
  ⟨KEY_SEMANTIC_ROLE, "semanticRole", .fixed TY_UINT, false⟩,
  ⟨KEY_UNIT, "unit", .fixed TY_UINT, false⟩,
  ⟨KEY_MESSAGE_TEMPLATE_ID, "messageTemplateId", .fixed TY_UDINT, false⟩,
  ⟨KEY_ARG, "arg", .valuePayload, true⟩,
  ⟨KEY_COUNT, "count", .fixed TY_UDINT, false⟩,
  ⟨KEY_FIRST_LOST_SEQ, "firstLostSeq", .fixed TY_ULINT, false⟩,
  ⟨KEY_LAST_LOST_SEQ, "lastLostSeq", .fixed TY_ULINT, false⟩,
  ⟨KEY_WINDOW_START, "windowStart", .fixed TY_DATE_TIME, false⟩,
  ⟨KEY_WINDOW_END, "windowEnd", .fixed TY_DATE_TIME, false⟩,
  ⟨KEY_SOURCE_PATH, "sourcePath", .fixed TY_STRING, false⟩,
  ⟨KEY_DEF_HASH_NEW, "defHashNew", .fixed TY_BYTES, false⟩,
  ⟨KEY_ACK_BY, "ackBy", .fixed TY_STRING, false⟩,
  ⟨KEY_SHELVE_SECS, "shelveSecs", .fixed TY_UDINT, false⟩,
  ⟨KEY_REASON, "reason", .fixed TY_STRING, false⟩,
  ⟨KEY_AUTH_RESULT, "authResult", .fixed TY_UINT, false⟩,
  ⟨KEY_WORKSTATION, "workstation", .fixed TY_STRING, false⟩,
  ⟨KEY_SIGNATURE_MEANING, "signatureMeaning", .fixed TY_UINT, false⟩,
  ⟨KEY_RECIPE_ID, "recipeId", .fixed TY_UDINT, false⟩,
  ⟨KEY_RECIPE_VERSION, "recipeVersion", .fixed TY_STRING, false⟩,
  ⟨KEY_BATCH_ID, "batchId", .fixed TY_UDINT, false⟩,
  ⟨KEY_MATERIAL_ID, "materialId", .fixed TY_UDINT, false⟩,
  ⟨KEY_QUANTITY, "quantity", .fixed TY_LREAL, false⟩,
  ⟨KEY_PROGRAM_ID, "programId", .fixed TY_UDINT, false⟩,
  ⟨KEY_REGISTERED_SOURCE_ID, "registeredSourceId", .fixed TY_UDINT, false⟩,
  ⟨KEY_INTERVAL_MS, "intervalMs", .fixed TY_UDINT, false⟩,
  ⟨KEY_SEQ_BASE, "seqBase", .fixed TY_ULINT, false⟩,
  ⟨KEY_NEW_PRIORITY, "newPriority", .fixed TY_UINT, false⟩,
  ⟨KEY_RESERVED_002D, "reserved002D", .reserved, false⟩,
  ⟨KEY_PREVIOUS_PRIORITY, "previousPriority", .fixed TY_UINT, false⟩,
  ⟨KEY_SIGNED_EVENT_SEQ, "signedEventSeq", .fixed TY_ULINT, false⟩,
  ⟨KEY_EFFECTIVE_TIME, "effectiveTime", .fixed TY_DATE_TIME, false⟩,
  ⟨KEY_CORRECTION_OF, "correctionOf", .fixed TY_ULINT, false⟩,
  ⟨KEY_CLOCK_QUALITY, "clockQuality", .fixed TY_UINT, false⟩,
  ⟨KEY_ROLE, "role", .fixed TY_UINT, false⟩,
  ⟨KEY_REFRESH_ID, "refreshId", .fixed TY_UDINT, false⟩,
  ⟨KEY_GROUP_ID, "groupId", .fixed TY_UDINT, false⟩,
  ⟨KEY_FIRST_IN_GROUP, "firstInGroup", .fixed TY_BOOL, false⟩,
  ⟨KEY_COMMENT, "comment", .fixed TY_STRING, false⟩,
  ⟨KEY_PRODUCED_COUNT, "producedCount", .fixed TY_ULINT, false⟩,
  ⟨KEY_DEF_HASH_OLD, "defHashOld", .fixed TY_BYTES, false⟩,
  ⟨KEY_EPOCH_ID, "epochId", .fixed TY_ULINT, false⟩,
  ⟨KEY_COLD_START, "coldStart", .fixed TY_BOOL, false⟩]

/-- The types of slots. -/
def TLV_TYPE_SPECS : List TlvTypeSpec := [
  ⟨TY_BOOL, "Bool", some 1⟩,
  ⟨TY_SINT, "SInt", some 1⟩,
  ⟨TY_USINT, "USInt", some 1⟩,
  ⟨TY_UINT, "UInt", some 2⟩,
  ⟨TY_INT, "Int", some 2⟩,
  ⟨TY_UDINT, "UDInt", some 4⟩,
  ⟨TY_DINT, "DInt", some 4⟩,
  ⟨TY_ULINT, "ULInt", some 8⟩,
  ⟨TY_LINT, "LInt", some 8⟩,
  ⟨TY_REAL, "Real", some 4⟩,
  ⟨TY_LREAL, "LReal", some 8⟩,
  ⟨TY_DATE_TIME, "DateTime", some 8⟩,
  ⟨TY_STRING, "String", none⟩,
  ⟨TY_BYTES, "Bytes", none⟩]

/-- Categories of states. -/
def CATEGORY_VALUES : List EnumValue := [
  ⟨0, "ProcessState"⟩, ⟨1, "Mode"⟩, ⟨2, "Procedural"⟩]

/-- Results of an authorization. -/
def AUTH_RESULT_VALUES : List EnumValue := [
  ⟨0, "Granted"⟩, ⟨1, "Denied"⟩, ⟨2, "NotRequired"⟩, ⟨3, "Pending"⟩, ⟨4, "Expired"⟩]

/-- Meanings of a signature. -/
def SIGNATURE_MEANING_VALUES : List EnumValue := [
  ⟨0, "Authored"⟩, ⟨1, "Reviewed"⟩, ⟨2, "Approved"⟩, ⟨3, "Verified"⟩, ⟨4, "Performed"⟩,
  ⟨5, "Witnessed"⟩]

/-- The states of the first procedural model. -/
def PROCEDURAL_MODEL_A_STATES : List EnumValue := [
  ⟨0, "Idle"⟩, ⟨1, "Running"⟩, ⟨2, "Complete"⟩, ⟨3, "Pausing"⟩, ⟨4, "Paused"⟩, ⟨5, "Holding"⟩,
  ⟨6, "Held"⟩, ⟨7, "Restarting"⟩, ⟨8, "Stopping"⟩, ⟨9, "Stopped"⟩, ⟨10, "Aborting"⟩,
  ⟨11, "Aborted"⟩]

/-- The states of the second procedural model. -/
def PROCEDURAL_MODEL_B_STATES : List EnumValue := [
  ⟨0, "Idle"⟩, ⟨1, "Starting"⟩, ⟨2, "Execute"⟩, ⟨3, "Completing"⟩, ⟨4, "Complete"⟩,
  ⟨5, "Holding"⟩, ⟨6, "Held"⟩, ⟨7, "Unholding"⟩, ⟨8, "Suspending"⟩, ⟨9, "Suspended"⟩,
  ⟨10, "Unsuspending"⟩, ⟨11, "Stopping"⟩, ⟨12, "Stopped"⟩, ⟨13, "Aborting"⟩, ⟨14, "Aborted"⟩,
  ⟨15, "Clearing"⟩, ⟨16, "Resetting"⟩]

/-- The procedural models. -/
def PROCEDURAL_MODELS : List ProceduralModelSpec := [
  ⟨"ISA-88", PROCEDURAL_MODEL_A_STATES⟩,
  ⟨"PackML", PROCEDURAL_MODEL_B_STATES⟩]

/-! ## Lookups -/

/-- The entry of an event. -/
def eventSpec (id : UInt32) : Option EventSpec :=
  EVENT_SPECS.find? fun spec => decide (spec.id = id)

/-- The entry of a field key. -/
def fieldSpec (key : UInt16) : Option FieldSpec :=
  FIELD_SPECS.find? fun spec => decide (spec.key = key)

/-- The entry of a type tag. -/
def tlvTypeSpec (code : UInt8) : Option TlvTypeSpec :=
  TLV_TYPE_SPECS.find? fun spec => decide (spec.code = code)

/-- The key is in the core range. -/
def isCoreKey (key : UInt16) : Bool := decide (0x0001 ≤ key ∧ key ≤ 0x7FFF)

/-- The key is in the private extension range. -/
def isVendorKey (key : UInt16) : Bool := decide (0x8000 ≤ key)

/-- The bands of the severity scale. -/
inductive SeverityBand where
  | low
  | medium
  | high
  deriving DecidableEq

/-- The band of a severity. -/
def severityBand (severity : UInt16) : Option SeverityBand :=
  if 1 ≤ severity ∧ severity ≤ 332 then some .low
  else if 333 ≤ severity ∧ severity ≤ 666 then some .medium
  else if 667 ≤ severity ∧ severity ≤ 1000 then some .high
  else none

end OpenOT
