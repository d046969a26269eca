import OpenOT.Definition.Model

set_option relaxedAutoImplicit false
set_option autoImplicit false

/-!
# Schema validation

The checks of `schema.rs`: of a definition file in itself, and of a record against the schema of
its event.

## Main definitions

* `OpenOT.Schema.validateDefinition` — the checks of a definition file.
* `OpenOT.Schema.validateRecordSlots` — the slots of a record against the slots of an event.
* `OpenOT.Schema.validateRecord` — a record against a definition file.
-/

namespace OpenOT.Schema

open Rust

/-- The type tag reported for a slot without a fixed type. -/
def VALUE_PAYLOAD_SCHEMA_TYPE : UInt8 := 0xFF

/-- A defect of a definition file. -/
inductive DefinitionSchemaViolation where
  | duplicateEventId (id : UInt32)
  | duplicateSlotKey (eventId : UInt32) (key : UInt16)
  | orderClassNotAscending (eventId : UInt32) (previous current : UInt16)
  | coreTypeMismatch (eventId : UInt32) (key : UInt16) (actual expected : UInt8)
  | unknownTlvType (eventId : UInt32) (key : UInt16) (ty : UInt8)
  | reservedCoreKey (eventId : UInt32) (key : UInt16)
  | invalidMaxOccurs (eventId : UInt32) (key : UInt16)
  | unknownProceduralModel (stateMachineId : UInt32) (model : String)
  | missingEnumSet (stateMachineId : UInt32) (enumSet : String)
  | proceduralStateMismatch (stateMachineId : UInt32) (model : String) (value : UInt16)
      (label : String)
  deriving DecidableEq

/-- Why a record does not fit the schema of its event. -/
inductive SchemaViolation where
  | definition (reason : DefinitionSchemaViolation)
  | unknownEventId (id : UInt32)
  | recordTooLarge (actual max : ℕ)
  | tooManySlots (actual max : ℕ)
  | unexpectedCoreKey (key : UInt16)
  | vendorExtensionNotTrailing (key : UInt16)
  | vendorExtensionOutOfOrder (previous key : UInt16)
  | typeMismatch (key : UInt16) (actual expected : UInt8)
  | unknownTlvType (key : UInt16) (ty : UInt8)
  | reservedCoreKey (key : UInt16)
  | fixedWidthMismatch (key : UInt16) (ty : UInt8) (actual expected : ℕ)
  | missingRequired (key min : UInt16) (actual : ℕ)
  | tooManyOccurrences (key max : UInt16) (actual : ℕ)
  | repeatedSlotNotContiguous (key : UInt16)
  | orderClassViolation (previous current key : UInt16)
  | encode (error : WireError)
  deriving DecidableEq

/-- What is kept of a record that fails validation. -/
structure PlaceholderRecord where
  sourceId : UInt32
  eventTypeId : UInt32
  runId : UInt64
  seq : UInt64
  slots : List Slot
  reason : SchemaViolation
  deriving DecidableEq

/-- The result of validating a record. -/
inductive SchemaValidation where
  | valid (extensionKeys : List UInt16)
  | placeholder (record : PlaceholderRecord)
  deriving DecidableEq

/-! ## Definitions -/

/-- The bounds on how often a slot occurs. -/
def validateMaxOccurs (eventId : UInt32) (slot : SlotDefinition) :
    Except DefinitionSchemaViolation Unit :=
  match slot.maxOccurs with
  | .count max => if max < slot.minOccurs ∨ max = 0 then .error (.invalidMaxOccurs eventId slot.key)
    else .ok ()
  | .unbounded text => if text ≠ "unbounded" then .error (.invalidMaxOccurs eventId slot.key)
    else .ok ()

/-- The checks of a slot definition that is not a value payload. -/
def validateFixedSlot (eventId : UInt32) (slot : SlotDefinition) :
    Except DefinitionSchemaViolation Unit :=
  if slot.valuePayload then .error (.coreTypeMismatch eventId slot.key VALUE_PAYLOAD_SCHEMA_TYPE
    (slot.tlvType.getD VALUE_PAYLOAD_SCHEMA_TYPE))
  else
    match slot.tlvType with
    | none => .error (.unknownTlvType eventId slot.key VALUE_PAYLOAD_SCHEMA_TYPE)
    | some tlvType =>
      if (tlvTypeSpec tlvType).isNone then .error (.unknownTlvType eventId slot.key tlvType)
      else .ok ()

/-- The type of a slot definition, against the registry. -/
def validateSlotDefinitionType (eventId : UInt32) (slot : SlotDefinition) :
    Except DefinitionSchemaViolation Unit :=
  match fieldSpec slot.key with
  | some field =>
    match field.kind with
    | .fixed expected =>
      if slot.tlvType ≠ some expected ∨ slot.valuePayload then
        .error (.coreTypeMismatch eventId slot.key
          (slot.tlvType.getD VALUE_PAYLOAD_SCHEMA_TYPE) expected)
      else validateFixedSlot eventId slot
    | .valuePayload =>
      if !slot.valuePayload ∨ slot.tlvType.isSome then
        .error (.coreTypeMismatch eventId slot.key
          (slot.tlvType.getD VALUE_PAYLOAD_SCHEMA_TYPE) VALUE_PAYLOAD_SCHEMA_TYPE)
      else .ok ()
    | .reserved => .error (.reservedCoreKey eventId slot.key)
  | none =>
    if isCoreKey slot.key then .error (.reservedCoreKey eventId slot.key)
    else validateFixedSlot eventId slot

/-- The slots of an event definition, given the keys and the last order class so far. -/
def validateEventSlots (eventId : UInt32) :
    List SlotDefinition → List UInt16 → Option UInt16 → Except DefinitionSchemaViolation Unit
  | [], _, _ => .ok ()
  | slot :: slots, keys, previousOrderClass =>
    if slot.key ∈ keys then .error (.duplicateSlotKey eventId slot.key)
    else
      match previousOrderClass.filter fun previous => decide (slot.orderClass ≤ previous) with
      | some previous => .error (.orderClassNotAscending eventId previous slot.orderClass)
      | none => do
        validateMaxOccurs eventId slot
        validateSlotDefinitionType eventId slot
        validateEventSlots eventId slots (keys ++ [slot.key]) (some slot.orderClass)

/-- The checks of an event definition. -/
def validateEventDefinition (event : EventTypeDefinition) : Except DefinitionSchemaViolation Unit :=
  validateEventSlots event.id event.slots [] none

/-- The event definitions, given the ids so far. -/
def validateEventTypes :
    List EventTypeDefinition → List UInt32 → Except DefinitionSchemaViolation Unit
  | [], _ => .ok ()
  | event :: events, eventIds =>
    if event.id ∈ eventIds then .error (.duplicateEventId event.id)
    else do
      validateEventDefinition event
      validateEventTypes events (eventIds ++ [event.id])

/-- `eq_ignore_ascii_case`. -/
def eqIgnoreAsciiCase (a b : String) : Bool := decide (a.map Char.toLower = b.map Char.toLower)

/-- The members of the enumeration of a procedural state machine, against the model. -/
def validateMembers (stateMachineId : UInt32) (model : ProceduralModelSpec) :
    List EnumValue → Except DefinitionSchemaViolation Unit
  | [] => .ok ()
  | member :: members =>
    if member ∈ model.states then validateMembers stateMachineId model members
    else .error (.proceduralStateMismatch stateMachineId model.name member.value member.label)

/-- One state machine, against the procedural model it names. -/
def validateStateMachineModel (definition : DefinitionFile) (machine : StateMachineDefinition) :
    Except DefinitionSchemaViolation Unit :=
  match machine.proceduralModel with
  | none => .ok ()
  | some modelName =>
    match PROCEDURAL_MODELS.find? fun model => eqIgnoreAsciiCase model.name modelName with
    | none => .error (.unknownProceduralModel machine.stateMachineId modelName)
    | some model =>
      match definition.enumSets.find? fun enumSet => decide (enumSet.name = machine.enumSet) with
      | none => .error (.missingEnumSet machine.stateMachineId machine.enumSet)
      | some enumSet => validateMembers machine.stateMachineId model enumSet.members

/-- The checks of a definition file. -/
def validateDefinition (definition : DefinitionFile) : Except DefinitionSchemaViolation Unit := do
  validateEventTypes definition.eventTypes []
  definition.stateMachines.forM (validateStateMachineModel definition)

/-! ## Slots -/

/-- The type of a slot of a record. -/
def validateRecordSlotType (slot : Slot) (schema : SlotDefinition) : Except SchemaViolation Unit :=
  match fieldSpec slot.key with
  | some field =>
    match field.kind with
    | .valuePayload => if (tlvTypeSpec slot.ty).isNone then .error (.unknownTlvType slot.key slot.ty)
      else .ok ()
    | .fixed expected =>
      if slot.ty ≠ expected then .error (.typeMismatch slot.key slot.ty expected) else .ok ()
    | .reserved => .error (.reservedCoreKey slot.key)
  | none =>
    if isCoreKey slot.key then .error (.reservedCoreKey slot.key)
    else if some slot.ty ≠ schema.tlvType then
      .error (.typeMismatch slot.key slot.ty (schema.tlvType.getD VALUE_PAYLOAD_SCHEMA_TYPE))
    else .ok ()

/-- The value id of a record: its first slot of that key with four bytes. -/
def recordValueId (record : Record) : Option UInt32 :=
  (record.slots.find? fun slot =>
    decide (slot.key = KEY_VALUE_ID ∧ slot.payload.length = 4)).map fun slot =>
      UInt32.ofNat (fromLe slot.payload)

/-- The type of a value payload, against the value the record names. -/
def validateValuePayloadType (slot : Slot) (record : Record) (definition : DefinitionFile) :
    Except SchemaViolation Unit :=
  if ¬(slot.key = KEY_PREVIOUS_VALUE ∨ slot.key = KEY_NEW_VALUE) then .ok ()
  else
    match recordValueId record with
    | none => .ok ()
    | some valueId =>
      match definition.values.find? fun value => decide (value.valueId = valueId) with
      | none => .ok ()
      | some value =>
        if slot.ty ≠ value.dataType then .error (.typeMismatch slot.key slot.ty value.dataType)
        else .ok ()

/-- The length of a payload, against its type. -/
def validatePayloadWidth (slot : Slot) : Except SchemaViolation Unit :=
  match tlvTypeSpec slot.ty with
  | none => .error (.unknownTlvType slot.key slot.ty)
  | some spec =>
    match spec.fixedWidth with
    | some expected =>
      if slot.payload.length ≠ expected then
        .error (.fixedWidthMismatch slot.key slot.ty slot.payload.length expected)
      else if slot.payload = [] ∧ ¬(slot.ty = TY_STRING ∨ slot.ty = TY_BYTES) then
        .error (.fixedWidthMismatch slot.key slot.ty 0 expected)
      else .ok ()
    | none =>
      if slot.payload = [] ∧ ¬(slot.ty = TY_STRING ∨ slot.ty = TY_BYTES) then
        .error (.fixedWidthMismatch slot.key slot.ty 0 1)
      else .ok ()

/-- What the walk over the slots of a record has seen. -/
structure SlotWalk where
  counts : Std.TreeMap UInt16 ℕ
  positions : Std.TreeMap UInt16 (List ℕ)
  knownOrder : List (UInt16 × UInt16)
  extensionKeys : List UInt16
  previousVendorKey : Option UInt16
  sawVendorExtension : Bool

/-- `schema_by_key`: of two slots with one key the later one. -/
def schemaByKey (event : EventTypeDefinition) (key : UInt16) : Option SlotDefinition :=
  event.slots.reverse.find? fun slot => decide (slot.key = key)

/-- A slot of the schema at an index. -/
def SlotWalk.known (walk : SlotWalk) (schema : SlotDefinition) (index : ℕ) (slot : Slot) :
    SlotWalk :=
  { walk with
    knownOrder := walk.knownOrder ++ [(schema.orderClass, slot.key)]
    counts := walk.counts.insert slot.key (walk.counts.getD slot.key 0 + 1)
    positions := walk.positions.insert slot.key (walk.positions.getD slot.key [] ++ [index]) }

/-- A slot of the private extension. -/
def SlotWalk.extension (walk : SlotWalk) (slot : Slot) : SlotWalk :=
  { walk with
    sawVendorExtension := true
    previousVendorKey := some slot.key
    extensionKeys := walk.extensionKeys ++ [slot.key] }

/-- The walk over the slots of a record. -/
def walkSlots (record : Record) (event : EventTypeDefinition) (definition : DefinitionFile) :
    ℕ → List Slot → SlotWalk → Except SchemaViolation SlotWalk
  | _, [], walk => .ok walk
  | index, slot :: slots, walk =>
    match schemaByKey event slot.key with
    | some schema =>
      if walk.sawVendorExtension then .error (.vendorExtensionNotTrailing slot.key)
      else do
        validateRecordSlotType slot schema
        validateValuePayloadType slot record definition
        validatePayloadWidth slot
        walkSlots record event definition (index + 1) slots (walk.known schema index slot)
    | none =>
      if isVendorKey slot.key then
        match walk.previousVendorKey.filter fun previous => decide (slot.key ≤ previous) with
        | some previous => .error (.vendorExtensionOutOfOrder previous slot.key)
        | none => walkSlots record event definition (index + 1) slots (walk.extension slot)
      else .error (.unexpectedCoreKey slot.key)

/-- Each position is one behind the one before it. -/
def isContiguous : List ℕ → Bool
  | first :: second :: positions =>
    decide (second = first + 1) && isContiguous (second :: positions)
  | _ => true

/-- The order classes of the known slots do not go down. -/
def checkOrder : List (UInt16 × UInt16) → Option UInt16 → Except SchemaViolation Unit
  | [], _ => .ok ()
  | (orderClass, key) :: known, previousOrderClass =>
    match previousOrderClass.filter fun previous => decide (orderClass < previous) with
    | some previous => .error (.orderClassViolation previous orderClass key)
    | none => checkOrder known (some orderClass)

/-- The upper bound, if a number of occurrences is above it. -/
def exceeded (maxOccurs : MaxOccurs) (actual : ℕ) : Option UInt16 :=
  match maxOccurs with
  | .count max => if max.toNat < actual then some max else none
  | .unbounded _ => none

/-- How often each slot of the schema occurs. -/
def checkOccurrences (counts : Std.TreeMap UInt16 ℕ) :
    List SlotDefinition → Except SchemaViolation Unit
  | [] => .ok ()
  | schema :: schemas =>
    let actual := counts.getD schema.key 0
    if actual < schema.minOccurs.toNat then
      .error (.missingRequired schema.key schema.minOccurs actual)
    else
      match exceeded schema.maxOccurs actual with
      | some max => .error (.tooManyOccurrences schema.key max actual)
      | none => checkOccurrences counts schemas

/-- The slots of a record against the slots of its event; returns the keys of the private
extension. -/
def validateRecordSlots (record : Record) (event : EventTypeDefinition)
    (definition : DefinitionFile) : Except SchemaViolation (List UInt16) := do
  let walk ← walkSlots record event definition 0 record.slots ⟨∅, ∅, [], [], none, false⟩
  match walk.positions.toList.find? fun entry => !isContiguous entry.2 with
  | some (key, _) => .error (.repeatedSlotNotContiguous key)
  | none => do
    checkOrder walk.knownOrder none
    checkOccurrences walk.counts event.slots
    pure walk.extensionKeys

/-! ## Records -/

/-- What is kept of a record. -/
def schemaPlaceholder (record : Record) (reason : SchemaViolation) : SchemaValidation :=
  .placeholder ⟨record.sourceId, record.eventTypeId, record.runId, record.seq, record.slots, reason⟩

/-- The schema of the event of a record: the first with its id. -/
def eventOf (definition : DefinitionFile) (record : Record) :
    Option EventTypeDefinition :=
  definition.eventTypes.find? fun event => decide (event.id = record.eventTypeId)

/-- One record against a definition file. -/
def validateRecord (record : Record) (recordLen : ℕ) (definition : DefinitionFile) :
    SchemaValidation :=
  match validateDefinition definition with
  | .error reason => schemaPlaceholder record (.definition reason)
  | .ok () =>
    if definition.header.constraints.maxRecordSize.toNat < recordLen then
      schemaPlaceholder record
        (.recordTooLarge recordLen definition.header.constraints.maxRecordSize.toNat)
    else if definition.header.constraints.maxSlots.toNat < record.slots.length then
      schemaPlaceholder record
        (.tooManySlots record.slots.length definition.header.constraints.maxSlots.toNat)
    else
      match eventOf definition record with
      | none => schemaPlaceholder record (.unknownEventId record.eventTypeId)
      | some event =>
        match validateRecordSlots record event definition with
        | .ok extensionKeys => .valid extensionKeys
        | .error reason => schemaPlaceholder record reason

/-- The encoded length of a record, by its CRC flag. -/
def encodedRecordLen (record : Record) : Outcome WireError ℕ := do
  let bytes ← record.encode (record.flags &&& FLAG_HAS_CRC != 0)
  pure bytes.length

end OpenOT.Schema
