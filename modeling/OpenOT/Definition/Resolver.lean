import OpenOT.Definition.Schema
import OpenOT.Carriage.Epoch

set_option relaxedAutoImplicit false
set_option autoImplicit false

/-!
# Resolving records

The definition hash of `hash.rs` and the record resolver of `resolver.rs`: the definition is
selected by the position of the record, its hash is compared with the one of the control block,
the record is validated, and its slots become named and typed fields.

## Main definitions

* `OpenOT.computeContentHash` — the hash of a definition.
* `OpenOT.resolveSlots` — the slots of a record as fields.
* `OpenOT.resolveRecord` — a record, its position, a snapshot and the definitions at hand.

## Main results

* `OpenOT.resolveRecord_resolved` — what a resolved record was resolved against.

## Design

Canonical JSON and SHA-256 come from other packages: `OpenOT.Hashing` stands for them. Floating
point values are kept as their bits. The indexing and `expect` of the value decoder are panics.
-/

namespace OpenOT

open Rust

/-! ## Definition hashes -/

/-- What the hash is built from: canonical JSON of a definition, or an error text, and SHA-256. -/
structure Hashing where
  toVec : DefinitionFile → Except String Bytes
  digest : Bytes → Vector UInt8 32

/-- The full and the truncated hash of a definition. -/
structure ContentHash where
  contentHash : String
  carriageHash : DefinitionHash
  deriving DecidableEq

/-- Errors of hashing a definition. -/
inductive DefinitionError where
  | json (message : String)
  | canonical (message : String)
  deriving DecidableEq

/-- The text of an error. -/
def DefinitionError.toString : DefinitionError → String
  | json message => "invalid definition JSON: " ++ message
  | canonical message => "canonicalization failed: " ++ message

/-- One hexadecimal digit. -/
def hexDigit (n : ℕ) : Char := if n < 10 then Char.ofNat (48 + n) else Char.ofNat (87 + n)

/-- Bytes as lower-case hexadecimal digits. -/
def lowerHex (bytes : Bytes) : String :=
  String.ofList (bytes.flatMap fun byte => [hexDigit (byte.toNat / 16), hexDigit (byte.toNat % 16)])

/-- The bytes the hash is computed over: the definition without its own hash. -/
def canonicalDefinitionBytesForHash (hashing : Hashing) (definition : DefinitionFile) :
    Except DefinitionError Bytes :=
  (hashing.toVec { definition with
    header := { definition.header with contentHash := "" } }).mapError .canonical

/-- The hash of a definition. -/
def computeContentHash (hashing : Hashing) (definition : DefinitionFile) :
    Except DefinitionError ContentHash := do
  let canonical ← canonicalDefinitionBytesForHash hashing definition
  let digest := hashing.digest canonical
  pure ⟨lowerHex digest.toList, Vector.ofFn fun i : Fin 8 => digest.get (i.castLE (by decide))⟩

/-! ## Results -/

/-- The definitions a consumer holds. -/
structure DefinitionSet where
  current : Option DefinitionFile
  prior : Option DefinitionFile

/-- Which epoch a record is resolved under. -/
inductive ResolvedEpoch where
  | current
  | prior
  deriving DecidableEq

/-- A typed value; floating point numbers by their bits. -/
inductive ResolvedValue where
  | bool (value : Bool)
  | sInt (value : Int8)
  | uSInt (value : UInt8)
  | uInt (value : UInt16)
  | int (value : Int16)
  | uDInt (value : UInt32)
  | dInt (value : Int32)
  | uLInt (value : UInt64)
  | lInt (value : Int64)
  | real (bits : UInt32)
  | lReal (bits : UInt64)
  | dateTime (value : UInt64)
  | string (value : String)
  | bytes (value : Bytes)
  deriving DecidableEq

/-- A field with its name and value. -/
structure ResolvedField where
  key : UInt16
  name : String
  typeName : String
  value : ResolvedValue
  unit : Option String
  enumLabel : Option String
  deriving DecidableEq

/-- A field of the private extension. -/
structure ResolvedExtensionField where
  key : UInt16
  typeTag : UInt8
  typeName : Option String
  value : Option ResolvedValue
  payload : Bytes
  deriving DecidableEq

/-- What the definition says of a source. -/
structure ResolvedSource where
  name : String
  path : List String
  hierarchy : List String
  dynamic : Bool
  deriving DecidableEq

/-- A resolved record. -/
structure ResolvedRecord where
  eventName : String
  source : Option ResolvedSource
  sourceId : UInt32
  eventTypeId : UInt32
  runId : UInt64
  epochId : UInt64
  sourceTime : UInt64
  seq : UInt64
  epoch : ResolvedEpoch
  fields : List ResolvedField
  extensionFields : List ResolvedExtensionField
  deriving DecidableEq

/-- Why a record is not resolved. -/
inductive ResolvePlaceholderReason where
  | missingCurrentDefinition
  | stalePriorEpoch
  | drift (epoch : ResolvedEpoch) (expected actual : Bytes)
  | fullHashDrift (expected actual : String)
  | unknownEventId (id : UInt32)
  | schema (violation : Schema.SchemaViolation)
  | invalidUtf8 (key : UInt16)
  | unknownTlvType (key : UInt16) (ty : UInt8)
  | hash (error : String)
  deriving DecidableEq

/-- What is kept of a record that is not resolved. -/
structure ResolvedPlaceholder where
  sourceId : UInt32
  eventTypeId : UInt32
  runId : UInt64
  epochId : UInt64
  seq : UInt64
  epoch : ResolvedEpoch
  slots : List Slot
  reason : ResolvePlaceholderReason
  deriving DecidableEq

/-- The result of resolving a record. -/
inductive Resolution where
  | resolved (record : ResolvedRecord)
  | placeholder (placeholder : ResolvedPlaceholder)
  deriving DecidableEq

/-- The value as the number of a 32-bit field. -/
def ResolvedValue.asU32 : ResolvedValue → Option UInt32
  | uDInt value => some value
  | _ => none

/-- The value as the number of a 16-bit field. -/
def ResolvedValue.asU16 : ResolvedValue → Option UInt16
  | uInt value => some value
  | _ => none

/-! ## Decoding values -/

/-- `u16::from_le_bytes` of exactly two bytes. -/
def Resolver.readU16 {ε : Type} (bytes : Bytes) : Outcome ε UInt16 :=
  if bytes.length = 2 then .ok (UInt16.ofNat (fromLe bytes)) else .panic

/-- `u32::from_le_bytes` of exactly four bytes. -/
def Resolver.readU32 {ε : Type} (bytes : Bytes) : Outcome ε UInt32 :=
  if bytes.length = 4 then .ok (UInt32.ofNat (fromLe bytes)) else .panic

/-- `u64::from_le_bytes` of exactly eight bytes. -/
def Resolver.readU64 {ε : Type} (bytes : Bytes) : Outcome ε UInt64 :=
  if bytes.length = 8 then .ok (UInt64.ofNat (fromLe bytes)) else .panic

/-- Why a value is not decoded. -/
inductive ValueDecodeError where
  | invalidUtf8
  | unknownTlvType
  deriving DecidableEq

/-- The value of a slot by its type tag. -/
def decodeValue (slot : Slot) : Outcome ValueDecodeError ResolvedValue :=
  if slot.ty = 0x00 then do pure (.bool ((← index slot.payload 0) != 0))
  else if slot.ty = 0x01 then do pure (.sInt (← index slot.payload 0).toInt8)
  else if slot.ty = 0x02 then do pure (.uSInt (← index slot.payload 0))
  else if slot.ty = 0x03 then do pure (.uInt (← Resolver.readU16 slot.payload))
  else if slot.ty = 0x04 then do pure (.int (← Resolver.readU16 slot.payload).toInt16)
  else if slot.ty = 0x05 then do pure (.uDInt (← Resolver.readU32 slot.payload))
  else if slot.ty = 0x06 then do pure (.dInt (← Resolver.readU32 slot.payload).toInt32)
  else if slot.ty = 0x07 then do pure (.uLInt (← Resolver.readU64 slot.payload))
  else if slot.ty = 0x08 then do pure (.lInt (← Resolver.readU64 slot.payload).toInt64)
  else if slot.ty = 0x09 then do pure (.real (← Resolver.readU32 slot.payload))
  else if slot.ty = 0x0A then do pure (.lReal (← Resolver.readU64 slot.payload))
  else if slot.ty = 0x0B then do pure (.dateTime (← Resolver.readU64 slot.payload))
  else if slot.ty = 0x0C then
    match String.fromUTF8? ⟨slot.payload.toArray⟩ with
    | some text => .ok (.string text)
    | none => .err .invalidUtf8
  else if slot.ty = 0x0D then .ok (.bytes slot.payload)
  else .err .unknownTlvType

/-- The value of a slot of the private extension, if its type and width are known. -/
def decodeExtensionValue {ε : Type} (slot : Slot) : Outcome ε (Option ResolvedValue) :=
  match tlvTypeSpec slot.ty with
  | none => .ok none
  | some spec =>
    if spec.fixedWidth.any fun expected => decide (slot.payload.length ≠ expected) then .ok none
    else if slot.payload = [] ∧ ¬(slot.ty = TY_STRING ∨ slot.ty = TY_BYTES) then .ok none
    else
      match decodeValue slot with
      | .ok value => .ok (some value)
      | .err _ => .ok none
      | .panic => .panic

/-- A slot of the private extension. -/
def resolveExtensionField {ε : Type} (slot : Slot) : Outcome ε ResolvedExtensionField := do
  let value ← decodeExtensionValue slot
  pure ⟨slot.key, slot.ty, (tlvTypeSpec slot.ty).map TlvTypeSpec.name, value, slot.payload⟩

/-! ## Names and labels -/

/-- What the slots of a record say about each other. -/
structure FieldContext where
  stateMachineId : Option UInt32
  category : Option UInt16
  valueId : Option UInt32
  conditionId : Option UInt32
  messageTemplateId : Option UInt32
  deriving DecidableEq

namespace FieldContext

/-- What one slot adds to the context. -/
def observe {ε : Type} (context : FieldContext) (slot : Slot) : Outcome ε FieldContext :=
  if slot.key = KEY_STATE_MACHINE_ID ∧ slot.payload.length = 4 then do
    pure { context with stateMachineId := some (← Resolver.readU32 slot.payload) }
  else if slot.key = KEY_CATEGORY ∧ slot.payload.length = 2 then do
    pure { context with category := some (← Resolver.readU16 slot.payload) }
  else if slot.key = KEY_VALUE_ID ∧ slot.payload.length = 4 then do
    pure { context with valueId := some (← Resolver.readU32 slot.payload) }
  else if slot.key = KEY_CONDITION_ID ∧ slot.payload.length = 4 then do
    pure { context with conditionId := some (← Resolver.readU32 slot.payload) }
  else if slot.key = KEY_MESSAGE_TEMPLATE_ID ∧ slot.payload.length = 4 then do
    pure { context with messageTemplateId := some (← Resolver.readU32 slot.payload) }
  else .ok context

/-- The context of a record; of two slots with one key the later one counts. -/
def fromRecord {ε : Type} (record : Record) : Outcome ε FieldContext :=
  record.slots.foldlM observe ⟨none, none, none, none, none⟩

end FieldContext

section Lookup

variable (definition : DefinitionFile)

/-- The name of a state machine. -/
def stateMachineName (id : UInt32) : Option String :=
  (definition.stateMachines.find? fun machine => decide (machine.stateMachineId = id)).map
    StateMachineDefinition.name

/-- The name of a value. -/
def valueName (id : UInt32) : Option String :=
  (definition.values.find? fun value => decide (value.valueId = id)).map ValueDefinition.name

/-- The name of a condition. -/
def conditionName (id : UInt32) : Option String :=
  (definition.conditions.find? fun condition => decide (condition.conditionId = id)).map
    ConditionDefinition.name

/-- The format of a message template. -/
def messageTemplateFormat (id : UInt32) : Option String :=
  (definition.messageTemplates.find? fun template =>
    decide (template.messageTemplateId = id)).map MessageTemplateDefinition.format

/-- The name of an operand of a condition. -/
def causeOperandName (conditionId operandId : UInt32) : Option String := do
  let condition ← definition.conditions.find? fun condition =>
    decide (condition.conditionId = conditionId)
  (condition.causeOperands.find? fun operand => decide (operand.operandId = operandId)).map
    CauseOperandDefinition.name

/-- What the definition says of a source. -/
def resolveSource (sourceId : UInt32) : Option ResolvedSource :=
  (definition.sources.find? fun source => decide (source.sourceId = sourceId)).map fun source =>
    ⟨source.name, source.path, source.hierarchy, source.dynamic⟩

/-- The label of a member of an enumeration. -/
def enumValueLabel (values : List EnumValue) (value : UInt16) : Option String :=
  (values.find? fun entry => decide (entry.value = value)).map EnumValue.label

/-- The label of a severity. -/
def severityLabel (value : UInt16) : Option String :=
  (severityBand value).map fun
    | .low => "Low"
    | .medium => "Medium"
    | .high => "High"

/-- The label of a state of a state machine. -/
def stateLabel (stateMachineId : UInt32) (value : UInt16) : Option String := do
  let machine ← definition.stateMachines.find? fun machine =>
    decide (machine.stateMachineId = stateMachineId)
  let enumSet ← definition.enumSets.find? fun enumSet => decide (enumSet.name = machine.enumSet)
  enumValueLabel enumSet.members value

/-- The label of a value that is a member of an enumeration. -/
def enumLabel (key : UInt16) (value : ResolvedValue) (context : FieldContext) : Option String := do
  let intValue ← value.asU16
  if key = KEY_CATEGORY then enumValueLabel CATEGORY_VALUES intValue
  else if key = KEY_AUTH_RESULT then enumValueLabel AUTH_RESULT_VALUES intValue
  else if key = KEY_SIGNATURE_MEANING then enumValueLabel SIGNATURE_MEANING_VALUES intValue
  else if key = KEY_PREVIOUS_STATE ∨ key = KEY_NEW_STATE then do
    stateLabel definition (← context.stateMachineId) intValue
  else if key = KEY_SEVERITY then severityLabel intValue
  else none

/-- The symbol of a unit. -/
def unitSymbol (unitId : UInt16) : Option String :=
  (definition.units.find? fun unit => decide (unit.unitId = unitId)).map UnitDefinition.symbol

/-- The unit of a field: the one it names, or that of the value of the record. -/
def unitLabel (key : UInt16) (value : ResolvedValue) (context : FieldContext) : Option String :=
  if key = KEY_UNIT then do unitSymbol definition (← value.asU16)
  else if ¬(key = KEY_PREVIOUS_VALUE ∨ key = KEY_NEW_VALUE) then none
  else do
    let valueId ← context.valueId
    let entry ← definition.values.find? fun entry => decide (entry.valueId = valueId)
    unitSymbol definition (← entry.unit)

/-- A reference: the name that the definition gives to an id takes the place of the id. -/
def reference (name typeName : String) (target : Option String)
    (plain : String × String × ResolvedValue) : String × String × ResolvedValue :=
  match target with
  | some text => (name, typeName, .string text)
  | none => plain

/-- The name of a field, the name of its type and its value, with references replaced. -/
def semanticValue (key : UInt16) (value : ResolvedValue) (context : FieldContext)
    (name typeName : String) (label : Option String) : String × String × ResolvedValue :=
  let plain := (name, typeName, value)
  if key = KEY_STATE_MACHINE_ID then
    reference "stateMachine" "StateMachineRef" (value.asU32.bind (stateMachineName definition)) plain
  else if key = KEY_VALUE_ID then
    reference "value" "ValueRef" (value.asU32.bind (valueName definition)) plain
  else if key = KEY_CONDITION_ID then
    reference "condition" "ConditionRef" (value.asU32.bind (conditionName definition)) plain
  else if key = KEY_MESSAGE_TEMPLATE_ID then
    reference "messageTemplate" "MessageTemplateRef"
      (value.asU32.bind (messageTemplateFormat definition)) plain
  else if key = KEY_CAUSE_OPERAND then
    reference "causeOperand" "CauseOperandRef" (context.conditionId.bind fun conditionId =>
      value.asU32.bind (causeOperandName definition conditionId)) plain
  else if key = KEY_PREVIOUS_STATE ∨ key = KEY_NEW_STATE then
    reference name "StateRef" label plain
  else plain

end Lookup

/-! ## Slots -/

/-- The fields of a record. -/
structure ResolvedSlots where
  fields : List ResolvedField
  extensionFields : List ResolvedExtensionField
  deriving DecidableEq

/-- `resolve_slots` converts the errors of the decoder to reasons. -/
def ValueDecodeError.reason (slot : Slot) : ValueDecodeError → ResolvePlaceholderReason
  | invalidUtf8 => .invalidUtf8 slot.key
  | unknownTlvType => .unknownTlvType slot.key slot.ty

/-- One slot of a record. Slots that the schema or the registry does not name are passed over. -/
def resolveSlot (event : EventTypeDefinition) (definition : DefinitionFile)
    (context : FieldContext) (resolved : ResolvedSlots) (slot : Slot) :
    Outcome ResolvePlaceholderReason ResolvedSlots :=
  if 0x8000 ≤ slot.key then do
    let field ← resolveExtensionField slot
    pure { resolved with extensionFields := resolved.extensionFields ++ [field] }
  else
    match event.slots.find? fun schema => decide (schema.key = slot.key) with
    | none => .ok resolved
    | some _ =>
      match fieldSpec slot.key with
      | none => .ok resolved
      | some field =>
        if field.kind = .reserved then .ok resolved
        else
          match tlvTypeSpec slot.ty with
          | none => .err (.unknownTlvType slot.key slot.ty)
          | some typeSpec => do
            let value ← (decodeValue slot).mapErr (ValueDecodeError.reason slot)
            let label := enumLabel definition slot.key value context
            let unit := unitLabel definition slot.key value context
            let (name, typeName, value) :=
              semanticValue definition slot.key value context field.name typeSpec.name label
            pure { resolved with
              fields := resolved.fields ++ [⟨slot.key, name, typeName, value, unit, label⟩] }

/-- The slots of a record as fields. -/
def resolveSlots (record : Record) (event : EventTypeDefinition) (definition : DefinitionFile) :
    Outcome ResolvePlaceholderReason ResolvedSlots := do
  let context ← FieldContext.fromRecord record
  record.slots.foldlM (resolveSlot event definition context) ⟨[], []⟩

/-! ## Records -/

/-- The epoch of a record, by its position. -/
def resolvedEpoch (recordAbs : ℕ) (snapshot : ControlBlockSnapshot) : ResolvedEpoch :=
  if snapshot.epochFirstAbs ≤ recordAbs then .current else .prior

/-- The hash of an epoch in the control block. -/
def selectedHash (epoch : ResolvedEpoch) (snapshot : ControlBlockSnapshot) : Bytes :=
  match epoch with
  | .current => snapshot.definitionHash
  | .prior => snapshot.prevDefinitionHash

/-- The definition of an epoch. -/
def selectedDefinition (epoch : ResolvedEpoch) (definitions : DefinitionSet) :
    Option DefinitionFile :=
  match epoch with
  | .current => definitions.current
  | .prior => definitions.prior

/-- The definition has the hash expected, and the one it states if it states one. -/
def verifyDefinitionHash (hashing : Hashing) (definition : DefinitionFile) (epoch : ResolvedEpoch)
    (expected : Bytes) : Except ResolvePlaceholderReason Unit :=
  match computeContentHash hashing definition with
  | .error error => .error (.hash error.toString)
  | .ok hash =>
    if hash.carriageHash.toList ≠ expected then
      .error (.drift epoch expected hash.carriageHash.toList)
    else if definition.header.contentHash ≠ "" ∧
        definition.header.contentHash ≠ hash.contentHash then
      .error (.fullHashDrift definition.header.contentHash hash.contentHash)
    else .ok ()

/-- What is kept of a record. -/
def placeholder (record : Record) (snapshot : ControlBlockSnapshot) (epoch : ResolvedEpoch)
    (reason : ResolvePlaceholderReason) : Resolution :=
  .placeholder ⟨record.sourceId, record.eventTypeId, record.runId, snapshot.epochId, record.seq,
    epoch, record.slots, reason⟩

/-- The reason for a record that fails validation. -/
def schemaReason : Schema.SchemaViolation → ResolvePlaceholderReason
  | .unknownEventId id => .unknownEventId id
  | other => .schema other

/-- A record that has passed the checks, against the definition selected. -/
def resolveAgainst (record : Record) (snapshot : ControlBlockSnapshot) (epoch : ResolvedEpoch)
    (definition : DefinitionFile) : Outcome Empty Resolution :=
  match Schema.eventOf definition record with
  | none => .ok (placeholder record snapshot epoch (.unknownEventId record.eventTypeId))
  | some event =>
    match resolveSlots record event definition with
    | .ok resolved => .ok (.resolved {
        eventName := event.name
        source := resolveSource definition record.sourceId
        sourceId := record.sourceId
        eventTypeId := record.eventTypeId
        runId := record.runId
        epochId := snapshot.epochId
        sourceTime := record.sourceTime
        seq := record.seq
        epoch := epoch
        fields := resolved.fields
        extensionFields := resolved.extensionFields })
    | .err reason => .ok (placeholder record snapshot epoch reason)
    | .panic => .panic

/-- A record against a definition with the right hash: it is validated first. -/
def resolveValidated (record : Record) (snapshot : ControlBlockSnapshot) (epoch : ResolvedEpoch)
    (definition : DefinitionFile) : Outcome Empty Resolution :=
  match Schema.encodedRecordLen record with
  | .panic => .panic
  | .err error => .ok (placeholder record snapshot epoch (.schema (.encode error)))
  | .ok recordLen =>
    match Schema.validateRecord record recordLen definition with
    | .placeholder failed => .ok (placeholder record snapshot epoch (schemaReason failed.reason))
    | .valid _ => resolveAgainst record snapshot epoch definition

/-- The reason when the consumer does not hold the definition of an epoch. -/
def missingReason : ResolvedEpoch → ResolvePlaceholderReason
  | .current => .missingCurrentDefinition
  | .prior => .stalePriorEpoch

/-- Resolves one decoded record at a position. -/
def resolveRecord (hashing : Hashing) (record : Record) (recordAbs : ℕ)
    (snapshot : ControlBlockSnapshot) (definitions : DefinitionSet) : Outcome Empty Resolution :=
  let epoch := resolvedEpoch recordAbs snapshot
  match selectedDefinition epoch definitions with
  | none => .ok (placeholder record snapshot epoch (missingReason epoch))
  | some definition =>
    match verifyDefinitionHash hashing definition epoch (selectedHash epoch snapshot) with
    | .error reason => .ok (placeholder record snapshot epoch reason)
    | .ok () => resolveValidated record snapshot epoch definition

variable {hashing : Hashing} {definition : DefinitionFile} {epoch : ResolvedEpoch}
  {expected : Bytes} {record : Record} {recordAbs : ℕ} {snapshot : ControlBlockSnapshot}
  {definitions : DefinitionSet} {resolved : ResolvedRecord}

/-- A definition that is accepted has the hash expected. -/
lemma verifyDefinitionHash_eq_ok
    (h : verifyDefinitionHash hashing definition epoch expected = .ok ()) :
    ∃ hash, computeContentHash hashing definition = .ok hash ∧
      hash.carriageHash.toList = expected := by
  unfold verifyDefinitionHash at h
  split at h
  · cases h
  · rename_i hash hhash
    refine ⟨hash, hhash, ?_⟩
    by_contra hne
    rw [if_pos hne] at h
    cases h

/-- A resolved record carries the epoch of the snapshot. -/
lemma resolveAgainst_resolved
    (h : resolveAgainst record snapshot epoch definition = .ok (.resolved resolved)) :
    resolved.epochId = snapshot.epochId ∧ resolved.epoch = epoch := by
  unfold resolveAgainst at h
  split at h
  · cases h
  · split at h
    · cases h
      exact ⟨rfl, rfl⟩
    · cases h
    · cases h

/-- So does one that is validated first. -/
lemma resolveValidated_resolved
    (h : resolveValidated record snapshot epoch definition = .ok (.resolved resolved)) :
    resolved.epochId = snapshot.epochId ∧ resolved.epoch = epoch := by
  unfold resolveValidated at h
  split at h
  · cases h
  · cases h
  · split at h
    · cases h
    · exact resolveAgainst_resolved h

/-- **What a resolved record was resolved against**: the definition selected by its position, which
has the hash that the control block gives for that side of the boundary. The epoch it is labelled
with is that of the control block. -/
lemma resolveRecord_resolved
    (h : resolveRecord hashing record recordAbs snapshot definitions = .ok (.resolved resolved)) :
    resolved.epochId = snapshot.epochId ∧
    resolved.epoch = resolvedEpoch recordAbs snapshot ∧
    ∃ definition hash, selectedDefinition (resolvedEpoch recordAbs snapshot) definitions =
        some definition ∧
      computeContentHash hashing definition = .ok hash ∧
      hash.carriageHash.toList = selectedHash (resolvedEpoch recordAbs snapshot) snapshot := by
  simp only [resolveRecord] at h
  split at h
  · cases h
  · rename_i definition hselected
    split at h
    · cases h
    · rename_i hverify
      obtain ⟨hash, hhash, hcarriage⟩ := verifyDefinitionHash_eq_ok hverify
      obtain ⟨hid, hepoch⟩ := resolveValidated_resolved h
      exact ⟨hid, hepoch, definition, hash, hselected, hhash, hcarriage⟩

end OpenOT
