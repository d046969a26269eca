import OpenOT.Definition.Resolver
import OpenOT.Lib.Hex

set_option relaxedAutoImplicit false
set_option autoImplicit false

/-!
# Documents

The documents that a consumer makes of resolved records and of placeholders.

## Main definitions

* `OpenOT.Json` — a JSON value.
* `OpenOT.Document` — the documents of records.
* `OpenOT.documentFromResolution` — the document of a resolution.

## Design

An object is the list of its entries in the order of the source. A floating point number is kept
by its bits, with its width; one that is not finite becomes `null`. The document of a loss interval
and the text of a document are left out.
-/

namespace OpenOT

open Rust

/-! ## Values -/

/-- A JSON value. -/
inductive Json where
  | null
  | bool (value : Bool)
  | int (value : ℤ)
  | real (bits : UInt32)
  | lReal (bits : UInt64)
  | string (value : String)
  | object (entries : List (String × Json))

/-- A number without a sign. -/
def Json.nat (value : ℕ) : Json := .int value

/-- `HEX`. -/
def HEX : Vector Char 16 :=
  #v['0', '1', '2', '3', '4', '5', '6', '7', '8', '9', 'a', 'b', 'c', 'd', 'e', 'f']

/-- `hex_lower`. -/
def hexLower (bytes : Bytes) : String := String.ofList (Hex.write HEX bytes)

/-! ## Documents -/

/-- What a document says of a source. -/
structure DocumentSource where
  id : UInt32
  name : Option String
  path : List String
  hierarchy : List String
  dynamic : Option Bool
  deriving DecidableEq

/-- A source that no definition resolves. -/
def DocumentSource.unresolved (id : UInt32) : DocumentSource := ⟨id, none, [], [], none⟩

/-- What the consumer knows about a record besides its resolution. -/
structure RecordDocumentContext where
  bufferId : UInt32
  receiveTimeNs : UInt64
  definitionHash : DefinitionHash
  semanticVersion : Option String
  flags : UInt16
  sourceTimeNs : Option UInt64
  source : Option DocumentSource

/-- The kinds of documents of records. -/
inductive DocumentKind where
  | event
  | placeholder
  deriving DecidableEq

/-- Current or prior epoch. -/
inductive EpochRelation where
  | current
  | prior
  deriving DecidableEq

/-- The epoch of a document. -/
structure DocumentEpoch where
  id : UInt64
  relation : EpochRelation
  definitionHash : String
  semanticVersion : Option String
  deriving DecidableEq

/-- Flag bit 0: the clock of the producer was not synchronized. -/
def FLAG_TIME_UNSYNCED : UInt16 := (1 : UInt16) <<< 0

/-- Flag bit 2: the payload was truncated. -/
def FLAG_PARTIAL_PAYLOAD : UInt16 := (1 : UInt16) <<< 2

/-- The flags of a record. -/
structure DocumentFlags where
  timeUnsynced : Bool
  syntheticRecord : Bool
  partialPayload : Bool
  deriving DecidableEq

/-- The flags by their bits. -/
def DocumentFlags.fromRecordFlags (flags : UInt16) : DocumentFlags where
  timeUnsynced := flags &&& FLAG_TIME_UNSYNCED != 0
  syntheticRecord := flags &&& FLAG_SYNTHETIC != 0
  partialPayload := flags &&& FLAG_PARTIAL_PAYLOAD != 0

/-- Where a document comes from. -/
structure Provenance where
  bufferId : UInt32
  source : DocumentSource
  runId : UInt64
  epoch : DocumentEpoch
  sourceTimeNs : Option UInt64
  receiveTimeNs : UInt64
  flags : DocumentFlags
  deriving DecidableEq

/-- A field of a document. -/
structure DocumentField where
  key : UInt16
  name : String
  typeName : String
  value : Json
  unit : Option String
  enumLabel : Option String

/-- A field of the private extension. -/
structure ExtensionField where
  key : UInt16
  typeTag : UInt8
  typeName : Option String
  name : Option String
  value : Option Json
  payloadHex : String

/-- The document of a resolved record. -/
structure EventDocument where
  kind : DocumentKind
  provenance : Provenance
  eventName : String
  eventTypeId : UInt32
  seq : UInt64
  fields : List DocumentField
  extensionFields : List ExtensionField

/-- The kinds of reasons for a placeholder. -/
inductive PlaceholderReasonKind where
  | missingCurrentDefinition
  | stalePriorEpoch
  | drift
  | fullHashDrift
  | unknownEventId
  | schemaViolation
  | invalidPayload
  | hashError
  deriving DecidableEq

/-- A reason, with its details. -/
structure PlaceholderReasonDocument where
  kind : PlaceholderReasonKind
  detail : Option Json

/-- A slot that is not resolved. -/
structure RawSlot where
  key : UInt16
  typeTag : UInt8
  payloadHex : String
  deriving DecidableEq

/-- The document of a placeholder. -/
structure PlaceholderDocument where
  kind : DocumentKind
  provenance : Provenance
  eventTypeId : UInt32
  seq : UInt64
  reason : PlaceholderReasonDocument
  rawSlots : List RawSlot

/-- A document of a record. -/
inductive Document where
  | event (document : EventDocument)
  | placeholder (document : PlaceholderDocument)

/-! ## Fields -/

/-- A floating point number of 32 bits. -/
def Json.ofReal (bits : UInt32) : Json :=
  if (bits >>> 23) &&& 0xFF = 0xFF then .null else .real bits

/-- A floating point number of 64 bits. -/
def Json.ofLReal (bits : UInt64) : Json :=
  if (bits >>> 52) &&& 0x7FF = 0x7FF then .null else .lReal bits

/-- `value_document`. -/
def valueDocument : ResolvedValue → Json
  | .bool value => .bool value
  | .sInt value => .int value.toInt
  | .uSInt value => .nat value.toNat
  | .uInt value => .nat value.toNat
  | .int value => .int value.toInt
  | .uDInt value => .nat value.toNat
  | .dInt value => .int value.toInt
  | .uLInt value => .nat value.toNat
  | .lInt value => .int value.toInt
  | .real bits => .ofReal bits
  | .lReal bits => .ofLReal bits
  | .dateTime value => .nat value.toNat
  | .string value => .string value
  | .bytes value => .object [("payloadHex", .string (hexLower value))]

/-- `field_document`. -/
def fieldDocument (field : ResolvedField) : DocumentField where
  key := field.key
  name := field.name
  typeName := field.typeName
  value := valueDocument field.value
  unit := field.unit
  enumLabel := field.enumLabel

/-- `extension_field_document`. -/
def extensionFieldDocument (field : ResolvedExtensionField) : ExtensionField where
  key := field.key
  typeTag := field.typeTag
  typeName := field.typeName
  name := none
  value := field.value.map valueDocument
  payloadHex := hexLower field.payload

/-- `raw_slot_document`. -/
def rawSlotDocument (slot : Slot) : RawSlot where
  key := slot.key
  typeTag := slot.ty
  payloadHex := hexLower slot.payload

/-! ## Provenance -/

/-- `source_document`. -/
def sourceDocument (id : UInt32) (source : ResolvedSource) : DocumentSource where
  id := id
  name := some source.name
  path := source.path
  hierarchy := source.hierarchy
  dynamic := some source.dynamic

/-- `epoch_relation`. -/
def epochRelation : ResolvedEpoch → EpochRelation
  | .current => .current
  | .prior => .prior

/-- `provenance_for_record`. -/
def provenanceForRecord (context : RecordDocumentContext) (sourceId : UInt32) (runId : UInt64)
    (epochId : UInt64) (epoch : ResolvedEpoch) (sourceTimeNs : Option UInt64)
    (resolvedSource : Option ResolvedSource) : Provenance where
  bufferId := context.bufferId
  source := ((resolvedSource.map (sourceDocument sourceId)).or context.source).getD
    (.unresolved sourceId)
  runId := runId
  epoch := {
    id := epochId
    relation := epochRelation epoch
    definitionHash := hexLower context.definitionHash.toList
    semanticVersion := context.semanticVersion }
  sourceTimeNs := sourceTimeNs
  receiveTimeNs := context.receiveTimeNs
  flags := .fromRecordFlags context.flags

/-! ## Reasons -/

/-- One named object. -/
def Json.named (name : String) (entries : List (String × Json)) : Json :=
  .object [(name, .object entries)]

/-- `wire_error_document`. -/
def wireErrorDocument : WireError → Json
  | .crcMismatch expected actual =>
    .named "crcMismatch" [("expected", .nat expected.toNat), ("actual", .nat actual.toNat)]
  | .invalidLength totalLen available =>
    .named "invalidLength" [("totalLength", .nat totalLen), ("available", .nat available)]
  | .invalidPadding offset => .named "invalidPadding" [("offset", .nat offset)]
  | .invalidSlot offset => .named "invalidSlot" [("offset", .nat offset)]
  | .recordTooLong len => .named "recordTooLong" [("len", .nat len)]
  | .slotTooLong key len => .named "slotTooLong" [("key", .nat key.toNat), ("len", .nat len)]
  | .truncated needed available =>
    .named "truncated" [("needed", .nat needed), ("available", .nat available)]
  | .wrongSync => .named "wrongSync" []

/-- `definition_schema_violation_document`. -/
def definitionSchemaViolationDocument : Schema.DefinitionSchemaViolation → Json
  | .duplicateEventId id => .named "duplicateEventId" [("eventTypeId", .nat id.toNat)]
  | .duplicateSlotKey eventId key =>
    .named "duplicateSlotKey" [("eventTypeId", .nat eventId.toNat), ("key", .nat key.toNat)]
  | .orderClassNotAscending eventId previous current =>
    .named "orderClassNotAscending" [("eventTypeId", .nat eventId.toNat),
      ("previous", .nat previous.toNat), ("current", .nat current.toNat)]
  | .coreTypeMismatch eventId key actual expected =>
    .named "coreTypeMismatch" [("eventTypeId", .nat eventId.toNat), ("key", .nat key.toNat),
      ("actual", .nat actual.toNat), ("expected", .nat expected.toNat)]
  | .unknownTlvType eventId key ty =>
    .named "unknownTlvType" [("eventTypeId", .nat eventId.toNat), ("key", .nat key.toNat),
      ("type", .nat ty.toNat)]
  | .reservedCoreKey eventId key =>
    .named "reservedCoreKey" [("eventTypeId", .nat eventId.toNat), ("key", .nat key.toNat)]
  | .invalidMaxOccurs eventId key =>
    .named "invalidMaxOccurs" [("eventTypeId", .nat eventId.toNat), ("key", .nat key.toNat)]
  | .unknownProceduralModel stateMachineId model =>
    .named "unknownProceduralModel" [("stateMachineId", .nat stateMachineId.toNat),
      ("model", .string model)]
  | .missingEnumSet stateMachineId enumSet =>
    .named "missingEnumSet" [("stateMachineId", .nat stateMachineId.toNat),
      ("enumSet", .string enumSet)]
  | .proceduralStateMismatch stateMachineId model value label =>
    .named "proceduralStateMismatch" [("stateMachineId", .nat stateMachineId.toNat),
      ("model", .string model), ("value", .nat value.toNat), ("label", .string label)]

/-- `schema_violation_document`. -/
def schemaViolationDocument : Schema.SchemaViolation → Json
  | .definition reason => .object [("definition", definitionSchemaViolationDocument reason)]
  | .unknownEventId id => .named "unknownEventId" [("eventTypeId", .nat id.toNat)]
  | .recordTooLarge actual max =>
    .named "recordTooLarge" [("actual", .nat actual), ("max", .nat max)]
  | .tooManySlots actual max => .named "tooManySlots" [("actual", .nat actual), ("max", .nat max)]
  | .unexpectedCoreKey key => .named "unexpectedCoreKey" [("key", .nat key.toNat)]
  | .vendorExtensionNotTrailing key =>
    .named "vendorExtensionNotTrailing" [("key", .nat key.toNat)]
  | .vendorExtensionOutOfOrder previous key =>
    .named "vendorExtensionOutOfOrder" [("previous", .nat previous.toNat), ("key", .nat key.toNat)]
  | .typeMismatch key actual expected =>
    .named "typeMismatch" [("key", .nat key.toNat), ("actual", .nat actual.toNat),
      ("expected", .nat expected.toNat)]
  | .unknownTlvType key ty =>
    .named "unknownTlvType" [("key", .nat key.toNat), ("type", .nat ty.toNat)]
  | .reservedCoreKey key => .named "reservedCoreKey" [("key", .nat key.toNat)]
  | .fixedWidthMismatch key ty actual expected =>
    .named "fixedWidthMismatch" [("key", .nat key.toNat), ("type", .nat ty.toNat),
      ("actual", .nat actual), ("expected", .nat expected)]
  | .missingRequired key min actual =>
    .named "missingRequired" [("key", .nat key.toNat), ("min", .nat min.toNat),
      ("actual", .nat actual)]
  | .tooManyOccurrences key max actual =>
    .named "tooManyOccurrences" [("key", .nat key.toNat), ("max", .nat max.toNat),
      ("actual", .nat actual)]
  | .repeatedSlotNotContiguous key => .named "repeatedSlotNotContiguous" [("key", .nat key.toNat)]
  | .orderClassViolation previous current key =>
    .named "orderClassViolation" [("previous", .nat previous.toNat),
      ("current", .nat current.toNat), ("key", .nat key.toNat)]
  | .encode error => .object [("encode", wireErrorDocument error)]

/-- The name of an epoch relation in JSON. -/
def EpochRelation.json : EpochRelation → Json
  | .current => .string "current"
  | .prior => .string "prior"

/-- `reason_document`. -/
def reasonDocument : ResolvePlaceholderReason → PlaceholderReasonDocument
  | .missingCurrentDefinition => ⟨.missingCurrentDefinition, none⟩
  | .stalePriorEpoch => ⟨.stalePriorEpoch, none⟩
  | .drift epoch expected actual => ⟨.drift, some (.object [
      ("epoch", (epochRelation epoch).json),
      ("expected", .string (hexLower expected)), ("actual", .string (hexLower actual))])⟩
  | .fullHashDrift expected actual => ⟨.fullHashDrift, some (.object [
      ("expected", .string expected), ("actual", .string actual)])⟩
  | .unknownEventId id => ⟨.unknownEventId, some (.object [("eventTypeId", .nat id.toNat)])⟩
  | .schema violation => ⟨.schemaViolation, some (schemaViolationDocument violation)⟩
  | .invalidUtf8 key => ⟨.invalidPayload, some (.object [
      ("key", .nat key.toNat), ("reason", .string "invalidUtf8")])⟩
  | .unknownTlvType key ty => ⟨.invalidPayload, some (.object [
      ("key", .nat key.toNat), ("type", .nat ty.toNat), ("reason", .string "unknownTlvType")])⟩
  | .hash error => ⟨.hashError, some (.object [("message", .string error)])⟩

/-! ## Documents of records -/

/-- `event_document_from_record`. -/
def eventDocumentFromRecord (record : ResolvedRecord) (context : RecordDocumentContext) :
    EventDocument where
  kind := .event
  provenance := provenanceForRecord context record.sourceId record.runId record.epochId
    record.epoch (some record.sourceTime) record.source
  eventName := record.eventName
  eventTypeId := record.eventTypeId
  seq := record.seq
  fields := record.fields.map fieldDocument
  extensionFields := record.extensionFields.map extensionFieldDocument

/-- `placeholder_document_from_record`. -/
def placeholderDocumentFromRecord (placeholder : ResolvedPlaceholder)
    (context : RecordDocumentContext) : PlaceholderDocument where
  kind := .placeholder
  provenance := provenanceForRecord context placeholder.sourceId placeholder.runId
    placeholder.epochId placeholder.epoch context.sourceTimeNs none
  eventTypeId := placeholder.eventTypeId
  seq := placeholder.seq
  reason := reasonDocument placeholder.reason
  rawSlots := placeholder.slots.map rawSlotDocument

/-- `document_from_resolution`. -/
def documentFromResolution (resolution : Resolution) (context : RecordDocumentContext) :
    Document :=
  match resolution with
  | .resolved record => .event (eventDocumentFromRecord record context)
  | .placeholder placeholder => .placeholder (placeholderDocumentFromRecord placeholder context)

end OpenOT
