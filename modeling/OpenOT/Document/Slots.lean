import OpenOT.Definition.ResolvedKeys
import OpenOT.Definition.ResolverRuns
import OpenOT.Document.Document

set_option relaxedAutoImplicit false
set_option autoImplicit false

/-!
# The slots of a record in its document

The resolver passes over slots that it cannot name, and relies on the validator for there being
none. The two agree on every key but `0x0000`, which is neither a core key nor a vendor key: the
validator lets a definition declare it, and the resolver drops the slot.

## Main definitions

* `OpenOT.ResolvedRecord.KeepsSlots` — every slot has become a field.
* `OpenOT.RawSlot.read` — the slot that a raw slot was made of.

## Main results

* `OpenOT.resolve_record_keeps_slots` — a resolved record keeps its slots exactly if none has the
  key `0x0000`; a placeholder always keeps them.
-/

namespace OpenOT

open Rust

variable {record : Record} {recordAbs : ℕ} {snapshot : ControlBlockSnapshot}
  {definitions : DefinitionSet} {hashing : Hashing} {event : EventTypeDefinition}
  {definition : DefinitionFile} {context : FieldContext} {slot : Slot}

/-! ## Keys -/

/-- Every slot has become one field: core slots ordinary fields, vendor slots fields of the private
extension, both in order. -/
structure ResolvedRecord.KeepsSlots (resolved : ResolvedRecord) (record : Record) : Prop where
  fields : resolved.fields.map ResolvedField.key = record.coreSlots.map Slot.key
  extensionFields :
    resolved.extensionFields.map ResolvedExtensionField.key = record.vendorSlots.map Slot.key
  complete : resolved.fields.length + resolved.extensionFields.length = record.slots.length

/-- Core slots and vendor slots are all slots exactly if no key is `0x0000`. -/
lemma Record.coreSlots_length_add (record : Record) :
    record.coreSlots.length + record.vendorSlots.length = record.slots.length ↔
      ∀ slot ∈ record.slots, slot.key ≠ 0 := by
  have hcount : ∀ slots : List Slot, (slots.filter fun slot => isCoreKey slot.key).length +
      (slots.filter fun slot => isVendorKey slot.key).length +
        (slots.filter fun slot => decide (slot.key = 0)).length = slots.length := by
    intro slots
    induction slots with
    | nil => rfl
    | cons slot slots ih =>
      rw [List.filter_cons, List.filter_cons, List.filter_cons, List.length_cons]
      rcases key_cases slot.key with ⟨hzero, hcore, hvendor⟩ | ⟨hzero, hcore, hvendor⟩ |
        ⟨hzero, hcore, hvendor⟩
      · rw [hcore, hvendor, decide_eq_true hzero]
        simp
        omega
      · rw [hcore, hvendor, decide_eq_false hzero]
        simp
        omega
      · rw [hcore, hvendor, decide_eq_false hzero]
        simp
        omega
  have hslots := hcount record.slots
  have hnone : (record.slots.filter fun slot => decide (slot.key = 0)).length = 0 ↔
      ∀ slot ∈ record.slots, slot.key ≠ 0 := by
    rw [List.length_eq_zero_iff, List.filter_eq_nil_iff]
    simp
  rw [← hnone, Record.coreSlots, Record.vendorSlots]
  omega

/-! ## Resolved records -/

/-- A resolved record keeps its slots exactly if none has the key `0x0000`. -/
lemma keepsSlots_iff {resolved : ResolvedRecord}
    (h : resolveRecord hashing record recordAbs snapshot definitions = .ok (.resolved resolved)) :
    resolved.KeepsSlots record ↔ ∀ slot ∈ record.slots, slot.key ≠ 0 := by
  obtain ⟨hfields, hextension⟩ := resolveRecord_keys h
  have hlengths : resolved.fields.length + resolved.extensionFields.length =
      record.coreSlots.length + record.vendorSlots.length := by
    rw [← List.length_map ResolvedField.key, hfields, List.length_map,
      ← List.length_map ResolvedExtensionField.key, hextension, List.length_map]
  rw [← record.coreSlots_length_add, ← hlengths]
  exact ⟨fun hkeeps => hkeeps.complete, fun hcomplete => ⟨hfields, hextension, hcomplete⟩⟩

/-! ## Placeholders -/

/-- The slot that a raw slot was made of. -/
def RawSlot.read (raw : RawSlot) : Option Slot :=
  (Hex.read HEX raw.payloadHex.toList).map fun payload => ⟨raw.key, raw.typeTag, payload⟩

/-- The bytes of a raw slot can be read back. -/
lemma read_rawSlotDocument (slot : Slot) : (rawSlotDocument slot).read = some slot := by
  have hdistinct : ∀ i j : Fin 16, HEX.get i = HEX.get j → i = j := by decide
  have hread : Hex.read HEX (hexLower slot.payload).toList = some slot.payload := by
    rw [hexLower, String.toList_ofList]
    exact Hex.read_write hdistinct slot.payload
  rw [RawSlot.read, rawSlotDocument, hread]
  rfl

/-- A placeholder carries the slots of the record. -/
lemma resolveRecord_placeholder {failed : ResolvedPlaceholder}
    (h : resolveRecord hashing record recordAbs snapshot definitions =
      .ok (.placeholder failed)) : failed.slots = record.slots := by
  simp only [resolveRecord] at h
  split at h
  · cases h
    rfl
  split at h
  · cases h
    rfl
  unfold resolveValidated at h
  split at h
  · cases h
  · cases h
    rfl
  split at h
  · cases h
    rfl
  unfold resolveAgainst at h
  split at h
  · cases h
    rfl
  split at h
  · cases h
  · cases h
    rfl
  · cases h

/-! ## Documents -/

/-- **When no slot disappears.** The resolver returns. If the record is resolved, every slot has
become one field, in order and with its key, exactly if no slot has the key `0x0000`; the document
has the same fields. Otherwise the placeholder has the slots of the record, and they can be read
back from the raw slots of its document. -/
theorem resolve_record_keeps_slots (hashing : Hashing) (record : Record) (recordAbs : ℕ)
    (snapshot : ControlBlockSnapshot) (definitions : DefinitionSet)
    (context : RecordDocumentContext) :
    ∃ resolution, resolveRecord hashing record recordAbs snapshot definitions = .ok resolution ∧
      (∀ resolved, resolution = .resolved resolved →
        (resolved.KeepsSlots record ↔ ∀ slot ∈ record.slots, slot.key ≠ 0) ∧
        ∃ document, documentFromResolution resolution context = .event document ∧
          document.fields.map DocumentField.key = resolved.fields.map ResolvedField.key ∧
          document.extensionFields.map ExtensionField.key =
            resolved.extensionFields.map ResolvedExtensionField.key) ∧
      (∀ failed, resolution = .placeholder failed → failed.slots = record.slots ∧
        ∃ document, documentFromResolution resolution context = .placeholder document ∧
          document.rawSlots.map RawSlot.read = record.slots.map some) := by
  obtain ⟨resolution, hresolve⟩ :=
    exists_resolution hashing record recordAbs snapshot definitions
  refine ⟨resolution, hresolve, ?_, ?_⟩
  · rintro resolved rfl
    refine ⟨keepsSlots_iff hresolve, _, rfl, ?_, ?_⟩
    · rw [eventDocumentFromRecord, List.map_map]
      rfl
    · rw [eventDocumentFromRecord, List.map_map]
      rfl
  · rintro failed rfl
    have hslots := resolveRecord_placeholder hresolve
    refine ⟨hslots, _, rfl, ?_⟩
    rw [placeholderDocumentFromRecord, List.map_map, hslots]
    exact List.map_congr_left fun slot _ => read_rawSlotDocument slot

/-! ### A slot that disappears -/

/-- A definition that declares a slot with the key `0x0000`. -/
def unnamedDefinition : DefinitionFile :=
  { messageDefinition with
    eventTypes := [⟨EVENT_MESSAGE, "Message", "Core", [.slot 0 TY_UINT 1 (.count 1) 1]⟩] }

/-- Its canonical JSON. -/
def unnamedDefinitionJson : Bytes :=
  ("\x7b\"batchDefinitions\":[],\"conditions\":[],\"eSignatureMeanings\":[],\"enumSets\":[]," ++
    "\"eventTypes\":[\x7b\"id\":3,\"name\":\"Message\",\"profile\":\"Core\",\"slots\":[\x7b\"key\":0," ++
    "\"maxOccurs\":1,\"minOccurs\":1,\"orderClass\":1,\"type\":3\x7d]\x7d],\"header\":\x7b\"caps\":" ++
    "\x7b\"crc\":true,\"sourceHighWater\":true\x7d,\"conformanceLevel\":\"Core\",\"constraints\":" ++
    "\x7b\"maxRecordSize\":256,\"maxSlots\":16,\"overflowPolicy\":\"overwrite-oldest\"\x7d," ++
    "\"contentHash\":\"\",\"epochStrategy\":\"retain\",\"profiles\":[\"Core\"]," ++
    "\"semanticVersion\":\"1.0.0\",\"wireVersion\":2\x7d,\"materialDefinitions\":[]," ++
    "\"messageTemplates\":[],\"operatorDefinitions\":[],\"recipeDefinitions\":[],\"severityScale\":" ++
    "\x7b\"high\":\x7b\"max\":1000,\"min\":667\x7d,\"low\":\x7b\"max\":332,\"min\":1\x7d,\"medium\":" ++
    "\x7b\"max\":666,\"min\":333\x7d,\"name\":\"default\"\x7d,\"sources\":[],\"stateMachines\":[]," ++
    "\"units\":[],\"values\":[]\x7d").toUTF8.data.toList

/-- The SHA-256 digest of that. -/
def unnamedDefinitionDigest : Vector UInt8 32 :=
  #v[0x93, 0xcd, 0xa6, 0x58, 0x98, 0x0f, 0x07, 0x28, 0xe2, 0x0c, 0xdf, 0xf3, 0xd6, 0x3c, 0xb4,
    0x08, 0x2f, 0x8f, 0x3d, 0x46, 0xe3, 0x01, 0xcd, 0x16, 0x10, 0xfa, 0x68, 0xf0, 0x5c, 0x67,
    0x76, 0xe6]

/-- Canonical JSON and SHA-256, as far as this definition goes. -/
def unnamedHashing : Hashing where
  toVec definition :=
    if definition = unnamedDefinition then .ok unnamedDefinitionJson else .error "not tabulated"
  digest bytes :=
    if bytes = unnamedDefinitionJson then unnamedDefinitionDigest else .replicate 32 0

/-- A control block with the hash of the definition. -/
def unnamedSnapshot : ControlBlockSnapshot where
  version := 2
  caps := 0
  bufferId := 0
  bufferBytes := 256
  headAbs := 56
  oldestAbs := 0
  lostCount := 0
  runId := 1
  epochId := 1
  epochFirstAbs := 0
  definitionHash := [0x93, 0xcd, 0xa6, 0x58, 0x98, 0x0f, 0x07, 0x28]
  prevDefinitionHash := List.replicate 8 0

/-- A record with the declared slot. -/
def unnamedRecord : Record :=
  { Record.new 1000 1 0 5 EVENT_MESSAGE with slots := [⟨0, TY_UINT, [1, 0]⟩] }

/-- The record is resolved, and its slot is in neither list. -/
theorem resolve_record_drops_slot :
    ∃ resolved, resolveRecord unnamedHashing unnamedRecord 0 unnamedSnapshot
        ⟨some unnamedDefinition, none⟩ = .ok (.resolved resolved) ∧
      resolved.fields = [] ∧ resolved.extensionFields = [] ∧
      ¬resolved.KeepsSlots unnamedRecord := by
  have hempty : (resolvedOf (resolveRecord unnamedHashing unnamedRecord 0 unnamedSnapshot
      ⟨some unnamedDefinition, none⟩)).map (fun resolved =>
        (resolved.fields, resolved.extensionFields)) = some ([], []) := by
    decide +kernel
  obtain ⟨resolved, hresolved, hlists⟩ := Option.map_eq_some_iff.mp hempty
  obtain ⟨hfields, hextension⟩ := Prod.mk.inj hlists
  refine ⟨resolved, resolvedOf_eq_some.mp hresolved, hfields, hextension, fun hkeeps => ?_⟩
  have hcomplete := hkeeps.complete
  rw [hfields, hextension] at hcomplete
  cases hcomplete

end OpenOT
