import OpenOT.Definition.Grammar

set_option relaxedAutoImplicit false
set_option autoImplicit false

/-!
# Records of the reference vocabulary

How to see that the slots of a record are those of an event of the reference vocabulary: group by
group, against its canonical schema. Most slots have a key whose field has a fixed type; such a slot
is of the right type in every schema.

## Main definitions

* `OpenOT.DefinitionFile.Fills` — a group of slots is what a schema asks for.
* `OpenOT.DefinitionFile.Shapes` — slots are groups that fill a canonical schema.
* `OpenOT.Slot.Proper` — a slot has the type of its field.

## Main results

* `OpenOT.DefinitionFile.Shapes.conforms` — such slots conform to every definition whose events are
  the canonical ones.
-/

namespace OpenOT

open Rust

variable {definition : DefinitionFile} {slots group : List Slot} {schema : SlotDefinition}
  {slot : Slot} {id : UInt32}

/-! ## Groups -/

/-- A group of slots of a record is what a schema asks for. -/
def DefinitionFile.Fills (definition : DefinitionFile) (slots : List Slot) (schema : SlotDefinition)
    (group : List Slot) : Prop :=
  schema.minOccurs.toNat ≤ group.length ∧ schema.maxOccurs.Admits group.length ∧
    ∀ slot ∈ group, schema.Takes slot ∧ definition.TypesValue slots slot

/-- The slots of a record of an event of the registry are groups that fill its canonical schema. -/
def DefinitionFile.Shapes (definition : DefinitionFile) (id : UInt32) (slots : List Slot) : Prop :=
  (∃ spec ∈ EVENT_SPECS, spec.id = id) ∧ ∃ schemas groups, canonicalSlots id = some schemas ∧
    slots = groups.flatten ∧ List.Forall₂ (definition.Fills slots) schemas groups

/-- No slot where none is needed. -/
lemma fills_nil (hmin : schema.minOccurs = 0) : definition.Fills slots schema [] := by
  refine ⟨by simp [hmin], ?_, List.forall_mem_nil _⟩
  unfold MaxOccurs.Admits
  split
  · exact Nat.zero_le _
  · trivial

/-- One slot that a schema takes. -/
lemma fills_singleton (hmin : schema.minOccurs.toNat ≤ 1) (hmax : schema.maxOccurs.Admits 1)
    (htakes : schema.Takes slot) (htypes : definition.TypesValue slots slot) :
    definition.Fills slots schema [slot] := by
  refine ⟨hmin, hmax, fun other hother => ?_⟩
  rw [List.mem_singleton.mp hother]
  exact ⟨htakes, htypes⟩

/-! ## Slots of registered fields -/

/-- A payload of the width of its type fits. -/
lemma Slot.fits_of_width {width : ℕ}
    (hwidth : (tlvTypeSpec slot.ty).bind TlvTypeSpec.fixedWidth = some width)
    (hlength : slot.payload.length = width) : slot.Fits := by
  intro other hother
  rw [hwidth] at hother
  cases hother
  exact hlength

/-- A payload of a type without a width fits. -/
lemma Slot.fits_of_none (hwidth : (tlvTypeSpec slot.ty).bind TlvTypeSpec.fixedWidth = none) :
    slot.Fits := by
  intro width h
  rw [hwidth] at h
  cases h

/-- The key of the slot is that of a field with a fixed type, the type of the slot; and the payload
has the width of the type. -/
structure Slot.Proper (slot : Slot) : Prop where
  field : (fieldSpec slot.key).map FieldSpec.kind = some (.fixed slot.ty)
  registered : (tlvTypeSpec slot.ty).isSome
  fits : slot.Fits

/-- A proper slot is taken by every schema of its key. -/
lemma Slot.Proper.takes (h : slot.Proper) (hkey : slot.key = schema.key) : schema.Takes slot where
  key := hkey
  registered := h.registered
  type expected hexpected := by
    rw [SlotDefinition.demandedType, ← hkey, h.field] at hexpected
    exact Option.some.inj hexpected
  width := h.fits

/-- The key of a proper slot is not that of a value, whose type its field leaves open. -/
lemma Slot.Proper.typesValue (h : slot.Proper) : definition.TypesValue slots slot := by
  rintro (hkey | hkey)
  · have hfield := h.field
    rw [hkey] at hfield
    cases hfield
  · have hfield := h.field
    rw [hkey] at hfield
    cases hfield

/-- A slot that a schema asks for. -/
lemma Slot.Proper.required (h : slot.Proper) {ty : UInt8} {orderClass : UInt16} :
    definition.Fills slots (.slot slot.key ty 1 (.count 1) orderClass) [slot] :=
  fills_singleton (Nat.le_refl 1) (Nat.le_refl 1) (h.takes rfl) h.typesValue

/-- A slot that a schema admits. -/
lemma Slot.Proper.optional (h : slot.Proper) {ty : UInt8} {orderClass : UInt16} (present : Bool) :
    definition.Fills slots (.slot slot.key ty 0 (.count 1) orderClass)
      (if present then [slot] else []) := by
  cases present with
  | true => exact fills_singleton (Nat.zero_le 1) (Nat.le_refl 1) (h.takes rfl) h.typesValue
  | false => exact fills_nil rfl

/-- Any number of slots of one key. -/
lemma fills_of_proper {text : String} (hmin : schema.minOccurs = 0)
    (hmax : schema.maxOccurs = .unbounded text)
    (h : ∀ slot ∈ group, slot.Proper ∧ slot.key = schema.key) :
    definition.Fills slots schema group := by
  refine ⟨by simp [hmin], hmax ▸ trivial, fun slot hslot => ?_⟩
  obtain ⟨hproper, hkey⟩ := h slot hslot
  exact ⟨hproper.takes hkey, hproper.typesValue⟩

/-! ## Canonical definitions -/

/-- What `mapM` has collected. -/
lemma exists_of_mapM {α β : Type} {f : α → Option β} {as : List α} {bs : List β}
    (h : as.mapM f = some bs) {a : α} (ha : a ∈ as) : ∃ b ∈ bs, f a = some b := by
  induction as generalizing bs with
  | nil => cases ha
  | cons first as ih =>
    rw [List.mapM_cons] at h
    obtain ⟨b, hb, h⟩ := Option.bind_eq_some_iff.mp h
    obtain ⟨rest, hrest, h⟩ := Option.bind_eq_some_iff.mp h
    cases h
    rcases List.mem_cons.mp ha with rfl | ha
    · exact ⟨b, List.mem_cons_self, hb⟩
    · obtain ⟨b', hb', hf⟩ := ih hrest ha
      exact ⟨b', List.mem_cons_of_mem _ hb', hf⟩

/-- A definition with the canonical events has every one of them. -/
lemma exists_canonicalEvent (hcanonical : canonicalEventTypes = some definition.eventTypes)
    {spec : EventSpec} (hspec : spec ∈ EVENT_SPECS) {schemas : List SlotDefinition}
    (hschemas : canonicalSlots spec.id = some schemas) :
    ∃ event ∈ definition.eventTypes, event.id = spec.id ∧ event.slots = schemas := by
  obtain ⟨event, hevent, hcanonicalEvent⟩ := exists_of_mapM hcanonical hspec
  refine ⟨event, hevent, ?_⟩
  unfold canonicalEventType at hcanonicalEvent
  obtain ⟨slots, hslots, hcanonicalEvent⟩ := Option.bind_eq_some_iff.mp hcanonicalEvent
  obtain ⟨_, -, hcanonicalEvent⟩ := Option.bind_eq_some_iff.mp hcanonicalEvent
  cases hcanonicalEvent
  exact ⟨rfl, Option.some.inj (hslots.symm.trans hschemas)⟩

/-- **A record of the reference vocabulary conforms** to every definition whose events are the
canonical ones, within its limits. -/
lemma DefinitionFile.Shapes.conforms {record : Record} {recordLen : ℕ}
    (h : definition.Shapes record.eventTypeId record.slots)
    (hcanonical : canonicalEventTypes = some definition.eventTypes)
    (hsize : recordLen ≤ definition.header.constraints.maxRecordSize.toNat)
    (hcount : record.slots.length ≤ definition.header.constraints.maxSlots.toNat) :
    record.Conforms recordLen definition := by
  obtain ⟨⟨spec, hspec, hid⟩, schemas, groups, hschemas, hflatten, hfills⟩ := h
  rw [← hid] at hschemas
  obtain ⟨event, hevent, hid', rfl⟩ := exists_canonicalEvent hcanonical hspec hschemas
  refine ⟨hsize, hcount, event, hevent, hid'.trans hid, groups, [], ⟨?_, hfills,
    List.forall_mem_nil _, .nil⟩⟩
  rw [List.append_nil]
  exact hflatten

end OpenOT
