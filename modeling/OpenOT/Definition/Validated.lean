import OpenOT.Definition.ResolverTotal

set_option relaxedAutoImplicit false
set_option autoImplicit false

/-!
# What validation accepts

The checks of a definition file and of a single slot, as conditions.

## Main definitions

* `OpenOT.SlotDefinition.Typed` — the type of a slot definition is that of its field.
* `OpenOT.EventTypeDefinition.WellFormed` — keys, order classes and types of an event definition.
* `OpenOT.SlotDefinition.demandedType` — the type that a slot must have.
* `OpenOT.SlotDefinition.Takes` — a slot has the right type and width.

## Main results

* `OpenOT.Schema.wellFormed_of_validateDefinition` — accepted definitions are well formed.
* `OpenOT.Schema.takes_iff` — the checks of a slot, given that its definition is accepted.
-/

namespace OpenOT

open Rust

/-! ## Definitions -/

/-- The type of a slot definition is that of its field, or a registered one of its own. -/
structure SlotDefinition.Typed (slot : SlotDefinition) : Prop where
  field : ∀ field, fieldSpec slot.key = some field → field.kind ≠ .reserved ∧
    ∀ expected, field.kind = .fixed expected → (tlvTypeSpec expected).isSome
  own : fieldSpec slot.key = none → isCoreKey slot.key = false ∧
    ∃ ty, slot.tlvType = some ty ∧ (tlvTypeSpec ty).isSome

/-- The keys of an event definition are distinct, its order classes ascend, and its slots have
types. -/
structure EventTypeDefinition.WellFormed (event : EventTypeDefinition) : Prop where
  keys : (event.slots.map SlotDefinition.key).Nodup
  order : event.slots.Pairwise fun a b => a.orderClass < b.orderClass
  typed : ∀ slot ∈ event.slots, slot.Typed

namespace Schema

/-- A slot definition that is not a value payload has a registered type. -/
lemma validateFixedSlot_ok {eventId : UInt32} {slot : SlotDefinition}
    (h : validateFixedSlot eventId slot = .ok ()) :
    ∃ ty, slot.tlvType = some ty ∧ (tlvTypeSpec ty).isSome := by
  unfold validateFixedSlot at h
  split_ifs at h
  cases htype : slot.tlvType with
  | none =>
    rw [htype] at h
    cases h
  | some ty =>
    rw [htype] at h
    refine ⟨ty, rfl, ?_⟩
    by_contra hnone
    rw [Option.not_isSome_iff_eq_none] at hnone
    simp [hnone] at h

/-- The check of the type of a slot definition. -/
lemma typed_of_validate {eventId : UInt32} {slot : SlotDefinition}
    (h : validateSlotDefinitionType eventId slot = .ok ()) : slot.Typed := by
  unfold validateSlotDefinitionType at h
  cases hfield : fieldSpec slot.key with
  | none =>
    rw [hfield] at h
    dsimp only at h
    split_ifs at h with hcore
    refine ⟨fun field hsome => ?_, fun _ => ⟨by simpa using hcore, validateFixedSlot_ok h⟩⟩
    rw [hfield] at hsome
    cases hsome
  | some field =>
    rw [hfield] at h
    dsimp only at h
    refine ⟨fun field' hsome => ?_, fun hnone => ?_⟩
    · rw [hfield] at hsome
      cases hsome
      cases hkind : field.kind with
      | fixed expected =>
        rw [hkind] at h
        dsimp only at h
        split_ifs at h with hmismatch
        rw [not_or, not_not] at hmismatch
        obtain ⟨ty, hty, hregistered⟩ := validateFixedSlot_ok h
        rw [hmismatch.1] at hty
        cases hty
        refine ⟨nofun, fun ty' hkind' => ?_⟩
        cases hkind'
        exact hregistered
      | valuePayload => exact ⟨nofun, nofun⟩
      | reserved =>
        rw [hkind] at h
        cases h
    · rw [hfield] at hnone
      cases hnone

/-- The checks of the slots of an event definition. -/
lemma validateEventSlots_ok {eventId : UInt32} {slots : List SlotDefinition} {keys : List UInt16}
    {previous : Option UInt16} (h : validateEventSlots eventId slots keys previous = .ok ()) :
    (∀ slot ∈ slots, slot.key ∉ keys ∧ ∀ last, previous = some last → last < slot.orderClass) ∧
      EventTypeDefinition.WellFormed ⟨eventId, "", "", slots⟩ := by
  induction slots generalizing keys previous with
  | nil => exact ⟨nofun, by simp, .nil, nofun⟩
  | cons slot slots ih =>
    unfold validateEventSlots at h
    split_ifs at h with hkey
    split at h
    · cases h
    · rename_i hprevious
      obtain ⟨_, -, h⟩ := except_bind_eq_ok.mp h
      obtain ⟨_, htype, h⟩ := except_bind_eq_ok.mp h
      obtain ⟨hlater, hwell⟩ := ih h
      have hfirst : ∀ last, previous = some last → last < slot.orderClass := by
        rintro last rfl
        simpa [Option.filter] using hprevious
      refine ⟨fun other hother => ?_, ⟨?_, ?_, ?_⟩⟩
      · rcases List.mem_cons.mp hother with rfl | hother
        · exact ⟨hkey, hfirst⟩
        · obtain ⟨hkeys, horder⟩ := hlater other hother
          rw [List.mem_append, not_or] at hkeys
          exact ⟨hkeys.1, fun last hlast => UInt16.lt_trans (hfirst last hlast) (horder _ rfl)⟩
      · refine List.nodup_cons.mpr ⟨fun hmem => ?_, hwell.keys⟩
        obtain ⟨other, hother, heq⟩ := List.mem_map.mp hmem
        exact (hlater other hother).1 (by simp [heq])
      · exact List.pairwise_cons.mpr ⟨fun other hother => (hlater other hother).2 _ rfl,
          hwell.order⟩
      · intro other hother
        rcases List.mem_cons.mp hother with rfl | hother
        · exact typed_of_validate htype
        · exact hwell.typed other hother

/-- The checks of the event definitions. -/
lemma validateEventTypes_ok {events : List EventTypeDefinition} {eventIds : List UInt32}
    (h : validateEventTypes events eventIds = .ok ()) :
    (∀ event ∈ events, event.id ∉ eventIds ∧ event.WellFormed) ∧
      (events.map EventTypeDefinition.id).Nodup := by
  induction events generalizing eventIds with
  | nil => exact ⟨nofun, by simp⟩
  | cons event events ih =>
    unfold validateEventTypes at h
    split_ifs at h with hid
    obtain ⟨_, hevent, h⟩ := except_bind_eq_ok.mp h
    obtain ⟨hlater, hnodup⟩ := ih h
    have hwell := (validateEventSlots_ok hevent).2
    refine ⟨fun other hother => ?_, List.nodup_cons.mpr ⟨fun hmem => ?_, hnodup⟩⟩
    · rcases List.mem_cons.mp hother with rfl | hother
      · exact ⟨hid, hwell.keys, hwell.order, hwell.typed⟩
      · obtain ⟨hids, hwell'⟩ := hlater other hother
        rw [List.mem_append, not_or] at hids
        exact ⟨hids.1, hwell'⟩
    · obtain ⟨other, hother, heq⟩ := List.mem_map.mp hmem
      exact (hlater other hother).1 (by simp [heq])

/-- **Accepted definitions are well formed**, and no two events have one id. -/
lemma wellFormed_of_validateDefinition {definition : DefinitionFile}
    (h : validateDefinition definition = .ok ()) :
    (∀ event ∈ definition.eventTypes, event.WellFormed) ∧
      (definition.eventTypes.map EventTypeDefinition.id).Nodup := by
  obtain ⟨_, hevents, -⟩ := except_bind_eq_ok.mp h
  obtain ⟨hall, hnodup⟩ := validateEventTypes_ok hevents
  exact ⟨fun event hevent => (hall event hevent).2, hnodup⟩

end Schema

/-! ## Slots -/

/-- The type that a slot must have: that of the field of its key, or for a key without a field the
one its definition gives. A field of the type of the value logged demands none. -/
def SlotDefinition.demandedType (schema : SlotDefinition) : Option UInt8 :=
  match (fieldSpec schema.key).map FieldSpec.kind with
  | some (.fixed expected) => some expected
  | some _ => none
  | none => schema.tlvType

/-- A slot has the key of its definition, a registered type, the one it must have if there is one,
and a payload of a width its type allows. -/
structure SlotDefinition.Takes (schema : SlotDefinition) (slot : Slot) : Prop where
  key : slot.key = schema.key
  registered : (tlvTypeSpec slot.ty).isSome
  type : ∀ expected, schema.demandedType = some expected → slot.ty = expected
  width : slot.Fits

/-- The widths of the registry: a payload is empty only if it is a text or bytes. -/
lemma tlvTypeSpec_width {ty : UInt8} {spec : TlvTypeSpec} (h : tlvTypeSpec ty = some spec) :
    spec.fixedWidth ≠ some 0 ∧ (spec.fixedWidth = none → ty = TY_STRING ∨ ty = TY_BYTES) := by
  have hall : ∀ spec ∈ TLV_TYPE_SPECS, spec.fixedWidth ≠ some 0 ∧
      (spec.fixedWidth = none → spec.code = TY_STRING ∨ spec.code = TY_BYTES) := by
    decide
  have hcode : decide (spec.code = ty) = true :=
    List.find?_some (p := fun spec : TlvTypeSpec => decide (spec.code = ty)) h
  rw [decide_eq_true_eq] at hcode
  rw [← hcode]
  exact hall spec (List.mem_of_find?_eq_some h)

namespace Schema

/-- The check of the length of a payload. -/
lemma validatePayloadWidth_eq_ok {slot : Slot} :
    validatePayloadWidth slot = .ok () ↔ (tlvTypeSpec slot.ty).isSome ∧ slot.Fits := by
  refine ⟨fun h => ⟨?_, fits_of_validatePayloadWidth h⟩, fun ⟨hregistered, hfits⟩ => ?_⟩
  · by_contra hnone
    rw [Option.not_isSome_iff_eq_none] at hnone
    rw [validatePayloadWidth, hnone] at h
    cases h
  · obtain ⟨spec, hspec⟩ := Option.isSome_iff_exists.mp hregistered
    obtain ⟨hpositive, htext⟩ := tlvTypeSpec_width hspec
    rw [validatePayloadWidth, hspec]
    cases hwidth : spec.fixedWidth with
    | none =>
      dsimp only
      rw [hwidth]
      exact if_neg fun hempty => hempty.2 (htext hwidth)
    | some expected =>
      have hlength : slot.payload.length = expected := hfits expected (by rw [hspec]; exact hwidth)
      have hne : slot.payload ≠ [] := fun hempty => by
        rw [hempty, List.length_nil] at hlength
        exact hpositive (by rw [hwidth, hlength])
      dsimp only
      rw [hwidth]
      simp [hlength, hne]

/-- **The checks of a slot**, given that its definition is accepted. -/
lemma takes_iff {schema : SlotDefinition} {slot : Slot} (htyped : schema.Typed)
    (hkey : slot.key = schema.key) : schema.Takes slot ↔
      validateRecordSlotType slot schema = .ok () ∧ validatePayloadWidth slot = .ok () := by
  rw [validatePayloadWidth_eq_ok]
  have htype : (tlvTypeSpec slot.ty).isSome →
      ((∀ expected, schema.demandedType = some expected → slot.ty = expected) ↔
        validateRecordSlotType slot schema = .ok ()) := by
    intro hregistered
    unfold SlotDefinition.demandedType validateRecordSlotType
    rw [hkey]
    cases hfield : fieldSpec schema.key with
    | none =>
      obtain ⟨hcore, ty, hty, -⟩ := htyped.own hfield
      rw [Option.map_none, hcore, hty]
      simp only [Option.some.injEq, forall_eq', ne_eq]
      split_ifs with hne <;> simp_all
    | some field =>
      obtain ⟨hreserved, -⟩ := htyped.field field hfield
      rw [Option.map_some]
      cases hkind : field.kind with
      | fixed expected =>
        dsimp only
        split_ifs with hne <;> simp_all
      | valuePayload => simp [hkind, Option.isSome_iff_ne_none.mp hregistered]
      | reserved => exact absurd hkind hreserved
  constructor
  · rintro ⟨-, hregistered, hdemanded, hwidth⟩
    exact ⟨(htype hregistered).mp hdemanded, hregistered, hwidth⟩
  · rintro ⟨hchecked, hregistered, hwidth⟩
    exact ⟨hkey, hregistered, (htype hregistered).mpr hchecked, hwidth⟩

end Schema

end OpenOT
