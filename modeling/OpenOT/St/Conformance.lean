import OpenOT.St.ConditionRuns
import OpenOT.St.Shapes

set_option relaxedAutoImplicit false
set_option autoImplicit false

/-!
# What is published conforms

A record that the producer publishes, staged records apart, is a record of the reference vocabulary:
a reader decodes it, finds the numbers that the producer has assigned, and validates it against any
definition with the canonical events.

## Main definitions

* `OpenOT.St.Inputs.WritesRegistered` — the tags and lengths that a call writes are registered.
* `OpenOT.St.Inputs.writtenType`, `OpenOT.St.Inputs.TypedBy` — a definition gives the value written
  by a call the type that the call writes.
* `OpenOT.St.Published.Shaped` — an entry holds a record of the reference vocabulary.

## Main results

* `OpenOT.St.Emitted.shapes` — the records of the data operations.
* `OpenOT.St.Published.Of.shaped` — the records of every operation.
* `OpenOT.St.publishes_conformant` — what every call publishes.
-/

namespace OpenOT.St

open Rust Transition

/-! ## Inputs -/

/-- The type tags of values and of arguments are registered, and the lengths are zero or those of
the types. -/
structure Inputs.WritesRegistered (inputs : Inputs) : Prop where
  message : inputs.checkpoint = false → inputs.op = 0 → inputs.message.Registered
  value : inputs.checkpoint = false → inputs.op = 10 ∨ inputs.op = 15 →
    Registered inputs.valueTypeTag inputs.valuePayloadLength

/-- The type of the value that an operation writes, if it writes one. -/
def Inputs.writtenType (inputs : Inputs) : Option UInt8 :=
  if inputs.op = 6 then some TY_REAL
  else if inputs.op = 7 then some TY_DINT
  else if inputs.op = 11 then some TY_STRING
  else if inputs.op = 10 ∨ inputs.op = 15 then some inputs.valueTypeTag
  else none

/-- A definition gives the value that a call writes the type that the call writes. -/
def Inputs.TypedBy (definition : DefinitionFile) (inputs : Inputs) : Prop :=
  inputs.checkpoint = false → ∀ ty, inputs.writtenType = some ty →
    ∀ value ∈ definition.values, value.valueId = inputs.valueId → value.dataType = ty

section

variable {definition : DefinitionFile} {inputs : Inputs}

/-- A slot with the type that the call writes. -/
lemma Inputs.TypedBy.loggable (h : inputs.TypedBy definition)
    (hcheckpoint : inputs.checkpoint = false) {field : Slot}
    (hwritten : inputs.writtenType = some field.ty) (hregistered : (tlvTypeSpec field.ty).isSome)
    (hfits : field.Fits) : Loggable definition inputs.valueId field where
  registered := hregistered
  fits := hfits
  type value hvalue := by
    have hid := List.find?_some hvalue
    rw [decide_eq_true_eq] at hid
    exact h hcheckpoint _ hwritten value (List.mem_of_find?_eq_some hvalue) hid

/-- A slot of four bytes. -/
lemma Inputs.TypedBy.word (h : inputs.TypedBy definition) (hcheckpoint : inputs.checkpoint = false)
    {ty : UInt8} (hwritten : inputs.writtenType = some ty)
    (hwidth : (tlvTypeSpec ty).bind TlvTypeSpec.fixedWidth = some 4) (key : UInt16)
    (value : UInt32) : Loggable definition inputs.valueId (wordField key ty value) := by
  refine h.loggable hcheckpoint hwritten ?_ (Slot.fits_of_width hwidth (length_toLe 4 _))
  obtain ⟨spec, hspec, -⟩ := Option.bind_eq_some_iff.mp hwidth
  exact Option.isSome_of_eq_some hspec

/-- A slot of a string. -/
lemma Inputs.TypedBy.string (h : inputs.TypedBy definition)
    (hcheckpoint : inputs.checkpoint = false) (hwritten : inputs.writtenType = some TY_STRING)
    (key : UInt16) (value : String96) :
    Loggable definition inputs.valueId (stringField key value) :=
  h.loggable hcheckpoint hwritten rfl (Slot.fits_of_none rfl)

/-- A slot of a bit string. -/
lemma Inputs.TypedBy.bits (h : inputs.TypedBy definition) (hcheckpoint : inputs.checkpoint = false)
    (hwritten : inputs.writtenType = some inputs.valueTypeTag)
    (hregistered : Registered inputs.valueTypeTag inputs.valuePayloadLength)
    (hwidth : fixedWidth inputs.valuePayloadLength = true) (key : UInt16) (value : UInt64) :
    Loggable definition inputs.valueId
      (bitsField key inputs.valueTypeTag value inputs.valuePayloadLength) := by
  refine h.loggable hcheckpoint hwritten ?_
    (fits_bitsField hregistered (ne_zero_of_fixedWidth hwidth) value)
  obtain ⟨spec, hspec, -⟩ := hregistered
  exact Option.isSome_of_eq_some hspec

end

/-! ## Data operations -/

section

variable {inputs : Inputs} {events : AttestableEventLog} {memory : Memory} {e : Emission}

/-- The lifecycle inputs that are passed on suit the event. -/
lemma allowedLifecycle_suits
    (hcomment : inputs.conditionLifecycleEventTypeId = 0x020A →
      inputs.allowedLifecycle.hasComment = true)
    (hpriority : inputs.conditionLifecycleEventTypeId = 0x020C →
      inputs.allowedLifecycle.hasPreviousPriority = true ∧
        inputs.allowedLifecycle.hasNewPriority = true) :
    inputs.allowedLifecycle.Suits inputs.conditionLifecycleEventTypeId where
  allowed := allowedLifecycle_allowedFor inputs
  ackBy h := (Bool.and_eq_true_iff.mp h).2
  comment := hcomment
  priority := hpriority

/-- The record of operation 9. -/
lemma shapes_conditionEmission {definition : DefinitionFile} (index : Fin 16)
    (correlationId : UInt32) :
    definition.Shapes (conditionEmission inputs index correlationId).eventTypeId (conditionSlots
      ((conditionEmission inputs index correlationId).eventTypeId == EVENT_CONDITION_ACTIVE)
      inputs.conditionId inputs.conditionClass inputs.severity true correlationId
      inputs.hasCauseOperand inputs.causeOperand) := by
  unfold conditionEmission
  cases inputs.conditionActive with
  | true => exact shapes_conditionActive ..
  | false => exact shapes_conditionCleared ..

/-- **The records of the data operations** have the slots of their events. -/
lemma Emitted.shapes {published : List Published} (h : Emitted inputs events memory e)
    (hcheckpoint : inputs.checkpoint = false) (hregistered : inputs.WritesRegistered)
    (hpaired : Paired memory.conditions published) : ∃ slots, e.Writes slots ∧
      ∀ definition, inputs.TypedBy definition → definition.Shapes e.eventTypeId slots := by
  cases h with
  | real hop =>
    have hwritten : inputs.writtenType = some TY_REAL := by simp [Inputs.writtenType, hop]
    exact ⟨_, fun envelope => encodes_valueChangedReal .., fun definition htyped =>
      shapes_valueChanged (htyped.word hcheckpoint hwritten rfl _ _)
        (htyped.word hcheckpoint hwritten rfl _ _) rfl rfl _ _ _⟩
  | int hop =>
    have hwritten : inputs.writtenType = some TY_DINT := by simp [Inputs.writtenType, hop]
    exact ⟨_, fun envelope => encodes_valueChangedInt .., fun definition htyped =>
      shapes_valueChanged (htyped.word hcheckpoint hwritten rfl _ _)
        (htyped.word hcheckpoint hwritten rfl _ _) rfl rfl _ _ _⟩
  | bits hop hwidth =>
    have hwritten : inputs.writtenType = some inputs.valueTypeTag := by
      simp [Inputs.writtenType, hop]
    have hvalue := hregistered.value hcheckpoint (.inl hop)
    exact ⟨_, fun envelope => encodes_valueChangedBits .., fun definition htyped =>
      shapes_valueChanged (htyped.bits hcheckpoint hwritten hvalue hwidth _ _)
        (htyped.bits hcheckpoint hwritten hvalue hwidth _ _) rfl rfl _ _ _⟩
  | string hop =>
    have hwritten : inputs.writtenType = some TY_STRING := by simp [Inputs.writtenType, hop]
    exact ⟨_, fun envelope => encodes_valueChangedString .., fun definition htyped =>
      shapes_valueChanged (htyped.string hcheckpoint hwritten _ _)
        (htyped.string hcheckpoint hwritten _ _) rfl rfl _ _ _⟩
  | stateTransition =>
    exact ⟨_, fun envelope => encodes_stateTransition .., fun definition _ =>
      shapes_stateTransition ..⟩
  | @condition index table _ hopen hchange =>
    have hne := Producer.correlationId_ne_zero hpaired hopen hchange
    have hwrites := @Producer.writes_conditionEmission inputs index
      (if inputs.conditionActive then memory.conditions.nextCorrelationId
        else (table.get index).correlationId)
    rw [bne_iff_ne.mpr hne] at hwrites
    exact ⟨_, hwrites, fun definition _ => shapes_conditionEmission index _⟩
  | lifecycle _ hevent _ hcomment hpriority =>
    exact ⟨_, Producer.writes_lifecycleEmission _, fun definition _ =>
      shapes_lifecycle hevent (allowedLifecycle_suits hcomment hpriority) _ _⟩
  | procedure _ hknown =>
    exact ⟨_, fun envelope => encodes_batchRecipe _ hknown, fun definition _ =>
      shapes_procedure hknown⟩
  | regulated _ hknown =>
    exact ⟨_, fun envelope => encodes_regulated _ hknown, fun definition _ =>
      shapes_regulated hknown⟩
  | parameterReal hop htag =>
    have hwritten : inputs.writtenType = some TY_REAL := by simp [Inputs.writtenType, hop, htag]
    exact ⟨_, fun envelope => encodes_parameterChangeReal .., fun definition htyped =>
      shapes_parameter (htyped.word hcheckpoint hwritten rfl _ _)
        (htyped.word hcheckpoint hwritten rfl _ _) rfl rfl _⟩
  | parameterInt hop htag =>
    have hwritten : inputs.writtenType = some TY_DINT := by simp [Inputs.writtenType, hop, htag]
    exact ⟨_, fun envelope => encodes_parameterChangeInt .., fun definition htyped =>
      shapes_parameter (htyped.word hcheckpoint hwritten rfl _ _)
        (htyped.word hcheckpoint hwritten rfl _ _) rfl rfl _⟩
  | parameterString hop htag =>
    have hwritten : inputs.writtenType = some TY_STRING := by simp [Inputs.writtenType, hop, htag]
    exact ⟨_, fun envelope => encodes_parameterChangeString .., fun definition htyped =>
      shapes_parameter (htyped.string hcheckpoint hwritten _ _)
        (htyped.string hcheckpoint hwritten _ _) rfl rfl _⟩
  | parameterBits hop hwidth =>
    have hwritten : inputs.writtenType = some inputs.valueTypeTag := by
      simp [Inputs.writtenType, hop]
    have hvalue := hregistered.value hcheckpoint (.inr hop)
    exact ⟨_, fun envelope => encodes_parameterChangeBits .., fun definition htyped =>
      shapes_parameter (htyped.bits hcheckpoint hwritten hvalue hwidth _ _)
        (htyped.bits hcheckpoint hwritten hvalue hwidth _ _) rfl rfl _⟩
  | signature =>
    exact ⟨_, fun envelope => encodes_eSignature .., fun definition _ => shapes_signature ..⟩

end

/-! ## Every operation -/

/-- An entry holds a record with the slots of its event, in every definition that types the value
of the call. -/
def Published.Shaped (inputs : Inputs) (entry : Published) : Prop :=
  ∃ slots, entry.Holds slots ∧
    ∀ definition, inputs.TypedBy definition → definition.Shapes entry.eventTypeId slots

section

variable {inputs : Inputs} {p : Producer} {entry : Published}

/-- A record of the system source. -/
lemma Published.IsSystem.shaped {eventTypeId : UInt32} {slots : List Slot}
    (h : entry.IsSystem eventTypeId slots)
    (hshapes : ∀ definition : DefinitionFile, definition.Shapes eventTypeId slots) :
    entry.Shaped inputs := by
  obtain ⟨-, hevent, hholds⟩ := h
  refine ⟨slots, hholds, fun definition _ => ?_⟩
  rw [hevent]
  exact hshapes definition

/-- **The records of every operation** have the slots of their events, staged records apart. -/
lemma Published.Of.shaped (h : entry.Of inputs p)
    (hstaged : inputs.checkpoint = false → inputs.op ≠ 5) (hregistered : inputs.WritesRegistered)
    (hpaired : Paired p.memory.conditions p.store.published) : entry.Shaped inputs := by
  cases h with
  | highWater h =>
    obtain ⟨hevent, producedCount, hholds⟩ := h
    refine ⟨_, hholds, fun definition _ => ?_⟩
    rw [hevent]
    exact shapes_sourceHighWater producedCount
  | stopped h => exact h.shaped fun _ => shapes_loggerStopped
  | changed h => exact h.shaped fun _ => shapes_definitionChanged ..
  | started h => exact h.shaped fun _ => shapes_loggerStarted _
  | message hcheckpoint hop h =>
    obtain ⟨-, hevent, hholds⟩ := h
    refine ⟨_, hholds, fun definition _ => ?_⟩
    rw [hevent]
    exact shapes_message (hregistered.message hcheckpoint hop) hholds.1
  | staged hcheckpoint hop => exact absurd hop (hstaged hcheckpoint)
  | data hcheckpoint h =>
    obtain ⟨emission, hemitted, hentry⟩ := h
    obtain ⟨slots, hwrites, hshapes⟩ := hemitted.shapes hcheckpoint hregistered hpaired
    refine ⟨slots, hentry.holds slots hwrites, fun definition htyped => ?_⟩
    rw [hentry.eventTypeId]
    exact hshapes definition htyped

/-- What an entry holds is read back. -/
lemma Published.Holds.decode {slots : List Slot} (h : entry.Holds slots) :
    ∃ record, decode entry.bytes = .ok ⟨record, entry.bytes.length⟩ ∧
      record.runId = entry.runId ∧ record.sourceId = entry.sourceId ∧ record.seq = entry.seq ∧
      record.eventTypeId = entry.eventTypeId ∧ record.slots = slots := by
  obtain ⟨hfits, sourceTime, hbytes⟩ := h
  have hdecode := decode_bytes (encodable_of_area_le
    ⟨sourceTime, entry.runId, entry.seq, entry.sourceId⟩ entry.eventTypeId hfits) []
  rw [List.append_nil, ← length_bytes, ← hbytes] at hdecode
  exact ⟨_, hdecode, rfl, rfl, rfl, rfl, rfl⟩

/-- A reader decodes an entry to the last byte, with the numbers and the event that the producer has
assigned, and the record is valid against every definition that is accepted, has the canonical
events, admits the record and gives the value written by the call the type written. -/
def Published.Conformant (inputs : Inputs) (entry : Published) : Prop :=
  ∃ record, decode entry.bytes = .ok ⟨record, entry.bytes.length⟩ ∧
    record.runId = entry.runId ∧ record.sourceId = entry.sourceId ∧ record.seq = entry.seq ∧
    record.eventTypeId = entry.eventTypeId ∧
    ∀ definition, Schema.validateDefinition definition = .ok () →
      canonicalEventTypes = some definition.eventTypes →
      entry.bytes.length ≤ definition.header.constraints.maxRecordSize.toNat →
      record.slots.length ≤ definition.header.constraints.maxSlots.toNat →
      inputs.TypedBy definition →
      ∃ extensionKeys, Schema.validateRecord record entry.bytes.length definition =
        .valid extensionKeys

/-- **A record of the reference vocabulary** conforms. -/
lemma Published.Shaped.conformant (h : entry.Shaped inputs) : entry.Conformant inputs := by
  obtain ⟨slots, hholds, hshapes⟩ := h
  obtain ⟨record, hdecode, hrun, hsource, hseq, hevent, hslots⟩ := hholds.decode
  refine ⟨record, hdecode, hrun, hsource, hseq, hevent, ?_⟩
  intro definition hdefinition hcanonical hsize hcount htyped
  have hshape := hshapes definition htyped
  rw [← hevent, ← hslots] at hshape
  exact (validate_record_iff hdefinition record _).1.mpr
    (hshape.conforms hcanonical hsize hcount)

end

/-- **What the producer publishes conforms.** In every state reached with fewer than `2 ^ 32 - 1`
activations attempted, a call of a checkpoint or of any operation but 5 that writes registered type
tags and lengths publishes records that a reader decodes to the last byte, with the numbers and the
event that the producer has assigned, and that are valid against every definition that is accepted,
has the canonical events, admits the record and gives the value written the type written. -/
theorem publishes_conformant {arith : RealArith} {p p' : Producer} {inputs : Inputs}
    (hrun : Producer.Reachable arith p)
    (hattempted : p.memory.conditions.attempted < 2 ^ 32 - 1)
    (hstaged : inputs.checkpoint = false → inputs.op ≠ 5) (hregistered : inputs.WritesRegistered)
    (hcall : p.call arith inputs = some p') :
    ∃ new, p'.store.published = p.store.published ++ new ∧ ∀ entry ∈ new,
      entry.inputs = inputs ∧ entry.Conformant inputs := by
  obtain ⟨q, rfl, hq⟩ := Producer.call_cases hcall
  rcases hq with ⟨-, rfl⟩ | ⟨-, hop⟩
  · exact ⟨[], Producer.published_enter.trans (List.append_nil _).symm, List.forall_mem_nil _⟩
  · obtain ⟨new, hnew, hall⟩ := (Producer.fed_of_operated hop).published
    have hpaired : Paired (p.enter inputs).memory.conditions (p.enter inputs).store.published := by
      rw [Producer.published_enter]
      exact paired_of_reachable hrun hattempted
    refine ⟨new, hnew.trans (by rw [Producer.published_enter]), fun entry hentry => ?_⟩
    obtain ⟨hof, hinputs⟩ := hall entry hentry
    exact ⟨hinputs, (hof.shaped hstaged hregistered hpaired).conformant⟩

/-- A definition with the reference vocabulary, and one value. -/
def referenceDefinition : DefinitionFile :=
  { levelDefinition with eventTypes := canonicalEventTypes.getD [] }

/-- A call that observes a level. -/
def levelCall : Inputs := { execute := true, op := 7, valueId := 7, valueInt := 5 }

/-- The first level is published, and its record is valid. -/
theorem publishes_conformant_level : ∃ p' entry record extensionKeys,
    Producer.init.call noReals levelCall = some p' ∧ p'.store.published = [entry] ∧
      decode entry.bytes = .ok ⟨record, 60⟩ ∧
      Schema.validateRecord record 60 referenceDefinition = .valid extensionKeys := by
  have hmap : (Producer.init.call noReals levelCall).map (fun p =>
      p.store.published.map fun entry =>
        (entry.bytes.length, entry.record.map fun record => record.slots.length)) =
      some [(60, some 2)] := by
    decide +kernel
  obtain ⟨p', hcall, hlist⟩ := Option.map_eq_some_iff.mp hmap
  obtain ⟨new, hnew, hall⟩ := publishes_conformant .start (by decide) (by decide)
    ⟨fun _ hop => absurd hop (by decide), fun _ hop => absurd hop (by decide)⟩ hcall
  have hpublished : p'.store.published = new := hnew
  rw [hpublished] at hlist
  obtain ⟨entry, hentry, hfields⟩ := List.map_eq_singleton_iff.mp hlist
  obtain ⟨hlength, hslots⟩ := Prod.mk.inj hfields
  obtain ⟨-, record, hdecode, -, -, -, -, hvalid⟩ :=
    hall entry (by rw [hentry]; exact List.mem_singleton_self entry)
  rw [hlength] at hdecode hvalid
  rw [Published.record, hdecode] at hslots
  have hcount : record.slots.length = 2 := Option.some.inj hslots
  have htyped : levelCall.TypedBy referenceDefinition := by
    intro _ ty hty value hvalue _
    cases hty
    rw [List.mem_singleton.mp hvalue]
  obtain ⟨keys, hkeys⟩ := hvalid referenceDefinition (by decide +kernel) (by decide +kernel)
    (by decide) (by rw [hcount]; decide) htyped
  exact ⟨p', entry, record, keys, hcall, hpublished.trans hentry, hdecode, hkeys⟩

end OpenOT.St
