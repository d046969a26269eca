import OpenOT.Definition.Canonical
import OpenOT.St.Emissions

set_option relaxedAutoImplicit false
set_option autoImplicit false

/-!
# The shapes of the records

The slots that the encoders of the controller write are, event by event, those of the canonical
schemas of the registry: the same keys in the same order, with the same types, and as many of each
as the schema asks for.

## Main definitions

* `OpenOT.St.Registered` — a type tag and a payload length of the registry.
* `OpenOT.St.MessageInputs.Registered` — the arguments of a message have such tags and lengths.
* `OpenOT.St.Loggable` — a slot that carries a value of the type its definition gives.

## Main results

* `OpenOT.St.shapes_message`, `OpenOT.St.shapes_valueChanged`, `OpenOT.St.shapes_lifecycle`, … — the
  slots of each record.
-/

namespace OpenOT.St

open Rust

variable {definition : DefinitionFile} {slots : List Slot}

/-! ## Fields -/

lemma proper_udint {key : UInt16}
    (hfield : (fieldSpec key).map FieldSpec.kind = some (.fixed TY_UDINT)) (value : UInt32) :
    (udintField key value).Proper :=
  ⟨hfield, rfl, Slot.fits_of_width rfl (length_toLe 4 _)⟩

lemma proper_uint {key : UInt16}
    (hfield : (fieldSpec key).map FieldSpec.kind = some (.fixed TY_UINT)) (value : UInt16) :
    (uintField key value).Proper :=
  ⟨hfield, rfl, Slot.fits_of_width rfl (length_toLe 2 _)⟩

lemma proper_long {key : UInt16} {ty : UInt8}
    (hfield : (fieldSpec key).map FieldSpec.kind = some (.fixed ty))
    (hwidth : (tlvTypeSpec ty).bind TlvTypeSpec.fixedWidth = some 8) (value : UInt64) :
    (longField key ty value).Proper := by
  refine ⟨hfield, ?_, Slot.fits_of_width hwidth (length_toLe 8 _)⟩
  obtain ⟨spec, hspec, -⟩ := Option.bind_eq_some_iff.mp hwidth
  exact Option.isSome_of_eq_some hspec

lemma proper_string {key : UInt16}
    (hfield : (fieldSpec key).map FieldSpec.kind = some (.fixed TY_STRING)) (value : String96) :
    (stringField key value).Proper :=
  ⟨hfield, rfl, Slot.fits_of_none rfl⟩

lemma proper_bytes {key : UInt16}
    (hfield : (fieldSpec key).map FieldSpec.kind = some (.fixed TY_BYTES)) (value : Bytes) :
    Slot.Proper ⟨key, TY_BYTES, value⟩ :=
  ⟨hfield, rfl, Slot.fits_of_none rfl⟩

lemma proper_bool {key : UInt16}
    (hfield : (fieldSpec key).map FieldSpec.kind = some (.fixed TY_BOOL)) (value : UInt8) :
    Slot.Proper ⟨key, TY_BOOL, [value]⟩ :=
  ⟨hfield, rfl, Slot.fits_of_width rfl rfl⟩

/-! ## Records of the logger -/

lemma shapes_sourceHighWater (producedCount : UInt64) :
    definition.Shapes EVENT_SOURCE_HIGH_WATER
      [longField KEY_SOURCE_HIGH_WATER TY_ULINT producedCount] :=
  ⟨by decide, _, [[longField KEY_SOURCE_HIGH_WATER TY_ULINT producedCount]], rfl, rfl,
    .cons (proper_long rfl rfl _).required .nil⟩

lemma shapes_loggerStarted (value : UInt8) :
    definition.Shapes EVENT_LOGGER_STARTED [⟨KEY_COLD_START, TY_BOOL, [value]⟩] :=
  ⟨by decide, _, [[⟨KEY_COLD_START, TY_BOOL, [value]⟩]], rfl, rfl,
    .cons (proper_bool rfl _).required .nil⟩

lemma shapes_loggerStopped : definition.Shapes EVENT_LOGGER_STOPPED [] :=
  ⟨by decide, _, [], rfl, rfl, .nil⟩

lemma shapes_definitionChanged (defHashOld defHashNew : Bytes) (epochId : UInt64) :
    definition.Shapes EVENT_DEFINITION_CHANGED [⟨KEY_DEF_HASH_OLD, TY_BYTES, defHashOld⟩,
      ⟨KEY_DEF_HASH_NEW, TY_BYTES, defHashNew⟩, longField KEY_EPOCH_ID TY_ULINT epochId] :=
  ⟨by decide, _, [[⟨KEY_DEF_HASH_OLD, TY_BYTES, defHashOld⟩],
      [⟨KEY_DEF_HASH_NEW, TY_BYTES, defHashNew⟩], [longField KEY_EPOCH_ID TY_ULINT epochId]],
    rfl, rfl, .cons (proper_bytes rfl _).required (.cons (proper_bytes rfl _).required
      (.cons (proper_long rfl rfl _).required .nil))⟩

/-! ## Values -/

/-- A registered type tag, and a payload length that is zero or the one the type has. -/
def Registered (ty : UInt8) (payloadLength : UInt16) : Prop :=
  ∃ spec, tlvTypeSpec ty = some spec ∧
    ∀ width, spec.fixedWidth = some width → payloadLength ≠ 0 → payloadLength.toNat = width

/-- The bytes of a bit string have the width of the type. -/
lemma fits_bitsField {key : UInt16} {ty : UInt8} {payloadLength : UInt16}
    (h : Registered ty payloadLength) (hne : payloadLength ≠ 0) (value : UInt64) :
    (bitsField key ty value payloadLength).Fits := by
  obtain ⟨spec, hspec, hwidth⟩ := h
  intro width hfixed
  rw [show (bitsField key ty value payloadLength).ty = ty from rfl, hspec] at hfixed
  rw [bitsField, length_toLe, writtenBytes_eq hne]
  exact hwidth width hfixed hne

/-- A lengths of the operations on bit strings is not zero. -/
lemma ne_zero_of_fixedWidth {payloadLength : UInt16} (h : fixedWidth payloadLength = true) :
    payloadLength ≠ 0 := by
  rintro rfl
  cases h

/-- A slot that carries a value of the type its definition gives. -/
structure Loggable (definition : DefinitionFile) (valueId : UInt32) (field : Slot) : Prop where
  registered : (tlvTypeSpec field.ty).isSome
  fits : field.Fits
  type : ∀ value, (definition.values.find? fun value => decide (value.valueId = valueId)) =
    some value → value.dataType = field.ty

/-- A slot whose field leaves the type open. -/
lemma takes_value {schema : SlotDefinition} {field : Slot}
    (hfield : (fieldSpec schema.key).map FieldSpec.kind = some .valuePayload)
    (hkey : field.key = schema.key) (hregistered : (tlvTypeSpec field.ty).isSome)
    (hfits : field.Fits) : schema.Takes field := by
  refine ⟨hkey, hregistered, fun expected hexpected => ?_, hfits⟩
  rw [SlotDefinition.demandedType, hfield] at hexpected
  cases hexpected

/-- A value behind the id of the value. -/
lemma Loggable.typesValue {valueId : UInt32} {field : Slot}
    (h : Loggable definition valueId field) :
    definition.TypesValue (udintField KEY_VALUE_ID valueId :: slots) field := by
  intro _ value hvalue
  have hnamed : definition.namedValue (udintField KEY_VALUE_ID valueId :: slots) =
      definition.values.find? fun value => decide (value.valueId = valueId) := by
    change (definition.values.find? fun value => decide (value.valueId =
      UInt32.ofNat (fromLe (toLe 4 valueId.toNat)))) = _
    rw [ofNat_fromLe_toLe_u32]
  rw [hnamed] at hvalue
  exact (h.type value hvalue).symm

/-- The new value of a record. -/
lemma Loggable.fills {schema : SlotDefinition} {valueId : UInt32} {field : Slot}
    (h : Loggable definition valueId field)
    (hfield : (fieldSpec schema.key).map FieldSpec.kind = some .valuePayload)
    (hkey : field.key = schema.key) (hmin : schema.minOccurs.toNat ≤ 1)
    (hmax : schema.maxOccurs.Admits 1) :
    definition.Fills (udintField KEY_VALUE_ID valueId :: slots) schema [field] :=
  fills_singleton hmin hmax (takes_value hfield hkey h.registered h.fits) h.typesValue

lemma shapes_valueChanged {valueId : UInt32} {newField previousField : Slot}
    (hnew : Loggable definition valueId newField)
    (hprevious : Loggable definition valueId previousField)
    (hnewKey : newField.key = KEY_NEW_VALUE)
    (hpreviousKey : previousField.key = KEY_PREVIOUS_VALUE) (hasPrevious hasQuality : Bool)
    (quality : UInt16) :
    definition.Shapes EVENT_VALUE_CHANGED
      (valueChangedSlots valueId newField previousField hasPrevious hasQuality quality) := by
  refine ⟨by decide, _, [[udintField KEY_VALUE_ID valueId], [newField],
    onlyIf hasPrevious [previousField], onlyIf hasQuality [uintField KEY_QUALITY quality], [], []],
    rfl, ?_, ?_⟩
  · simp only [valueChangedSlots, List.flatten_cons, List.flatten_nil, List.append_nil]
  · refine .cons (proper_udint rfl _).required (.cons ?_ (.cons ?_
      (.cons ((proper_uint rfl _).optional _) (.cons (fills_nil rfl) (.cons (fills_nil rfl)
        .nil)))))
    · exact hnew.fills rfl hnewKey (Nat.le_refl 1) (Nat.le_refl 1)
    · cases hasPrevious with
      | true => exact hprevious.fills rfl hpreviousKey (Nat.zero_le 1) (Nat.le_refl 1)
      | false => exact fills_nil rfl

lemma shapes_parameter {valueId : UInt32} {previousField newField : Slot}
    (hprevious : Loggable definition valueId previousField)
    (hnew : Loggable definition valueId newField)
    (hpreviousKey : previousField.key = KEY_PREVIOUS_VALUE)
    (hnewKey : newField.key = KEY_NEW_VALUE) (audit : AuditInputs) :
    definition.Shapes EVENT_PARAMETER_CHANGE
      (parameterSlots valueId previousField newField audit) := by
  refine ⟨by decide, _, [[udintField KEY_VALUE_ID valueId], [previousField], [newField],
    [stringField KEY_ACTOR audit.actor], [stringField KEY_REASON audit.reason],
    onlyIf audit.hasAuthResult [uintField KEY_AUTH_RESULT audit.authResult]], rfl, ?_, ?_⟩
  · simp only [parameterSlots, List.flatten_cons, List.flatten_nil, List.append_nil]
  · exact .cons (proper_udint rfl _).required
      (.cons (hprevious.fills rfl hpreviousKey (Nat.le_refl 1) (Nat.le_refl 1))
        (.cons (hnew.fills rfl hnewKey (Nat.le_refl 1) (Nat.le_refl 1))
          (.cons (proper_string rfl _).required (.cons (proper_string rfl _).required
            (.cons ((proper_uint rfl _).optional _) .nil)))))

/-! ## Messages -/

/-- The argument has a registered type tag and, if it is a bit string, a length of that type. -/
def MessageArg.Registered (arg : MessageArg) : Prop := St.Registered arg.typeTag arg.payloadLength

/-- The arguments of a message that are there have registered type tags and lengths. -/
structure MessageInputs.Registered (message : MessageInputs) : Prop where
  arg1 : 1 ≤ message.argCount → message.arg1.Registered
  arg2 : 2 ≤ message.argCount → message.arg2.Registered
  arg3 : 3 ≤ message.argCount → message.arg3.Registered
  arg4 : 4 ≤ message.argCount → message.arg4.Registered

/-- The key of an argument. -/
lemma key_arg (arg : MessageArg) : arg.field.key = KEY_ARG := by
  unfold MessageArg.field
  split_ifs <;> rfl

/-- An argument that is not too long to be written. -/
lemma takes_arg {schema : SlotDefinition} {arg : MessageArg} (hregistered : arg.Registered)
    (hlength : arg.field.payload.length ≤ 256) (hkey : schema.key = KEY_ARG) :
    schema.Takes arg.field := by
  have hfield : (fieldSpec schema.key).map FieldSpec.kind = some .valuePayload := by
    rw [hkey]
    rfl
  refine takes_value hfield ((key_arg arg).trans hkey.symm) ?_ ?_
  · obtain ⟨spec, hspec, -⟩ := hregistered
    unfold MessageArg.field
    split_ifs
    · rfl
    · exact Option.isSome_of_eq_some hspec
  · unfold MessageArg.field at hlength ⊢
    split_ifs at hlength ⊢
    · exact Slot.fits_of_none rfl
    · refine fits_bitsField hregistered (fun hzero => ?_) _
      rw [hzero, bitsField, length_toLe, writtenBytes_zero] at hlength
      omega

@[simp] lemma onlyIf_true : onlyIf true slots = slots := rfl

/-- Which slots stand behind an `IF`. -/
lemma mem_onlyIf {present : Bool} {slot : Slot} :
    slot ∈ onlyIf present slots ↔ present = true ∧ slot ∈ slots := by
  unfold onlyIf
  split_ifs with h <;> simp [h]

/-- The slots of the arguments of a message. -/
def argSlots (message : MessageInputs) : List Slot :=
  onlyIf (1 ≤ message.argCount) [message.arg1.field] ++
    (onlyIf (2 ≤ message.argCount) [message.arg2.field] ++
      (onlyIf (3 ≤ message.argCount) [message.arg3.field] ++
        onlyIf (4 ≤ message.argCount) [message.arg4.field]))

/-- The slots of a message: the template, the arguments and the severity. -/
lemma messageSlots_eq (message : MessageInputs) : messageSlots message =
    [udintField KEY_MESSAGE_TEMPLATE_ID message.templateId] ++ (argSlots message ++
      onlyIf message.hasSeverity [uintField KEY_SEVERITY message.severity]) := by
  simp only [messageSlots, argSlots, List.append_assoc]

/-- The slots of the arguments carry arguments with registered tags and lengths. -/
lemma exists_arg {message : MessageInputs} (h : message.Registered) {slot : Slot}
    (hslot : slot ∈ argSlots message) : ∃ arg : MessageArg, arg.Registered ∧ slot = arg.field := by
  simp only [argSlots, List.mem_append, mem_onlyIf, List.mem_singleton, decide_eq_true_eq] at hslot
  rcases hslot with ⟨hcount, rfl⟩ | ⟨hcount, rfl⟩ | ⟨hcount, rfl⟩ | ⟨hcount, rfl⟩
  · exact ⟨_, h.arg1 hcount, rfl⟩
  · exact ⟨_, h.arg2 hcount, rfl⟩
  · exact ⟨_, h.arg3 hcount, rfl⟩
  · exact ⟨_, h.arg4 hcount, rfl⟩

lemma shapes_message {message : MessageInputs} (hregistered : message.Registered)
    (hfits : 44 + area (messageSlots message) ≤ 256) :
    definition.Shapes EVENT_MESSAGE (messageSlots message) := by
  rw [messageSlots_eq] at hfits ⊢
  refine ⟨by decide, _, [[udintField KEY_MESSAGE_TEMPLATE_ID message.templateId],
    argSlots message, onlyIf message.hasSeverity [uintField KEY_SEVERITY message.severity]], rfl,
    by simp only [List.flatten_cons, List.flatten_nil, List.append_nil], ?_⟩
  refine .cons (proper_udint rfl _).required (.cons ⟨Nat.zero_le _, trivial, ?_⟩
    (.cons ((proper_uint rfl _).optional _) .nil))
  intro slot hslot
  have hlength : slot.payload.length ≤ 256 := by
    have := payload_le_area (List.mem_append_right
      [udintField KEY_MESSAGE_TEMPLATE_ID message.templateId] (List.mem_append_left
        (onlyIf message.hasSeverity [uintField KEY_SEVERITY message.severity]) hslot))
    omega
  obtain ⟨arg, harg, rfl⟩ := exists_arg hregistered hslot
  refine ⟨takes_arg harg hlength rfl, ?_⟩
  rintro (hkey | hkey) <;> rw [key_arg] at hkey <;> cases hkey

/-! ## States and conditions -/

lemma shapes_stateTransition (stateMachineId : UInt32) (category previousState newState : UInt16) :
    definition.Shapes EVENT_STATE_TRANSITION
      ([udintField KEY_STATE_MACHINE_ID stateMachineId] ++ ([uintField KEY_CATEGORY category] ++
        ([uintField KEY_PREVIOUS_STATE previousState] ++ [uintField KEY_NEW_STATE newState]))) :=
  ⟨by decide, _, [[udintField KEY_STATE_MACHINE_ID stateMachineId],
      [uintField KEY_CATEGORY category], [uintField KEY_PREVIOUS_STATE previousState],
      [uintField KEY_NEW_STATE newState]], rfl, rfl,
    .cons (proper_udint rfl _).required (.cons (proper_uint rfl _).required
      (.cons (proper_uint rfl _).required (.cons (proper_uint rfl _).required .nil)))⟩

lemma shapes_conditionActive (conditionId : UInt32) (conditionClass severity : UInt16)
    (correlationId : UInt32) (hasCauseOperand : Bool) (causeOperand : UInt32) :
    definition.Shapes EVENT_CONDITION_ACTIVE (conditionSlots true conditionId conditionClass
      severity true correlationId hasCauseOperand causeOperand) := by
  refine ⟨by decide, _, [[udintField KEY_CONDITION_ID conditionId],
    [uintField KEY_CONDITION_CLASS conditionClass], [udintField KEY_CORRELATION_ID correlationId],
    [uintField KEY_SEVERITY severity],
    onlyIf hasCauseOperand [udintField KEY_CAUSE_OPERAND causeOperand], [], [], []],
    rfl, ?_, ?_⟩
  · simp only [conditionSlots, onlyIf_true, Bool.true_and, List.flatten_cons, List.flatten_nil,
      List.append_nil]
  have hcause : ∀ slot ∈ onlyIf hasCauseOperand [udintField KEY_CAUSE_OPERAND causeOperand],
      slot.Proper ∧ slot.key = KEY_CAUSE_OPERAND := by
    intro slot hslot
    rw [List.mem_singleton.mp (mem_onlyIf.mp hslot).2]
    exact ⟨proper_udint rfl _, rfl⟩
  exact .cons (proper_udint rfl _).required (.cons (proper_uint rfl _).required
    (.cons (proper_udint rfl _).required (.cons ((proper_uint rfl _).optional true)
      (.cons (fills_of_proper rfl rfl hcause) (.cons (fills_nil rfl)
        (.cons (fills_nil rfl) (.cons (fills_nil rfl) .nil)))))))

lemma shapes_conditionCleared (conditionId : UInt32) (conditionClass severity : UInt16)
    (correlationId : UInt32) (hasCauseOperand : Bool) (causeOperand : UInt32) :
    definition.Shapes EVENT_CONDITION_CLEARED (conditionSlots false conditionId conditionClass
      severity true correlationId hasCauseOperand causeOperand) :=
  ⟨by decide, _, [[udintField KEY_CONDITION_ID conditionId],
      [uintField KEY_CONDITION_CLASS conditionClass],
      [udintField KEY_CORRELATION_ID correlationId], []], rfl, rfl,
    .cons (proper_udint rfl _).required (.cons (proper_uint rfl _).required
      (.cons (proper_udint rfl _).required (.cons (fills_nil rfl) .nil)))⟩

/-! ## Lifecycles of conditions -/

/-- The lifecycle events that may say who acted. -/
def admitsAckBy (eventTypeId : UInt32) : Bool :=
  eventTypeId == 0x0202 || eventTypeId == 0x0203 || eventTypeId == 0x0204 ||
    eventTypeId == 0x0208 || eventTypeId == 0x020A || eventTypeId == 0x020B ||
    eventTypeId == 0x020C

/-- What a lifecycle event demands of its inputs. -/
structure LifecycleInputs.Suits (lifecycle : LifecycleInputs) (eventTypeId : UInt32) : Prop where
  allowed : lifecycle.AllowedFor eventTypeId
  ackBy : lifecycle.hasAckBy = true → admitsAckBy eventTypeId = true
  comment : eventTypeId = EVENT_CONDITION_COMMENTED → lifecycle.hasComment = true
  priority : eventTypeId = EVENT_CONDITION_PRIORITY_CHANGED →
    lifecycle.hasPreviousPriority = true ∧ lifecycle.hasNewPriority = true

/-- Nobody is named where the event does not admit it. -/
lemma LifecycleInputs.Suits.hasAckBy_eq_false {lifecycle : LifecycleInputs} {eventTypeId : UInt32}
    (h : lifecycle.Suits eventTypeId) (hadmits : admitsAckBy eventTypeId = false) :
    lifecycle.hasAckBy = false := by
  cases hflag : lifecycle.hasAckBy with
  | true => cases hadmits.symm.trans (h.ackBy hflag)
  | false => rfl

/-- The events in the range of operation 12. -/
lemma lifecycle_cases {eventTypeId : UInt32} (h : 0x0202 ≤ eventTypeId ∧ eventTypeId ≤ 0x020C) :
    (eventTypeId = EVENT_CONDITION_ACKNOWLEDGED ∨ eventTypeId = EVENT_CONDITION_CONFIRMED ∨
      eventTypeId = EVENT_CONDITION_RESET) ∨ eventTypeId = EVENT_CONDITION_SHELVED ∨
    eventTypeId = EVENT_CONDITION_UNSHELVED ∨ eventTypeId = EVENT_CONDITION_SUPPRESSED ∨
    (eventTypeId = EVENT_CONDITION_UNSUPPRESSED ∨ eventTypeId = EVENT_CONDITION_IN_SERVICE) ∨
    eventTypeId = EVENT_CONDITION_OUT_OF_SERVICE ∨ eventTypeId = EVENT_CONDITION_COMMENTED ∨
    eventTypeId = EVENT_CONDITION_PRIORITY_CHANGED := by
  simp only [UInt32.le_iff_toNat_le] at h
  simp only [← UInt32.toNat_inj]
  change 514 ≤ _ ∧ _ ≤ 524 at h
  change (_ = 514 ∨ _ = 515 ∨ _ = 523) ∨ _ = 516 ∨ _ = 517 ∨ _ = 518 ∨ (_ = 519 ∨ _ = 521) ∨
    _ = 520 ∨ _ = 522 ∨ _ = 524
  omega

section

variable {lifecycle : LifecycleInputs} {eventTypeId : UInt32}

/-- Only two events carry a comment or priorities. -/
lemma lifecycleSlots_eq (h : lifecycle.Suits eventTypeId)
    (hcomment : eventTypeId ≠ EVENT_CONDITION_COMMENTED)
    (hpriority : eventTypeId ≠ EVENT_CONDITION_PRIORITY_CHANGED)
    (conditionId correlationId : UInt32) :
    lifecycleSlots eventTypeId conditionId correlationId lifecycle =
      [udintField KEY_CONDITION_ID conditionId] ++
        (onlyIf (activationScoped eventTypeId) [udintField KEY_CORRELATION_ID correlationId] ++
          (onlyIf lifecycle.hasAckBy [stringField KEY_ACK_BY lifecycle.ackBy] ++
            (onlyIf lifecycle.hasShelveSecs [udintField KEY_SHELVE_SECS lifecycle.shelveSecs] ++
              onlyIf lifecycle.hasReason [stringField KEY_REASON lifecycle.reason]))) := by
  rw [lifecycleSlots, flag_eq_false h.allowed.comment hcomment,
    flag_eq_false h.allowed.previousPriority hpriority,
    flag_eq_false h.allowed.newPriority hpriority]
  rfl

lemma shapes_acknowledged (h : lifecycle.Suits eventTypeId)
    (hevent : eventTypeId = EVENT_CONDITION_ACKNOWLEDGED ∨
      eventTypeId = EVENT_CONDITION_CONFIRMED ∨ eventTypeId = EVENT_CONDITION_RESET)
    (conditionId correlationId : UInt32) :
    definition.Shapes eventTypeId
      (lifecycleSlots eventTypeId conditionId correlationId lifecycle) := by
  have hspec : ∃ spec ∈ EVENT_SPECS, spec.id = eventTypeId := by
    rcases hevent with rfl | rfl | rfl <;> decide
  have hschemas : canonicalSlots eventTypeId = canonicalSlots EVENT_CONDITION_RESET := by
    rcases hevent with rfl | rfl | rfl <;> rfl
  have hscoped : activationScoped eventTypeId = true := by
    rcases hevent with rfl | rfl | rfl <;> rfl
  have hshelve : lifecycle.hasShelveSecs = false :=
    flag_eq_false h.allowed.shelveSecs (by rcases hevent with rfl | rfl | rfl <;> decide)
  have hreason : lifecycle.hasReason = false :=
    flag_eq_false h.allowed.reason (by rcases hevent with rfl | rfl | rfl <;> decide)
  rw [lifecycleSlots_eq h (by rcases hevent with rfl | rfl | rfl <;> decide)
    (by rcases hevent with rfl | rfl | rfl <;> decide), hscoped, hshelve, hreason]
  exact ⟨hspec, _, [[udintField KEY_CONDITION_ID conditionId],
      [udintField KEY_CORRELATION_ID correlationId],
      onlyIf lifecycle.hasAckBy [stringField KEY_ACK_BY lifecycle.ackBy], []], hschemas, rfl,
    .cons (proper_udint rfl _).required (.cons (proper_udint rfl _).required
      (.cons ((proper_string rfl _).optional _) (.cons (fills_nil rfl) .nil)))⟩

lemma shapes_shelved (h : lifecycle.Suits EVENT_CONDITION_SHELVED)
    (conditionId correlationId : UInt32) :
    definition.Shapes EVENT_CONDITION_SHELVED
      (lifecycleSlots EVENT_CONDITION_SHELVED conditionId correlationId lifecycle) := by
  have hscoped : activationScoped EVENT_CONDITION_SHELVED = true := rfl
  rw [lifecycleSlots_eq h (by decide) (by decide), hscoped,
    flag_eq_false h.allowed.reason (by decide)]
  refine ⟨by decide, _, [[udintField KEY_CONDITION_ID conditionId],
      [udintField KEY_CORRELATION_ID correlationId],
      onlyIf lifecycle.hasAckBy [stringField KEY_ACK_BY lifecycle.ackBy],
      onlyIf lifecycle.hasShelveSecs [udintField KEY_SHELVE_SECS lifecycle.shelveSecs], []], rfl,
    rfl, ?_⟩
  exact .cons (proper_udint rfl _).required (.cons (proper_udint rfl _).required
    (.cons ((proper_string rfl _).optional _) (.cons ((proper_udint rfl _).optional _)
      (.cons (fills_nil rfl) .nil))))

lemma shapes_unshelved (h : lifecycle.Suits EVENT_CONDITION_UNSHELVED)
    (conditionId correlationId : UInt32) :
    definition.Shapes EVENT_CONDITION_UNSHELVED
      (lifecycleSlots EVENT_CONDITION_UNSHELVED conditionId correlationId lifecycle) := by
  have hscoped : activationScoped EVENT_CONDITION_UNSHELVED = true := rfl
  rw [lifecycleSlots_eq h (by decide) (by decide), hscoped, h.hasAckBy_eq_false rfl,
    flag_eq_false h.allowed.shelveSecs (by decide), flag_eq_false h.allowed.reason (by decide)]
  exact ⟨by decide, _, [[udintField KEY_CONDITION_ID conditionId],
      [udintField KEY_CORRELATION_ID correlationId], []], rfl, rfl,
    .cons (proper_udint rfl _).required (.cons (proper_udint rfl _).required
      (.cons (fills_nil rfl) .nil))⟩

lemma shapes_suppressed (h : lifecycle.Suits EVENT_CONDITION_SUPPRESSED)
    (conditionId correlationId : UInt32) :
    definition.Shapes EVENT_CONDITION_SUPPRESSED
      (lifecycleSlots EVENT_CONDITION_SUPPRESSED conditionId correlationId lifecycle) := by
  have hscoped : activationScoped EVENT_CONDITION_SUPPRESSED = false := rfl
  rw [lifecycleSlots_eq h (by decide) (by decide), hscoped, h.hasAckBy_eq_false rfl,
    flag_eq_false h.allowed.shelveSecs (by decide)]
  refine ⟨by decide, _, [[udintField KEY_CONDITION_ID conditionId],
      onlyIf lifecycle.hasReason [stringField KEY_REASON lifecycle.reason], []], rfl, ?_,
    .cons (proper_udint rfl _).required (.cons ((proper_string rfl _).optional _)
      (.cons (fills_nil rfl) .nil))⟩
  simp only [onlyIf_false, List.flatten_cons, List.flatten_nil, List.nil_append, List.append_nil]

lemma shapes_inService (h : lifecycle.Suits eventTypeId)
    (hevent : eventTypeId = EVENT_CONDITION_UNSUPPRESSED ∨
      eventTypeId = EVENT_CONDITION_IN_SERVICE) (conditionId correlationId : UInt32) :
    definition.Shapes eventTypeId
      (lifecycleSlots eventTypeId conditionId correlationId lifecycle) := by
  have hspec : ∃ spec ∈ EVENT_SPECS, spec.id = eventTypeId := by
    rcases hevent with rfl | rfl <;> decide
  have hschemas : canonicalSlots eventTypeId = canonicalSlots EVENT_CONDITION_IN_SERVICE := by
    rcases hevent with rfl | rfl <;> rfl
  have hscoped : activationScoped eventTypeId = false := by
    rcases hevent with rfl | rfl <;> rfl
  have hack : lifecycle.hasAckBy = false :=
    h.hasAckBy_eq_false (by rcases hevent with rfl | rfl <;> rfl)
  have hshelve : lifecycle.hasShelveSecs = false :=
    flag_eq_false h.allowed.shelveSecs (by rcases hevent with rfl | rfl <;> decide)
  have hreason : lifecycle.hasReason = false :=
    flag_eq_false h.allowed.reason (by rcases hevent with rfl | rfl <;> decide)
  rw [lifecycleSlots_eq h (by rcases hevent with rfl | rfl <;> decide)
    (by rcases hevent with rfl | rfl <;> decide), hscoped, hack, hshelve, hreason]
  exact ⟨hspec, _, [[udintField KEY_CONDITION_ID conditionId], []], hschemas, rfl,
    .cons (proper_udint rfl _).required (.cons (fills_nil rfl) .nil)⟩

lemma shapes_outOfService (h : lifecycle.Suits EVENT_CONDITION_OUT_OF_SERVICE)
    (conditionId correlationId : UInt32) :
    definition.Shapes EVENT_CONDITION_OUT_OF_SERVICE
      (lifecycleSlots EVENT_CONDITION_OUT_OF_SERVICE conditionId correlationId lifecycle) := by
  have hscoped : activationScoped EVENT_CONDITION_OUT_OF_SERVICE = false := rfl
  rw [lifecycleSlots_eq h (by decide) (by decide), hscoped,
    flag_eq_false h.allowed.shelveSecs (by decide), flag_eq_false h.allowed.reason (by decide)]
  exact ⟨by decide, _, [[udintField KEY_CONDITION_ID conditionId],
      onlyIf lifecycle.hasAckBy [stringField KEY_ACK_BY lifecycle.ackBy], []], rfl, rfl,
    .cons (proper_udint rfl _).required (.cons ((proper_string rfl _).optional _)
      (.cons (fills_nil rfl) .nil))⟩

lemma shapes_commented (h : lifecycle.Suits EVENT_CONDITION_COMMENTED)
    (conditionId correlationId : UInt32) :
    definition.Shapes EVENT_CONDITION_COMMENTED
      (lifecycleSlots EVENT_CONDITION_COMMENTED conditionId correlationId lifecycle) := by
  have hscoped : activationScoped EVENT_CONDITION_COMMENTED = true := rfl
  rw [lifecycleSlots, hscoped, h.comment rfl,
    flag_eq_false h.allowed.previousPriority (by decide),
    flag_eq_false h.allowed.newPriority (by decide),
    flag_eq_false h.allowed.shelveSecs (by decide), flag_eq_false h.allowed.reason (by decide)]
  exact ⟨by decide, _, [[udintField KEY_CONDITION_ID conditionId],
      [udintField KEY_CORRELATION_ID correlationId], [stringField KEY_COMMENT lifecycle.comment],
      onlyIf lifecycle.hasAckBy [stringField KEY_ACK_BY lifecycle.ackBy], []], rfl, rfl,
    .cons (proper_udint rfl _).required (.cons (proper_udint rfl _).required
      (.cons (proper_string rfl _).required (.cons ((proper_string rfl _).optional _)
        (.cons (fills_nil rfl) .nil))))⟩

lemma shapes_priorityChanged (h : lifecycle.Suits EVENT_CONDITION_PRIORITY_CHANGED)
    (conditionId correlationId : UInt32) :
    definition.Shapes EVENT_CONDITION_PRIORITY_CHANGED
      (lifecycleSlots EVENT_CONDITION_PRIORITY_CHANGED conditionId correlationId lifecycle) := by
  have hscoped : activationScoped EVENT_CONDITION_PRIORITY_CHANGED = false := rfl
  obtain ⟨hprevious, hnew⟩ := h.priority rfl
  rw [lifecycleSlots, hscoped, hprevious, hnew, flag_eq_false h.allowed.comment (by decide),
    flag_eq_false h.allowed.shelveSecs (by decide), flag_eq_false h.allowed.reason (by decide)]
  exact ⟨by decide, _, [[udintField KEY_CONDITION_ID conditionId],
      [uintField KEY_PREVIOUS_PRIORITY lifecycle.previousPriority],
      [uintField KEY_NEW_PRIORITY lifecycle.newPriority],
      onlyIf lifecycle.hasAckBy [stringField KEY_ACK_BY lifecycle.ackBy], []], rfl, rfl,
    .cons (proper_udint rfl _).required (.cons (proper_uint rfl _).required
      (.cons (proper_uint rfl _).required (.cons ((proper_string rfl _).optional _)
        (.cons (fills_nil rfl) .nil))))⟩

/-- **The slots of a lifecycle event.** -/
lemma shapes_lifecycle (hrange : 0x0202 ≤ eventTypeId ∧ eventTypeId ≤ 0x020C)
    (h : lifecycle.Suits eventTypeId) (conditionId correlationId : UInt32) :
    definition.Shapes eventTypeId
      (lifecycleSlots eventTypeId conditionId correlationId lifecycle) := by
  rcases lifecycle_cases hrange with hevent | rfl | rfl | rfl | hevent | rfl | rfl | rfl
  · exact shapes_acknowledged h hevent _ _
  · exact shapes_shelved h _ _
  · exact shapes_unshelved h _ _
  · exact shapes_suppressed h _ _
  · exact shapes_inService h hevent _ _
  · exact shapes_outOfService h _ _
  · exact shapes_commented h _ _
  · exact shapes_priorityChanged h _ _

end

/-! ## Batches and recipes -/

/-- The slots of a batch or recipe event. -/
lemma shapes_procedure {procedure : ProcedureInputs} (h : procedure.known) :
    definition.Shapes procedure.eventTypeId (procedureSlots procedure) := by
  unfold procedureSlots
  rcases h with h | h | h | h <;> rw [h]
  · rw [if_pos rfl]
    refine ⟨by decide, _, [[udintField KEY_RECIPE_ID procedure.recipeId],
      [stringField KEY_RECIPE_VERSION procedure.recipeVersion],
      onlyIf procedure.hasBatchId [udintField KEY_BATCH_ID procedure.batchId], []], rfl, ?_, ?_⟩
    · simp only [List.flatten_cons, List.flatten_nil, List.append_nil]
    · exact .cons (proper_udint rfl _).required (.cons (proper_string rfl _).required
        (.cons ((proper_udint rfl _).optional _) (.cons (fills_nil rfl) .nil)))
  · rw [if_neg (by decide), if_pos rfl]
    refine ⟨by decide, _, [[udintField KEY_RECIPE_ID procedure.recipeId],
      [stringField KEY_RECIPE_VERSION procedure.recipeVersion],
      onlyIf procedure.hasAuthResult [uintField KEY_AUTH_RESULT procedure.authResult],
      onlyIf procedure.hasAckBy [stringField KEY_ACK_BY procedure.ackBy]], rfl, ?_, ?_⟩
    · simp only [List.flatten_cons, List.flatten_nil, List.append_nil]
    · exact .cons (proper_udint rfl _).required (.cons (proper_string rfl _).required
        (.cons ((proper_uint rfl _).optional _) (.cons ((proper_string rfl _).optional _) .nil)))
  · rw [if_neg (by decide), if_neg (by decide), if_pos rfl]
    refine ⟨by decide, _, [[udintField KEY_BATCH_ID procedure.batchId],
      [uintField KEY_NEW_STATE procedure.newState],
      onlyIf procedure.hasRecipeId [udintField KEY_RECIPE_ID procedure.recipeId]], rfl, ?_, ?_⟩
    · simp only [List.flatten_cons, List.flatten_nil, List.append_nil]
    · exact .cons (proper_udint rfl _).required (.cons (proper_uint rfl _).required
        (.cons ((proper_udint rfl _).optional _) .nil))
  · rw [if_neg (by decide), if_neg (by decide), if_neg (by decide), if_pos rfl]
    refine ⟨by decide, _, [[udintField KEY_BATCH_ID procedure.batchId],
      [udintField KEY_MATERIAL_ID procedure.materialId],
      [longField KEY_QUANTITY TY_LREAL procedure.quantity],
      onlyIf procedure.hasUnit [uintField KEY_UNIT procedure.unitId], []], rfl, ?_, ?_⟩
    · simp only [List.flatten_cons, List.flatten_nil, List.append_nil]
    · exact .cons (proper_udint rfl _).required (.cons (proper_udint rfl _).required
        (.cons (proper_long rfl rfl _).required (.cons ((proper_uint rfl _).optional _)
          (.cons (fills_nil rfl) .nil))))

/-! ## Regulated actions -/

/-- The slots of a regulated action. -/
lemma shapes_regulated {regulated : RegulatedInputs} (h : regulated.known) :
    definition.Shapes regulated.eventTypeId (regulatedSlots regulated) := by
  unfold regulatedSlots
  rcases h with h | h | h | h <;> rw [h] <;> dsimp only
  · rw [if_pos rfl]
    set contexts := onlyIf regulated.hasContext1 [udintField KEY_CONTEXT_REF regulated.context1] ++
      (onlyIf regulated.hasContext2 [udintField KEY_CONTEXT_REF regulated.context2] ++
        (onlyIf regulated.hasContext3 [udintField KEY_CONTEXT_REF regulated.context3] ++
          onlyIf regulated.hasContext4 [udintField KEY_CONTEXT_REF regulated.context4]))
      with hcontexts
    have hproper : ∀ slot ∈ contexts, slot.Proper ∧ slot.key = KEY_CONTEXT_REF := by
      intro slot hslot
      simp only [hcontexts, List.mem_append, mem_onlyIf, List.mem_singleton] at hslot
      rcases hslot with ⟨-, rfl⟩ | ⟨-, rfl⟩ | ⟨-, rfl⟩ | ⟨-, rfl⟩ <;>
        exact ⟨proper_udint rfl _, rfl⟩
    refine ⟨by decide, _, [[udintField KEY_ACTION_ID regulated.actionId],
      [stringField KEY_ACTOR regulated.actor], contexts,
      onlyIf regulated.hasAuthResult [uintField KEY_AUTH_RESULT regulated.authResult],
      onlyIf regulated.hasWorkstation [stringField KEY_WORKSTATION regulated.workstation]], rfl,
      ?_, ?_⟩
    · simp only [hcontexts, List.flatten_cons, List.flatten_nil, List.append_nil,
        List.append_assoc]
    · exact .cons (proper_udint rfl _).required (.cons (proper_string rfl _).required
        (.cons (fills_of_proper rfl rfl hproper) (.cons ((proper_uint rfl _).optional _)
          (.cons ((proper_string rfl _).optional _) .nil))))
  · rw [if_neg (by decide), if_pos rfl]
    refine ⟨by decide, _, [[stringField KEY_ACTOR regulated.actor],
      [uintField KEY_AUTH_RESULT regulated.authResult],
      onlyIf regulated.hasWorkstation [stringField KEY_WORKSTATION regulated.workstation],
      onlyIf regulated.hasRole [uintField KEY_ROLE regulated.role]], rfl, ?_, ?_⟩
    · simp only [List.flatten_cons, List.flatten_nil, List.append_nil]
    · exact .cons (proper_string rfl _).required (.cons (proper_uint rfl _).required
        (.cons ((proper_string rfl _).optional _) (.cons ((proper_uint rfl _).optional _) .nil)))
  · rw [if_neg (by decide), if_neg (by decide), if_pos rfl]
    refine ⟨by decide, _, [[stringField KEY_ACTOR regulated.actor],
      onlyIf regulated.hasWorkstation [stringField KEY_WORKSTATION regulated.workstation]], rfl,
      ?_, ?_⟩
    · simp only [List.flatten_cons, List.flatten_nil, List.append_nil]
    · exact .cons (proper_string rfl _).required (.cons ((proper_string rfl _).optional _) .nil)
  · rw [if_neg (by decide), if_neg (by decide), if_neg (by decide), if_pos rfl]
    refine ⟨by decide, _, [[stringField KEY_ACTOR regulated.actor],
      onlyIf regulated.hasWorkstation [stringField KEY_WORKSTATION regulated.workstation],
      onlyIf regulated.hasReason [stringField KEY_REASON regulated.reason]], rfl, ?_, ?_⟩
    · simp only [List.flatten_cons, List.flatten_nil, List.append_nil]
    · exact .cons (proper_string rfl _).required (.cons ((proper_string rfl _).optional _)
        (.cons ((proper_string rfl _).optional _) .nil))

/-! ## Signatures -/

/-- The slots of a signature. -/
lemma shapes_signature (actionId : UInt32) (actor : String96) (signatureMeaning : UInt16)
    (signedEventSeq : UInt64) (hasAuthResult : Bool) (authResult : UInt16) :
    definition.Shapes EVENT_ESIGNATURE (signatureSlots actionId actor signatureMeaning
      signedEventSeq hasAuthResult authResult) := by
  refine ⟨by decide, _, [[udintField KEY_ACTION_ID actionId], [stringField KEY_ACTOR actor],
    [uintField KEY_SIGNATURE_MEANING signatureMeaning],
    [longField KEY_SIGNED_EVENT_SEQ TY_ULINT signedEventSeq],
    onlyIf hasAuthResult [uintField KEY_AUTH_RESULT authResult]], rfl, ?_, ?_⟩
  · simp only [signatureSlots, List.flatten_cons, List.flatten_nil, List.append_nil]
  · exact .cons (proper_udint rfl _).required (.cons (proper_string rfl _).required
      (.cons (proper_uint rfl _).required (.cons (proper_long rfl rfl _).required
        (.cons ((proper_uint rfl _).optional _) .nil))))

end OpenOT.St
