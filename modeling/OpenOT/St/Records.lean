import OpenOT.St.Encoders
import OpenOT.St.Writers

set_option relaxedAutoImplicit false
set_option autoImplicit false

/-!
# The records the encoders write

For each encoder of the controller the record whose bytes it writes. An encoder that is asked for a
record of more than 256 bytes stops at the end of its buffer.

## Main definitions

* `OpenOT.St.messageSlots`, `OpenOT.St.valueChangedSlots`, `OpenOT.St.lifecycleSlots`, … — the
  slots of the records.
* `OpenOT.St.Counts` — a 16-bit sum is a length, as long as that is a 16-bit number.

## Main results

* `OpenOT.St.encodes_minimalMessage`, `OpenOT.St.encodes_valueChanged`,
  `OpenOT.St.encodes_conditionLifecycle`, … — each encoder writes its record, with the length it
  has computed before.
-/

namespace OpenOT.St

open Rust CircularLog

/-! ## Slots -/

/-- A slot of type `UDINT`. -/
def udintField (key : UInt16) (value : UInt32) : Slot := ⟨key, TY_UDINT, toLe 4 value.toNat⟩

/-- A slot of type `UINT`. -/
def uintField (key : UInt16) (value : UInt16) : Slot := ⟨key, TY_UINT, toLe 2 value.toNat⟩

/-- A slot of eight bytes. -/
def longField (key : UInt16) (ty : UInt8) (value : UInt64) : Slot := ⟨key, ty, toLe 8 value.toNat⟩

/-- A slot of four bytes. -/
def wordField (key : UInt16) (ty : UInt8) (value : UInt32) : Slot := ⟨key, ty, toLe 4 value.toNat⟩

/-- A slot of type `STRING`. -/
def stringField (key : UInt16) (value : String96) : Slot := ⟨key, TY_STRING, value.chars⟩

/-- A slot of the bytes of a bit string. -/
def bitsField (key : UInt16) (ty : UInt8) (value : UInt64) (payloadLength : UInt16) : Slot :=
  ⟨key, ty, toLe (writtenBytes payloadLength) value.toNat⟩

/-- Slots behind an `IF`. -/
def onlyIf (present : Bool) (slots : List Slot) : List Slot := if present then slots else []

/-- How many bytes slots take. -/
def area (slots : List Slot) : ℕ := (slotArea slots).length

@[simp] lemma area_nil : area [] = 0 := rfl

@[simp] lemma area_append (as bs : List Slot) : area (as ++ bs) = area as + area bs := by
  rw [area, slotArea_append, List.length_append, area, area]

@[simp] lemma area_onlyIf (present : Bool) (slots : List Slot) :
    area (onlyIf present slots) = if present then area slots else 0 := by
  unfold onlyIf
  split_ifs <;> rfl

/-- How many bytes one slot takes. -/
lemma area_singleton (slot : Slot) :
    area [slot] = 4 + slot.payload.length + paddingLen slot.payload.length := by
  simp [area, slotArea]

/-- The payload of one of the slots is shorter than all of them. -/
lemma payload_le_area {slot : Slot} {slots : List Slot} (h : slot ∈ slots) :
    4 + slot.payload.length ≤ area slots := by
  obtain ⟨before, after, rfl⟩ := List.append_of_mem h
  rw [area_append, ← List.singleton_append, area_append, area_singleton]
  omega

@[simp] lemma area_udintField (key : UInt16) (value : UInt32) : area [udintField key value] = 8 := by
  simp [area_singleton, udintField, paddingLen]

@[simp] lemma area_uintField (key : UInt16) (value : UInt16) : area [uintField key value] = 8 := by
  simp [area_singleton, uintField, paddingLen]

@[simp] lemma area_longField (key : UInt16) (ty : UInt8) (value : UInt64) :
    area [longField key ty value] = 12 := by
  simp [area_singleton, longField, paddingLen]

@[simp] lemma area_wordField (key : UInt16) (ty : UInt8) (value : UInt32) :
    area [wordField key ty value] = 8 := by
  simp [area_singleton, wordField, paddingLen]

/-- A string of at most 96 characters takes at most 100 bytes. -/
lemma area_stringField_le (key : UInt16) (value : String96) :
    4 ≤ area [stringField key value] ∧ area [stringField key value] ≤ 100 := by
  have := value.length_le
  have := paddingLen_spec value.chars.length
  rw [area_singleton, stringField]
  dsimp only
  omega

/-! ## Lengths -/

/-- The sum is the length `n`, as long as that is a 16-bit number. -/
def Counts (total : UInt16) (n : ℕ) : Prop := n < 65536 → total.toNat = n

/-- Lengths add up. -/
lemma Counts.add {a b : UInt16} {m n : ℕ} (ha : Counts a m) (hb : Counts b n) :
    Counts (a + b) (m + n) := by
  intro hle
  rw [UInt16.toNat_add, ha (by omega), hb (by omega)]
  exact Nat.mod_eq_of_lt (by omega)

/-- What an `IF` adds. -/
lemma Counts.plus {a : UInt16} {m : ℕ} (ha : Counts a m) (present : Bool) :
    Counts (plus present a) (if present then m else 0) := by
  cases present with
  | true => exact ha
  | false => exact fun _ => rfl

/-- A constant. -/
lemma counts_const (a : UInt16) : Counts a a.toNat := fun _ => rfl

/-- The slot of a number of at most four bytes. -/
lemma counts_eight : Counts 8 8 := fun _ => rfl

lemma Counts.of_eq {a : UInt16} {m n : ℕ} (h : Counts a m) (heq : m = n) : Counts a n := heq ▸ h

/-- The padded length of a payload. -/
lemma counts_valueSlot {length : UInt16} {n : ℕ} (hn : n < 65532 → length.toNat = n) :
    Counts (valueSlotEncodedLength length) (4 + n + paddingLen n) := by
  intro hle
  have hpad : (if length % 4 ≠ 0 then 4 - length % 4 else 0).toNat = paddingLen n := by
    have hlen := hn (by omega)
    have hmod : (length % 4).toNat = n % 4 := by
      rw [UInt16.toNat_mod, hlen]
      rfl
    unfold paddingLen
    split_ifs with hzero
    · have hne : n % 4 ≠ 0 := fun h => hzero (UInt16.toNat_inj.mp (hmod.trans h))
      have hlt : length % 4 ≤ 4 := by
        rw [UInt16.le_iff_toNat_le, hmod]
        have : (4 : UInt16).toNat = 4 := rfl
        omega
      rw [UInt16.toNat_sub_of_le _ _ hlt, hmod]
      have : (4 : UInt16).toNat = 4 := rfl
      omega
    · have hz : n % 4 = 0 := by
        rw [← hmod, not_not.mp hzero]
        rfl
      simp [hz]
  rw [valueSlotEncodedLength, UInt16.toNat_add, UInt16.toNat_add, hpad, hn (by omega)]
  have : (4 : UInt16).toNat = 4 := rfl
  omega

/-- The slot of a string. -/
lemma counts_string (key : UInt16) (value : String96) :
    Counts (valueSlotEncodedLength (len value)) (area [stringField key value]) := by
  rw [area_singleton]
  exact counts_valueSlot fun _ => toNat_len value

/-- The slot of a bit string. -/
lemma counts_bits (key : UInt16) (ty : UInt8) (value : UInt64) (payloadLength : UInt16) :
    Counts (valueSlotEncodedLength payloadLength)
      (area [bitsField key ty value payloadLength]) := by
  rw [area_singleton, bitsField, length_toLe]
  refine counts_valueSlot fun hle => ?_
  by_cases hzero : payloadLength = 0
  · rw [hzero, writtenBytes_zero] at hle
    omega
  · exact (writtenBytes_eq hzero).symm

/-- An encoder whose body writes the slots, with the length of the record computed before. -/
lemma encodes_of_counts {totalLength : UInt16} {envelope : Envelope} {eventTypeId : UInt32}
    {body : UInt16 → Writes UInt16} {slots : List Slot} (hbody : EmitsSlots body slots)
    (hcounts : Counts totalLength (44 + area slots)) :
    Encodes (encodeRecord totalLength envelope eventTypeId body)
      (envelope.record eventTypeId slots) :=
  encodes_encodeRecord hbody fun hle => hcounts (by
    rw [area]
    omega)

/-! ## Lifecycle -/

lemma encodes_sourceHighWater (sourceId : UInt32) (runId producedCount sourceTime : UInt64) :
    Encodes (encodeSourceHighWater sourceId runId producedCount sourceTime)
      (Envelope.record ⟨sourceTime, runId, producedCount, sourceId⟩ EVENT_SOURCE_HIGH_WATER
        [longField KEY_SOURCE_HIGH_WATER TY_ULINT producedCount]) := by
  refine encodes_of_counts (emitsSlots_u64Slot _ _ _) ((counts_const 56).of_eq ?_)
  rw [area_longField]
  rfl

lemma encodes_loggerStarted (runId seq : UInt64) (coldStart : Bool) (sourceTime : UInt64) :
    Encodes (encodeLoggerStarted runId seq coldStart sourceTime)
      (Envelope.record ⟨sourceTime, runId, seq, 0⟩ EVENT_LOGGER_STARTED
        [⟨KEY_COLD_START, TY_BOOL, [if coldStart then 1 else 0]⟩]) :=
  encodes_of_counts (emitsSlots_boolSlot _ _) fun _ => rfl

lemma encodes_loggerStopped (runId seq sourceTime : UInt64) :
    Encodes (encodeLoggerStopped runId seq sourceTime)
      (Envelope.record ⟨sourceTime, runId, seq, 0⟩ EVENT_LOGGER_STOPPED []) :=
  encodes_of_counts emitsSlots_pure fun _ => rfl

lemma encodes_definitionChanged (runId seq : UInt64) (defHashOld defHashNew : Vector UInt8 8)
    (epochId sourceTime : UInt64) :
    Encodes (encodeDefinitionChanged runId seq defHashOld defHashNew epochId sourceTime)
      (Envelope.record ⟨sourceTime, runId, seq, 0⟩ EVENT_DEFINITION_CHANGED
        [⟨KEY_DEF_HASH_OLD, TY_BYTES, defHashOld.toList⟩,
          ⟨KEY_DEF_HASH_NEW, TY_BYTES, defHashNew.toList⟩,
          longField KEY_EPOCH_ID TY_ULINT epochId]) := by
  refine encodes_of_counts ((emitsSlots_hashSlot _ _).bind
    ((emitsSlots_hashSlot _ _).bind (emitsSlots_u64Slot _ _ _))) fun _ => ?_
  simp [area, slotArea, longField, paddingLen]

/-! ## Messages -/

/-- The slot of an argument of a message. -/
def MessageArg.field (arg : MessageArg) : Slot :=
  if arg.typeTag = TY_STRING then stringField KEY_ARG arg.string
  else bitsField KEY_ARG arg.typeTag arg.bits arg.payloadLength

/-- The slots of a message. -/
def messageSlots (message : MessageInputs) : List Slot :=
  [udintField KEY_MESSAGE_TEMPLATE_ID message.templateId] ++
    (onlyIf (1 ≤ message.argCount) [message.arg1.field] ++
      (onlyIf (2 ≤ message.argCount) [message.arg2.field] ++
        (onlyIf (3 ≤ message.argCount) [message.arg3.field] ++
          (onlyIf (4 ≤ message.argCount) [message.arg4.field] ++
            onlyIf message.hasSeverity [uintField KEY_SEVERITY message.severity]))))

lemma emitsSlots_arg (arg : MessageArg) : EmitsSlots arg.slot [arg.field] := by
  unfold MessageArg.field
  split_ifs with htag
  · have hslot : arg.slot = stringSlot 0x0015 arg.string (len arg.string) := by
      funext pos
      exact if_pos htag
    rw [hslot]
    exact emitsSlots_stringSlot _ _
  · have hslot : arg.slot = bitsSlot 0x0015 arg.typeTag arg.bits arg.payloadLength := by
      funext pos
      exact if_neg htag
    rw [hslot]
    exact emitsSlots_bitsSlot _ _ _ _

lemma counts_arg (arg : MessageArg) :
    Counts (valueSlotEncodedLength arg.length) (area [arg.field]) := by
  unfold MessageArg.field MessageArg.length
  by_cases htag : arg.typeTag = TY_STRING
  · rw [if_pos htag, if_pos (show arg.typeTag = 0x0C from htag)]
    exact counts_string _ _
  · rw [if_neg htag, if_neg (show ¬arg.typeTag = 0x0C from htag)]
    exact counts_bits _ _ _ _

lemma encodes_minimalMessage (envelope : Envelope) (message : MessageInputs) :
    Encodes (encodeMinimalMessage envelope message)
      (envelope.record EVENT_MESSAGE (messageSlots message)) := by
  refine encodes_of_counts ((emitsSlots_udintSlot _ _).bind
    (((emitsSlots_arg message.arg1).optional _).bind
      (((emitsSlots_arg message.arg2).optional _).bind
        (((emitsSlots_arg message.arg3).optional _).bind
          (((emitsSlots_arg message.arg4).optional _).bind
            ((emitsSlots_uintSlot _ _).optional _)))))) ?_
  refine (((((((counts_const 40).add counts_eight).add (counts_const 4)).add
    ((counts_arg message.arg1).plus _)).add ((counts_arg message.arg2).plus _)).add
    ((counts_arg message.arg3).plus _)).add ((counts_arg message.arg4).plus _)).add
    (counts_eight.plus _) |>.of_eq ?_
  simp only [messageSlots, area_append, area_onlyIf, area_udintField, area_uintField]
  have h4 : (4 : UInt16).toNat = 4 := rfl
  have h40 : (40 : UInt16).toNat = 40 := rfl
  omega

/-! ## Values -/

/-- The slots of a changed value. -/
def valueChangedSlots (valueId : UInt32) (newField previousField : Slot)
    (hasPrevious hasQuality : Bool) (quality : UInt16) : List Slot :=
  [udintField KEY_VALUE_ID valueId] ++ ([newField] ++ (onlyIf hasPrevious [previousField] ++
    onlyIf hasQuality [uintField KEY_QUALITY quality]))

/-- An encoder of changed values, given what its two value slots write. -/
lemma encodes_valueChanged {envelope : Envelope} {valueId : UInt32}
    {newLength previousLength : UInt16} {newSlot previousSlot : UInt16 → Writes UInt16}
    {newField previousField : Slot} (hnew : EmitsSlots newSlot [newField])
    (hprevious : EmitsSlots previousSlot [previousField])
    (hnewLength : Counts newLength (area [newField]))
    (hpreviousLength : Counts previousLength (area [previousField]))
    (hasPrevious hasQuality : Bool) (quality : UInt16) :
    Encodes (encodeValueChanged envelope valueId newLength previousLength newSlot previousSlot
        hasPrevious hasQuality quality)
      (envelope.record EVENT_VALUE_CHANGED
        (valueChangedSlots valueId newField previousField hasPrevious hasQuality quality)) := by
  refine encodes_of_counts ((emitsSlots_udintSlot _ _).bind (hnew.bind
    ((hprevious.optional _).bind ((emitsSlots_uintSlot _ _).optional _)))) ?_
  refine (((((counts_const 40).add counts_eight).add hnewLength).add (counts_const 4)).add
    (hpreviousLength.plus _)).add (counts_eight.plus _) |>.of_eq ?_
  simp only [valueChangedSlots, area_append, area_onlyIf, area_udintField, area_uintField]
  have h4 : (4 : UInt16).toNat = 4 := rfl
  have h40 : (40 : UInt16).toNat = 40 := rfl
  omega

lemma encodes_valueChangedReal (envelope : Envelope) (valueId newValue : UInt32)
    (hasPrevious : Bool) (previousValue : UInt32) (hasQuality : Bool) (quality : UInt16) :
    Encodes (encodeValueChangedReal envelope valueId newValue hasPrevious previousValue hasQuality
        quality)
      (envelope.record EVENT_VALUE_CHANGED (valueChangedSlots valueId
        (wordField KEY_NEW_VALUE TY_REAL newValue)
        (wordField KEY_PREVIOUS_VALUE TY_REAL previousValue) hasPrevious hasQuality quality)) :=
  encodes_valueChanged (emitsSlots_dwordSlot _ _ _) (emitsSlots_dwordSlot _ _ _)
    (counts_eight.of_eq (area_wordField _ _ _).symm)
    (counts_eight.of_eq (area_wordField _ _ _).symm) _ _ _

lemma encodes_valueChangedInt (envelope : Envelope) (valueId : UInt32) (newValue : Int32)
    (hasPrevious : Bool) (previousValue : Int32) (hasQuality : Bool) (quality : UInt16) :
    Encodes (encodeValueChangedInt envelope valueId newValue hasPrevious previousValue hasQuality
        quality)
      (envelope.record EVENT_VALUE_CHANGED (valueChangedSlots valueId
        (wordField KEY_NEW_VALUE TY_DINT newValue.toUInt32)
        (wordField KEY_PREVIOUS_VALUE TY_DINT previousValue.toUInt32) hasPrevious hasQuality
        quality)) :=
  encodes_valueChanged (emitsSlots_dwordSlot _ _ _) (emitsSlots_dwordSlot _ _ _)
    (counts_eight.of_eq (area_wordField _ _ _).symm)
    (counts_eight.of_eq (area_wordField _ _ _).symm) _ _ _

lemma encodes_valueChangedBits (envelope : Envelope) (valueId : UInt32) (typeTag : UInt8)
    (payloadLength : UInt16) (newBits : UInt64) (hasPrevious : Bool) (previousBits : UInt64)
    (hasQuality : Bool) (quality : UInt16) :
    Encodes (encodeValueChangedBits envelope valueId typeTag payloadLength newBits hasPrevious
        previousBits hasQuality quality)
      (envelope.record EVENT_VALUE_CHANGED (valueChangedSlots valueId
        (bitsField KEY_NEW_VALUE typeTag newBits payloadLength)
        (bitsField KEY_PREVIOUS_VALUE typeTag previousBits payloadLength) hasPrevious hasQuality
        quality)) :=
  encodes_valueChanged (emitsSlots_bitsSlot _ _ _ _) (emitsSlots_bitsSlot _ _ _ _)
    (counts_bits _ _ _ _) (counts_bits _ _ _ _) _ _ _

lemma encodes_valueChangedString (envelope : Envelope) (valueId : UInt32) (newValue : String96)
    (hasPrevious : Bool) (previousValue : String96) (hasQuality : Bool) (quality : UInt16) :
    Encodes (encodeValueChangedString envelope valueId newValue hasPrevious previousValue hasQuality
        quality)
      (envelope.record EVENT_VALUE_CHANGED (valueChangedSlots valueId
        (stringField KEY_NEW_VALUE newValue) (stringField KEY_PREVIOUS_VALUE previousValue)
        hasPrevious hasQuality quality)) := by
  rw [encodeValueChangedString, len96_eq, len96_eq]
  exact encodes_valueChanged (emitsSlots_stringSlot _ _) (emitsSlots_stringSlot _ _)
    (counts_string _ _) (counts_string _ _) _ _ _

/-! ## States and conditions -/

lemma encodes_stateTransition (envelope : Envelope) (stateMachineId : UInt32)
    (category previousState newState : UInt16) :
    Encodes (encodeStateTransition envelope stateMachineId category previousState newState)
      (envelope.record EVENT_STATE_TRANSITION
        ([udintField KEY_STATE_MACHINE_ID stateMachineId] ++ ([uintField KEY_CATEGORY category] ++
          ([uintField KEY_PREVIOUS_STATE previousState] ++
            [uintField KEY_NEW_STATE newState])))) := by
  refine encodes_of_counts ((emitsSlots_udintSlot _ _).bind ((emitsSlots_uintSlot _ _).bind
    ((emitsSlots_uintSlot _ _).bind (emitsSlots_uintSlot _ _)))) ((counts_const 76).of_eq ?_)
  simp only [area_append, area_udintField, area_uintField]
  rfl

/-- The slots of a condition that becomes active or is cleared. -/
def conditionSlots (isActive : Bool) (conditionId : UInt32) (conditionClass severity : UInt16)
    (hasCorrelationId : Bool) (correlationId : UInt32) (hasCauseOperand : Bool)
    (causeOperand : UInt32) : List Slot :=
  [udintField KEY_CONDITION_ID conditionId] ++
    ([uintField KEY_CONDITION_CLASS conditionClass] ++
      (onlyIf hasCorrelationId [udintField KEY_CORRELATION_ID correlationId] ++
        (onlyIf isActive [uintField KEY_SEVERITY severity] ++
          onlyIf (isActive && hasCauseOperand) [udintField KEY_CAUSE_OPERAND causeOperand])))

lemma encodes_condition (envelope : Envelope) (eventTypeId conditionId : UInt32)
    (conditionClass severity : UInt16) (hasCorrelationId : Bool) (correlationId : UInt32)
    (hasCauseOperand : Bool) (causeOperand : UInt32) :
    Encodes (encodeCondition envelope eventTypeId conditionId conditionClass severity
        hasCorrelationId correlationId hasCauseOperand causeOperand)
      (envelope.record eventTypeId (conditionSlots (eventTypeId == EVENT_CONDITION_ACTIVE)
        conditionId conditionClass severity hasCorrelationId correlationId hasCauseOperand
        causeOperand)) := by
  refine encodes_of_counts ((emitsSlots_udintSlot _ _).bind ((emitsSlots_uintSlot _ _).bind
    (((emitsSlots_udintSlot _ _).optional _).bind (((emitsSlots_uintSlot _ _).optional _).bind
      ((emitsSlots_udintSlot _ _).optional _))))) ?_
  refine (((counts_const 60).add (counts_eight.plus _)).add (counts_eight.plus _)).add
    (counts_eight.plus _) |>.of_eq ?_
  simp only [conditionSlots, area_append, area_onlyIf, area_udintField, area_uintField]
  have h60 : (60 : UInt16).toNat = 60 := rfl
  change _ + (if (eventTypeId == EVENT_CONDITION_ACTIVE) = true then 8 else 0) +
    (if (eventTypeId == EVENT_CONDITION_ACTIVE && hasCauseOperand) = true then 8 else 0) = _
  omega

/-- The lifecycle inputs that are present belong to the event. -/
structure LifecycleInputs.AllowedFor (lifecycle : LifecycleInputs) (eventTypeId : UInt32) :
    Prop where
  comment : lifecycle.hasComment = true → eventTypeId = EVENT_CONDITION_COMMENTED
  previousPriority : lifecycle.hasPreviousPriority = true →
    eventTypeId = EVENT_CONDITION_PRIORITY_CHANGED
  newPriority : lifecycle.hasNewPriority = true → eventTypeId = EVENT_CONDITION_PRIORITY_CHANGED
  shelveSecs : lifecycle.hasShelveSecs = true → eventTypeId = EVENT_CONDITION_SHELVED
  reason : lifecycle.hasReason = true → eventTypeId = EVENT_CONDITION_SUPPRESSED

/-- The slots of a lifecycle event of a condition. -/
def lifecycleSlots (eventTypeId conditionId correlationId : UInt32) (lifecycle : LifecycleInputs) :
    List Slot :=
  [udintField KEY_CONDITION_ID conditionId] ++
    (onlyIf (activationScoped eventTypeId) [udintField KEY_CORRELATION_ID correlationId] ++
      (onlyIf lifecycle.hasComment [stringField KEY_COMMENT lifecycle.comment] ++
        (onlyIf lifecycle.hasPreviousPriority
            [uintField KEY_PREVIOUS_PRIORITY lifecycle.previousPriority] ++
          (onlyIf lifecycle.hasNewPriority [uintField KEY_NEW_PRIORITY lifecycle.newPriority] ++
            (onlyIf lifecycle.hasAckBy [stringField KEY_ACK_BY lifecycle.ackBy] ++
              (onlyIf lifecycle.hasShelveSecs
                  [udintField KEY_SHELVE_SECS lifecycle.shelveSecs] ++
                onlyIf lifecycle.hasReason [stringField KEY_REASON lifecycle.reason]))))))

/-- A flag that is only set for another event. -/
lemma flag_eq_false {flag : Bool} {eventTypeId event : UInt32}
    (h : flag = true → eventTypeId = event) (hne : eventTypeId ≠ event) : flag = false := by
  cases flag with
  | true => exact absurd (h rfl) hne
  | false => rfl

@[simp] lemma onlyIf_false (slots : List Slot) : onlyIf false slots = [] := rfl

/-- The branches of the encoder write their slots in a common order. -/
lemma emitsSlots_lifecycle {eventTypeId : UInt32} {lifecycle : LifecycleInputs}
    {w : UInt16 → Writes UInt16} (hend : EmitsSlots w [])
    (hallowed : lifecycle.AllowedFor eventTypeId) :
    EmitsSlots (fun pos =>
      if eventTypeId = 0x020A then do
        let pos ← optional lifecycle.hasComment
          (stringSlot 0x0037 lifecycle.comment (len lifecycle.comment)) pos
        let pos ← optional lifecycle.hasAckBy
          (stringSlot 0x001D lifecycle.ackBy (len lifecycle.ackBy)) pos
        w pos
      else if eventTypeId = 0x020C then do
        let pos ← optional lifecycle.hasPreviousPriority
          (uintSlot 0x002E lifecycle.previousPriority) pos
        let pos ← optional lifecycle.hasNewPriority (uintSlot 0x002C lifecycle.newPriority) pos
        let pos ← optional lifecycle.hasAckBy
          (stringSlot 0x001D lifecycle.ackBy (len lifecycle.ackBy)) pos
        w pos
      else do
        let pos ← optional lifecycle.hasAckBy
          (stringSlot 0x001D lifecycle.ackBy (len lifecycle.ackBy)) pos
        let pos ← optional lifecycle.hasShelveSecs (udintSlot 0x001E lifecycle.shelveSecs) pos
        let pos ← optional lifecycle.hasReason
          (stringSlot 0x001F lifecycle.reason (len lifecycle.reason)) pos
        w pos)
      (onlyIf lifecycle.hasComment [stringField KEY_COMMENT lifecycle.comment] ++
        (onlyIf lifecycle.hasPreviousPriority
            [uintField KEY_PREVIOUS_PRIORITY lifecycle.previousPriority] ++
          (onlyIf lifecycle.hasNewPriority [uintField KEY_NEW_PRIORITY lifecycle.newPriority] ++
            (onlyIf lifecycle.hasAckBy [stringField KEY_ACK_BY lifecycle.ackBy] ++
              (onlyIf lifecycle.hasShelveSecs
                  [udintField KEY_SHELVE_SECS lifecycle.shelveSecs] ++
                onlyIf lifecycle.hasReason [stringField KEY_REASON lifecycle.reason]))))) := by
  have hack := (emitsSlots_stringSlot 0x001D lifecycle.ackBy).optional lifecycle.hasAckBy
  refine .ite (fun hcomment => ?_) fun hcomment => .ite (fun hpriority => ?_) fun hpriority => ?_
  · rw [flag_eq_false hallowed.previousPriority (hcomment ▸ by decide),
      flag_eq_false hallowed.newPriority (hcomment ▸ by decide),
      flag_eq_false hallowed.shelveSecs (hcomment ▸ by decide),
      flag_eq_false hallowed.reason (hcomment ▸ by decide)]
    refine (((emitsSlots_stringSlot _ _).optional _).bind (hack.bind hend)).of_eq ?_
    simp only [onlyIf_false, List.append_nil, List.nil_append]
    rfl
  · rw [flag_eq_false hallowed.comment hcomment,
      flag_eq_false hallowed.shelveSecs (hpriority ▸ by decide),
      flag_eq_false hallowed.reason (hpriority ▸ by decide)]
    refine (((emitsSlots_uintSlot _ _).optional _).bind
      (((emitsSlots_uintSlot _ _).optional _).bind (hack.bind hend))).of_eq ?_
    simp only [onlyIf_false, List.append_nil, List.nil_append]
    rfl
  · rw [flag_eq_false hallowed.comment hcomment, flag_eq_false hallowed.previousPriority hpriority,
      flag_eq_false hallowed.newPriority hpriority]
    refine (hack.bind (((emitsSlots_udintSlot _ _).optional _).bind
      (((emitsSlots_stringSlot _ _).optional _).bind hend))).of_eq ?_
    simp only [onlyIf_false, List.append_nil, List.nil_append]
    rfl

/-- The encoder writes the lifecycle slots, if they belong to the event. -/
lemma encodes_conditionLifecycle (envelope : Envelope)
    (eventTypeId conditionId correlationId : UInt32) {lifecycle : LifecycleInputs}
    (hallowed : lifecycle.AllowedFor eventTypeId) :
    Encodes (encodeConditionLifecycle envelope eventTypeId conditionId correlationId lifecycle
        false 0)
      (envelope.record eventTypeId
        (lifecycleSlots eventTypeId conditionId correlationId lifecycle)) := by
  rw [encodeConditionLifecycle]
  simp only [len96_eq]
  refine encodes_of_counts ((emitsSlots_udintSlot _ _).bind
    (((emitsSlots_udintSlot _ _).optional _).bind
      (emitsSlots_lifecycle emitsSlots_pure hallowed))) ?_
  refine ((((((((counts_const 52).add (counts_eight.plus _)).add
    ((counts_string KEY_COMMENT _).plus _)).add ((counts_string KEY_ACK_BY _).plus _)).add
    (counts_eight.plus _)).add ((counts_string KEY_REASON _).plus _)).add
    (counts_eight.plus _)).add (counts_eight.plus _)).add (counts_eight.plus _) |>.of_eq ?_
  simp only [lifecycleSlots, area_append, area_onlyIf, area_udintField, area_uintField]
  have h52 : (52 : UInt16).toNat = 52 := rfl
  simp only [Bool.false_eq_true, if_false]
  omega

/-! ## Batches and recipes -/

/-- The slots of a batch or recipe event. -/
def procedureSlots (procedure : ProcedureInputs) : List Slot :=
  if procedure.eventTypeId = EVENT_RECIPE_LOADED then
    [udintField KEY_RECIPE_ID procedure.recipeId] ++
      ([stringField KEY_RECIPE_VERSION procedure.recipeVersion] ++
        onlyIf procedure.hasBatchId [udintField KEY_BATCH_ID procedure.batchId])
  else if procedure.eventTypeId = EVENT_RECIPE_APPROVED then
    [udintField KEY_RECIPE_ID procedure.recipeId] ++
      ([stringField KEY_RECIPE_VERSION procedure.recipeVersion] ++
        (onlyIf procedure.hasAuthResult [uintField KEY_AUTH_RESULT procedure.authResult] ++
          onlyIf procedure.hasAckBy [stringField KEY_ACK_BY procedure.ackBy]))
  else if procedure.eventTypeId = EVENT_BATCH_EVENT then
    [udintField KEY_BATCH_ID procedure.batchId] ++
      ([uintField KEY_NEW_STATE procedure.newState] ++
        onlyIf procedure.hasRecipeId [udintField KEY_RECIPE_ID procedure.recipeId])
  else if procedure.eventTypeId = EVENT_MATERIAL_ADDITION then
    [udintField KEY_BATCH_ID procedure.batchId] ++
      ([udintField KEY_MATERIAL_ID procedure.materialId] ++
        ([longField KEY_QUANTITY TY_LREAL procedure.quantity] ++
          onlyIf procedure.hasUnit [uintField KEY_UNIT procedure.unitId]))
  else []

/-- The events of batches and recipes. -/
def ProcedureInputs.known (procedure : ProcedureInputs) : Prop :=
  procedure.eventTypeId = EVENT_RECIPE_LOADED ∨ procedure.eventTypeId = EVENT_RECIPE_APPROVED ∨
    procedure.eventTypeId = EVENT_BATCH_EVENT ∨ procedure.eventTypeId = EVENT_MATERIAL_ADDITION

/-- The length that is computed before is that of the record. -/
lemma counts_procedure {procedure : ProcedureInputs} (h : procedure.known) :
    Counts procedure.recordLength (44 + area (procedureSlots procedure)) := by
  have h52 : (52 : UInt16).toNat = 52 := rfl
  have h60 : (60 : UInt16).toNat = 60 := rfl
  have h72 : (72 : UInt16).toNat = 72 := rfl
  unfold ProcedureInputs.recordLength procedureSlots
  simp only [len96_eq]
  rcases h with h | h | h | h <;> rw [h]
  · refine (((counts_const 52).add (counts_string KEY_RECIPE_VERSION _)).add
      (counts_eight.plus _)).of_eq ?_
    simp only [if_true, area_append, area_onlyIf, area_udintField]
    omega
  · refine ((((counts_const 52).add (counts_string KEY_RECIPE_VERSION _)).add
      (counts_eight.plus _)).add ((counts_string KEY_ACK_BY _).plus _)).of_eq ?_
    rw [if_neg (show EVENT_RECIPE_APPROVED ≠ EVENT_RECIPE_LOADED by decide),
      if_pos (Eq.refl EVENT_RECIPE_APPROVED)]
    simp only [area_append, area_onlyIf, area_udintField, area_uintField]
    omega
  · refine ((counts_const 60).add (counts_eight.plus _)).of_eq ?_
    rw [if_neg (show EVENT_BATCH_EVENT ≠ EVENT_RECIPE_LOADED by decide),
      if_neg (show EVENT_BATCH_EVENT ≠ EVENT_RECIPE_APPROVED by decide),
      if_pos (Eq.refl EVENT_BATCH_EVENT)]
    simp only [area_append, area_onlyIf, area_udintField, area_uintField]
    omega
  · refine ((counts_const 72).add (counts_eight.plus _)).of_eq ?_
    rw [if_neg (show EVENT_MATERIAL_ADDITION ≠ EVENT_RECIPE_LOADED by decide),
      if_neg (show EVENT_MATERIAL_ADDITION ≠ EVENT_RECIPE_APPROVED by decide),
      if_neg (show EVENT_MATERIAL_ADDITION ≠ EVENT_BATCH_EVENT by decide),
      if_pos (Eq.refl EVENT_MATERIAL_ADDITION)]
    simp only [area_append, area_onlyIf, area_udintField, area_uintField, area_longField]
    omega

/-- A length that counts at least the frame of a record is not zero. -/
lemma Counts.pos {a : UInt16} {n : ℕ} (h : Counts a (44 + n)) (hn : 44 + n < 65536) : 0 < a := by
  rw [UInt16.lt_iff_toNat_lt, h hn]
  change 0 < 44 + n
  omega

/-- The slots of a batch or recipe event are short. -/
lemma area_procedureSlots_le (procedure : ProcedureInputs) :
    area (procedureSlots procedure) ≤ 220 := by
  have hversion := area_stringField_le KEY_RECIPE_VERSION procedure.recipeVersion
  have hack := area_stringField_le KEY_ACK_BY procedure.ackBy
  unfold procedureSlots
  split_ifs <;>
    simp only [area_append, area_onlyIf, area_udintField, area_uintField, area_longField,
      area_nil] <;>
    (try split_ifs) <;> omega

lemma encodes_batchRecipe (envelope : Envelope) {procedure : ProcedureInputs}
    (h : procedure.known) :
    Encodes (encodeBatchRecipe envelope procedure)
      (envelope.record procedure.eventTypeId (procedureSlots procedure)) := by
  have hcounts := counts_procedure h
  have harea := area_procedureSlots_le procedure
  rw [encodeBatchRecipe, if_pos (hcounts.pos (by omega))]
  refine encodes_of_counts ?_ hcounts
  unfold procedureSlots
  simp only [len96_eq]
  rcases h with h | h | h | h <;> rw [h]
  · exact (emitsSlots_udintSlot _ _).bind ((emitsSlots_stringSlot _ _).bind
      ((emitsSlots_udintSlot _ _).optional _))
  · exact (emitsSlots_udintSlot _ _).bind ((emitsSlots_stringSlot _ _).bind
      (((emitsSlots_uintSlot _ _).optional _).bind ((emitsSlots_stringSlot _ _).optional _)))
  · exact (emitsSlots_udintSlot _ _).bind ((emitsSlots_uintSlot _ _).bind
      ((emitsSlots_udintSlot _ _).optional _))
  · exact (emitsSlots_udintSlot _ _).bind ((emitsSlots_udintSlot _ _).bind
      ((emitsSlots_u64Slot _ _ _).bind ((emitsSlots_uintSlot _ _).optional _)))

/-! ## Regulated actions -/

/-- The slots of a regulated action. -/
def regulatedSlots (regulated : RegulatedInputs) : List Slot :=
  let actor := [stringField KEY_ACTOR regulated.actor]
  let workstation := onlyIf regulated.hasWorkstation
    [stringField KEY_WORKSTATION regulated.workstation]
  if regulated.eventTypeId = EVENT_OPERATOR_ACTION then
    [udintField KEY_ACTION_ID regulated.actionId] ++ (actor ++
      (onlyIf regulated.hasContext1 [udintField KEY_CONTEXT_REF regulated.context1] ++
        (onlyIf regulated.hasContext2 [udintField KEY_CONTEXT_REF regulated.context2] ++
          (onlyIf regulated.hasContext3 [udintField KEY_CONTEXT_REF regulated.context3] ++
            (onlyIf regulated.hasContext4 [udintField KEY_CONTEXT_REF regulated.context4] ++
              (onlyIf regulated.hasAuthResult [uintField KEY_AUTH_RESULT regulated.authResult] ++
                workstation))))))
  else if regulated.eventTypeId = EVENT_OPERATOR_LOGIN then
    actor ++ ([uintField KEY_AUTH_RESULT regulated.authResult] ++ (workstation ++
      onlyIf regulated.hasRole [uintField KEY_ROLE regulated.role]))
  else if regulated.eventTypeId = EVENT_OPERATOR_LOGOUT then actor ++ workstation
  else if regulated.eventTypeId = EVENT_SECURITY_ACCESS_FAILURE then
    actor ++ (workstation ++ onlyIf regulated.hasReason [stringField KEY_REASON regulated.reason])
  else []

/-- The events of regulated actions. -/
def RegulatedInputs.known (regulated : RegulatedInputs) : Prop :=
  regulated.eventTypeId = EVENT_OPERATOR_ACTION ∨ regulated.eventTypeId = EVENT_OPERATOR_LOGIN ∨
    regulated.eventTypeId = EVENT_OPERATOR_LOGOUT ∨
    regulated.eventTypeId = EVENT_SECURITY_ACCESS_FAILURE

/-- The length that is computed before is that of the record. -/
lemma counts_regulated {regulated : RegulatedInputs} (h : regulated.known) :
    Counts regulated.recordLength (44 + area (regulatedSlots regulated)) := by
  have h52 : (52 : UInt16).toNat = 52 := rfl
  have h44 : (44 : UInt16).toNat = 44 := rfl
  have hactor := counts_string KEY_ACTOR regulated.actor
  have hworkstation := (counts_string KEY_WORKSTATION regulated.workstation).plus
    regulated.hasWorkstation
  unfold RegulatedInputs.recordLength regulatedSlots
  simp only [len96_eq]
  rcases h with h | h | h | h <;> rw [h]
  · refine (((((((counts_const 52).add hactor).add (counts_eight.plus _)).add
      (counts_eight.plus _)).add (counts_eight.plus _)).add (counts_eight.plus _)).add
      (counts_eight.plus _)).add hworkstation |>.of_eq ?_
    simp only [if_true, area_append, area_onlyIf, area_udintField, area_uintField]
    omega
  · refine ((((counts_const 44).add hactor).add counts_eight).add hworkstation).add
      (counts_eight.plus _) |>.of_eq ?_
    rw [if_neg (show EVENT_OPERATOR_LOGIN ≠ EVENT_OPERATOR_ACTION by decide),
      if_pos (Eq.refl EVENT_OPERATOR_LOGIN)]
    simp only [area_append, area_onlyIf, area_uintField]
    omega
  · refine ((counts_const 44).add hactor).add hworkstation |>.of_eq ?_
    rw [if_neg (show EVENT_OPERATOR_LOGOUT ≠ EVENT_OPERATOR_ACTION by decide),
      if_neg (show EVENT_OPERATOR_LOGOUT ≠ EVENT_OPERATOR_LOGIN by decide),
      if_pos (Eq.refl EVENT_OPERATOR_LOGOUT)]
    simp only [area_append, area_onlyIf]
    omega
  · refine (((counts_const 44).add hactor).add hworkstation).add
      ((counts_string KEY_REASON _).plus _) |>.of_eq ?_
    rw [if_neg (show EVENT_SECURITY_ACCESS_FAILURE ≠ EVENT_OPERATOR_ACTION by decide),
      if_neg (show EVENT_SECURITY_ACCESS_FAILURE ≠ EVENT_OPERATOR_LOGIN by decide),
      if_neg (show EVENT_SECURITY_ACCESS_FAILURE ≠ EVENT_OPERATOR_LOGOUT by decide),
      if_pos (Eq.refl EVENT_SECURITY_ACCESS_FAILURE)]
    simp only [area_append, area_onlyIf]
    omega

/-- The slots of a regulated action are short. -/
lemma area_regulatedSlots_le (regulated : RegulatedInputs) :
    area (regulatedSlots regulated) ≤ 300 := by
  have hactor := area_stringField_le KEY_ACTOR regulated.actor
  have hworkstation := area_stringField_le KEY_WORKSTATION regulated.workstation
  have hreason := area_stringField_le KEY_REASON regulated.reason
  unfold regulatedSlots
  split_ifs <;>
    simp only [area_append, area_onlyIf, area_udintField, area_uintField, area_nil] <;>
    (try split_ifs) <;> omega

lemma encodes_regulated (envelope : Envelope) {regulated : RegulatedInputs}
    (h : regulated.known) :
    Encodes (encodeRegulated envelope regulated)
      (envelope.record regulated.eventTypeId (regulatedSlots regulated)) := by
  have hcounts := counts_regulated h
  have harea := area_regulatedSlots_le regulated
  have hactor := emitsSlots_stringSlot 0x000B regulated.actor
  have hworkstation := (emitsSlots_stringSlot 0x0021 regulated.workstation).optional
    regulated.hasWorkstation
  rw [encodeRegulated, if_pos (hcounts.pos (by omega))]
  refine encodes_of_counts ?_ hcounts
  unfold regulatedSlots
  simp only [len96_eq]
  rcases h with h | h | h | h <;> rw [h]
  · exact (emitsSlots_udintSlot _ _).bind (hactor.bind
      (((emitsSlots_udintSlot _ _).optional _).bind (((emitsSlots_udintSlot _ _).optional _).bind
        (((emitsSlots_udintSlot _ _).optional _).bind (((emitsSlots_udintSlot _ _).optional _).bind
          (((emitsSlots_uintSlot _ _).optional _).bind hworkstation))))))
  · exact hactor.bind ((emitsSlots_uintSlot _ _).bind (hworkstation.bind
      ((emitsSlots_uintSlot _ _).optional _)))
  · exact hactor.bind hworkstation
  · exact hactor.bind (hworkstation.bind ((emitsSlots_stringSlot _ _).optional _))

/-! ## Signatures and parameter changes -/

/-- The slots of a signature. -/
def signatureSlots (actionId : UInt32) (actor : String96) (signatureMeaning : UInt16)
    (signedEventSeq : UInt64) (hasAuthResult : Bool) (authResult : UInt16) : List Slot :=
  [udintField KEY_ACTION_ID actionId] ++ ([stringField KEY_ACTOR actor] ++
    ([uintField KEY_SIGNATURE_MEANING signatureMeaning] ++
      ([longField KEY_SIGNED_EVENT_SEQ TY_ULINT signedEventSeq] ++
        onlyIf hasAuthResult [uintField KEY_AUTH_RESULT authResult])))

lemma encodes_eSignature (envelope : Envelope) (actionId : UInt32) (actor : String96)
    (signatureMeaning : UInt16) (signedEventSeq : UInt64) (hasAuthResult : Bool)
    (authResult : UInt16) :
    Encodes (encodeESignature envelope actionId actor signatureMeaning signedEventSeq hasAuthResult
        authResult)
      (envelope.record EVENT_ESIGNATURE (signatureSlots actionId actor signatureMeaning
        signedEventSeq hasAuthResult authResult)) := by
  rw [encodeESignature]
  simp only [len96_eq]
  refine encodes_of_counts ((emitsSlots_udintSlot _ _).bind ((emitsSlots_stringSlot _ _).bind
    ((emitsSlots_uintSlot _ _).bind ((emitsSlots_u64Slot _ _ _).bind
      ((emitsSlots_uintSlot _ _).optional _))))) ?_
  refine ((counts_const 72).add (counts_string KEY_ACTOR actor)).add (counts_eight.plus _)
    |>.of_eq ?_
  have h72 : (72 : UInt16).toNat = 72 := rfl
  simp only [signatureSlots, area_append, area_onlyIf, area_udintField, area_uintField,
    area_longField]
  omega

/-- The slots of a parameter change. -/
def parameterSlots (valueId : UInt32) (previousField newField : Slot) (audit : AuditInputs) :
    List Slot :=
  [udintField KEY_VALUE_ID valueId] ++ ([previousField] ++ ([newField] ++
    ([stringField KEY_ACTOR audit.actor] ++ ([stringField KEY_REASON audit.reason] ++
      onlyIf audit.hasAuthResult [uintField KEY_AUTH_RESULT audit.authResult]))))

/-- An encoder of parameter changes, given what its two value slots write. -/
lemma encodes_parameterChange {envelope : Envelope} {valueId : UInt32}
    {previousLength newLength : UInt16} {previousSlot newSlot : UInt16 → Writes UInt16}
    {previousField newField : Slot} (hprevious : EmitsSlots previousSlot [previousField])
    (hnew : EmitsSlots newSlot [newField])
    (hpreviousLength : Counts previousLength (area [previousField]))
    (hnewLength : Counts newLength (area [newField])) (audit : AuditInputs) :
    Encodes (encodeParameterChange envelope valueId previousLength newLength previousSlot newSlot
        audit)
      (envelope.record EVENT_PARAMETER_CHANGE
        (parameterSlots valueId previousField newField audit)) := by
  rw [encodeParameterChange]
  simp only [len96_eq]
  refine encodes_of_counts ((emitsSlots_udintSlot _ _).bind (hprevious.bind (hnew.bind
    ((emitsSlots_stringSlot _ _).bind ((emitsSlots_stringSlot _ _).bind
      ((emitsSlots_uintSlot _ _).optional _)))))) ?_
  refine (((((counts_const 52).add hpreviousLength).add hnewLength).add
    (counts_string KEY_ACTOR _)).add (counts_string KEY_REASON _)).add (counts_eight.plus _)
    |>.of_eq ?_
  have h52 : (52 : UInt16).toNat = 52 := rfl
  simp only [parameterSlots, area_append, area_onlyIf, area_udintField, area_uintField]
  omega

lemma encodes_parameterChangeReal (envelope : Envelope) (valueId previousValue newValue : UInt32)
    (audit : AuditInputs) :
    Encodes (encodeParameterChangeReal envelope valueId previousValue newValue audit)
      (envelope.record EVENT_PARAMETER_CHANGE (parameterSlots valueId
        (wordField KEY_PREVIOUS_VALUE TY_REAL previousValue)
        (wordField KEY_NEW_VALUE TY_REAL newValue) audit)) :=
  encodes_parameterChange (emitsSlots_dwordSlot _ _ _) (emitsSlots_dwordSlot _ _ _)
    (counts_eight.of_eq (area_wordField _ _ _).symm)
    (counts_eight.of_eq (area_wordField _ _ _).symm) _

lemma encodes_parameterChangeInt (envelope : Envelope) (valueId : UInt32)
    (previousValue newValue : Int32) (audit : AuditInputs) :
    Encodes (encodeParameterChangeInt envelope valueId previousValue newValue audit)
      (envelope.record EVENT_PARAMETER_CHANGE (parameterSlots valueId
        (wordField KEY_PREVIOUS_VALUE TY_DINT previousValue.toUInt32)
        (wordField KEY_NEW_VALUE TY_DINT newValue.toUInt32) audit)) :=
  encodes_parameterChange (emitsSlots_dwordSlot _ _ _) (emitsSlots_dwordSlot _ _ _)
    (counts_eight.of_eq (area_wordField _ _ _).symm)
    (counts_eight.of_eq (area_wordField _ _ _).symm) _

lemma encodes_parameterChangeBits (envelope : Envelope) (valueId : UInt32) (typeTag : UInt8)
    (payloadLength : UInt16) (previousBits newBits : UInt64) (audit : AuditInputs) :
    Encodes (encodeParameterChangeBits envelope valueId typeTag payloadLength previousBits newBits
        audit)
      (envelope.record EVENT_PARAMETER_CHANGE (parameterSlots valueId
        (bitsField KEY_PREVIOUS_VALUE typeTag previousBits payloadLength)
        (bitsField KEY_NEW_VALUE typeTag newBits payloadLength) audit)) :=
  encodes_parameterChange (emitsSlots_bitsSlot _ _ _ _) (emitsSlots_bitsSlot _ _ _ _)
    (counts_bits _ _ _ _) (counts_bits _ _ _ _) _

lemma encodes_parameterChangeString (envelope : Envelope) (valueId : UInt32)
    (previousValue newValue : String96) (audit : AuditInputs) :
    Encodes (encodeParameterChangeString envelope valueId previousValue newValue audit)
      (envelope.record EVENT_PARAMETER_CHANGE (parameterSlots valueId
        (stringField KEY_PREVIOUS_VALUE previousValue) (stringField KEY_NEW_VALUE newValue)
        audit)) := by
  rw [encodeParameterChangeString, len96_eq, len96_eq]
  exact encodes_parameterChange (emitsSlots_stringSlot _ _) (emitsSlots_stringSlot _ _)
    (counts_string _ _) (counts_string _ _) _

end OpenOT.St
