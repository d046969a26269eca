import OpenOT.St.Sources

set_option relaxedAutoImplicit false
set_option autoImplicit false

/-!
# Encoders and their buffer

Which calls keep their encoder inside its buffer of 256 bytes. The operations that compute the
length of their record before they encode it refuse one that does not fit, and the records of most
others are short whatever their inputs; a message, and a changed string, may be too long.

## Main definitions

* `OpenOT.St.Producer.FitsBuffer` — the message or the changed string of a call fits.

## Main results

* `OpenOT.St.Emitted.fits` — the emissions of all data operations but 11 fit.
* `OpenOT.St.encoders_stay_inside_iff` — the calls that stay inside the buffer.
-/

namespace OpenOT.St

open Rust

/-! ## Lengths computed before -/

/-- A length that has passed the check is that of a record that fits. -/
lemma Counts.le_of_le {total bound : UInt16} {n : ℕ} (h : Counts total n) (hn : n < 65536)
    (hle : total ≤ bound) : n ≤ bound.toNat := by
  rw [← h hn]
  exact UInt16.le_iff_toNat_le.mp hle

/-- The length that operation 12 computes. -/
lemma counts_lifecycle (eventTypeId conditionId correlationId : UInt32)
    (lifecycle : LifecycleInputs) :
    Counts (lifecycleRecordLength eventTypeId lifecycle)
      (44 + area (lifecycleSlots eventTypeId conditionId correlationId lifecycle)) := by
  unfold lifecycleRecordLength
  simp only [len96_eq]
  refine (((((((counts_const 52).add (counts_eight.plus _)).add
    ((counts_string KEY_COMMENT _).plus _)).add (counts_eight.plus _)).add
    (counts_eight.plus _)).add ((counts_string KEY_ACK_BY _).plus _)).add
    (counts_eight.plus _)).add ((counts_string KEY_REASON _).plus _) |>.of_eq ?_
  have h52 : (52 : UInt16).toNat = 52 := rfl
  simp only [lifecycleSlots, area_append, area_onlyIf, area_udintField, area_uintField]
  omega

/-- The slots of a lifecycle event are short. -/
lemma area_lifecycleSlots_le (eventTypeId conditionId correlationId : UInt32)
    (lifecycle : LifecycleInputs) :
    area (lifecycleSlots eventTypeId conditionId correlationId lifecycle) ≤ 340 := by
  have hcomment := area_stringField_le KEY_COMMENT lifecycle.comment
  have hack := area_stringField_le KEY_ACK_BY lifecycle.ackBy
  have hreason := area_stringField_le KEY_REASON lifecycle.reason
  simp only [lifecycleSlots, area_append, area_onlyIf, area_udintField, area_uintField]
  split_ifs <;> omega

/-- The length that operation 15 computes, given the lengths of the two value slots. -/
lemma counts_audit {valueLength : UInt16} {valueId : UInt32} {previousField newField : Slot}
    {audit : AuditInputs}
    (hvalues : Counts valueLength (area [previousField] + area [newField])) :
    Counts (auditRecordLength audit valueLength)
      (44 + area (parameterSlots valueId previousField newField audit)) := by
  unfold auditRecordLength
  simp only [len96_eq]
  refine ((((counts_const 52).add (counts_string KEY_ACTOR _)).add
    (counts_string KEY_REASON _)).add hvalues).add (counts_eight.plus _) |>.of_eq ?_
  have h52 : (52 : UInt16).toNat = 52 := rfl
  simp only [parameterSlots, area_append, area_onlyIf, area_udintField, area_uintField]
  omega

/-- A parameter change whose length has passed the check fits. -/
lemma parameterSlots_fits {valueLength : UInt16} {valueId : UInt32} {previousField newField : Slot}
    {audit : AuditInputs}
    (hvalues : Counts valueLength (area [previousField] + area [newField]))
    (hprevious : area [previousField] ≤ 100) (hnew : area [newField] ≤ 100)
    (hfits : auditRecordLength audit valueLength ≤ 256) :
    44 + area (parameterSlots valueId previousField newField audit) ≤ 256 := by
  refine (counts_audit hvalues).le_of_le ?_ hfits
  have hactor := area_stringField_le KEY_ACTOR audit.actor
  have hreason := area_stringField_le KEY_REASON audit.reason
  simp only [parameterSlots, area_append, area_onlyIf, area_udintField, area_uintField]
  split_ifs <;> omega

/-- A bit string of one of the lengths allowed is short. -/
lemma area_bitsField_le (key : UInt16) (ty : UInt8) (value : UInt64) {payloadLength : UInt16}
    (h : fixedWidth payloadLength = true) : area [bitsField key ty value payloadLength] ≤ 12 := by
  simp only [fixedWidth, Bool.or_eq_true, beq_iff_eq] at h
  rw [area_singleton, bitsField, length_toLe]
  rcases h with ((h | h) | h) | h <;> rw [h] <;> decide

/-- A changed value with short slots fits. -/
lemma valueChangedSlots_fits {valueId : UInt32} {newField previousField : Slot}
    {hasPrevious hasQuality : Bool} {quality : UInt16} (hnew : area [newField] ≤ 12)
    (hprevious : area [previousField] ≤ 12) :
    44 + area (valueChangedSlots valueId newField previousField hasPrevious hasQuality quality) ≤
      256 := by
  simp only [valueChangedSlots, area_append, area_onlyIf, area_udintField, area_uintField]
  split_ifs <;> omega

/-! ## Emissions -/

/-- The slots of a changed string. -/
def stringChangeSlots (inputs : Inputs) (state : ValueState String96 Unit) : List Slot :=
  valueChangedSlots inputs.valueId (stringField KEY_NEW_VALUE inputs.valueString)
    (stringField KEY_PREVIOUS_VALUE state.lastValue) (state.hasLast && !inputs.suppressPrevious)
    inputs.hasQuality inputs.quality

/-- The record of a changed string. -/
lemma writes_stringChange (inputs : Inputs) (index : Fin 16) (state : ValueState String96 Unit) :
    (stringKind.change inputs index state).Writes (stringChangeSlots inputs state) :=
  fun _ => encodes_valueChangedString ..

section

variable {inputs : Inputs} {events : AttestableEventLog} {memory : Memory} {emission : Emission}

/-- **The records of all data operations but 11 fit** into the buffer. -/
lemma Emitted.fits (h : Emitted inputs events memory emission) (hop : inputs.op ≠ 11) :
    ∃ slots, emission.Writes slots ∧ 44 + area slots ≤ 256 := by
  cases h with
  | string h11 => exact absurd h11 hop
  | real => exact ⟨_, fun _ => encodes_valueChangedReal .., valueChangedSlots_fits (by simp) (by simp)⟩
  | int => exact ⟨_, fun _ => encodes_valueChangedInt .., valueChangedSlots_fits (by simp) (by simp)⟩
  | bits _ hwidth =>
    exact ⟨_, fun _ => encodes_valueChangedBits ..,
      valueChangedSlots_fits (area_bitsField_le _ _ _ hwidth) (area_bitsField_le _ _ _ hwidth)⟩
  | stateTransition =>
    refine ⟨_, fun envelope => encodes_stateTransition .., ?_⟩
    simp only [area_append, area_udintField, area_uintField]
    omega
  | condition =>
    refine ⟨_, fun envelope => encodes_condition .., ?_⟩
    simp only [conditionSlots, area_append, area_onlyIf, area_udintField, area_uintField]
    split_ifs <;> omega
  | @lifecycle correlationId _ _ _ _ _ hfits =>
    refine ⟨_, fun envelope =>
      encodes_conditionLifecycle _ _ _ _ (allowedLifecycle_allowedFor _), ?_⟩
    exact (counts_lifecycle _ _ _ _).le_of_le
      (by have := area_lifecycleSlots_le inputs.conditionLifecycleEventTypeId inputs.conditionId
            correlationId inputs.allowedLifecycle
          omega) hfits
  | procedure _ hknown hfits =>
    refine ⟨_, fun envelope => encodes_batchRecipe _ hknown, ?_⟩
    exact (counts_procedure hknown).le_of_le
      (by have := area_procedureSlots_le inputs.procedure
          omega) hfits
  | regulated _ hknown _ hfits =>
    refine ⟨_, fun envelope => encodes_regulated _ hknown, ?_⟩
    exact (counts_regulated hknown).le_of_le
      (by have := area_regulatedSlots_le inputs.regulated
          omega) hfits
  | parameterReal _ _ hfits =>
    refine ⟨_, fun _ => encodes_parameterChangeReal .., parameterSlots_fits ?_ ?_ ?_ hfits⟩
    · exact (counts_const 16).of_eq (by rw [area_wordField, area_wordField]; rfl)
    · simp
    · simp
  | parameterInt _ _ hfits =>
    refine ⟨_, fun _ => encodes_parameterChangeInt .., parameterSlots_fits ?_ ?_ ?_ hfits⟩
    · exact (counts_const 16).of_eq (by rw [area_wordField, area_wordField]; rfl)
    · simp
    · simp
  | parameterString _ _ hfits =>
    refine ⟨_, fun _ => encodes_parameterChangeString .., parameterSlots_fits ?_
      (area_stringField_le _ _).2 (area_stringField_le _ _).2 hfits⟩
    simp only [stringKind, len96_eq]
    exact (counts_string _ _).add (counts_string _ _)
  | parameterBits _ hwidth hfits =>
    exact ⟨_, fun _ => encodes_parameterChangeBits .., parameterSlots_fits
      ((counts_bits _ _ _ _).add (counts_bits _ _ _ _))
      ((area_bitsField_le _ _ _ hwidth).trans (by decide))
      ((area_bitsField_le _ _ _ hwidth).trans (by decide)) hfits⟩
  | signature =>
    refine ⟨_, fun envelope => encodes_eSignature .., ?_⟩
    have hactor := area_stringField_le KEY_ACTOR inputs.signatureActor
    simp only [signatureSlots, area_append, area_onlyIf, area_udintField, area_uintField,
      area_longField]
    split_ifs <;> omega

end

/-! ## Operations -/

namespace Producer

variable {arith : RealArith} {inputs : Inputs} {p : Producer}

/-- A program goes on behind its only step that may stop it. -/
lemma exists_bind_iff {α β : Type} {o : Option α} {f : α → Option β}
    (hf : ∀ a, ∃ b, f a = some b) : (∃ b, (o >>= f) = some b) ↔ ∃ a, o = some a := by
  cases o with
  | none => simp
  | some a => simpa using hf a

/-- A data operation stays inside the buffer exactly when its record fits, unless there is no place
for its source. -/
lemma emit_isSome_iff {emission : Emission} {slots : List Slot} (hwrites : emission.Writes slots) :
    (∃ p', p.emit inputs emission = some p') ↔
      ((openSource emission.sourceId p.sources).isSome = true → 44 + area slots ≤ 256) := by
  unfold emit
  cases hfind : openSource emission.sourceId p.sources with
  | none => simp
  | some opened =>
    obtain ⟨index, sources⟩ := opened
    simp only [Option.isSome_some, true_implies]
    refine (exists_bind_iff fun encoded => ?_).trans (hwrites _).isSome_iff
    split_ifs <;> exact ⟨_, rfl⟩

/-- Operation 0 stays inside the buffer exactly when its message fits, unless it is refused. -/
lemma message_isSome_iff : (∃ p', p.message inputs = some p') ↔
    (p.pending.isOpen = false → inputs.sourceId ≠ 0 →
      (openSource inputs.sourceId p.sources).isSome = true →
      44 + area (messageSlots inputs.message) ≤ 256) := by
  unfold message
  split_ifs with hopen hsource
  · simp [hopen]
  · simp [hsource]
  cases hfind : openSource inputs.sourceId p.sources with
  | none => simp
  | some opened =>
    obtain ⟨index, sources⟩ := opened
    simp only [Bool.not_eq_true] at hopen
    simp only [hopen, Option.isSome_some, true_implies, hsource, ne_eq, not_false_eq_true]
    refine (exists_bind_iff fun encoded => ?_).trans
      (encodes_minimalMessage _ inputs.message).isSome_iff
    split_ifs <;> exact ⟨_, rfl⟩

lemma checkpoint_isSome (inputs : Inputs) (p : Producer) :
    ∃ p', p.checkpoint inputs = some p' := by
  unfold checkpoint
  split_ifs
  · exact ⟨_, rfl⟩
  · exact ⟨_, rfl⟩
  split
  · exact ⟨_, rfl⟩
  · rename_i index _
    refine (exists_bind_iff fun q => ?_).mpr (highWater_isSome inputs index p)
    split_ifs <;> exact ⟨_, rfl⟩

lemma stage_isSome (inputs : Inputs) (p : Producer) : ∃ p', p.stage inputs = some p' := by
  unfold stage
  split_ifs
  · exact ⟨_, rfl⟩
  · exact ⟨_, rfl⟩
  · exact ⟨_, rfl⟩
  split
  · exact ⟨_, rfl⟩
  · dsimp only
    split_ifs <;> exact ⟨_, rfl⟩

lemma changeDefinition_isSome (inputs : Inputs) (p : Producer) :
    ∃ p', p.changeDefinition inputs = some p' := by
  unfold changeDefinition
  split_ifs
  · exact ⟨_, rfl⟩
  · exact ⟨_, rfl⟩
  refine (exists_bind_iff fun q => ?_).mpr (emitSystem_isSome fun seq sourceTime =>
    (encodes_definitionChanged _ seq _ _ _ sourceTime).isSome_iff.mpr (by
      simp [area, slotArea, longField, paddingLen]))
  split_ifs <;> exact ⟨_, rfl⟩

lemma finishWarm_isSome (inputs : Inputs) (p : Producer) :
    ∃ p', p.finishWarm inputs = some p' := by
  unfold finishWarm
  split_ifs
  · exact ⟨_, rfl⟩
  · exact ⟨_, rfl⟩
  refine (exists_bind_iff fun q => ?_).mpr (emitSystem_isSome fun seq sourceTime =>
    (encodes_loggerStarted _ seq false sourceTime).isSome_iff.mpr (by decide))
  split_ifs <;> exact ⟨_, rfl⟩

lemma finishCold_isSome (inputs : Inputs) (p : Producer) :
    ∃ p', p.finishCold inputs = some p' := by
  unfold finishCold
  split_ifs
  · exact ⟨_, rfl⟩
  · exact ⟨_, rfl⟩
  refine (exists_bind_iff fun q => ?_).mpr (emitSystem_isSome fun seq sourceTime =>
    (encodes_loggerStarted _ seq true sourceTime).isSome_iff.mpr (by decide))
  split_ifs <;> exact ⟨_, rfl⟩

/-- A data operation stays inside the buffer when it has nothing to emit, or its emission does. -/
lemma dataOp_isSome_iff : (∃ p', p.dataOp arith inputs = some p') ↔
    ∀ emission, (p.prepared arith inputs).plan = .emit emission →
      ∃ p', emit inputs emission { p with memory := (p.prepared arith inputs).memory } =
        some p' := by
  unfold dataOp prepared
  dsimp only
  cases hplan : (prepare arith inputs (p.nextSourceTime inputs) p.attestableEvents p.memory).plan with
  | refuse => simp
  | finish => simp
  | emit emission => simp

/-- The message or the changed string of a call fits into the buffer of its encoder; there is none if
the call is refused before. -/
structure FitsBuffer (arith : RealArith) (p : Producer) (inputs : Inputs) : Prop where
  message : inputs.checkpoint = false → inputs.op = 0 → p.pending.isOpen = false →
    inputs.sourceId ≠ 0 → (openSource inputs.sourceId p.sources).isSome = true →
    44 + area (messageSlots inputs.message) ≤ 256
  string : inputs.checkpoint = false → inputs.op = 11 → ∀ index table,
    stringKind.openValue inputs.valueId p.memory.values = some (index, table) →
    (p.prepared arith inputs).plan = .emit (stringKind.change inputs index (table.get index)) →
    (openSource inputs.activeSourceId p.sources).isSome = true →
    44 + area (stringChangeSlots inputs (table.get index)) ≤ 256

/-- A data operation other than 11 stays inside the buffer. -/
lemma dataOp_isSome (hop : isDataOp inputs.op = true) (hnot : inputs.op ≠ 11) :
    ∃ p', p.dataOp arith inputs = some p' := by
  refine dataOp_isSome_iff.mpr fun emission hplan => ?_
  obtain ⟨slots, hwrites, hfits⟩ := (emitted_of_prepare hop hplan).fits hnot
  exact (emit_isSome_iff hwrites).mpr fun _ => hfits

/-- Operation 11 stays inside the buffer exactly when its string fits. -/
lemma stringOp_isSome_iff (hop : inputs.op = 11) : (∃ p', p.dataOp arith inputs = some p') ↔
    ∀ index table, stringKind.openValue inputs.valueId p.memory.values = some (index, table) →
      (p.prepared arith inputs).plan = .emit (stringKind.change inputs index (table.get index)) →
      (openSource inputs.activeSourceId p.sources).isSome = true →
      44 + area (stringChangeSlots inputs (table.get index)) ≤ 256 := by
  rw [dataOp_isSome_iff]
  constructor
  · intro h index table _ hplan
    exact (emit_isSome_iff (p := { p with memory := (p.prepared arith inputs).memory })
      (writes_stringChange inputs index _)).mp (h _ hplan)
  · intro h emission hplan
    cases emitted_of_prepare (by rw [hop]; decide) hplan with
    | @string index table _ hopen =>
      exact (emit_isSome_iff (writes_stringChange inputs index _)).mpr (h index table hopen hplan)
    | _ =>
      -- the other forms belong to other operations
      exact absurd (‹inputs.op = _›.symm.trans hop) (by decide)

/-- **An edge of `Execute` stays inside the buffers exactly when its message or string fits.** -/
lemma operate_isSome_iff : (∃ p', p.operate arith inputs = some p') ↔ p.FitsBuffer arith inputs := by
  unfold operate
  by_cases hcheckpoint : inputs.checkpoint = true
  · rw [if_pos hcheckpoint]
    refine iff_of_true (checkpoint_isSome inputs p) ⟨fun h => ?_, fun h => ?_⟩ <;>
      simp [hcheckpoint] at h
  rw [if_neg hcheckpoint]
  rw [Bool.not_eq_true] at hcheckpoint
  by_cases h0 : inputs.op = 0
  · rw [if_pos h0, message_isSome_iff]
    refine ⟨fun h => ⟨fun _ _ => h, fun _ h11 => ?_⟩, fun h => h.message hcheckpoint h0⟩
    rw [h0] at h11
    cases h11
  rw [if_neg h0]
  by_cases h11 : inputs.op = 11
  · rw [if_neg (by rw [h11]; decide), if_pos (by rw [h11]; decide), stringOp_isSome_iff h11]
    exact ⟨fun h => ⟨fun _ h0' => absurd h0' h0, fun _ _ => h⟩, fun h => h.string hcheckpoint h11⟩
  refine iff_of_true ?_ ⟨fun _ h0' => absurd h0' h0, fun _ h11' => absurd h11' h11⟩
  split_ifs with h5 hdata h1 h2 h3 h4
  · exact stage_isSome inputs p
  · exact dataOp_isSome hdata h11
  · exact beginTransition_isSome inputs p
  · exact changeDefinition_isSome inputs p
  · exact finishWarm_isSome inputs p
  · exact finishCold_isSome inputs p
  · exact ⟨_, rfl⟩

end Producer

/-- **Encoders stay inside their buffer** exactly when the message of operation 0, or the changed
string of operation 11, fits. And when a call ends without an error, its record fits, or there was
none to emit. -/
theorem encoders_stay_inside_iff {arith : RealArith} (p : Producer) (inputs : Inputs) :
    ((∃ p', p.call arith inputs = some p') ↔
      (p.edge inputs = true → p.FitsBuffer arith inputs)) ∧
      ∀ p', p.call arith inputs = some p' → p'.error = false → p.edge inputs = true →
        inputs.checkpoint = false →
        (inputs.op = 0 → 44 + area (messageSlots inputs.message) ≤ 256) ∧
        (isDataOp inputs.op = true → (p.prepared arith inputs).plan = .finish ∨
          ∃ emission slots, (p.prepared arith inputs).plan = .emit emission ∧
            emission.Writes slots ∧ 44 + area slots ≤ 256) := by
  constructor
  · unfold Producer.call
    by_cases hedge : p.edge inputs = true
    · rw [if_pos hedge]
      simp only [hedge, true_implies, Option.map_eq_some_iff]
      have hfits : (p.enter inputs).FitsBuffer arith inputs ↔ p.FitsBuffer arith inputs :=
        ⟨fun h => ⟨h.message, h.string⟩, fun h => ⟨h.message, h.string⟩⟩
      rw [← hfits, ← Producer.operate_isSome_iff]
      exact ⟨fun ⟨_, q, hq, _⟩ => ⟨q, hq⟩, fun ⟨q, hq⟩ => ⟨_, q, hq, rfl⟩⟩
    · rw [if_neg hedge]
      exact iff_of_true ⟨_, rfl⟩ fun h => absurd h hedge
  · intro p' hcall herror hedge hcheckpoint
    obtain ⟨q, rfl, hoperated⟩ := Producer.operated_of_call hedge hcall
    change q.error = false at herror
    refine ⟨fun hop => ?_, fun hop => ?_⟩
    · cases hoperated with
      | message _ _ h =>
        rcases Producer.core_message h with ⟨-, hfail⟩ | ⟨-, -, _, _, encoded, -, hencoded, -⟩
        · rw [herror] at hfail
          cases hfail
        · exact (encodes_minimalMessage _ _).isSome_iff.mp ⟨encoded, hencoded⟩
      | checkpoint h =>
        rw [hcheckpoint] at h
        cases h
      | dataOp _ h =>
        rw [hop] at h
        cases h
      | unknown _ h =>
        rw [hop] at h
        exact absurd h (by decide)
      | _ =>
        -- the other operations are not operation 0
        exact absurd (‹inputs.op = _›.symm.trans hop) (by decide)
    · rw [Producer.call_dataOp hedge hcheckpoint hop] at hcall
      obtain ⟨r, hr, heq⟩ := Option.map_eq_some_iff.mp hcall
      have hfail : r.error = false := (congrArg Producer.error heq).trans herror
      rcases Producer.core_dataOp hr with ⟨-, hrefuse, -⟩ | ⟨hfinish, -⟩ | ⟨emission, hplan, hemit⟩
      · rw [hfail] at hrefuse
        cases hrefuse
      · exact .inl hfinish
      · obtain ⟨slots, hwrites⟩ := (emitted_of_prepare hop hplan).writes
        refine .inr ⟨emission, slots, hplan, hwrites, ?_⟩
        rcases Producer.core_emit hemit with ⟨-, hfull, -⟩ | ⟨_, _, encoded, -, hencoded, -⟩
        · rw [hfail] at hfull
          cases hfull
        · exact (hwrites _).isSome_iff.mp ⟨encoded, hencoded⟩

/-- A string of 96 characters. -/
def longString : String96 := ⟨List.replicate 96 65, by decide⟩

/-- A message with three string arguments of 96 characters. -/
def longMessage : MessageInputs where
  templateId := 1
  hasSeverity := false
  severity := 0
  argCount := 3
  arg1 := ⟨TY_STRING, 0, 0, longString⟩
  arg2 := ⟨TY_STRING, 0, 0, longString⟩
  arg3 := ⟨TY_STRING, 0, 0, longString⟩
  arg4 := ⟨TY_STRING, 0, 0, .empty⟩

/-- The message is written behind the end of the buffer. -/
theorem message_encoder_overruns : Producer.init.call noReals
    { execute := true, sourceId := 5, message := longMessage } = none := by
  decide +kernel

end OpenOT.St
