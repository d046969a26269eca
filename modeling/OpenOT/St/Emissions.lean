import OpenOT.St.Operations
import OpenOT.St.Records

set_option relaxedAutoImplicit false
set_option autoImplicit false

/-!
# What the data operations emit

Every decision of the operations 6 to 16 to emit a record is one of a few forms, with the checks
it has passed. Each form encodes one record, whose length is known before.

## Main definitions

* `OpenOT.St.Emitted` — the forms of an emission.
* `OpenOT.St.Emission.Writes` — the slots that an emission writes.

## Main results

* `OpenOT.St.emitted_of_prepare` — the data operations emit nothing else.
* `OpenOT.St.recounts_prepareLifecycle`, … — the operations that only count when they decide.
* `OpenOT.St.Emitted.writes` — an emission encodes a record, whatever its envelope.
-/

namespace OpenOT.St

open Rust

/-! ## Tables -/

section

variable {α : Type} {n : ℕ} {table : Vector α n} {p : α → Bool} {index : Fin n}

/-- An entry that is found has the property. -/
lemma findEntry_some (h : findEntry table p = some index) : p (table.get index) = true :=
  List.find?_some (p := fun i => p (table.get i)) h

/-- No entry is found when none has the property. -/
lemma findEntry_eq_none : findEntry table p = none ↔ ∀ i, p (table.get i) = false := by
  simp [findEntry, List.find?_eq_none]

/-- A table in which an entry is opened holds the entry, and all others as before. -/
lemma openEntry_some {isEntry isFree : α → Bool} {fresh : α → α} {opened : Vector α n}
    (h : openEntry table isEntry isFree fresh = some (index, opened)) :
    isEntry (table.get index) = true ∧ opened = table ∨
      (∀ i, isEntry (table.get i) = false) ∧ isFree (table.get index) = true ∧
        opened = table.set index (fresh (table.get index)) index.isLt := by
  unfold openEntry at h
  cases hfind : findEntry table isEntry with
  | some found =>
    rw [hfind] at h
    cases h
    exact .inl ⟨findEntry_some hfind, rfl⟩
  | none =>
    rw [hfind] at h
    obtain ⟨free, hfree, heq⟩ := Option.map_eq_some_iff.mp h
    cases heq
    exact .inr ⟨findEntry_eq_none.mp hfind, findEntry_some hfree, rfl⟩

end

/-! ## Forms -/

/-- The entry of the table of conditions that operation 9 works on. -/
def ConditionOpened (inputs : Inputs) (memory : Memory) (index : Fin 16)
    (table : Vector ConditionState 16) : Prop :=
  openEntry memory.conditions.table
    (ConditionState.isOf inputs.activeSourceId inputs.conditionId) (fun state => !state.used)
    (fun state => { state with
      used := true
      sourceId := inputs.activeSourceId
      conditionId := inputs.conditionId
      hasLast := false
      correlationId := 0 }) = some (index, table)

/-- The entry of the table of conditions that an activation-scoped event of operation 12 belongs
to. -/
def ActiveCondition (inputs : Inputs) (memory : Memory) (correlationId : UInt32) : Prop :=
  ∃ index, findEntry memory.conditions.table
      (ConditionState.isOf inputs.activeSourceId inputs.conditionId) = some index ∧
    (memory.conditions.table.get index).hasLast = true ∧
    (memory.conditions.table.get index).lastActive = true ∧
    (memory.conditions.table.get index).correlationId = correlationId ∧ correlationId ≠ 0

/-- The forms of an emission, each with the checks it has passed. -/
inductive Emitted (inputs : Inputs) (events : AttestableEventLog) (memory : Memory) :
    Emission → Prop
  | real {index : Fin 16} {table : Vector (ValueState UInt32 Band) 16} (hop : inputs.op = 6)
      (hopen : realKind.openValue inputs.valueId memory.values = some (index, table)) :
      Emitted inputs events memory (realKind.change inputs index (table.get index))
  | int {index : Fin 16} {table : Vector (ValueState Int32 Unit) 16} (hop : inputs.op = 7)
      (hopen : intKind.openValue inputs.valueId memory.values = some (index, table)) :
      Emitted inputs events memory (intKind.change inputs index (table.get index))
  | bits {index : Fin 16} {table : Vector (ValueState UInt64 Unit) 16} (hop : inputs.op = 10)
      (hwidth : fixedWidth inputs.valuePayloadLength = true)
      (hopen : bitsKind.openValue inputs.valueId memory.values = some (index, table)) :
      Emitted inputs events memory (bitsKind.change inputs index (table.get index))
  | string {index : Fin 16} {table : Vector (ValueState String96 Unit) 16} (hop : inputs.op = 11)
      (hopen : stringKind.openValue inputs.valueId memory.values = some (index, table)) :
      Emitted inputs events memory (stringKind.change inputs index (table.get index))
  | stateTransition {index : Fin 16} (hop : inputs.op = 8) :
      Emitted inputs events memory (stateTransitionEmission inputs index)
  | condition {index : Fin 16} {table : Vector ConditionState 16} (hop : inputs.op = 9)
      (hopen : ConditionOpened inputs memory index table)
      (hchange : (if (table.get index).hasLast then
          (table.get index).lastActive != inputs.conditionActive
        else inputs.conditionActive) = true) :
      Emitted inputs events memory (conditionEmission inputs index
        (if inputs.conditionActive then memory.conditions.nextCorrelationId
          else (table.get index).correlationId))
  | lifecycle {correlationId : UInt32} (hop : inputs.op = 12)
      (hevent : 0x0202 ≤ inputs.conditionLifecycleEventTypeId ∧
        inputs.conditionLifecycleEventTypeId ≤ 0x020C)
      (hscope : activationScoped inputs.conditionLifecycleEventTypeId = true →
        ActiveCondition inputs memory correlationId)
      (hcomment : inputs.conditionLifecycleEventTypeId = 0x020A →
        inputs.allowedLifecycle.hasComment = true)
      (hpriority : inputs.conditionLifecycleEventTypeId = 0x020C →
        inputs.allowedLifecycle.hasPreviousPriority = true ∧
          inputs.allowedLifecycle.hasNewPriority = true)
      (hfits : lifecycleRecordLength inputs.conditionLifecycleEventTypeId
        inputs.allowedLifecycle ≤ 256) :
      Emitted inputs events memory (lifecycleEmission inputs correlationId)
  | procedure (hop : inputs.op = 13) (hknown : inputs.procedure.known)
      (hfits : inputs.procedure.recordLength ≤ 256) :
      Emitted inputs events memory (commandEmission inputs inputs.procedure.eventTypeId
        (encodeBatchRecipe · inputs.procedure))
  | regulated (hop : inputs.op = 14) (hknown : inputs.regulated.known)
      (hlogin : inputs.regulated.eventTypeId = EVENT_OPERATOR_LOGIN →
        inputs.regulated.hasAuthResult = true)
      (hfits : inputs.regulated.recordLength ≤ 256) :
      Emitted inputs events memory (commandEmission inputs inputs.regulated.eventTypeId
        (encodeRegulated · inputs.regulated))
  | parameterReal {index : Fin 16} {previous : UInt32} (hop : inputs.op = 15)
      (htag : inputs.valueTypeTag = TY_REAL)
      (hfits : auditRecordLength inputs.audit (realKind.parameterLength inputs previous) ≤ 256) :
      Emitted inputs events memory (parameterEmission realKind inputs index previous)
  | parameterInt {index : Fin 16} {previous : Int32} (hop : inputs.op = 15)
      (htag : inputs.valueTypeTag = TY_DINT)
      (hfits : auditRecordLength inputs.audit (intKind.parameterLength inputs previous) ≤ 256) :
      Emitted inputs events memory (parameterEmission intKind inputs index previous)
  | parameterString {index : Fin 16} {previous : String96} (hop : inputs.op = 15)
      (htag : inputs.valueTypeTag = TY_STRING)
      (hfits : auditRecordLength inputs.audit (stringKind.parameterLength inputs previous) ≤ 256) :
      Emitted inputs events memory (parameterEmission stringKind inputs index previous)
  | parameterBits {index : Fin 16} {previous : UInt64} (hop : inputs.op = 15)
      (hwidth : fixedWidth inputs.valuePayloadLength = true)
      (hfits : auditRecordLength inputs.audit (bitsKind.parameterLength inputs previous) ≤ 256) :
      Emitted inputs events memory (parameterEmission bitsKind inputs index previous)
  | signature {index : Fin 32} (hop : inputs.op = 16)
      (hfound : findEntry events (fun event => event.used &&
        event.attestableId == inputs.signatureAttestsId && event.hasSeq &&
        event.sourceId == inputs.activeSourceId) = some index) :
      Emitted inputs events memory (signatureEmission inputs (events.get index).lastSeq)

/-! ## Inversion -/

section

variable {arith : RealArith} {inputs : Inputs} {policySourceTime : UInt64}
  {events : AttestableEventLog} {memory : Memory} {e : Emission} {α β γ δ : Type}

lemma emit_of_prepareValue {kind : ValueKind α β} {valid : Bool}
    (h : (prepareValue kind valid arith inputs policySourceTime memory).plan = .emit e) :
    valid = true ∧ ∃ index table, kind.openValue inputs.valueId memory.values =
      some (index, table) ∧ e = kind.change inputs index (table.get index) := by
  unfold prepareValue at h
  by_cases hvalid : (!valid) = true
  · rw [if_pos hvalid] at h
    cases h
  rw [if_neg hvalid] at h
  refine ⟨by simpa using hvalid, ?_⟩
  cases hopen : kind.openValue inputs.valueId memory.values with
  | none =>
    rw [hopen] at h
    cases h
  | some entry =>
    obtain ⟨index, table⟩ := entry
    rw [hopen] at h
    dsimp only at h
    split_ifs at h
    cases h
    exact ⟨index, table, rfl, rfl⟩

lemma emit_of_prepareStateTransition
    (h : (prepareStateTransition inputs memory).plan = .emit e) :
    ∃ index, e = stateTransitionEmission inputs index := by
  unfold prepareStateTransition at h
  by_cases hid : inputs.stateMachineId = 0
  · rw [if_pos hid] at h
    cases h
  rw [if_neg hid] at h
  by_cases hsame : inputs.previousState = inputs.newState
  · rw [if_pos hsame] at h
    cases h
  rw [if_neg hsame] at h
  split at h
  · cases h
  · rename_i index _ _
    dsimp only at h
    split_ifs at h
    cases h
    exact ⟨index, rfl⟩

lemma emit_of_prepareCondition (h : (prepareCondition inputs memory).plan = .emit e) :
    ∃ index table, ConditionOpened inputs memory index table ∧
      (if (table.get index).hasLast then (table.get index).lastActive != inputs.conditionActive
        else inputs.conditionActive) = true ∧
      e = conditionEmission inputs index
        (if inputs.conditionActive then memory.conditions.nextCorrelationId
          else (table.get index).correlationId) := by
  unfold prepareCondition at h
  by_cases hid : inputs.conditionId = 0
  · rw [if_pos hid] at h
    cases h
  rw [if_neg hid] at h
  split at h
  · cases h
  · rename_i index table hopen
    dsimp only at h
    by_cases hchange : (if (table.get index).hasLast then
        (table.get index).lastActive != inputs.conditionActive else inputs.conditionActive) = true
    · rw [if_pos hchange] at h
      cases h
      exact ⟨index, table, hopen, hchange, rfl⟩
    · rw [if_neg hchange] at h
      cases h

lemma emit_of_emitLifecycle {correlationId : UInt32}
    (h : (emitLifecycle inputs correlationId memory).plan = .emit e) :
    (inputs.conditionLifecycleEventTypeId = 0x020A →
        inputs.allowedLifecycle.hasComment = true) ∧
      (inputs.conditionLifecycleEventTypeId = 0x020C →
        inputs.allowedLifecycle.hasPreviousPriority = true ∧
          inputs.allowedLifecycle.hasNewPriority = true) ∧
      lifecycleRecordLength inputs.conditionLifecycleEventTypeId inputs.allowedLifecycle ≤ 256 ∧
      e = lifecycleEmission inputs correlationId := by
  unfold emitLifecycle at h
  dsimp only at h
  split_ifs at h with hmissing hlong
  cases h
  simp only [not_or, not_and, Bool.not_eq_true', Bool.not_eq_false] at hmissing
  exact ⟨hmissing.1, hmissing.2, by simpa using hlong, rfl⟩

lemma emit_of_prepareLifecycle (h : (prepareLifecycle inputs memory).plan = .emit e) :
    (0x0202 ≤ inputs.conditionLifecycleEventTypeId ∧
        inputs.conditionLifecycleEventTypeId ≤ 0x020C) ∧
      ∃ correlationId, (activationScoped inputs.conditionLifecycleEventTypeId = true →
          ActiveCondition inputs memory correlationId) ∧
        (emitLifecycle inputs correlationId memory).plan = .emit e := by
  unfold prepareLifecycle at h
  dsimp only at h
  by_cases hid : inputs.conditionId = 0
  · rw [if_pos hid] at h
    cases h
  rw [if_neg hid] at h
  by_cases hevent : inputs.conditionLifecycleEventTypeId < 0x0202 ∨
      0x020C < inputs.conditionLifecycleEventTypeId
  · rw [if_pos hevent] at h
    cases h
  rw [if_neg hevent] at h
  rw [not_or, UInt32.not_lt, UInt32.not_lt] at hevent
  refine ⟨hevent, ?_⟩
  by_cases hscope : activationScoped inputs.conditionLifecycleEventTypeId = true
  swap
  · rw [if_neg hscope] at h
    exact ⟨0, fun hscoped => absurd hscoped hscope, h⟩
  rw [if_pos hscope] at h
  cases hfind : findEntry memory.conditions.table
      (ConditionState.isOf inputs.activeSourceId inputs.conditionId) with
  | none =>
    rw [hfind] at h
    cases h
  | some index =>
    rw [hfind] at h
    dsimp only [Option.map_some] at h
    by_cases hactive : (memory.conditions.table.get index).hasLast = true ∧
        (memory.conditions.table.get index).lastActive = true ∧
        (memory.conditions.table.get index).correlationId ≠ 0
    · rw [if_pos hactive] at h
      exact ⟨_, fun _ => ⟨index, hfind, hactive.1, hactive.2.1, rfl, hactive.2.2⟩, h⟩
    · rw [if_neg hactive] at h
      cases h

lemma emit_of_prepareProcedure (h : (prepareProcedure inputs memory).plan = .emit e) :
    inputs.procedure.known ∧ inputs.procedure.recordLength ≤ 256 ∧
      e = commandEmission inputs inputs.procedure.eventTypeId
        (encodeBatchRecipe · inputs.procedure) := by
  unfold prepareProcedure at h
  dsimp only [dropCommand] at h
  split_ifs at h with hknown hversion hlong
  cases h
  exact ⟨hknown, by simpa using hlong, rfl⟩

lemma emit_of_prepareRegulated (h : (prepareRegulated inputs memory).plan = .emit e) :
    inputs.regulated.known ∧
      (inputs.regulated.eventTypeId = EVENT_OPERATOR_LOGIN →
        inputs.regulated.hasAuthResult = true) ∧
      inputs.regulated.recordLength ≤ 256 ∧
      e = commandEmission inputs inputs.regulated.eventTypeId
        (encodeRegulated · inputs.regulated) := by
  unfold prepareRegulated at h
  dsimp only [dropCommand] at h
  split_ifs at h with hknown hmissing hlong
  cases h
  simp only [not_or, not_and, Bool.not_eq_true', Bool.not_eq_false] at hmissing
  exact ⟨hknown, hmissing.2, by simpa using hlong, rfl⟩

lemma emit_of_commandParameter {kind : ValueKind α β} {written : ValueKind γ δ}
    (h : (commandParameter kind written arith inputs memory).plan = .emit e) :
    ∃ index previous,
      auditRecordLength inputs.audit (written.parameterLength inputs previous) ≤ 256 ∧
      e = parameterEmission written inputs index previous := by
  unfold commandParameter at h
  cases hopen : kind.openValue inputs.valueId memory.values with
  | none =>
    rw [hopen] at h
    cases h
  | some entry =>
    obtain ⟨index, table⟩ := entry
    rw [hopen] at h
    dsimp only at h
    by_cases hlast : (table.get index).hasLast = true
    swap
    · rw [if_neg hlast] at h
      cases h
    rw [if_pos hlast] at h
    by_cases hne : kind.ne arith (kind.value inputs) (table.get index).lastValue = true
    swap
    · rw [if_neg hne] at h
      cases h
    rw [if_pos hne] at h
    unfold emitParameter at h
    dsimp only [dropCommand] at h
    split_ifs at h with hmissing hlong
    cases h
    exact ⟨index, _, by simpa using hlong, rfl⟩

lemma emit_of_prepareSignature (h : (prepareSignature events inputs memory).plan = .emit e) :
    ∃ index, findEntry events (fun event => event.used &&
        event.attestableId == inputs.signatureAttestsId && event.hasSeq &&
        event.sourceId == inputs.activeSourceId) = some index ∧
      e = signatureEmission inputs (events.get index).lastSeq := by
  unfold prepareSignature at h
  by_cases hid : inputs.signatureAttestsId = 0 ∨ 32 < inputs.signatureAttestsId
  · rw [if_pos hid] at h
    cases h
  rw [if_neg hid] at h
  split at h
  · cases h
  · rename_i index hfound
    dsimp only [dropCommand] at h
    split_ifs at h
    cases h
    exact ⟨index, hfound, rfl⟩

/-- **The data operations emit nothing else.** -/
lemma emitted_of_prepare (hop : isDataOp inputs.op = true)
    (h : (prepare arith inputs policySourceTime events memory).plan = .emit e) :
    Emitted inputs events memory e := by
  unfold prepare at h
  dsimp only at h
  by_cases h6 : inputs.op = 6
  · rw [if_pos h6] at h
    obtain ⟨-, index, table, hopen, rfl⟩ := emit_of_prepareValue h
    exact .real h6 hopen
  rw [if_neg h6] at h
  by_cases h7 : inputs.op = 7
  · rw [if_pos h7] at h
    obtain ⟨-, index, table, hopen, rfl⟩ := emit_of_prepareValue h
    exact .int h7 hopen
  rw [if_neg h7] at h
  by_cases h10 : inputs.op = 10
  · rw [if_pos h10] at h
    obtain ⟨hvalid, index, table, hopen, rfl⟩ := emit_of_prepareValue h
    exact .bits h10 (Bool.and_eq_true_iff.mp hvalid).2 hopen
  rw [if_neg h10] at h
  by_cases h11 : inputs.op = 11
  · rw [if_pos h11] at h
    obtain ⟨-, index, table, hopen, rfl⟩ := emit_of_prepareValue h
    exact .string h11 hopen
  rw [if_neg h11] at h
  by_cases h8 : inputs.op = 8
  · rw [if_pos h8] at h
    obtain ⟨index, rfl⟩ := emit_of_prepareStateTransition h
    exact .stateTransition h8
  rw [if_neg h8] at h
  by_cases h9 : inputs.op = 9
  · rw [if_pos h9] at h
    obtain ⟨index, table, hopen, hchange, rfl⟩ := emit_of_prepareCondition h
    exact .condition h9 hopen hchange
  rw [if_neg h9] at h
  by_cases h12 : inputs.op = 12
  · rw [if_pos h12] at h
    obtain ⟨hevent, correlationId, hscope, hemit⟩ := emit_of_prepareLifecycle h
    obtain ⟨hcomment, hpriority, hfits, rfl⟩ := emit_of_emitLifecycle hemit
    exact .lifecycle h12 hevent hscope hcomment hpriority hfits
  rw [if_neg h12] at h
  by_cases h13 : inputs.op = 13
  · rw [if_pos h13] at h
    obtain ⟨hknown, hfits, rfl⟩ := emit_of_prepareProcedure h
    exact .procedure h13 hknown hfits
  rw [if_neg h13] at h
  by_cases h14 : inputs.op = 14
  · rw [if_pos h14] at h
    obtain ⟨hknown, hlogin, hfits, rfl⟩ := emit_of_prepareRegulated h
    exact .regulated h14 hknown hlogin hfits
  rw [if_neg h14] at h
  by_cases h15 : inputs.op = 15
  · rw [if_pos h15] at h
    unfold prepareParameter at h
    by_cases hid : inputs.valueId = 0
    · rw [if_pos hid] at h
      cases h
    rw [if_neg hid] at h
    split_ifs at h with hreal hint hstring hwidth hreal' hint'
    · obtain ⟨index, previous, hfits, rfl⟩ := emit_of_commandParameter h
      exact .parameterReal h15 hreal.1 hfits
    · obtain ⟨index, previous, hfits, rfl⟩ := emit_of_commandParameter h
      exact .parameterInt h15 hint.1 hfits
    · obtain ⟨index, previous, hfits, rfl⟩ := emit_of_commandParameter h
      exact .parameterString h15 hstring hfits
    · obtain ⟨index, previous, hfits, rfl⟩ := emit_of_commandParameter h
      exact .parameterReal h15 hreal' hfits
    · obtain ⟨index, previous, hfits, rfl⟩ := emit_of_commandParameter h
      exact .parameterInt h15 hint' hfits
    · obtain ⟨index, previous, hfits, rfl⟩ := emit_of_commandParameter h
      exact .parameterBits h15 hwidth hfits
    · cases h
  rw [if_neg h15] at h
  have h16 : inputs.op = 16 := by
    simp only [isDataOp, decide_eq_true_eq, UInt16.le_iff_toNat_le] at hop
    simp only [← UInt16.toNat_inj] at h6 h7 h8 h9 h10 h11 h12 h13 h14 h15 ⊢
    simp at hop h6 h7 h8 h9 h10 h11 h12 h13 h14 h15 ⊢
    omega
  obtain ⟨index, hfound, rfl⟩ := emit_of_prepareSignature h
  exact .signature h16 hfound

/-! ## What is counted -/

/-- The memory with other counters. -/
def Memory.Recounts (memory memory' : Memory) : Prop :=
  ∃ counters, memory' = { memory with counters := counters }

lemma Memory.Recounts.values {memory' : Memory} (h : memory.Recounts memory') :
    memory'.values = memory.values := by
  obtain ⟨_, rfl⟩ := h
  rfl

lemma Memory.Recounts.conditions {memory' : Memory} (h : memory.Recounts memory') :
    memory'.conditions = memory.conditions := by
  obtain ⟨_, rfl⟩ := h
  rfl

lemma recounts_emitLifecycle {correlationId : UInt32} :
    memory.Recounts (emitLifecycle inputs correlationId memory).memory := by
  unfold emitLifecycle
  dsimp only
  split_ifs <;> exact ⟨_, rfl⟩

lemma recounts_prepareLifecycle : memory.Recounts (prepareLifecycle inputs memory).memory := by
  unfold prepareLifecycle
  dsimp only
  split_ifs
  · exact ⟨_, rfl⟩
  · exact ⟨_, rfl⟩
  · split
    · split_ifs
      · exact recounts_emitLifecycle
      · exact ⟨_, rfl⟩
    · exact ⟨_, rfl⟩
  · exact recounts_emitLifecycle

lemma recounts_prepareProcedure : memory.Recounts (prepareProcedure inputs memory).memory := by
  unfold prepareProcedure
  dsimp only
  split_ifs <;> exact ⟨_, rfl⟩

lemma recounts_prepareRegulated : memory.Recounts (prepareRegulated inputs memory).memory := by
  unfold prepareRegulated
  dsimp only
  split_ifs <;> exact ⟨_, rfl⟩

lemma recounts_prepareSignature :
    memory.Recounts (prepareSignature events inputs memory).memory := by
  unfold prepareSignature
  split
  · exact ⟨_, rfl⟩
  split
  · exact ⟨_, rfl⟩
  · split_ifs <;> exact ⟨_, rfl⟩

/-! ## What an emission writes -/

/-- The slots that an emission writes, whatever its envelope. -/
def Emission.Writes (e : Emission) (slots : List Slot) : Prop :=
  ∀ envelope, Encodes (e.encode envelope) (envelope.record e.eventTypeId slots)

/-- The lifecycle inputs that are passed on belong to the event. -/
lemma allowedLifecycle_allowedFor (inputs : Inputs) :
    inputs.allowedLifecycle.AllowedFor inputs.conditionLifecycleEventTypeId := by
  constructor <;> intro h <;>
    exact eq_of_beq (Bool.and_eq_true_iff.mp h).2

/-- Every emission is of the source of the call. -/
lemma Emitted.sourceId (h : Emitted inputs events memory e) :
    e.sourceId = inputs.activeSourceId := by
  cases h <;> rfl

lemma activeSourceId_ne_zero (inputs : Inputs) : inputs.activeSourceId ≠ 0 := by
  unfold Inputs.activeSourceId
  split_ifs with h
  · decide
  · exact h

/-- **An emission encodes a record**, whatever its envelope. -/
lemma Emitted.writes (h : Emitted inputs events memory e) : ∃ slots, e.Writes slots := by
  cases h with
  | real => exact ⟨_, fun envelope => encodes_valueChangedReal ..⟩
  | int => exact ⟨_, fun envelope => encodes_valueChangedInt ..⟩
  | bits => exact ⟨_, fun envelope => encodes_valueChangedBits ..⟩
  | string => exact ⟨_, fun envelope => encodes_valueChangedString ..⟩
  | stateTransition => exact ⟨_, fun envelope => encodes_stateTransition ..⟩
  | condition => exact ⟨_, fun envelope => encodes_condition ..⟩
  | lifecycle =>
    exact ⟨_, fun envelope => encodes_conditionLifecycle _ _ _ _ (allowedLifecycle_allowedFor _)⟩
  | procedure _ hknown => exact ⟨_, fun envelope => encodes_batchRecipe _ hknown⟩
  | regulated _ hknown => exact ⟨_, fun envelope => encodes_regulated _ hknown⟩
  | parameterReal => exact ⟨_, fun envelope => encodes_parameterChangeReal ..⟩
  | parameterInt => exact ⟨_, fun envelope => encodes_parameterChangeInt ..⟩
  | parameterString => exact ⟨_, fun envelope => encodes_parameterChangeString ..⟩
  | parameterBits => exact ⟨_, fun envelope => encodes_parameterChangeBits ..⟩
  | signature => exact ⟨_, fun envelope => encodes_eSignature ..⟩

end

end OpenOT.St
