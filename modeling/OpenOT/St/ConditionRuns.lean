import OpenOT.St.ConditionPairing

set_option relaxedAutoImplicit false
set_option autoImplicit false

/-!
# Conditions in all runs

Operations 9 and 12 keep the table of conditions and the records of conditions in agreement, and no
other operation touches either.

## Main definitions

* `OpenOT.St.Core.Pairs` — a step that keeps the agreement.

## Main results

* `OpenOT.St.Producer.pairs_of_operated` — every operation does.
* `OpenOT.St.conditions_paired` — the pairing in all runs.
-/

namespace OpenOT.St

open Rust Transition

/-! ## The other operations -/

section

variable {arith : RealArith} {inputs : Inputs} {policySourceTime : UInt64}
  {events : AttestableEventLog} {memory : Memory} {α β γ δ : Type}

/-- The operations on values keep the table of conditions. -/
lemma conditions_prepareValue (kind : ValueKind α β) (valid : Bool) :
    (prepareValue kind valid arith inputs policySourceTime memory).memory.conditions =
      memory.conditions := by
  unfold prepareValue
  split
  · rfl
  split
  · rfl
  · dsimp only
    split_ifs <;> rfl

lemma conditions_prepareStateTransition :
    (prepareStateTransition inputs memory).memory.conditions = memory.conditions := by
  unfold prepareStateTransition
  split_ifs
  · rfl
  · rfl
  split
  · rfl
  · dsimp only
    split_ifs <;> rfl

lemma conditions_commandParameter (kind : ValueKind α β) (written : ValueKind γ δ) :
    (commandParameter kind written arith inputs memory).memory.conditions =
      memory.conditions := by
  unfold commandParameter
  split
  · rfl
  · dsimp only
    split_ifs
    · unfold emitParameter
      dsimp only
      split_ifs <;> rfl
    · rfl
    · rfl

lemma conditions_prepareParameter :
    (prepareParameter arith inputs memory).memory.conditions = memory.conditions := by
  unfold prepareParameter
  split_ifs <;> first
    | rfl
    | exact conditions_commandParameter _ _

/-- Only operation 9 changes the table of conditions when it decides. -/
lemma conditions_prepare (hop : inputs.op ≠ 9) :
    (prepare arith inputs policySourceTime events memory).memory.conditions =
      memory.conditions := by
  unfold prepare
  dsimp only
  rw [if_neg hop]
  split_ifs
  · exact conditions_prepareValue _ _
  · exact conditions_prepareValue _ _
  · exact conditions_prepareValue _ _
  · exact conditions_prepareValue _ _
  · exact conditions_prepareStateTransition
  · exact recounts_prepareLifecycle.conditions
  · exact recounts_prepareProcedure.conditions
  · exact recounts_prepareRegulated.conditions
  · exact conditions_prepareParameter
  · exact recounts_prepareSignature.conditions

/-- Only operation 9 emits records that change it. -/
lemma Emitted.conditions {emission : Emission} (h : Emitted inputs events memory emission)
    (hop : inputs.op ≠ 9) : emission.drawn = id ∧ emission.settle = id := by
  cases h with
  | condition h9 => exact absurd h9 hop
  | _ => exact ⟨rfl, rfl⟩

end

/-! ## Steps -/

/-- A step that keeps the table of conditions in agreement with the records, as long as there are
correlation ids. -/
structure Core.Pairs (c c' : Core) : Prop where
  attempted : c.memory.conditions.attempted ≤ c'.memory.conditions.attempted
  paired : c'.memory.conditions.attempted < 2 ^ 32 - 1 →
    Paired c.memory.conditions c.store.published → Paired c'.memory.conditions c'.store.published

namespace Core.Pairs

variable {inputs : Inputs} {meets : Published → Prop} {c c' : Core}

/-- A step that publishes nothing and keeps the table. -/
lemma unchanged (hconditions : c'.memory.conditions = c.memory.conditions)
    (hpublished : c'.store.published = c.store.published) : c.Pairs c' := by
  refine ⟨hconditions ▸ le_rfl, fun _ h => ?_⟩
  rw [hconditions, hpublished]
  exact h

lemma trans {c'' : Core} (h : c.Pairs c') (h' : c'.Pairs c'') : c.Pairs c'' where
  attempted := h.attempted.trans h'.attempted
  paired hlt hpaired := h'.paired hlt (h.paired (h'.attempted.trans_lt hlt) hpaired)

/-- An operation other than 9 and 12. -/
lemma quiet (hconditions : c'.memory.conditions = c.memory.conditions)
    (hfed : Store.Fed inputs meets c.store c'.store)
    (hnot : inputs.checkpoint = true ∨ inputs.op ≠ 9 ∧ inputs.op ≠ 12) : c.Pairs c' := by
  refine ⟨hconditions ▸ le_rfl, fun _ h => ?_⟩
  obtain ⟨new, hnew, hall⟩ := hfed.published
  rw [hconditions, hnew]
  refine h.append fun entry hentry => ?_
  rw [Published.isConditionRecord, (hall entry hentry).2]
  rcases hnot with hcheckpoint | ⟨hcondition, hlifecycle⟩
  · rw [hcheckpoint]
    rfl
  · simp [hcondition, hlifecycle]

end Core.Pairs

namespace Producer

variable {arith : RealArith} {inputs : Inputs} {p p' : Producer}

/-- The slots of the record of operation 9. -/
lemma writes_conditionEmission (index : Fin 16) (correlationId : UInt32) :
    (conditionEmission inputs index correlationId).Writes (conditionSlots
      ((conditionEmission inputs index correlationId).eventTypeId == EVENT_CONDITION_ACTIVE)
      inputs.conditionId inputs.conditionClass inputs.severity (correlationId != 0) correlationId
      inputs.hasCauseOperand inputs.causeOperand) :=
  fun envelope => encodes_condition envelope
    (if inputs.conditionActive then 0x0200 else 0x0201) inputs.conditionId inputs.conditionClass
    inputs.severity (correlationId != 0) correlationId inputs.hasCauseOperand inputs.causeOperand

/-- An entry whose condition changes: an inactive condition has no open activation, an active one
has that of its correlation id. -/
lemma activation_of_change {state : ConditionState} {active : Bool}
    (hchange : (if state.hasLast then state.lastActive != active else active) = true) :
    state.activation = if active then none else some state.correlationId.toNat := by
  unfold ConditionState.activation
  cases hlast : state.hasLast <;> cases hactive : state.lastActive <;> cases active <;>
    simp_all

/-- The correlation id of the record of operation 9 is not zero. -/
lemma correlationId_ne_zero {memory : Memory} {published : List Published} {index : Fin 16}
    {table : Vector ConditionState 16} (h : Paired memory.conditions published)
    (hopen : ConditionOpened inputs memory index table)
    (hchange : (if (table.get index).hasLast then
        (table.get index).lastActive != inputs.conditionActive
      else inputs.conditionActive) = true) :
    (if inputs.conditionActive then memory.conditions.nextCorrelationId
      else (table.get index).correlationId) ≠ 0 := by
  obtain ⟨-, -, -, hids⟩ := opened_spec h.distinct hopen
  have hactivation := activation_of_change hchange
  intro hzero
  cases hactive : inputs.conditionActive with
  | true =>
    rw [if_pos hactive] at hzero
    have hnext := h.next
    rw [hzero] at hnext
    exact Nat.succ_ne_zero _ hnext.symm
  | false =>
    rw [if_neg (by rw [hactive]; decide)] at hzero
    rw [if_neg (by rw [hactive]; decide), hzero] at hactivation
    exact hids h.ids index hactivation

/-- The record of operation 9: an activation, or a clearing. -/
lemma paired_condition {index : Fin 16} {table : Vector ConditionState 16} {entry : Published}
    {envelope : Envelope} {published : List Published} (taken : Bool)
    (h : Paired p.memory.conditions published) (hcheckpoint : inputs.checkpoint = false)
    (hop : inputs.op = 9) (hopen : ConditionOpened inputs p.memory index table)
    (hchange : (if (table.get index).hasLast then
        (table.get index).lastActive != inputs.conditionActive
      else inputs.conditionActive) = true)
    (hattempted : inputs.conditionActive = true →
      p.memory.conditions.attempted + 1 < 2 ^ 32 - 1)
    (hentry : entry.inputs = inputs) (hsource : envelope.sourceId = inputs.activeSourceId)
    {correlationId : UInt32} (hcorrelation : correlationId = if inputs.conditionActive then
      p.memory.conditions.nextCorrelationId else (table.get index).correlationId)
    (hrecord : entry.record = some (envelope.record
      (conditionEmission inputs index correlationId).eventTypeId (conditionSlots
        ((conditionEmission inputs index correlationId).eventTypeId == EVENT_CONDITION_ACTIVE)
        inputs.conditionId inputs.conditionClass inputs.severity (correlationId != 0) correlationId
        inputs.hasCauseOperand inputs.causeOperand))) :
    Paired (if taken then (conditionEmission inputs index correlationId).settle
          ((conditionEmission inputs index correlationId).drawn
            { p.memory.conditions with table := table })
        else (conditionEmission inputs index correlationId).drawn
          { p.memory.conditions with table := table })
      (if taken then published ++ [entry] else published) := by
  obtain ⟨hdistinct, hof, hopened, hids⟩ := opened_spec h.distinct hopen
  have h' : Paired { p.memory.conditions with table := table } published :=
    h.same h.next le_rfl hdistinct (hids h.ids) hopened
  have hcondition : entry.isConditionRecord = true := by
    simp [Published.isConditionRecord, hentry, hcheckpoint, hop]
  have hne : (correlationId != 0) = true := by
    rw [hcorrelation, bne_iff_ne]
    exact correlationId_ne_zero h hopen hchange
  have hactivation := activation_of_change hchange
  rw [hne] at hrecord
  unfold conditionEmission at hrecord ⊢
  dsimp only at hrecord ⊢
  cases hactive : inputs.conditionActive with
  | true =>
    simp only [hactive, if_true] at hrecord hcorrelation hactivation hattempted ⊢
    obtain ⟨hid, hvalue⟩ := slotValue_condition true inputs.conditionId inputs.conditionClass
      inputs.severity correlationId inputs.hasCauseOperand inputs.causeOperand
    cases taken with
    | true =>
      rw [hcorrelation] at hvalue
      exact h'.publishActive hof hactivation (hattempted trivial) hcondition hrecord hsource hid
        (by rw [hcorrelation]; exact hvalue)
    | false => exact h'.activate hof hactivation (hattempted trivial)
  | false =>
    simp only [hactive, Bool.false_eq_true, if_false] at hrecord hcorrelation hactivation ⊢
    rw [← hcorrelation] at hactivation
    obtain ⟨hid, hvalue⟩ := slotValue_condition false inputs.conditionId inputs.conditionClass
      inputs.severity correlationId inputs.hasCauseOperand inputs.causeOperand
    cases taken with
    | true => exact h'.publishCleared hof hactivation hcondition hrecord hsource hid hvalue
    | false => exact h'

/-- Operation 9. -/
lemma pairs_condition (hcheckpoint : inputs.checkpoint = false) (hop : inputs.op = 9)
    (h : p.dataOp arith inputs = some p') : p.core.Pairs p'.core := by
  have hprepared : p.prepared arith inputs = prepareCondition inputs p.memory := by
    unfold prepared prepare
    simp only [hop]
    rfl
  have hcall := core_dataOp h
  rw [hprepared] at hcall
  rcases prepareCondition_cases inputs p.memory with hrefuse | ⟨index, table, hopen,
    ⟨hchange, hemit⟩ | ⟨hsame, hfinish⟩⟩
  · rw [hrefuse] at hcall
    rcases hcall with ⟨-, -, hcore⟩ | ⟨hplan, -⟩ | ⟨_, hplan, -⟩
    · rw [hcore]
      exact ⟨le_rfl, fun _ hpaired => hpaired⟩
    · cases hplan
    · cases hplan
  · rw [hemit] at hcall
    rcases hcall with ⟨hplan, -⟩ | ⟨hplan, -⟩ | ⟨emission, hplan, hcall⟩
    · cases hplan
    · cases hplan
    cases hplan
    set correlationId := if inputs.conditionActive then p.memory.conditions.nextCorrelationId
      else (table.get index).correlationId with hcorrelation
    rcases published_emit (writes_conditionEmission index correlationId) hcall with
      ⟨hpublished, hconditions⟩ |
        ⟨taken, entry, envelope, hentry, hsource, hrecord, hpublished, hconditions⟩
    · refine ⟨(congrArg Conditions.attempted hconditions).ge, fun _ hpaired => ?_⟩
      obtain ⟨hdistinct, -, hopened, hids⟩ := opened_spec hpaired.distinct hopen
      change Paired p'.memory.conditions p'.store.published
      rw [hpublished, hconditions]
      exact hpaired.same hpaired.next le_rfl hdistinct (hids hpaired.ids) hopened
    · have hattempted : p'.memory.conditions.attempted =
          if inputs.conditionActive then p.memory.conditions.attempted + 1
          else p.memory.conditions.attempted := by
        rw [hconditions]
        unfold conditionEmission
        cases taken <;> cases inputs.conditionActive <;> rfl
      refine ⟨?_, fun hlt hpaired => ?_⟩
      · change p.memory.conditions.attempted ≤ p'.memory.conditions.attempted
        split_ifs at hattempted <;> omega
      · change p'.memory.conditions.attempted < 2 ^ 32 - 1 at hlt
        change Paired p'.memory.conditions p'.store.published
        rw [hpublished, hconditions]
        refine paired_condition taken hpaired hcheckpoint hop hopen hchange (fun hactive => ?_)
          hentry hsource hcorrelation hrecord
        rw [if_pos hactive] at hattempted
        omega
  · rw [hfinish] at hcall
    rcases hcall with ⟨hplan, -⟩ | ⟨-, -, hcore⟩ | ⟨_, hplan, -⟩
    · cases hplan
    · rw [hcore]
      exact ⟨le_rfl, fun _ hpaired => hpaired.observe hopen hsame⟩
    · cases hplan

/-- The slots of the record of operation 12. -/
lemma writes_lifecycleEmission (correlationId : UInt32) :
    (lifecycleEmission inputs correlationId).Writes (lifecycleSlots
      inputs.conditionLifecycleEventTypeId inputs.conditionId correlationId
      inputs.allowedLifecycle) :=
  fun envelope => encodes_conditionLifecycle envelope inputs.conditionLifecycleEventTypeId
    inputs.conditionId correlationId (allowedLifecycle_allowedFor inputs)

/-- An active condition has an open activation. -/
lemma openActivation_active {memory : Memory} {correlationId : UInt32}
    (h : ActiveCondition inputs memory correlationId) :
    openActivation memory.conditions.table inputs.activeSourceId inputs.conditionId =
      some correlationId.toNat := by
  obtain ⟨index, hfind, hlast, hactive, rfl, -⟩ := h
  rw [openActivation, hfind, Option.bind_some, ConditionState.activation, if_pos ⟨hlast, hactive⟩]

/-- Operation 12. -/
lemma pairs_lifecycle (hcheckpoint : inputs.checkpoint = false) (hop : inputs.op = 12)
    (h : p.dataOp arith inputs = some p') : p.core.Pairs p'.core := by
  have hprepared : (p.prepared arith inputs).memory.conditions = p.memory.conditions :=
    conditions_prepare (by rw [hop]; decide)
  rcases core_dataOp h with ⟨-, -, hcore⟩ | ⟨-, -, hcore⟩ | ⟨emission, hplan, hcall⟩
  · rw [hcore]
    exact .unchanged hprepared rfl
  · rw [hcore]
    exact .unchanged hprepared rfl
  cases emitted_of_prepare (by rw [hop]; decide) hplan with
  | @lifecycle correlationId _ hevent hscope =>
    rcases published_emit (writes_lifecycleEmission correlationId) hcall with
      ⟨hpublished, hconditions⟩ |
        ⟨taken, entry, envelope, hentry, hsource, hrecord, hpublished, hconditions⟩
    · exact .unchanged (hconditions.trans hprepared) hpublished
    cases taken with
    | false => exact .unchanged (hconditions.trans hprepared) hpublished
    | true =>
      have hsame : p'.memory.conditions = p.memory.conditions := hconditions.trans hprepared
      refine ⟨(congrArg Conditions.attempted hsame).ge, fun _ hpaired => ?_⟩
      change Paired p'.memory.conditions p'.store.published
      rw [hsame, hpublished]
      obtain ⟨hid, hvalue⟩ := slotValue_lifecycle inputs.conditionLifecycleEventTypeId
        inputs.conditionId correlationId inputs.allowedLifecycle
      exact hpaired.publishLifecycle hevent.1
        (fun hscoped => ⟨openActivation_active (hscope hscoped), hvalue hscoped⟩)
        (by simp [Published.isConditionRecord, hentry, hcheckpoint, hop]) hrecord hsource hid
  | _ =>
    -- the other forms belong to other operations
    exact absurd (‹inputs.op = _›.symm.trans hop) (by decide)

/-- Another data operation. -/
lemma pairs_dataOp (hop : isDataOp inputs.op = true) (hnot : inputs.op ≠ 9 ∧ inputs.op ≠ 12)
    (h : p.dataOp arith inputs = some p') : p.core.Pairs p'.core := by
  have hprepared : (p.prepared arith inputs).memory.conditions = p.memory.conditions :=
    conditions_prepare hnot.1
  refine .quiet ?_ (fed_dataOp hop h) (.inr hnot)
  rcases core_dataOp h with ⟨-, -, hcore⟩ | ⟨-, -, hcore⟩ | ⟨emission, hplan, hcall⟩
  · rw [hcore]
    exact hprepared
  · rw [hcore]
    exact hprepared
  · obtain ⟨hdrawn, hsettle⟩ := (emitted_of_prepare hop hplan).conditions hnot.1
    rcases core_emit hcall with ⟨-, -, hcore⟩ | ⟨index, sources, encoded, -, -, -, hcore⟩
    · rw [hcore]
      exact hprepared
    · rw [hcore, Core.conditions_emit, hdrawn, hsettle]
      split_ifs <;> exact hprepared

/-- **Every operation keeps the conditions paired.** -/
lemma pairs_of_operated (h : Operated arith inputs p p') : p.core.Pairs p'.core := by
  rcases memory_of_operated h with ⟨hmemory, hnot⟩ | ⟨hcheckpoint, hop, hdata⟩
  · refine .quiet (congrArg Memory.conditions hmemory) (fed_of_operated h) ?_
    refine hnot.imp_right fun hdata => ⟨fun h9 => ?_, fun h12 => ?_⟩
    · rw [h9] at hdata
      cases hdata
    · rw [h12] at hdata
      cases hdata
  by_cases h9 : inputs.op = 9
  · exact pairs_condition hcheckpoint h9 hdata
  by_cases h12 : inputs.op = 12
  · exact pairs_lifecycle hcheckpoint h12 hdata
  exact pairs_dataOp hop ⟨h9, h12⟩ hdata

/-- A call keeps the conditions paired. -/
lemma pairs_call (h : p.call arith inputs = some p') : p.core.Pairs p'.core := by
  have henter : p.core.Pairs (p.enter inputs).core := by
    rw [core_enter]
    split_ifs <;> exact .unchanged rfl rfl
  obtain ⟨q, rfl, hq⟩ := call_cases h
  rw [core_leave]
  rcases hq with ⟨-, rfl⟩ | ⟨-, hop⟩
  · exact henter
  · exact henter.trans (pairs_of_operated hop)

end Producer

/-! ## Runs -/

/-- The conditions before the first call. -/
lemma Paired.new : Paired Memory.new.conditions [] where
  next := rfl
  distinct sourceId conditionId i j hi := by
    have hfree : ∀ i, (Memory.new.conditions.table.get i).used = false := by decide
    simp [ConditionState.isOf, hfree] at hi
  ids := by decide
  agrees sourceId conditionId := by
    have hfree : ∀ i, (Memory.new.conditions.table.get i).used = false := by decide
    rw [openActivation_eq_none fun i => by simp [ConditionState.isOf, hfree]]
    rfl
  decoded entry hentry := by cases hentry
  drawn id hid := by cases hid
  nodup := List.nodup_nil

/-- The conditions and the records of every state reached agree, as long as there are correlation
ids. -/
lemma paired_of_reachable {arith : RealArith} {p : Producer} (hrun : Producer.Reachable arith p)
    (hattempted : p.memory.conditions.attempted < 2 ^ 32 - 1) :
    Paired p.memory.conditions p.store.published := by
  revert hattempted
  refine hrun.invariant (P := fun p => p.memory.conditions.attempted < 2 ^ 32 - 1 →
    Paired p.memory.conditions p.store.published) (fun _ => .new) ?_
  intro p inputs p' hp hcall hlt
  obtain ⟨hle, hkeep⟩ := Producer.pairs_call hcall
  exact hkeep hlt (hp (hle.trans_lt hlt))

/-- **Conditions are paired.** In every state reached with fewer than `2 ^ 32 - 1` activations
attempted, every record that operations 9 and 12 have published is one of a condition, the records
of every condition of every source follow one another in order, and no two activations share a
correlation id. -/
theorem conditions_paired {arith : RealArith} {p : Producer} (hrun : Producer.Reachable arith p)
    (hattempted : p.memory.conditions.attempted < 2 ^ 32 - 1) :
    (∀ entry ∈ p.store.published, entry.isConditionRecord = true → ∃ record conditionId,
        entry.record = some record ∧ isOfCondition record.sourceId conditionId record = true) ∧
      (∀ sourceId conditionId,
        (recordsOf sourceId conditionId p.store.published).foldlM follows none ≠ none) ∧
      (activations p.store.published).Nodup := by
  obtain ⟨-, -, -, hagrees, hdecoded, -, hnodup⟩ := paired_of_reachable hrun hattempted
  exact ⟨hdecoded, fun sourceId conditionId => by
    rw [hagrees]
    exact Option.some_ne_none _, hnodup⟩

/-- The calls of a condition that is activated, acknowledged and cleared. -/
def alarmCalls : List Inputs :=
  pulse { op := 9, sourceId := 5, conditionId := 7, conditionActive := true } ++
    (pulse { op := 12, sourceId := 5, conditionId := 7, conditionLifecycleEventTypeId := 0x0202 } ++
      pulse { op := 9, sourceId := 5, conditionId := 7 })

/-- A condition is activated, acknowledged and cleared. -/
theorem conditions_paired_alarm :
    ∃ p, Producer.Reachable noReals p ∧ p.store.published.map Published.eventTypeId =
        [EVENT_CONDITION_ACTIVE, 0x0202, EVENT_CONDITION_CLEARED] ∧
      (recordsOf 5 7 p.store.published).foldlM follows none ≠ none := by
  have hmap : (follow (Producer.step noReals) (fun _ _ => True) alarmCalls Producer.init).map
      (fun p => (p.store.published.map Published.eventTypeId, p.memory.conditions.attempted)) =
      some ([EVENT_CONDITION_ACTIVE, 0x0202, EVENT_CONDITION_CLEARED], 1) := by
    decide +kernel
  obtain ⟨p, hfollow, hfields⟩ := Option.map_eq_some_iff.mp hmap
  obtain ⟨hpublished, hattempted⟩ := Prod.mk.inj hfields
  have hrun : Producer.Reachable noReals p := Runs.start.of_follow hfollow
  obtain ⟨-, hfollows, -⟩ := conditions_paired hrun (by rw [hattempted]; decide)
  exact ⟨p, hrun, hpublished, hfollows 5 7⟩

end OpenOT.St
