import OpenOT.Lib.KeyedTable
import OpenOT.St.Decoding
import OpenOT.St.Feeding

set_option relaxedAutoImplicit false
set_option autoImplicit false

/-!
# Activations of conditions are paired

A published activation of a condition is followed by its clearing, and what is published of the
condition in between carries the correlation id of the activation. The table of conditions knows at
all times which activation is open.

## Main definitions

* `OpenOT.St.conditionRecords` — the records that operations 9 and 12 have published.
* `OpenOT.St.follows` — the open activation of a condition after one more record, if the record may
  stand there.
* `OpenOT.St.openActivation` — the open activation according to the table of conditions.
* `OpenOT.St.Paired` — the table and the records agree.

## Main results

* `OpenOT.St.openActivation_set` — how the open activations follow the table.
* `OpenOT.St.Paired.publishActive`, `OpenOT.St.Paired.publishCleared`,
  `OpenOT.St.Paired.publishLifecycle` — the records of operations 9 and 12.

## Design

The records are read back from the published bytes: condition and correlation id are the numbers in
their slots. The history `attempted` counts the correlation ids drawn, also those of activations that
could not be published; the next id is one more, as long as no 32-bit number overflows.
-/

namespace OpenOT.St

open Rust Transition

/-! ## What has been published -/

/-- Whether operation 9 or 12 has published a record. -/
def Published.isConditionRecord (entry : Published) : Bool :=
  !entry.inputs.checkpoint && (entry.inputs.op == 9 || entry.inputs.op == 12)

/-- The records that operations 9 and 12 have published. -/
def conditionRecords (published : List Published) : List Record :=
  (published.filter Published.isConditionRecord).filterMap Published.record

/-- Whether a record is of a condition of a source. -/
def isOfCondition (sourceId conditionId : UInt32) (record : Record) : Bool :=
  record.sourceId == sourceId && slotValue KEY_CONDITION_ID record.slots == some conditionId.toNat

/-- The records of a condition of a source. -/
def recordsOf (sourceId conditionId : UInt32) (published : List Published) : List Record :=
  (conditionRecords published).filter (isOfCondition sourceId conditionId)

/-- The correlation id of the open activation after one more record of a condition; `none` if the
record may not stand there. An activation is opened when none is open; a clearing, and a lifecycle
record that belongs to an activation, carry the id of the open one. -/
def follows (current : Option ℕ) (record : Record) : Option (Option ℕ) :=
  let correlationId := slotValue KEY_CORRELATION_ID record.slots
  if record.eventTypeId = EVENT_CONDITION_ACTIVE then
    if current = none ∧ correlationId ≠ none then some correlationId else none
  else if record.eventTypeId = EVENT_CONDITION_CLEARED then
    if current ≠ none ∧ correlationId = current then some none else none
  else if activationScoped record.eventTypeId then
    if current ≠ none ∧ correlationId = current then some current else none
  else some current

/-- The correlation ids of the activations. -/
def activations (published : List Published) : List (Option ℕ) :=
  ((conditionRecords published).filter fun record =>
    record.eventTypeId == EVENT_CONDITION_ACTIVE).map fun record =>
      slotValue KEY_CORRELATION_ID record.slots

/-! ## The table of conditions -/

/-- The open activation of an entry. -/
def ConditionState.activation (state : ConditionState) : Option ℕ :=
  if state.hasLast ∧ state.lastActive then some state.correlationId.toNat else none

/-- The open activation of a condition of a source according to the table. -/
def openActivation (table : Vector ConditionState 16) (sourceId conditionId : UInt32) : Option ℕ :=
  (findEntry table (ConditionState.isOf sourceId conditionId)).bind fun index =>
    (table.get index).activation

/-- No two entries are of the same condition of the same source. -/
def Distinct (table : Vector ConditionState 16) : Prop :=
  ∀ sourceId conditionId i j, (table.get i).isOf sourceId conditionId = true →
    (table.get j).isOf sourceId conditionId = true → i = j

/-- Whether an entry is that of a condition of a source, given as a pair. -/
def isEntryOf (k : UInt32 × UInt32) : ConditionState → Bool := ConditionState.isOf k.1 k.2

section

variable {table : Vector ConditionState 16} {sourceId conditionId : UInt32} {i index : Fin 16}
  {state : ConditionState}

lemma keyed_of_distinct (h : Distinct table) : KeyedTable.Distinct isEntryOf table :=
  fun k => h k.1 k.2

/-- The open activation of a condition that has an entry. -/
lemma openActivation_eq (hdistinct : Distinct table)
    (hi : (table.get i).isOf sourceId conditionId = true) :
    openActivation table sourceId conditionId = (table.get i).activation :=
  KeyedTable.lookup_eq (k := (sourceId, conditionId)) (keyed_of_distinct hdistinct) hi

/-- A condition without an entry has no open activation. -/
lemma openActivation_eq_none
    (hnone : ∀ i, (table.get i).isOf sourceId conditionId = false) :
    openActivation table sourceId conditionId = none :=
  show KeyedTable.lookup isEntryOf ConditionState.activation table (sourceId, conditionId) = none
    from KeyedTable.lookup_eq_none hnone

/-- An entry belongs to one condition of one source. -/
lemma isEntryOf_inj (k k' : UInt32 × UInt32) (state : ConditionState)
    (h : isEntryOf k state = true) (h' : isEntryOf k' state = true) : k = k' := by
  simp only [isEntryOf, ConditionState.isOf, Bool.and_eq_true, beq_iff_eq] at h h'
  exact Prod.ext (h.1.2.symm.trans h'.1.2) (h.2.symm.trans h'.2)

/-- **The entry of a condition changes.** The other conditions keep their entries. -/
lemma openActivation_set (hdistinct : Distinct table)
    (hstate : state.isOf sourceId conditionId = true)
    (hother : ∀ i, i ≠ index → (table.get i).isOf sourceId conditionId = false)
    (hindex : (table.get index).isOf sourceId conditionId = true ∨
      (table.get index).used = false) :
    Distinct (table.set index state (entry_lt index)) ∧ ∀ sourceId' conditionId',
      openActivation (table.set index state (entry_lt index)) sourceId' conditionId' =
        if sourceId' = sourceId ∧ conditionId' = conditionId then state.activation
        else openActivation table sourceId' conditionId' := by
  obtain ⟨hset, hlookup⟩ := KeyedTable.lookup_set ConditionState.activation
    (k := (sourceId, conditionId)) isEntryOf_inj (keyed_of_distinct hdistinct) hstate hother
    (hindex.imp_right fun hfree k' => by simp [isEntryOf, ConditionState.isOf, hfree])
  refine ⟨fun sourceId' conditionId' => hset (sourceId', conditionId'),
    fun sourceId' conditionId' => (hlookup (sourceId', conditionId')).trans ?_⟩
  exact if_congr Prod.mk_inj rfl rfl

end

/-! ## The table and the records -/

/-- The table of conditions agrees with the records published. -/
structure Paired (conditions : Conditions) (published : List Published) : Prop where
  next : conditions.nextCorrelationId.toNat = conditions.attempted + 1
  distinct : Distinct conditions.table
  ids : ∀ i, (conditions.table.get i).activation ≠ some 0
  agrees : ∀ sourceId conditionId, (recordsOf sourceId conditionId published).foldlM follows none =
    some (openActivation conditions.table sourceId conditionId)
  decoded : ∀ entry ∈ published, entry.isConditionRecord = true → ∃ record conditionId,
    entry.record = some record ∧ isOfCondition record.sourceId conditionId record = true
  drawn : ∀ id ∈ activations published, ∃ n ≤ conditions.attempted, id = some n
  nodup : (activations published).Nodup

section

variable {conditions conditions' : Conditions} {published : List Published} {entry : Published}
  {record : Record} {sourceId conditionId : UInt32}

lemma conditionRecords_append (published more : List Published) :
    conditionRecords (published ++ more) = conditionRecords published ++ conditionRecords more := by
  simp [conditionRecords]

/-- A record that is none of a condition. -/
lemma conditionRecords_eq_nil {more : List Published}
    (h : ∀ entry ∈ more, entry.isConditionRecord = false) : conditionRecords more = [] := by
  rw [conditionRecords, List.filter_eq_nil_iff.mpr fun entry hentry => by simp [h entry hentry]]
  rfl

/-- A record of a condition. -/
lemma conditionRecords_singleton (hcondition : entry.isConditionRecord = true)
    (hrecord : entry.record = some record) : conditionRecords [entry] = [record] := by
  simp [conditionRecords, hcondition, hrecord]

/-- Records that are none of a condition do not matter. -/
lemma Paired.append {more : List Published} (h : Paired conditions published)
    (hmore : ∀ entry ∈ more, entry.isConditionRecord = false) :
    Paired conditions (published ++ more) := by
  have hsame : conditionRecords (published ++ more) = conditionRecords published := by
    rw [conditionRecords_append, conditionRecords_eq_nil hmore, List.append_nil]
  refine ⟨h.next, h.distinct, h.ids, ?_, ?_, ?_, ?_⟩
  · intro sourceId conditionId
    rw [recordsOf, hsame]
    exact h.agrees sourceId conditionId
  · intro entry hentry hcondition
    rcases List.mem_append.mp hentry with hold | hnew
    · exact h.decoded entry hold hcondition
    · rw [hmore entry hnew] at hcondition
      cases hcondition
  · rw [activations, hsame]
    exact h.drawn
  · rw [activations, hsame]
    exact h.nodup

/-- The table changes, but no activation is opened or closed. -/
lemma Paired.same (h : Paired conditions published)
    (hnext : conditions'.nextCorrelationId.toNat = conditions'.attempted + 1)
    (hattempted : conditions.attempted ≤ conditions'.attempted)
    (hdistinct : Distinct conditions'.table)
    (hids : ∀ i, (conditions'.table.get i).activation ≠ some 0)
    (hopen : ∀ sourceId conditionId, openActivation conditions'.table sourceId conditionId =
      openActivation conditions.table sourceId conditionId) : Paired conditions' published where
  next := hnext
  distinct := hdistinct
  ids := hids
  agrees sourceId conditionId := by
    rw [hopen]
    exact h.agrees sourceId conditionId
  decoded := h.decoded
  drawn id hid := by
    obtain ⟨n, hle, heq⟩ := h.drawn id hid
    exact ⟨n, hle.trans hattempted, heq⟩
  nodup := h.nodup

/-- **A record of a condition is published**, and the table follows it. -/
lemma Paired.concat (h : Paired conditions published) (hcondition : entry.isConditionRecord = true)
    (hrecord : entry.record = some record) (hof : isOfCondition sourceId conditionId record = true)
    (hnext : conditions'.nextCorrelationId.toNat = conditions'.attempted + 1)
    (hattempted : conditions.attempted ≤ conditions'.attempted)
    (hdistinct : Distinct conditions'.table)
    (hids : ∀ i, (conditions'.table.get i).activation ≠ some 0)
    (hfollows : follows (openActivation conditions.table sourceId conditionId) record =
      some (openActivation conditions'.table sourceId conditionId))
    (hothers : ∀ sourceId' conditionId', ¬(sourceId' = sourceId ∧ conditionId' = conditionId) →
      openActivation conditions'.table sourceId' conditionId' =
        openActivation conditions.table sourceId' conditionId')
    (hfresh : record.eventTypeId = EVENT_CONDITION_ACTIVE →
      slotValue KEY_CORRELATION_ID record.slots = some conditions'.attempted ∧
        conditions.attempted < conditions'.attempted) :
    Paired conditions' (published ++ [entry]) := by
  have hrecords : conditionRecords (published ++ [entry]) =
      conditionRecords published ++ [record] := by
    rw [conditionRecords_append, conditionRecords_singleton hcondition hrecord]
  have hactivations : activations (published ++ [entry]) = activations published ++
      if record.eventTypeId = EVENT_CONDITION_ACTIVE then
        [slotValue KEY_CORRELATION_ID record.slots] else [] := by
    rw [activations, hrecords, List.filter_append, List.map_append, activations]
    congr 1
    by_cases hactive : record.eventTypeId = EVENT_CONDITION_ACTIVE <;> simp [hactive]
  refine ⟨hnext, hdistinct, hids, ?_, ?_, ?_, ?_⟩
  · intro sourceId' conditionId'
    rw [recordsOf, hrecords, List.filter_append, List.foldlM_append]
    have hbefore := h.agrees sourceId' conditionId'
    rw [recordsOf] at hbefore
    rw [hbefore]
    by_cases hsame : sourceId' = sourceId ∧ conditionId' = conditionId
    · obtain ⟨rfl, rfl⟩ := hsame
      simp only [List.filter_cons, hof, if_true, List.filter_nil, List.foldlM_cons, List.foldlM_nil,
        Option.bind_eq_bind, Option.bind_some, hfollows, Option.pure_def]
    · have hnot : isOfCondition sourceId' conditionId' record = false := by
        by_contra hof'
        rw [Bool.not_eq_false] at hof'
        simp only [isOfCondition, Bool.and_eq_true, beq_iff_eq] at hof hof'
        refine hsame ⟨hof'.1.symm.trans hof.1, ?_⟩
        have hid := hof'.2.symm.trans hof.2
        exact UInt32.toNat_inj.mp (Option.some.inj hid)
      simp only [List.filter_cons, hnot, Bool.false_eq_true, if_false, List.filter_nil,
        List.foldlM_nil, Option.bind_eq_bind, Option.bind_some, Option.pure_def,
        hothers sourceId' conditionId' hsame]
  · intro other hother hcondition'
    rcases List.mem_append.mp hother with hold | hnew
    · exact h.decoded other hold hcondition'
    · refine ⟨record, conditionId, by rw [List.mem_singleton.mp hnew, hrecord], ?_⟩
      simp only [isOfCondition, Bool.and_eq_true, beq_iff_eq] at hof ⊢
      exact ⟨trivial, hof.2⟩
  · rw [hactivations]
    intro id hid
    rcases List.mem_append.mp hid with hold | hnew
    · obtain ⟨n, hle, heq⟩ := h.drawn id hold
      exact ⟨n, hle.trans hattempted, heq⟩
    · split_ifs at hnew with hactive
      · rw [List.mem_singleton.mp hnew, (hfresh hactive).1]
        exact ⟨_, le_rfl, rfl⟩
      · cases hnew
  · rw [hactivations]
    split_ifs with hactive
    · obtain ⟨hid, hlt⟩ := hfresh hactive
      refine List.nodup_append.mpr ⟨h.nodup, List.nodup_singleton _, fun a ha b hb hab => ?_⟩
      obtain ⟨n, hle, heq⟩ := h.drawn a ha
      rw [List.mem_singleton.mp hb, hid] at hab
      have hn := Option.some.inj (heq.symm.trans hab)
      omega
    · rw [List.append_nil]
      exact h.nodup

end

/-! ## Operations 9 and 12 -/

section

variable {inputs : Inputs} {memory : Memory} {conditions : Conditions}
  {published : List Published} {table : Vector ConditionState 16} {index : Fin 16}
  {sourceId conditionId : UInt32} {entry : Published} {envelope : Envelope} {slots : List Slot}

/-- What operation 9 does with the entry of its condition: it is in order, and a new one has no
open activation. -/
lemma opened_spec (hdistinct : Distinct memory.conditions.table)
    (hopen : ConditionOpened inputs memory index table) :
    Distinct table ∧ (table.get index).isOf inputs.activeSourceId inputs.conditionId = true ∧
      (∀ sourceId conditionId, openActivation table sourceId conditionId =
        openActivation memory.conditions.table sourceId conditionId) ∧
      ((∀ i, (memory.conditions.table.get i).activation ≠ some 0) →
        ∀ i, (table.get i).activation ≠ some 0) := by
  rcases openEntry_some hopen with ⟨hentry, rfl⟩ | ⟨hnone, hfree, rfl⟩
  · exact ⟨hdistinct, hentry, fun _ _ => rfl, id⟩
  · have hused : (memory.conditions.table.get index).used = false := by simpa using hfree
    set fresh : ConditionState := { memory.conditions.table.get index with
      used := true
      sourceId := inputs.activeSourceId
      conditionId := inputs.conditionId
      hasLast := false
      correlationId := 0 }
    have hof : fresh.isOf inputs.activeSourceId inputs.conditionId = true := by
      simp [fresh, ConditionState.isOf]
    obtain ⟨hset, hopenSet⟩ := openActivation_set hdistinct hof
      (fun i _ => hnone i) (.inr hused)
    refine ⟨hset, ?_, fun sourceId conditionId => ?_, fun hids i => ?_⟩
    · rw [KeyedTable.get_set, if_pos rfl]
      exact hof
    · rw [hopenSet]
      split_ifs with hsame
      · obtain ⟨rfl, rfl⟩ := hsame
        rw [openActivation_eq_none hnone]
        rfl
      · rfl
    · rw [KeyedTable.get_set]
      split_ifs
      · exact fun h => by cases h
      · exact hids i

/-- Writing the entry of a condition. -/
lemma written_spec {state : ConditionState} (hdistinct : Distinct table)
    (hof : (table.get index).isOf sourceId conditionId = true)
    (hstate : state.isOf sourceId conditionId = true)
    (hids : ∀ i, (table.get i).activation ≠ some 0) (hid : state.activation ≠ some 0) :
    Distinct (table.set index state (entry_lt index)) ∧
      (∀ sourceId' conditionId',
        openActivation (table.set index state (entry_lt index)) sourceId' conditionId' =
        if sourceId' = sourceId ∧ conditionId' = conditionId then state.activation
        else openActivation table sourceId' conditionId') ∧
      ∀ i, ((table.set index state (entry_lt index)).get i).activation ≠ some 0 := by
  have hother : ∀ i, i ≠ index → (table.get i).isOf sourceId conditionId = false := by
    intro i hne
    by_contra hi
    rw [Bool.not_eq_false] at hi
    exact hne (hdistinct _ _ i index hi hof)
  obtain ⟨hset, hopen⟩ := openActivation_set hdistinct hstate hother (.inl hof)
  refine ⟨hset, hopen, fun i => ?_⟩
  rw [KeyedTable.get_set]
  split_ifs
  · exact hid
  · exact hids i

/-- The decisions of operation 9. -/
lemma prepareCondition_cases (inputs : Inputs) (memory : Memory) :
    prepareCondition inputs memory = ⟨memory, .refuse⟩ ∨
      ∃ index table, ConditionOpened inputs memory index table ∧
        ((if (table.get index).hasLast then
              (table.get index).lastActive != inputs.conditionActive
            else inputs.conditionActive) = true ∧
          prepareCondition inputs memory =
            ⟨{ memory with conditions := { memory.conditions with table := table } },
              .emit (conditionEmission inputs index (if inputs.conditionActive then
                memory.conditions.nextCorrelationId else (table.get index).correlationId))⟩ ∨
          (if (table.get index).hasLast then
              (table.get index).lastActive != inputs.conditionActive
            else inputs.conditionActive) = false ∧
          prepareCondition inputs memory =
            ⟨{ memory with
              conditions := { memory.conditions with table := table }.observe index
                inputs.conditionActive }, .finish⟩) := by
  unfold prepareCondition
  by_cases hid : inputs.conditionId = 0
  · rw [if_pos hid]
    exact .inl rfl
  rw [if_neg hid]
  split
  · exact .inl rfl
  · rename_i index table hopen
    refine .inr ⟨index, table, hopen, ?_⟩
    dsimp only
    by_cases hchange : (if (table.get index).hasLast then
        (table.get index).lastActive != inputs.conditionActive else inputs.conditionActive) = true
    · exact .inl ⟨hchange, if_pos hchange⟩
    · exact .inr ⟨Bool.eq_false_iff.mpr hchange, if_neg hchange⟩

/-- An observation that changes nothing opens and closes nothing. -/
lemma Paired.observe (h : Paired memory.conditions published)
    (hopen : ConditionOpened inputs memory index table)
    (hsame : (if (table.get index).hasLast then
      (table.get index).lastActive != inputs.conditionActive else inputs.conditionActive) = false) :
    Paired ({ memory.conditions with table := table }.observe index inputs.conditionActive)
      published := by
  obtain ⟨hdistinct, hof, hopened, hids⟩ := opened_spec h.distinct hopen
  set state : ConditionState :=
    { table.get index with hasLast := true, lastActive := inputs.conditionActive }
  have hactivation : state.activation = (table.get index).activation := by
    unfold ConditionState.activation
    change (if true = true ∧ inputs.conditionActive = true then _ else _) = _
    cases hlast : (table.get index).hasLast with
    | true =>
      rw [if_pos hlast, bne_eq_false_iff_eq] at hsame
      simp [hsame, state]
    | false =>
      rw [if_neg (by simp [hlast])] at hsame
      simp [hsame]
  have hstate : state.isOf inputs.activeSourceId inputs.conditionId = true := hof
  obtain ⟨hset, hopenSet, hidsSet⟩ := written_spec hdistinct hof hstate (hids h.ids)
    (by rw [hactivation]; exact hids h.ids index)
  refine h.same h.next le_rfl hset hidsSet fun sourceId conditionId => ?_
  refine (hopenSet sourceId conditionId).trans ?_
  split_ifs with heq
  · rw [hactivation, ← openActivation_eq hdistinct hof, heq.1, heq.2, hopened]
  · exact hopened _ _

/-- The next correlation id, as long as there are any. -/
lemma next_activate (hnext : conditions.nextCorrelationId.toNat = conditions.attempted + 1)
    (hattempted : conditions.attempted + 1 < 2 ^ 32 - 1) :
    (conditions.activate index).nextCorrelationId.toNat =
      (conditions.activate index).attempted + 1 := by
  change (conditions.nextCorrelationId + 1).toNat = conditions.attempted + 1 + 1
  rw [UInt32.toNat_add, hnext]
  exact Nat.mod_eq_of_lt (by change conditions.attempted + 1 + 1 < 2 ^ 32; omega)

/-- A correlation id is drawn for a condition that is not active. -/
lemma Paired.activate (h : Paired conditions published)
    (hof : (conditions.table.get index).isOf sourceId conditionId = true)
    (hnone : (conditions.table.get index).activation = none)
    (hattempted : conditions.attempted + 1 < 2 ^ 32 - 1) :
    Paired (conditions.activate index) published := by
  set state : ConditionState :=
    { conditions.table.get index with correlationId := conditions.nextCorrelationId }
  have hstate : state.activation = none := by
    unfold ConditionState.activation at hnone ⊢
    by_cases hopen : (conditions.table.get index).hasLast = true ∧
        (conditions.table.get index).lastActive = true
    · rw [if_pos hopen] at hnone
      cases hnone
    · exact if_neg hopen
  have hstateOf : state.isOf sourceId conditionId = true := hof
  obtain ⟨hset, hopenSet, hidsSet⟩ := written_spec h.distinct hof hstateOf h.ids
    (by rw [hstate]; exact fun heq => by cases heq)
  refine h.same (next_activate h.next hattempted) (Nat.le_succ _) hset hidsSet
    fun sourceId' conditionId' => (hopenSet sourceId' conditionId').trans ?_
  split_ifs with heq
  · rw [hstate, heq.1, heq.2, openActivation_eq h.distinct hof, hnone]
  · rfl

/-- The condition of a record. -/
lemma isOfCondition_record {eventTypeId : UInt32} (hsource : envelope.sourceId = sourceId)
    (hid : slotValue KEY_CONDITION_ID slots = some conditionId.toNat) :
    isOfCondition sourceId conditionId (envelope.record eventTypeId slots) = true := by
  simp [isOfCondition, Envelope.record, hsource, hid]

/-- An activation is published. -/
lemma Paired.publishActive (h : Paired conditions published)
    (hof : (conditions.table.get index).isOf sourceId conditionId = true)
    (hnone : (conditions.table.get index).activation = none)
    (hattempted : conditions.attempted + 1 < 2 ^ 32 - 1)
    (hcondition : entry.isConditionRecord = true)
    (hrecord : entry.record = some (envelope.record EVENT_CONDITION_ACTIVE slots))
    (hsource : envelope.sourceId = sourceId)
    (hid : slotValue KEY_CONDITION_ID slots = some conditionId.toNat)
    (hcorrelation : slotValue KEY_CORRELATION_ID slots =
      some conditions.nextCorrelationId.toNat) :
    Paired ((conditions.activate index).observe index true) (published ++ [entry]) := by
  have hnext : (conditions.activate index).nextCorrelationId.toNat =
      (conditions.activate index).attempted + 1 := next_activate h.next hattempted
  set state : ConditionState := { conditions.table.get index with
    correlationId := conditions.nextCorrelationId
    hasLast := true
    lastActive := true }
  have htable : ((conditions.activate index).observe index true).table =
      conditions.table.set index state := by
    unfold Conditions.observe Conditions.activate
    dsimp only
    rw [KeyedTable.get_set, if_pos rfl, Vector.set_set]
  have hstate : state.activation = some conditions.nextCorrelationId.toNat := rfl
  have hstateOf : state.isOf sourceId conditionId = true := hof
  obtain ⟨hset, hopenSet, hidsSet⟩ := written_spec h.distinct hof hstateOf h.ids (by
    rw [hstate, h.next]
    exact fun heq => Nat.succ_ne_zero _ (Option.some.inj heq))
  rw [← htable] at hset hopenSet hidsSet
  refine h.concat hcondition hrecord (isOfCondition_record hsource hid) hnext (Nat.le_succ _) hset
    hidsSet ?_ (fun sourceId' conditionId' hne => ?_) fun _ => ⟨?_, Nat.lt_succ_self _⟩
  · rw [hopenSet, if_pos ⟨rfl, rfl⟩, openActivation_eq h.distinct hof, hnone, hstate]
    unfold follows
    dsimp only
    rw [if_pos (show (envelope.record EVENT_CONDITION_ACTIVE slots).eventTypeId =
      EVENT_CONDITION_ACTIVE from rfl)]
    rw [show (envelope.record EVENT_CONDITION_ACTIVE slots).slots = slots from rfl, hcorrelation]
    rfl
  · rw [hopenSet, if_neg hne]
  · refine hcorrelation.trans ?_
    rw [h.next]
    rfl

/-- A clearing is published. -/
lemma Paired.publishCleared (h : Paired conditions published)
    (hof : (conditions.table.get index).isOf sourceId conditionId = true) {correlationId : ℕ}
    (hopen : (conditions.table.get index).activation = some correlationId)
    (hcondition : entry.isConditionRecord = true)
    (hrecord : entry.record = some (envelope.record EVENT_CONDITION_CLEARED slots))
    (hsource : envelope.sourceId = sourceId)
    (hid : slotValue KEY_CONDITION_ID slots = some conditionId.toNat)
    (hcorrelation : slotValue KEY_CORRELATION_ID slots = some correlationId) :
    Paired (conditions.observe index false) (published ++ [entry]) := by
  set state : ConditionState := { conditions.table.get index with
    hasLast := true
    lastActive := false }
  have hstate : state.activation = none := rfl
  have hstateOf : state.isOf sourceId conditionId = true := hof
  obtain ⟨hset, hopenSet, hidsSet⟩ := written_spec h.distinct hof hstateOf h.ids
    (by rw [hstate]; exact fun heq => by cases heq)
  refine h.concat hcondition hrecord (isOfCondition_record hsource hid) h.next le_rfl hset
    hidsSet ?_ (fun sourceId' conditionId' hne => ?_) fun hactive => ?_
  · refine Eq.trans ?_ (congrArg some (hopenSet sourceId conditionId)).symm
    rw [if_pos ⟨rfl, rfl⟩, openActivation_eq h.distinct hof, hopen, hstate]
    have hne : (envelope.record EVENT_CONDITION_CLEARED slots).eventTypeId ≠
        EVENT_CONDITION_ACTIVE :=
      show EVENT_CONDITION_CLEARED ≠ EVENT_CONDITION_ACTIVE by decide
    unfold follows
    dsimp only
    rw [if_neg hne, if_pos (show (envelope.record
      EVENT_CONDITION_CLEARED slots).eventTypeId = EVENT_CONDITION_CLEARED from rfl)]
    rw [show (envelope.record EVENT_CONDITION_CLEARED slots).slots = slots from rfl, hcorrelation]
    exact if_pos ⟨Option.some_ne_none _, rfl⟩
  · exact (hopenSet sourceId' conditionId').trans (if_neg hne)
  · exact absurd hactive (show EVENT_CONDITION_CLEARED ≠ EVENT_CONDITION_ACTIVE by decide)

/-- A lifecycle event is published; one that belongs to an activation carries its id. -/
lemma Paired.publishLifecycle (h : Paired conditions published) {eventTypeId correlationId : UInt32}
    (hevent : 0x0202 ≤ eventTypeId)
    (hscope : activationScoped eventTypeId = true →
      openActivation conditions.table sourceId conditionId = some correlationId.toNat ∧
        slotValue KEY_CORRELATION_ID slots = some correlationId.toNat)
    (hcondition : entry.isConditionRecord = true)
    (hrecord : entry.record = some (envelope.record eventTypeId slots))
    (hsource : envelope.sourceId = sourceId)
    (hid : slotValue KEY_CONDITION_ID slots = some conditionId.toNat) :
    Paired conditions (published ++ [entry]) := by
  have hactive : eventTypeId ≠ EVENT_CONDITION_ACTIVE := fun heq => by
    rw [heq] at hevent
    exact absurd hevent (by decide)
  have hcleared : eventTypeId ≠ EVENT_CONDITION_CLEARED := fun heq => by
    rw [heq] at hevent
    exact absurd hevent (by decide)
  refine h.concat hcondition hrecord (isOfCondition_record hsource hid) h.next le_rfl h.distinct
    h.ids ?_ (fun _ _ _ => rfl) fun hnot => absurd hnot hactive
  unfold follows
  dsimp only
  rw [if_neg (show (envelope.record eventTypeId slots).eventTypeId ≠ _ from hactive),
    if_neg (show (envelope.record eventTypeId slots).eventTypeId ≠ _ from hcleared)]
  by_cases hscoped : activationScoped eventTypeId = true
  · obtain ⟨hopen, hcorrelation⟩ := hscope hscoped
    rw [if_pos (show activationScoped (envelope.record eventTypeId slots).eventTypeId = true from
      hscoped), hopen, show (envelope.record eventTypeId slots).slots = slots from rfl,
      hcorrelation]
    exact if_pos ⟨Option.some_ne_none _, rfl⟩
  · exact if_neg hscoped

/-- The slots of a condition that a reader looks up. -/
lemma slotValue_condition (isActive : Bool) (conditionId : UInt32) (conditionClass severity : UInt16)
    (correlationId : UInt32) (hasCauseOperand : Bool) (causeOperand : UInt32) :
    slotValue KEY_CONDITION_ID (conditionSlots isActive conditionId conditionClass severity true
        correlationId hasCauseOperand causeOperand) = some conditionId.toNat ∧
      slotValue KEY_CORRELATION_ID (conditionSlots isActive conditionId conditionClass severity true
        correlationId hasCauseOperand causeOperand) = some correlationId.toNat := by
  constructor <;> simp [slotValue, conditionSlots, udintField, uintField, onlyIf, KEY_CONDITION_ID,
    KEY_CONDITION_CLASS, KEY_CORRELATION_ID, fromLe_toLe]

/-- The slots of a lifecycle event that a reader looks up. -/
lemma slotValue_lifecycle (eventTypeId conditionId correlationId : UInt32)
    (lifecycle : LifecycleInputs) :
    slotValue KEY_CONDITION_ID (lifecycleSlots eventTypeId conditionId correlationId lifecycle) =
        some conditionId.toNat ∧
      (activationScoped eventTypeId = true → slotValue KEY_CORRELATION_ID
        (lifecycleSlots eventTypeId conditionId correlationId lifecycle) =
          some correlationId.toNat) := by
  refine ⟨?_, fun hscope => ?_⟩
  · simp [slotValue, lifecycleSlots, udintField, KEY_CONDITION_ID, fromLe_toLe]
  · simp [slotValue, lifecycleSlots, udintField, hscope, onlyIf, KEY_CONDITION_ID,
      KEY_CORRELATION_ID, fromLe_toLe]

end

end OpenOT.St
