import OpenOT.St.Feeding
import OpenOT.St.ValueRecords

set_option relaxedAutoImplicit false
set_option autoImplicit false

/-!
# What the operations do to what is stored of values

A value that is observed is stored exactly when its record has been published. Apart from that, only
operation 15 changes what is stored, and only these operations publish changes of values.

## Main definitions

* `OpenOT.St.Inputs.observed` — the value that a call observes.
* `OpenOT.St.Producer.Observes` — what becomes of an observed value.
* `OpenOT.St.Values.Same` — a step that leaves the tables of values as they are.

## Main results

* `OpenOT.St.Producer.observes_of_call` — calls of the operations 6, 7, 10 and 11.
* `OpenOT.St.Producer.same_of_call` — all other calls but those of operation 15.
* `OpenOT.St.Published.Of.not_changed` — what they publish is no change of a value.
-/

namespace OpenOT.St

open Rust

/-! ## Observed values -/

/-- The value that a call observes, if its operation does. -/
def Inputs.observed (inputs : Inputs) : Option Value :=
  if inputs.op = 6 then some (.real inputs.valueReal)
  else if inputs.op = 7 then some (.int inputs.valueInt)
  else if inputs.op = 10 then some (.bits inputs.valueBits)
  else if inputs.op = 11 then some (.string inputs.valueString)
  else none

/-- The bytes that a value has in the records of a call. -/
def Inputs.payload (inputs : Inputs) (value : Value) : Bytes :=
  value.payload (writtenBytes inputs.valuePayloadLength)

namespace Producer

/-- What becomes of an observed value: it is refused; or it is not published and, unless it is a
`REAL`, it is the one stored; or it is published with the one stored before it, and then stored. -/
inductive Observes (inputs : Inputs) (value : Value) (p p' : Producer) : Prop
  | refused (hdone : p'.done = false) (hpublished : p'.store.published = p.store.published)
      (hlast : p'.memory.values.last = p.memory.values.last)
  | same (hdone : p'.done = true) (hpublished : p'.store.published = p.store.published)
      (hlast : p'.memory.values.last = p.memory.values.last)
      (hsame : value.kind ≠ .real →
        p.memory.values.last value.kind inputs.valueId = some value)
  | logged {entry : Published} {previous : Option Bytes} (hdone : p'.done = true)
      (hpublished : p'.store.published = p.store.published ++ [entry])
      (hlast : p'.memory.values.last =
        p.memory.values.last.put value.kind inputs.valueId value)
      (hentry : entry.change EVENT_VALUE_CHANGED =
        some ⟨inputs.valueId, previous, inputs.payload value⟩)
      (hprevious : ∀ bytes, previous = some bytes →
        (p.memory.values.last value.kind inputs.valueId).map inputs.payload = some bytes)
      (hnew : inputs.samplingMode ≠ 1 → value.kind ≠ .real →
        p.memory.values.last value.kind inputs.valueId ≠ some value)

end Producer

/-- The test of a kind for a change compares with the last value; that of `REAL` values does not. -/
def ValueKind.Compares {α β : Type} (kind : ValueKind α β) (wrap : α → Value) : Prop :=
  ∀ arith inputs (state : ValueState α β), kind.changed arith inputs state = true ↔
    state.last.map wrap ≠ some (wrap (kind.value inputs))

/-- A test that compares a value with the last one, if there is one. -/
lemma ValueKind.compares_of_bne {α β : Type} [DecidableEq α] {kind : ValueKind α β}
    {wrap : α → Value} (hwrap : ∀ a b, wrap a = wrap b → a = b)
    (h : ∀ arith inputs (state : ValueState α β), kind.changed arith inputs state =
      if state.hasLast then kind.value inputs != state.lastValue else true) :
    kind.Compares wrap := by
  intro arith inputs state
  rw [h, ValueState.last]
  cases state.hasLast with
  | false => simp
  | true =>
    rw [if_pos rfl, if_pos rfl, bne_iff_ne, Option.map_some]
    exact ⟨fun hne heq => hne (hwrap _ _ (Option.some.inj heq).symm),
      fun hne heq => hne (by rw [heq])⟩

lemma compares_int : intKind.Compares .int :=
  ValueKind.compares_of_bne (fun _ _ => Value.int.inj) fun _ _ _ => rfl

lemma compares_bits : bitsKind.Compares .bits :=
  ValueKind.compares_of_bne (fun _ _ => Value.bits.inj) fun _ _ _ => rfl

lemma compares_string : stringKind.Compares .string :=
  ValueKind.compares_of_bne (fun _ _ => Value.string.inj) fun _ _ _ => rfl

namespace Producer

variable {arith : RealArith} {inputs : Inputs} {p p' : Producer} {α β : Type}
  {kind : ValueKind α β} {tag : Kind} {wrap : α → Value}

/-- The record of an observed value tells of its change. -/
lemma change_of_spells (hspells : kind.Spells wrap) {index : Fin 16} {state : ValueState α β}
    {entry : Published} (hrecord : ∀ slots, (kind.change inputs index state).Writes slots →
      ∃ envelope, entry.record = some (Envelope.record envelope EVENT_VALUE_CHANGED slots)) :
    entry.change EVENT_VALUE_CHANGED = some ⟨inputs.valueId,
      if state.hasLast && !inputs.suppressPrevious then
        some (inputs.payload (wrap state.lastValue)) else none,
      inputs.payload (wrap (kind.value inputs))⟩ := by
  obtain ⟨newField, previousField, hwrites, ⟨hnewKey, hnewPayload⟩, hpreviousKey,
    hpreviousPayload⟩ := hspells.change inputs index state
  obtain ⟨envelope, henvelope⟩ := hrecord _ hwrites
  obtain ⟨hid, hnew, hprevious⟩ := slots_valueChanged hnewKey hpreviousKey
  rw [Published.change_eq henvelope hid hnew, hprevious, hnewPayload, hpreviousPayload]
  rfl

/-- An operation that observes a value of a kind. -/
lemma observes_of_prepareValue (hstores : kind.Stores tag wrap) (hspells : kind.Spells wrap)
    (htag : (wrap (kind.value inputs)).kind = tag) (hcompares : tag ≠ .real → kind.Compares wrap)
    (hidle : p.done = false) (hsound : p.memory.values.Sound) {valid : Bool}
    (hprepared : p.prepared arith inputs =
      prepareValue kind valid arith inputs (p.nextSourceTime inputs) p.memory)
    (h : p.dataOp arith inputs = some p') :
    p'.memory.values.Sound ∧ Observes inputs (wrap (kind.value inputs)) p p' := by
  obtain ⟨hsound', hlast, hplan⟩ :=
    hstores.prepareValue arith inputs (p.nextSourceTime inputs) hsound valid
  rw [← hprepared] at hsound' hlast hplan
  rcases hplan with hrefuse | ⟨index, state, hstate, hof, hknown, hplan⟩
  · rw [dataOp_refuse hrefuse] at h
    cases h
    exact ⟨hsound', .refused hidle rfl hlast⟩
  rcases hplan with ⟨hfinish, hchanged⟩ | ⟨hemit, hchanged⟩
  · rw [dataOp_finish hfinish] at h
    cases h
    refine ⟨hsound', .same rfl rfl hlast fun hne => ?_⟩
    rw [htag] at hne ⊢
    by_contra hdiff
    rw [hknown] at hdiff
    rw [(hcompares hne arith inputs state).mpr hdiff] at hchanged
    cases hchanged
  · rw [dataOp_emit hemit] at h
    have hidle' : ({ p with memory := (p.prepared arith inputs).memory } : Producer).done = false :=
      hidle
    rcases emit_cases hidle' h with
      ⟨hdone, hpublished, hvalues⟩ | ⟨hdone, entry, sourceTime, hpublished, hvalues, hrecord⟩
    · rw [hvalues]
      exact ⟨hsound', .refused hdone hpublished ((congrArg Values.last hvalues).trans hlast)⟩
    · obtain ⟨hsound'', hlast'⟩ := hstores.keep_change hsound' (hstate ▸ hof) state sourceTime
      rw [hvalues]
      refine ⟨hsound'', .logged hdone hpublished ?_ (change_of_spells hspells hrecord) ?_ ?_⟩
      · rw [hvalues, htag]
        exact hlast'.trans (congrArg _ hlast)
      · intro bytes hbytes
        split_ifs at hbytes with hhas
        obtain ⟨hhas, -⟩ := Bool.and_eq_true_iff.mp hhas
        rw [htag, hknown, ValueState.last, if_pos hhas]
        exact hbytes
      · intro hmode hne
        rw [htag] at hne ⊢
        rw [hknown]
        exact (hcompares hne arith inputs state).mp (hchanged hmode)

/-- The operations that observe a value. -/
lemma observes_of_dataOp {value : Value} (hobserved : inputs.observed = some value)
    (hidle : p.done = false) (hsound : p.memory.values.Sound)
    (h : p.dataOp arith inputs = some p') :
    p'.memory.values.Sound ∧ Observes inputs value p p' := by
  unfold Inputs.observed at hobserved
  have hprepared : p.prepared arith inputs = prepare arith inputs (p.nextSourceTime inputs)
    p.attestableEvents p.memory := rfl
  unfold prepare at hprepared
  dsimp only at hprepared
  split_ifs at hobserved with h6 h7 h10 h11 <;> cases hobserved
  · rw [if_pos h6] at hprepared
    exact observes_of_prepareValue stores_real spells_real rfl (absurd rfl) hidle hsound hprepared h
  · rw [if_neg h6, if_pos h7] at hprepared
    exact observes_of_prepareValue stores_int spells_int rfl (fun _ => compares_int) hidle hsound
      hprepared h
  · rw [if_neg h6, if_neg h7, if_pos h10] at hprepared
    exact observes_of_prepareValue stores_bits spells_bits rfl (fun _ => compares_bits) hidle hsound
      hprepared h
  · rw [if_neg h6, if_neg h7, if_neg h10, if_pos h11] at hprepared
    exact observes_of_prepareValue stores_string spells_string rfl (fun _ => compares_string) hidle
      hsound hprepared h

/-- A value is observed by a data operation. -/
lemma isDataOp_of_observed (h : inputs.observed ≠ none) : isDataOp inputs.op = true := by
  unfold Inputs.observed at h
  split_ifs at h with h6 h7 h10 h11
  · rw [h6]
    rfl
  · rw [h7]
    rfl
  · rw [h10]
    rfl
  · rw [h11]
    rfl
  · exact absurd rfl h

/-- **The operations 6, 7, 10 and 11.** -/
lemma observes_of_operated {value : Value} (hcheckpoint : inputs.checkpoint = false)
    (hobserved : inputs.observed = some value) (hidle : p.done = false)
    (hsound : p.memory.values.Sound) (h : Operated arith inputs p p') :
    p'.memory.values.Sound ∧ Observes inputs value p p' := by
  rcases memory_of_operated h with ⟨-, hnot⟩ | ⟨-, -, hdata⟩
  · rw [hcheckpoint, isDataOp_of_observed (by rw [hobserved]; exact Option.some_ne_none _)] at hnot
    rcases hnot with hnot | hnot <;> cases hnot
  · exact observes_of_dataOp hobserved hidle hsound hdata

end Producer

/-! ## The other operations -/

/-- The tables of values are the same; that of the state machines may be another. -/
def Values.Same (values values' : Values) : Prop :=
  ∃ table, values' = { values with stateMachines := table }

lemma Values.Same.refl (values : Values) : values.Same values := ⟨values.stateMachines, rfl⟩

lemma Values.Same.trans {values values' values'' : Values} (h : values.Same values')
    (h' : values'.Same values'') : values.Same values'' := by
  obtain ⟨_, rfl⟩ := h
  obtain ⟨table, rfl⟩ := h'
  exact ⟨table, rfl⟩

lemma Values.Same.sound {values values' : Values} (h : values.Same values')
    (hsound : values.Sound) : values'.Sound := by
  obtain ⟨_, rfl⟩ := h
  exact ⟨hsound.real, hsound.int, hsound.bits, hsound.string⟩

lemma Values.Same.last {values values' : Values} (h : values.Same values') :
    values'.last = values.last := by
  obtain ⟨_, rfl⟩ := h
  funext kind valueId
  cases kind <;> rfl

/-- The operations that observe no value. -/
lemma observed_eq_none {inputs : Inputs} : inputs.observed = none ↔
    inputs.op ≠ 6 ∧ inputs.op ≠ 7 ∧ inputs.op ≠ 10 ∧ inputs.op ≠ 11 := by
  unfold Inputs.observed
  split_ifs with h6 h7 h10 h11 <;> simp_all

section

variable {arith : RealArith} {inputs : Inputs} {policySourceTime : UInt64}
  {events : AttestableEventLog} {memory : Memory} {emission : Emission}

lemma same_prepareStateTransition :
    memory.values.Same (prepareStateTransition inputs memory).memory.values := by
  unfold prepareStateTransition
  split_ifs
  · exact .refl _
  · exact .refl _
  split
  · exact .refl _
  · dsimp only
    split_ifs <;> exact ⟨_, rfl⟩

lemma values_prepareCondition : (prepareCondition inputs memory).memory.values = memory.values := by
  unfold prepareCondition
  split
  · rfl
  split
  · rfl
  · dsimp only
    split_ifs <;> rfl

/-- The tables of values stay when another operation decides. -/
lemma same_prepare (hobserved : inputs.observed = none) (hop : inputs.op ≠ 15) :
    memory.values.Same (prepare arith inputs policySourceTime events memory).memory.values := by
  obtain ⟨h6, h7, h10, h11⟩ := observed_eq_none.mp hobserved
  unfold prepare
  dsimp only
  rw [if_neg h6, if_neg h7, if_neg h10, if_neg h11, if_neg hop]
  split_ifs
  · exact same_prepareStateTransition
  · rw [values_prepareCondition]
    exact .refl _
  · exact recounts_prepareLifecycle.values ▸ .refl _
  · exact recounts_prepareProcedure.values ▸ .refl _
  · exact recounts_prepareRegulated.values ▸ .refl _
  · exact recounts_prepareSignature.values ▸ .refl _

/-- They stay when its record has been published, which is not a changed value. -/
lemma Emitted.same (h : Emitted inputs events memory emission) (hobserved : inputs.observed = none)
    (hop : inputs.op ≠ 15) (sourceTime : UInt64) (values : Values) :
    values.Same (emission.keep sourceTime values) := by
  obtain ⟨h6, h7, h10, h11⟩ := observed_eq_none.mp hobserved
  cases h with
  | real hop' => exact absurd hop' h6
  | int hop' => exact absurd hop' h7
  | bits hop' => exact absurd hop' h10
  | string hop' => exact absurd hop' h11
  | stateTransition => exact ⟨_, rfl⟩
  | parameterReal hop' => exact absurd hop' hop
  | parameterInt hop' => exact absurd hop' hop
  | parameterString hop' => exact absurd hop' hop
  | parameterBits hop' => exact absurd hop' hop
  | _ => exact .refl _

/-- No other operation emits changed values. -/
lemma Emitted.eventTypeId_ne (h : Emitted inputs events memory emission)
    (hobserved : inputs.observed = none) : emission.eventTypeId ≠ EVENT_VALUE_CHANGED := by
  obtain ⟨h6, h7, h10, h11⟩ := observed_eq_none.mp hobserved
  cases h with
  | real hop => exact absurd hop h6
  | int hop => exact absurd hop h7
  | bits hop => exact absurd hop h10
  | string hop => exact absurd hop h11
  | stateTransition => exact show (0x0001 : UInt32) ≠ EVENT_VALUE_CHANGED by decide
  | condition =>
    unfold conditionEmission
    dsimp only
    split_ifs <;> decide
  | lifecycle _ hevent =>
    intro heq
    have hevent' : inputs.conditionLifecycleEventTypeId = EVENT_VALUE_CHANGED := heq
    rw [hevent'] at hevent
    exact absurd hevent.1 (by decide)
  | procedure _ hknown =>
    rcases hknown with h | h | h | h <;> simp only [commandEmission, h] <;> decide
  | regulated _ hknown =>
    rcases hknown with h | h | h | h <;> simp only [commandEmission, h] <;> decide
  | signature => exact show (0x0404 : UInt32) ≠ EVENT_VALUE_CHANGED by decide
  | _ =>
    -- operation 15
    exact show (0x0403 : UInt32) ≠ EVENT_VALUE_CHANGED by decide

end

namespace Published

variable {inputs : Inputs} {p : Producer} {entry : Published}

/-- A record that is no change of a value. -/
lemma Holds.change_eq_none {slots : List Slot} {eventTypeId : UInt32} (h : entry.Holds slots)
    (hne : entry.eventTypeId ≠ eventTypeId) : entry.change eventTypeId = none := by
  obtain ⟨hfits, sourceTime, hbytes⟩ := h
  exact Published.change_eq_none (record_eq hbytes hfits) hne

/-- What the other operations publish is no change of a value, staged records apart. -/
lemma Of.not_changed (h : entry.Of inputs p)
    (hnot : inputs.checkpoint = true ∨ inputs.op ≠ 5 ∧ inputs.observed = none) :
    entry.eventTypeId ≠ EVENT_VALUE_CHANGED ∧ entry.change EVENT_VALUE_CHANGED = none := by
  have hne : entry.eventTypeId ≠ EVENT_VALUE_CHANGED ∧ ∃ slots, entry.Holds slots := by
    cases h with
    | highWater h =>
      obtain ⟨hevent, _, hholds⟩ := h
      exact ⟨by rw [hevent]; decide, _, hholds⟩
    | stopped h => exact ⟨by rw [h.2.1]; decide, _, h.2.2⟩
    | changed h => exact ⟨by rw [h.2.1]; decide, _, h.2.2⟩
    | started h => exact ⟨by rw [h.2.1]; decide, _, h.2.2⟩
    | message _ _ h => exact ⟨by rw [h.2.1]; decide, _, h.2.2⟩
    | staged hcheckpoint hop =>
      rcases hnot with hnot | ⟨hnot, -⟩
      · rw [hcheckpoint] at hnot
        cases hnot
      · exact absurd hop hnot
    | data hcheckpoint h =>
      rcases hnot with hnot | ⟨-, hobserved⟩
      · rw [hcheckpoint] at hnot
        cases hnot
      · obtain ⟨emission, hemitted, hentry⟩ := h
        obtain ⟨slots, hwrites⟩ := hemitted.writes
        exact ⟨by rw [hentry.eventTypeId]; exact hemitted.eventTypeId_ne hobserved, slots,
          hentry.holds slots hwrites⟩
  exact ⟨hne.1, hne.2.elim fun _ hholds => hholds.change_eq_none hne.1⟩

end Published

namespace Producer

variable {arith : RealArith} {inputs : Inputs} {p p' : Producer}

/-- **The other operations** leave the tables of values as they are, operation 15 apart. -/
lemma same_of_operated (h : Operated arith inputs p p')
    (hnot : inputs.checkpoint = true ∨ inputs.observed = none ∧ inputs.op ≠ 15) :
    p.memory.values.Same p'.memory.values := by
  rcases memory_of_operated h with ⟨hmemory, -⟩ | ⟨hcheckpoint, hop, hdata⟩
  · rw [hmemory]
    exact .refl _
  rcases hnot with hnot | ⟨hobserved, h15⟩
  · rw [hcheckpoint] at hnot
    cases hnot
  have hprepared : p.memory.values.Same (p.prepared arith inputs).memory.values :=
    same_prepare hobserved h15
  rcases core_dataOp hdata with ⟨-, -, hcore⟩ | ⟨-, -, hcore⟩ | ⟨emission, hplan, hemit⟩
  · exact (congrArg (fun c => c.memory.values) hcore) ▸ hprepared
  · exact (congrArg (fun c => c.memory.values) hcore) ▸ hprepared
  · have hkeep := (emitted_of_prepare hop hplan).same hobserved h15
    rcases core_emit hemit with ⟨-, -, hcore⟩ | ⟨index, sources, encoded, -, -, -, hcore⟩
    · exact (congrArg (fun c => c.memory.values) hcore) ▸ hprepared
    · have hvalues := (congrArg (fun c => c.memory.values) hcore).trans Core.values_emit
      change p'.memory.values = _ at hvalues
      rw [hvalues]
      split_ifs
      · exact hprepared.trans (hkeep _ _)
      · exact hprepared

/-! ## Calls -/

/-- A call that observes a value. -/
lemma observes_of_call {value : Value} (hedge : p.edge inputs = true)
    (hcheckpoint : inputs.checkpoint = false) (hobserved : inputs.observed = some value)
    (hsound : p.memory.values.Sound) (h : p.call arith inputs = some p') :
    p'.memory.values.Sound ∧ Observes inputs value p p' := by
  obtain ⟨q, rfl, hop⟩ := operated_of_call hedge h
  have hentered : (p.enter inputs).memory.values.Sound := hsound
  obtain ⟨hsound', hvalue⟩ := observes_of_operated hcheckpoint hobserved rfl hentered hop
  refine ⟨hsound', ?_⟩
  cases hvalue with
  | refused hdone hpublished hlast =>
    exact .refused hdone (hpublished.trans published_enter) hlast
  | same hdone hpublished hlast hsame =>
    exact .same hdone (hpublished.trans published_enter) hlast hsame
  | logged hdone hpublished hlast hentry hprevious hnew =>
    rw [published_enter] at hpublished
    exact .logged hdone hpublished hlast hentry hprevious hnew

/-- A call that neither observes nor commands a value leaves the tables of values as they are. -/
lemma same_of_call (h : p.call arith inputs = some p') (hnot : p.edge inputs = true →
      inputs.checkpoint = true ∨ inputs.observed = none ∧ inputs.op ≠ 15) :
    p.memory.values.Same p'.memory.values := by
  obtain ⟨q, rfl, hq⟩ := call_cases h
  rcases hq with ⟨-, rfl⟩ | ⟨hedge, hop⟩
  · exact .refl _
  · change (p.enter inputs).memory.values.Same q.memory.values
    exact same_of_operated hop (hnot hedge)

/-- What a call publishes. -/
lemma published_of_call (h : p.call arith inputs = some p') :
    ∃ new, p'.store.published = p.store.published ++ new ∧
      ∀ entry ∈ new, p.edge inputs = true ∧ entry.Of inputs (p.enter inputs) := by
  obtain ⟨q, rfl, hq⟩ := call_cases h
  rcases hq with ⟨-, rfl⟩ | ⟨hedge, hop⟩
  · refine ⟨[], ?_, fun _ hentry => absurd hentry List.not_mem_nil⟩
    rw [List.append_nil]
    exact published_enter
  · obtain ⟨new, hpublished, hnew⟩ := (fed_of_operated hop).published
    rw [published_enter] at hpublished
    exact ⟨new, hpublished, fun entry hentry => ⟨hedge, (hnew entry hentry).1⟩⟩

end Producer

end OpenOT.St
