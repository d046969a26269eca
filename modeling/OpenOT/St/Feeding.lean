import OpenOT.St.Sources

set_option relaxedAutoImplicit false
set_option autoImplicit false

/-!
# What the operations hand to the store

Every operation changes the store only by publishing records, whose bytes and numbers are those
that its encoder has written; and most operations change nothing else that a later record depends
on.

## Main definitions

* `OpenOT.St.Core.Feeds` — a core after some records, with everything else but the counters of
  numbers as before.
* `OpenOT.St.Published.Holds` — the record that the bytes of an entry are.
* `OpenOT.St.Published.Of` — what an operation publishes.

## Main results

* `OpenOT.St.Producer.feeds_checkpoint`, `OpenOT.St.Producer.feeds_stage`,
  `OpenOT.St.Producer.feeds_highWaterLoop`, `OpenOT.St.Producer.feeds_emitSystem` — the operations
  that do so.
* `OpenOT.St.Producer.fed_of_operated` — every operation only publishes.
* `OpenOT.St.Producer.memory_of_operated` — the data operations alone change the memory.
-/

namespace OpenOT.St

open Rust

/-- A core after records that meet a condition; the tables of the data operations, the run and the
transition are as before. -/
structure Core.Feeds (inputs : Inputs) (meets : Published → Prop) (c c' : Core) : Prop where
  store : Store.Fed inputs meets c.store c'.store
  runId : c'.runId = c.runId
  pending : c'.pending = c.pending
  memory : c'.memory = c.memory
  attestableEvents : c'.attestableEvents = c.attestableEvents

namespace Core

variable {inputs : Inputs} {meets meets' : Published → Prop} {c c' c'' : Core}

lemma Feeds.refl : Feeds inputs meets c c := ⟨.refl, rfl, rfl, rfl, rfl⟩

lemma Feeds.trans (h : Feeds inputs meets c c') (h' : Feeds inputs meets c' c'') :
    Feeds inputs meets c c'' where
  store := h.store.trans h'.store
  runId := h'.runId.trans h.runId
  pending := h'.pending.trans h.pending
  memory := h'.memory.trans h.memory
  attestableEvents := h'.attestableEvents.trans h.attestableEvents

lemma Feeds.mono (h : Feeds inputs meets c c') (hle : ∀ entry, meets entry → meets' entry) :
    Feeds inputs meets' c c' :=
  ⟨h.store.mono hle, h.runId, h.pending, h.memory, h.attestableEvents⟩

/-- A record whose number is counted later. -/
lemma feeds_countAfter {eventTypeId sourceId : UInt32} {index : Fin 16} {encoded : Encoded}
    (hlength : encoded.length.toNat ≤ encoded.buffer.length)
    (hmeets : meets ⟨inputs, eventTypeId, c.runId, sourceId, c.nextSeq index,
      encoded.buffer.take encoded.length.toNat⟩) :
    Feeds inputs meets c (c.countAfter inputs eventTypeId sourceId index encoded) := by
  have hstore : Store.Fed inputs meets c.store (c.store.publish inputs eventTypeId c.runId sourceId
      (c.nextSeq index) encoded) := Store.Fed.refl.publish hlength hmeets
  unfold countAfter
  dsimp only
  split_ifs <;> exact ⟨hstore, rfl, rfl, rfl, rfl⟩

/-- A record of the system source. -/
lemma feeds_system {eventTypeId : UInt32} {encoded : Encoded}
    (hlength : encoded.length.toNat ≤ encoded.buffer.length)
    (hmeets : meets ⟨inputs, eventTypeId, c.runId, 0, c.systemSeq,
      encoded.buffer.take encoded.length.toNat⟩) :
    Feeds inputs meets c (c.system inputs eventTypeId encoded) :=
  ⟨Store.Fed.refl.publish hlength hmeets, rfl, rfl, rfl, rfl⟩

end Core

/-- What an encoder has written is in its buffer. -/
lemma Encodes.length_le {o : Option Encoded} {encoded : Encoded} {record : Record}
    (h : Encodes o record) (hsome : o = some encoded) :
    encoded.length.toNat ≤ encoded.buffer.length := by
  obtain ⟨hfits, hbuffer, hlength, -⟩ := h.of_some hsome
  omega

/-- The bytes of an entry are those of a record with the given slots and with the numbers of the
entry. -/
def Published.Holds (entry : Published) (slots : List Slot) : Prop :=
  44 + area slots ≤ 256 ∧ ∃ sourceTime, entry.bytes = (Envelope.record
    ⟨sourceTime, entry.runId, entry.seq, entry.sourceId⟩ entry.eventTypeId slots).bytes true

/-- An entry holds what an encoder has written for it. -/
lemma Encodes.holds {inputs : Inputs} {o : Option Encoded} {encoded : Encoded}
    {sourceTime runId seq : UInt64} {sourceId eventTypeId : UInt32} {slots : List Slot}
    (h : Encodes o (Envelope.record ⟨sourceTime, runId, seq, sourceId⟩ eventTypeId slots))
    (hsome : o = some encoded) : Published.Holds ⟨inputs, eventTypeId, runId, sourceId, seq,
      encoded.buffer.take encoded.length.toNat⟩ slots := by
  obtain ⟨hfits, -, -, hbytes⟩ := h.of_some hsome
  rw [length_record] at hfits
  exact ⟨hfits, sourceTime, hbytes⟩

/-- The slots of a changed definition. -/
def definitionSlots (defHashOld defHashNew : Vector UInt8 8) (epochId : UInt64) : List Slot :=
  [⟨KEY_DEF_HASH_OLD, TY_BYTES, defHashOld.toList⟩, ⟨KEY_DEF_HASH_NEW, TY_BYTES, defHashNew.toList⟩,
    longField KEY_EPOCH_ID TY_ULINT epochId]

/-- A high-water record. -/
def Published.IsHighWater (entry : Published) : Prop :=
  entry.eventTypeId = EVENT_SOURCE_HIGH_WATER ∧
    ∃ producedCount, entry.Holds [longField KEY_SOURCE_HIGH_WATER TY_ULINT producedCount]

/-- A record of the system source. -/
def Published.IsSystem (eventTypeId : UInt32) (slots : List Slot) (entry : Published) : Prop :=
  entry.sourceId = SYSTEM_SOURCE_ID ∧ entry.eventTypeId = eventTypeId ∧ entry.Holds slots

/-- The record of an emission. -/
structure Published.IsEmitted (emission : Emission) (entry : Published) : Prop where
  sourceId : entry.sourceId = emission.sourceId
  eventTypeId : entry.eventTypeId = emission.eventTypeId
  holds : ∀ slots, emission.Writes slots → entry.Holds slots

/-- A message. -/
def Published.IsMessage (inputs : Inputs) (entry : Published) : Prop :=
  entry.sourceId = inputs.sourceId ∧ entry.eventTypeId = EVENT_MESSAGE ∧
    entry.Holds (messageSlots inputs.message)

/-- The record that a data operation emits. -/
def Published.IsData (inputs : Inputs) (p : Producer) (entry : Published) : Prop :=
  ∃ emission, Emitted inputs p.attestableEvents p.memory emission ∧ entry.IsEmitted emission

/-- What an operation publishes. -/
inductive Published.Of (inputs : Inputs) (p : Producer) (entry : Published) : Prop
  | highWater (h : entry.IsHighWater)
  | stopped (h : entry.IsSystem EVENT_LOGGER_STOPPED [])
  | changed {defHashOld defHashNew : Vector UInt8 8} {epochId : UInt64}
      (h : entry.IsSystem EVENT_DEFINITION_CHANGED (definitionSlots defHashOld defHashNew epochId))
  | started {coldStart : Bool} (h : entry.IsSystem EVENT_LOGGER_STARTED
      [⟨KEY_COLD_START, TY_BOOL, [if coldStart then 1 else 0]⟩])
  | message (hcheckpoint : inputs.checkpoint = false) (hop : inputs.op = 0)
      (h : entry.IsMessage inputs)
  | staged (hcheckpoint : inputs.checkpoint = false) (hop : inputs.op = 5)
      (h : entry.sourceId = inputs.sourceId ∧ inputs.sourceId ≠ SYSTEM_SOURCE_ID)
  | data (hcheckpoint : inputs.checkpoint = false) (h : entry.IsData inputs p)

namespace Producer

variable {arith : RealArith} {inputs : Inputs} {p p' : Producer}

/-! ## Records of the logger -/

lemma feeds_highWater {index : Fin 16} (h : p.highWater inputs index = some p') :
    Core.Feeds inputs Published.IsHighWater p.core p'.core := by
  obtain ⟨encoded, hencoded, hcore, -⟩ := core_highWater h
  have hencodes := encodes_sourceHighWater (p.sources.get index).sourceId p.runId
    (p.nextSeq index) (p.nextSourceTime inputs)
  rw [hcore]
  exact Core.feeds_countAfter (hencodes.length_le hencoded) ⟨rfl, _, hencodes.holds hencoded⟩

lemma feeds_highWaterLoop {fuel : ℕ} {last : Option UInt32}
    (h : p.highWaterLoop inputs fuel last = some p') :
    Core.Feeds inputs Published.IsHighWater p.core p'.core :=
  highWaterLoop_keeps (P := fun q => Core.Feeds inputs _ p.core q.core)
    (fun _ _ _ hp hhigh => hp.trans (feeds_highWater hhigh)) .refl h

lemma feeds_checkpoint (h : p.checkpoint inputs = some p') :
    Core.Feeds inputs Published.IsHighWater p.core p'.core := by
  rcases core_checkpoint h with ⟨hcore, -⟩ | ⟨-, -, index, q, -, hq, hcore, -⟩
  · rw [hcore]
    exact .refl
  · rw [hcore]
    exact feeds_highWater hq

/-- A record of the system source, given that its encoder writes one. -/
lemma feeds_emitSystem {eventTypeId : UInt32} {slots : List Slot}
    {encode : UInt64 → UInt64 → Option Encoded}
    (hencode : ∀ seq sourceTime, Encodes (encode seq sourceTime)
      (Envelope.record ⟨sourceTime, p.runId, seq, 0⟩ eventTypeId slots))
    (h : p.emitSystem inputs eventTypeId encode = some p') :
    Core.Feeds inputs (Published.IsSystem eventTypeId slots) p.core p'.core := by
  obtain ⟨encoded, hencoded, hcore, -⟩ := core_emitSystem h
  rw [hcore]
  exact Core.feeds_system ((hencode _ _).length_le hencoded)
    ⟨rfl, rfl, (hencode _ _).holds hencoded⟩

lemma feeds_stopped (h : p.emitSystem inputs 0x0102 (encodeLoggerStopped p.runId) = some p') :
    Core.Feeds inputs (Published.IsSystem EVENT_LOGGER_STOPPED []) p.core p'.core :=
  feeds_emitSystem (fun _ _ => encodes_loggerStopped ..) h

lemma feeds_changed {defHashOld defHashNew : Vector UInt8 8} {epochId : UInt64}
    (h : p.emitSystem inputs 0x0106 (fun seq sourceTime => encodeDefinitionChanged p.runId seq
      defHashOld defHashNew epochId sourceTime) = some p') :
    Core.Feeds inputs (Published.IsSystem EVENT_DEFINITION_CHANGED
      (definitionSlots defHashOld defHashNew epochId)) p.core p'.core :=
  feeds_emitSystem (fun _ _ => encodes_definitionChanged ..) h

lemma feeds_started {runId : UInt64} {coldStart : Bool}
    (h : p.emitSystem inputs 0x0101 (fun seq => encodeLoggerStarted runId seq coldStart) =
      some p') (hrun : runId = p.runId := by rfl) :
    Core.Feeds inputs (Published.IsSystem EVENT_LOGGER_STARTED
      [⟨KEY_COLD_START, TY_BOOL, [if coldStart then 1 else 0]⟩]) p.core p'.core :=
  feeds_emitSystem (fun _ _ => hrun ▸ encodes_loggerStarted ..) h

/-- The records of operation 1. -/
lemma feeds_beginTransition (h : p.beginTransition inputs = some p') :
    ∃ c, Core.Feeds inputs (fun entry => entry.IsSystem EVENT_LOGGER_STOPPED [] ∨
        entry.IsHighWater) p.core c ∧
      (p'.core = c ∨ p'.core = { c with
        pending := ⟨inputs.defHashOld, inputs.defHashNew, inputs.transitionEpochId, true,
          false⟩ }) := by
  rcases core_beginTransition h with ⟨-, hcore, -⟩ | ⟨-, q, r, hq, hr, -, hcore⟩
  · exact ⟨p.core, .refl, .inl hcore⟩
  have hstopped : Core.Feeds inputs (fun entry => entry.IsSystem EVENT_LOGGER_STOPPED [] ∨
      entry.IsHighWater) p.core q.core :=
    (feeds_stopped hq).mono fun entry hentry => .inl hentry
  have hloop : Core.Feeds inputs (fun entry => entry.IsSystem EVENT_LOGGER_STOPPED [] ∨
      entry.IsHighWater) q.core r.core := by
    rcases hr with ⟨-, rfl⟩ | ⟨-, hr⟩
    · exact .refl
    · exact (feeds_highWaterLoop hr).mono fun entry hentry => .inr hentry
  refine ⟨r.core, hstopped.trans hloop, ?_⟩
  split_ifs at hcore
  · exact .inl hcore
  · exact .inr hcore

/-- The record of operation 2. -/
lemma feeds_changeDefinition (h : p.changeDefinition inputs = some p') :
    ∃ c, Core.Feeds inputs (Published.IsSystem EVENT_DEFINITION_CHANGED (definitionSlots
        p.pending.defHashOld p.pending.defHashNew p.pending.epochId)) p.core c ∧
      (p'.core = c ∨ p'.core = { c with
        pending := { c.pending with defChangedEmitted := true } }) := by
  rcases core_changeDefinition h with ⟨-, hcore, -⟩ | ⟨-, -, q, hq, -, hcore⟩
  · exact ⟨p.core, .refl, .inl hcore⟩
  refine ⟨q.core, feeds_changed hq, ?_⟩
  split_ifs at hcore
  · exact .inl hcore
  · exact .inr hcore

/-! ## Staged records -/

lemma feeds_stage (h : p.stage inputs = some p') :
    Core.Feeds inputs (fun entry => entry.sourceId = inputs.sourceId ∧
      inputs.sourceId ≠ SYSTEM_SOURCE_ID) p.core p'.core := by
  rcases core_stage h with ⟨hcore, -⟩ | ⟨-, hsource, -, hle, index, sources, -, hstaged⟩
  · rw [hcore]
    exact .refl
  rcases hstaged with ⟨-, hcore, -⟩ | ⟨-, hcore⟩
  · rw [hcore]
    exact ⟨.refl, rfl, rfl, rfl, rfl⟩
  · have hlength : inputs.stageLength.toNat ≤ inputs.stageRecord.toList.length := by
      rw [Vector.length_toList]
      exact UInt16.le_iff_toNat_le.mp hle
    have hopened : Core.Feeds inputs (fun entry => entry.sourceId = inputs.sourceId ∧
        inputs.sourceId ≠ SYSTEM_SOURCE_ID) p.core { p.core with sources := sources } :=
      ⟨.refl, rfl, rfl, rfl, rfl⟩
    rw [hcore]
    exact hopened.trans (Core.feeds_countAfter hlength ⟨rfl, hsource⟩)

/-! ## Every operation -/

/-- The record of a data operation. -/
lemma fed_emit {events : AttestableEventLog} {memory : Memory} {emission : Emission}
    (hemitted : Emitted inputs events memory emission) (h : p.emit inputs emission = some p') :
    Store.Fed inputs (Published.IsEmitted emission) p.store p'.store := by
  rcases core_emit h with ⟨-, -, hcore⟩ | ⟨index, sources, encoded, -, hencoded, -, hcore⟩
  · have hstore : p'.store = p.store := congrArg Core.store hcore
    rw [hstore]
    exact .refl
  · obtain ⟨slots, hwrites⟩ := hemitted.writes
    have hstore : p'.store = p.store.publish inputs emission.eventTypeId p.runId emission.sourceId
        (sources.get index).nextSeq encoded :=
      (congrArg Core.store hcore).trans Core.store_emit
    rw [hstore]
    exact Store.Fed.refl.publish ((hwrites _).length_le hencoded)
      ⟨rfl, rfl, fun slots hwrites => (hwrites _).holds hencoded⟩

lemma fed_message (h : p.message inputs = some p') :
    Store.Fed inputs (Published.IsMessage inputs) p.store p'.store := by
  rcases core_message h with
    ⟨hcore, -⟩ | ⟨-, -, index, sources, encoded, -, hencoded, hcore⟩
  · have hstore : p'.store = p.store := congrArg Core.store hcore
    rw [hstore]
    exact .refl
  · have hstore : p'.store = p.store.publish inputs 0x0003 p.runId inputs.sourceId
        (sources.get index).nextSeq encoded := by
      refine (congrArg Core.store hcore).trans ?_
      split_ifs <;> rfl
    have hencodes := encodes_minimalMessage ⟨p.nextSourceTime inputs, p.runId,
      (sources.get index).nextSeq, inputs.sourceId⟩ inputs.message
    rw [hstore]
    exact Store.Fed.refl.publish (hencodes.length_le hencoded)
      ⟨rfl, rfl, hencodes.holds hencoded⟩

lemma fed_dataOp (hop : isDataOp inputs.op = true) (h : p.dataOp arith inputs = some p') :
    Store.Fed inputs (Published.IsData inputs p) p.store p'.store := by
  rcases core_dataOp h with ⟨-, -, hcore⟩ | ⟨-, -, hcore⟩ | ⟨emission, hplan, h⟩
  · rw [show p'.store = p.store from congrArg Core.store hcore]
    exact .refl
  · rw [show p'.store = p.store from congrArg Core.store hcore]
    exact .refl
  · have hemitted := emitted_of_prepare hop hplan
    exact (fed_emit hemitted h).mono fun entry hentry => ⟨emission, hemitted, hentry⟩

/-- **Every operation only publishes.** -/
lemma fed_of_operated (h : Operated arith inputs p p') :
    Store.Fed inputs (Published.Of inputs p) p.store p'.store := by
  cases h with
  | checkpoint _ h => exact (feeds_checkpoint h).store.mono fun _ => .highWater
  | message hcheckpoint hop h => exact (fed_message h).mono fun _ => .message hcheckpoint hop
  | stage hcheckpoint hop h => exact (feeds_stage h).store.mono fun _ => .staged hcheckpoint hop
  | dataOp hcheckpoint hop h => exact (fed_dataOp hop h).mono fun _ => .data hcheckpoint
  | beginTransition _ _ h =>
    obtain ⟨c, hfeeds, hcore⟩ := feeds_beginTransition h
    have hstore : p'.store = c.store := by
      rcases hcore with hcore | hcore <;> exact congrArg Core.store hcore
    rw [hstore]
    exact hfeeds.store.mono fun _ hentry => hentry.elim .stopped .highWater
  | changeDefinition _ _ h =>
    obtain ⟨c, hfeeds, hcore⟩ := feeds_changeDefinition h
    have hstore : p'.store = c.store := by
      rcases hcore with hcore | hcore <;> exact congrArg Core.store hcore
    rw [hstore]
    exact hfeeds.store.mono fun _ => .changed
  | finishWarm _ _ h =>
    rcases core_finishWarm h with ⟨-, hcore, -⟩ | ⟨-, -, q, hq, -, hcore⟩
    · rw [show p'.store = p.store from congrArg Core.store hcore]
      exact .refl
    · have hstore : p'.store = q.store := by
        split_ifs at hcore <;> exact congrArg Core.store hcore
      rw [hstore]
      exact (feeds_started hq).store.mono fun _ => .started
  | finishCold _ _ h =>
    rcases core_finishCold h with ⟨-, hcore, -⟩ | ⟨-, -, q, hq, -, hcore⟩
    · rw [show p'.store = p.store from congrArg Core.store hcore]
      exact .refl
    · have hstore : p'.store = q.store := by
        split_ifs at hcore <;> exact congrArg Core.store hcore
      rw [hstore]
      exact (feeds_started hq).store.mono fun _ => .started
  | unknown _ _ h =>
    rw [h]
    exact .refl

/-- **Only the data operations change the memory.** -/
lemma memory_of_operated (h : Operated arith inputs p p') :
    p'.memory = p.memory ∧ (inputs.checkpoint = true ∨ isDataOp inputs.op = false) ∨
      inputs.checkpoint = false ∧ isDataOp inputs.op = true ∧ p.dataOp arith inputs = some p' := by
  cases h with
  | checkpoint hcheckpoint h => exact .inl ⟨(feeds_checkpoint h).memory, .inl hcheckpoint⟩
  | message _ hop h =>
    refine .inl ⟨?_, .inr (by rw [hop]; decide)⟩
    rcases core_message h with ⟨hcore, -⟩ | ⟨-, -, index, sources, encoded, -, -, hcore⟩
    · exact congrArg Core.memory hcore
    · refine (congrArg Core.memory hcore).trans ?_
      split_ifs <;> rfl
  | stage _ hop h => exact .inl ⟨(feeds_stage h).memory, .inr (by rw [hop]; decide)⟩
  | dataOp hcheckpoint hop h => exact .inr ⟨hcheckpoint, hop, h⟩
  | beginTransition _ hop h =>
    obtain ⟨c, hfeeds, hcore⟩ := feeds_beginTransition h
    refine .inl ⟨?_, .inr (by rw [hop]; decide)⟩
    rcases hcore with hcore | hcore <;> exact (congrArg Core.memory hcore).trans hfeeds.memory
  | changeDefinition _ hop h =>
    obtain ⟨c, hfeeds, hcore⟩ := feeds_changeDefinition h
    refine .inl ⟨?_, .inr (by rw [hop]; decide)⟩
    rcases hcore with hcore | hcore <;> exact (congrArg Core.memory hcore).trans hfeeds.memory
  | finishWarm _ hop h =>
    refine .inl ⟨?_, .inr (by rw [hop]; decide)⟩
    rcases core_finishWarm h with ⟨-, hcore, -⟩ | ⟨-, -, q, hq, -, hcore⟩
    · exact congrArg Core.memory hcore
    · refine (congrArg Core.memory hcore).trans ?_
      split_ifs <;> exact (feeds_started hq).memory
  | finishCold _ hop h =>
    refine .inl ⟨?_, .inr (by rw [hop]; decide)⟩
    rcases core_finishCold h with ⟨-, hcore, -⟩ | ⟨-, -, q, hq, -, hcore⟩
    · exact congrArg Core.memory hcore
    · refine (congrArg Core.memory hcore).trans ?_
      split_ifs <;> exact (feeds_started hq).memory
  | unknown _ hop h =>
    refine .inl ⟨by rw [h]; rfl, .inr ?_⟩
    rw [isDataOp, decide_eq_false_iff_not, not_and]
    exact fun _ => UInt16.not_le.mpr hop

end Producer

end OpenOT.St
