import OpenOT.Carriage.EpochCalls
import OpenOT.Carriage.EpochResolver
import OpenOT.Lib.Runs

set_option relaxedAutoImplicit false
set_option autoImplicit false

/-!
# The journal of a producer

Runs of an epoch producer with a history that notes, beside every record written, what was in
effect when it was written: the epoch, the hash of the definition and how many transitions had
been completed. Resolvers are judged by these notes.

## Main definitions

* `OpenOT.Phase` — the run, the epoch in effect and the epoch announced by an open transition.
* `OpenOT.Turns` — what one record can do to the phase.
* `OpenOT.Note`, `OpenOT.Journal` — a noted record, and a producer with its notes.
* `OpenOT.Journal.step` — a call that succeeds, as a step.

## Main results

* `OpenOT.Journal.Kept.step` — every step keeps the journal: the notes are those of the records
  written, and each record turns the phase before it into the phase noted beside it.

## Design

A call notes the phase it leaves beside every record it writes. The calls that emit data, begin a
transition or announce a definition leave the epoch as it is; the calls that close a transition
set the new epoch before they write their record.
-/

namespace OpenOT

open Rust

/-! ## Phases -/

/-- Where the log stands: the run, the epoch in effect, and the epoch announced. -/
structure Phase where
  runId : UInt64
  epochId : UInt64
  announced : Option UInt64
  deriving DecidableEq

/-- What a record can do to the phase. -/
inductive Turns (phase : Phase) (record : Record) : Phase → Prop
  | quiet (hannounced : phase.announced = none) (hrun : record.runId = phase.runId)
      (hevent : record.eventTypeId = EVENT_DEFINITION_CHANGED →
        definitionChangedEpoch record = none) :
      Turns phase record phase
  | changed {epochId : UInt64} (hannounced : phase.announced = none)
      (hrun : record.runId = phase.runId)
      (hevent : record.eventTypeId = EVENT_DEFINITION_CHANGED)
      (hepoch : definitionChangedEpoch record = some epochId) :
      Turns phase record { phase with announced := some epochId }
  | warm {epochId : UInt64} (hannounced : phase.announced = some epochId)
      (hrun : record.runId = phase.runId) (hevent : record.eventTypeId = EVENT_LOGGER_STARTED)
      (hcold : loggerStartedColdStart record = some false) :
      Turns phase record ⟨phase.runId, epochId, none⟩
  | cold {epochId : UInt64} (hannounced : phase.announced = some epochId)
      (hrun : phase.runId < record.runId) (hevent : record.eventTypeId = EVENT_LOGGER_STARTED)
      (hcold : loggerStartedColdStart record = some true) :
      Turns phase record ⟨record.runId, epochId, none⟩

/-- A record is of the run it leaves the log in. -/
lemma Turns.runId_eq {phase phase' : Phase} {record : Record} (h : Turns phase record phase') :
    record.runId = phase'.runId := by
  cases h with
  | quiet _ hrun => exact hrun
  | changed _ hrun => exact hrun
  | warm _ hrun => exact hrun
  | cold => rfl

/-- Runs do not go back. -/
lemma Turns.runId_le {phase phase' : Phase} {record : Record} (h : Turns phase record phase') :
    phase.runId ≤ phase'.runId := by
  cases h with
  | cold _ hrun => exact UInt64.le_of_lt hrun
  | _ => exact UInt64.le_refl _

/-! ## Notes -/

/-- A record written, with what was in effect: the phase it left the log in, the hash of the
definition, and the number of transitions completed. -/
structure Note where
  read : ReadRecord
  phase : Phase
  definitionHash : DefinitionHash
  completed : ℕ

/-- The phase behind some notes. -/
def endPhase : Phase → List Note → Phase
  | phase, [] => phase
  | _, note :: notes => endPhase note.phase notes

/-- Each record turns the phase before it into the phase noted beside it. -/
def Chained : Phase → List Note → Prop
  | _, [] => True
  | phase, note :: notes => Turns phase note.read.record note.phase ∧ Chained note.phase notes

lemma endPhase_append (phase : Phase) (notes more : List Note) :
    endPhase phase (notes ++ more) = endPhase (endPhase phase notes) more := by
  induction notes generalizing phase with
  | nil => rfl
  | cons note notes ih => exact ih note.phase

lemma chained_append {phase : Phase} {notes more : List Note} :
    Chained phase (notes ++ more) ↔ Chained phase notes ∧ Chained (endPhase phase notes) more := by
  induction notes generalizing phase with
  | nil => simp [Chained, endPhase]
  | cons note notes ih => simp [Chained, endPhase, ih, and_assoc]

/-- The runs noted do not go back. -/
lemma Chained.runId_le {phase : Phase} {notes : List Note} (h : Chained phase notes) :
    phase.runId ≤ (endPhase phase notes).runId := by
  induction notes generalizing phase with
  | nil => exact UInt64.le_refl _
  | cons note notes ih => exact UInt64.le_trans h.1.runId_le (ih h.2)

/-! ## The journal -/

/-- The epoch that an open transition has announced. -/
def PendingTransition.announced (pending : PendingTransition) : Option UInt64 :=
  if pending.definitionChangedEmitted then some pending.epochId else none

/-- The phase a producer is in. -/
def EpochProducer.phase (producer : EpochProducer) : Phase :=
  ⟨producer.runId, producer.epochId, producer.transition.bind PendingTransition.announced⟩

/-- The call closes a transition. -/
def EpochCall.Closes (call : EpochCall) : Prop :=
  call = .finishDefinitionChange ∨ call = .finishColdStart

instance : DecidablePred EpochCall.Closes := fun call =>
  inferInstanceAs (Decidable (call = .finishDefinitionChange ∨ call = .finishColdStart))

/-- A producer with the notes on what it has written, the hash of the definition in effect and the
number of transitions completed. -/
structure Journal where
  producer : EpochProducer
  definitionHash : DefinitionHash
  completed : ℕ
  notes : List Note

namespace Journal

/-- A journal with nothing in it; `definitionHash` is in effect from the start. -/
def start (producer : EpochProducer) (definitionHash : DefinitionHash) : Journal :=
  ⟨producer, definitionHash, 0, []⟩

/-- The journal after a call that has left `producer`. A call that closes a transition puts the new
definition of the transition into effect. -/
def advance (journal : Journal) (call : EpochCall) (producer : EpochProducer) : Journal :=
  let definitionHash := if call.Closes then
      journal.producer.transition.elim journal.definitionHash (·.defHashNew)
    else journal.definitionHash
  let completed := if call.Closes then journal.completed + 1 else journal.completed
  ⟨producer, definitionHash, completed, journal.notes ++
    (producer.written.drop journal.producer.written.length).map fun read =>
      ⟨read, producer.phase, definitionHash, completed⟩⟩

/-- One step: a call that succeeds. -/
def step (journal : Journal) (call : EpochCall) : Option Journal :=
  match call.run journal.producer with
  | (.ok _, producer) => some (journal.advance call producer)
  | _ => none

/-- The invariant: the notes are those of the records written, the ring holds them, and the phases
noted are linked from `phase` to that of the producer. -/
structure Kept (phase : Phase) (journal : Journal) : Prop where
  ring : journal.producer.ring.Represents journal.producer.written
  reads : journal.notes.map Note.read = journal.producer.written
  chained : Chained phase journal.notes
  current : endPhase phase journal.notes = journal.producer.phase

variable {phase : Phase} {journal journal' : Journal} {producer : EpochProducer} {call : EpochCall}

/-- What a step is. -/
lemma step_eq_some : journal.step call = some journal' ↔
    ∃ producer, call.run journal.producer = (.ok (), producer) ∧
      journal' = journal.advance call producer := by
  unfold step
  rcases Mut.run_cases call.run journal.producer with
    ⟨a, producer, hrun⟩ | ⟨e, producer, hrun⟩ | ⟨producer, hrun⟩
  · simp [hrun, eq_comm]
  · simp [hrun]
  · simp [hrun]

/-- A step does what the call does. -/
lemma Kept.did (h : Kept phase journal) (hstep : journal.step call = some journal') :
    ∃ producer, journal.producer.Did call producer ∧ journal' = journal.advance call producer := by
  obtain ⟨producer, hrun, rfl⟩ := step_eq_some.mp hstep
  have hspec := EpochProducer.call_spec h.ring call
  rw [Mut.wp, hrun] at hspec
  exact ⟨producer, hspec, rfl⟩

end Journal

/-! ## What the calls write -/

namespace EpochProducer

variable {producer producer' : EpochProducer} {call : EpochCall}

/-- A data record announces no epoch. -/
lemma definitionChangedEpoch_dataSlots {record : Record}
    (hslots : record.slots = dataSlots record.eventTypeId)
    (hevent : record.eventTypeId = EVENT_DEFINITION_CHANGED) :
    definitionChangedEpoch record = none := by
  rw [definitionChangedEpoch, hslots, hevent]
  rfl

/-- A `DefinitionChanged` record announces the epoch of its transition. -/
lemma definitionChangedEpoch_changedSlots {record : Record} {pending : PendingTransition}
    (hslots : record.slots = changedSlots pending) :
    definitionChangedEpoch record = some pending.epochId := by
  rw [definitionChangedEpoch, hslots]
  simp [changedSlots, KEY_EPOCH_ID, KEY_DEF_HASH_OLD, KEY_DEF_HASH_NEW]

/-- A `LoggerStarted` record says whether it is a cold start. -/
lemma loggerStartedColdStart_startedSlots {record : Record} {coldStart : UInt8}
    (hslots : record.slots = startedSlots coldStart) :
    loggerStartedColdStart record = some (coldStart != 0) := by
  rw [loggerStartedColdStart, hslots]
  rfl

/-- The phase of a producer without an open transition. -/
lemma phase_of_none (hopen : producer.transition = none) :
    producer.phase = ⟨producer.runId, producer.epochId, none⟩ := by
  rw [phase, hopen]
  rfl

/-- Checkpoints leave the phase of the log as it is. -/
lemma Marks.turns {runId : UInt64} {entry : UInt32 × UInt64} {w : ReadRecord} {phase : Phase}
    (h : Marks runId entry w) (hrun : runId = phase.runId) (hannounced : phase.announced = none) :
    Turns phase w.record phase := by
  refine .quiet hannounced (h.runId.trans hrun) fun hevent => ?_
  rw [h.eventTypeId] at hevent
  exact absurd hevent (by decide)

/-- **What a call does to the phase.** It writes records that leave the phase as it is, as the call
does; or a single record that does to the phase what the call does. -/
lemma Did.turns (hring : producer.ring.Represents producer.written)
    (h : producer.Did call producer') :
    ∃ ws, producer'.written = producer.written ++ ws ∧
      producer'.ring.Represents producer'.written ∧
      ((∃ w, ws = [w] ∧ Turns producer.phase w.record producer'.phase) ∨
        producer'.phase = producer.phase ∧ ∀ w ∈ ws, Turns producer.phase w.record producer.phase) := by
  cases h with
  | @emitData sourceId eventTypeId next time ring w hopen _ _ htook =>
    refine ⟨[w], rfl, htook.represents, Or.inl ⟨w, rfl, ?_⟩⟩
    refine .quiet (by rw [phase_of_none hopen]) (by rw [htook.record_eq]; rfl) ?_
    rw [htook.record_eq]
    exact definitionChangedEpoch_dataSlots rfl
  | checkpoint hopen hmarked =>
    obtain ⟨ring, time, sourceSeq, ws, rfl, hmarks, hrep, -, -⟩ := hmarked.spec hring
    refine ⟨ws, rfl, hrep, Or.inr ⟨rfl, fun w hw => ?_⟩⟩
    obtain ⟨entry, -, hmark⟩ := exists_entry_of_marks hmarks hw
    exact hmark.turns rfl (by rw [phase_of_none hopen])
  | @began defHashOld defHashNew epochId next time ring w marked hopen _ _ htook hmarked =>
    obtain ⟨ring', time', sourceSeq, ws, rfl, hmarks, hrep, -, -⟩ := hmarked.spec htook.represents
    refine ⟨w :: ws, by simp [take], hrep, Or.inr ⟨by rw [phase_of_none hopen]; rfl, ?_⟩⟩
    intro v hv
    have hannounced : producer.phase.announced = none := by rw [phase_of_none hopen]
    rcases List.mem_cons.mp hv with rfl | hv
    · refine .quiet hannounced (by rw [htook.record_eq]; rfl) fun hevent => ?_
      rw [htook.record_eq, stamped_eventTypeId] at hevent
      exact absurd hevent (by decide)
    · obtain ⟨entry, -, hmark⟩ := exists_entry_of_marks hmarks hv
      exact hmark.turns rfl hannounced
  | @changed pending next time ring w hopen hemitted _ _ htook =>
    refine ⟨[w], rfl, htook.represents, Or.inl ⟨w, rfl, ?_⟩⟩
    have hphase : producer.phase = ⟨producer.runId, producer.epochId, none⟩ := by
      simp [phase, hopen, PendingTransition.announced, hemitted]
    rw [hphase]
    refine .changed rfl ?_ ?_ ?_
    · rw [htook.record_eq]
      rfl
    · rw [htook.record_eq]
      rfl
    · rw [htook.record_eq]
      exact definitionChangedEpoch_changedSlots rfl
  | @warm pending next time ring w hopen hemitted _ _ htook =>
    refine ⟨[w], rfl, htook.represents, Or.inl ⟨w, rfl, ?_⟩⟩
    have hslots : w.record.slots = startedSlots 0 := by
      rw [htook.record_eq]
      rfl
    have hphase : producer.phase = ⟨producer.runId, producer.epochId, some pending.epochId⟩ := by
      simp [phase, hopen, PendingTransition.announced, hemitted]
    rw [hphase]
    refine .warm rfl ?_ ?_ (loggerStartedColdStart_startedSlots hslots)
    · rw [htook.record_eq]
      rfl
    · rw [htook.record_eq]
      rfl
  | @cold pending runId next time ring w hopen hemitted hrunId _ _ htook =>
    refine ⟨[w], rfl, htook.represents, Or.inl ⟨w, rfl, ?_⟩⟩
    have hw : w.record.runId = runId := by
      rw [htook.record_eq]
      rfl
    have hslots : w.record.slots = startedSlots 1 := by
      rw [htook.record_eq]
      rfl
    have hphase : producer.phase = ⟨producer.runId, producer.epochId, some pending.epochId⟩ := by
      simp [phase, hopen, PendingTransition.announced, hemitted]
    rw [hphase]
    subst hw
    refine .cold rfl ?_ ?_ (loggerStartedColdStart_startedSlots hslots)
    · rw [UInt64.lt_iff_toNat_lt, hrunId]
      exact Nat.lt_succ_self _
    · rw [htook.record_eq]
      rfl

end EpochProducer

/-! ## The journal is kept -/

namespace Journal

variable {phase : Phase} {journal journal' : Journal} {producer : EpochProducer} {call : EpochCall}

/-- A new journal. -/
lemma kept_start {capacity : ℕ} {runId epochId : UInt64}
    (hnew : EpochProducer.new capacity runId epochId = .ok producer)
    (definitionHash : DefinitionHash) :
    Kept ⟨runId, epochId, none⟩ (start producer definitionHash) := by
  obtain ⟨ring, hring, hproducer⟩ := Outcome.bind_eq_ok.mp hnew
  obtain rfl := Outcome.ok.inj hproducer
  exact ⟨(RingBuffer.represents_new (Outcome.mapErr_eq_ok.mp hring)).1, rfl, trivial, rfl⟩

/-- Records that leave the phase as it is, all of them noted with it. -/
lemma chained_quiet {notes : List Note}
    (h : ∀ note ∈ notes, note.phase = phase ∧ Turns phase note.read.record phase) :
    Chained phase notes ∧ endPhase phase notes = phase := by
  induction notes with
  | nil => exact ⟨trivial, rfl⟩
  | cons note notes ih =>
    obtain ⟨⟨hphase, hturns⟩, hnotes⟩ := List.forall_mem_cons.mp h
    obtain ⟨hchained, hend⟩ := ih hnotes
    rw [Chained, endPhase, hphase]
    exact ⟨⟨hturns, hchained⟩, hend⟩

/-- **Every step keeps the journal.** -/
lemma Kept.step (h : Kept phase journal) (hstep : journal.step call = some journal') :
    Kept phase journal' := by
  obtain ⟨producer, hdid, rfl⟩ := h.did hstep
  obtain ⟨ws, hwritten, hring, hturns⟩ := hdid.turns h.ring
  have hnew : producer.written.drop journal.producer.written.length = ws := by simp [hwritten]
  have hlink : ∀ stamp : ReadRecord → Note, (∀ w, (stamp w).read = w) →
      (∀ w, (stamp w).phase = producer.phase) →
      Chained journal.producer.phase (ws.map stamp) ∧
        endPhase journal.producer.phase (ws.map stamp) = producer.phase := by
    intro stamp hread hphase
    rcases hturns with ⟨w, rfl, hturn⟩ | ⟨hsame, hquiet⟩
    · exact ⟨⟨by rwa [hread, hphase], trivial⟩, hphase w⟩
    · rw [hsame]
      refine chained_quiet fun note hnote => ?_
      obtain ⟨w, hw, rfl⟩ := List.mem_map.mp hnote
      rw [hread, hphase, hsame]
      exact ⟨rfl, hquiet w hw⟩
  refine ⟨hring, ?_, ?_, ?_⟩
  · simp [advance, h.reads, hwritten, Function.comp_def]
  · rw [advance, chained_append, h.current, hnew]
    exact ⟨h.chained, (hlink _ (fun _ => rfl) fun _ => rfl).1⟩
  · rw [advance, endPhase_append, h.current, hnew]
    exact (hlink _ (fun _ => rfl) fun _ => rfl).2

end Journal

end OpenOT
