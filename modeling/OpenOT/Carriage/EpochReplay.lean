import OpenOT.Carriage.EpochJournal
import OpenOT.Carriage.LossInvariant

set_option relaxedAutoImplicit false
set_option autoImplicit false

/-!
# Replaying a log

What an epoch resolver knows after it has been fed the records of a journal, all of them or only
those a lapped consumer has delivered.

## Main definitions

* `OpenOT.EpochResolver.InStep`, `OpenOT.EpochResolver.Blank` — the two states in which a resolver
  says nothing wrong: it is where the log is, or it knows nothing of the run the log is in.
* `OpenOT.Watch` — a producer, a raw consumer of its ring and a resolver fed what is delivered.
* `OpenOT.Watch.Meets` — the condition on a poll under which nothing wrong is said.

## Main results

* `OpenOT.EpochResolver.observe_turns` — one record, in either state.
* `OpenOT.resolver_exact` — fed the whole log, the resolver is exact.
* `OpenOT.lapped_resolver_sound` — fed what is delivered, it is sound as long as every poll meets
  the condition.
* `OpenOT.lapped_resolver_wrong_epoch` — a poll that does not, and a wrong epoch.
-/

namespace OpenOT

open Rust CircularLog Transition

namespace EpochResolver

variable {resolver : EpochResolver} {phase phase' : Phase} {head : ℕ} {read : ReadRecord}

/-! ## One record -/

/-- The resolver is where the log is: it holds the epoch announced, and it resolves the offsets
from `abs` on to the epoch in effect. -/
structure InStep (resolver : EpochResolver) (phase : Phase) (abs : ℕ) : Prop where
  pending : resolver.pendingEpoch = phase.announced
  current : ∀ x, abs ≤ x →
    resolver.resolve resolver.bufferId phase.runId x = some phase.epochId

/-- The resolver knows nothing of a run, and holds no epoch but the one announced. -/
structure Blank (resolver : EpochResolver) (phase : Phase) (runId : UInt64) : Prop where
  unknown : resolver.Unknown runId
  pending : resolver.pendingEpoch = none ∨ resolver.pendingEpoch = phase.announced

/-- The boundaries lie below an offset, and later runs are unknown. -/
structure Frame (resolver : EpochResolver) (phase : Phase) (head : ℕ) : Prop where
  ordered : resolver.Ordered head
  future : ∀ runId, phase.runId < runId → resolver.Unknown runId

instance (runId : UInt64) : Decidable (resolver.Blank phase runId) :=
  decidable_of_iff (resolver.Unknown runId ∧
      (resolver.pendingEpoch = none ∨ resolver.pendingEpoch = phase.announced))
    ⟨fun h => ⟨h.1, h.2⟩, fun h => ⟨h.unknown, h.pending⟩⟩

lemma InStep.mono {abs abs' : ℕ} (h : resolver.InStep phase abs) (hle : abs ≤ abs') :
    resolver.InStep phase abs' :=
  ⟨h.pending, fun x hx => h.current x (hle.trans hx)⟩

/-- A record that neither announces an epoch nor ends a transition. -/
lemma observe_quiet (hpending : resolver.pendingEpoch = none)
    (hevent : read.record.eventTypeId = EVENT_DEFINITION_CHANGED →
      definitionChangedEpoch read.record = none) (bufferId : UInt32) :
    resolver.observe bufferId read = resolver := by
  unfold observe
  simp only [hpending]
  split_ifs with hbuffer hchanged hstarted
  · rfl
  · rw [hevent hchanged, ← hpending]
  · rfl
  · rfl

/-- A record that announces an epoch. -/
lemma observe_changed (hevent : read.record.eventTypeId = EVENT_DEFINITION_CHANGED) :
    resolver.observe resolver.bufferId read =
      { resolver with pendingEpoch := definitionChangedEpoch read.record } := by
  rw [observe, if_neg (not_not.mpr rfl), if_pos hevent]

/-- A `LoggerStarted` record with no epoch pending. -/
lemma observe_started_of_none (hpending : resolver.pendingEpoch = none)
    (hevent : read.record.eventTypeId = EVENT_LOGGER_STARTED) (bufferId : UInt32) :
    resolver.observe bufferId read = resolver := by
  refine observe_quiet hpending (fun hchanged => ?_) bufferId
  rw [hevent] at hchanged
  exact absurd hchanged (by decide)

/-- A run other than that of a `LoggerStarted` record stays unknown. -/
lemma Unknown.started {pending : UInt64} {runId : UInt64} (hunknown : resolver.Unknown runId)
    (h : resolver.Ordered head) (hhead : head ≤ read.startAbs)
    (hevent : read.record.eventTypeId = EVENT_LOGGER_STARTED)
    (hpending : resolver.pendingEpoch = some pending) (hne : runId ≠ read.record.runId) :
    (resolver.observe resolver.bufferId read).Unknown runId := by
  obtain ⟨-, -, hboundaries, hdefault⟩ := observe_started h hhead hevent hpending
  constructor
  · rw [hboundaries, if_neg hne, hunknown.1]
  · rw [hdefault, if_neg fun hcold => hne hcold.2, hunknown.2]

/-- What is kept whatever the record is: the buffer, the order of the boundaries, and how earlier
offsets of the runs so far are resolved. -/
structure Goes (resolver resolver' : EpochResolver) (phase phase' : Phase) (read : ReadRecord) :
    Prop where
  buffer : resolver'.bufferId = resolver.bufferId
  frame : resolver'.Frame phase' read.endAbs
  past : ∀ runId x, runId ≤ phase.runId → x < read.startAbs →
    resolver'.resolve resolver.bufferId runId x = resolver.resolve resolver.bufferId runId x

/-- A record that changes neither the boundaries nor the defaults. -/
lemma Frame.goes_of_same (h : resolver.Frame phase head) (hhead : head ≤ read.startAbs)
    (hspan : read.startAbs < read.endAbs) (hle : phase.runId ≤ phase'.runId)
    (pending : Option UInt64) :
    Goes resolver { resolver with pendingEpoch := pending } phase phase' read :=
  ⟨rfl, ⟨⟨h.ordered.sorted, (h.ordered.mono (hhead.trans hspan.le)).below⟩,
    fun runId hlt => h.future runId (UInt64.lt_of_le_of_lt hle hlt)⟩, fun _ _ _ _ => rfl⟩

/-- A `LoggerStarted` record with an epoch pending. -/
lemma Frame.goes_of_started (h : resolver.Frame phase head) (hhead : head ≤ read.startAbs)
    (hspan : read.startAbs < read.endAbs)
    (hevent : read.record.eventTypeId = EVENT_LOGGER_STARTED) {pending : UInt64}
    (hpending : resolver.pendingEpoch = some pending) (hle : phase.runId ≤ phase'.runId)
    (hrun : read.record.runId = phase'.runId)
    (hcold : (loggerStartedColdStart read.record).getD false → phase.runId < read.record.runId) :
    Goes resolver (resolver.observe resolver.bufferId read) phase phase' read := by
  refine ⟨(observe_started h.ordered hhead hevent hpending).1,
    ⟨h.ordered.started hhead hspan hevent hpending, ?_⟩, ?_⟩
  · intro runId hlt
    refine (h.future runId (UInt64.lt_of_le_of_lt hle hlt)).started h.ordered hhead hevent
      hpending ?_
    rw [hrun]
    exact (UInt64.ne_of_lt hlt).symm
  · intro runId x hle hlt
    refine resolve_before_started h.ordered hhead hevent hpending hlt fun hstart => ?_
    exact UInt64.ne_of_lt (UInt64.lt_of_le_of_lt hle (hcold hstart))

/-- **One record.** If the resolver is in step, or knows nothing of the run of the record, then so
it is behind the record; it gets out of step only if `known` was not claimed.

**Proof sketch.** One case for each thing a record can do to the phase. A quiet record is ignored,
since no epoch is pending. A `LoggerStarted` record with the announced epoch pending puts the
resolver in step; with no epoch pending it is ignored, and the resolver knew nothing of its run. -/
lemma observe_turns {known : Prop} (hframe : resolver.Frame phase head)
    (hstate : resolver.InStep phase head ∨ ¬known ∧ resolver.Blank phase read.record.runId)
    (hturns : Turns phase read.record phase') (hhead : head ≤ read.startAbs)
    (hspan : read.startAbs < read.endAbs) :
    Goes resolver (resolver.observe resolver.bufferId read) phase phase' read ∧
      ((resolver.observe resolver.bufferId read).InStep phase' read.startAbs ∨
        ¬known ∧ (resolver.observe resolver.bufferId read).Blank phase' phase'.runId) := by
  have hpending : resolver.pendingEpoch = none ∨ resolver.pendingEpoch = phase.announced := by
    rcases hstate with h | ⟨-, h⟩
    · exact Or.inr h.pending
    · exact h.pending
  have hle := hturns.runId_le
  have hrun := hturns.runId_eq
  cases hturns with
  | quiet hannounced _ hevent =>
    have hnone : resolver.pendingEpoch = none := by
      rcases hpending with h | h
      · exact h
      · rw [h, hannounced]
    rw [observe_quiet hnone hevent]
    refine ⟨hframe.goes_of_same hhead hspan hle resolver.pendingEpoch, ?_⟩
    rw [hrun] at hstate
    exact hstate.imp (fun h => h.mono hhead) id
  | @changed epochId hannounced _ hevent hepoch =>
    rw [observe_changed hevent, hepoch]
    refine ⟨hframe.goes_of_same hhead hspan hle (some epochId), ?_⟩
    rcases hstate with h | ⟨hknown, h⟩
    · exact Or.inl ⟨rfl, fun x hx => h.current x (hhead.trans hx)⟩
    · rw [hrun] at h
      exact Or.inr ⟨hknown, h.unknown, Or.inr rfl⟩
  | @warm epochId hannounced _ hevent hcold =>
    rcases hpending with hnone | hsome
    · rw [observe_started_of_none hnone hevent]
      refine ⟨hframe.goes_of_same hhead hspan hle resolver.pendingEpoch, ?_⟩
      rcases hstate with h | ⟨hknown, h⟩
      · rw [h.pending, hannounced] at hnone
        cases hnone
      · rw [hrun] at h
        exact Or.inr ⟨hknown, h.unknown, Or.inl hnone⟩
    · rw [hannounced] at hsome
      refine ⟨hframe.goes_of_started hhead hspan hevent hsome hle hrun ?_, Or.inl ?_⟩
      · simp [hcold]
      · obtain ⟨hbuffer, hpending', -⟩ := observe_started hframe.ordered hhead hevent hsome
        refine ⟨hpending', fun x hx => ?_⟩
        rw [hbuffer, ← hrun]
        exact resolve_started hframe.ordered hhead hevent hsome hx
  | @cold epochId hannounced hlt hevent hcold =>
    rcases hpending with hnone | hsome
    · rw [observe_started_of_none hnone hevent]
      refine ⟨hframe.goes_of_same hhead hspan hle resolver.pendingEpoch, ?_⟩
      rcases hstate with h | ⟨hknown, h⟩
      · rw [h.pending, hannounced] at hnone
        cases hnone
      · exact Or.inr ⟨hknown, h.unknown, Or.inl hnone⟩
    · rw [hannounced] at hsome
      refine ⟨hframe.goes_of_started hhead hspan hevent hsome hle hrun fun _ => hlt, Or.inl ?_⟩
      obtain ⟨hbuffer, hpending', -⟩ := observe_started hframe.ordered hhead hevent hsome
      refine ⟨hpending', fun x hx => ?_⟩
      rw [hbuffer]
      exact resolve_started hframe.ordered hhead hevent hsome hx

/-! ## Records in a row -/

/-- The records start at or behind an offset, each behind the one before it. -/
def Spaced : ℕ → List Note → Prop
  | _, [] => True
  | head, note :: notes => head ≤ note.read.startAbs ∧ note.read.startAbs < note.read.endAbs ∧
    Spaced note.read.endAbs notes

/-- The offset behind some records. -/
def endAbs : ℕ → List Note → ℕ
  | head, [] => head
  | _, note :: notes => endAbs note.read.endAbs notes

/-- The run of the first of some records; that of the phase if there are none. -/
def nextRun (phase : Phase) (notes : List Note) : UInt64 :=
  notes.head?.elim phase.runId fun note => note.read.record.runId

/-- A resolver that knows nothing of the run the log is in knows nothing of the run of the next
record. -/
lemma Blank.next {notes : List Note} (h : resolver.Blank phase phase.runId)
    (hframe : resolver.Frame phase head) (hchained : Chained phase notes) :
    resolver.Blank phase (nextRun phase notes) := by
  refine ⟨?_, h.pending⟩
  cases notes with
  | nil => exact h.unknown
  | cons note notes =>
    have hnext : nextRun phase (note :: notes) = note.phase.runId := hchained.1.runId_eq
    rw [hnext]
    rcases UInt64.lt_or_eq_of_le hchained.1.runId_le with hlt | heq
    · exact hframe.future _ hlt
    · rw [← heq]
      exact h.unknown

/-- Where records in order end. -/
lemma endAbs_le {notes : List Note} {bound : ℕ} :
    ∀ {head : ℕ}, head ≤ bound → (∀ note ∈ notes, note.read.endAbs ≤ bound) →
      endAbs head notes ≤ bound := by
  induction notes with
  | nil => exact fun hhead _ => hhead
  | cons note notes ih =>
    intro head _ hnotes
    obtain ⟨hnote, hnotes⟩ := List.forall_mem_cons.mp hnotes
    exact ih hnote hnotes

/-- Feeding the records as they were delivered. -/
lemma observeAll_delivered (bufferId : UInt32) (reads : List ReadRecord) :
    ∀ resolver : EpochResolver, resolver.observeAll bufferId (reads.map ReadRecord.delivered) =
      resolver.observeAll bufferId reads := by
  induction reads with
  | nil => exact fun _ => rfl
  | cons read reads ih => exact fun resolver => ih (resolver.observe bufferId read)

/-- **Records in a row**, from a resolver in step or one that knows nothing of the run of the
first: each of them is resolved to the epoch in effect when it was written, or, if `known` was not
claimed, not at all. Earlier offsets are resolved as before. -/
lemma observeAll_chained {known : Prop} {notes : List Note} :
    ∀ {resolver : EpochResolver} {phase : Phase} {head : ℕ}, resolver.Frame phase head →
      (resolver.InStep phase head ∨ ¬known ∧ resolver.Blank phase (nextRun phase notes)) →
      Chained phase notes → Spaced head notes →
      (resolver.observeAll resolver.bufferId (notes.map Note.read)).bufferId = resolver.bufferId ∧
      (resolver.observeAll resolver.bufferId (notes.map Note.read)).Frame (endPhase phase notes)
        (endAbs head notes) ∧
      ((resolver.observeAll resolver.bufferId (notes.map Note.read)).InStep (endPhase phase notes)
          (endAbs head notes) ∨
        ¬known ∧ (resolver.observeAll resolver.bufferId (notes.map Note.read)).Blank
          (endPhase phase notes) (endPhase phase notes).runId) ∧
      (∀ runId x, runId ≤ phase.runId → x < head →
        (resolver.observeAll resolver.bufferId (notes.map Note.read)).resolve resolver.bufferId
          runId x = resolver.resolve resolver.bufferId runId x) ∧
      ∀ note ∈ notes,
        (resolver.observeAll resolver.bufferId (notes.map Note.read)).resolve resolver.bufferId
            note.read.record.runId note.read.startAbs = some note.phase.epochId ∨
          ¬known ∧ (resolver.observeAll resolver.bufferId (notes.map Note.read)).resolve
            resolver.bufferId note.read.record.runId note.read.startAbs = none := by
  induction notes with
  | nil =>
    intro resolver phase head hframe hstate _ _
    exact ⟨rfl, hframe, hstate, fun _ _ _ _ => rfl, by simp⟩
  | cons note notes ih =>
    intro resolver phase head hframe hstate hchained hspaced
    obtain ⟨hturns, hchained⟩ := hchained
    obtain ⟨hhead, hspan, hspaced⟩ := hspaced
    obtain ⟨hgoes, hstate'⟩ := observe_turns hframe hstate hturns hhead hspan
    set next := resolver.observe resolver.bufferId note.read with hnext
    have hall : resolver.observeAll resolver.bufferId ((note :: notes).map Note.read) =
        next.observeAll next.bufferId (notes.map Note.read) := by
      rw [hgoes.buffer]
      rfl
    have hrest : next.InStep note.phase note.read.endAbs ∨
        ¬known ∧ next.Blank note.phase (nextRun note.phase notes) := by
      rcases hstate' with h | ⟨hknown, h⟩
      · exact Or.inl (h.mono hspan.le)
      · exact Or.inr ⟨hknown, h.next hgoes.frame hchained⟩
    obtain ⟨hbuffer, hframe', hend, hpast, hnotes⟩ := ih hgoes.frame hrest hchained hspaced
    rw [hall]
    rw [hgoes.buffer] at hbuffer hpast hnotes
    refine ⟨?_, hframe', hend, ?_, ?_⟩
    · rw [← hgoes.buffer] at hbuffer ⊢
      exact hbuffer
    · intro runId x hle hlt
      rw [← hgoes.past runId x hle (hlt.trans_le hhead), hgoes.buffer]
      exact hpast runId x (UInt64.le_trans hle hturns.runId_le)
        (hlt.trans_le (hhead.trans hspan.le))
    · intro v hv
      rcases List.mem_cons.mp hv with rfl | hv
      · rw [hgoes.buffer, hpast _ _ (UInt64.le_of_eq hturns.runId_eq) hspan, hturns.runId_eq]
        rcases hstate' with h | ⟨hknown, h⟩
        · exact Or.inl (hgoes.buffer ▸ h.current _ le_rfl)
        · exact Or.inr ⟨hknown, h.unknown.resolve⟩
      · rw [hgoes.buffer]
        exact hnotes v hv

/-- Records that lie one behind the other are spaced. -/
lemma spaced_of_pairwise {notes : List Note} :
    ∀ {head : ℕ}, (∀ note ∈ notes, head ≤ note.read.startAbs) →
      (∀ note ∈ notes, note.read.startAbs < note.read.endAbs) →
      notes.Pairwise (fun a b => a.read.endAbs ≤ b.read.startAbs) → Spaced head notes := by
  induction notes with
  | nil => exact fun _ _ _ => trivial
  | cons note notes ih =>
    intro head hhead hspan hpairwise
    obtain ⟨hfirst, hrest⟩ := List.pairwise_cons.mp hpairwise
    obtain ⟨hspan, hspans⟩ := List.forall_mem_cons.mp hspan
    exact ⟨hhead note List.mem_cons_self, hspan, ih hfirst hspans hrest⟩

/-- A new resolver is in step with a log that starts in its run and epoch. -/
lemma new_inStep (bufferId : UInt32) (runId epochId : UInt64) :
    (new bufferId runId epochId).Frame ⟨runId, epochId, none⟩ 0 ∧
      (new bufferId runId epochId).InStep ⟨runId, epochId, none⟩ 0 := by
  have hboundaries : ∀ run, (new bufferId runId epochId).boundaries run = [] := fun run => by
    simp [boundaries, new]
  refine ⟨⟨⟨?_, ?_⟩, ?_⟩, rfl, ?_⟩
  · intro run
    rw [hboundaries]
    exact List.Pairwise.nil
  · intro run
    simp [hboundaries]
  · intro run hlt
    refine ⟨hboundaries run, ?_⟩
    simp [new, UInt64.ne_of_lt hlt]
  · intro x _
    rw [resolve_eq rfl, hboundaries]
    simp [new, latest_nil]

end EpochResolver

/-! ## The whole log -/

namespace Journal

variable {phase : Phase} {journal : Journal}

/-- The records noted have extent. -/
lemma Kept.span (h : Kept phase journal) {note : Note} (hnote : note ∈ journal.notes) :
    note.read.startAbs < note.read.endAbs := by
  have hspans := h.ring.spans note.read (h.reads ▸ List.mem_map_of_mem hnote)
  have hpos := length_bytes_pos note.read.record true
  have hend := hspans.endAbs_eq
  omega

/-- The records noted lie one behind the other. -/
lemma Kept.pairwise (h : Kept phase journal) :
    journal.notes.Pairwise fun a b => a.read.endAbs ≤ b.read.startAbs := by
  have hlaid := List.pairwise_map.mp h.ring.laid.pairwise
  have hwritten : journal.producer.written.Pairwise fun a b => a.endAbs ≤ b.startAbs := by
    refine hlaid.imp_of_mem fun {a b} ha _ hle => ?_
    rwa [entry_stop (h.ring.spans a ha)] at hle
  rw [← h.reads] at hwritten
  exact List.pairwise_map.mp hwritten

/-- A resolver that starts where the journal does and is fed all records resolves each of them to
the epoch noted beside it. -/
lemma Kept.resolve_written {runId epochId : UInt64} (h : Kept ⟨runId, epochId, none⟩ journal)
    (bufferId : UInt32) {note : Note} (hnote : note ∈ journal.notes) :
    ((EpochResolver.new bufferId runId epochId).observeAll bufferId
      journal.producer.written).resolve bufferId note.read.record.runId note.read.startAbs =
        some note.phase.epochId := by
  obtain ⟨hframe, hinStep⟩ := EpochResolver.new_inStep bufferId runId epochId
  have hspaced : EpochResolver.Spaced 0 journal.notes :=
    EpochResolver.spaced_of_pairwise (fun _ _ => Nat.zero_le _) (fun _ hnote => h.span hnote)
      h.pairwise
  obtain ⟨-, -, -, -, hnotes⟩ := @EpochResolver.observeAll_chained True _ _ _ _ hframe
    (Or.inl hinStep) h.chained hspaced
  rw [h.reads] at hnotes
  rcases hnotes note hnote with hsome | ⟨hfalse, -⟩
  · exact hsome
  · exact absurd trivial hfalse

end Journal

/-- **The resolver is exact on the whole log.** After every run of successful calls on a new
producer, a resolver created with the run and the epoch the producer started in and fed every
record written, in order, resolves each of them to the epoch that was in effect at the producer
when it was written. -/
theorem resolver_exact {capacity : ℕ} {runId epochId : UInt64} {producer : EpochProducer}
    {definitionHash : DefinitionHash} {journal : Journal}
    (hnew : EpochProducer.new capacity runId epochId = .ok producer)
    (hrun : Runs Journal.step (fun _ _ => True) (.start producer definitionHash) journal)
    (bufferId : UInt32) :
    journal.notes.map Note.read = journal.producer.written ∧
    ∀ note ∈ journal.notes,
      ((EpochResolver.new bufferId runId epochId).observeAll bufferId
        journal.producer.written).resolve bufferId note.read.record.runId note.read.startAbs =
          some note.phase.epochId := by
  have h : Journal.Kept ⟨runId, epochId, none⟩ journal :=
    hrun.invariant (Journal.kept_start hnew definitionHash) fun _ _ _ hkept _ hstep =>
      hkept.step hstep
  exact ⟨h.reads, fun note hnote => h.resolve_written bufferId hnote⟩

/-- A warm transition and a cold start, with data before, between and behind them. -/
theorem resolver_exact_warm_cold :
    ∃ producer journal, EpochProducer.new 400 1 1 = .ok producer ∧
      Runs Journal.step (fun _ _ => True) (.start producer (.replicate 8 0)) journal ∧
      (journal.notes.filter fun note => decide (note.read.record.sourceId = 7)).map
        (fun note => (note.read.record.runId, note.read.record.seq, note.phase.epochId)) =
          [(1, 0, 1), (1, 1, 1), (1, 2, 5), (1, 3, 5), (2, 0, 3)] ∧
      ∀ note ∈ journal.notes,
        ((EpochResolver.new 0 1 1).observeAll 0 journal.producer.written).resolve 0
          note.read.record.runId note.read.startAbs = some note.phase.epochId := by
  obtain ⟨producer, hnew⟩ : ∃ producer, EpochProducer.new 400 1 1 = .ok producer := ⟨_, rfl⟩
  have hmap : (follow Journal.step (fun _ _ => True) [.emitData 7 1,
      .beginEpochTransition (.replicate 8 0) (.replicate 8 1) 5, .emitDefinitionChanged,
      .finishDefinitionChange, .emitData 7 EVENT_MESSAGE,
      .beginEpochTransition (.replicate 8 1) (.replicate 8 2) 3, .emitDefinitionChanged,
      .finishColdStart, .emitData 7 1] (.start producer (.replicate 8 0))).map
        (fun journal => (journal.notes.filter fun note =>
          decide (note.read.record.sourceId = 7)).map fun note =>
            (note.read.record.runId, note.read.record.seq, note.phase.epochId)) =
      some [(1, 0, 1), (1, 1, 1), (1, 2, 5), (1, 3, 5), (2, 0, 3)] := by
    obtain rfl := Outcome.ok.inj hnew
    decide +kernel
  obtain ⟨journal, hfollow, hsummary⟩ := Option.map_eq_some_iff.mp hmap
  have hrun := Runs.start.of_follow hfollow
  exact ⟨producer, journal, hnew, hrun, hsummary, (resolver_exact hnew hrun 0).2⟩

/-! ## A lapped consumer -/

/-- A producer, a raw consumer of its ring, a resolver fed what the consumer delivers, and the
history of what was delivered. -/
structure Watch where
  journal : Journal
  consumer : RawByteConsumer
  resolver : EpochResolver
  delivered : List ReadRecord

namespace Watch

/-- What can happen next. -/
inductive Action where
  | call (call : EpochCall)
  | poll
  deriving DecidableEq

/-- A new producer with nothing delivered, and a resolver that knows its run and epoch. -/
def start (producer : EpochProducer) (definitionHash : DefinitionHash) : Watch where
  journal := .start producer definitionHash
  consumer := .new
  resolver := .new DEFAULT_BUFFER_ID producer.runId producer.epochId
  delivered := []

/-- One step: a call that succeeds, or a poll that succeeds. -/
def step (watch : Watch) : Action → Option Watch
  | .call call => (watch.journal.step call).map fun journal => { watch with journal := journal }
  | .poll =>
    match RawByteConsumer.poll watch.journal.producer.ring watch.consumer with
    | (.ok batch, consumer) => some { watch with
        consumer := consumer
        resolver := watch.resolver.observeAll DEFAULT_BUFFER_ID batch.records
        delivered := watch.delivered ++ batch.records }
    | _ => none

/-- The notes on the records in front of an offset. -/
def before (notes : List Note) (abs : ℕ) : List Note :=
  notes.filter fun note => decide (note.read.startAbs < abs)

/-- The notes on the records from an offset on. -/
def behind (notes : List Note) (abs : ℕ) : List Note :=
  notes.filter fun note => decide (abs ≤ note.read.startAbs)

/-- The phase of the log at an offset, from the phase it started in. -/
def phaseAt (phase : Phase) (watch : Watch) (abs : ℕ) : Phase :=
  endPhase phase (before watch.journal.notes abs)

/-- Where the next poll resumes: at the cursor, or at the oldest record if the consumer has been
lapped. -/
def resume (watch : Watch) : ℕ :=
  max watch.consumer.cursorAbs watch.journal.producer.ring.oldestAbs

/-- The condition on a poll. The records it skips, because they have been evicted, leave the run,
the epoch in effect and the announced epoch as they were; or the resolver has neither a default nor
a boundary for the run of the record at which the poll resumes, and no epoch pending other than the
one announced there. -/
def Meets (phase : Phase) (watch : Watch) : Action → Prop
  | .call _ => True
  | .poll => watch.phaseAt phase watch.resume = watch.phaseAt phase watch.consumer.cursorAbs ∨
      watch.resolver.Blank (watch.phaseAt phase watch.resume) (EpochResolver.nextRun
        (watch.phaseAt phase watch.resume) (behind watch.journal.notes watch.resume))

instance (phase : Phase) (watch : Watch) : DecidablePred (Meets phase watch)
  | .call _ => isTrue trivial
  | .poll => inferInstanceAs (Decidable (_ ∨ _))

/-- The invariant: the resolver is in step with the log at the cursor, or knows nothing of the run
there; and what was delivered is resolved to the epoch noted beside it, or not at all. -/
structure Heard (phase : Phase) (watch : Watch) : Prop where
  kept : Journal.Kept phase watch.journal
  cursor : ∃ rest, At (logOf watch.journal.producer.written) watch.consumer.cursorAbs rest
  buffer : watch.resolver.bufferId = DEFAULT_BUFFER_ID
  frame : watch.resolver.Frame (watch.phaseAt phase watch.consumer.cursorAbs)
    watch.consumer.cursorAbs
  state : watch.resolver.InStep (watch.phaseAt phase watch.consumer.cursorAbs)
      watch.consumer.cursorAbs ∨
    watch.resolver.Blank (watch.phaseAt phase watch.consumer.cursorAbs)
      (watch.phaseAt phase watch.consumer.cursorAbs).runId
  delivered : ∀ read ∈ watch.delivered, ∃ note ∈ before watch.journal.notes
      watch.consumer.cursorAbs, note.read.delivered = read ∧
    (watch.resolver.resolve DEFAULT_BUFFER_ID note.read.record.runId note.read.startAbs = none ∨
      watch.resolver.resolve DEFAULT_BUFFER_ID note.read.record.runId note.read.startAbs =
        some note.phase.epochId)

variable {phase : Phase} {watch watch' : Watch}

/-! ### Notes by offset -/

/-- The notes in front of an offset and those behind it are all notes. -/
lemma before_append_behind {notes : List Note}
    (h : notes.Pairwise fun a b => a.read.startAbs ≤ b.read.startAbs) (abs : ℕ) :
    before notes abs ++ behind notes abs = notes := by
  rw [before, behind, ← takeWhile_lt_eq_filter h, ← dropWhile_lt_eq_filter h,
    List.takeWhile_append_dropWhile]

/-- The notes in order. -/
lemma pairwise_start (h : Journal.Kept phase watch.journal) :
    watch.journal.notes.Pairwise fun a b => a.read.startAbs ≤ b.read.startAbs :=
  h.pairwise.imp_of_mem fun ha _ hle => (h.span ha).le.trans hle

/-- The notes behind an offset follow on the phase there. -/
lemma chained_behind (h : Journal.Kept phase watch.journal) (abs : ℕ) :
    Chained phase (before watch.journal.notes abs) ∧
      Chained (watch.phaseAt phase abs) (behind watch.journal.notes abs) := by
  rw [phaseAt, ← chained_append, before_append_behind (pairwise_start h)]
  exact h.chained

/-- The phase at a later offset is of the same run or of a later one. -/
lemma phaseAt_runId_le (h : Journal.Kept phase watch.journal) {abs abs' : ℕ} (hle : abs ≤ abs') :
    (watch.phaseAt phase abs).runId ≤ (watch.phaseAt phase abs').runId := by
  have hsplit : before watch.journal.notes abs' =
      before watch.journal.notes abs ++ before (behind watch.journal.notes abs) abs' := by
    have hall : before (before watch.journal.notes abs) abs' = before watch.journal.notes abs := by
      refine List.filter_eq_self.mpr fun note hnote => ?_
      have := (List.mem_filter.mp hnote).2
      simp only [decide_eq_true_eq] at this ⊢
      omega
    nth_rewrite 1 [← before_append_behind (pairwise_start h) abs]
    rw [before, List.filter_append]
    exact congrArg (· ++ _) hall
  have hchained := (chained_behind h abs').1
  rw [hsplit, chained_append] at hchained
  rw [phaseAt, phaseAt, hsplit, endPhase_append]
  exact hchained.2.runId_le

/-- The records behind an offset are spaced. -/
lemma spaced_behind (h : Journal.Kept phase watch.journal) (abs : ℕ) :
    EpochResolver.Spaced abs (behind watch.journal.notes abs) := by
  refine EpochResolver.spaced_of_pairwise ?_ ?_ (h.pairwise.filter _)
  · exact fun note hnote => by simpa using (List.mem_filter.mp hnote).2
  · exact fun note hnote => h.span (List.mem_filter.mp hnote).1

/-- All records lie in front of the head. -/
lemma before_head (h : Journal.Kept phase watch.journal) :
    before watch.journal.notes watch.journal.producer.ring.headAbs = watch.journal.notes := by
  refine List.filter_eq_self.mpr fun note hnote => ?_
  have := h.ring.startAbs_lt_head (h.reads ▸ List.mem_map_of_mem hnote)
  simpa using this

/-- The records noted in front of an offset are of the run there or of an earlier one. -/
lemma runId_le_of_mem_before {notes : List Note} :
    ∀ {phase : Phase}, Chained phase notes → ∀ note ∈ notes,
      note.read.record.runId ≤ (endPhase phase notes).runId := by
  induction notes with
  | nil => simp
  | cons first notes ih =>
    intro phase hchained note hnote
    rcases List.mem_cons.mp hnote with rfl | hnote
    · rw [hchained.1.runId_eq]
      exact hchained.2.runId_le
    · exact ih hchained.2 note hnote

/-! ### Steps -/

/-- A new watch. -/
lemma heard_start {capacity : ℕ} {runId epochId : UInt64} {producer : EpochProducer}
    (hnew : EpochProducer.new capacity runId epochId = .ok producer)
    (definitionHash : DefinitionHash) :
    Heard ⟨runId, epochId, none⟩ (start producer definitionHash) := by
  have hkept := Journal.kept_start hnew definitionHash
  obtain ⟨hframe, hinStep⟩ := EpochResolver.new_inStep DEFAULT_BUFFER_ID runId epochId
  obtain ⟨ring, hring, hproducer⟩ := Outcome.bind_eq_ok.mp hnew
  obtain rfl := Outcome.ok.inj hproducer
  exact ⟨hkept, ⟨_, At.zero _⟩, rfl, hframe, Or.inl hinStep, by simp [start]⟩

/-- A call writes behind the cursor, and the resolver is not fed. -/
lemma Heard.call (h : Heard phase watch) {call : EpochCall} {journal : Journal}
    (hstep : watch.journal.step call = some journal) :
    Heard phase { watch with journal := journal } := by
  have hkept := h.kept.step hstep
  obtain ⟨producer, hdid, rfl⟩ := h.kept.did hstep
  obtain ⟨ws, hwritten, hring, -⟩ := hdid.turns h.kept.ring
  obtain ⟨rest, hat⟩ := h.cursor
  have hlog : logOf producer.written = logOf watch.journal.producer.written ++ logOf ws := by
    rw [hwritten]
    exact List.map_append
  have hcursor : watch.consumer.cursorAbs ≤ watch.journal.producer.ring.headAbs := by
    rw [h.kept.ring.head]
    exact hat.le_head h.kept.ring.laid
  -- the records written now start behind the old head
  have hnew : ∀ note ∈ (producer.written.drop watch.journal.producer.written.length).map
      (fun read => (⟨read, producer.phase, (watch.journal.advance call producer).definitionHash,
        (watch.journal.advance call producer).completed⟩ : Note)),
      watch.consumer.cursorAbs ≤ note.read.startAbs := by
    intro note hnote
    obtain ⟨w, hw, rfl⟩ := List.mem_map.mp hnote
    rw [hwritten, List.drop_left] at hw
    exact hcursor.trans (h.kept.ring.head_le_startAbs (hwritten ▸ hring) hw)
  have hbefore : before (watch.journal.advance call producer).notes watch.consumer.cursorAbs =
      before watch.journal.notes watch.consumer.cursorAbs := by
    rw [Journal.advance, before, List.filter_append, before]
    refine List.append_right_eq_self.mpr (List.filter_eq_nil_iff.mpr fun note hnote => ?_)
    have := hnew note hnote
    simp only [decide_eq_true_eq]
    omega
  have hphase : phaseAt phase { watch with journal := watch.journal.advance call producer }
      watch.consumer.cursorAbs = watch.phaseAt phase watch.consumer.cursorAbs := by
    rw [phaseAt, phaseAt, hbefore]
  refine ⟨hkept, ⟨rest ++ logOf ws, ?_⟩, h.buffer, ?_, ?_, ?_⟩
  · exact hlog ▸ hat.append
  · rw [hphase]
    exact h.frame
  · rw [hphase]
    exact h.state
  · simp only [hbefore]
    exact h.delivered

/-- A poll that succeeds returns what the raw reader returns, and moves the cursor behind it. -/
lemma poll_eq_ok {ring : RingBuffer} {consumer consumer' : RawByteConsumer} {read batch : ReadBatch}
    (hread : ring.readRawFrom consumer.cursorAbs = .ok read)
    (hpoll : RawByteConsumer.poll ring consumer = (.ok batch, consumer')) :
    batch = read ∧ consumer'.cursorAbs = read.nextAbs := by
  rw [RawByteConsumer.poll, Mut.get_bind, hread, Mut.lift_ok_bind] at hpoll
  rcases Mut.run_cases (RawByteConsumer.accountRecords read.records) consumer.tracker with
    ⟨a, tracker, haccount⟩ | ⟨e, tracker, haccount⟩ | ⟨tracker, haccount⟩
  · rw [Mut.bind_of_ok (Pipeline.accountBatch_eq haccount)] at hpoll
    obtain ⟨hbatch, hconsumer⟩ := Prod.mk.inj hpoll
    exact ⟨(Outcome.ok.inj hbatch).symm, by rw [← hconsumer]⟩
  · have hbatch : RawByteConsumer.accountBatch read consumer =
        (.err e, { consumer with tracker := tracker }) :=
      Mut.bind_of_err (by simp [Mut.field, haccount])
    rw [Mut.bind_of_err hbatch] at hpoll
    cases hpoll
  · have hbatch : RawByteConsumer.accountBatch read consumer =
        (.panic, { consumer with tracker := tracker }) :=
      Mut.bind_of_panic (by simp [Mut.field, haccount])
    rw [Mut.bind_of_panic hbatch] at hpoll
    cases hpoll

/-- A poll delivers the records from where it resumes. -/
lemma Heard.readRawFrom (h : Heard phase watch) :
    watch.journal.producer.ring.readRawFrom watch.consumer.cursorAbs =
      .ok ⟨((behind watch.journal.notes watch.resume).map Note.read).map ReadRecord.delivered,
        watch.journal.producer.ring.headAbs, decide (watch.consumer.cursorAbs <
          watch.journal.producer.ring.oldestAbs)⟩ := by
  obtain ⟨rest, hat⟩ := h.cursor
  have hreads : (behind watch.journal.notes watch.resume).map Note.read =
      watch.journal.producer.written.filter fun w => decide (watch.resume ≤ w.startAbs) := by
    rw [← h.kept.reads, List.filter_map]
    rfl
  have hfilter : ((retained watch.journal.producer.ring.headAbs watch.journal.producer.ring.capacity
      watch.journal.producer.written).filter fun w =>
        decide (watch.consumer.cursorAbs ≤ w.startAbs)) =
      watch.journal.producer.written.filter fun w => decide (watch.resume ≤ w.startAbs) := by
    rw [h.kept.ring.retained_eq, List.filter_filter]
    refine List.filter_congr fun w _ => ?_
    rw [← Bool.decide_and, decide_eq_decide, resume, max_le_iff]
  rw [h.kept.ring.readRawFrom hat, hreads, hfilter]

/-- The state of the resolver at the offset where a poll that meets the condition resumes. -/
lemma Heard.resumes (h : Heard phase watch) (hmeets : watch.Meets phase .poll) :
    watch.resolver.Frame (watch.phaseAt phase watch.resume) watch.resume ∧
      (watch.resolver.InStep (watch.phaseAt phase watch.resume) watch.resume ∨
        ¬False ∧ watch.resolver.Blank (watch.phaseAt phase watch.resume) (EpochResolver.nextRun
          (watch.phaseAt phase watch.resume) (behind watch.journal.notes watch.resume))) := by
  have hle : watch.consumer.cursorAbs ≤ watch.resume := le_max_left _ _
  have hframe : watch.resolver.Frame (watch.phaseAt phase watch.resume) watch.resume :=
    ⟨h.frame.ordered.mono hle, fun runId hlt => h.frame.future runId
      (UInt64.lt_of_le_of_lt (phaseAt_runId_le h.kept hle) hlt)⟩
  refine ⟨hframe, ?_⟩
  rcases hmeets with hsame | hblank
  · rw [hsame]
    rcases h.state with hstep | hblank
    · exact Or.inl (hstep.mono hle)
    · rw [hsame] at hframe
      refine Or.inr ⟨not_false, hblank.next hframe ?_⟩
      rw [← hsame]
      exact (chained_behind h.kept watch.resume).2
  · exact Or.inr ⟨not_false, hblank⟩

/-- **A poll that meets the condition** keeps the invariant. -/
lemma Heard.poll (h : Heard phase watch) (hmeets : watch.Meets phase .poll)
    (hstep : watch.step .poll = some watch') : Heard phase watch' := by
  obtain ⟨batch, consumer, hpoll, rfl⟩ : ∃ batch consumer,
      RawByteConsumer.poll watch.journal.producer.ring watch.consumer = (.ok batch, consumer) ∧
      watch' = { watch with
        consumer := consumer
        resolver := watch.resolver.observeAll DEFAULT_BUFFER_ID batch.records
        delivered := watch.delivered ++ batch.records } := by
    rw [Watch.step] at hstep
    split at hstep
    · rename_i batch consumer hpoll
      exact ⟨batch, consumer, hpoll, (Option.some.inj hstep).symm⟩
    · cases hstep
  obtain ⟨rfl, hcursor⟩ := poll_eq_ok h.readRawFrom hpoll
  have hcursor : consumer.cursorAbs = watch.journal.producer.ring.headAbs := hcursor
  obtain ⟨hframe, hstate⟩ := h.resumes hmeets
  obtain ⟨hbuffer, hframe', hstate', hpast, hnotes⟩ := EpochResolver.observeAll_chained hframe
    hstate (chained_behind h.kept watch.resume).2 (spaced_behind h.kept watch.resume)
  rw [h.buffer] at hbuffer hframe' hstate' hpast hnotes
  -- behind the batch the log is where the producer is
  have hall := before_append_behind (pairwise_start h.kept) watch.resume
  have hphase : phaseAt phase watch watch.journal.producer.ring.headAbs =
      endPhase (watch.phaseAt phase watch.resume) (behind watch.journal.notes watch.resume) := by
    rw [phaseAt, before_head h.kept, phaseAt, ← endPhase_append, hall]
  have hresume : watch.resume ≤ watch.journal.producer.ring.headAbs := by
    obtain ⟨rest, hat⟩ := h.cursor
    refine max_le ?_ h.kept.ring.window.1
    rw [h.kept.ring.head]
    exact hat.le_head h.kept.ring.laid
  have hend : EpochResolver.endAbs watch.resume (behind watch.journal.notes watch.resume) ≤
      watch.journal.producer.ring.headAbs := by
    refine EpochResolver.endAbs_le hresume fun note hnote => ?_
    have hmem : note.read ∈ watch.journal.producer.written :=
      h.kept.reads ▸ List.mem_map_of_mem (List.mem_filter.mp hnote).1
    rw [h.kept.ring.head, ← entry_stop (h.kept.ring.spans _ hmem)]
    exact h.kept.ring.laid.stop_le_head (List.mem_map_of_mem hmem)
  rw [EpochResolver.observeAll_delivered]
  refine ⟨h.kept, ⟨[], ?_⟩, hbuffer, ?_, ?_, ?_⟩
  · have := At.headOf_append (logOf watch.journal.producer.written) []
    rwa [List.append_nil, ← h.kept.ring.head, ← hcursor] at this
  · change EpochResolver.Frame _ (phaseAt phase watch consumer.cursorAbs) consumer.cursorAbs
    rw [hcursor, hphase]
    exact ⟨hframe'.ordered.mono hend, hframe'.future⟩
  · change EpochResolver.InStep _ (phaseAt phase watch consumer.cursorAbs) consumer.cursorAbs ∨
      EpochResolver.Blank _ (phaseAt phase watch consumer.cursorAbs)
        (phaseAt phase watch consumer.cursorAbs).runId
    rw [hcursor, hphase]
    rcases hstate' with hin | ⟨-, hblank⟩
    · exact Or.inl (hin.mono hend)
    · exact Or.inr hblank
  · intro read hread
    change ∃ note ∈ before watch.journal.notes consumer.cursorAbs, _
    rw [hcursor, before_head h.kept]
    rcases List.mem_append.mp hread with hold | hfresh
    · obtain ⟨note, hnote, rfl, hresolve⟩ := h.delivered read hold
      have hlt : note.read.startAbs < watch.consumer.cursorAbs := by
        simpa using (List.mem_filter.mp hnote).2
      have hrun := runId_le_of_mem_before (chained_behind h.kept watch.consumer.cursorAbs).1 note
        hnote
      refine ⟨note, (List.mem_filter.mp hnote).1, rfl, ?_⟩
      rw [hpast _ _ (UInt64.le_trans hrun (phaseAt_runId_le h.kept (le_max_left _ _)))
        (hlt.trans_le (le_max_left _ _))]
      exact hresolve
    · obtain ⟨w, hw, rfl⟩ := List.mem_map.mp hfresh
      obtain ⟨note, hnote, rfl⟩ := List.mem_map.mp hw
      refine ⟨note, (List.mem_filter.mp hnote).1, rfl, ?_⟩
      rcases hnotes note hnote with hsome | ⟨-, hnone⟩
      · exact Or.inr hsome
      · exact Or.inl hnone

/-- **Every step that meets the condition** keeps the invariant. -/
lemma Heard.step (h : Heard phase watch) {action : Action} (hmeets : watch.Meets phase action)
    (hstep : watch.step action = some watch') : Heard phase watch' := by
  cases action with
  | call call =>
    obtain ⟨journal, hjournal, rfl⟩ := Option.map_eq_some_iff.mp hstep
    exact h.call hjournal
  | poll => exact h.poll hmeets hstep

end Watch

/-- **The resolver of a lapped consumer is sound**, in every state of every run of successful calls
and polls in which every poll meets the condition: a delivered record is resolved to the epoch that
was in effect at the producer when it was written, or not at all. -/
theorem lapped_resolver_sound {capacity : ℕ} {runId epochId : UInt64} {producer : EpochProducer}
    {definitionHash : DefinitionHash} {watch : Watch}
    (hnew : EpochProducer.new capacity runId epochId = .ok producer)
    (hrun : Runs Watch.step (Watch.Meets ⟨runId, epochId, none⟩) (.start producer definitionHash)
      watch) :
    watch.journal.notes.map Note.read = watch.journal.producer.written ∧
    ∀ read ∈ watch.delivered, ∃ note ∈ watch.journal.notes, note.read.delivered = read ∧
      (watch.resolver.resolve DEFAULT_BUFFER_ID read.record.runId read.startAbs = none ∨
        watch.resolver.resolve DEFAULT_BUFFER_ID read.record.runId read.startAbs =
          some note.phase.epochId) := by
  have h : Watch.Heard ⟨runId, epochId, none⟩ watch :=
    hrun.invariant (Watch.heard_start hnew definitionHash) fun _ _ _ hheard hmeets hstep =>
      hheard.step hmeets hstep
  refine ⟨h.kept.reads, fun read hread => ?_⟩
  obtain ⟨note, hnote, rfl, hresolve⟩ := h.delivered read hread
  exact ⟨note, (List.mem_filter.mp hnote).1, rfl, hresolve⟩

/-- What the resolver says of each delivered record of source 7, and the epoch noted beside it. -/
def Watch.summary (watch : Watch) : List (Option UInt64 × List UInt64) :=
  (watch.delivered.filter fun read => decide (read.record.sourceId = 7)).map fun read =>
    (watch.resolver.resolve DEFAULT_BUFFER_ID read.record.runId read.startAbs,
      (watch.journal.notes.filter fun note =>
        decide (note.read.startAbs = read.startAbs)).map fun note => note.phase.epochId)

/-- A cold start is evicted as a whole before the first poll: the resolver knows nothing of the new
run and does not resolve its records. -/
theorem lapped_resolver_sound_cold_start :
    ∃ producer watch, EpochProducer.new 120 1 1 = .ok producer ∧
      Runs Watch.step (Watch.Meets ⟨1, 1, none⟩) (.start producer (.replicate 8 0)) watch ∧
      watch.summary = [(none, [2]), (none, [2])] ∧
      ∀ read ∈ watch.delivered, ∃ note ∈ watch.journal.notes, note.read.delivered = read ∧
        (watch.resolver.resolve DEFAULT_BUFFER_ID read.record.runId read.startAbs = none ∨
          watch.resolver.resolve DEFAULT_BUFFER_ID read.record.runId read.startAbs =
            some note.phase.epochId) := by
  obtain ⟨producer, hnew⟩ : ∃ producer, EpochProducer.new 120 1 1 = .ok producer := ⟨_, rfl⟩
  have hmap : (follow Watch.step (Watch.Meets ⟨1, 1, none⟩)
      [.call (.emitData 7 1), .call (.beginEpochTransition (.replicate 8 0) (.replicate 8 1) 2),
        .call .emitDefinitionChanged, .call .finishColdStart, .call (.emitData 7 1),
        .call (.emitData 7 1), .call (.emitData 7 1), .poll]
      (.start producer (.replicate 8 0))).map Watch.summary = some [(none, [2]), (none, [2])] := by
    obtain rfl := Outcome.ok.inj hnew
    decide +kernel
  obtain ⟨watch, hfollow, hsummary⟩ := Option.map_eq_some_iff.mp hmap
  have hrun := Runs.start.of_follow hfollow
  exact ⟨producer, watch, hnew, hrun, hsummary, (lapped_resolver_sound hnew hrun).2⟩

/-- A warm transition to epoch 2 is evicted as a whole before the first poll. The data records
behind it are then resolved to the default of their run, which is epoch 1. -/
theorem lapped_resolver_wrong_epoch :
    ∃ producer watch, EpochProducer.new 120 1 1 = .ok producer ∧
      Runs Watch.step (fun _ _ => True) (.start producer (.replicate 8 0)) watch ∧
      ∃ read ∈ watch.delivered, read.record.sourceId = 7 ∧
        watch.resolver.resolve DEFAULT_BUFFER_ID read.record.runId read.startAbs = some 1 ∧
        ∀ note ∈ watch.journal.notes, note.read.startAbs = read.startAbs →
          note.phase.epochId = 2 := by
  obtain ⟨producer, hnew⟩ : ∃ producer, EpochProducer.new 120 1 1 = .ok producer := ⟨_, rfl⟩
  have hmap : (follow Watch.step (fun _ _ => True)
      [.call (.emitData 7 1), .call (.beginEpochTransition (.replicate 8 0) (.replicate 8 1) 2),
        .call .emitDefinitionChanged, .call .finishDefinitionChange, .call (.emitData 7 1),
        .call (.emitData 7 1), .call (.emitData 7 1), .poll]
      (.start producer (.replicate 8 0))).map (fun watch => decide (∃ read ∈ watch.delivered,
        read.record.sourceId = 7 ∧
        watch.resolver.resolve DEFAULT_BUFFER_ID read.record.runId read.startAbs = some 1 ∧
        ∀ note ∈ watch.journal.notes, note.read.startAbs = read.startAbs →
          note.phase.epochId = 2)) = some true := by
    obtain rfl := Outcome.ok.inj hnew
    decide +kernel
  obtain ⟨watch, hfollow, hwrong⟩ := Option.map_eq_some_iff.mp hmap
  exact ⟨producer, watch, hnew, Runs.start.of_follow hfollow, of_decide_eq_true hwrong⟩

end OpenOT
