import OpenOT.Carriage.EpochCalls

set_option relaxedAutoImplicit false
set_option autoImplicit false

/-!
# Failed calls

When a call of the epoch producer that returns an error has changed nothing. The guards of the
transition put back what they took out; but the counters move before the ring is asked, and a
pending transition that was taken out is gone when the ring rejects its record. So a failed call
leaves the producer as it was exactly when its records have room, whatever the state.

## Main definitions

* `OpenOT.EpochProducer.Unchanged` — the ring, the counters, the run, the epoch and the
  transition are the same.
* `OpenOT.EpochCall.HasRoom` — a guard rejects the call, the ring has room for its records, or a
  counter is at its end.

## Main results

* `OpenOT.EpochProducer.Sized.call` — every call keeps what the capacity says about transitions.
* `OpenOT.failed_call_changes_nothing_iff` — over all reachable states.
* `OpenOT.failed_call_drops_transition` — a failed call that loses the open transition.
-/

namespace OpenOT

open Rust CircularLog

namespace EpochProducer

/-- The ring, the counters, the run, the epoch and the transition are what they were. The source
time is not a counter. -/
structure Unchanged (producer producer' : EpochProducer) : Prop where
  ring : producer'.ring = producer.ring
  systemSeq : producer'.systemSeq = producer.systemSeq
  sourceSeq : producer'.sourceSeq = producer.sourceSeq
  runId : producer'.runId = producer.runId
  epochId : producer'.epochId = producer.epochId
  epochFirstAbs : producer'.epochFirstAbs = producer.epochFirstAbs
  transition : producer'.transition = producer.transition

lemma Unchanged.refl (producer : EpochProducer) : Unchanged producer producer :=
  ⟨rfl, rfl, rfl, rfl, rfl, rfl, rfl⟩

end EpochProducer

/-- A guard rejects the call, or the ring has room for the records it writes, or a counter it
moves is at its end, so that it panics instead. -/
def EpochCall.HasRoom (producer : EpochProducer) : EpochCall → Prop
  | emitData sourceId eventTypeId => producer.transition.isSome ∨
      (if eventTypeId = EVENT_MESSAGE then 52 else 44) ≤ producer.ring.capacity ∨
      2 ^ 64 ≤ (producer.sourceSeq.getD sourceId 0).toNat + 1 ∨
      2 ^ 64 ≤ producer.sourceTime.toNat + 1
  | checkpointHighWater => True
  | beginEpochTransition _ _ _ => producer.transition.isSome ∨
      2 ^ 64 ≤ producer.systemSeq.toNat + 1 ∨ 2 ^ 64 ≤ producer.sourceTime.toNat + 1 ∨
      44 ≤ producer.ring.capacity ∧ (producer.sourceSeq.toList = [] ∨
        56 ≤ producer.ring.capacity ∨ 2 ^ 64 ≤ producer.sourceTime.toNat + 2)
  | emitDefinitionChanged => 80 ≤ producer.ring.capacity ∨
      (∀ pending, producer.transition = some pending → pending.definitionChangedEmitted = true) ∨
      2 ^ 64 ≤ producer.systemSeq.toNat + 1 ∨ 2 ^ 64 ≤ producer.sourceTime.toNat + 1
  | finishDefinitionChange => True
  | finishColdStart => True

namespace EpochProducer

variable {producer : EpochProducer}

/-! ## Reachable states -/

/-- What holds of every state reached: the ring holds the history, and a transition whose
definition has been announced fits the ring. -/
structure Sized (producer : EpochProducer) : Prop where
  represents : producer.ring.Represents producer.written
  announced : ∀ pending, producer.transition = some pending →
    pending.definitionChangedEmitted = true → 80 ≤ producer.ring.capacity

/-- A record that has been taken fits the ring. -/
lemma Took.lenOf_le {record : Record} {ring : RingBuffer} {w : ReadRecord}
    (h : producer.Took record ring w) : lenOf record.slots ≤ producer.ring.capacity := by
  have hlaid := h.represents.laid
  rw [logOf_concat] at hlaid
  have hle := hlaid.of_concat.2.2.2
  rw [h.capacity] at hle
  change (w.record.bytes true).length ≤ _ at hle
  rw [length_bytes, h.record_eq] at hle
  exact hle

/-- A new producer. -/
lemma sized_new {capacity : ℕ} {runId epochId : UInt64}
    (hnew : EpochProducer.new capacity runId epochId = .ok producer) : producer.Sized := by
  obtain ⟨ring, hring, hproducer⟩ := Outcome.bind_eq_ok.mp hnew
  obtain ⟨hrep, -⟩ := RingBuffer.represents_new (Outcome.mapErr_eq_ok.mp hring)
  obtain rfl := Outcome.ok.inj hproducer
  exact ⟨hrep, by simp⟩

/-- A state without a transition. -/
lemma sized_of_none (hring : producer.ring.Represents producer.written)
    (hopen : producer.transition = none) : producer.Sized :=
  ⟨hring, by simp [hopen]⟩

/-- **Every call keeps it**, whether it succeeds, fails or panics. -/
lemma Sized.call (h : producer.Sized) (call : EpochCall) :
    call.run.wp (fun _ producer' => producer'.Sized) (fun _ producer' => producer'.Sized)
      Sized producer := by
  refine Mut.wp_mono (call_spec h.represents call) ?_ ?_ ?_
  · intro _ producer' hdid
    cases hdid with
    | emitData hopen hnext htime htook => exact sized_of_none htook.represents hopen
    | checkpoint hopen hmarked =>
      obtain ⟨ring, time, sourceSeq, ws, rfl, -, hrep, -, -⟩ := hmarked.spec h.represents
      exact sized_of_none hrep hopen
    | began hopen hnext htime htook hmarked =>
      obtain ⟨ring, time, sourceSeq, ws, rfl, -, hrep, -, -⟩ := hmarked.spec htook.represents
      exact ⟨hrep, by rintro pending heq; obtain rfl := Option.some.inj heq; simp⟩
    | changed hopen hemitted hnext htime htook =>
      refine ⟨htook.represents, fun _ _ _ => ?_⟩
      have hle := htook.lenOf_le
      rw [stamped_slots, lenOf_changedSlots] at hle
      exact htook.capacity ▸ hle
    | warm hopen hemitted hnext htime htook => exact sized_of_none htook.represents rfl
    | cold hopen hemitted hrunId hnext htime htook => exact sized_of_none htook.represents rfl
  · rintro _ producer' (rfl | ⟨-, hopen, hring, -⟩)
    · exact h
    · exact sized_of_none hring hopen
  · exact fun producer' hhalted => sized_of_none hhalted.represents hhalted.transition

/-- Over a run. -/
lemma Sized.runCalls (h : producer.Sized) (calls : List EpochCall) :
    (producer.runCalls calls).Sized := by
  exact runCalls_of_call (fun _ call _ hsized => hsized.call call) (fun _ hsized => hsized)
    (fun _ _ => trivial) h

/-! ## Failed calls -/

/-- If the call fails, it has changed nothing. -/
def Atomic (producer : EpochProducer) (call : EpochCall) : Prop :=
  ∀ e producer', call.run producer = (.err e, producer') → Unchanged producer producer'

lemma atomic_of_wp {call : EpochCall} {P : EpochProducer → Prop}
    {Q : Unit → EpochProducer → Prop}
    (h : call.run.wp Q (fun _ producer' => Unchanged producer producer') P producer) :
    producer.Atomic call := by
  intro e producer' hrun
  rwa [Mut.wp, hrun] at h

lemma not_atomic_of_wp {call : EpochCall}
    (h : call.run.wp (fun _ _ => False) (fun _ producer' => ¬Unchanged producer producer')
      (fun _ => False) producer) : ¬producer.Atomic call := by
  intro hatomic
  rcases Mut.run_cases call.run producer with
    ⟨a, producer', hrun⟩ | ⟨e, producer', hrun⟩ | ⟨producer', hrun⟩
  · rwa [Mut.wp, hrun] at h
  · rw [Mut.wp, hrun] at h
    exact h (hatomic e producer' hrun)
  · rwa [Mut.wp, hrun] at h

/-- A call that has room changes nothing when it fails. -/
lemma Sized.atomic (h : producer.Sized) {call : EpochCall} (hroom : call.HasRoom producer) :
    producer.Atomic call := by
  have hring := h.represents
  refine atomic_of_wp (P := fun _ => True) (Q := fun _ _ => True) ?_
  cases call with
  | emitData sourceId eventTypeId =>
    refine wp_emitData producer hring (by simp) (fun _ => .refl _) ?_ (by simp)
    intro hopen hlt next time e hnext htime
    have := next.toNat_lt
    have := time.toNat_lt
    rw [lenOf_dataSlots] at hlt
    rcases hroom with hsome | hfits | hover | hover
    · simp [hopen] at hsome
    · omega
    · omega
    · omega
  | checkpointHighWater =>
    exact wp_checkpointHighWater producer hring (by simp) (fun _ => .refl _)
      (fun _ _ _ _ _ _ => ⟨rfl, rfl, rfl, rfl, rfl, rfl, rfl⟩) (by simp)
  | beginEpochTransition defHashOld defHashNew epochId =>
    refine Mut.wp_bind (Mut.wp_get ?_)
    by_cases hopen : producer.transition.isSome
    · rw [if_pos hopen]
      exact .refl producer
    rw [if_neg hopen]
    have hroom := hroom.resolve_left hopen
    refine Mut.wp_bind (wp_emitSystem producer hring (.stopped rfl rfl) ?_ ?_ (by simp))
    · intro hle next time ring w hnext htime htook
      refine Mut.wp_bind (wp_checkpointHighWater _ htook.represents (fun _ _ _ => trivial) ?_ ?_
        (by simp))
      · exact fun hsome => absurd hsome hopen
      · intro _ hne hlt time' e htime'
        have hlt : ring.capacity < 56 := hlt
        have htime' : time'.toNat = time.toNat + 1 := htime'
        have := next.toNat_lt
        have := time'.toNat_lt
        rw [htook.capacity] at hlt
        rcases hroom with hover | hover | ⟨-, hempty | hfits | hover⟩
        · omega
        · omega
        · exact absurd hempty hne
        · omega
        · omega
    · intro hlt next time e hnext htime
      have := next.toNat_lt
      have := time.toNat_lt
      rw [lenOf_nil] at hlt
      rcases hroom with hover | hover | ⟨hfits, -⟩ <;> omega
  | emitDefinitionChanged =>
    refine wp_takeTransition producer (fun _ => .refl _) fun pending hopen => ?_
    by_cases hemitted : pending.definitionChangedEmitted
    · rw [if_pos hemitted]
      refine Mut.wp_bind (Mut.wp_modify (Mut.wp_throw ?_))
      exact (put_taken hopen).symm ▸ .refl producer
    rw [if_neg hemitted]
    refine Mut.wp_bind (wp_emitSystem { producer with transition := none } hring
      (.changed pending rfl rfl) (fun _ _ _ _ _ _ _ _ => trivial) ?_ (by simp))
    intro hlt next time e hnext htime
    have hlt : producer.ring.capacity < 80 := lenOf_changedSlots pending ▸ hlt
    have hnext : next.toNat = producer.systemSeq.toNat + 1 := hnext
    have htime : time.toNat = producer.sourceTime.toNat + 1 := htime
    have := next.toNat_lt
    have := time.toNat_lt
    rcases hroom with hfits | hdone | hover | hover
    · omega
    · exact absurd (hdone pending hopen) hemitted
    · omega
    · omega
  | finishDefinitionChange =>
    refine wp_takeTransition producer (fun _ => .refl _) fun pending hopen => ?_
    by_cases hemitted : pending.definitionChangedEmitted
    swap
    · rw [if_pos (by simpa using hemitted)]
      refine Mut.wp_bind (Mut.wp_modify (Mut.wp_throw ?_))
      exact (put_taken hopen).symm ▸ .refl producer
    rw [if_neg (by simpa using hemitted)]
    refine Mut.wp_bind (Mut.wp_modify (Mut.wp_bind (wp_emitSystem
      { producer with transition := none, epochId := pending.epochId } hring
      (.started 0 rfl rfl) (fun _ _ _ _ _ _ _ _ => trivial) ?_ (by simp))))
    intro hlt
    have hlt : producer.ring.capacity < 52 := lenOf_startedSlots 0 ▸ hlt
    have := h.announced pending hopen hemitted
    omega
  | finishColdStart =>
    refine wp_takeTransition producer (fun _ => .refl _) fun pending hopen => ?_
    by_cases hemitted : pending.definitionChangedEmitted
    swap
    · rw [if_pos (by simpa using hemitted)]
      refine Mut.wp_bind (Mut.wp_modify (Mut.wp_throw ?_))
      exact (put_taken hopen).symm ▸ .refl producer
    rw [if_neg (by simpa using hemitted)]
    refine Mut.wp_bind (Mut.wp_get (Mut.wp_bind (Mut.wp_checkedAdd (fun runId _ => ?_) trivial)))
    refine Mut.wp_bind (Mut.wp_modify (Mut.wp_bind (wp_emitSystem { producer with
      transition := none
      runId := runId
      epochId := pending.epochId
      systemSeq := 0
      sourceSeq := ∅ } hring (.started 1 rfl rfl) (fun _ _ _ _ _ _ _ _ => trivial) ?_ (by simp))))
    intro hlt
    have hlt : producer.ring.capacity < 52 := lenOf_startedSlots 1 ▸ hlt
    have := h.announced pending hopen hemitted
    omega

/-- A counter that has moved on. -/
lemma not_unchanged_of_systemSeq {producer' : EpochProducer} {next : UInt64}
    (hseq : producer'.systemSeq = next) (hnext : next.toNat = producer.systemSeq.toNat + 1) :
    ¬Unchanged producer producer' := by
  intro hsame
  rw [← hseq, hsame.systemSeq] at hnext
  omega

/-- The ring rejects the first checkpoint. -/
lemma checkpointHighWater_reject (hring : producer.ring.Represents producer.written)
    (hopen : producer.transition = none) (hne : producer.sourceSeq.toList ≠ [])
    (hlt : producer.ring.capacity < 56) (htime : producer.sourceTime.toNat + 1 < 2 ^ 64) :
    checkpointHighWater.wp (fun _ _ => False)
      (fun _ producer' => producer'.systemSeq = producer.systemSeq) (fun _ => False) producer := by
  refine Mut.wp_bind (Mut.wp_get ?_)
  rw [if_neg (by simp [hopen])]
  cases hentries : producer.sourceSeq.toList with
  | nil => exact absurd hentries hne
  | cons entry entries =>
    refine Mut.wp_bind (wp_stamp producer (fun time _ => ?_) fun hover => absurd hover (by omega))
    refine Mut.wp_bind (wp_writeRecord_any { producer with sourceTime := time } hring
      (.highWater rfl rfl) (fun hle => ?_) fun _ _ => rfl)
    have hle : 56 ≤ producer.ring.capacity := lenOf_highWaterSlots entry.2 ▸ hle
    omega

/-- A call that has no room fails, and has changed a counter. -/
lemma Sized.not_atomic (h : producer.Sized) {call : EpochCall} (hroom : ¬call.HasRoom producer) :
    ¬producer.Atomic call := by
  have hring := h.represents
  cases call with
  | emitData sourceId eventTypeId =>
    simp only [EpochCall.HasRoom, not_or, Nat.not_le] at hroom
    obtain ⟨hopen, hlen, hcount, htime⟩ := hroom
    refine not_atomic_of_wp (wp_emitData producer hring ?_ ?_ ?_ ?_)
    · intro _ hle
      rw [lenOf_dataSlots] at hle
      omega
    · exact fun hsome => absurd hsome hopen
    · intro _ _ next time e hnext _ hsame
      have hseq := congrArg (fun m => (m.getD sourceId 0).toNat) hsame.sourceSeq
      simp only [Std.TreeMap.getD_insert_self] at hseq
      omega
    · intro _ hover
      omega
  | checkpointHighWater => exact absurd trivial hroom
  | beginEpochTransition defHashOld defHashNew epochId =>
    simp only [EpochCall.HasRoom, not_or, not_and, Nat.not_le] at hroom
    obtain ⟨hopen, hcount, htime, hfits⟩ := hroom
    have hnone : producer.transition = none := by simpa using hopen
    refine not_atomic_of_wp (Mut.wp_bind (Mut.wp_get ?_))
    rw [if_neg hopen]
    refine Mut.wp_bind (wp_emitSystem producer hring (.stopped rfl rfl) ?_ ?_ ?_)
    · intro hle next time ring w hnext htime' htook
      obtain ⟨hne, hlt, htime''⟩ := hfits hle
      refine Mut.wp_bind (Mut.wp_mono (checkpointHighWater_reject htook.represents hnone hne ?_ ?_)
        (fun _ _ => False.elim) ?_ fun _ => False.elim)
      · exact htook.capacity ▸ hlt
      · change time.toNat + 1 < 2 ^ 64
        omega
      · exact fun _ _ hseq => not_unchanged_of_systemSeq hseq hnext
    · exact fun _ next time e hnext _ => not_unchanged_of_systemSeq rfl hnext
    · intro hover
      omega
  | emitDefinitionChanged =>
    simp only [EpochCall.HasRoom, not_or, not_forall, Nat.not_le] at hroom
    obtain ⟨hlt, ⟨pending, hopen, hemitted⟩, hcount, htime⟩ := hroom
    refine not_atomic_of_wp (wp_takeTransition producer (by simp [hopen]) fun pending' hopen' => ?_)
    obtain rfl : pending' = pending := Option.some.inj (hopen'.symm.trans hopen)
    rw [if_neg hemitted]
    refine Mut.wp_bind (wp_emitSystem { producer with transition := none } hring
      (.changed pending' rfl rfl) ?_ ?_ ?_)
    · intro hle
      have hle : 80 ≤ producer.ring.capacity := lenOf_changedSlots pending' ▸ hle
      omega
    · exact fun _ next time e hnext _ => not_unchanged_of_systemSeq rfl hnext
    · intro hover
      have hover : 2 ^ 64 ≤ producer.systemSeq.toNat + 1 ∨
        2 ^ 64 ≤ producer.sourceTime.toNat + 1 := hover
      omega
  | finishDefinitionChange => exact absurd trivial hroom
  | finishColdStart => exact absurd trivial hroom

end EpochProducer

/-- **Failure atomicity.** In every state reached by a run of calls on a new producer over a ring
of any capacity, a call that fails leaves the ring, the counters, the run, the epoch and the
transition as they were if and only if it has room. -/
theorem failed_call_changes_nothing_iff {capacity : ℕ} {runId epochId : UInt64}
    {producer : EpochProducer} (hnew : EpochProducer.new capacity runId epochId = .ok producer)
    (calls : List EpochCall) (call : EpochCall) :
    (∀ e producer', call.run (producer.runCalls calls) = (.err e, producer') →
      (producer.runCalls calls).Unchanged producer') ↔ call.HasRoom (producer.runCalls calls) := by
  have h := (EpochProducer.sized_new hnew).runCalls calls
  constructor
  · intro hatomic
    by_contra hroom
    exact h.not_atomic hroom hatomic
  · exact h.atomic

/-- A data record rejected while a transition is open changes nothing. -/
theorem failed_call_changes_nothing_iff_guarded :
    ∃ producer, EpochProducer.new 200 1 1 = .ok producer ∧
      ∀ e producer', (EpochCall.emitData 7 EVENT_MESSAGE).run (producer.runCalls
          [.emitData 7 EVENT_MESSAGE,
            .beginEpochTransition (.replicate 8 1) (.replicate 8 2) 2]) = (.err e, producer') →
        (producer.runCalls [.emitData 7 EVENT_MESSAGE,
          .beginEpochTransition (.replicate 8 1) (.replicate 8 2) 2]).Unchanged producer' := by
  obtain ⟨producer, hnew⟩ : ∃ producer, EpochProducer.new 200 1 1 = .ok producer := ⟨_, rfl⟩
  refine ⟨producer, hnew, (failed_call_changes_nothing_iff hnew _ _).mpr (Or.inl ?_)⟩
  obtain rfl := Outcome.ok.inj hnew
  decide +kernel

/-- In a pool of 60 bytes a transition begins, but its `DefinitionChanged` record does not fit:
the call fails, and the transition is no longer open. -/
theorem failed_call_drops_transition :
    ∃ producer e producer', EpochProducer.new 60 1 1 = .ok producer ∧
      EpochCall.emitDefinitionChanged.run (producer.runCalls
        [.beginEpochTransition (.replicate 8 1) (.replicate 8 2) 2]) = (.err e, producer') ∧
      (producer.runCalls
        [.beginEpochTransition (.replicate 8 1) (.replicate 8 2) 2]).transition.isSome ∧
      producer'.transition = none ∧
      ¬(producer.runCalls [.beginEpochTransition (.replicate 8 1) (.replicate 8 2) 2]).Unchanged
        producer' := by
  obtain ⟨producer, hnew⟩ : ∃ producer, EpochProducer.new 60 1 1 = .ok producer := ⟨_, rfl⟩
  set begun := producer.runCalls [.beginEpochTransition (.replicate 8 1) (.replicate 8 2) 2]
    with hbegun
  have hopen : begun.transition.isSome := by
    obtain rfl := Outcome.ok.inj hnew
    decide +kernel
  obtain ⟨hfailed, hdropped⟩ : (EpochCall.emitDefinitionChanged.run begun).1.isErr = true ∧
      (EpochCall.emitDefinitionChanged.run begun).2.transition = none := by
    obtain rfl := Outcome.ok.inj hnew
    decide +kernel
  obtain ⟨e, herr⟩ := Outcome.isErr_iff.mp hfailed
  refine ⟨producer, e, _, hnew, Prod.ext herr rfl, hopen, hdropped, fun hsame => ?_⟩
  rw [hsame.transition] at hdropped
  rw [hdropped] at hopen
  cases hopen

end OpenOT
