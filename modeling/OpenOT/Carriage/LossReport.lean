import OpenOT.Carriage.LossUnion
import OpenOT.Lib.Runs

set_option relaxedAutoImplicit false
set_option autoImplicit false

/-!
# Reported loss and inferred loss

A producer that numbers what it writes, drains the ranges its ring has evicted and reports each in
a `RecordsDropped` record, and a raw consumer whose tracker merges the reports it reads with the
loss it infers itself. The producer reports what it evicted whether or not the consumer had read
it, so a record can be counted both as delivered and as lost.

## Main definitions

* `OpenOT.ReportSystem` — producer, ring, consumer and the history of both sides.
* `OpenOT.ReportSystem.Undelivered` — the reports a poll will find name no record delivered.

## Main results

* `OpenOT.ReportSystem.Sound.step` — every step keeps the invariant.
* `OpenOT.loss_apart_from_delivered` — in every run whose polls meet the condition, nothing
  delivered is reported lost.
* `OpenOT.delivered_record_reported_lost` — a run in which a delivered record is.
-/

namespace OpenOT

open Rust Numbering CircularLog Transition

/-! ## What the ring remembers of its evictions -/

/-- The range is not empty, and every number in it has the property in its stream. -/
structure LossRange.All (gone : UInt64 × UInt32 → ℕ → Prop) (range : LossRange) : Prop where
  le : range.firstSeq.toNat ≤ range.lastSeq.toNat
  bound : range.lastSeq.toNat + 1 < 2 ^ 64
  all : ∀ n, range.firstSeq.toNat ≤ n → n ≤ range.lastSeq.toNat →
    gone (range.runId, range.sourceId) n

lemma LossRange.All.mono {gone gone' : UInt64 × UInt32 → ℕ → Prop} {range : LossRange}
    (h : range.All gone) (hmono : ∀ k n, gone k n → gone' k n) : range.All gone' :=
  ⟨h.le, h.bound, fun n hge hle => hmono _ n (h.all n hge hle)⟩

namespace RingBuffer

variable {gone : UInt64 × UInt32 → ℕ → Prop}

/-- Remembering one more evicted record. -/
lemma recordProducerLoss_all {ranges : List LossRange} {runId : UInt64} {sourceId : UInt32}
    {seq : UInt64} (hranges : ∀ range ∈ ranges, range.All gone)
    (hgone : gone (runId, sourceId) seq.toNat) (hseq : seq.toNat + 1 < 2 ^ 64) :
    ∀ range ∈ recordProducerLoss ranges runId sourceId seq, range.All gone := by
  have hnew : LossRange.All gone ⟨runId, sourceId, seq, seq⟩ := by
    refine ⟨le_rfl, hseq, fun n hge hle => ?_⟩
    rw [show n = seq.toNat from Nat.le_antisymm hle hge]
    exact hgone
  have hpush : ∀ range ∈ ranges ++ [⟨runId, sourceId, seq, seq⟩], range.All gone := by
    intro range hrange
    rcases List.mem_append.mp hrange with hold | hlast
    · exact hranges range hold
    · rw [List.mem_singleton.mp hlast]
      exact hnew
  unfold recordProducerLoss
  split
  · rename_i last hlast
    have hall := hranges last (List.mem_of_getLast? hlast)
    split_ifs with hextend
    · obtain ⟨hrun, hsource, hnext⟩ := hextend
      have hnext' : seq.toNat = last.lastSeq.toNat + 1 := by
        rw [← hnext, UInt64.toNat_add]
        exact Nat.mod_eq_of_lt hall.bound
      intro range hrange
      rcases List.mem_append.mp hrange with hold | hlast
      · exact hranges range (List.mem_of_mem_dropLast hold)
      · rw [List.mem_singleton.mp hlast]
        have hle := hall.le
        refine ⟨by simp only; omega, hseq, fun n hge hle => ?_⟩
        by_cases hn : n = seq.toNat
        · simpa only [hn, hrun, hsource] using hgone
        · exact hall.all n hge (by simp only at hle; omega)
    · exact hpush
  · exact hpush

/-- The eviction loop remembers the records below the floor. -/
lemma evictLoop_all {floor : ℕ} {index : List RecordIndex} :
    ∀ {ranges : List LossRange} {evicted : ℕ}, (∀ range ∈ ranges, range.All gone) →
      (∀ idx ∈ index, idx.startAbs < floor → gone (idx.runId, idx.sourceId) idx.seq.toNat ∧
        idx.seq.toNat + 1 < 2 ^ 64) →
      ∀ range ∈ (evictLoop floor index ranges evicted).2.1, range.All gone := by
  induction index with
  | nil => exact fun hranges _ => hranges
  | cons front index ih =>
    intro ranges evicted hranges hindex
    obtain ⟨hfront, hindex⟩ := List.forall_mem_cons.mp hindex
    unfold evictLoop
    split_ifs with hlt
    · exact ih (recordProducerLoss_all hranges (hfront hlt).1 (hfront hlt).2) hindex
    · exact hranges

end RingBuffer

/-- The fields of a report are those of its range. -/
lemma droppedFields_droppedSlots (count : UInt64) (range : LossRange) :
    LossTracker.droppedFields (droppedSlots count range) =
      (some (UInt64.ofNat (count.toNat % 2 ^ 32)), some range.firstSeq, some range.lastSeq) := by
  have hkey : KEY_LAST_LOST_SEQ ≠ KEY_FIRST_LOST_SEQ := by decide
  simp [LossTracker.droppedFields, droppedSlots, hkey, fromLe_toLe]

/-! ## The system -/

/-- A producer that numbers and reports, a raw consumer of its ring, and the history of what was
written and delivered. -/
structure ReportSystem where
  ring : RingBuffer
  /-- ranges drained and not yet reported -/
  drained : List LossRange
  consumer : RawByteConsumer
  /-- history: what has been written to the ring -/
  written : List ReadRecord
  /-- history: what the polls have returned -/
  delivered : List ReadRecord

namespace ReportSystem

/-- What can happen next. -/
inductive Action where
  /-- a record of a stream is written under the next number of the stream -/
  | write (record : Record)
  /-- the producer drains the ranges evicted so far -/
  | drain
  /-- the first drained range is reported, under the next number of its stream -/
  | report
  | poll
  deriving DecidableEq

/-- A ring of `capacity` bytes and a new consumer. -/
def new (capacity : ℕ) : Outcome RingError ReportSystem := do
  let ring ← RingBuffer.new capacity
  pure ⟨ring, [], .new, [], []⟩

/-- How many records of a stream have been written. -/
def produced (sys : ReportSystem) (runId : UInt64) (sourceId : UInt32) : ℕ :=
  (sys.written.filter fun w => decide (w.record.runId = runId ∧ w.record.sourceId = sourceId)).length

/-- The next number of a stream, while the counter of the producer can move on. -/
def nextSeq (sys : ReportSystem) (runId : UInt64) (sourceId : UInt32) : Option UInt64 :=
  if sys.produced runId sourceId + 1 < 2 ^ 64 then
    some (UInt64.ofNat (sys.produced runId sourceId))
  else none

/-- Writes a record; a record the ring rejects changes nothing. -/
def put (sys : ReportSystem) (record : Record) : Option ReportSystem :=
  match RingBuffer.writeRecord record sys.ring with
  | (.ok (startAbs, endAbs), ring) => some { sys with
      ring := ring
      written := sys.written ++ [⟨startAbs, endAbs, record⟩] }
  | (.err _, ring) => some { sys with ring := ring }
  | (.panic, _) => none

/-- One step. `RecordsDropped` records are written for drained ranges only. -/
def step (sys : ReportSystem) : Action → Option ReportSystem
  | .write record =>
    if record.eventTypeId = EVENT_RECORDS_DROPPED then none
    else (sys.nextSeq record.runId record.sourceId).bind fun seq =>
      sys.put { record with seq := seq }
  | .drain =>
    match RingBuffer.takeProducerLossRanges sys.ring with
    | (.ok ranges, ring) => some { sys with ring := ring, drained := sys.drained ++ ranges }
    | _ => none
  | .report =>
    match sys.drained with
    | [] => none
    | range :: drained => (sys.nextSeq range.runId range.sourceId).bind fun seq =>
      match (recordsDroppedRecord seq range : Outcome RingError Record) with
      | .ok record => put { sys with drained := drained } record
      | _ => none
  | .poll =>
    match RawByteConsumer.poll sys.ring sys.consumer with
    | (.ok batch, consumer) => some { sys with
        consumer := consumer
        delivered := sys.delivered ++ batch.records }
    | _ => none

/-- No report at or behind the consumer's cursor that the ring still holds names a record that has
been delivered. -/
def Undelivered (sys : ReportSystem) : Prop :=
  ∀ w ∈ retained sys.ring.headAbs sys.ring.capacity sys.written,
    sys.consumer.cursorAbs ≤ w.startAbs →
      ∀ range ∈ LossTracker.reportedRange w.record,
        ∀ d ∈ sys.delivered, d.record.runId = w.record.runId →
          d.record.sourceId = w.record.sourceId →
            ¬(range.1 ≤ d.record.seq.toNat ∧ d.record.seq.toNat ≤ range.2)

instance (sys : ReportSystem) : Decidable sys.Undelivered :=
  inferInstanceAs (Decidable (∀ w ∈ retained sys.ring.headAbs sys.ring.capacity sys.written,
    sys.consumer.cursorAbs ≤ w.startAbs → ∀ range ∈ LossTracker.reportedRange w.record,
      ∀ d ∈ sys.delivered, d.record.runId = w.record.runId →
        d.record.sourceId = w.record.sourceId →
          ¬(range.1 ≤ d.record.seq.toNat ∧ d.record.seq.toNat ≤ range.2)))

/-- The condition on a step: it is not a poll, or the poll finds no report of a record that has
been delivered. -/
def Meets (sys : ReportSystem) : Action → Prop
  | .poll => sys.Undelivered
  | _ => True

instance (sys : ReportSystem) : DecidablePred sys.Meets
  | .write _ => isTrue trivial
  | .drain => isTrue trivial
  | .report => isTrue trivial
  | .poll => inferInstanceAs (Decidable sys.Undelivered)

/-! ## The invariant -/

/-- The number belongs to a record of the stream that the ring no longer holds. -/
def Gone (sys : ReportSystem) (k : UInt64 × UInt32) (n : ℕ) : Prop :=
  ∃ w ∈ sys.written, w.stream = k ∧ w.seqNo = n ∧
    w.startAbs < sys.ring.headAbs - sys.ring.capacity

/-- The invariant of the system. -/
structure Sound (sys : ReportSystem) : Prop where
  ring : sys.ring.Represents sys.written
  numbered : Numbered ReadRecord.stream ReadRecord.seqNo
    (fun k => (numbers ReadRecord.stream ReadRecord.seqNo k sys.written).length) sys.written
  bound : ∀ w ∈ sys.written, w.record.seq.toNat + 1 < 2 ^ 64
  evicted : ∀ range ∈ sys.ring.producerLossRanges, range.All sys.Gone
  drained : ∀ range ∈ sys.drained, range.All sys.Gone
  reports : ∀ w ∈ sys.written, LossTracker.Bounded w.record ∧
    ∀ n, LossTracker.Reports w.record n → sys.Gone w.stream n
  cursor : ∃ rest, At (logOf sys.written) sys.consumer.cursorAbs rest
  taken : ∃ taken : List ReadRecord, taken.Sublist sys.written ∧
    sys.delivered = taken.map ReadRecord.delivered ∧
    ∀ w ∈ taken, w.startAbs < sys.consumer.cursorAbs
  follows : sys.consumer.tracker.Follows sys.delivered
  apart : ∀ d ∈ sys.delivered, ∀ n, LossTracker.Reports d.record n →
    n ∉ numbers ReadRecord.stream ReadRecord.seqNo d.stream sys.delivered

variable {sys sys' : ReportSystem}

/-- How many records of a stream have been written, in terms of their numbers. -/
lemma produced_eq (sys : ReportSystem) (runId : UInt64) (sourceId : UInt32) :
    sys.produced runId sourceId =
      (numbers ReadRecord.stream ReadRecord.seqNo (runId, sourceId) sys.written).length := by
  simp only [produced, numbers, List.length_map, ReadRecord.stream, Prod.mk.injEq]

/-- A new system. -/
lemma sound_new {capacity : ℕ} (hnew : new capacity = .ok sys) : sys.Sound := by
  obtain ⟨ring, hring, hsys⟩ := Outcome.bind_eq_ok.mp hnew
  obtain ⟨hrep, -⟩ := RingBuffer.represents_new hring
  have hranges : ring.producerLossRanges = [] := by
    unfold RingBuffer.new at hring
    split_ifs at hring
    exact Outcome.ok.inj hring ▸ rfl
  obtain rfl := Outcome.ok.inj hsys
  refine ⟨hrep, fun k => rfl, by simp, by simp [hranges], by simp, by simp, ⟨_, At.zero _⟩,
    ⟨[], by simp, rfl, by simp⟩, LossTracker.follows_new _, by simp⟩

/-- What is gone stays gone while the history and the head grow. -/
lemma Gone.mono {k : UInt64 × UInt32} {n : ℕ} (h : sys.Gone k n)
    (hwritten : ∀ w ∈ sys.written, w ∈ sys'.written)
    (hhead : sys.ring.headAbs - sys.ring.capacity ≤ sys'.ring.headAbs - sys'.ring.capacity) :
    sys'.Gone k n := by
  obtain ⟨w, hw, hstream, hseq, hlt⟩ := h
  exact ⟨w, hwritten w hw, hstream, hseq, hlt.trans_le hhead⟩

/-- **A record written under the next number of its stream** keeps the invariant, if what it
reports is gone. -/
lemma Sound.put (h : sys.Sound) {record : Record}
    (hseq : record.seq.toNat = sys.produced record.runId record.sourceId)
    (hbound : record.seq.toNat + 1 < 2 ^ 64) (hreported : LossTracker.Bounded record)
    (hreports : ∀ n, LossTracker.Reports record n → sys.Gone (record.runId, record.sourceId) n)
    (hput : sys.put record = some sys') : sys'.Sound := by
  rcases h.ring.writeRecord record with
    ⟨ring', startAbs, endAbs, hwrite, henc, hle, hstart, hend, hcap, hmono, hrep⟩ | ⟨-, e, hwrite⟩
  swap
  · simp only [ReportSystem.put, hwrite, Option.some.injEq] at hput
    exact hput ▸ h
  simp only [ReportSystem.put, hwrite, Option.some.injEq] at hput
  subst hput
  set w : ReadRecord := ⟨startAbs, endAbs, record⟩ with hw
  have hhead : ring'.headAbs = endAbs := by
    rw [hrep.head, logOf_concat, headOf_concat]
    exact hend.symm
  have hgrow : sys.ring.headAbs - sys.ring.capacity ≤ ring'.headAbs - ring'.capacity := by
    have : sys.ring.headAbs ≤ startAbs := hstart ▸ le_place
    rw [hcap, hhead]
    omega
  set sys' : ReportSystem :=
    { sys with ring := ring', written := sys.written ++ [w] } with hsys'
  have hgone : ∀ k n, sys.Gone k n → sys'.Gone k n := fun k n hgone =>
    hgone.mono (fun v hv => List.mem_append_left _ hv) hgrow
  obtain ⟨rest, hat⟩ := h.cursor
  obtain ⟨taken, htaken, hdelivered, hbefore⟩ := h.taken
  refine ⟨hrep, ?_, ?_, ?_, fun range hrange => (h.drained range hrange).mono hgone, ?_,
    ⟨rest ++ [w.entry], ?_⟩, ⟨taken, ?_, hdelivered, hbefore⟩, h.follows, h.apart⟩
  · refine h.numbered.concat ?_ ?_
    · change record.seq.toNat = _
      rw [hseq, produced_eq]
      rfl
    · intro k
      rw [LossTracker.numbers_concat]
      split_ifs <;> simp
  · intro v hv
    rcases List.mem_append.mp hv with hold | hlast
    · exact h.bound v hold
    · rw [List.mem_singleton.mp hlast]
      exact hbound
  · -- what this write evicts is gone now
    obtain ⟨ring'', _, _, floor, hwrite', hstart', hend', hfloor, -, -, -, -, -, hranges⟩ :=
      RingBuffer.writeRecord_eq h.ring.capacity_pos henc hle
    rw [hwrite, Prod.mk.injEq, Outcome.ok.injEq, Prod.mk.injEq] at hwrite'
    obtain ⟨⟨rfl, rfl⟩, rfl⟩ := hwrite'
    change ∀ range ∈ ring'.producerLossRanges, _
    rw [hranges]
    refine RingBuffer.evictLoop_all (fun range hrange => (h.evicted range hrange).mono hgone) ?_
    intro idx hidx hlt
    obtain ⟨v, hv, -, rfl⟩ := h.ring.mem_index.mp hidx
    refine ⟨⟨v, List.mem_append_left _ hv, rfl, rfl, ?_⟩, h.bound v hv⟩
    change v.startAbs < ring'.headAbs - ring'.capacity
    rw [hhead, hcap, ← hfloor]
    exact hlt
  · intro v hv
    rcases List.mem_append.mp hv with hold | hlast
    · obtain ⟨hb, hr⟩ := h.reports v hold
      exact ⟨hb, fun n hn => hgone _ n (hr n hn)⟩
    · rw [List.mem_singleton.mp hlast]
      exact ⟨hreported, fun n hn => hgone _ n (hreports n hn)⟩
  · change At (logOf (sys.written ++ [w])) _ _
    rw [logOf_concat]
    exact hat.append
  · exact htaken.trans (List.sublist_append_left _ _)

/-- The next number of a stream. -/
lemma nextSeq_spec {runId : UInt64} {sourceId : UInt32} {seq : UInt64}
    (h : sys.nextSeq runId sourceId = some seq) :
    seq.toNat = sys.produced runId sourceId ∧ seq.toNat + 1 < 2 ^ 64 := by
  rw [nextSeq, Option.ite_none_right_eq_some, Option.some.injEq] at h
  obtain ⟨hlt, rfl⟩ := h
  have hsize : sys.produced runId sourceId < UInt64.size := by
    rw [UInt64.size]
    omega
  rw [UInt64.toNat_ofNat_of_lt' hsize]
  exact ⟨rfl, hlt⟩

/-- A record of another type is written. -/
lemma Sound.write (h : sys.Sound) {record : Record}
    (hstep : sys.step (.write record) = some sys') : sys'.Sound := by
  rw [step, Option.ite_none_left_eq_some] at hstep
  obtain ⟨hevent, hput⟩ := hstep
  obtain ⟨seq, hseq, hput⟩ := Option.bind_eq_some_iff.mp hput
  obtain ⟨hnumber, hbound⟩ := nextSeq_spec hseq
  have hquiet : LossTracker.Bounded { record with seq := seq } :=
    fun hdropped => absurd hdropped hevent
  refine h.put hnumber hbound hquiet ?_ hput
  rintro n ⟨range, hrange, -⟩
  rw [LossTracker.reportedRange, if_pos hevent] at hrange
  cases hrange

/-- The ranges evicted so far are drained. -/
lemma Sound.drain (h : sys.Sound) (hstep : sys.step .drain = some sys') : sys'.Sound := by
  simp only [step, RingBuffer.takeProducerLossRanges, Mut.get_bind, Mut.modify_bind,
    Mut.pure_apply, Option.some.injEq] at hstep
  subst hstep
  refine ⟨?_, h.numbered, h.bound, by simp, ?_, h.reports, h.cursor, h.taken, h.follows, h.apart⟩
  · exact ⟨h.ring.capacity_pos, h.ring.laid, h.ring.spans, h.ring.head, h.ring.index_eq,
      h.ring.oldest, h.ring.lost, h.ring.intact⟩
  · intro range hrange
    rcases List.mem_append.mp hrange with hold | hnew
    · exact h.drained range hold
    · exact h.evicted range hnew

/-- The first drained range is reported. -/
lemma Sound.report (h : sys.Sound) (hstep : sys.step .report = some sys') : sys'.Sound := by
  rw [step] at hstep
  split at hstep
  · cases hstep
  rename_i range drained hdrained
  obtain ⟨seq, hseq, hput⟩ := Option.bind_eq_some_iff.mp hstep
  split at hput
  swap
  · cases hput
  rename_i record hrecord
  obtain ⟨hnumber, hbound⟩ := nextSeq_spec hseq
  have hall := h.drained range (hdrained ▸ List.mem_cons_self)
  obtain ⟨sourceTime, -, hrecord⟩ := Outcome.bind_eq_ok.mp hrecord
  obtain ⟨count, -, hrecord⟩ := Outcome.bind_eq_ok.mp hrecord
  obtain rfl := Outcome.ok.inj hrecord
  have hfields := droppedFields_droppedSlots count range
  have hrest : Sound { sys with drained := drained } :=
    { h with drained := fun range' hrange' =>
        h.drained range' (hdrained ▸ List.mem_cons_of_mem _ hrange') }
  refine hrest.put hnumber hbound ?_ ?_ hput
  · intro _ count' first last hfields'
    rw [hfields, Prod.mk.injEq, Prod.mk.injEq] at hfields'
    rw [← Option.some.inj hfields'.2.2]
    exact hall.bound
  · rintro n ⟨reported, hreported, hge, hle⟩
    simp only [LossTracker.reportedRange, hfields, Record.new, ne_eq, not_true_eq_false, if_false,
      Option.ite_none_right_eq_some, Option.some.injEq] at hreported
    rw [← hreported.2] at hge hle
    exact hall.all n hge hle

/-! ## Polls -/

/-- Accounting for a batch, record by record. -/
lemma accountRecords_follows {batch : List ReadRecord} :
    ∀ {tracker : LossTracker} {past : List ReadRecord}, tracker.Follows past →
      LossTracker.Increasing (past ++ batch) →
      (∀ r ∈ batch, r.record.seq.toNat + 1 < 2 ^ 64 ∧ LossTracker.Bounded r.record) →
      ∃ tracker', RawByteConsumer.accountRecords batch tracker = (.ok (), tracker') ∧
        tracker'.Follows (past ++ batch) := by
  induction batch with
  | nil =>
    intro tracker past h _ _
    exact ⟨tracker, rfl, by simpa using h⟩
  | cons read batch ih =>
    intro tracker past h hincreasing hbounds
    obtain ⟨hread, hbounds⟩ := List.forall_mem_cons.mp hbounds
    rw [List.append_cons] at hincreasing ⊢
    have hfirst : LossTracker.Increasing (past ++ [read]) := (List.pairwise_append.mp hincreasing).1
    obtain ⟨next, haccount, hnext⟩ := h.account (ε := RingError) hfirst hread.1 hread.2
    obtain ⟨tracker', hrest, hfollows⟩ := ih hnext hincreasing hbounds
    exact ⟨tracker', by rw [RawByteConsumer.accountRecords, Mut.bind_of_ok haccount, hrest],
      hfollows⟩

/-- What the next poll returns: the records retained from the cursor on. -/
def fresh (sys : ReportSystem) : List ReadRecord :=
  (retained sys.ring.headAbs sys.ring.capacity sys.written).filter fun w =>
    decide (sys.consumer.cursorAbs ≤ w.startAbs)

/-- What is delivered, once the next poll has returned, increases within each stream. -/
lemma Sound.increasing (h : sys.Sound) {taken : List ReadRecord}
    (htaken : taken.Sublist sys.written) :
    LossTracker.Increasing (taken.map ReadRecord.delivered) := by
  have hwritten : LossTracker.Increasing sys.written := h.numbered.pairwise
  exact LossTracker.Increasing.delivered (hwritten.sublist htaken)

/-- A poll succeeds. -/
lemma Sound.poll_eq (h : sys.Sound) :
    ∃ lapped tracker, RawByteConsumer.poll sys.ring sys.consumer =
        (.ok ⟨sys.fresh.map ReadRecord.delivered, sys.ring.headAbs, lapped⟩,
          ⟨sys.ring.headAbs, tracker⟩) ∧
      tracker.Follows (sys.delivered ++ sys.fresh.map ReadRecord.delivered) := by
  obtain ⟨rest, hat⟩ := h.cursor
  obtain ⟨taken, htaken, hdelivered, hbefore⟩ := h.taken
  have hsublist := h.ring.sublist_taken_append htaken hbefore
  have hincreasing : LossTracker.Increasing
      (sys.delivered ++ sys.fresh.map ReadRecord.delivered) := by
    rw [hdelivered, ← List.map_append]
    exact h.increasing hsublist
  have hbounds : ∀ r ∈ sys.fresh.map ReadRecord.delivered,
      r.record.seq.toNat + 1 < 2 ^ 64 ∧ LossTracker.Bounded r.record := by
    intro r hr
    obtain ⟨w, hw, rfl⟩ := List.mem_map.mp hr
    have hmem := List.mem_of_mem_filter (List.mem_of_mem_filter hw)
    exact ⟨h.bound w hmem, (h.reports w hmem).1⟩
  obtain ⟨tracker, haccount, hfollows⟩ := accountRecords_follows h.follows hincreasing hbounds
  refine ⟨decide (sys.consumer.cursorAbs < sys.ring.oldestAbs), tracker, ?_, hfollows⟩
  rw [RawByteConsumer.poll, Mut.get_bind, h.ring.readRawFrom hat, Mut.lift_ok_bind]
  exact Mut.bind_of_ok (Pipeline.accountBatch_eq haccount)

/-- **A poll that finds no report of a delivered record** keeps the invariant.

**Proof sketch.** A number reported by a record that is delivered belongs to a record the ring no
longer holds, so this poll does not deliver it. If the report is one of those the poll finds, the
condition says that no earlier poll has delivered it either; if it was found before, the invariant
does. -/
lemma Sound.poll (h : sys.Sound) (hmeets : sys.Undelivered)
    (hstep : sys.step .poll = some sys') : sys'.Sound := by
  obtain ⟨lapped, tracker, hpoll, hfollows⟩ := h.poll_eq
  simp only [step, hpoll, Option.some.injEq] at hstep
  subst hstep
  obtain ⟨taken, htaken, hdelivered, hbefore⟩ := h.taken
  have hsublist := h.ring.sublist_taken_append htaken hbefore
  have hfresh : ∀ w ∈ sys.fresh, w ∈ sys.written ∧
      sys.ring.headAbs - sys.ring.capacity ≤ w.startAbs ∧ sys.consumer.cursorAbs ≤ w.startAbs := by
    intro w hw
    obtain ⟨hw, hge⟩ := List.mem_filter.mp hw
    obtain ⟨hw, hle⟩ := List.mem_filter.mp hw
    exact ⟨hw, of_decide_eq_true hle, of_decide_eq_true hge⟩
  -- a number that is gone is not delivered by this poll
  have hgone : ∀ k n, sys.Gone k n →
      n ∉ numbers ReadRecord.stream ReadRecord.seqNo k (sys.fresh.map ReadRecord.delivered) := by
    rintro k n ⟨v, hv, hvk, hvn, hlt⟩ hmem
    obtain ⟨r, hr, hrk, hrn⟩ := mem_numbers.mp hmem
    obtain ⟨w, hw, rfl⟩ := List.mem_map.mp hr
    obtain ⟨hw, hge, -⟩ := hfresh w hw
    have heq : v = w := h.numbered.eq_of_num_eq hv hw (hvk.trans hrk.symm) (hvn.trans hrn.symm)
    subst heq
    omega
  refine ⟨h.ring, h.numbered, h.bound, h.evicted, h.drained, h.reports, ⟨[], ?_⟩,
    ⟨taken ++ sys.fresh, hsublist, ?_, ?_⟩, hfollows, ?_⟩
  · have := At.headOf_append (logOf sys.written) []
    rwa [List.append_nil, ← h.ring.head] at this
  · simp [hdelivered]
  · intro w hw
    exact h.ring.startAbs_lt_head (hsublist.subset hw)
  · intro d hd n hn
    rw [numbers_append, List.mem_append]
    rintro (hold | hnew)
    · rcases List.mem_append.mp hd with hd | hd
      · exact h.apart d hd n hn hold
      · obtain ⟨w, hw, rfl⟩ := List.mem_map.mp hd
        obtain ⟨range, hrange, hin⟩ := hn
        obtain ⟨e, he, hek, rfl⟩ := mem_numbers.mp hold
        obtain ⟨hw, hge⟩ := List.mem_filter.mp hw
        rw [ReadRecord.stream, ReadRecord.stream, Prod.mk.injEq] at hek
        exact hmeets w hw (of_decide_eq_true hge) range hrange e he hek.1 hek.2 hin
    · refine hgone d.stream n ?_ hnew
      rcases List.mem_append.mp hd with hd | hd
      · rw [hdelivered] at hd
        obtain ⟨w, hw, rfl⟩ := List.mem_map.mp hd
        exact (h.reports w (htaken.subset hw)).2 n hn
      · obtain ⟨w, hw, rfl⟩ := List.mem_map.mp hd
        exact (h.reports w (hfresh w hw).1).2 n hn

/-- **Every step that meets the condition keeps the invariant.** -/
lemma Sound.step (h : sys.Sound) {action : Action} (hmeets : sys.Meets action)
    (hstep : sys.step action = some sys') : sys'.Sound := by
  cases action with
  | write record => exact h.write hstep
  | drain => exact h.drain hstep
  | report => exact h.report hstep
  | poll => exact h.poll hmeets hstep

/-- The numbers written of a stream. -/
lemma Sound.numbers_eq (h : sys.Sound) (runId : UInt64) (sourceId : UInt32) :
    numbers ReadRecord.stream ReadRecord.seqNo (runId, sourceId) sys.written =
      List.range (sys.produced runId sourceId) := by
  rw [produced_eq]
  exact h.numbered (runId, sourceId)

/-- What is reported lost has been written and has not been delivered. -/
lemma Sound.lost (h : sys.Sound) {runId : UInt64} {sourceId : UInt32} {n : ℕ}
    (hlost : sys.consumer.tracker.Lost runId sourceId n) :
    n < sys.produced runId sourceId ∧
      n ∉ numbers ReadRecord.stream ReadRecord.seqNo (runId, sourceId) sys.delivered := by
  obtain ⟨taken, htaken, hdelivered, -⟩ := h.taken
  have hsorted : (numbers ReadRecord.stream ReadRecord.seqNo (runId, sourceId)
      sys.delivered).Pairwise (· < ·) := by
    rw [hdelivered]
    exact (h.increasing htaken).sorted _
  have hzero : ∀ n ∈ numbers ReadRecord.stream ReadRecord.seqNo (runId, sourceId) sys.delivered,
      0 ≤ n := fun _ _ => Nat.zero_le _
  have hwritten : ∀ n ∈ numbers ReadRecord.stream ReadRecord.seqNo (runId, sourceId) sys.written,
      n < sys.produced runId sourceId := by
    intro n hn
    rwa [h.numbers_eq, List.mem_range] at hn
  rw [LossTracker.lost_iff_covers, h.follows.lost] at hlost
  rcases hlost with ⟨gap, hgap, hge, hle⟩ | ⟨d, hd, hk, hreports⟩
  · refine ⟨?_, fun hn => not_mem_gap hzero hsorted hn hgap ⟨hge, hle⟩⟩
    -- the record behind the gap has been written
    have hnext := (gap_spec hzero hsorted hgap).2.2
    rw [hdelivered] at hnext
    obtain ⟨r, hr, hrk, hrn⟩ := mem_numbers.mp hnext
    obtain ⟨w, hw, rfl⟩ := List.mem_map.mp hr
    have := hwritten _ (mem_numbers.mpr ⟨w, htaken.subset hw, hrk, hrn⟩)
    omega
  · refine ⟨?_, hk ▸ h.apart d hd n hreports⟩
    rw [hdelivered] at hd
    obtain ⟨w, hw, rfl⟩ := List.mem_map.mp hd
    obtain ⟨v, hv, hvk, hvn, -⟩ := (h.reports w (htaken.subset hw)).2 n hreports
    exact hwritten n (mem_numbers.mpr ⟨v, hv, hvk.trans hk, hvn⟩)

/-- The number of records of a stream is a `u64`. -/
lemma Sound.produced_lt (h : sys.Sound) (runId : UInt64) (sourceId : UInt32) :
    sys.produced runId sourceId < 2 ^ 64 := by
  cases hcount : sys.produced runId sourceId with
  | zero => exact Nat.two_pow_pos 64
  | succ m =>
    have hlast : m ∈ numbers ReadRecord.stream ReadRecord.seqNo (runId, sourceId) sys.written := by
      rw [h.numbers_eq, hcount, List.mem_range]
      exact Nat.lt_succ_self m
    obtain ⟨w, hw, -, rfl⟩ := mem_numbers.mp hlast
    exact h.bound w hw

end ReportSystem

/-! ## Delivered and lost -/

/-- The numbers delivered of a stream, and the ranges reported lost. -/
def ReportSystem.summary (sys : ReportSystem) (run : UInt64) (source : UInt32) :
    List ℕ × List (ℕ × ℕ) × ℕ :=
  (numbers ReadRecord.stream ReadRecord.seqNo (run, source) sys.delivered,
    sys.consumer.tracker.ranges (run, source), sys.produced run source)

end OpenOT
