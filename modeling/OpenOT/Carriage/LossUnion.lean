import OpenOT.Carriage.LossIntervals

set_option relaxedAutoImplicit false
set_option autoImplicit false

/-!
# The interval union of the tracker

The events a loss tracker keeps represent, stream by stream, a set of numbers; inserting an event
adds its numbers to it. A tracker that has been fed records of increasing numbers, among them
`RecordsDropped` records, reports lost what these records skip and what they report.

## Main definitions

* `OpenOT.LossTracker.Merged` — the events never touch within a stream.
* `OpenOT.LossTracker.Reports` — a record reports a number as dropped.
* `OpenOT.LossTracker.Follows` — the tracker has been fed some records.

## Main results

* `OpenOT.LossTracker.Merged.insert` — inserting an event is a union of sets.
* `OpenOT.LossTracker.Follows.account` — accounting for the next record of a stream.
* `OpenOT.LossTracker.Follows.lost_le` — the count of lost records.
-/

namespace OpenOT

open Rust Numbering

/-! ## The interval union refines sets of numbers -/

/-- An event whose fields agree: it is not empty, its count is the length of its range, and its
last number has a successor. -/
structure LossEvent.Valid (event : LossEvent) : Prop where
  le : event.firstSeq.toNat ≤ event.lastSeq.toNat
  bound : event.lastSeq.toNat + 1 < 2 ^ 64
  count : event.count.toNat = event.lastSeq.toNat - event.firstSeq.toNat + 1

lemma LossEvent.Valid.sized {event : LossEvent} (h : event.Valid) : event.Sized := ⟨h.le, h.count⟩

namespace LossTracker

variable {ε : Type} {tracker : LossTracker} {event : LossEvent}

/-- The tracker's events are valid, belong to its buffer, and never touch within a stream. -/
structure Merged (tracker : LossTracker) : Prop where
  buffer : ∀ e ∈ tracker.lossEvents, e.bufferId = tracker.bufferId
  valid : ∀ e ∈ tracker.lossEvents, e.Valid
  apart : ∀ k, Intervals.Apart (tracker.ranges k)

lemma Merged.tidy (h : tracker.Merged) : tracker.Tidy :=
  ⟨h.buffer, fun e he => (h.valid e he).sized, h.apart⟩

/-- **The union.** Adding an event adds its numbers to those of its stream and leaves the others.

**Proof sketch.** The number that no valid event has is not lost afterwards, so the union does not
panic; and the last number of an event that it leaves was lost before or is one of the new ones, so
that it has a successor as well. -/
lemma Merged.insert (h : tracker.Merged) (hvalid : event.Valid)
    (hbuffer : event.bufferId = tracker.bufferId) :
    ∃ events, (insertLossEvent event : Mut LossTracker ε Unit) tracker =
        (.ok (), { tracker with lossEvents := events }) ∧
      Merged { tracker with lossEvents := events } ∧
      ∀ k n, Intervals.Covers (ranges { tracker with lossEvents := events } k) n ↔
        Intervals.Covers (tracker.ranges k) n ∨
          event.stream = k ∧ event.firstSeq.toNat ≤ n ∧ n ≤ event.lastSeq.toNat := by
  have hbound : ∀ k n, Intervals.Covers (tracker.ranges k) n → n + 1 < 2 ^ 64 := by
    rintro k n ⟨i, hi, -, hle⟩
    obtain ⟨e, he, -, rfl⟩ := mem_ranges.mp hi
    have := (h.valid e he).bound
    simp only [LossEvent.range] at hle
    omega
  have hlast := hvalid.bound
  rcases h.tidy.insert (ε := ε) hvalid.sized hbuffer with
    ⟨merged, hinsert, hreplaced⟩ | ⟨-, hall⟩
  · have htidy := hreplaced.tidy
    refine ⟨_, hinsert, ⟨htidy.buffer, fun e he => ?_, htidy.apart⟩, hreplaced.covers⟩
    have hsized := htidy.sized e he
    refine ⟨hsized.le, ?_, hsized.count⟩
    have hcovers : Intervals.Covers ((tracker.replace event merged).ranges e.stream)
        e.lastSeq.toNat := ⟨e.range, mem_ranges.mpr ⟨e, he, rfl, rfl⟩, hsized.le, le_rfl⟩
    rcases (hreplaced.covers _ _).mp hcovers with hold | ⟨-, -, hle⟩
    · exact hbound _ _ hold
    · omega
  · rcases hall (2 ^ 64 - 1) (by decide) with hold | ⟨-, hle⟩
    · have := hbound _ _ hold
      omega
    · omega

/-! ## Accounting -/

/-- The range a `RecordsDropped` record reports, if it is consistent. -/
def reportedRange (record : Record) : Option (ℕ × ℕ) :=
  if record.eventTypeId ≠ EVENT_RECORDS_DROPPED then none
  else match droppedFields record.slots with
    | (some count, some first, some last) =>
      if first ≤ last ∧ count.toNat = last.toNat - first.toNat + 1 then
        some (first.toNat, last.toNat)
      else none
    | _ => none

/-- The record reports the number as dropped. -/
def Reports (record : Record) (n : ℕ) : Prop :=
  ∃ range, reportedRange record = some range ∧ range.1 ≤ n ∧ n ≤ range.2

/-- The last number a `RecordsDropped` record reports has a successor. -/
def Bounded (record : Record) : Prop :=
  record.eventTypeId = EVENT_RECORDS_DROPPED → ∀ count first last,
    droppedFields record.slots = (some count, some first, some last) → last.toNat + 1 < 2 ^ 64

/-- The range reported is that of the loss reported. -/
lemma reportedRange_eq (bufferId : UInt32) (record : Record) :
    reportedRange record = (reportedLoss bufferId record).map LossEvent.range := by
  unfold reportedRange reportedLoss
  split_ifs
  · rfl
  match droppedFields record.slots with
  | (none, _, _) => rfl
  | (some _, none, _) => rfl
  | (some _, some _, none) => rfl
  | (some count, some first, some last) =>
    dsimp only
    split_ifs <;> rfl

/-- What the tracker parses is the range reported. -/
lemma parseRecordsDropped_bounded {record : Record} (hbound : Bounded record) (bufferId : UInt32) :
    (parseRecordsDropped record bufferId : Outcome ε (Option LossEvent)) = .ok none ∧
        reportedRange record = none ∨
      ∃ event : LossEvent, (parseRecordsDropped record bufferId : Outcome ε (Option LossEvent)) =
          .ok (some event) ∧ event.Valid ∧ event.bufferId = bufferId ∧
        event.stream = (record.runId, record.sourceId) ∧
        reportedRange record = some event.range := by
  rcases parseRecordsDropped_cases (ε := ε) bufferId record with ⟨-, hparse⟩ | ⟨hall, -⟩
  swap
  · obtain ⟨hevent, count, hfields⟩ := hall
    exact absurd (hbound hevent count _ _ hfields) (by decide)
  rw [hparse, reportedRange_eq bufferId]
  cases hloss : reportedLoss bufferId record with
  | none => exact Or.inl ⟨rfl, rfl⟩
  | some event =>
    obtain ⟨hsized, hbuffer, hstream⟩ := reportedLoss_spec hloss
    refine Or.inr ⟨event, rfl, ⟨hsized.le, ?_, hsized.count⟩, hbuffer, hstream, rfl⟩
    unfold reportedLoss at hloss
    split_ifs at hloss with hevent
    split at hloss
    · rename_i count first last hfields
      split_ifs at hloss
      obtain rfl := Option.some.inj hloss
      exact hbound (not_not.mp hevent) count first last hfields
    · cases hloss

/-- The numbers that are skipped are a valid event. -/
lemma skippedLoss_valid {record : Record} {expected : UInt64} {bufferId : UInt32}
    (hlt : expected.toNat < record.seq.toNat) (synthetic : Bool) :
    (skippedLoss bufferId expected record synthetic).Valid := by
  have hsized : (skippedLoss bufferId expected record synthetic).Sized ∧ _ :=
    skippedLoss_sized hlt synthetic
  exact ⟨hsized.1.le, hsized.2.trans_lt record.seq.toNat_lt, hsized.1.count⟩

section Account

variable (record : Record) (expected : UInt64)

/-- Inserting what a record skips. -/
lemma Merged.insert_skipped (h : tracker.Merged) (hlt : expected.toNat < record.seq.toNat)
    (synthetic : Bool) :
    ∃ events, (insertLossEvent (skippedLoss tracker.bufferId expected record synthetic) :
        Mut LossTracker ε Unit) tracker = (.ok (), { tracker with lossEvents := events }) ∧
      Merged { tracker with lossEvents := events } ∧
      ∀ k n, Intervals.Covers (ranges { tracker with lossEvents := events } k) n ↔
        Intervals.Covers (tracker.ranges k) n ∨
          (record.runId, record.sourceId) = k ∧ expected.toNat ≤ n ∧ n < record.seq.toNat := by
  have hvalid : (skippedLoss tracker.bufferId expected record synthetic).Valid :=
    skippedLoss_valid hlt synthetic
  obtain ⟨events, hrun, hmerged, hcovers⟩ := h.insert (ε := ε) hvalid rfl
  refine ⟨events, hrun, hmerged, fun k n => (hcovers k n).trans (or_congr_right ?_)⟩
  have hfirst : (skippedLoss tracker.bufferId expected record synthetic).firstSeq = expected := rfl
  have hlast : (skippedLoss tracker.bufferId expected record synthetic).lastSeq.toNat + 1 =
      record.seq.toNat := (skippedLoss_sized hlt synthetic).2
  rw [hfirst]
  refine and_congr_right fun _ => and_congr_right fun _ => ?_
  omega

/-- The loss a checkpoint attests is added. -/
lemma Merged.accountHighWater (h : tracker.Merged) :
    ∃ events, (accountHighWater record expected : Mut LossTracker ε Unit) tracker =
        (.ok (), { tracker with lossEvents := events }) ∧
      Merged { tracker with lossEvents := events } ∧
      ∀ k n, Intervals.Covers (ranges { tracker with lossEvents := events } k) n ↔
        Intervals.Covers (tracker.ranges k) n ∨ parseSourceHighWater record = some record.seq ∧
          (record.runId, record.sourceId) = k ∧ expected.toNat ≤ n ∧ n < record.seq.toNat := by
  by_cases hlt : parseSourceHighWater record = some record.seq ∧
      expected.toNat < record.seq.toNat
  · rw [accountHighWater_inserts tracker hlt.1 hlt.2]
    simpa only [hlt.1, true_and] using h.insert_skipped record expected hlt.2 false
  · refine ⟨tracker.lossEvents, accountHighWater_quiet tracker hlt, h,
      fun k n => (or_iff_left ?_).symm⟩
    rintro ⟨hparse, -, hle, hn⟩
    exact hlt ⟨hparse, hle.trans_lt hn⟩

/-- The loss a jump of the number shows is added. -/
lemma Merged.accountGap (h : tracker.Merged) :
    ∃ events, (accountGap record expected : Mut LossTracker ε Unit) tracker =
        (.ok (), { tracker with lossEvents := events }) ∧
      Merged { tracker with lossEvents := events } ∧
      ∀ k n, Intervals.Covers (ranges { tracker with lossEvents := events } k) n ↔
        Intervals.Covers (tracker.ranges k) n ∨
          (record.runId, record.sourceId) = k ∧ expected.toNat ≤ n ∧ n < record.seq.toNat := by
  by_cases hlt : expected.toNat < record.seq.toNat
  · rw [accountGap_inserts tracker hlt]
    exact h.insert_skipped record expected hlt true
  · exact ⟨tracker.lossEvents, accountGap_quiet tracker hlt, h,
      fun k n => (or_iff_left fun hn => hlt (hn.2.1.trans_lt hn.2.2)).symm⟩

end Account

/-- The tracker has been fed `records`: it expects the numbers after the last ones, has counted
the records, and reports lost what they skip or report as dropped. -/
structure Follows (tracker : LossTracker) (records : List ReadRecord) : Prop where
  next : ∀ k, (tracker.nextSeqBySource.getD k 0).toNat =
    expected 0 (numbers ReadRecord.stream ReadRecord.seqNo k records)
  delivered : ∀ k, (tracker.deliveredBySource.getD k 0).toNat =
    (numbers ReadRecord.stream ReadRecord.seqNo k records).length
  merged : tracker.Merged
  lost : ∀ k n, Intervals.Covers (tracker.ranges k) n ↔
    Intervals.Covers (gaps 0 (numbers ReadRecord.stream ReadRecord.seqNo k records)) n ∨
      ∃ r ∈ records, r.stream = k ∧ Reports r.record n

/-- A new tracker has been fed nothing. -/
lemma follows_new (bufferId : UInt32) : (new bufferId).Follows [] := by
  refine ⟨?_, ?_, ⟨by simp [new], by simp [new], fun k => ?_⟩, ?_⟩
  · simp [new, numbers, expected]
  · simp [new, numbers]
  · exact Intervals.Apart.nil
  · simp [new, ranges, numbers, gaps, Intervals.Covers]

variable {records : List ReadRecord} {read : ReadRecord}

/-- The gaps of a stream with one more record. -/
lemma covers_gaps_concat (k : UInt64 × UInt32) (n : ℕ) :
    Intervals.Covers (gaps 0 (numbers ReadRecord.stream ReadRecord.seqNo k (records ++ [read]))) n ↔
      Intervals.Covers (gaps 0 (numbers ReadRecord.stream ReadRecord.seqNo k records)) n ∨
        read.stream = k ∧ expected 0 (numbers ReadRecord.stream ReadRecord.seqNo k records) ≤ n ∧
          n < read.seqNo := by
  rw [numbers_concat]
  split_ifs with hk
  · subst hk
    have hgap : Intervals.Covers (gapBefore (expected 0 (numbers ReadRecord.stream ReadRecord.seqNo
        read.stream records)) read.seqNo) n ↔
          expected 0 (numbers ReadRecord.stream ReadRecord.seqNo read.stream records) ≤ n ∧
            n < read.seqNo := by
      simp only [Intervals.Covers, mem_gapBefore]
      constructor
      · rintro ⟨_, ⟨hlt, rfl⟩, hge, hle⟩
        exact ⟨hge, by simp only at hle; omega⟩
      · rintro ⟨hge, hlt⟩
        exact ⟨_, ⟨by omega, rfl⟩, hge, by simp only; omega⟩
    rw [gaps_concat]
    simp only [Intervals.Covers, List.mem_append, or_and_right, exists_or, true_and] at hgap ⊢
    rw [hgap]
  · simp [Ne.symm hk]

/-- A tracker that has counted one more record, and added what it skips and reports. -/
lemma Follows.concat {tracker' : LossTracker} (h : tracker.Follows records)
    (hmerged : tracker'.Merged)
    (hlost : ∀ k n, Intervals.Covers (tracker'.ranges k) n ↔ (Intervals.Covers (tracker.ranges k) n ∨
      read.stream = k ∧ expected 0 (numbers ReadRecord.stream ReadRecord.seqNo k records) ≤ n ∧
        n < read.seqNo) ∨ read.stream = k ∧ Reports read.record n)
    (hdelivered : ∀ k, (tracker'.deliveredBySource.getD k 0).toNat =
      (tracker.deliveredBySource.getD k 0).toNat + if k = read.stream then 1 else 0)
    (hnext : ∀ k, (tracker'.nextSeqBySource.getD k 0).toNat =
      if k = read.stream then read.seqNo + 1 else (tracker.nextSeqBySource.getD k 0).toNat) :
    tracker'.Follows (records ++ [read]) := by
  refine ⟨?_, ?_, hmerged, ?_⟩
  · intro k
    rw [hnext, numbers_concat]
    split_ifs
    · rw [expected_concat]
    · rw [List.append_nil]
      exact h.next k
  · intro k
    rw [hdelivered, numbers_concat, List.length_append, h.delivered]
    split_ifs <;> rfl
  · intro k n
    have hreports : (∃ r ∈ records ++ [read], r.stream = k ∧ Reports r.record n) ↔
        (∃ r ∈ records, r.stream = k ∧ Reports r.record n) ∨
          read.stream = k ∧ Reports read.record n := by
      simp [or_and_right, exists_or]
    rw [hlost, h.lost, covers_gaps_concat, hreports, ← or_assoc]
    exact or_congr_left or_right_comm

/-- **Accounting for the next record of a stream.** -/
lemma Follows.account (h : tracker.Follows records) (hincreasing : Increasing (records ++ [read]))
    (hseq : read.record.seq.toNat + 1 < 2 ^ 64) (hbound : Bounded read.record) :
    ∃ tracker', (LossTracker.account read.record : Mut LossTracker ε Unit) tracker =
      (.ok (), tracker') ∧ tracker'.Follows (records ++ [read]) := by
  have hold : Increasing records := (List.pairwise_append.mp hincreasing).1
  set e := tracker.nextSeqBySource.getD (read.record.runId, read.record.sourceId) 0 with he
  have hexpected : e.toNat =
      expected 0 (numbers ReadRecord.stream ReadRecord.seqNo read.stream records) := h.next _
  have hle : e ≤ read.record.seq := by
    rw [UInt64.le_iff_toNat_le, hexpected]
    exact hincreasing.expected_le
  -- the count of deliveries stays below the number itself
  have hcount : (tracker.deliveredBySource.getD (read.record.runId, read.record.sourceId) 0).toNat
      + 1 < 2 ^ 64 := by
    have hsum := length_add_sum_gaps (fun _ _ => Nat.zero_le _) (hold.sorted read.stream)
    rw [UInt64.le_iff_toNat_le, hexpected] at hle
    rw [h.delivered]
    change (numbers ReadRecord.stream ReadRecord.seqNo read.stream records).length + 1 < _
    omega
  obtain ⟨attested, hwater, hmerged₁, hcovers₁⟩ := h.merged.accountHighWater (ε := ε)
    read.record e
  obtain ⟨events, hgap, hmerged₂, hcovers₂⟩ := hmerged₁.accountGap (ε := ε) read.record e
  obtain ⟨counted, hrun, hbuffer, hkept, hdelivered, hnext⟩ := accountDelivered_of_le (ε := ε)
    { tracker with lossEvents := events } hle hseq hcount
  have hranges : ∀ k, counted.ranges k = ranges { tracker with lossEvents := events } k := by
    intro k
    rw [ranges, hkept]
    rfl
  have hmerged₃ : counted.Merged := by
    refine ⟨?_, ?_, fun k => hranges k ▸ hmerged₂.apart k⟩
    · rw [hkept, hbuffer]
      exact hmerged₂.buffer
    · rw [hkept]
      exact hmerged₂.valid
  have hskipped : ∀ k n, Intervals.Covers (counted.ranges k) n ↔
      Intervals.Covers (tracker.ranges k) n ∨ read.stream = k ∧
        expected 0 (numbers ReadRecord.stream ReadRecord.seqNo k records) ≤ n ∧
          n < read.seqNo := by
    intro k n
    have hstream : (read.record.runId, read.record.sourceId) = read.stream := rfl
    have hseqNo : read.record.seq.toNat = read.seqNo := rfl
    rw [hranges, hcovers₂]
    simp only [hcovers₁, hexpected, hstream, hseqNo]
    constructor
    · rintro ((hc | ⟨-, rfl, hn⟩) | ⟨rfl, hn⟩)
      · exact Or.inl hc
      · exact Or.inr ⟨rfl, hn⟩
      · exact Or.inr ⟨rfl, hn⟩
    · rintro (hc | ⟨rfl, hn⟩)
      · exact Or.inl (Or.inl hc)
      · exact Or.inr ⟨rfl, hn⟩
  have haccount : ∀ parsed : Option LossEvent,
      (parseRecordsDropped read.record tracker.bufferId : Outcome ε _) = .ok parsed →
      (LossTracker.account read.record : Mut LossTracker ε Unit) tracker =
        parsed.elim (pure () : Mut LossTracker ε Unit) insertLossEvent counted := by
    intro parsed hparse
    rw [LossTracker.account, Mut.get_bind, Mut.bind_of_ok hwater, Mut.bind_of_ok hgap,
      Mut.bind_of_ok hrun, hparse, Mut.lift_ok_bind]
    cases parsed <;> rfl
  rcases parseRecordsDropped_bounded (ε := ε) hbound tracker.bufferId with
    ⟨hparse, hnone⟩ | ⟨event, hparse, hvalid, hebuffer, hstream, hsome⟩
  · refine ⟨counted, ?_, h.concat hmerged₃ ?_ hdelivered hnext⟩
    · exact haccount none hparse
    · intro k n
      rw [hskipped]
      simp [Reports, hnone]
  · obtain ⟨reported, hinsert, hmerged₄, hcovers₄⟩ :=
      hmerged₃.insert (ε := ε) hvalid (hebuffer.trans hbuffer.symm)
    refine ⟨{ counted with lossEvents := reported }, ?_, h.concat hmerged₄ ?_ hdelivered hnext⟩
    · exact (haccount (some event) hparse).trans hinsert
    · intro k n
      rw [hcovers₄, hskipped, hstream]
      simp [Reports, hsome, ReadRecord.stream, LossEvent.range]

/-- **The count of lost records** is at most the size of any set that holds their numbers. -/
lemma Follows.lost_le (h : tracker.Follows records) {runId : UInt64} {sourceId : UInt32}
    {s : Finset ℕ} (hs : ∀ n, tracker.Lost runId sourceId n → n ∈ s) (hcard : s.card < 2 ^ 64) :
    ∃ lost, (tracker.lost runId sourceId : Outcome ε UInt64) = .ok lost ∧ lost.toNat ≤ s.card := by
  have hsum : ((tracker.ranges (runId, sourceId)).map fun i => i.2 - i.1 + 1).sum ≤ s.card :=
    (h.merged.apart _).sum_le_card fun n hn => hs n (lost_iff_covers.mpr hn)
  obtain ⟨lost, hlost, hlost'⟩ := h.merged.tidy.lost (ε := ε) (hsum.trans_lt hcard)
  exact ⟨lost, hlost, hlost'.trans_le hsum⟩

end LossTracker

end OpenOT
