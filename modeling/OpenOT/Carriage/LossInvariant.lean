import OpenOT.Carriage.EpochInvariant
import OpenOT.Carriage.Loss
import OpenOT.Carriage.RingRaw

set_option relaxedAutoImplicit false
set_option autoImplicit false

/-!
# Nothing is lost without a trace

Producer, ring, raw consumer and tracker together: whatever the schedule of calls and polls, the
records delivered of a stream and the intervals the tracker reports lost partition the numbers up
to the last one delivered.

## Main definitions

* `OpenOT.LossTracker.Tracks` — the tracker's counts and intervals are those of the records it
  has been fed.
* `OpenOT.Pipeline` — the producer, the consumer and what has been delivered.

## Main results

* `OpenOT.LossTracker.Tracks.account` — accounting for the next record of a stream.
* `OpenOT.Pipeline.Accounted.step` — every step of the pipeline keeps its invariant.
* `OpenOT.loss_conservation` — delivered and lost add up.
-/

namespace OpenOT

open Rust Numbering CircularLog

/-! ## Keys and ranges -/

instance : Std.LawfulEqCmp compareStream where
  eq_of_compare {a b} h := by
    simp only [compareStream, compareLex, compareOn, Ordering.then_eq_eq] at h
    exact Prod.ext (Std.LawfulEqCmp.eq_of_compare h.1) (Std.LawfulEqCmp.eq_of_compare h.2)

/-- The stream of a loss event. -/
def LossEvent.stream (event : LossEvent) : UInt64 × UInt32 := (event.runId, event.sourceId)

/-- The range of a loss event. -/
def LossEvent.range (event : LossEvent) : ℕ × ℕ := (event.firstSeq.toNat, event.lastSeq.toNat)

lemma toNat_saturatingAdd_one (a : UInt64) :
    (saturatingAdd a 1).toNat = min (a.toNat + 1) (2 ^ 64 - 1) := by
  have := a.toNat_lt
  unfold saturatingAdd
  split_ifs with h
  · rw [UInt64.toNat_add, Nat.mod_eq_of_lt h]
    simp at h ⊢
    omega
  · simp at h ⊢
    omega

/-- An event that ends well before another begins does not touch it. -/
lemma rangesTouchOrOverlap_of_lt {left right : LossEvent}
    (h : left.lastSeq.toNat + 1 < right.firstSeq.toNat) :
    rangesTouchOrOverlap left right = false := by
  have hlt := right.firstSeq.toNat_lt
  have : ¬right.firstSeq ≤ saturatingAdd left.lastSeq 1 := by
    rw [UInt64.le_iff_toNat_le, toNat_saturatingAdd_one]
    omega
  simp [rangesTouchOrOverlap, this]

/-- An event touches one with the same range. -/
lemma rangesTouchOrOverlap_of_eq {left right : LossEvent} (hfirst : left.firstSeq = right.firstSeq)
    (hlast : left.lastSeq = right.lastSeq) (hle : left.firstSeq ≤ left.lastSeq) :
    rangesTouchOrOverlap left right = true := by
  have hlt := left.lastSeq.toNat_lt
  have : left.firstSeq ≤ saturatingAdd left.lastSeq 1 := by
    rw [UInt64.le_iff_toNat_le] at hle ⊢
    rw [toNat_saturatingAdd_one]
    omega
  simp [rangesTouchOrOverlap, ← hfirst, ← hlast, this]

namespace LossTracker

variable {ε : Type} {tracker : LossTracker} {event : LossEvent}

/-! ## The interval union -/

/-- The existing event is one that `event` merges with. -/
def merges (event existing : LossEvent) : Bool :=
  sameLossStream existing event && rangesTouchOrOverlap existing event

/-- The union in terms of what it keeps and what it merges. -/
lemma insertLossEvent_eq {kept touching merged : List LossEvent}
    (hkept : tracker.lossEvents.filter (fun existing => !merges event existing) = kept)
    (htouching : tracker.lossEvents.filter (merges event) = touching)
    (hmerged : mergeIntervals (ε := ε) ((touching ++ [event]).insertionSort fun a b =>
      a.firstSeq ≤ b.firstSeq) [] = .ok merged) :
    (insertLossEvent event : Mut LossTracker ε Unit) tracker =
      (.ok (), { tracker with lossEvents := kept ++ merged }) := by
  change tracker.lossEvents.filter (fun existing => !(sameLossStream existing event &&
    rangesTouchOrOverlap existing event)) = kept at hkept
  change tracker.lossEvents.filter (fun existing => sameLossStream existing event &&
    rangesTouchOrOverlap existing event) = touching at htouching
  simp only [insertLossEvent, Mut.get_bind, Mut.modify_bind, hkept, htouching, hmerged,
    Mut.lift_ok_bind, Mut.modify_apply]

/-- Events that do not merge are kept. -/
lemma filter_merges_of_apart {events : List LossEvent}
    (h : ∀ existing ∈ events, merges event existing = false) :
    events.filter (merges event) = [] ∧
      events.filter (fun existing => !merges event existing) = events := by
  constructor
  · rw [List.filter_eq_nil_iff]
    intro existing hmem
    simp [h existing hmem]
  · rw [List.filter_eq_self]
    intro existing hmem
    simp [h existing hmem]

/-- An event that merges with nothing is appended. -/
lemma insertLossEvent_of_apart (h : ∀ existing ∈ tracker.lossEvents, merges event existing = false) :
    (insertLossEvent event : Mut LossTracker ε Unit) tracker =
      (.ok (), { tracker with lossEvents := tracker.lossEvents ++ [event] }) := by
  obtain ⟨hnone, hall⟩ := filter_merges_of_apart h
  exact insertLossEvent_eq hall hnone rfl

/-- An event with the range of the last one is absorbed by it. -/
lemma insertLossEvent_again {events : List LossEvent} {last : LossEvent}
    (hevents : tracker.lossEvents = events ++ [last])
    (hapart : ∀ existing ∈ events, merges event existing = false)
    (hsame : sameLossStream last event = true) (hfirst : last.firstSeq = event.firstSeq)
    (hlast : last.lastSeq = event.lastSeq)
    (hcount : last.count.toNat + last.firstSeq.toNat = last.lastSeq.toNat + 1)
    (hle : last.firstSeq ≤ last.lastSeq) :
    (insertLossEvent event : Mut LossTracker ε Unit) tracker = (.ok (), { tracker with
      lossEvents := events ++ [{ last with synthetic := last.synthetic && event.synthetic }] }) := by
  obtain ⟨hnone, hall⟩ := filter_merges_of_apart hapart
  have htouch := rangesTouchOrOverlap_of_eq hfirst hlast hle
  have hmerges : merges event last = true := by simp [merges, hsame, htouch]
  refine insertLossEvent_eq (show _ = events from ?_) (show _ = [last] from ?_) ?_
  · simp [hevents, hall, hmerges]
  · simp [hevents, hnone, hmerges]
  · have hsub : (checkedSub last.lastSeq last.firstSeq : Outcome ε UInt64) =
        .ok (last.lastSeq - last.firstSeq) := by
      rw [checkedSub, if_pos hle]
    have hadd : (checkedAdd (last.lastSeq - last.firstSeq) 1 : Outcome ε UInt64) =
        .ok last.count := by
      rw [checkedAdd_eq_ok, UInt64.toNat_sub_of_le _ _ hle]
      rw [UInt64.le_iff_toNat_le] at hle
      simp only [UInt64.toNat_one]
      omega
    have hsort : ([last] ++ [event]).insertionSort (fun a b => a.firstSeq ≤ b.firstSeq) =
        [last, event] := by
      simp [List.insertionSort, hfirst]
    have hmin : min last.firstSeq last.firstSeq = last.firstSeq := ite_self _
    have hmax : max last.lastSeq last.lastSeq = last.lastSeq := ite_self _
    rw [hsort]
    simp [mergeIntervals, htouch, ← hfirst, ← hlast, hmin, hmax, hsub, hadd]

/-! ## The loss before a record -/

/-- The event is the loss seen when `record` arrives and `expected` was expected. -/
structure GapEvent (bufferId : UInt32) (record : Record) (expected : UInt64) (event : LossEvent) :
    Prop where
  bufferId : event.bufferId = bufferId
  runId : event.runId = record.runId
  sourceId : event.sourceId = record.sourceId
  first : event.firstSeq = expected
  last : event.lastSeq.toNat + 1 = record.seq.toNat
  count : event.count.toNat + expected.toNat = record.seq.toNat

/-- The events of the record's stream end well before the expected number. -/
def Apart (record : Record) (expected : UInt64) (events : List LossEvent) : Prop :=
  ∀ existing ∈ events, existing.stream = (record.runId, record.sourceId) →
    existing.lastSeq.toNat + 1 < expected.toNat

section Gap

variable {record : Record} {expected : UInt64}

/-- The loss before a record does not merge with earlier loss. -/
lemma GapEvent.merges_of_apart {bufferId : UInt32} (h : GapEvent bufferId record expected event)
    {events : List LossEvent} (hapart : Apart record expected events) :
    ∀ existing ∈ events, merges event existing = false := by
  intro existing hmem
  by_cases hsame : sameLossStream existing event = true
  · have hstream : existing.stream = (record.runId, record.sourceId) := by
      simp only [sameLossStream, Bool.and_eq_true, beq_iff_eq] at hsame
      rw [LossEvent.stream, hsame.1.2, hsame.2, h.runId, h.sourceId]
    have hlt := hapart existing hmem hstream
    rw [← h.first] at hlt
    simp [merges, rangesTouchOrOverlap_of_lt hlt]
  · simp [merges, Bool.eq_false_iff.mpr hsame]

/-- The loss a checkpoint attests. -/
lemma accountHighWater_of_lt (hparse : parseSourceHighWater record = some record.seq)
    (hlt : expected < record.seq) (hapart : Apart record expected tracker.lossEvents) :
    ∃ event, GapEvent tracker.bufferId record expected event ∧
      (accountHighWater record expected : Mut LossTracker ε Unit) tracker =
        (.ok (), { tracker with lossEvents := tracker.lossEvents ++ [event] }) := by
  have hlt' := UInt64.lt_iff_toNat_lt.mp hlt
  have hone : (1 : UInt64).toNat = 1 := rfl
  obtain ⟨hlast, hlast'⟩ := checkedSub_of_le (ε := ε) (a := record.seq) (b := 1) (by omega)
  obtain ⟨hcount, hcount'⟩ := checkedSub_of_le (ε := ε) (a := record.seq) (b := expected) (by omega)
  have hgap : GapEvent tracker.bufferId record expected ⟨tracker.bufferId, record.runId,
      record.sourceId, expected, record.seq - 1, record.seq - expected, false⟩ :=
    ⟨rfl, rfl, rfl, rfl, hlast', hcount'⟩
  refine ⟨_, hgap, ?_⟩
  simp only [accountHighWater, Mut.get_bind, hparse, if_pos hlt, hlast, hcount, Mut.lift_ok_bind]
  exact insertLossEvent_of_apart (hgap.merges_of_apart hapart)

/-- A record that attests no loss changes nothing. -/
lemma accountHighWater_of_not (h : parseSourceHighWater record = some record.seq →
      ¬expected < record.seq)
    (hparse : parseSourceHighWater record = none ∨
      parseSourceHighWater record = some record.seq) :
    (accountHighWater record expected : Mut LossTracker ε Unit) tracker = (.ok (), tracker) := by
  rcases hparse with hnone | hsome
  · simp only [accountHighWater, Mut.get_bind, hnone, Mut.pure_apply]
  · simp only [accountHighWater, Mut.get_bind, hsome, if_neg (h hsome), Mut.pure_apply]

/-- A jump of the sequence number, whether or not a checkpoint has already attested it. -/
lemma accountGap_of_lt (hlt : expected < record.seq) {events attested : List LossEvent}
    (hevents : tracker.lossEvents = events ++ attested)
    (hattested : attested = [] ∨
      ∃ event, attested = [event] ∧ GapEvent tracker.bufferId record expected event)
    (hapart : Apart record expected events) :
    ∃ event, GapEvent tracker.bufferId record expected event ∧
      (accountGap record expected : Mut LossTracker ε Unit) tracker =
        (.ok (), { tracker with lossEvents := events ++ [event] }) := by
  have hlt' := UInt64.lt_iff_toNat_lt.mp hlt
  have hseq := record.seq.toNat_lt
  have hone : (1 : UInt64).toNat = 1 := rfl
  obtain ⟨hlast, hlast'⟩ := checkedSub_of_le (ε := ε) (a := record.seq) (b := 1) (by omega)
  obtain ⟨hdiff, hdiff'⟩ :=
    checkedSub_of_le (ε := ε) (a := record.seq - 1) (b := expected) (by omega)
  obtain ⟨hcount, hcount'⟩ :=
    checkedAdd_of_lt (ε := ε) (a := record.seq - 1 - expected) (b := 1) (by omega)
  have hgap : GapEvent tracker.bufferId record expected ⟨tracker.bufferId, record.runId,
      record.sourceId, expected, record.seq - 1, record.seq - 1 - expected + 1, true⟩ :=
    ⟨rfl, rfl, rfl, rfl, hlast', by simp only; omega⟩
  simp only [accountGap, Mut.get_bind, if_pos hlt, hlast, hdiff, hcount, Mut.lift_ok_bind]
  rcases hattested with rfl | ⟨event, rfl, hevent⟩
  · rw [List.append_nil] at hevents
    rw [← hevents] at hapart ⊢
    exact ⟨_, hgap, insertLossEvent_of_apart (hgap.merges_of_apart hapart)⟩
  · refine ⟨_, ?_, insertLossEvent_again hevents (hgap.merges_of_apart hapart) ?_ hevent.first ?_
      ?_ ?_⟩
    · exact ⟨hevent.bufferId, hevent.runId, hevent.sourceId, hevent.first, hevent.last,
        hevent.count⟩
    · simp [sameLossStream, hevent.bufferId, hevent.runId, hevent.sourceId]
    · have := hevent.last
      rw [← UInt64.toNat_inj]
      simp only
      omega
    · have := hevent.count
      have := hevent.last
      rw [hevent.first]
      omega
    · have := hevent.last
      rw [UInt64.le_iff_toNat_le, hevent.first]
      omega

/-- **The loss before a record**: one interval if the number jumps, and none otherwise. -/
lemma accountLoss
    (hparse : parseSourceHighWater record = none ∨
      parseSourceHighWater record = some record.seq)
    (hapart : Apart record expected tracker.lossEvents) :
    ∃ attested events, (accountHighWater record expected : Mut LossTracker ε Unit) tracker =
        (.ok (), { tracker with lossEvents := attested }) ∧
      (accountGap record expected : Mut LossTracker ε Unit) { tracker with lossEvents := attested } =
        (.ok (), { tracker with lossEvents := tracker.lossEvents ++ events }) ∧
      (∀ event ∈ events, GapEvent tracker.bufferId record expected event) ∧
      events.map LossEvent.range = gapBefore expected.toNat record.seq.toNat := by
  have hrange : ∀ event, GapEvent tracker.bufferId record expected event →
      event.range = (expected.toNat, record.seq.toNat - 1) := by
    intro event hevent
    have := hevent.last
    rw [LossEvent.range, hevent.first]
    exact Prod.ext rfl (by simp only; omega)
  by_cases hlt : expected < record.seq
  · have hgap : gapBefore expected.toNat record.seq.toNat =
        [(expected.toNat, record.seq.toNat - 1)] := if_pos (UInt64.lt_iff_toNat_lt.mp hlt)
    rw [hgap]
    rcases hparse with hnone | hsome
    · have hquiet : (accountHighWater record expected : Mut LossTracker ε Unit) tracker =
          (.ok (), tracker) := accountHighWater_of_not (by simp [hnone]) (Or.inl hnone)
      obtain ⟨event, hevent, hrun⟩ := accountGap_of_lt (ε := ε) hlt
        (List.append_nil tracker.lossEvents).symm (Or.inl rfl) hapart
      exact ⟨_, [event], hquiet, hrun, by simpa using hevent, by simp [hrange event hevent]⟩
    · obtain ⟨first, hfirst, hquiet⟩ := accountHighWater_of_lt (ε := ε) hsome hlt hapart
      have hattested : LossTracker.lossEvents
          { tracker with lossEvents := tracker.lossEvents ++ [first] } =
            tracker.lossEvents ++ [first] := rfl
      obtain ⟨event, hevent, hrun⟩ := accountGap_of_lt (ε := ε) hlt hattested
        (Or.inr ⟨first, rfl, hfirst⟩) hapart
      exact ⟨_, [event], hquiet, hrun, by simpa using hevent, by simp [hrange event hevent]⟩
  · have hgap : gapBefore expected.toNat record.seq.toNat = [] :=
      if_neg fun h => hlt (UInt64.lt_iff_toNat_lt.mpr h)
    refine ⟨_, [], accountHighWater_of_not (fun _ => hlt) hparse, ?_, by simp, by simp [hgap]⟩
    simp only [accountGap, Mut.get_bind, if_neg hlt, Mut.pure_apply, List.append_nil]

end Gap

/-! ## What the tracker knows -/

/-- The tracker has been fed `records`: in every stream it expects the number after the last one,
it has counted them, and its intervals are the gaps between their numbers. -/
structure Tracks (tracker : LossTracker) (records : List ReadRecord) : Prop where
  next : ∀ k, (tracker.nextSeqBySource.getD k 0).toNat =
    expected 0 (numbers ReadRecord.stream ReadRecord.seqNo k records)
  delivered : ∀ k, (tracker.deliveredBySource.getD k 0).toNat =
    (numbers ReadRecord.stream ReadRecord.seqNo k records).length
  events : ∀ k, (tracker.lossEvents.filter fun event => decide (event.stream = k)).map
    LossEvent.range = gaps 0 (numbers ReadRecord.stream ReadRecord.seqNo k records)
  counts : ∀ event ∈ tracker.lossEvents,
    event.count.toNat = event.lastSeq.toNat - event.firstSeq.toNat + 1

/-- A new tracker has been fed nothing. -/
lemma tracks_new (bufferId : UInt32) : (new bufferId).Tracks [] := by
  refine ⟨?_, ?_, ?_, by simp [new]⟩
  · simp [new, numbers, expected]
  · simp [new, numbers]
  · simp [new, numbers, gaps]

/-- Numbers of a stream are increasing. -/
def Increasing (records : List ReadRecord) : Prop :=
  records.Pairwise fun a b => a.stream = b.stream → a.seqNo < b.seqNo

/-- A record is honest about loss: what it attests is what its own number says. -/
structure Honest (record : Record) : Prop where
  highWater : parseSourceHighWater record = none ∨ parseSourceHighWater record = some record.seq
  dropped : ∀ (ε : Type) bufferId,
    (parseRecordsDropped record bufferId : Outcome ε (Option LossEvent)) = .ok none
  bound : record.seq.toNat + 1 < 2 ^ 64

variable {records : List ReadRecord} {read : ReadRecord}

/-- In increasing records the numbers of a stream are sorted. -/
lemma Increasing.sorted (h : Increasing records) (k : UInt64 × UInt32) :
    (numbers ReadRecord.stream ReadRecord.seqNo k records).Pairwise (· < ·) := by
  rw [numbers, List.pairwise_map, List.pairwise_filter]
  refine h.imp ?_
  intro a b hlt ha hb
  exact hlt ((of_decide_eq_true ha).trans (of_decide_eq_true hb).symm)

/-- The delivery of a record that is not behind its stream. -/
lemma accountDelivered_of_le (tracker : LossTracker) {record : Record} {expected : UInt64}
    (hle : expected ≤ record.seq) (hseq : record.seq.toNat + 1 < 2 ^ 64)
    (hcount : (tracker.deliveredBySource.getD (record.runId, record.sourceId) 0).toNat + 1 <
      2 ^ 64) :
    ∃ tracker', (accountDelivered record expected : Mut LossTracker ε Unit) tracker =
        (.ok (), tracker') ∧
      tracker'.bufferId = tracker.bufferId ∧ tracker'.lossEvents = tracker.lossEvents ∧
      (∀ k, (tracker'.deliveredBySource.getD k 0).toNat =
        (tracker.deliveredBySource.getD k 0).toNat +
          if k = (record.runId, record.sourceId) then 1 else 0) ∧
      ∀ k, (tracker'.nextSeqBySource.getD k 0).toNat =
        if k = (record.runId, record.sourceId) then record.seq.toNat + 1
        else (tracker.nextSeqBySource.getD k 0).toNat := by
  set key := (record.runId, record.sourceId) with hkey
  have hone : (1 : UInt64).toNat = 1 := rfl
  have hcmp : ∀ k, (compareStream key k = .eq) = (k = key) := by
    intro k
    rw [Std.LawfulEqCmp.compare_eq_iff_eq]
    exact propext eq_comm
  have hcurrent : ∀ k, (tracker.deliveredBySource.insertIfNew key 0).getD k 0 =
      tracker.deliveredBySource.getD k 0 := by
    intro k
    rw [Std.TreeMap.getD_insertIfNew]
    split_ifs with hnew
    · rw [← Std.LawfulEqCmp.eq_of_compare hnew.1, Std.TreeMap.getD_eq_fallback hnew.2]
    · rfl
  obtain ⟨hdelivered, hdelivered'⟩ := checkedAdd_of_lt (ε := ε)
    (a := tracker.deliveredBySource.getD key 0) (b := 1) hcount
  obtain ⟨hnext, hnext'⟩ := checkedAdd_of_lt (ε := ε) (a := record.seq) (b := 1) hseq
  simp only [accountDelivered, if_pos hle, Mut.modify_bind, Mut.get_bind, ← hkey, hcurrent,
    hdelivered, hnext, Mut.lift_ok_bind, Mut.modify_apply]
  refine ⟨_, rfl, rfl, rfl, ?_, ?_⟩
  · intro k
    rw [Std.TreeMap.getD_insert, hcurrent]
    simp only [hcmp]
    split_ifs with hk
    · rw [hdelivered', hk, hone]
    · rw [Nat.add_zero]
  · intro k
    rw [Std.TreeMap.getD_insert]
    simp only [hcmp]
    split_ifs with hk
    · rw [hnext', hone]
    · rfl

/-- The numbers of a stream with one more record. -/
lemma numbers_concat (k : UInt64 × UInt32) :
    numbers ReadRecord.stream ReadRecord.seqNo k (records ++ [read]) =
      numbers ReadRecord.stream ReadRecord.seqNo k records ++
        if k = read.stream then [read.seqNo] else [] := by
  rw [numbers_append]
  by_cases hk : k = read.stream
  · subst hk
    simp [numbers]
  · simp [numbers, Ne.symm hk, hk]

/-- The number of a new record is at or behind the one its stream expects. -/
lemma Increasing.expected_le (h : Increasing (records ++ [read])) :
    expected 0 (numbers ReadRecord.stream ReadRecord.seqNo read.stream records) ≤ read.seqNo := by
  cases hlast : (numbers ReadRecord.stream ReadRecord.seqNo read.stream records).getLast? with
  | none =>
    rw [List.getLast?_eq_none_iff.mp hlast]
    exact Nat.zero_le _
  | some n =>
    rw [expected_eq_of_getLast? hlast]
    obtain ⟨a, ha, hstream, rfl⟩ := mem_numbers.mp (List.mem_of_getLast? hlast)
    exact (List.pairwise_append.mp h).2.2 a ha read (by simp) hstream

/-- The tracker's intervals of a stream end well before the number it expects. -/
lemma Tracks.apart (h : tracker.Tracks records) (hincreasing : Increasing records)
    {record : Record} {e : UInt64}
    (he : e = tracker.nextSeqBySource.getD (record.runId, record.sourceId) 0) :
    Apart record e tracker.lossEvents := by
  intro existing hmem hstream
  have hzero : ∀ n ∈ numbers ReadRecord.stream ReadRecord.seqNo (record.runId, record.sourceId)
      records, 0 ≤ n := fun _ _ => Nat.zero_le _
  have hsorted := hincreasing.sorted (record.runId, record.sourceId)
  have hrange : existing.range ∈ gaps 0 (numbers ReadRecord.stream ReadRecord.seqNo
      (record.runId, record.sourceId) records) := by
    rw [← h.events]
    exact List.mem_map_of_mem (List.mem_filter.mpr ⟨hmem, decide_eq_true hstream⟩)
  rw [he, h.next]
  exact (Numbering.expected_le hzero hsorted).2 _ (gap_spec hzero hsorted hrange).2.2

/-- A tracker that has counted one more record, and the loss before it. -/
lemma Tracks.concat {tracker' : LossTracker} {events : List LossEvent}
    (h : tracker.Tracks records) (hkept : tracker'.lossEvents = tracker.lossEvents ++ events)
    (hstream : ∀ event ∈ events, event.stream = read.stream)
    (hcounts : ∀ event ∈ events,
      event.count.toNat = event.lastSeq.toNat - event.firstSeq.toNat + 1)
    (hranges : events.map LossEvent.range = gapBefore
      (expected 0 (numbers ReadRecord.stream ReadRecord.seqNo read.stream records)) read.seqNo)
    (hdelivered : ∀ k, (tracker'.deliveredBySource.getD k 0).toNat =
      (tracker.deliveredBySource.getD k 0).toNat + if k = read.stream then 1 else 0)
    (hnext : ∀ k, (tracker'.nextSeqBySource.getD k 0).toNat =
      if k = read.stream then read.seqNo + 1 else (tracker.nextSeqBySource.getD k 0).toNat) :
    tracker'.Tracks (records ++ [read]) := by
  refine ⟨?_, ?_, ?_, ?_⟩
  · intro k
    rw [hnext, numbers_concat]
    split_ifs
    · rw [expected_concat]
    · rw [List.append_nil]
      exact h.next k
  · intro k
    rw [hdelivered, numbers_concat, List.length_append, h.delivered]
    split_ifs <;> rfl
  · intro k
    rw [hkept, numbers_concat, List.filter_append, List.map_append, h.events]
    split_ifs with hk
    · have hall : events.filter (fun event => decide (event.stream = k)) = events := by
        rw [List.filter_eq_self]
        intro event hevent
        rw [hstream event hevent, hk]
        exact decide_eq_true rfl
      rw [gaps_concat, hall, hranges, hk]
    · have hnone : events.filter (fun event => decide (event.stream = k)) = [] := by
        rw [List.filter_eq_nil_iff]
        intro event hevent
        rw [hstream event hevent, decide_eq_true_eq]
        exact Ne.symm hk
      rw [hnone, List.map_nil, List.append_nil, List.append_nil]
  · intro event hevent
    rw [hkept] at hevent
    rcases List.mem_append.mp hevent with hbefore | hnew
    · exact h.counts event hbefore
    · exact hcounts event hnew

/-- **The next record of a stream**: the tracker counts it, and the loss before it. -/
lemma Tracks.account (h : tracker.Tracks records) (hincreasing : Increasing (records ++ [read]))
    (hhonest : Honest read.record) :
    ∃ tracker', (LossTracker.account read.record : Mut LossTracker ε Unit) tracker =
      (.ok (), tracker') ∧ tracker'.Tracks (records ++ [read]) := by
  have hold : Increasing records := (List.pairwise_append.mp hincreasing).1
  set e := tracker.nextSeqBySource.getD (read.record.runId, read.record.sourceId) 0 with he
  have hexpected : e.toNat =
      expected 0 (numbers ReadRecord.stream ReadRecord.seqNo read.stream records) := h.next _
  have hle : e ≤ read.record.seq := by
    rw [UInt64.le_iff_toNat_le, hexpected]
    exact hincreasing.expected_le
  -- the count of deliveries stays below the number itself
  have hcount : (tracker.deliveredBySource.getD (read.record.runId, read.record.sourceId) 0).toNat
      + 1 < 2 ^ 64 := by
    have hsum := length_add_sum_gaps (fun _ _ => Nat.zero_le _) (hold.sorted read.stream)
    have hbound := hhonest.bound
    rw [UInt64.le_iff_toNat_le, hexpected] at hle
    rw [h.delivered]
    change (numbers ReadRecord.stream ReadRecord.seqNo read.stream records).length + 1 < _
    omega
  obtain ⟨attested, events, hwater, hgap, hevents, hranges⟩ :=
    accountLoss (ε := ε) hhonest.highWater (h.apart hold he)
  obtain ⟨tracker', hrun, -, hkept, hdelivered, hnext⟩ := accountDelivered_of_le (ε := ε)
    { tracker with lossEvents := tracker.lossEvents ++ events } hle hhonest.bound hcount
  refine ⟨tracker', ?_, h.concat hkept ?_ ?_ (hexpected ▸ hranges) hdelivered hnext⟩
  · rw [LossTracker.account, Mut.get_bind, Mut.bind_of_ok hwater, Mut.bind_of_ok hgap,
      Mut.bind_of_ok hrun, hhonest.dropped, Mut.lift_ok_bind]
    rfl
  · intro event hevent
    rw [LossEvent.stream, (hevents event hevent).runId, (hevents event hevent).sourceId]
    rfl
  · intro event hevent
    have hlt := (mem_gapBefore.mp (hranges ▸ List.mem_map_of_mem hevent)).1
    have := (hevents event hevent).count
    have := (hevents event hevent).last
    rw [(hevents event hevent).first]
    omega

/-! ## The counts -/

/-- A sum in range, term by term. -/
lemma foldlM_checkedAdd {counts : List UInt64} :
    ∀ {total : UInt64}, total.toNat + (counts.map UInt64.toNat).sum < 2 ^ 64 →
      ∃ sum, counts.foldlM (checkedAdd (ε := ε)) total = .ok sum ∧
        sum.toNat = total.toNat + (counts.map UInt64.toNat).sum := by
  induction counts with
  | nil => exact fun {total} _ => ⟨total, rfl, by simp⟩
  | cons count counts ih =>
    intro total hlt
    rw [List.map_cons, List.sum_cons] at hlt
    obtain ⟨hadd, hadd'⟩ := checkedAdd_of_lt (ε := ε) (a := total) (b := count) (by omega)
    obtain ⟨sum, hsum, hsum'⟩ := @ih (total + count) (by omega)
    refine ⟨sum, ?_, ?_⟩
    · rw [List.foldlM_cons, hadd, Outcome.ok_bind, hsum]
    · rw [hsum', hadd', List.map_cons, List.sum_cons]
      omega

/-- The number is in an interval the tracker reports lost. -/
def Lost (tracker : LossTracker) (runId : UInt64) (sourceId : UInt32) (n : ℕ) : Prop :=
  ∃ event ∈ tracker.lossEvents, event.runId = runId ∧ event.sourceId = sourceId ∧
    event.firstSeq.toNat ≤ n ∧ n ≤ event.lastSeq.toNat

/-- What the tracker reports lost are the gaps of the stream. -/
lemma Tracks.lost_iff (h : tracker.Tracks records) {runId : UInt64} {sourceId : UInt32} (n : ℕ) :
    tracker.Lost runId sourceId n ↔ ∃ gap ∈ gaps 0
      (numbers ReadRecord.stream ReadRecord.seqNo (runId, sourceId) records),
        gap.1 ≤ n ∧ n ≤ gap.2 := by
  rw [← h.events]
  simp only [Lost, List.mem_map, List.mem_filter, decide_eq_true_eq, LossEvent.stream,
    Prod.mk.injEq]
  constructor
  · rintro ⟨event, hmem, hrun, hsource, hn⟩
    exact ⟨_, ⟨event, ⟨hmem, hrun, hsource⟩, rfl⟩, hn⟩
  · rintro ⟨_, ⟨event, ⟨hmem, hrun, hsource⟩, rfl⟩, hn⟩
    exact ⟨event, hmem, hrun, hsource, hn⟩

/-- **Delivered and lost add up** to the number the stream expects next. -/
lemma Tracks.delivered_add_lost (h : tracker.Tracks records) (hincreasing : Increasing records)
    (runId : UInt64) (sourceId : UInt32) :
    ∃ lost, (tracker.lost runId sourceId : Outcome ε UInt64) = .ok lost ∧
      (tracker.delivered runId sourceId).toNat + lost.toNat =
        expected 0 (numbers ReadRecord.stream ReadRecord.seqNo (runId, sourceId) records) := by
  set k := (runId, sourceId) with hk
  have hsum := length_add_sum_gaps (fun _ _ => Nat.zero_le _) (hincreasing.sorted k)
  have hdelivered := h.delivered k
  have hfilter : (tracker.lossEvents.filter fun event =>
      event.runId == runId && event.sourceId == sourceId) =
        tracker.lossEvents.filter fun event => decide (event.stream = k) := by
    apply List.filter_congr
    intro event _
    simp [LossEvent.stream, hk, Bool.decide_and, beq_eq_decide]
  have hcounts : (((tracker.lossEvents.filter fun event => decide (event.stream = k)).map
      (·.count)).map UInt64.toNat).sum = ((gaps 0 (numbers ReadRecord.stream ReadRecord.seqNo k
        records)).map fun gap => gap.2 - gap.1 + 1).sum := by
    rw [← h.events, List.map_map, List.map_map]
    refine congrArg List.sum (List.map_congr_left fun event hevent => ?_)
    exact h.counts event (List.mem_filter.mp hevent).1
  have hnext := h.next k
  have hlt := (tracker.nextSeqBySource.getD k 0).toNat_lt
  have hbound : UInt64.toNat 0 + (((tracker.lossEvents.filter fun event =>
      decide (event.stream = k)).map (·.count)).map UInt64.toNat).sum < 2 ^ 64 := by
    rw [hcounts, UInt64.toNat_zero]
    omega
  obtain ⟨lost, hlost, hlost'⟩ := foldlM_checkedAdd (ε := ε) hbound
  refine ⟨lost, ?_, ?_⟩
  · rw [LossTracker.lost, hfilter]
    exact hlost
  · rw [LossTracker.delivered, ← hk, hdelivered, hlost', hcounts, UInt64.toNat_zero]
    omega

end LossTracker

/-! ## Records of a producer are honest -/

/-- A checkpoint attests its own number, and no other record of the producer attests any. -/
lemma Emitted.parseSourceHighWater {record : Record} (h : Emitted record) :
    LossTracker.parseSourceHighWater (record.withCrcFlag true) = none ∨
      LossTracker.parseSourceHighWater (record.withCrcFlag true) = some record.seq := by
  unfold LossTracker.parseSourceHighWater Record.withCrcFlag
  cases h with
  | data hslots => simp [hslots]
  | message hevent => simp [hevent, EVENT_MESSAGE, EVENT_SOURCE_HIGH_WATER]
  | highWater hevent hslots =>
    right
    simp [hevent, hslots]
  | stopped hevent => simp [hevent, EVENT_LOGGER_STOPPED, EVENT_SOURCE_HIGH_WATER]
  | changed _ hevent => simp [hevent, EVENT_DEFINITION_CHANGED, EVENT_SOURCE_HIGH_WATER]
  | started _ hevent => simp [hevent, EVENT_LOGGER_STARTED, EVENT_SOURCE_HIGH_WATER]

/-- No record of the producer reports dropped records. -/
lemma Emitted.parseRecordsDropped {ε : Type} {record : Record} (h : Emitted record)
    (bufferId : UInt32) :
    (LossTracker.parseRecordsDropped (record.withCrcFlag true) bufferId :
      Outcome ε (Option LossEvent)) = .ok none := by
  unfold LossTracker.parseRecordsDropped Record.withCrcFlag
  cases h with
  | data hslots => simp [hslots, LossTracker.droppedFields]
  | message hevent => simp [hevent, EVENT_MESSAGE, EVENT_RECORDS_DROPPED]
  | highWater hevent => simp [hevent, EVENT_SOURCE_HIGH_WATER, EVENT_RECORDS_DROPPED]
  | stopped hevent => simp [hevent, EVENT_LOGGER_STOPPED, EVENT_RECORDS_DROPPED]
  | changed _ hevent => simp [hevent, EVENT_DEFINITION_CHANGED, EVENT_RECORDS_DROPPED]
  | started _ hevent => simp [hevent, EVENT_LOGGER_STARTED, EVENT_RECORDS_DROPPED]

namespace EpochProducer.Counted

variable {producer : EpochProducer}

/-- Every record written is, as a reader sees it, honest about loss. -/
lemma honest (h : producer.Counted) {w : ReadRecord} (hw : w ∈ producer.written) :
    LossTracker.Honest w.delivered.record := by
  obtain ⟨next, hnumbers⟩ := h.numbers
  have hlt : w.record.seq.toNat < next w.stream := hnumbers.numbered.lt_next hw
  have hbound := hnumbers.bound w.stream
  refine ⟨(h.emitted w hw).parseSourceHighWater,
    fun _ => (h.emitted w hw).parseRecordsDropped, ?_⟩
  change w.record.seq.toNat + 1 < 2 ^ 64
  omega

/-- The numbers of the records written increase within each stream. -/
lemma increasing (h : producer.Counted) : LossTracker.Increasing producer.written := by
  obtain ⟨next, hnumbers⟩ := h.numbers
  exact hnumbers.numbered.pairwise

end EpochProducer.Counted

/-- What a reader sees of increasing records increases. -/
lemma LossTracker.Increasing.delivered {records : List ReadRecord}
    (h : LossTracker.Increasing records) :
    LossTracker.Increasing (records.map ReadRecord.delivered) :=
  List.pairwise_map.mpr h

/-! ## The pipeline -/

/-- A producer, a raw consumer of its ring, and the history of what was delivered. -/
structure Pipeline where
  producer : EpochProducer
  consumer : RawByteConsumer
  delivered : List ReadRecord

namespace Pipeline

/-- What can happen next. -/
inductive Action where
  | call (call : EpochCall)
  | poll
  deriving DecidableEq

/-- The action is not a data record under the reserved source id. -/
def Action.NamesSource : Action → Prop
  | call (.emitData sourceId _) => sourceId ≠ SYSTEM_SOURCE_ID
  | _ => True

/-- One step: a call that succeeds, or a poll that succeeds. -/
def step (pipe : Pipeline) : Action → Option Pipeline
  | .call call =>
    match call.run pipe.producer with
    | (.ok _, producer) => some { pipe with producer := producer }
    | _ => none
  | .poll =>
    match RawByteConsumer.poll pipe.producer.ring pipe.consumer with
    | (.ok batch, consumer) => some { pipe with
        consumer := consumer
        delivered := pipe.delivered ++ batch.records }
    | _ => none

/-- The state after a schedule of actions, if each succeeds. -/
def follow : List Action → Pipeline → Option Pipeline
  | [], pipe => some pipe
  | action :: actions, pipe => (pipe.step action).bind (follow actions)

/-- The invariant of the pipeline: what has been delivered is a part of what has been written, all
of it before the cursor, and the tracker has been fed exactly that. -/
structure Accounted (pipe : Pipeline) : Prop where
  counted : pipe.producer.Counted
  source : SYSTEM_SOURCE_ID ∉ pipe.producer.sourceSeq
  cursor : ∃ rest, At (logOf pipe.producer.written) pipe.consumer.cursorAbs rest
  taken : ∃ taken : List ReadRecord, taken.Sublist pipe.producer.written ∧
    pipe.delivered = taken.map ReadRecord.delivered ∧
    ∀ w ∈ taken, w.startAbs < pipe.consumer.cursorAbs
  tracks : pipe.consumer.tracker.Tracks pipe.delivered

variable {pipe pipe' : Pipeline}

/-- The numbers delivered increase within each stream. -/
lemma Accounted.increasing (h : pipe.Accounted) : LossTracker.Increasing pipe.delivered := by
  obtain ⟨taken, htaken, hdelivered, -⟩ := h.taken
  rw [hdelivered]
  exact LossTracker.Increasing.delivered (h.counted.increasing.sublist htaken)

/-- A new pipeline. -/
lemma accounted_new {capacity : ℕ} {runId epochId : UInt64} {producer : EpochProducer}
    (hcap : 80 ≤ capacity) (hnew : EpochProducer.new capacity runId epochId = .ok producer) :
    (Pipeline.mk producer .new []).Accounted := by
  have hempty : SYSTEM_SOURCE_ID ∉ producer.sourceSeq := by
    obtain ⟨ring, -, hproducer⟩ := Outcome.bind_eq_ok.mp hnew
    obtain rfl := Outcome.ok.inj hproducer
    simp
  exact ⟨EpochProducer.counted_new hcap hnew, hempty, ⟨_, At.zero _⟩,
    ⟨[], by simp, rfl, by simp⟩, LossTracker.tracks_new _⟩

/-- A call that succeeds. -/
lemma Accounted.call (h : pipe.Accounted) {call : EpochCall}
    (hsource : (Action.call call).NamesSource) {producer : EpochProducer}
    (hrun : call.run pipe.producer = (.ok (), producer)) :
    Accounted { pipe with producer := producer } := by
  have hmix : ¬call.Mixes pipe.producer := by
    cases call with
    | emitData sourceId eventTypeId => exact fun hmix => hsource hmix.2.1
    | beginEpochTransition _ _ _ => exact fun hmix => h.source hmix.2
    | _ => exact id
  have hcounted : producer.Counted := by
    have := h.counted.call hmix
    rwa [Mut.wp, hrun] at this
  have hkeeps : call.run.Keeps EpochProducer.Extends := by
    refine EpochProducer.keeps_call ?_
    rintro sourceId eventTypeId rfl
    exact hsource
  have hextends := hkeeps pipe.producer h.source
  rw [hrun] at hextends
  obtain ⟨⟨new, hnew⟩, hfree⟩ := hextends
  obtain ⟨rest, hat⟩ := h.cursor
  obtain ⟨taken, htaken, hdelivered, hbefore⟩ := h.taken
  refine ⟨hcounted, hfree, ⟨rest ++ logOf new, ?_⟩, ⟨taken, ?_, hdelivered, hbefore⟩, h.tracks⟩
  · have hlog : logOf producer.written = logOf pipe.producer.written ++ logOf new := by
      rw [← hnew]
      exact List.map_append
    exact hlog ▸ hat.append
  · exact htaken.trans (hnew ▸ List.sublist_append_left _ _)

/-- Accounting for a batch, record by record. -/
lemma accountRecords_eq {batch : List ReadRecord} :
    ∀ {tracker : LossTracker} {past : List ReadRecord}, tracker.Tracks past →
      LossTracker.Increasing (past ++ batch) → (∀ r ∈ batch, LossTracker.Honest r.record) →
      ∃ tracker', RawByteConsumer.accountRecords batch tracker = (.ok (), tracker') ∧
        tracker'.Tracks (past ++ batch) := by
  induction batch with
  | nil =>
    intro tracker past h _ _
    exact ⟨tracker, rfl, by simpa using h⟩
  | cons read batch ih =>
    intro tracker past h hincreasing hhonest
    obtain ⟨hread, hhonest⟩ := List.forall_mem_cons.mp hhonest
    rw [List.append_cons] at hincreasing ⊢
    have hfirst : LossTracker.Increasing (past ++ [read]) := (List.pairwise_append.mp hincreasing).1
    obtain ⟨next, haccount, hnext⟩ := h.account (ε := RingError) hfirst hread
    obtain ⟨tracker', hrest, htracks⟩ := ih hnext hincreasing hhonest
    exact ⟨tracker', by rw [RawByteConsumer.accountRecords, Mut.bind_of_ok haccount, hrest],
      htracks⟩

/-- A batch moves the cursor behind it. -/
lemma accountBatch_eq {batch : ReadBatch} {consumer : RawByteConsumer} {tracker' : LossTracker}
    (h : RawByteConsumer.accountRecords batch.records consumer.tracker = (.ok (), tracker')) :
    RawByteConsumer.accountBatch batch consumer = (.ok (), ⟨batch.nextAbs, tracker'⟩) := by
  rw [RawByteConsumer.accountBatch, Mut.bind_of_ok (Mut.field_of_ok h)]
  rfl

/-- **A poll succeeds**, and delivers the retained records from the cursor on.

**Proof sketch.** The raw reader returns the written records from the cursor on that are still
retained (`RingBuffer.Represents.readRawFrom`). What was taken before lies in front of the cursor,
and starts are in order, so both together are a part of the history; within a stream the numbers
of the history increase, which is what the tracker asks for. -/
lemma Accounted.poll (h : pipe.Accounted) :
    ∃ batch consumer, RawByteConsumer.poll pipe.producer.ring pipe.consumer =
        (.ok batch, consumer) ∧
      Accounted { pipe with
        consumer := consumer
        delivered := pipe.delivered ++ batch.records } := by
  have hring := h.counted.ring
  obtain ⟨rest, hat⟩ := h.cursor
  obtain ⟨taken, htaken, hdelivered, hbefore⟩ := h.taken
  set fresh := (retained pipe.producer.ring.headAbs pipe.producer.ring.capacity
    pipe.producer.written).filter fun w => decide (pipe.consumer.cursorAbs ≤ w.startAbs) with hfresh
  have hread := hring.readRawFrom hat
  have hmem : ∀ w ∈ fresh, w ∈ pipe.producer.written := fun w hw =>
    List.mem_of_mem_filter (List.mem_of_mem_filter hw)
  have hsublist : (taken ++ fresh).Sublist pipe.producer.written :=
    hring.sublist_taken_append htaken hbefore
  have hincreasing : LossTracker.Increasing
      (pipe.delivered ++ fresh.map ReadRecord.delivered) := by
    rw [hdelivered, ← List.map_append]
    exact LossTracker.Increasing.delivered (h.counted.increasing.sublist hsublist)
  have hhonest : ∀ r ∈ fresh.map ReadRecord.delivered, LossTracker.Honest r.record := by
    intro r hr
    obtain ⟨w, hw, rfl⟩ := List.mem_map.mp hr
    exact h.counted.honest (hmem w hw)
  obtain ⟨tracker', haccount, htracks⟩ := accountRecords_eq h.tracks hincreasing hhonest
  refine ⟨⟨fresh.map ReadRecord.delivered, pipe.producer.ring.headAbs,
    decide (pipe.consumer.cursorAbs < pipe.producer.ring.oldestAbs)⟩,
    ⟨pipe.producer.ring.headAbs, tracker'⟩, ?_, h.counted, h.source, ?_, ?_, htracks⟩
  · rw [RawByteConsumer.poll, Mut.get_bind, hread, Mut.lift_ok_bind]
    exact Mut.bind_of_ok (accountBatch_eq haccount)
  · refine ⟨[], ?_⟩
    have := At.headOf_append (logOf pipe.producer.written) []
    rwa [List.append_nil, ← hring.head] at this
  · refine ⟨taken ++ fresh, hsublist, ?_, ?_⟩
    · rw [hdelivered, List.map_append]
    · intro w hw
      exact hring.startAbs_lt_head (hsublist.subset hw)

/-- **Every step keeps the invariant.** -/
lemma Accounted.step (h : pipe.Accounted) {action : Action} (hsource : action.NamesSource)
    (hstep : pipe.step action = some pipe') : pipe'.Accounted := by
  cases action with
  | call call =>
    rw [Pipeline.step] at hstep
    split at hstep
    · rename_i producer hrun
      obtain rfl := Option.some.inj hstep
      exact h.call hsource hrun
    · cases hstep
  | poll =>
    obtain ⟨batch, consumer, hpoll, hnext⟩ := h.poll
    simp only [Pipeline.step, hpoll, Option.some.injEq] at hstep
    exact hstep ▸ hnext

/-- Over a schedule the invariant holds. -/
lemma Accounted.follow (h : pipe.Accounted) {actions : List Action}
    (hsources : ∀ action ∈ actions, action.NamesSource)
    (hfollow : pipe.follow actions = some pipe') : pipe'.Accounted := by
  induction actions generalizing pipe with
  | nil => exact Option.some.inj hfollow ▸ h
  | cons action actions ih =>
    obtain ⟨hsource, hsources⟩ := List.forall_mem_cons.mp hsources
    obtain ⟨next, hstep, hrest⟩ := Option.bind_eq_some_iff.mp hfollow
    exact ih (h.step hsource hstep) hsources hrest

end Pipeline

/-- **Loss conservation.** Over every schedule of successful calls, none of them a data record
under the reserved source id, and polls: the next poll succeeds; and in every stream of which a
record has been delivered, the delivered and the lost counts add up to one more than the highest
number delivered, the numbers delivered and the tracker's intervals are disjoint and cover
exactly the numbers up to it, and once the last record written has been delivered the two counts
add up to the number of records written. -/
theorem loss_conservation {capacity : ℕ} {runId epochId : UInt64} {producer : EpochProducer}
    (hcap : 80 ≤ capacity) (hnew : EpochProducer.new capacity runId epochId = .ok producer)
    {actions : List Pipeline.Action} (hsources : ∀ action ∈ actions, action.NamesSource)
    {pipe : Pipeline} (hrun : (Pipeline.mk producer .new []).follow actions = some pipe) :
    (∃ batch consumer, RawByteConsumer.poll pipe.producer.ring pipe.consumer =
      (.ok batch, consumer)) ∧
    ∀ run source delivered written,
      delivered = (pipe.delivered.filter fun r =>
        decide (r.record.runId = run ∧ r.record.sourceId = source)).map
          (fun r => r.record.seq.toNat) →
      written = (pipe.producer.written.filter fun r =>
        decide (r.record.runId = run ∧ r.record.sourceId = source)).map
          (fun r => r.record.seq.toNat) →
      delivered ≠ [] →
      ∃ highest ∈ delivered, ∃ lost, (∀ n ∈ delivered, n ≤ highest) ∧
        pipe.consumer.lostInRun run source = .ok lost ∧
        (pipe.consumer.deliveredInRun run source).toNat + lost.toNat = 1 + highest ∧
        (∀ n, n ≤ highest ↔ n ∈ delivered ∨ pipe.consumer.tracker.Lost run source n) ∧
        (∀ n ∈ delivered, ¬pipe.consumer.tracker.Lost run source n) ∧
        ∀ last, written.getLast? = some last → last ∈ delivered →
          (pipe.consumer.deliveredInRun run source).toNat + lost.toNat = written.length := by
  have h := (Pipeline.accounted_new hcap hnew).follow hsources hrun
  obtain ⟨batch, consumer, hpoll, -⟩ := h.poll
  refine ⟨⟨batch, consumer, hpoll⟩, ?_⟩
  intro run source delivered written hdelivered hwritten hne
  have hstream : ∀ records : List ReadRecord, (records.filter fun r =>
      decide (r.record.runId = run ∧ r.record.sourceId = source)).map
        (fun r => r.record.seq.toNat) =
          numbers ReadRecord.stream ReadRecord.seqNo (run, source) records := by
    intro records
    simp only [numbers, ReadRecord.stream, Prod.mk.injEq]
    rfl
  rw [hstream] at hdelivered hwritten
  have hsorted := h.increasing.sorted (run, source)
  have hzero : ∀ n ∈ delivered, 0 ≤ n := fun _ _ => Nat.zero_le _
  obtain ⟨lost, hlost, hadd⟩ :=
    h.tracks.delivered_add_lost (ε := RingError) h.increasing run source
  rw [← hdelivered] at hsorted hadd
  obtain ⟨highest, hhighest⟩ : ∃ highest, delivered.getLast? = some highest :=
    ⟨_, List.getLast?_eq_some_getLast hne⟩
  have hexpected : expected 0 delivered = highest + 1 := expected_eq_of_getLast? hhighest
  have hmem := List.mem_of_getLast? hhighest
  have hle : ∀ n ∈ delivered, n ≤ highest := by
    intro n hn
    have := (expected_le hzero hsorted).2 n hn
    omega
  have hsum : (pipe.consumer.deliveredInRun run source).toNat + lost.toNat = 1 + highest :=
    (hadd.trans hexpected).trans (Nat.add_comm _ _)
  refine ⟨highest, hmem, lost, hle, hlost, hsum, ?_, ?_, ?_⟩
  · intro n
    rw [h.tracks.lost_iff, ← hdelivered, ← lt_expected_iff hzero hsorted, hexpected]
    omega
  · intro n hn
    rw [h.tracks.lost_iff, ← hdelivered]
    rintro ⟨gap, hgap, hin⟩
    exact not_mem_gap hzero hsorted hn hgap hin
  · intro last hlast hlastmem
    obtain ⟨next, hnumbers⟩ := h.counted.numbers
    have hrange := hnumbers.numbered (run, source)
    rw [← hwritten] at hrange
    -- everything delivered has been written, so the last one written is the highest
    have hsub : ∀ n ∈ delivered, n ∈ written := by
      obtain ⟨taken, htaken, htakenEq, -⟩ := h.taken
      intro n hn
      rw [hdelivered, htakenEq] at hn
      obtain ⟨r, hr, hrstream, rfl⟩ := mem_numbers.mp hn
      obtain ⟨w, hw, rfl⟩ := List.mem_map.mp hr
      rw [hwritten]
      exact mem_numbers.mpr ⟨w, htaken.subset hw, hrstream, rfl⟩
    have hhighestmem := hsub highest hmem
    rw [hrange, List.mem_range] at hhighestmem
    have hlastle := hle last hlastmem
    have hlen : written.length = next (run, source) := by rw [hrange, List.length_range]
    rw [hrange, List.getLast?_range] at hlast
    have hnext : next (run, source) ≠ 0 := by omega
    rw [if_neg hnext, Option.some.injEq] at hlast
    omega

/-- Three data records in a pool that holds two, then a poll: the second and third are delivered,
and the tracker reports the first one lost. -/
theorem loss_conservation_of_three :
    ∃ producer pipe lost, EpochProducer.new 100 1 1 = .ok producer ∧
      (Pipeline.mk producer .new []).follow
        [.call (.emitData 7 1), .call (.emitData 7 1), .call (.emitData 7 1), .poll] = some pipe ∧
      pipe.consumer.lostInRun 1 7 = .ok lost ∧
      (pipe.consumer.deliveredInRun 1 7).toNat + lost.toNat = 3 ∧
      pipe.consumer.tracker.Lost 1 7 0 := by
  obtain ⟨producer, hnew⟩ : ∃ producer, EpochProducer.new 100 1 1 = .ok producer := ⟨_, rfl⟩
  have hmap : ((Pipeline.mk producer .new []).follow
      [.call (.emitData 7 1), .call (.emitData 7 1), .call (.emitData 7 1), .poll]).map
      (fun pipe => (pipe.delivered.filter fun r =>
        decide (r.record.runId = 1 ∧ r.record.sourceId = 7)).map (fun r => r.record.seq.toNat)) =
        some [1, 2] := by
    obtain rfl := Outcome.ok.inj hnew
    decide +kernel
  obtain ⟨pipe, hfollow, hdelivered⟩ := Option.map_eq_some_iff.mp hmap
  obtain ⟨-, hstreams⟩ := loss_conservation (by decide) hnew
    (by simp [Pipeline.Action.NamesSource, SYSTEM_SOURCE_ID]) hfollow
  obtain ⟨highest, hmem, lost, hle, hlost, hsum, hcover, -, -⟩ :=
    hstreams 1 7 [1, 2] _ hdelivered.symm rfl (by simp)
  have htwo := hle 2 (by simp)
  have hhighest : highest = 2 := by
    simp only [List.mem_cons, List.not_mem_nil, or_false] at hmem
    omega
  refine ⟨producer, pipe, lost, hnew, hfollow, hlost, by omega, ?_⟩
  simpa using (hcover 0).mp (Nat.zero_le _)

end OpenOT
