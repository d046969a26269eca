import OpenOT.Carriage.LossRoundTrip

set_option relaxedAutoImplicit false
set_option autoImplicit false

/-!
# The log of evictions

The producer's loss ranges against the history of the ring. The ring appends every record it
evicts to its list of ranges, and a drain takes the list away; all that was drained and what is
still in the ring spell out the evicted records one by one.

## Main definitions

* `OpenOT.LossRange.members` — the records a range stands for.
* `OpenOT.EvictionLog` — a ring, its history and the ranges drained from it.
* `OpenOT.EvictionLog.Exact` — the ranges spell out the evicted records.

## Main results

* `OpenOT.RingBuffer.evictLoop_members` — one eviction appends the records it drops.
* `OpenOT.loss_ranges_log_evictions` — the log is exact after every sequence of writes and drains.
-/

namespace OpenOT

open Rust Transition

/-! ## What a range stands for -/

/-- The run, the source and the number of an indexed record. -/
def RecordIndex.identity (idx : RecordIndex) : UInt64 × UInt32 × ℕ :=
  (idx.runId, idx.sourceId, idx.seq.toNat)

/-- The run, the source and the number of a written record. -/
def ReadRecord.identity (w : ReadRecord) : UInt64 × UInt32 × ℕ := w.indexEntry.identity

/-- The records that a range stands for. -/
def LossRange.members (range : LossRange) : List (UInt64 × UInt32 × ℕ) :=
  (List.range' range.firstSeq.toNat (range.lastSeq.toNat + 1 - range.firstSeq.toNat)).map fun n =>
    (range.runId, range.sourceId, n)

/-- The range is not empty, and its last number is not the last of `u64`. -/
abbrev LossRange.Proper (range : LossRange) : Prop := range.All fun _ _ => True

/-- The number of records that a range stands for. -/
lemma LossRange.length_members (range : LossRange) :
    range.members.length = range.lastSeq.toNat + 1 - range.firstSeq.toNat := by
  rw [LossRange.members, List.length_map, List.length_range']

/-- The count of a proper range is the number of its members. -/
lemma LossRange.Proper.count {range : LossRange} (h : range.Proper) {ε : Type} :
    ∃ count : UInt64, (range.count : Outcome ε UInt64) = .ok count ∧
      count.toNat = range.members.length := by
  have hle := h.le
  have hbound := h.bound
  obtain ⟨count, hcount, htoNat⟩ := LossRange.count_of_lt (ε := ε)
    (UInt64.le_iff_toNat_le.mpr hle) (by omega)
  refine ⟨count, hcount, ?_⟩
  rw [htoNat, LossRange.length_members]
  omega

/-- The counts of proper ranges, one by one. -/
lemma exists_counts {ε : Type} {ranges : List LossRange} (h : ∀ range ∈ ranges, range.Proper) :
    ∃ counts : List UInt64,
      ranges.map LossRange.count = counts.map (Outcome.ok : UInt64 → Outcome ε UInt64) ∧
      (counts.map UInt64.toNat).sum = (ranges.flatMap LossRange.members).length := by
  induction ranges with
  | nil => exact ⟨[], rfl, rfl⟩
  | cons range ranges ih =>
    obtain ⟨hrange, hranges⟩ := List.forall_mem_cons.mp h
    obtain ⟨count, hcount, htoNat⟩ := hrange.count (ε := ε)
    obtain ⟨counts, hcounts, hsum⟩ := ih hranges
    refine ⟨count :: counts, ?_, ?_⟩
    · rw [List.map_cons, List.map_cons, hcount, hcounts]
    · simp [htoNat, hsum]

/-- A range of one record. -/
lemma LossRange.members_single (runId : UInt64) (sourceId : UInt32) (seq : UInt64) :
    (⟨runId, sourceId, seq, seq⟩ : LossRange).members = [(runId, sourceId, seq.toNat)] := by
  simp [LossRange.members]

/-- A range that grows by the number behind its last. -/
lemma LossRange.members_extend {range : LossRange} {seq : UInt64} (h : range.Proper)
    (hseq : range.lastSeq + 1 = seq) :
    ({ range with lastSeq := seq } : LossRange).members =
      range.members ++ [(range.runId, range.sourceId, seq.toNat)] := by
  have hle := h.le
  have hbound := h.bound
  have hnext : seq.toNat = range.lastSeq.toNat + 1 := by
    rw [← hseq, UInt64.toNat_add]
    exact Nat.mod_eq_of_lt hbound
  have hlen : seq.toNat + 1 - range.firstSeq.toNat =
      range.lastSeq.toNat + 1 - range.firstSeq.toNat + 1 := by omega
  have hlast : range.firstSeq.toNat + (range.lastSeq.toNat + 1 - range.firstSeq.toNat) =
      seq.toNat := by omega
  simp only [LossRange.members]
  rw [hlen, List.range'_1_concat, List.map_append, hlast]
  rfl

namespace RingBuffer

variable {ranges : List LossRange}

/-- Remembering one more evicted record. -/
lemma recordProducerLoss_members {runId : UInt64} {sourceId : UInt32} {seq : UInt64}
    (h : ∀ range ∈ ranges, range.Proper) :
    (recordProducerLoss ranges runId sourceId seq).flatMap LossRange.members =
      ranges.flatMap LossRange.members ++ [(runId, sourceId, seq.toNat)] := by
  have hpush : (ranges ++ [(⟨runId, sourceId, seq, seq⟩ : LossRange)]).flatMap LossRange.members =
      ranges.flatMap LossRange.members ++ [(runId, sourceId, seq.toNat)] := by
    rw [List.flatMap_append, List.flatMap_singleton, LossRange.members_single]
  unfold recordProducerLoss
  cases hlast : ranges.getLast? with
  | none => exact hpush
  | some last =>
    dsimp only
    split_ifs with hmerge
    · obtain ⟨init, rfl⟩ := List.getLast?_eq_some_iff.mp hlast
      obtain ⟨rfl, rfl, hseq⟩ := hmerge
      rw [List.dropLast_concat, List.flatMap_append, List.flatMap_append, List.flatMap_singleton,
        List.flatMap_singleton, LossRange.members_extend (h last (by simp)) hseq,
        List.append_assoc]
    · exact hpush

/-- Evicting leaves proper ranges. -/
lemma evictLoop_proper {floor n : ℕ} {index : List RecordIndex}
    (h : ∀ range ∈ ranges, range.Proper) (hindex : ∀ idx ∈ index, idx.seq.toNat + 1 < 2 ^ 64) :
    ∀ range ∈ (evictLoop floor index ranges n).2.1, range.Proper := by
  refine evictLoop_all h ?_
  intro idx hidx _
  exact ⟨trivial, hindex idx hidx⟩

/-- **One eviction** appends the records that it drops, in their order. -/
lemma evictLoop_members {floor : ℕ} {index : List RecordIndex} {n : ℕ}
    (h : ∀ range ∈ ranges, range.Proper) (hindex : ∀ idx ∈ index, idx.seq.toNat + 1 < 2 ^ 64) :
    (evictLoop floor index ranges n).2.1.flatMap LossRange.members =
      ranges.flatMap LossRange.members ++
        (index.takeWhile fun idx => decide (idx.startAbs < floor)).map RecordIndex.identity := by
  induction index generalizing ranges n with
  | nil => simp [evictLoop]
  | cons front index ih =>
    obtain ⟨hfront, hindex⟩ := List.forall_mem_cons.mp hindex
    unfold evictLoop
    split_ifs with hlt
    · have hnext : ∀ range ∈ recordProducerLoss ranges front.runId front.sourceId front.seq,
          range.Proper := recordProducerLoss_all h trivial hfront
      rw [ih hnext hindex, recordProducerLoss_members h,
        List.takeWhile_cons_of_pos (by simpa using hlt), List.append_assoc]
      rfl
    · rw [List.takeWhile_cons_of_neg (by simpa using hlt)]
      simp

/-- What a ring retains is the history without what was lost. -/
lemma Represents.retained_eq_drop {ring : RingBuffer} {written : List ReadRecord}
    (h : ring.Represents written) :
    retained ring.headAbs ring.capacity written = written.drop ring.lostCount := by
  have hlost := h.lost
  have hsuffix : retained ring.headAbs ring.capacity written <:+ written := retained_suffix h.laid
  rw [h.index_eq, List.length_map] at hlost
  rw [List.suffix_iff_eq_drop.mp hsuffix,
    show written.length - (retained ring.headAbs ring.capacity written).length = ring.lostCount by
      omega]

/-- What the index lists is the history without what was lost. -/
lemma Represents.index_eq_drop {ring : RingBuffer} {written : List ReadRecord}
    (h : ring.Represents written) :
    ring.index = (written.drop ring.lostCount).map ReadRecord.indexEntry := by
  rw [h.index_eq, h.retained_eq_drop]

end RingBuffer

/-! ## A ring that is drained -/

/-- A ring, the records written to it, and the ranges drained from it. -/
structure EvictionLog where
  ring : RingBuffer
  written : List ReadRecord
  drained : List LossRange

/-- A call of the producer. -/
inductive EvictionCall where
  | write (record : Record)
  | drain

namespace EvictionLog

/-- A new ring. -/
def new (capacity : ℕ) : Outcome RingError EvictionLog := do
  pure ⟨← RingBuffer.new capacity, [], []⟩

/-- One call, unless it panics. A write that fails changes nothing. -/
def step (log : EvictionLog) : EvictionCall → Option EvictionLog
  | .write record =>
    match RingBuffer.writeRecord record log.ring with
    | (.ok (startAbs, endAbs), ring) =>
      some { log with ring := ring, written := log.written ++ [⟨startAbs, endAbs, record⟩] }
    | (.err _, ring) => some { log with ring := ring }
    | (.panic, _) => none
  | .drain =>
    match RingBuffer.takeProducerLossRanges log.ring with
    | (.ok ranges, ring) => some { log with ring := ring, drained := log.drained ++ ranges }
    | _ => none

/-- The ranges drained so far and those still in the ring. -/
def ranges (log : EvictionLog) : List LossRange := log.drained ++ log.ring.producerLossRanges

/-- The ranges spell out the records that were evicted. -/
structure Exact (log : EvictionLog) : Prop where
  represents : log.ring.Represents log.written
  bound : ∀ w ∈ log.written, w.record.seq.toNat + 1 < 2 ^ 64
  proper : ∀ range ∈ log.ranges, range.Proper
  members : log.ranges.flatMap LossRange.members =
    (log.written.take log.ring.lostCount).map ReadRecord.identity

variable {log log' : EvictionLog}

/-- Nothing was evicted from a new ring. -/
lemma exact_new {capacity : ℕ} (hnew : new capacity = .ok log) : log.Exact := by
  obtain ⟨ring, hring, hlog⟩ := Outcome.bind_eq_ok.mp hnew
  obtain rfl := Outcome.ok.inj hlog
  have hrep := (RingBuffer.represents_new hring).1
  have hranges : ring.producerLossRanges = [] := by
    unfold RingBuffer.new at hring
    split_ifs at hring
    obtain rfl := Outcome.ok.inj hring
    rfl
  exact ⟨hrep, by simp, by simp [ranges, hranges], by simp [ranges, hranges]⟩

/-- A write that is accepted.

**Proof sketch.** The index is the history without its first `lostCount` records, and the loop
takes some more of them off its front. These are the ones it appends to the ranges. -/
lemma Exact.accept (h : log.Exact) {record : Record} (henc : record.Encodable true)
    (hle : (record.bytes true).length ≤ log.ring.capacity) (hseq : record.seq.toNat + 1 < 2 ^ 64) :
    ∃ ring startAbs endAbs,
      RingBuffer.writeRecord record log.ring = (.ok (startAbs, endAbs), ring) ∧
      Exact { log with ring := ring, written := log.written ++ [⟨startAbs, endAbs, record⟩] } := by
  obtain ⟨ring, startAbs, endAbs, floor, hwrite, -, -, -, -, -, hindex, -, hcount, hranges⟩ :=
    RingBuffer.writeRecord_eq h.represents.capacity_pos henc hle
  have hrep : ring.Represents (log.written ++ [⟨startAbs, endAbs, record⟩]) := by
    rcases h.represents.writeRecord record with
      ⟨ring', start', end', hwrite', -, -, -, -, -, -, hrep⟩ | ⟨hreject, -⟩
    · rw [hwrite] at hwrite'
      cases hwrite'
      exact hrep
    · exact absurd ⟨henc, hle⟩ hreject
  have hdrop := h.represents.index_eq_drop
  have hlost := h.represents.lost
  have hbound : ∀ idx ∈ log.ring.index, idx.seq.toNat + 1 < 2 ^ 64 := by
    intro idx hidx
    rw [hdrop] at hidx
    obtain ⟨w, hw, rfl⟩ := List.mem_map.mp hidx
    exact h.bound w (List.mem_of_mem_drop hw)
  have hproper : ∀ range ∈ log.ring.producerLossRanges, range.Proper := fun range hrange =>
    h.proper range (List.mem_append_right _ hrange)
  -- the records that the loop drops
  set gone := log.ring.index.takeWhile fun idx => decide (idx.startAbs < floor) with hgone
  have hsplit := List.takeWhile_append_dropWhile
    (p := fun idx : RecordIndex => decide (idx.startAbs < floor)) (l := log.ring.index)
  rw [← hgone] at hsplit
  have hlength := congrArg List.length hsplit
  rw [List.length_append] at hlength
  have hlost' : ring.lostCount = log.ring.lostCount + gone.length := by
    rw [hindex, List.length_append, List.length_singleton] at hcount
    omega
  have hgoneEq : gone.map RecordIndex.identity =
      ((log.written.drop log.ring.lostCount).take gone.length).map ReadRecord.identity := by
    have htake : gone = log.ring.index.take gone.length := by
      conv_rhs => rw [← hsplit]
      exact (List.take_left' rfl).symm
    conv_lhs => rw [htake, hdrop]
    rw [← List.map_take, List.map_map]
    rfl
  refine ⟨ring, startAbs, endAbs, hwrite, hrep, ?_, ?_, ?_⟩
  · intro w hw
    rcases List.mem_append.mp hw with hold | hlast
    · exact h.bound w hold
    · rw [List.mem_singleton.mp hlast]
      exact hseq
  · intro range hrange
    rcases List.mem_append.mp hrange with hold | hnew
    · exact h.proper range (List.mem_append_left _ hold)
    · exact RingBuffer.evictLoop_proper hproper hbound range (hranges ▸ hnew)
  · have hmembers := h.members
    rw [ranges, List.flatMap_append] at hmembers
    have htake : (log.written ++ [(⟨startAbs, endAbs, record⟩ : ReadRecord)]).take ring.lostCount =
        log.written.take log.ring.lostCount ++
          (log.written.drop log.ring.lostCount).take gone.length := by
      rw [hlost', List.take_append_of_le_length (by omega), List.take_add]
    rw [ranges, hranges, htake, List.flatMap_append,
      RingBuffer.evictLoop_members hproper hbound, ← List.append_assoc, hmembers, List.map_append,
      ← hgoneEq]

/-- One write. -/
lemma Exact.write (h : log.Exact) {record : Record} (hseq : record.seq.toNat + 1 < 2 ^ 64) :
    ∃ log', log.step (.write record) = some log' ∧ log'.Exact := by
  by_cases hok : record.Encodable true ∧ (record.bytes true).length ≤ log.ring.capacity
  · obtain ⟨ring, startAbs, endAbs, hwrite, hexact⟩ := h.accept hok.1 hok.2 hseq
    exact ⟨_, by simp only [step, hwrite], hexact⟩
  · obtain ⟨e, hwrite⟩ := RingBuffer.writeRecord_reject hok
    exact ⟨_, by simp only [step, hwrite], h⟩

/-- One drain: the ranges change places. -/
lemma Exact.drain (h : log.Exact) : ∃ log', log.step .drain = some log' ∧ log'.Exact := by
  have hrep := h.represents
  refine ⟨_, rfl, ?_, h.bound, ?_, ?_⟩
  · exact ⟨hrep.capacity_pos, hrep.laid, hrep.spans, hrep.head, hrep.index_eq, hrep.oldest,
      hrep.lost, hrep.intact⟩
  · simpa [ranges] using h.proper
  · simpa [ranges] using h.members

/-- What a schedule of calls keeps. -/
lemma Exact.follow (h : log.Exact) {calls : List EvictionCall}
    (hseq : ∀ record, .write record ∈ calls → record.seq.toNat + 1 < 2 ^ 64) :
    ∃ log', Transition.follow step (fun _ _ => True) calls log = some log' ∧ log'.Exact := by
  induction calls generalizing log with
  | nil => exact ⟨log, rfl, h⟩
  | cons call calls ih =>
    obtain ⟨next, hstep, hexact⟩ : ∃ next, log.step call = some next ∧ next.Exact := by
      cases call with
      | write record => exact h.write (hseq record List.mem_cons_self)
      | drain => exact h.drain
    obtain ⟨log', hfollow, hexact'⟩ := ih hexact fun record hrecord =>
      hseq record (List.mem_cons_of_mem _ hrecord)
    exact ⟨log', by rw [Transition.follow, if_pos trivial, hstep, Option.bind_some, hfollow],
      hexact'⟩

end EvictionLog

/-! ## The log -/

/-- **The loss ranges log the evictions.** After any sequence of writes and drains on a new ring,
none of which panics, the history is what was evicted followed by what the index lists; the ranges
drained and those still in the ring, each written out, are the records evicted, in their order;
and the counts of these ranges sum to the lost count. -/
theorem loss_ranges_log_evictions {capacity : ℕ} {init : EvictionLog}
    (hnew : EvictionLog.new capacity = .ok init) (calls : List EvictionCall)
    (hseq : ∀ record, .write record ∈ calls → record.seq.toNat < 2 ^ 64 - 1) :
    ∃ log evicted kept, follow EvictionLog.step (fun _ _ => True) calls init = some log ∧
      log.written = evicted ++ kept ∧ log.ring.index = kept.map ReadRecord.indexEntry ∧
      (log.drained ++ log.ring.producerLossRanges).flatMap LossRange.members =
        evicted.map ReadRecord.identity ∧
      ∃ counts : List UInt64,
        (log.drained ++ log.ring.producerLossRanges).map LossRange.count =
          counts.map (Outcome.ok : UInt64 → Outcome RingError UInt64) ∧
        (counts.map UInt64.toNat).sum = log.ring.lostCount := by
  obtain ⟨log, hfollow, hexact⟩ := (EvictionLog.exact_new hnew).follow fun record hrecord => by
    have := hseq record hrecord
    omega
  have hlost := hexact.represents.lost
  refine ⟨log, _, _, hfollow, (List.take_append_drop log.ring.lostCount log.written).symm,
    hexact.represents.index_eq_drop, hexact.members, ?_⟩
  obtain ⟨counts, hcounts, hsum⟩ := exists_counts (ε := RingError) hexact.proper
  refine ⟨counts, hcounts, ?_⟩
  rw [hsum, hexact.members, List.length_map, List.length_take]
  omega

/-- Four records of one source in a ring for two, with a drain between the two evictions: the
second range does not continue the first, since that is drained. -/
def drainedCalls : List EvictionCall :=
  [.write (Record.new 0 7 0 1 1), .write (Record.new 0 7 1 1 1), .write (Record.new 0 7 2 1 1),
    .drain, .write (Record.new 0 7 3 1 1)]

/-- The ranges of that schedule name the first two records. -/
theorem loss_ranges_log_evictions_drained :
    ∃ (init log : EvictionLog) (evicted : List ReadRecord), EvictionLog.new 88 = .ok init ∧
      follow EvictionLog.step (fun _ _ => True) drainedCalls init = some log ∧
      log.drained = [⟨7, 1, 0, 0⟩] ∧ log.ring.producerLossRanges = [⟨7, 1, 1, 1⟩] ∧
      log.ring.lostCount = 2 ∧
      (log.drained ++ log.ring.producerLossRanges).flatMap LossRange.members =
        evicted.map ReadRecord.identity := by
  obtain ⟨init, hnew⟩ : ∃ init, EvictionLog.new 88 = .ok init := ⟨_, rfl⟩
  have hseq : ∀ record, .write record ∈ drainedCalls → record.seq.toNat < 2 ^ 64 - 1 := by
    intro record hrecord
    simp only [drainedCalls, List.mem_cons, EvictionCall.write.injEq, List.not_mem_nil, or_false,
      reduceCtorEq, false_or] at hrecord
    rcases hrecord with rfl | rfl | rfl | rfl <;> decide
  obtain ⟨log, evicted, kept, hfollow, -, -, hmembers, -⟩ :=
    loss_ranges_log_evictions hnew drainedCalls hseq
  have hsummary : (follow EvictionLog.step (fun _ _ => True) drainedCalls init).map
      (fun log => (log.drained, log.ring.producerLossRanges, log.ring.lostCount)) =
        some ([⟨7, 1, 0, 0⟩], [⟨7, 1, 1, 1⟩], 2) := by
    obtain rfl := Outcome.ok.inj hnew
    decide +kernel
  rw [hfollow, Option.map_some, Option.some.injEq, Prod.mk.injEq, Prod.mk.injEq] at hsummary
  exact ⟨init, log, evicted, hnew, hfollow, hsummary.1, hsummary.2.1, hsummary.2.2, hmembers⟩

end OpenOT
