import OpenOT.Conformance.LiveHarness
import OpenOT.Conformance.OracleRuns
import OpenOT.Lib.Grouping

set_option relaxedAutoImplicit false
set_option autoImplicit false

/-!
# The records of the live harness

What the producer of the harness writes, and what its consumer makes of it: a record that stands
where it says it does passes the oracle, the observer and the tracker.

## Main definitions

* `OpenOT.LiveHarness.Planned.recordAt` — a planned record with the offset it is written at.
* `OpenOT.LiveHarness.Written` — an entry of the ring holds a planned record.
* `OpenOT.LiveHarness.Standing` — a delivered record is a planned one at its own offset.
* `OpenOT.Conformance.BatchObserver.Quiet` — an observer that has reported nothing.

## Main results

* `OpenOT.LiveHarness.Planned.call_cases` — what the producer publishes.
* `OpenOT.LiveHarness.pairwise_plan` — the numbers of each source increase.
* `OpenOT.Conformance.BatchObserver.Quiet.observeReads` — records in sequence that the oracle says
  nothing about are not reported.
-/

namespace OpenOT

open Rust CircularLog

namespace Conformance

/-! ## Observing without a report -/

namespace BatchObserver

variable {O : Type} {observer : BatchObserver O} {seen : List ReadRecord}

/-- The observer has reported nothing of the records `seen`. -/
structure Quiet (observer : BatchObserver O) (seen : List ReadRecord) : Prop where
  keys : ∀ k, k ∈ observer.seenRecords ↔ ∃ r ∈ seen, keyOf r = k
  next : ∀ k, (observer.nextSeqBySource.getD k 0).toNat =
    Numbering.expected 0 (Numbering.numbers ReadRecord.stream ReadRecord.seqNo k seen)
  violations : observer.violations = []

/-- A new observer has seen nothing. -/
lemma quiet_new (oracle : O) : (new oracle).Quiet [] :=
  ⟨by simp [new], by simp [new, Numbering.numbers, Numbering.expected], rfl⟩

/-- In increasing records the next one is in sequence. -/
lemma Quiet.inSequence (h : observer.Quiet seen) {read : ReadRecord}
    (hincreasing : LossTracker.Increasing (seen ++ [read])) : observer.InSequence read := by
  constructor
  · rw [h.keys]
    rintro ⟨r, hr, hkey⟩
    have hlt := (List.pairwise_append.mp hincreasing).2.2 r hr read (List.mem_singleton_self _)
    simp only [keyOf, RecordKey.mk.injEq] at hkey
    have hseq : r.seqNo < read.seqNo := hlt (Prod.ext hkey.1 hkey.2.1)
    exact hseq.ne (congrArg UInt64.toNat hkey.2.2.1)
  · rw [UInt64.le_iff_toNat_le]
    exact (h.next read.stream).trans_le hincreasing.expected_le

/-- A record in sequence is noted. -/
lemma Quiet.follow (h : observer.Quiet seen) {read : ReadRecord}
    (hseq : read.record.seq.toNat + 1 < 2 ^ 64) :
    (observer.follow read).Quiet (seen ++ [read]) := by
  refine ⟨fun k => ?_, fun k => ?_, h.violations⟩
  · simp only [BatchObserver.follow, Std.TreeSet.mem_insert, Std.LawfulEqCmp.compare_eq_iff_eq,
      h.keys, List.mem_append, List.mem_singleton]
    constructor
    · rintro (rfl | ⟨r, hr, rfl⟩)
      · exact ⟨read, Or.inr rfl, rfl⟩
      · exact ⟨r, Or.inl hr, rfl⟩
    · rintro ⟨r, hr | rfl, rfl⟩
      · exact Or.inr ⟨r, hr, rfl⟩
      · exact Or.inl rfl
  · have hone := (checkedAdd_of_lt (ε := ConformanceError) (a := read.record.seq) (b := 1) hseq).2
    simp only [BatchObserver.follow, Std.TreeMap.getD_insert, Std.LawfulEqCmp.compare_eq_iff_eq]
    rw [LossTracker.numbers_concat]
    by_cases hk : k = read.stream
    · rw [if_pos (show (read.record.runId, read.record.sourceId) = k from hk.symm), if_pos hk,
        Numbering.expected_concat, hone]
      rfl
    · rw [if_neg (show ¬(read.record.runId, read.record.sourceId) = k from Ne.symm hk), if_neg hk, List.append_nil]
      exact h.next k

variable [StaleOracle O]

/-- A record in sequence that the oracle says nothing about is not reported. -/
lemma Quiet.observeRead (h : observer.Quiet seen) {read : ReadRecord}
    (horacle : ∀ oracle : O, StaleOracle.observe read oracle = (.ok [], oracle))
    (hincreasing : LossTracker.Increasing (seen ++ [read]))
    (hseq : read.record.seq.toNat + 1 < 2 ^ 64) :
    BatchObserver.observeRead read observer = (.ok (), observer.follow read) := by
  have hfield : Mut.field BatchObserver.oracle (fun oracle (observer : BatchObserver O) =>
      { observer with oracle := oracle }) id (StaleOracle.observe read) observer =
        (.ok [], observer) := Mut.field_of_ok (horacle observer.oracle)
  rw [BatchObserver.observeRead, Mut.bind_of_ok hfield, Mut.modify_bind, List.append_nil]
  rcases observer.observeSequence_cases read with ⟨-, -, hread⟩ | ⟨-, hnot, -⟩ | ⟨hnot, -⟩
  · exact hread
  · exact absurd hseq hnot
  · exact absurd (h.inSequence hincreasing) hnot

/-- **Records in sequence that the oracle says nothing about** are not reported. -/
lemma Quiet.observeReads {reads : List ReadRecord} (h : observer.Quiet seen)
    (horacle : ∀ read ∈ reads, ∀ oracle : O, StaleOracle.observe read oracle = (.ok [], oracle))
    (hincreasing : LossTracker.Increasing (seen ++ reads))
    (hseq : ∀ read ∈ reads, read.record.seq.toNat + 1 < 2 ^ 64) :
    ∃ observer', BatchObserver.observeReads reads observer = (.ok (), observer') ∧
      observer'.Quiet (seen ++ reads) := by
  induction reads generalizing observer seen with
  | nil => exact ⟨observer, rfl, by rwa [List.append_nil]⟩
  | cons read reads ih =>
    obtain ⟨hread, horacle⟩ := List.forall_mem_cons.mp horacle
    obtain ⟨hfirst, hseq⟩ := List.forall_mem_cons.mp hseq
    rw [List.append_cons] at hincreasing ⊢
    have hone : LossTracker.Increasing (seen ++ [read]) := (List.pairwise_append.mp hincreasing).1
    obtain ⟨observer', hrun, hquiet⟩ := ih (h.follow hfirst) horacle hincreasing hseq
    refine ⟨observer', ?_, hquiet⟩
    rw [BatchObserver.observeReads, Mut.bind_of_ok (h.observeRead hread hone hfirst), hrun]

end BatchObserver

end Conformance

namespace LiveHarness

open Conformance

/-! ## Planned records -/

namespace Planned

/-- The source of a planned record. -/
def sourceId : Planned → UInt32
  | message sourceId _ => sourceId
  | sourceHighWater sourceId _ => sourceId

/-- The number of a planned record. -/
def seq : Planned → UInt64
  | message _ seq => seq
  | sourceHighWater _ producedCount => producedCount

/-- The event type of a planned record. -/
def eventTypeId : Planned → UInt32
  | message _ _ => EVENT_MESSAGE
  | sourceHighWater _ _ => EVENT_SOURCE_HIGH_WATER

/-- The slots of a planned record in front of its offset. -/
def slots : Planned → List Slot
  | message _ _ => []
  | sourceHighWater _ producedCount =>
    [⟨KEY_SOURCE_HIGH_WATER, TY_ULINT, toLe 8 producedCount.toNat⟩]

/-- The number of bytes of a planned record. -/
def length : Planned → ℕ
  | message _ _ => 56
  | sourceHighWater _ _ => 68

/-- The planned record with the offset it is written at. -/
def recordAt (startAbs : ℕ) (planned : Planned) : Record :=
  { Record.new (1780000000000000000 + planned.seq) RUN_ID planned.seq planned.sourceId
      planned.eventTypeId with
    slots := planned.slots ++ [expectedAbsSlot startAbs] }

/-- The clock of the producer has a time for the record. -/
def Timed (planned : Planned) : Prop := 1780000000000000000 + planned.seq.toNat < 2 ^ 64

variable {planned : Planned}

/-- A planned record can be encoded, in as many bytes wherever it stands. -/
lemma encodable_recordAt (startAbs : ℕ) :
    (planned.recordAt startAbs).Encodable true ∧
      ((planned.recordAt startAbs).bytes true).length = planned.length := by
  rw [length_bytes]
  have hlen : (planned.recordAt startAbs).encodedLen true = planned.length := by
    cases planned <;>
      simp [recordAt, Record.encodedLen, slotArea, Slot.bytes, slots, expectedAbsSlot, length,
        HEADER_LEN, CRC_LEN, paddingLen]
  refine ⟨⟨?_, ?_⟩, hlen⟩
  · cases planned <;> simp [recordAt, slots, expectedAbsSlot]
  · rw [hlen]
    cases planned <;> simp [length]

lemma length_le : planned.length ≤ 68 := by
  cases planned <;> simp [length]

lemma length_ge : 56 ≤ planned.length := by
  cases planned <;> simp [length]

/-- The producer makes a record if its clock has a time for it. -/
lemma record_eq {ε : Type} (planned : Planned) : (planned.record : Outcome ε Record) =
    if 1780000000000000000 + planned.seq.toNat < 2 ^ 64 then
      .ok { planned.recordAt 0 with slots := planned.slots }
    else .panic := by
  have hrecord : (planned.record : Outcome ε Record) = (do
      let sourceTime ← checkedAdd 1780000000000000000 planned.seq
      pure { Record.new sourceTime RUN_ID planned.seq planned.sourceId planned.eventTypeId with
        slots := planned.slots }) := by
    cases planned <;> rfl
  rw [hrecord, checkedAdd, show (1780000000000000000 : UInt64).toNat = 1780000000000000000 from rfl]
  split_ifs <;> rfl

/-- The producer gives a record the offset at which it is going to stand. -/
lemma recordWithExpectedAbs_eq (planned : Planned) (producer : ConcurrentProducer) :
    recordWithExpectedAbs producer { planned.recordAt 0 with slots := planned.slots } =
      if 2 ^ 64 ≤ producer.nextStartAbs planned.length then .panic
      else .ok (planned.recordAt (producer.nextStartAbs planned.length)) := by
  have hrecordAt : { planned.recordAt 0 with
      slots := planned.slots ++ [expectedAbsSlot 0] } = planned.recordAt 0 := rfl
  rw [recordWithExpectedAbs]
  simp only [hrecordAt, encode_of_encodable (encodable_recordAt 0).1, (encodable_recordAt 0).2,
    Outcome.mapErr_ok, Outcome.ok_bind]
  rw [List.getLast?_concat, List.dropLast_concat]
  rfl

/-- Both ways to publish a record write it. -/
lemma exists_publishRecord (appendMode : AppendMode) (planned : Planned) (startAbs : ℕ) :
    ∃ call, publishRecord appendMode (planned.recordAt startAbs) = .ok call ∧
      call.bytes = (planned.recordAt startAbs).bytes true ∧
      call.run = ConcurrentProducer.writeRecord (planned.recordAt startAbs) := by
  have hencode := encode_of_encodable (planned.encodable_recordAt startAbs).1
  cases appendMode with
  | writeRecord => exact ⟨_, rfl, by rw [AppendCall.bytes, hencode], rfl⟩
  | encoded =>
    refine ⟨.appendEncoded ((planned.recordAt startAbs).bytes true), ?_, rfl,
      appendEncoded_of_encode hencode⟩
    rw [publishRecord, hencode]
    rfl

/-- **What the producer publishes** is the planned record with the offset it is written at, unless
its clock or the offset overflows. -/
lemma call_cases (args : RunArgs) (producer : ConcurrentProducer) (planned : Planned) :
    (planned.Timed ∧ producer.nextStartAbs planned.length < 2 ^ 64 ∧
        ∃ call, planned.call args producer = .ok call ∧
          call.bytes = (planned.recordAt (producer.nextStartAbs planned.length)).bytes true ∧
          call.run = ConcurrentProducer.writeRecord
            (planned.recordAt (producer.nextStartAbs planned.length))) ∨
      ¬(planned.Timed ∧ producer.nextStartAbs planned.length < 2 ^ 64) ∧
        planned.call args producer = .panic := by
  rw [Planned.call, record_eq]
  by_cases htimed : 1780000000000000000 + planned.seq.toNat < 2 ^ 64
  · rw [if_pos htimed, Outcome.ok_bind, recordWithExpectedAbs_eq]
    by_cases hlt : producer.nextStartAbs planned.length < 2 ^ 64
    · rw [if_neg (Nat.not_le.mpr hlt), Outcome.ok_bind]
      exact Or.inl ⟨htimed, hlt, exists_publishRecord _ _ _⟩
    · rw [if_pos (Nat.not_lt.mp hlt), Outcome.panic_bind]
      exact Or.inr ⟨fun h => hlt h.2, rfl⟩
  · rw [if_neg htimed, Outcome.panic_bind]
    exact Or.inr ⟨fun h => htimed h.1, rfl⟩

end Planned

/-- A record that can be encoded and fits is published. -/
lemma writeRecord_of_le {producer : ConcurrentProducer} {record : Record}
    (henc : record.Encodable true) (hle : (record.bytes true).length ≤ producer.capacity) :
    producer.writeRecord record = (.ok (producer.appendBytesCore (record.bytes true)).1,
      (producer.appendBytesCore (record.bytes true)).2) := by
  simp only [ConcurrentProducer.writeRecord, encode_of_encodable henc, Outcome.mapErr_ok,
    Mut.lift_ok_bind, Mut.get_bind, if_neg (Nat.not_lt.mpr hle), ConcurrentProducer.publish]

/-! ## The plan -/

section Plan

variable {args : RunArgs}

lemma mem_sourceIds {count sourceId : UInt32} :
    sourceId ∈ sourceIds count ↔ 1 ≤ sourceId.toNat ∧ sourceId.toNat ≤ count.toNat := by
  have hcount := count.toNat_lt
  simp only [sourceIds, List.mem_map, List.mem_range]
  constructor
  · rintro ⟨i, hi, rfl⟩
    rw [UInt32.toNat_ofNat', Nat.mod_eq_of_lt (by omega)]
    omega
  · rintro ⟨hpos, hle⟩
    refine ⟨sourceId.toNat - 1, by omega, ?_⟩
    rw [Nat.sub_add_cancel hpos, UInt32.ofNat_toNat]

@[simp] lemma length_sourceIds (count : UInt32) : (sourceIds count).length = count.toNat := by
  simp [sourceIds]

/-- Every source has its messages and its checkpoint. -/
lemma length_plan (args : RunArgs) :
    (plan args).length = args.sources.toNat * (args.perSource.toNat + 1) := by
  simp [plan, List.length_flatMap, Nat.mul_add, Nat.mul_comm]

/-- No source is listed twice. -/
lemma nodup_sourceIds (count : UInt32) : (sourceIds count).Nodup := by
  have hcount := count.toNat_lt
  refine List.Nodup.map_on (fun i hi j hj heq => ?_) List.nodup_range
  rw [List.mem_range] at hi hj
  have := congrArg UInt32.toNat heq
  rw [UInt32.toNat_ofNat', UInt32.toNat_ofNat', Nat.mod_eq_of_lt (by omega),
    Nat.mod_eq_of_lt (by omega)] at this
  omega

/-- The record of the source that comes first has the smaller number. -/
def Before (a b : Planned) : Prop := a.sourceId = b.sourceId → a.seq.toNat < b.seq.toNat

/-- One record of every source is in order. -/
lemma pairwise_round (count : UInt32) {planned : UInt32 → Planned}
    (hsource : ∀ sourceId, (planned sourceId).sourceId = sourceId) :
    ((sourceIds count).map planned).Pairwise Before := by
  rw [List.pairwise_map]
  refine (nodup_sourceIds count).imp fun hne heq => absurd ?_ hne
  rwa [hsource, hsource] at heq

/-- **The numbers of each source increase** in the plan. -/
lemma pairwise_plan (args : RunArgs) : (plan args).Pairwise Before := by
  have hlast := args.perSource.toNat_lt
  have hseq {seq : ℕ} (h : seq ∈ List.range args.perSource.toNat) :
      (UInt64.ofNat seq).toNat = seq := by
    rw [List.mem_range] at h
    rw [UInt64.toNat_ofNat', Nat.mod_eq_of_lt (by omega)]
  refine List.pairwise_append.mpr ⟨List.pairwise_flatMap.mpr ⟨fun seq _ => ?_, ?_⟩, ?_, ?_⟩
  · exact pairwise_round _ fun _ => rfl
  · refine List.Pairwise.imp_of_mem ?_ List.pairwise_lt_range
    intro seq seq' hin hin' hlt a ha b hb _
    obtain ⟨s, -, rfl⟩ := List.mem_map.mp ha
    obtain ⟨s', -, rfl⟩ := List.mem_map.mp hb
    simpa only [Planned.seq, hseq hin, hseq hin'] using hlt
  · exact pairwise_round _ fun _ => rfl
  · intro a ha b hb _
    obtain ⟨seq, hin, ha⟩ := List.mem_flatMap.mp ha
    obtain ⟨s, -, rfl⟩ := List.mem_map.mp ha
    obtain ⟨s', -, rfl⟩ := List.mem_map.mp hb
    simpa only [Planned.seq, hseq hin] using List.mem_range.mp hin

/-- No number is above that of the checkpoints. -/
lemma seq_le_of_mem_plan {planned : Planned} (h : planned ∈ plan args) :
    planned.seq.toNat ≤ args.perSource.toNat := by
  have hlast := args.perSource.toNat_lt
  rcases List.mem_append.mp h with h | h
  · obtain ⟨seq, hin, h⟩ := List.mem_flatMap.mp h
    obtain ⟨s, -, rfl⟩ := List.mem_map.mp h
    rw [List.mem_range] at hin
    rw [Planned.seq, UInt64.toNat_ofNat', Nat.mod_eq_of_lt (by omega)]
    omega
  · obtain ⟨s, -, rfl⟩ := List.mem_map.mp h
    exact le_rfl

end Plan

/-! ## Written and delivered records -/

/-- An entry of the ring holds a planned record, with the offset at which it stands. -/
structure Written (planned : Planned) (e : Entry UInt8) : Prop where
  timed : planned.Timed
  start_lt : e.start < 2 ^ 64
  data : e.data = (planned.recordAt e.start).bytes true

/-- A delivered record is a planned one, with the offset at which it stood. -/
structure Standing (planned : Planned) (read : ReadRecord) : Prop where
  timed : planned.Timed
  start_lt : read.startAbs < 2 ^ 64
  record : read.record = (planned.recordAt read.startAbs).withCrcFlag true

/-- What is delivered of a planned record stands where it says. -/
lemma Written.standing {planned : Planned} {e : Entry UInt8} {read : ReadRecord}
    (h : Written planned e) (hdelivers : Delivers read e) : Standing planned read := by
  have hencode := encode_of_encodable (planned.encodable_recordAt e.start).1
  have hdecodes := hdelivers.decodes
  rw [h.data] at hdecodes
  refine ⟨h.timed, hdelivers.start ▸ h.start_lt, ?_⟩
  rw [hdelivers.start]
  exact hdecodes.unique (Decodes.of_encode hencode)

namespace Standing

variable {planned : Planned} {read : ReadRecord}

lemma stream (h : Standing planned read) : read.stream = (RUN_ID, planned.sourceId) := by
  rw [ReadRecord.stream, h.record]
  rfl

lemma seqNo (h : Standing planned read) : read.seqNo = planned.seq.toNat := by
  rw [ReadRecord.seqNo, h.record]
  rfl

/-- The oracle says nothing about it. -/
lemma observe (h : Standing planned read) (oracle : EmbeddedAbsOracle) :
    StaleOracle.observe read oracle = (.ok [], oracle) := by
  have hslots : read.record.slots = planned.slots ++ [expectedAbsSlot read.startAbs] := by
    rw [h.record]
    rfl
  have hfind : (read.record.slots.find? fun slot => slot.key = KEY_EXPECTED_RECORD_START_ABS) =
      some (expectedAbsSlot read.startAbs) := by
    rw [hslots]
    cases planned <;> rfl
  have hexpected : EmbeddedAbsOracle.expectedRecordStartAbs read = .ok read.startAbs := by
    rw [EmbeddedAbsOracle.expectedRecordStartAbs, hfind]
    simp only [expectedAbsSlot, length_toLe, ne_eq, not_true_eq_false, or_self, if_false]
    rw [fromLe_toLe, show (256 : ℕ) ^ 8 = 2 ^ 64 from rfl, Nat.mod_eq_of_lt h.start_lt]
  change EmbeddedAbsOracle.observe read oracle = _
  rw [EmbeddedAbsOracle.observe, hexpected]
  simp only [if_true]
  rfl

/-- It is honest about loss. -/
lemma honest (h : Standing planned read) : LossTracker.Honest read.record := by
  have htimed : 1780000000000000000 + planned.seq.toNat < 2 ^ 64 := h.timed
  rw [h.record]
  cases planned with
  | message sourceId seq =>
    refine ⟨Or.inl rfl, fun ε bufferId => rfl, ?_⟩
    have hseq : seq.toNat + 1 < 2 ^ 64 := by
      simp only [Planned.seq] at htimed
      omega
    exact hseq
  | sourceHighWater sourceId producedCount =>
    refine ⟨Or.inr ?_, fun ε bufferId => rfl, ?_⟩
    · simp [LossTracker.parseSourceHighWater, Planned.recordAt, Planned.slots, Record.withCrcFlag,
        Record.new, Planned.eventTypeId, Planned.seq]
    · have hseq : producedCount.toNat + 1 < 2 ^ 64 := by
        simp only [Planned.seq] at htimed
        omega
      exact hseq

end Standing

section Log

variable {cap : ℕ} {past : List Planned} {log : List (Entry UInt8)} {reads : List ReadRecord}

/-- What is delivered of entries one behind the other is in the order of its numbers. -/
lemma pairwise_written (h : List.Forall₂ Written past log) (hpast : past.Pairwise Before) :
    log.Pairwise fun e e' => ∀ r r', Delivers r e → Delivers r' e' → r.stream = r'.stream →
      r.seqNo < r'.seqNo := by
  induction h with
  | nil => exact List.Pairwise.nil
  | @cons planned e past log hfirst hrest ih =>
    obtain ⟨hbefore, hpast⟩ := List.pairwise_cons.mp hpast
    refine List.pairwise_cons.mpr ⟨fun e' he' r r' hr hr' hstream => ?_, ih hpast⟩
    obtain ⟨planned', hplanned', hwritten'⟩ := Grouping.exists_of_forall₂ hrest he'
    have hstanding := hfirst.standing hr
    have hstanding' := hwritten'.standing hr'
    rw [hstanding.stream, hstanding'.stream, Prod.mk.injEq] at hstream
    rw [hstanding.seqNo, hstanding'.seqNo]
    exact hbefore planned' hplanned' hstream.2

/-- **What is delivered in the order of the log is in sequence.** -/
lemma increasing_of_written (h : List.Forall₂ Written past log) (hpast : past.Pairwise Before)
    (hlog : log.Pairwise fun e e' => e.start < e'.start)
    (hsorted : reads.Pairwise fun r r' => r.startAbs < r'.startAbs)
    (hgenuine : ∀ r ∈ reads, ∃ e ∈ log, Delivers r e) : LossTracker.Increasing reads := by
  have hwritten := List.pairwise_iff_getElem.mp (pairwise_written h hpast)
  have hstarts := List.pairwise_iff_getElem.mp hlog
  refine hsorted.imp_of_mem fun {r r'} hr hr' hlt hstream => ?_
  obtain ⟨e, he, hdelivers⟩ := hgenuine r hr
  obtain ⟨e', he', hdelivers'⟩ := hgenuine r' hr'
  obtain ⟨i, hi, rfl⟩ := List.getElem_of_mem he
  obtain ⟨j, hj, rfl⟩ := List.getElem_of_mem he'
  rw [hdelivers.start, hdelivers'.start] at hlt
  rcases lt_trichotomy i j with hij | rfl | hji
  · exact hwritten i j hi hj hij r r' hdelivers hdelivers' hstream
  · exact absurd hlt (lt_irrefl _)
  · exact absurd hlt (hstarts j i hj hi hji).asymm

/-- Where the ring stands behind some planned records. -/
def headBehind (cap headAbs : ℕ) (past : List Planned) : ℕ :=
  past.foldl (fun headAbs planned => place cap headAbs planned.length + planned.length) headAbs

lemma headBehind_append (cap headAbs : ℕ) (past left : List Planned) :
    headBehind cap headAbs (past ++ left) = headBehind cap (headBehind cap headAbs past) left :=
  List.foldl_append

/-- The ring does not go back. -/
lemma headAbs_le_headBehind (cap headAbs : ℕ) (past : List Planned) :
    headAbs ≤ headBehind cap headAbs past := by
  induction past generalizing headAbs with
  | nil => exact le_rfl
  | cons planned past ih =>
    have hplace : headAbs ≤ place cap headAbs planned.length := le_place
    have := ih (place cap headAbs planned.length + planned.length)
    rw [headBehind, List.foldl_cons]
    exact (by omega : headAbs ≤ place cap headAbs planned.length + planned.length).trans this

/-- Behind a planned record is at or behind its end. -/
lemma le_headBehind {headAbs : ℕ} {planned : Planned} {left : List Planned} :
    place cap headAbs planned.length + planned.length ≤ headBehind cap headAbs (planned :: left) :=
  headAbs_le_headBehind cap _ left

/-- The head of a ring that holds planned records. -/
lemma headOf_written {done : List (Entry UInt8)} (h : List.Forall₂ Written past log)
    (hlaid : Laid cap (done ++ log)) : headOf (done ++ log) = headBehind cap (headOf done) past := by
  induction h generalizing done with
  | nil => rw [List.append_nil]; rfl
  | @cons planned e past log hfirst hrest ih =>
    obtain ⟨-, hstart, -⟩ := hlaid.split
    rw [List.append_cons] at hlaid ⊢
    rw [ih hlaid, headOf_concat, Entry.stop, hstart, hfirst.data,
      (planned.encodable_recordAt e.start).2]
    rfl

end Log

end LiveHarness

end OpenOT
