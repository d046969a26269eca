import OpenOT.Carriage.Polling
import OpenOT.Conformance.Observer
import Mathlib.Data.List.Sort

set_option relaxedAutoImplicit false
set_option autoImplicit false

/-!
# The conformance oracle against the ring

The oracle recomputes the layout of the ring on its own, and its order and duplicate checks are
split between the oracle and the batch observer. Together they are sound and complete: what the
readers of the ring return is never reported, and a run without a report has delivered, in order, a
part of what was expected.

## Main definitions

* `OpenOT.Conformance.Traces` — the observer has accepted some records and nothing else.
* `OpenOT.Conformance.Conforms` — some records are registered, in order, with growing numbers.

## Main results

* `OpenOT.Conformance.Traces.observeReads` — what conforms is not reported.
* `OpenOT.Conformance.Traces.of_observeReads` — what is not reported was accepted.
* `OpenOT.oracle_sound_and_complete` — the oracle of the records written to a ring.
-/

namespace OpenOT.Conformance

open Rust CircularLog Polling

/-! ## Runs of the observer -/

section Runs

variable {table : Std.TreeMap RecordKey ℕ compareKey}
  {observer observer' : BatchObserver SidecarExpectedAbsOracle} {seen reads : List ReadRecord}
  {read : ReadRecord}

/-- No two keys are registered at the same offset. -/
def Apart (table : Std.TreeMap RecordKey ℕ compareKey) : Prop :=
  ∀ (k k' : RecordKey) (abs : ℕ), table[k]? = some abs → table[k']? = some abs → k = k'

/-- The observer has accepted the records `seen` and nothing else. -/
structure Traces (table : Std.TreeMap RecordKey ℕ compareKey)
    (observer : BatchObserver SidecarExpectedAbsOracle) (seen : List ReadRecord) : Prop where
  table_eq : observer.oracle.expectedByKey = table
  found : ∀ r ∈ seen, table[keyOf r]? = some r.startAbs
  last : observer.oracle.lastExpectedAbs = seen.getLast?.map (·.startAbs)
  keys : ∀ k, k ∈ observer.seenRecords ↔ ∃ r ∈ seen, keyOf r = k
  next : ∀ k, (observer.nextSeqBySource.getD k 0).toNat = expectedSeq (seen.map (·.record)) k
  ordered : seen.Pairwise fun a b => a.startAbs < b.startAbs
  numbered : ∀ r ∈ seen, r.record.seq.toNat + 1 < 2 ^ 64
  quiet : observer.violations = []

/-- Some records are registered, in the order of their offsets, and the numbers of each stream
grow. -/
structure Conforms (table : Std.TreeMap RecordKey ℕ compareKey) (reads : List ReadRecord) :
    Prop where
  found : ∀ r ∈ reads, table[keyOf r]? = some r.startAbs
  ordered : reads.Pairwise fun a b => a.startAbs < b.startAbs
  numbered : reads.Pairwise fun a b =>
    a.record.stream = b.record.stream → a.record.seq < b.record.seq

/-- A new observer has accepted nothing. -/
lemma traces_new (oracle : SidecarExpectedAbsOracle) (hlast : oracle.lastExpectedAbs = none) :
    Traces oracle.expectedByKey (BatchObserver.new oracle) [] where
  table_eq := rfl
  found r hr := by cases hr
  last := hlast
  keys k := by simp [BatchObserver.new]
  next k := by simp [BatchObserver.new]
  ordered := List.Pairwise.nil
  numbered r hr := by cases hr
  quiet := rfl

/-- In a list ordered by a measure nothing is above the last. -/
lemma le_of_mem_getLast? {last : ReadRecord} (h : seen.Pairwise fun a b => a.startAbs < b.startAbs)
    (hlast : seen.getLast? = some last) (hread : read ∈ seen) : read.startAbs ≤ last.startAbs := by
  obtain ⟨init, rfl⟩ := List.getLast?_eq_some_iff.mp hlast
  rcases List.mem_append.mp hread with hread | hread
  · exact ((List.pairwise_append.mp h).2.2 read hread last (by simp)).le
  · rw [List.mem_singleton.mp hread]

/-- The observer accepts one more record.

**Proof sketch.** The record does not start before the last one, and since its key is new it does
not start where any other one does: so it starts behind all of them. -/
lemma Traces.accept (hapart : Apart table) (h : Traces table observer seen)
    (haccepts : observer.Accepts read) (hseq : read.record.seq.toNat + 1 < 2 ^ 64) :
    Traces table (observer.accept read) (seen ++ [read]) := by
  obtain ⟨⟨hfound, hlast⟩, hnew, hnext⟩ := haccepts
  rw [h.table_eq] at hfound
  have hafter : ∀ r ∈ seen, r.startAbs < read.startAbs := by
    intro r hr
    obtain ⟨last, hgetLast⟩ : ∃ last, seen.getLast? = some last :=
      ⟨_, List.getLast?_eq_some_getLast (List.ne_nil_of_mem hr)⟩
    have hle : last.startAbs ≤ read.startAbs := hlast _ (by rw [h.last, hgetLast]; rfl)
    refine ((le_of_mem_getLast? h.ordered hgetLast hr).trans hle).lt_of_ne fun heq => hnew ?_
    exact (h.keys _).mpr ⟨r, hr, hapart _ _ _ (heq ▸ h.found r hr) hfound⟩
  refine ⟨h.table_eq, ?_, by simp [BatchObserver.accept], fun k => ?_, fun k => ?_, ?_, ?_, h.quiet⟩
  · simp only [List.mem_append, List.mem_singleton]
    rintro r (hr | rfl)
    · exact h.found r hr
    · exact hfound
  · simp only [BatchObserver.accept, BatchObserver.follow, Std.TreeSet.mem_insert,
      Std.LawfulEqCmp.compare_eq_iff_eq, h.keys, List.mem_append, List.mem_singleton]
    constructor
    · rintro (rfl | ⟨r, hr, rfl⟩)
      · exact ⟨read, Or.inr rfl, rfl⟩
      · exact ⟨r, Or.inl hr, rfl⟩
    · rintro ⟨r, hr | rfl, rfl⟩
      · exact Or.inr ⟨r, hr, rfl⟩
      · exact Or.inl rfl
  · have hle := UInt64.le_iff_toNat_le.mp hnext
    rw [h.next] at hle
    simp only [BatchObserver.accept, BatchObserver.follow, Std.TreeMap.getD_insert,
      Std.LawfulEqCmp.compare_eq_iff_eq, List.map_append, List.map_singleton, expectedSeq_concat]
    have hone := (checkedAdd_of_lt (ε := ConformanceError) (a := read.record.seq) (b := 1) hseq).2
    have hstream : read.record.stream = (read.record.runId, read.record.sourceId) := rfl
    rw [hstream]
    split_ifs with hk
    · subst hk
      rw [hone, show (1 : UInt64).toNat = 1 from rfl]
      omega
    · exact h.next k
  · rw [List.pairwise_append]
    refine ⟨h.ordered, List.pairwise_singleton _ _, fun r hr r' hr' => ?_⟩
    rw [List.mem_singleton.mp hr']
    exact hafter r hr
  · simp only [List.mem_append, List.mem_singleton]
    rintro r (hr | rfl)
    · exact h.numbered r hr
    · exact hseq

/-- What is observed later does not remove a violation. -/
lemma violations_observeReads
    (hrun : BatchObserver.observeReads reads observer = (.ok (), observer')) :
    observer.violations <+: observer'.violations := by
  induction reads generalizing observer with
  | nil =>
    obtain rfl := (Prod.mk.inj hrun).2
    exact List.prefix_rfl
  | cons read reads ih =>
    rw [BatchObserver.observeReads] at hrun
    rcases BatchObserver.observeRead_cases observer read with
      ⟨-, -, hread⟩ | ⟨hpanic, -⟩ | ⟨-, next, violations, -, hread, hviolations⟩
    · rw [Mut.bind_of_ok hread] at hrun
      have hprefix := ih hrun
      exact hprefix
    · rw [Mut.bind_of_panic (Prod.ext hpanic rfl)] at hrun
      cases hrun
    · rw [Mut.bind_of_ok hread] at hrun
      exact (List.prefix_append _ _).trans (hviolations ▸ ih hrun)

/-- **What is not reported was accepted.** -/
lemma Traces.of_observeReads (hapart : Apart table) (h : Traces table observer seen)
    (hrun : BatchObserver.observeReads reads observer = (.ok (), observer'))
    (hquiet : observer'.violations = []) : Traces table observer' (seen ++ reads) := by
  induction reads generalizing observer seen with
  | nil =>
    obtain rfl := (Prod.mk.inj hrun).2
    rwa [List.append_nil]
  | cons read reads ih =>
    rw [BatchObserver.observeReads] at hrun
    rcases BatchObserver.observeRead_cases observer read with
      ⟨haccepts, hseq, hread⟩ | ⟨hpanic, -⟩ | ⟨-, next, violations, hne, hread, hviolations⟩
    · rw [Mut.bind_of_ok hread] at hrun
      rw [List.append_cons]
      exact ih (h.accept hapart haccepts hseq) hrun
    · rw [Mut.bind_of_panic (Prod.ext hpanic rfl)] at hrun
      cases hrun
    · rw [Mut.bind_of_ok hread] at hrun
      have hprefix := violations_observeReads hrun
      rw [hquiet, List.prefix_nil, hviolations, List.append_eq_nil_iff] at hprefix
      exact absurd hprefix.2 hne

/-- The number that a stream expects is not above a bound of what follows its records. -/
lemma expectedSeq_le {records : List Record} {k : UInt64 × UInt32} {n : ℕ}
    (h : ∀ r ∈ records, r.stream = k → r.seq.toNat + 1 ≤ n) : expectedSeq records k ≤ n := by
  induction records using List.reverseRecOn with
  | nil => exact Nat.zero_le n
  | append_singleton records record ih =>
    have hold := ih fun r hr => h r (List.mem_append_left _ hr)
    have hnew := h record (by simp)
    rw [expectedSeq_concat]
    split_ifs with hk
    · exact max_le hold (hnew hk)
    · exact hold

/-- The next of some records that conform is accepted. -/
lemma Conforms.accepts {rest : List ReadRecord} (h : Conforms table (seen ++ read :: rest))
    (htraces : Traces table observer seen) : observer.Accepts read := by
  have hfound := h.found read (by simp)
  have hbefore : ∀ r ∈ seen, r.startAbs < read.startAbs := fun r hr =>
    (List.pairwise_append.mp h.ordered).2.2 r hr read List.mem_cons_self
  refine ⟨⟨htraces.table_eq ▸ hfound, fun last hlast => ?_⟩, fun hmem => ?_, ?_⟩
  · rw [htraces.last, Option.mem_def, Option.map_eq_some_iff] at hlast
    obtain ⟨r, hr, rfl⟩ := hlast
    exact (hbefore r (List.mem_of_getLast? hr)).le
  · obtain ⟨r, hr, hkey⟩ := (htraces.keys _).mp hmem
    have hstart := h.found r (List.mem_append_left _ hr)
    rw [hkey, hfound] at hstart
    exact (hbefore r hr).ne (Option.some.inj hstart).symm
  · rw [UInt64.le_iff_toNat_le, htraces.next]
    refine expectedSeq_le fun record hrecord hstream => ?_
    obtain ⟨r, hr, rfl⟩ := List.mem_map.mp hrecord
    exact UInt64.lt_iff_toNat_lt.mp
      ((List.pairwise_append.mp h.numbered).2.2 r hr read List.mem_cons_self hstream)

/-- **What conforms is not reported.** -/
lemma Traces.observeReads (hapart : Apart table) (h : Traces table observer seen)
    (hconforms : Conforms table (seen ++ reads))
    (hseq : ∀ r ∈ reads, r.record.seq.toNat + 1 < 2 ^ 64) :
    ∃ observer', BatchObserver.observeReads reads observer = (.ok (), observer') ∧
      Traces table observer' (seen ++ reads) := by
  induction reads generalizing observer seen with
  | nil => exact ⟨observer, rfl, by rwa [List.append_nil]⟩
  | cons read reads ih =>
    have haccepts := hconforms.accepts h
    obtain ⟨hread, hseq⟩ := List.forall_mem_cons.mp hseq
    rw [BatchObserver.observeReads]
    rcases BatchObserver.observeRead_cases observer read with
      ⟨-, -, hrun⟩ | ⟨-, hlast⟩ | ⟨hnot, -⟩
    · rw [Mut.bind_of_ok hrun]
      rw [List.append_cons] at hconforms ⊢
      exact ih (h.accept hapart haccepts hread) hconforms hseq
    · exact absurd hread hlast
    · exact absurd haccepts hnot

/-- A number follows every number but the last of `u64`. -/
lemma toNat_add_one_lt_iff (seq : UInt64) : seq.toNat + 1 < 2 ^ 64 ↔ seq ≠ 0xFFFFFFFFFFFFFFFF := by
  have hmax : (0xFFFFFFFFFFFFFFFF : UInt64).toNat = 2 ^ 64 - 1 := rfl
  have hlt := seq.toNat_lt
  rw [ne_eq, ← UInt64.toNat_inj, hmax]
  omega

/-- Observing records that conform ends without a report exactly if a number follows each. -/
lemma Traces.observeReads_iff (hapart : Apart table) (h : Traces table observer [])
    (hconforms : Conforms table reads) :
    (∃ observer', BatchObserver.observeReads reads observer = (.ok (), observer') ∧
      observer'.violations = []) ↔ ∀ r ∈ reads, r.record.seq.toNat + 1 < 2 ^ 64 := by
  constructor
  · rintro ⟨observer', hrun, hquiet⟩
    exact (h.of_observeReads hapart hrun hquiet).numbered
  · intro hseq
    obtain ⟨observer', hrun, htraces⟩ := h.observeReads hapart hconforms hseq
    exact ⟨observer', hrun, htraces.quiet⟩

/-- Observing some records and then some more. -/
lemma observeReads_append (before after : List ReadRecord) :
    (BatchObserver.observeReads (before ++ after) :
        Mut (BatchObserver SidecarExpectedAbsOracle) ConformanceError Unit) =
      BatchObserver.observeReads before >>= fun _ => BatchObserver.observeReads after := by
  induction before with
  | nil => rfl
  | cons read before ih =>
    rw [List.cons_append, BatchObserver.observeReads, BatchObserver.observeReads, ih,
      Mut.bind_assoc]

/-- Observing batches is observing their records. -/
lemma observeBatches_eq (bs : List ReadBatch) :
    (BatchObserver.observeBatches bs :
        Mut (BatchObserver SidecarExpectedAbsOracle) ConformanceError Unit) =
      BatchObserver.observeReads (bs.flatMap (·.records)) := by
  induction bs with
  | nil => rfl
  | cons batch bs ih =>
    rw [List.flatMap_cons, observeReads_append, BatchObserver.observeBatches, ih]
    rfl

end Runs

/-! ## The records of a ring -/

/-- The descriptor of a record as its producer registers it, with the length of its encoding. -/
def expectedOf (record : Record) : ExpectedRecord :=
  ⟨record.runId, record.sourceId, record.seq, record.eventTypeId, (record.bytes true).length⟩

section Written

variable {ring : RingBuffer} {old : List ReadRecord} {records : List Record}
  {table : Std.TreeMap RecordKey ℕ compareKey}

/-- **The oracle places records where the ring does.** Records that encode and fit are all written,
each of them at the offset where the oracle expects it. -/
lemma positions_writeAll (h : ring.Represents old)
    (hfit : ∀ r ∈ records, r.Encodable true ∧ (r.bytes true).length ≤ ring.capacity) :
    (ring.writeAll records).2.map (·.record) = records ∧
      (ring.writeAll records).2.map (fun w => (keyOf w, w.startAbs)) =
        positions ring.capacity (records.map expectedOf) ring.headAbs := by
  induction records generalizing ring old with
  | nil => exact ⟨rfl, rfl⟩
  | cons record records ih =>
    obtain ⟨hrecord, hfit⟩ := List.forall_mem_cons.mp hfit
    rcases h.writeRecord record with
      ⟨ring', startAbs, endAbs, hwrite, -, -, hstart, hend, hcap, -, hnext⟩ | ⟨hnot, -⟩
    swap
    · exact absurd hrecord hnot
    have hhead : ring'.headAbs = startAbs + (record.bytes true).length := by
      rw [hnext.head, logOf_concat, headOf_concat]
      rfl
    rw [← hcap] at hfit
    obtain ⟨hrecords, hpositions⟩ := ih hnext hfit
    simp only [RingBuffer.writeAll, hwrite, List.map_cons, hrecords, hpositions, positions]
    rw [hcap, hhead, hstart]
    exact ⟨trivial, rfl⟩

/-- The sublists of what conforms conform. -/
lemma Conforms.sublist {reads part : List ReadRecord} (h : Conforms table reads)
    (hpart : part.Sublist reads) : Conforms table part where
  found r hr := h.found r (hpart.subset hr)
  ordered := h.ordered.sublist hpart
  numbered := h.numbered.sublist hpart

/-- In a table of positions no two keys are registered at the same offset. -/
lemma apart_of_positions {placed : List (RecordKey × ℕ)}
    (hplaced : placed.Pairwise fun p q => p.2 < q.2)
    (htable : ∀ (k : RecordKey) (abs : ℕ), table[k]? = some abs ↔ (k, abs) ∈ placed) :
    Apart table := by
  intro k k' abs hk hk'
  have hnodup : (placed.map Prod.snd).Nodup :=
    (List.pairwise_map.mpr hplaced).imp fun hlt => hlt.ne
  exact congrArg Prod.fst
    (List.inj_on_of_nodup_map hnodup ((htable _ _).mp hk) ((htable _ _).mp hk') rfl)

/-- What was accepted is, in order, a part of what was expected. -/
lemma Traces.sublist {observer : BatchObserver SidecarExpectedAbsOracle} {seen : List ReadRecord}
    {placed : List (RecordKey × ℕ)} (h : Traces table observer seen)
    (hplaced : placed.Pairwise fun p q => p.2 < q.2)
    (htable : ∀ (k : RecordKey) (abs : ℕ), table[k]? = some abs ↔ (k, abs) ∈ placed) :
    (seen.map fun r => (keyOf r, r.startAbs)).Sublist placed := by
  have hordered : (seen.map fun r => (keyOf r, r.startAbs)).Pairwise fun p q => p.2 < q.2 :=
    List.pairwise_map.mpr h.ordered
  have hnodup : (seen.map fun r => (keyOf r, r.startAbs)).Nodup :=
    hordered.imp fun hlt heq => (heq ▸ hlt).ne rfl
  have hsubset : seen.map (fun r => (keyOf r, r.startAbs)) ⊆ placed := by
    intro p hp
    obtain ⟨r, hr, rfl⟩ := List.mem_map.mp hp
    exact (htable _ _).mp (h.found r hr)
  have : Std.Antisymm fun p q : RecordKey × ℕ => p.2 < q.2 :=
    ⟨fun p q hpq hqp => absurd hpq hqp.asymm⟩
  exact List.sublist_of_subperm_of_pairwise (List.subperm_of_subset hnodup hsubset) hordered hplaced

/-- The oracle of some records that encode and fit and have numbers that grow: its table lists
them where a ring places them. -/
lemma exists_table (hhead : ring.headAbs = 0)
    (hfit : ∀ r ∈ records, r.Encodable true ∧ (r.bytes true).length ≤ ring.capacity)
    (hseq : records.Pairwise fun a b => a.stream = b.stream → a.seq < b.seq) :
    ∃ table, newLoop ring.capacity (records.map expectedOf) ∅ 0 = .ok table ∧
      (∀ (k : RecordKey) (abs : ℕ), table[k]? = some abs ↔
        (k, abs) ∈ positions ring.capacity (records.map expectedOf) ring.headAbs) ∧
      (positions ring.capacity (records.map expectedOf) ring.headAbs).Pairwise
        fun p q => p.2 < q.2 := by
  have hlen : ∀ e ∈ records.map expectedOf,
      e.encodedLen ≠ 0 ∧ e.encodedLen ≤ ring.capacity := by
    intro e he
    obtain ⟨r, hr, rfl⟩ := List.mem_map.mp he
    exact ⟨(length_bytes_pos r true).ne', (hfit r hr).2⟩
  have hkeys : ((records.map expectedOf).map ExpectedRecord.key).Nodup := by
    rw [List.map_map, List.Nodup, List.pairwise_map]
    refine hseq.imp fun {a b} hlt heq => ?_
    have hstream : a.stream = b.stream :=
      Prod.ext (congrArg RecordKey.runId heq) (congrArg RecordKey.sourceId heq)
    have hnumber : a.seq = b.seq := congrArg RecordKey.seq heq
    exact UInt64.lt_irrefl _ (hnumber ▸ hlt hstream)
  obtain ⟨table, hloop⟩ : ∃ table,
      newLoop ring.capacity (records.map expectedOf) ∅ 0 = .ok table :=
    exists_newLoop hlen hkeys (by simp)
  obtain ⟨hpos, -, -, htable⟩ := newLoop_eq_ok hloop
  rw [hhead]
  exact ⟨table, hloop, by simpa using htable, pairwise_positions hpos⟩

/-- What was written conforms, as a reader sees it. -/
lemma conforms_written (h : ring.Represents [])
    (hrecords : (ring.writeAll records).2.map (·.record) = records)
    (htable : ∀ (k : RecordKey) (abs : ℕ), table[k]? = some abs ↔
      (k, abs) ∈ (ring.writeAll records).2.map fun w => (keyOf w, w.startAbs))
    (hseq : records.Pairwise fun a b => a.stream = b.stream → a.seq < b.seq) :
    Conforms table ((ring.writeAll records).2.map ReadRecord.delivered) where
  found r hr := by
    obtain ⟨w, hw, rfl⟩ := List.mem_map.mp hr
    exact (htable _ _).mpr (List.mem_map.mpr ⟨w, hw, rfl⟩)
  ordered := List.pairwise_map.mpr
    ((List.pairwise_map.mp (h.writeAll records).1.laid.pairwise_start_lt).imp id)
  numbered := by
    rw [← hrecords, List.pairwise_map] at hseq
    exact List.pairwise_map.mpr (hseq.imp id)

/-- The survivors of a schedule are, in order, a part of what is written in the end. -/
lemma survivors_sublist {acts : List Act} (hacts : offered acts <+: records) :
    (survivors acts ring []).Sublist ((ring.writeAll records).2.map ReadRecord.delivered) := by
  obtain ⟨rest, rfl⟩ := hacts
  have hwritten : (written acts ring).Sublist (ring.writeAll (offered acts ++ rest)).2 := by
    rw [RingBuffer.writeAll_append]
    exact List.sublist_append_left _ _
  exact (sublist_written acts ring []).trans (hwritten.map _)

end Written

end OpenOT.Conformance

namespace OpenOT

open Rust Conformance Polling

/-! ## The result -/

/-- **The conformance oracle is sound and complete.** For a ring of any capacity and any records
that encode and fit, whose numbers grow along each stream (so that their keys are distinct): the
oracle can be built; the ring writes all of them, and the oracle registers each at the offset where
the ring writes it and nothing else; under any schedule that writes them, or the first of them, a
reader of the index or of the raw bytes that resumes where it ended returns the records retained at
the first poll behind their write, and the observer ends without a violation on these batches
exactly if none of them has the last number of `u64`; and whatever batches the observer ends on
without a violation, what they deliver is, in order, a part of what was written. -/
theorem oracle_sound_and_complete {capacity : ℕ} {fresh : RingBuffer}
    (hnew : RingBuffer.new capacity = .ok fresh) (records : List Record)
    (hfit : ∀ r ∈ records, r.Encodable true ∧ (r.bytes true).length ≤ capacity)
    (hseq : records.Pairwise fun a b => a.stream = b.stream → a.seq < b.seq) :
    ∃ oracle, SidecarExpectedAbsOracle.new capacity (records.map expectedOf) = .ok oracle ∧
      (fresh.writeAll records).2.map (·.record) = records ∧
      (∀ (k : RecordKey) (abs : ℕ), oracle.expectedByKey[k]? = some abs ↔
        ∃ w ∈ (fresh.writeAll records).2, keyOf w = k ∧ w.startAbs = abs) ∧
      (∀ acts, offered acts <+: records → ∀ read,
        read = RingBuffer.readFrom ∨ read = RingBuffer.readRawFrom →
        ∃ bs, batches (cursorPoll read) acts fresh 0 = .ok bs ∧
          bs.flatMap (·.records) = survivors acts fresh [] ∧
          ((∃ observer, BatchObserver.observeBatches bs (BatchObserver.new oracle) =
              (.ok (), observer) ∧ observer.intoViolations = []) ↔
            ∀ w ∈ survivors acts fresh [], w.record.seq ≠ 0xFFFFFFFFFFFFFFFF)) ∧
      ∀ bs observer, BatchObserver.observeBatches bs (BatchObserver.new oracle) =
          (.ok (), observer) → observer.intoViolations = [] →
        ((bs.flatMap (·.records)).map fun r => (keyOf r, r.startAbs)).Sublist
            ((fresh.writeAll records).2.map fun w => (keyOf w, w.startAbs)) ∧
          (bs.flatMap (·.records)).Pairwise fun a b => a.startAbs < b.startAbs := by
  obtain ⟨hfresh, rfl⟩ := RingBuffer.represents_new hnew
  obtain ⟨hrecords, hpositions⟩ := positions_writeAll hfresh hfit
  obtain ⟨table, hloop, htable, hplaced⟩ := exists_table hfresh.head hfit hseq
  rw [← hpositions] at htable hplaced
  have hapart := apart_of_positions hplaced htable
  have hnone : (⟨table, none⟩ : SidecarExpectedAbsOracle).lastExpectedAbs = none := rfl
  have htraces := traces_new ⟨table, none⟩ hnone
  refine ⟨⟨table, none⟩, ?_, hrecords, fun k abs => ?_, ?_, ?_⟩
  · rw [SidecarExpectedAbsOracle.new, if_neg hfresh.capacity_pos.ne', hloop]
    rfl
  · rw [htable, List.mem_map]
    simp only [Prod.mk.injEq]
  · intro acts hacts read hread
    have hreads : ReadsAhead read := by
      rcases hread with rfl | rfl
      · exact readsAhead_readFrom
      · exact readsAhead_readRawFrom
    have hfresh' : fresh.Represents ([] ++ []) := hfresh
    obtain ⟨bs, hbs, hdelivered⟩ :=
      ((cursorPoll_consumes hreads).batches_cases acts hfresh' ()).1 () rfl
    refine ⟨bs, hbs, hdelivered, ?_⟩
    have hconforms : Conforms table (survivors acts fresh []) :=
      (conforms_written hfresh hrecords htable hseq).sublist (survivors_sublist hacts)
    rw [observeBatches_eq, hdelivered]
    refine (htraces.observeReads_iff hapart hconforms).trans (forall₂_congr fun w _ => ?_)
    exact toNat_add_one_lt_iff w.record.seq
  · intro bs observer hrun hquiet
    rw [observeBatches_eq] at hrun
    have hseen := htraces.of_observeReads hapart hrun hquiet
    exact ⟨hseen.sublist hplaced htable, hseen.ordered⟩

/-- Three records of 44 bytes in a pool of 100, polled behind the second and the third: the oracle
expects the third behind the gap, and the observer reports nothing. -/
theorem oracle_sound_and_complete_behind_gap :
    ∃ fresh oracle bs observer, RingBuffer.new 100 = .ok fresh ∧
      SidecarExpectedAbsOracle.new 100 ([Record.new 0 1 0 1 1, Record.new 0 1 1 1 1,
        Record.new 0 1 2 1 1].map expectedOf) = .ok oracle ∧
      oracle.expectedByKey[(⟨1, 1, 2, 1⟩ : RecordKey)]? = some 100 ∧
      batches (cursorPoll RingBuffer.readRawFrom) (gapSchedule ++ [.poll]) fresh 0 = .ok bs ∧
      bs.flatMap (·.records) = survivors (gapSchedule ++ [.poll]) fresh [] ∧
      BatchObserver.observeBatches bs (BatchObserver.new oracle) = (.ok (), observer) ∧
      observer.intoViolations = [] := by
  have hnew : RingBuffer.new 100 = .ok ⟨List.replicate 100 0, 0, 0, 0, 0, [], []⟩ := rfl
  have hfit : ∀ r ∈ [Record.new 0 1 0 1 1, Record.new 0 1 1 1 1, Record.new 0 1 2 1 1],
      r.Encodable true ∧ (r.bytes true).length ≤ 100 := by
    simp only [List.forall_mem_cons, List.not_mem_nil, false_imp_iff, implies_true, and_true]
    refine ⟨⟨⟨?_, ?_⟩, ?_⟩, ⟨⟨?_, ?_⟩, ?_⟩, ⟨?_, ?_⟩, ?_⟩ <;> decide +kernel
  obtain ⟨oracle, horacle, -, htable, hpolls, -⟩ := oracle_sound_and_complete hnew
    [Record.new 0 1 0 1 1, Record.new 0 1 1 1 1, Record.new 0 1 2 1 1] hfit (by decide +kernel)
  obtain ⟨bs, hbs, hdelivered, hquiet⟩ := hpolls (gapSchedule ++ [.poll])
    ⟨[], rfl⟩ _ (Or.inr rfl)
  obtain ⟨observer, hrun, hviolations⟩ := hquiet.mpr (by decide +kernel)
  refine ⟨_, oracle, bs, observer, hnew, horacle, ?_, hbs, hdelivered, hrun, hviolations⟩
  exact (htable _ _).mpr ⟨⟨100, 144, Record.new 0 1 2 1 1⟩, by decide +kernel, rfl, rfl⟩

/-- A record with the last number of `u64`, which is written, expected and delivered: the observer
panics on the batch. -/
theorem oracle_panics_on_last_seq :
    ∃ fresh oracle record bs, RingBuffer.new 100 = .ok fresh ∧
      SidecarExpectedAbsOracle.new 100 [expectedOf record] = .ok oracle ∧
      batches (cursorPoll RingBuffer.readRawFrom) [.write record, .poll] fresh 0 = .ok bs ∧
      bs.flatMap (·.records) = [⟨0, 44, record.withCrcFlag true⟩] ∧
      (BatchObserver.observeBatches bs (BatchObserver.new oracle)).1 = .panic := by
  refine ⟨⟨List.replicate 100 0, 0, 0, 0, 0, [], []⟩, _, Record.new 0 7 0xFFFFFFFFFFFFFFFF 1 1,
    [⟨[⟨0, 44, (Record.new 0 7 0xFFFFFFFFFFFFFFFF 1 1).withCrcFlag true⟩], 44, false⟩], rfl, rfl,
    by decide +kernel, rfl, by decide +kernel⟩

end OpenOT
