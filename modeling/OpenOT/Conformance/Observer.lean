import OpenOT.Carriage.LossInvariant
import OpenOT.Lib.CircularLog

set_option relaxedAutoImplicit false
set_option autoImplicit false

/-!
# The conformance oracle

The stale-record oracle of the conformance crate. The producer of a test registers the records it
writes, in the order of writing; the oracle recomputes where the ring places each of them, and a
batch observer checks what a reader delivers against it, besides checking on its own that nothing
is delivered twice and that the numbers of a source do not go back.

## Main definitions

* `OpenOT.Conformance.SidecarExpectedAbsOracle` — the expected offset of every registered record.
* `OpenOT.Conformance.BatchObserver` — an oracle with the checks of keys and numbers.

## Main results

* `OpenOT.Conformance.newLoop_eq_ok` — when the oracle accepts some descriptors, and its table.
* `OpenOT.Conformance.BatchObserver.observeRead_cases` — what observing one record does.

## Design

Violations are reported as values, never as an error: the `Result` of the source has no error path
in the sidecar oracle. Offsets are natural numbers; the `u64` addition of the sequence check panics
on overflow.
-/

namespace OpenOT.Conformance

open Rust

/-! ## Violations -/

/-- A conformance helper error. -/
structure ConformanceError where
  message : String
  deriving DecidableEq, Repr

/-- Stable violation category for report output. -/
inductive ViolationKind where
  | expectedAbsMismatch
  | missingExpectedAbsSlot
  | invalidExpectedAbsSlot
  | unexpectedRecord
  | duplicateOrBackwardSeq
  | eventOrderMismatch
  deriving DecidableEq, Repr

/-- One stale-oracle violation. -/
structure StaleViolation where
  kind : ViolationKind
  sourceId : UInt32
  seq : UInt64
  expectedAbs : ℕ
  actualAbs : ℕ
  crcPassed : Bool
  deriving DecidableEq, Repr

/-- The violation of a record that a reader returned. -/
def StaleViolation.new (kind : ViolationKind) (read : ReadRecord) (expectedAbs actualAbs : ℕ) :
    StaleViolation :=
  ⟨kind, read.record.sourceId, read.record.seq, expectedAbs, actualAbs, true⟩

/-- Pluggable stale-record oracle: observes one decoded record. -/
class StaleOracle (O : Type) where
  observe : ReadRecord → Mut O ConformanceError (List StaleViolation)

/-! ## Expected records -/

/-- One expected record in producer write order. -/
structure ExpectedRecord where
  runId : UInt64
  sourceId : UInt32
  seq : UInt64
  eventTypeId : UInt32
  encodedLen : ℕ
  deriving DecidableEq, Repr

/-- What identifies a record. -/
structure RecordKey where
  runId : UInt64
  sourceId : UInt32
  seq : UInt64
  eventTypeId : UInt32
  deriving DecidableEq, Repr

/-- The order of the keys: field by field. -/
abbrev compareKey : RecordKey → RecordKey → Ordering :=
  compareLex (compareOn RecordKey.runId) (compareLex (compareOn RecordKey.sourceId)
    (compareLex (compareOn RecordKey.seq) (compareOn RecordKey.eventTypeId)))

/-- The key of an expected record. -/
def ExpectedRecord.key (record : ExpectedRecord) : RecordKey :=
  ⟨record.runId, record.sourceId, record.seq, record.eventTypeId⟩

/-- The key of a record that a reader returned. -/
def keyOf (read : ReadRecord) : RecordKey :=
  ⟨read.record.runId, read.record.sourceId, read.record.seq, read.record.eventTypeId⟩

instance : Std.LawfulEqCmp compareKey where
  eq_of_compare {a b} h := by
    simp only [compareKey, compareLex, compareOn, Ordering.then_eq_eq] at h
    obtain ⟨hrun, hsource, hseq, hevent⟩ := h
    cases a
    cases b
    rw [RecordKey.mk.injEq]
    exact ⟨Std.LawfulEqCmp.eq_of_compare hrun, Std.LawfulEqCmp.eq_of_compare hsource,
      Std.LawfulEqCmp.eq_of_compare hseq, Std.LawfulEqCmp.eq_of_compare hevent⟩

/-! ## The sidecar oracle -/

/-- Sidecar oracle for streams with no embedded position slot. -/
structure SidecarExpectedAbsOracle where
  expectedByKey : Std.TreeMap RecordKey ℕ compareKey
  lastExpectedAbs : Option ℕ

/-- Where a record of `encodedLen` bytes starts. -/
def nextStartAbs (capacity headAbs encodedLen : ℕ) : ℕ :=
  let startPhys := headAbs % capacity
  if startPhys = 0 ∨ startPhys + encodedLen ≤ capacity then headAbs
  else headAbs + (capacity - startPhys)

/-- The loop over the expected records. -/
def newLoop (capacity : ℕ) : List ExpectedRecord → Std.TreeMap RecordKey ℕ compareKey → ℕ →
    Outcome ConformanceError (Std.TreeMap RecordKey ℕ compareKey)
  | [], expectedByKey, _ => .ok expectedByKey
  | record :: records, expectedByKey, headAbs =>
    if record.encodedLen = 0 then .err ⟨"expected record length must be non-zero"⟩
    else if capacity < record.encodedLen then
      .err ⟨"expected record length " ++ toString record.encodedLen ++ " exceeds capacity " ++
        toString capacity⟩
    else
      let expectedAbs := nextStartAbs capacity headAbs record.encodedLen
      if record.key ∈ expectedByKey then
        .err ⟨"duplicate expected record run=" ++ toString record.runId ++ " source=" ++
          toString record.sourceId ++ " seq=" ++ toString record.seq ++ " event=" ++
          toString record.eventTypeId⟩
      else newLoop capacity records (expectedByKey.insert record.key expectedAbs)
        (expectedAbs + record.encodedLen)

namespace SidecarExpectedAbsOracle

/-- Builds the sidecar oracle from expected records in producer write order. -/
def new (capacity : ℕ) (records : List ExpectedRecord) :
    Outcome ConformanceError SidecarExpectedAbsOracle :=
  if capacity = 0 then .err ⟨"capacity must be non-zero"⟩
  else do
    let expectedByKey ← newLoop capacity records ∅ 0
    pure ⟨expectedByKey, none⟩

/-- Checks the offset of a record and the order of the expected offsets. -/
def observe (read : ReadRecord) :
    Mut SidecarExpectedAbsOracle ConformanceError (List StaleViolation) := do
  let oracle ← Mut.get
  match oracle.expectedByKey[keyOf read]? with
  | none => pure [StaleViolation.new .unexpectedRecord read 0 read.startAbs]
  | some expectedAbs => do
    let mismatch := if read.startAbs ≠ expectedAbs then
      [StaleViolation.new .expectedAbsMismatch read expectedAbs read.startAbs] else []
    let disorder := if oracle.lastExpectedAbs.any fun last => decide (expectedAbs < last) then
      [StaleViolation.new .eventOrderMismatch read expectedAbs read.startAbs] else []
    Mut.modify fun oracle => { oracle with lastExpectedAbs := some expectedAbs }
    pure (mismatch ++ disorder)

instance : StaleOracle SidecarExpectedAbsOracle where
  observe := observe

end SidecarExpectedAbsOracle

/-! ## The batch observer -/

/-- Observes batches with a stale oracle plus source-local duplicate and backward checks. -/
structure BatchObserver (O : Type) where
  oracle : O
  nextSeqBySource : Std.TreeMap (UInt64 × UInt32) UInt64 compareStream
  seenRecords : Std.TreeSet RecordKey compareKey
  violations : List StaleViolation

namespace BatchObserver

variable {O : Type}

/-- An observer that has seen nothing. -/
def new (oracle : O) : BatchObserver O := ⟨oracle, ∅, ∅, []⟩

/-- Reports a violation. -/
def push (violation : StaleViolation) : Mut (BatchObserver O) ConformanceError Unit :=
  Mut.modify fun observer => { observer with violations := observer.violations ++ [violation] }

/-- Checks that a record is new and that its number does not go back. -/
def observeSequence (read : ReadRecord) : Mut (BatchObserver O) ConformanceError Unit := do
  let observer ← Mut.get
  if keyOf read ∈ observer.seenRecords then
    push (StaleViolation.new .duplicateOrBackwardSeq read 0 read.startAbs)
  else do
    Mut.modify fun observer =>
      { observer with seenRecords := observer.seenRecords.insert (keyOf read) }
    let sourceKey := (read.record.runId, read.record.sourceId)
    let expected := observer.nextSeqBySource.getD sourceKey 0
    if read.record.seq < expected then
      push (StaleViolation.new .duplicateOrBackwardSeq read 0 read.startAbs)
    else do
      let next ← Mut.lift (checkedAdd read.record.seq 1)
      Mut.modify fun observer =>
        { observer with nextSeqBySource := observer.nextSeqBySource.insert sourceKey next }

variable [StaleOracle O]

/-- Observes one record: the oracle first, then the sequence. -/
def observeRead (read : ReadRecord) : Mut (BatchObserver O) ConformanceError Unit := do
  let violations ← Mut.field (·.oracle) (fun oracle observer => { observer with oracle := oracle })
    id (StaleOracle.observe read)
  Mut.modify fun observer => { observer with violations := observer.violations ++ violations }
  observeSequence read

/-- The loop of `observe_batch`. -/
def observeReads : List ReadRecord → Mut (BatchObserver O) ConformanceError Unit
  | [] => pure ()
  | read :: reads => do
    observeRead read
    observeReads reads

/-- Observes all records in one decoded batch. -/
def observeBatch (batch : ReadBatch) : Mut (BatchObserver O) ConformanceError Unit :=
  observeReads batch.records

/-- Observes some batches, one after the other. -/
def observeBatches : List ReadBatch → Mut (BatchObserver O) ConformanceError Unit
  | [] => pure ()
  | batch :: batches => do
    observeBatch batch
    observeBatches batches

/-- Returns the accumulated violations. -/
def intoViolations (observer : BatchObserver O) : List StaleViolation := observer.violations

end BatchObserver

/-! ## The table of the oracle -/

/-- Where a ring places some records, the head being at `headAbs`. -/
def positions (capacity : ℕ) : List ExpectedRecord → ℕ → List (RecordKey × ℕ)
  | [], _ => []
  | record :: records, headAbs =>
    let startAbs := CircularLog.place capacity headAbs record.encodedLen
    (record.key, startAbs) :: positions capacity records (startAbs + record.encodedLen)

section Table

variable {capacity headAbs : ℕ} {records : List ExpectedRecord}
  {table table' : Std.TreeMap RecordKey ℕ compareKey}

/-- The oracle places records as the log does. -/
lemma nextStartAbs_eq (capacity headAbs encodedLen : ℕ) :
    nextStartAbs capacity headAbs encodedLen = CircularLog.place capacity headAbs encodedLen := rfl

/-- The keys that are placed. -/
@[simp] lemma map_fst_positions (capacity headAbs : ℕ) (records : List ExpectedRecord) :
    (positions capacity records headAbs).map Prod.fst = records.map ExpectedRecord.key := by
  induction records generalizing headAbs with
  | nil => rfl
  | cons record records ih => rw [positions, List.map_cons, ih, List.map_cons]

/-- No record is placed before the head. -/
lemma le_of_mem_positions {p : RecordKey × ℕ} (hp : p ∈ positions capacity records headAbs) :
    headAbs ≤ p.2 := by
  induction records generalizing headAbs with
  | nil => cases hp
  | cons record records ih =>
    have hle : headAbs ≤ CircularLog.place capacity headAbs record.encodedLen :=
      CircularLog.le_place
    rcases List.mem_cons.mp hp with rfl | hp
    · exact hle
    · have := ih hp
      omega

/-- Records are placed one behind the other. -/
lemma pairwise_positions (hlen : ∀ r ∈ records, r.encodedLen ≠ 0) :
    (positions capacity records headAbs).Pairwise fun p q => p.2 < q.2 := by
  induction records generalizing headAbs with
  | nil => exact List.Pairwise.nil
  | cons record records ih =>
    obtain ⟨hpos, hlen⟩ := List.forall_mem_cons.mp hlen
    refine List.pairwise_cons.mpr ⟨fun q hq => ?_, ih hlen⟩
    have := le_of_mem_positions hq
    simp only at this ⊢
    omega

/-- The loop returns for records that are not empty, fit, and have keys of their own. -/
lemma exists_newLoop (hlen : ∀ r ∈ records, r.encodedLen ≠ 0 ∧ r.encodedLen ≤ capacity)
    (hkeys : (records.map ExpectedRecord.key).Nodup) (hnew : ∀ r ∈ records, r.key ∉ table) :
    ∃ table', newLoop capacity records table headAbs = .ok table' := by
  induction records generalizing table headAbs with
  | nil => exact ⟨table, rfl⟩
  | cons record records ih =>
    obtain ⟨⟨hpos, hle⟩, hlen⟩ := List.forall_mem_cons.mp hlen
    obtain ⟨hfresh, hnew⟩ := List.forall_mem_cons.mp hnew
    obtain ⟨hkey, hkeys⟩ := List.nodup_cons.mp hkeys
    rw [newLoop, if_neg hpos, if_neg (Nat.not_lt.mpr hle), if_neg hfresh]
    refine ih hlen hkeys fun r hr => ?_
    rw [Std.TreeMap.mem_insert, Std.LawfulEqCmp.compare_eq_iff_eq]
    rintro (heq | hmem)
    · exact hkey (heq ▸ List.mem_map_of_mem hr)
    · exact hnew r hr hmem

/-- A table that the loop returns: the records are not empty, have keys of their own, and are
listed where the ring places them. -/
lemma newLoop_eq_ok (h : newLoop capacity records table headAbs = .ok table') :
    (∀ r ∈ records, r.encodedLen ≠ 0) ∧ (records.map ExpectedRecord.key).Nodup ∧
      (∀ r ∈ records, r.key ∉ table) ∧
      ∀ k abs, table'[k]? = some abs ↔
        table[k]? = some abs ∨ (k, abs) ∈ positions capacity records headAbs := by
  induction records generalizing table headAbs with
  | nil =>
    obtain rfl := Outcome.ok.inj h
    simp [positions]
  | cons record records ih =>
    rw [newLoop] at h
    obtain ⟨hpos, h⟩ := Outcome.of_ite_err h
    obtain ⟨-, h⟩ := Outcome.of_ite_err h
    obtain ⟨hfresh, h⟩ := Outcome.of_ite_err h
    obtain ⟨hlen, hkeys, hnew, htable⟩ := ih h
    have hnew' : ∀ r ∈ records, record.key ≠ r.key ∧ r.key ∉ table := by
      intro r hr
      have := hnew r hr
      rw [Std.TreeMap.mem_insert, Std.LawfulEqCmp.compare_eq_iff_eq, not_or] at this
      exact this
    refine ⟨List.forall_mem_cons.mpr ⟨hpos, hlen⟩, ?_,
      List.forall_mem_cons.mpr ⟨hfresh, fun r hr => (hnew' r hr).2⟩, fun k abs => ?_⟩
    · rw [List.map_cons, List.nodup_cons]
      refine ⟨fun hmem => ?_, hkeys⟩
      obtain ⟨r, hr, heq⟩ := List.mem_map.mp hmem
      exact (hnew' r hr).1 heq.symm
    · rw [htable, Std.TreeMap.getElem?_insert, positions, List.mem_cons, Prod.mk.injEq,
        nextStartAbs_eq]
      simp only [Std.LawfulEqCmp.compare_eq_iff_eq]
      by_cases hk : record.key = k
      · subst hk
        have hnone : table[record.key]? = none := Std.TreeMap.getElem?_eq_none hfresh
        simp [hnone, eq_comm]
      · simp [hk, Ne.symm hk]

end Table

/-! ## What observing one record does -/

namespace SidecarExpectedAbsOracle

/-- The record is registered at its offset, and none behind it has been observed. -/
def Accepts (oracle : SidecarExpectedAbsOracle) (read : ReadRecord) : Prop :=
  oracle.expectedByKey[keyOf read]? = some read.startAbs ∧
    ∀ last ∈ oracle.lastExpectedAbs, last ≤ read.startAbs

/-- The oracle reports nothing exactly about the records that it accepts. -/
lemma observe_cases (oracle : SidecarExpectedAbsOracle) (read : ReadRecord) :
    oracle.Accepts read ∧
      observe read oracle = (.ok [], { oracle with lastExpectedAbs := some read.startAbs }) ∨
    ¬oracle.Accepts read ∧ ∃ violations oracle', violations ≠ [] ∧
      observe read oracle = (.ok violations, oracle') := by
  unfold observe
  rw [Mut.get_bind]
  cases hkey : oracle.expectedByKey[keyOf read]? with
  | none =>
    refine Or.inr ⟨fun haccepts => ?_, _, _, List.cons_ne_nil _ _, rfl⟩
    rw [Accepts, hkey] at haccepts
    cases haccepts.1
  | some expectedAbs =>
    simp only [Mut.modify_bind, Mut.pure_apply]
    by_cases hstart : read.startAbs = expectedAbs
    · subst hstart
      rw [if_neg (not_not.mpr rfl), List.nil_append]
      by_cases hlast : ∀ last ∈ oracle.lastExpectedAbs, last ≤ read.startAbs
      · refine Or.inl ⟨⟨hkey, hlast⟩, ?_⟩
        rw [if_neg]
        cases hwas : oracle.lastExpectedAbs with
        | none => simp
        | some last => simpa using hlast last (by rw [hwas]; rfl)
      · refine Or.inr ⟨fun haccepts => hlast haccepts.2, ?_⟩
        rw [if_pos]
        · exact ⟨_, _, List.cons_ne_nil _ _, rfl⟩
        · cases hwas : oracle.lastExpectedAbs with
          | none => simp [hwas] at hlast
          | some last => simpa [hwas] using hlast
    · rw [if_pos hstart]
      refine Or.inr ⟨fun haccepts => ?_, _, _, List.cons_ne_nil _ _, rfl⟩
      rw [Accepts, hkey] at haccepts
      exact hstart (Option.some.inj haccepts.1).symm

end SidecarExpectedAbsOracle

namespace BatchObserver

section Sequence

variable {O : Type} (observer : BatchObserver O) (read : ReadRecord)

/-- The record is new and its number does not go back. -/
def InSequence : Prop :=
  keyOf read ∉ observer.seenRecords ∧
    observer.nextSeqBySource.getD (read.record.runId, read.record.sourceId) 0 ≤ read.record.seq

/-- The observer behind a record in sequence. -/
def follow : BatchObserver O :=
  { observer with
    seenRecords := observer.seenRecords.insert (keyOf read)
    nextSeqBySource := observer.nextSeqBySource.insert (read.record.runId, read.record.sourceId)
      (read.record.seq + 1) }

/-- The sequence check reports nothing exactly about records in sequence; there it panics if no
number follows. -/
lemma observeSequence_cases :
    observer.InSequence read ∧ read.record.seq.toNat + 1 < 2 ^ 64 ∧
      observeSequence read observer = (.ok (), observer.follow read) ∨
    observer.InSequence read ∧ ¬read.record.seq.toNat + 1 < 2 ^ 64 ∧
      (observeSequence read observer).1 = .panic ∨
    ¬observer.InSequence read ∧ ∃ observer' violation,
      observeSequence read observer = (.ok (), observer') ∧
        observer'.violations = observer.violations ++ [violation] := by
  unfold observeSequence InSequence
  rw [Mut.get_bind]
  by_cases hseen : keyOf read ∈ observer.seenRecords
  · rw [if_pos hseen]
    exact Or.inr (Or.inr ⟨fun h => h.1 hseen, _, _, rfl, rfl⟩)
  rw [if_neg hseen]
  simp only [Mut.modify_bind]
  by_cases hlt : read.record.seq <
      observer.nextSeqBySource.getD (read.record.runId, read.record.sourceId) 0
  · rw [if_pos hlt]
    exact Or.inr (Or.inr ⟨fun h => UInt64.not_le.mpr hlt h.2, _, _, rfl, rfl⟩)
  have hle := UInt64.not_lt.mp hlt
  rw [if_neg hlt]
  by_cases hseq : read.record.seq.toNat + 1 < 2 ^ 64
  · obtain ⟨hnext, -⟩ :=
      checkedAdd_of_lt (ε := ConformanceError) (a := read.record.seq) (b := 1) hseq
    refine Or.inl ⟨⟨hseen, hle⟩, hseq, ?_⟩
    rw [hnext, Mut.lift_ok_bind]
    rfl
  · have hnext : (checkedAdd read.record.seq 1 : Outcome ConformanceError UInt64) = .panic :=
      if_neg hseq
    refine Or.inr (Or.inl ⟨⟨hseen, hle⟩, hseq, ?_⟩)
    rw [hnext, Mut.lift_panic_bind]

end Sequence

/-! ### With the sidecar oracle -/

section Observing

variable (observer : BatchObserver SidecarExpectedAbsOracle) (read : ReadRecord)

/-- The observer reports nothing about the record. -/
def Accepts : Prop := observer.oracle.Accepts read ∧ observer.InSequence read

/-- The observer behind an accepted record. -/
def accept : BatchObserver SidecarExpectedAbsOracle :=
  { observer.follow read with
    oracle := { observer.oracle with lastExpectedAbs := some read.startAbs } }

/-- **Observing one record.** An accepted record is noted, or the observer panics because no number
follows; any other record is reported, if the observer does not panic. -/
lemma observeRead_cases :
    observer.Accepts read ∧ read.record.seq.toNat + 1 < 2 ^ 64 ∧
      observeRead read observer = (.ok (), observer.accept read) ∨
    (observeRead read observer).1 = .panic ∧ ¬read.record.seq.toNat + 1 < 2 ^ 64 ∨
    ¬observer.Accepts read ∧ ∃ observer' violations, violations ≠ [] ∧
      observeRead read observer = (.ok (), observer') ∧
        observer'.violations = observer.violations ++ violations := by
  have hrun : ∀ {violations oracle'},
      SidecarExpectedAbsOracle.observe read observer.oracle = (.ok violations, oracle') →
      observeRead read observer = observeSequence read
        { observer with
          oracle := oracle'
          violations := observer.violations ++ violations } := by
    intro violations oracle' hobserve
    have hfield : Mut.field BatchObserver.oracle
        (fun oracle (observer : BatchObserver SidecarExpectedAbsOracle) =>
          { observer with oracle := oracle }) id (StaleOracle.observe read) observer =
        (.ok violations, { observer with oracle := oracle' }) := Mut.field_of_ok hobserve
    rw [observeRead, Mut.bind_of_ok hfield]
    rfl
  rcases observer.oracle.observe_cases read with
    ⟨haccepts, hobserve⟩ | ⟨haccepts, violations, oracle', hne, hobserve⟩
  · rw [hrun hobserve, List.append_nil]
    rcases observeSequence_cases { observer with
        oracle := { observer.oracle with lastExpectedAbs := some read.startAbs } } read with
      ⟨hseq, hnext, hsequence⟩ | ⟨-, hnext, hpanic⟩ |
      ⟨hseq, observer', violation, hsequence, hviolations⟩
    · exact Or.inl ⟨⟨haccepts, hseq⟩, hnext, hsequence⟩
    · exact Or.inr (Or.inl ⟨hpanic, hnext⟩)
    · exact Or.inr (Or.inr ⟨fun h => hseq h.2, observer', [violation], List.cons_ne_nil _ _,
        hsequence, hviolations⟩)
  · rw [hrun hobserve]
    have hnot : ¬observer.Accepts read := fun h => haccepts h.1
    rcases observeSequence_cases { observer with
        oracle := oracle'
        violations := observer.violations ++ violations } read with
      ⟨-, -, hsequence⟩ | ⟨-, hnext, hpanic⟩ | ⟨-, observer', violation, hsequence, hviolations⟩
    · exact Or.inr (Or.inr ⟨hnot, _, violations, hne, hsequence, rfl⟩)
    · exact Or.inr (Or.inl ⟨hpanic, hnext⟩)
    · refine Or.inr (Or.inr ⟨hnot, observer', violations ++ [violation], ?_, hsequence, ?_⟩)
      · exact List.append_ne_nil_of_left_ne_nil hne _
      · rw [hviolations, List.append_assoc]

end Observing

end BatchObserver

end OpenOT.Conformance
