import OpenOT.Lib.Numbering
import OpenOT.St.TransitionGuards

set_option relaxedAutoImplicit false
set_option autoImplicit false

/-!
# Record identity

The numbers of the records of a source in the ring, and the counters they are drawn from. A counter
stays right as long as a number is counted exactly when its record gets into the ring.

## Main definitions

* `OpenOT.St.RingWrite.stream`, `OpenOT.St.RingWrite.number` — run and source of a record, and its
  number.
* `OpenOT.St.Core.Counted` — the counters are those of the records in the ring.
* `OpenOT.St.Store.countsAfter`, `OpenOT.St.Store.countsBefore` — whether a number is counted for a
  record that gets into the ring, and for no other.
* `OpenOT.St.Producer.keepsNumbers` — the calls all of whose numbers are.

## Main results

* `OpenOT.St.Core.Counted.publish` — a record is handed to the store.
* `OpenOT.St.Producer.counted_of_operated` — every operation, given that it keeps the numbers.
* `OpenOT.St.ring_identity_unique` — the identities in all runs of such calls.
* `OpenOT.St.ring_identity_reused` — a run in which a number is used twice.

## Design

A record that the ring refuses because its table of loss ranges has overflowed does no harm: the
ring never takes a record again.
-/

namespace OpenOT.St

open Rust Transition Numbering

/-! ## Streams and counters -/

/-- The run and the source of a record. -/
def RingWrite.stream (write : RingWrite) : UInt64 × UInt32 := (write.runId, write.sourceId)

/-- The number of a record. -/
def RingWrite.number (write : RingWrite) : ℕ := write.seq.toNat

namespace Producer

/-- The next number of a source according to the source table. -/
def counterOf (sources : Vector SourceEntry 16) (sourceId : UInt32) : ℕ :=
  (KeyedTable.lookup isSource (fun entry => some entry.nextSeq.toNat) sources sourceId).getD 0

/-- No source has two entries, and the system source has none. -/
structure Sound (sources : Vector SourceEntry 16) : Prop where
  distinct : KeyedTable.Distinct isSource sources
  nonzero : ∀ i, isSource SYSTEM_SOURCE_ID (sources.get i) = false

section

variable {sources opened : Vector SourceEntry 16} {index : Fin 16} {sourceId : UInt32}

lemma isSource_inj (k k' : UInt32) (entry : SourceEntry) (h : isSource k entry = true)
    (h' : isSource k' entry = true) : k = k' := by
  simp only [isSource, Bool.and_eq_true, beq_iff_eq] at h h'
  exact h.2.symm.trans h'.2

/-- The counter of a source that has an entry. -/
lemma counterOf_eq (hsound : Sound sources) (hentry : isSource sourceId (sources.get index) = true) :
    counterOf sources sourceId = (sources.get index).nextSeq.toNat := by
  rw [counterOf, KeyedTable.lookup_eq hsound.distinct hentry]
  rfl

/-- The entry of a source is written. -/
lemma counterOf_set (index : Fin 16) (entry : SourceEntry) (hsound : Sound sources)
    (hentry : isSource sourceId entry = true) (hsource : sourceId ≠ SYSTEM_SOURCE_ID)
    (hother : ∀ i, i ≠ index → isSource sourceId (sources.get i) = false)
    (hindex : isSource sourceId (sources.get index) = true ∨ (sources.get index).used = false) :
    Sound (sources.set index entry (entry_lt index)) ∧
      ∀ other, counterOf (sources.set index entry (entry_lt index)) other =
      if other = sourceId then entry.nextSeq.toNat else counterOf sources other := by
  obtain ⟨hdistinct, hlookup⟩ := KeyedTable.lookup_set (fun entry => some entry.nextSeq.toNat)
    isSource_inj hsound.distinct hentry hother
    (hindex.imp_right fun hfree k => by simp [isSource, hfree])
  refine ⟨⟨hdistinct, fun i => ?_⟩, fun other => ?_⟩
  · rw [KeyedTable.get_set]
    split_ifs
    · by_contra hzero
      rw [Bool.not_eq_false] at hzero
      exact hsource (isSource_inj _ _ _ hentry hzero)
    · exact hsound.nonzero i
  · rw [counterOf, hlookup]
    split_ifs <;> rfl

/-- Opening an entry changes no counter. -/
lemma counterOf_open (hsound : Sound sources) (hsource : sourceId ≠ SYSTEM_SOURCE_ID)
    (h : openSource sourceId sources = some (index, opened)) :
    Sound opened ∧ isSource sourceId (opened.get index) = true ∧
      ∀ other, counterOf opened other = counterOf sources other := by
  obtain ⟨hused, hid, rfl | ⟨hnone, hfree, rfl⟩⟩ := openSource_some h
  · exact ⟨hsound, by simp [isSource, hused, hid], fun _ => rfl⟩
  · have hentry : isSource sourceId ⟨true, sourceId, 0⟩ = true := by simp [isSource]
    obtain ⟨hopened, hcounter⟩ := counterOf_set index _ hsound hentry hsource
      (fun i _ => hnone i) (.inr hfree)
    refine ⟨hopened, by simp [isSource, hused, hid], fun other => (hcounter other).trans ?_⟩
    split_ifs with heq
    · rw [heq, counterOf, KeyedTable.lookup_eq_none hnone]
      rfl
    · rfl

/-- The empty source table. -/
lemma sound_noSources : Sound noSources ∧ ∀ other, counterOf noSources other = 0 := by
  have hfree : ∀ k i, isSource k (noSources.get i) = false := by
    intro k i
    have hget : noSources.get i = ⟨false, 0, 0⟩ := Vector.getElem_replicate i.isLt
    rw [hget]
    rfl
  refine ⟨⟨fun k i j hi => ?_, hfree SYSTEM_SOURCE_ID⟩, fun other => ?_⟩
  · rw [hfree] at hi
    cases hi
  · rw [counterOf, KeyedTable.lookup_eq_none (hfree other)]
    rfl

/-- A number of a source is counted. -/
lemma counterOf_advance (hsound : Sound sources) (hsource : sourceId ≠ SYSTEM_SOURCE_ID)
    (hentry : isSource sourceId (sources.get index) = true) :
    let advanced := sources.set index
      { sources.get index with nextSeq := (sources.get index).nextSeq + 1 } (entry_lt index)
    Sound advanced ∧ ((sources.get index).nextSeq.toNat + 1 < 2 ^ 64 →
      ∀ other, counterOf advanced other =
        if other = sourceId then counterOf sources other + 1 else counterOf sources other) := by
  obtain ⟨hset, hcounter⟩ := counterOf_set index
    { sources.get index with nextSeq := (sources.get index).nextSeq + 1 } hsound hentry hsource
    (fun i hne => by
      by_contra hi
      rw [Bool.not_eq_false] at hi
      exact hne (hsound.distinct _ _ _ hi hentry)) (.inl hentry)
  refine ⟨hset, fun hlast other => (hcounter other).trans ?_⟩
  split_ifs with heq
  · rw [heq, counterOf_eq hsound hentry, UInt64.toNat_add]
    exact Nat.mod_eq_of_lt hlast
  · rfl

end

end Producer

/-! ## The ring and the scan list -/

/-- Whether the table of loss ranges has overflowed after a call. -/
def Ring256.overflows (length : UInt16) (r : Ring256) : Bool :=
  if length = 0 ∨ 256 < length then r.lossRangeOverflow
  else (r.entered.makePlace length).lossRangeOverflow

section

variable {record : Bytes} {length : UInt16} {runId : UInt64} {sourceId : UInt32} {seq : UInt64}
  {r : Ring256}

lemma Ring256.lossRangeOverflow_call :
    (call true record length runId sourceId seq r).lossRangeOverflow = r.overflows length := by
  rw [call_eq, overflows]
  split_ifs <;> rfl

/-- An overflow stays. -/
lemma Ring256.overflows_of_overflow (h : r.lossRangeOverflow = true) :
    r.overflows length = true := by
  unfold overflows
  split_ifs
  · exact h
  · obtain ⟨lost, ranges, head, left, oldest, -, hover⟩ := makePlace_frame length r.entered
    by_contra hnot
    rw [Bool.not_eq_true] at hnot
    have hfalse := hover hnot
    rw [show r.entered.lossRangeOverflow = r.lossRangeOverflow from rfl, h] at hfalse
    cases hfalse

end

namespace Store

/-- Whether a number that is counted after its record has been published is that of a record in the
ring: the scan list takes what the ring takes, and the counter does not wrap. -/
def countsAfter (length : UInt16) (seq : UInt64) (store : Store) : Bool :=
  !store.ring.accepts length ||
    store.scan.hasRoom length && decide (seq.toNat + 1 < 2 ^ 64)

/-- Whether a number that is counted before its record is published is that of a record in the
ring: the ring takes the record, and the counter does not wrap. Once the table of loss ranges has
overflowed, it does not matter. -/
def countsBefore (length : UInt16) (seq : UInt64) (store : Store) : Bool :=
  if store.ring.accepts length then decide (seq.toNat + 1 < 2 ^ 64)
  else store.ring.overflows length

end Store

/-! ## Records that keep the numbers -/

namespace Core

/-- The next number of a source. -/
def counter (sourceId : UInt32) (c : Core) : ℕ :=
  if sourceId = SYSTEM_SOURCE_ID then c.systemSeq.toNat
  else Producer.counterOf c.sources sourceId

/-- The counters are those of the records in the ring, as long as it takes records. -/
structure Counted (c : Core) : Prop where
  sound : Producer.Sound c.sources
  runs : ∀ write ∈ c.store.ring.written, write.runId.toNat ≤ c.runId.toNat
  numbered : ∃ next, Numbered RingWrite.stream RingWrite.number next c.store.ring.written ∧
    (c.store.ring.lossRangeOverflow = false →
      ∀ sourceId, next (c.runId, sourceId) = c.counter sourceId)

variable {inputs : Inputs} {eventTypeId sourceId : UInt32} {index : Fin 16} {seq : UInt64}
  {encoded : Encoded} {c c' : Core}

/-- **A record is handed to the store.** The counters stay right if the number is counted exactly
when the ring takes the record, or if the ring takes nothing any more. -/
lemma Counted.publish (h : c.Counted)
    (hstore : c'.store = c.store.publish inputs eventTypeId c.runId sourceId seq encoded)
    (hrun : c'.runId = c.runId) (hsound : Producer.Sound c'.sources)
    (hseq : seq.toNat = c.counter sourceId)
    (haccepted : c.store.ring.accepts encoded.length = true → ∀ other, c'.counter other =
      if other = sourceId then c.counter other + 1 else c.counter other)
    (hrefused : c.store.ring.accepts encoded.length = false →
      c.store.ring.overflows encoded.length = false → ∀ other, c'.counter other = c.counter other) :
    c'.Counted := by
  obtain ⟨next, hnumbered, hnext⟩ := h.numbered
  have hring : c'.store.ring = c.store.ring.call true encoded.buffer encoded.length c.runId
      sourceId seq := by
    rw [hstore, Store.ring_publish]
  have hoverflow : c'.store.ring.lossRangeOverflow = false →
      c.store.ring.lossRangeOverflow = false := by
    intro hnot
    rw [hring, Ring256.lossRangeOverflow_call] at hnot
    by_contra hover
    rw [Bool.not_eq_false] at hover
    rw [Ring256.overflows_of_overflow hover] at hnot
    cases hnot
  cases haccepts : c.store.ring.accepts encoded.length with
  | false =>
    have hwritten : c'.store.ring.written = c.store.ring.written := by
      rw [hring, Ring256.written_call, haccepts]
      rfl
    refine ⟨hsound, by rw [hwritten, hrun]; exact h.runs, next, by rw [hwritten]; exact hnumbered,
      fun hnot other => ?_⟩
    rw [hrun, hnext (hoverflow hnot)]
    rw [hring, Ring256.lossRangeOverflow_call] at hnot
    exact (hrefused haccepts hnot other).symm
  | true =>
    have hwritten : c'.store.ring.written = c.store.ring.written ++
        [⟨c.store.ring.recordStartAbs encoded.length, encoded.buffer.take encoded.length.toNat,
          c.runId, sourceId, seq⟩] := by
      rw [hring, Ring256.written_call, if_pos haccepts]
    have hnot : c.store.ring.lossRangeOverflow = false := by
      by_contra hover
      rw [Bool.not_eq_false] at hover
      rw [Ring256.accepts_of_overflow hover] at haccepts
      cases haccepts
    refine ⟨hsound, fun write hwrite => ?_,
      fun k => if k = (c.runId, sourceId) then next k + 1 else next k, ?_, fun _ other => ?_⟩
    · rw [hrun]
      rw [hwritten, List.mem_append, List.mem_singleton] at hwrite
      rcases hwrite with hold | rfl
      · exact h.runs write hold
      · exact le_rfl
    · rw [hwritten]
      refine hnumbered.concat ?_ fun k => rfl
      change seq.toNat = next (c.runId, sourceId)
      rw [hnext hnot, hseq]
    · rw [hrun, haccepted haccepts other]
      simp only [Prod.mk.injEq, true_and, hnext hnot]

/-- Opening an entry of the source table keeps the counters. -/
lemma Counted.open {sources : Vector SourceEntry 16} (h : c.Counted)
    (hsource : sourceId ≠ SYSTEM_SOURCE_ID)
    (hopen : Producer.openSource sourceId c.sources = some (index, sources)) :
    Counted { c with sources := sources } ∧ Producer.isSource sourceId (sources.get index) = true := by
  obtain ⟨hsound, hentry, hcounter⟩ := Producer.counterOf_open h.sound hsource hopen
  obtain ⟨next, hnumbered, hnext⟩ := h.numbered
  refine ⟨⟨hsound, h.runs, next, hnumbered, fun hnot other => ?_⟩, hentry⟩
  rw [show next (c.runId, other) = c.counter other from hnext hnot other]
  unfold counter
  rw [hcounter]

/-- A number of a source is counted. -/
lemma counter_advance (h : c.Counted) (hsource : sourceId ≠ SYSTEM_SOURCE_ID)
    (hentry : Producer.isSource sourceId (c.sources.get index) = true)
    (hsystem : c'.systemSeq = c.systemSeq) (hsources : c'.sources = (c.advance index).sources) :
    (c.nextSeq index).toNat = c.counter sourceId ∧ Producer.Sound c'.sources ∧
      ((c.nextSeq index).toNat + 1 < 2 ^ 64 → ∀ other, c'.counter other =
        if other = sourceId then c.counter other + 1 else c.counter other) := by
  obtain ⟨hsound, hcounter⟩ := Producer.counterOf_advance h.sound hsource hentry
  refine ⟨?_, by rw [hsources]; exact hsound, fun hlast other => ?_⟩
  · rw [counter, if_neg hsource, Producer.counterOf_eq h.sound hentry]
    rfl
  · unfold counter
    rw [hsystem, hsources]
    by_cases hother : other = SYSTEM_SOURCE_ID
    · rw [if_pos hother, if_pos hother, if_neg (hother ▸ hsource.symm)]
    · rw [if_neg hother, if_neg hother]
      exact hcounter hlast other

/-- A record whose number is counted when it has been published. -/
lemma Counted.after (h : c.Counted) (hsource : sourceId ≠ SYSTEM_SOURCE_ID)
    (hentry : Producer.isSource sourceId (c.sources.get index) = true)
    (hcounts : c.store.countsAfter encoded.length (c.nextSeq index) = true)
    (hstore : c'.store = c.store.publish inputs eventTypeId c.runId sourceId (c.nextSeq index)
      encoded)
    (hrun : c'.runId = c.runId) (hsystem : c'.systemSeq = c.systemSeq)
    (hsources : c'.sources =
      if c.store.takes encoded.length then (c.advance index).sources else c.sources) :
    c'.Counted := by
  unfold Store.countsAfter at hcounts
  unfold Store.takes at hsources
  cases haccepts : c.store.ring.accepts encoded.length with
  | false =>
    rw [haccepts, Bool.false_and] at hsources
    have hseq : (c.nextSeq index).toNat = c.counter sourceId :=
      (counter_advance h hsource hentry (Eq.refl (c.advance index).systemSeq) rfl).1
    have hcounter : ∀ other, c'.counter other = c.counter other := fun other => by
      unfold counter
      rw [hsystem, hsources]
      rfl
    refine h.publish hstore hrun (by rw [hsources]; exact h.sound) hseq (fun htrue => ?_)
      fun _ _ => hcounter
    rw [haccepts] at htrue
    cases htrue
  | true =>
    rw [haccepts, Bool.not_true, Bool.false_or, Bool.and_eq_true, decide_eq_true_eq] at hcounts
    rw [haccepts, hcounts.1, Bool.true_and, if_pos rfl] at hsources
    obtain ⟨hseq, hsound, hcounter⟩ := counter_advance h hsource hentry hsystem hsources
    refine h.publish hstore hrun hsound hseq (fun _ => hcounter hcounts.2) fun hfalse => ?_
    rw [haccepts] at hfalse
    cases hfalse

/-- A record whose number is counted before it is published. -/
lemma Counted.before (h : c.Counted)
    (hcounts : c.store.countsBefore encoded.length seq = true)
    (hstore : c'.store = c.store.publish inputs eventTypeId c.runId sourceId seq encoded)
    (hrun : c'.runId = c.runId) (hsound : Producer.Sound c'.sources)
    (hseq : seq.toNat = c.counter sourceId)
    (hcounter : seq.toNat + 1 < 2 ^ 64 → ∀ other, c'.counter other =
      if other = sourceId then c.counter other + 1 else c.counter other) :
    c'.Counted := by
  unfold Store.countsBefore at hcounts
  refine h.publish hstore hrun hsound hseq (fun haccepts => ?_) fun hrefused hnot => ?_
  · rw [if_pos haccepts, decide_eq_true_eq] at hcounts
    exact hcounter hcounts
  · rw [hrefused, if_neg (by decide), hnot] at hcounts
    cases hcounts

/-- A record of the system source. -/
lemma Counted.system (h : c.Counted)
    (hcounts : c.store.countsBefore encoded.length c.systemSeq = true) :
    (c.system inputs eventTypeId encoded).Counted := by
  refine h.before hcounts rfl rfl h.sound ?_ fun hlast other => ?_
  · rw [counter]
    exact (if_pos rfl).symm
  · change (if other = SYSTEM_SOURCE_ID then (c.systemSeq + 1).toNat
        else Producer.counterOf c.sources other) =
      if other = SYSTEM_SOURCE_ID then c.counter other + 1 else c.counter other
    unfold counter
    by_cases hother : other = SYSTEM_SOURCE_ID
    · simp only [if_pos hother]
      rw [UInt64.toNat_add]
      exact Nat.mod_eq_of_lt hlast
    · simp only [if_neg hother]

/-- A new run begins: no record of it has been written, and the counters start from zero. -/
lemma Counted.cold (h : c.Counted) (hlast : c.runId.toNat + 1 < 2 ^ 64)
    (hrun : c'.runId = c.runId + 1) (hsystem : c'.systemSeq = 0)
    (hsources : c'.sources = Producer.noSources) (hstore : c'.store = c.store) : c'.Counted := by
  obtain ⟨next, hnumbered, -⟩ := h.numbered
  have hnext : c'.runId.toNat = c.runId.toNat + 1 := by
    rw [hrun, UInt64.toNat_add]
    exact Nat.mod_eq_of_lt hlast
  refine ⟨by rw [hsources]; exact Producer.sound_noSources.1, fun write hwrite => ?_, next,
    by rw [hstore]; exact hnumbered, fun _ other => ?_⟩
  · rw [hstore] at hwrite
    exact (h.runs write hwrite).trans (by omega)
  · have hzero : c'.counter other = 0 := by
      unfold counter
      rw [hsystem, hsources, Producer.sound_noSources.2]
      split_ifs <;> rfl
    rw [hzero]
    by_contra hpos
    have hmem : 0 ∈ numbers RingWrite.stream RingWrite.number (c'.runId, other)
        c.store.ring.written := by
      rw [hnumbered, List.mem_range]
      exact Nat.pos_of_ne_zero hpos
    obtain ⟨write, hwrite, hkey, -⟩ := mem_numbers.mp hmem
    have hle := h.runs write hwrite
    rw [show write.runId = c'.runId from congrArg Prod.fst hkey] at hle
    omega

end Core

/-! ## Calls that keep the numbers -/

namespace Producer

/-- Whether a high-water record keeps the numbers. -/
def keepsHighWater (inputs : Inputs) (index : Fin 16) (p : Producer) : Bool :=
  (encodeSourceHighWater (p.sources.get index).sourceId p.runId (p.nextSeq index)
    (p.nextSourceTime inputs)).all fun encoded =>
      p.store.countsAfter encoded.length (p.nextSeq index)

/-- Whether the `Checkpoint` branch does. -/
def keepsCheckpoint (inputs : Inputs) (p : Producer) : Bool :=
  p.pending.isOpen || inputs.sourceId == 0 ||
    (findEntry p.sources (isSource inputs.sourceId)).all fun index => p.keepsHighWater inputs index

/-- Whether operation 0 does. -/
def keepsMessage (inputs : Inputs) (p : Producer) : Bool :=
  p.pending.isOpen || inputs.sourceId == 0 ||
    (openSource inputs.sourceId p.sources).all fun opened =>
      (encodeMinimalMessage ⟨p.nextSourceTime inputs, p.runId, (opened.2.get opened.1).nextSeq,
        inputs.sourceId⟩ inputs.message).all fun encoded =>
          p.store.countsBefore encoded.length (opened.2.get opened.1).nextSeq

/-- Whether operation 5 does. -/
def keepsStage (inputs : Inputs) (p : Producer) : Bool :=
  p.pending.isOpen || inputs.sourceId == 0 ||
    (openSource inputs.sourceId p.sources).all fun opened =>
      inputs.stageSeq != (opened.2.get opened.1).nextSeq ||
        p.store.countsAfter inputs.stageLength inputs.stageSeq

/-- Whether the record of a data operation does. -/
def keepsEmission (inputs : Inputs) (emission : Emission) (p : Producer) : Bool :=
  (openSource emission.sourceId p.sources).all fun opened =>
    (emission.encode ⟨p.nextSourceTime inputs, p.runId, (opened.2.get opened.1).nextSeq,
      emission.sourceId⟩).all fun encoded =>
        p.store.countsAfter encoded.length (opened.2.get opened.1).nextSeq

/-- Whether the operations 6 to 16 do. -/
def keepsDataOp (arith : RealArith) (inputs : Inputs) (p : Producer) : Bool :=
  match (p.prepared arith inputs).plan with
  | .emit emission => p.keepsEmission inputs emission
  | _ => true

/-- Whether a record of the system source does. -/
def keepsSystem (inputs : Inputs) (encode : UInt64 → UInt64 → Option Encoded) (p : Producer) :
    Bool :=
  (encode p.systemSeq (p.nextSourceTime inputs)).all fun encoded =>
    p.store.countsBefore encoded.length p.systemSeq

/-- Whether the records of the loop of operation 1 do. -/
def keepsHighWaterLoop (inputs : Inputs) : ℕ → Option UInt32 → Producer → Bool
  | 0, _, _ => true
  | fuel + 1, last, p => (selectNext last p.sources).all fun index =>
      p.keepsHighWater inputs index && (p.highWater inputs index).all fun next =>
        next.error || keepsHighWaterLoop inputs fuel (some (p.sources.get index).sourceId) next

/-- Whether operation 1 does. -/
def keepsBegin (inputs : Inputs) (p : Producer) : Bool :=
  p.pending.isOpen || p.keepsSystem inputs (encodeLoggerStopped p.runId) &&
    (p.emitSystem inputs 0x0102 (encodeLoggerStopped p.runId)).all fun q =>
      q.error || q.keepsHighWaterLoop inputs 17 none

/-- Whether operation 2 does. -/
def keepsChange (inputs : Inputs) (p : Producer) : Bool :=
  !p.pending.isOpen || p.pending.defChangedEmitted ||
    p.keepsSystem inputs fun seq sourceTime => encodeDefinitionChanged p.runId seq
      p.pending.defHashOld p.pending.defHashNew p.pending.epochId sourceTime

/-- Whether operation 3 does. -/
def keepsWarm (inputs : Inputs) (p : Producer) : Bool :=
  !p.pending.isOpen || !p.pending.defChangedEmitted ||
    p.keepsSystem inputs fun seq => encodeLoggerStarted p.runId seq false

/-- Whether operation 4 does. -/
def keepsCold (inputs : Inputs) (p : Producer) : Bool :=
  !p.pending.isOpen || !p.pending.defChangedEmitted ||
    decide (p.runId.toNat + 1 < 2 ^ 64) &&
      p.coldStarted.keepsSystem inputs fun seq => encodeLoggerStarted (p.runId + 1) seq true

/-- Whether an operation does. -/
def keepsOp (arith : RealArith) (inputs : Inputs) (p : Producer) : Bool :=
  if inputs.checkpoint then p.keepsCheckpoint inputs
  else if inputs.op = 0 then p.keepsMessage inputs
  else if inputs.op = 5 then p.keepsStage inputs
  else if isDataOp inputs.op then p.keepsDataOp arith inputs
  else if inputs.op = 1 then p.keepsBegin inputs
  else if inputs.op = 2 then p.keepsChange inputs
  else if inputs.op = 3 then p.keepsWarm inputs
  else if inputs.op = 4 then p.keepsCold inputs
  else true

/-- Whether every number that a call counts is that of a record in the ring, and every record that
it puts into the ring has its number counted. -/
def keepsNumbers (arith : RealArith) (p : Producer) (inputs : Inputs) : Bool :=
  !p.edge inputs || (p.enter inputs).keepsOp arith inputs

variable {arith : RealArith} {inputs : Inputs} {p p' : Producer} {index : Fin 16}

/-- A high-water record. -/
lemma counted_highWater (hcounted : p.core.Counted) (hused : (p.sources.get index).used = true)
    (hkeeps : p.keepsHighWater inputs index = true) (h : p.highWater inputs index = some p') :
    p'.core.Counted := by
  obtain ⟨encoded, hencoded, hcore, -⟩ := core_highWater h
  have hentry : isSource (p.sources.get index).sourceId (p.sources.get index) = true := by
    simp [isSource, hused]
  have hsource : (p.sources.get index).sourceId ≠ SYSTEM_SOURCE_ID := fun hzero => by
    rw [hzero, show isSource SYSTEM_SOURCE_ID (p.sources.get index) = false from
      hcounted.sound.nonzero index] at hentry
    cases hentry
  rw [keepsHighWater, hencoded, Option.all_some] at hkeeps
  rw [hcore]
  refine hcounted.after hsource hentry hkeeps Core.store_countAfter ?_ ?_ Core.sources_countAfter <;>
    · unfold Core.countAfter
      dsimp only
      split_ifs <;> rfl

/-- The loop of operation 1. -/
lemma counted_highWaterLoop {fuel : ℕ} {last : Option UInt32} (hcounted : p.core.Counted)
    (hkeeps : p.keepsHighWaterLoop inputs fuel last = true)
    (h : p.highWaterLoop inputs fuel last = some p') : p'.core.Counted := by
  induction fuel generalizing last p with
  | zero => cases h
  | succ fuel ih =>
    unfold highWaterLoop at h
    unfold keepsHighWaterLoop at hkeeps
    cases hselect : selectNext last p.sources with
    | none =>
      rw [hselect] at h
      cases h
      exact hcounted
    | some index =>
      rw [hselect] at h hkeeps
      obtain ⟨next, hhigh, h⟩ := Option.bind_eq_some_iff.mp h
      rw [Option.all_some, hhigh, Option.all_some, Bool.and_eq_true] at hkeeps
      have hused : (p.sources.get index).used = true :=
        (Bool.and_eq_true_iff.mp (isAbove_of_selectNext hselect)).1
      have hnext := counted_highWater hcounted hused hkeeps.1 hhigh
      by_cases herror : next.error = true
      · rw [if_pos herror] at h
        cases h
        exact hnext
      · rw [if_neg herror] at h
        rw [Bool.not_eq_true] at herror
        rw [herror, Bool.false_or] at hkeeps
        exact ih hnext hkeeps.2 h

/-- A record of the system source. -/
lemma counted_emitSystem {eventTypeId : UInt32} {encode : UInt64 → UInt64 → Option Encoded}
    (hcounted : p.core.Counted) (hkeeps : p.keepsSystem inputs encode = true)
    (h : p.emitSystem inputs eventTypeId encode = some p') : p'.core.Counted := by
  obtain ⟨encoded, hencoded, hcore, -⟩ := core_emitSystem h
  rw [keepsSystem, hencoded, Option.all_some] at hkeeps
  rw [hcore]
  exact hcounted.system hkeeps

/-- The record of a data operation. -/
lemma counted_emit {emission : Emission} (hcounted : p.core.Counted)
    (hsource : emission.sourceId ≠ SYSTEM_SOURCE_ID)
    (hkeeps : p.keepsEmission inputs emission = true) (h : p.emit inputs emission = some p') :
    p'.core.Counted := by
  rcases core_emit h with ⟨-, -, hcore⟩ | ⟨index, sources, encoded, hopen, hencoded, -, hcore⟩
  · rw [hcore]
    exact ⟨hcounted.sound, hcounted.runs, hcounted.numbered⟩
  · rw [keepsEmission, hopen, Option.all_some, hencoded, Option.all_some] at hkeeps
    obtain ⟨hopened, hentry⟩ := hcounted.open hsource hopen
    rw [hcore]
    exact hopened.after hsource hentry hkeeps Core.store_emit Core.runId_emit Core.systemSeq_emit
      Core.sources_emit

/-- The `Checkpoint` branch. -/
lemma counted_checkpoint (hcounted : p.core.Counted) (hkeeps : p.keepsCheckpoint inputs = true)
    (h : p.checkpoint inputs = some p') : p'.core.Counted := by
  rcases core_checkpoint h with ⟨hcore, -⟩ | ⟨hclosed, hsource, index, q, hfind, hq, hcore, -⟩
  · rw [hcore]
    exact hcounted
  · rw [keepsCheckpoint, hclosed, hfind, Option.all_some, beq_eq_false_iff_ne.mpr hsource,
      Bool.false_or, Bool.false_or] at hkeeps
    have hentry : isSource inputs.sourceId (p.sources.get index) = true := findEntry_some hfind
    rw [hcore]
    exact counted_highWater hcounted (Bool.and_eq_true_iff.mp hentry).1 hkeeps hq

/-- Operation 0. -/
lemma counted_message (hcounted : p.core.Counted) (hkeeps : p.keepsMessage inputs = true)
    (h : p.message inputs = some p') : p'.core.Counted := by
  rcases core_message h with
    ⟨hcore, -⟩ | ⟨hclosed, hsource, index, sources, encoded, hopen, hencoded, hcore⟩
  · rw [hcore]
    exact hcounted
  · rw [keepsMessage, hclosed, hopen, Option.all_some, hencoded, Option.all_some,
      beq_eq_false_iff_ne.mpr hsource, Bool.false_or, Bool.false_or] at hkeeps
    obtain ⟨hopened, hentry⟩ := hcounted.open hsource hopen
    have hfields : p'.core.store = p.store.publish inputs 0x0003 p.runId inputs.sourceId
          (sources.get index).nextSeq encoded ∧ p'.core.runId = p.runId ∧
        p'.core.systemSeq = p.systemSeq ∧
        p'.core.sources = (Core.advance index { p.core with sources := sources }).sources := by
      rw [hcore]
      split_ifs <;> exact ⟨rfl, rfl, rfl, rfl⟩
    obtain ⟨hstore, hrun, hsystem, hsources⟩ := hfields
    obtain ⟨hseq, hsound, hcounter⟩ := Core.counter_advance hopened hsource hentry hsystem hsources
    exact hopened.before hkeeps hstore hrun hsound hseq hcounter

/-- Operation 5. -/
lemma counted_stage (hcounted : p.core.Counted) (hkeeps : p.keepsStage inputs = true)
    (h : p.stage inputs = some p') : p'.core.Counted := by
  rcases core_stage h with ⟨hcore, -⟩ | ⟨hclosed, hsource, -, -, index, sources, hopen, hstaged⟩
  · rw [hcore]
    exact hcounted
  · obtain ⟨hopened, hentry⟩ := hcounted.open hsource hopen
    rcases hstaged with ⟨-, hcore, -⟩ | ⟨hseq, hcore⟩
    · rw [hcore]
      exact hopened
    · rw [keepsStage, hclosed, hopen, Option.all_some, hseq, bne_self_eq_false,
        beq_eq_false_iff_ne.mpr hsource, Bool.false_or, Bool.false_or, Bool.false_or] at hkeeps
      rw [hcore]
      have hstaged : Core.Counted (Core.countAfter inputs inputs.stageEventTypeId inputs.sourceId
          index ⟨inputs.stageRecord.toList, inputs.stageLength⟩
          { p.core with sources := sources }) := by
        refine hopened.after hsource hentry hkeeps Core.store_countAfter ?_ ?_
          Core.sources_countAfter <;>
          · unfold Core.countAfter
            dsimp only
            split_ifs <;> rfl
      exact hstaged

/-- Operation 1. -/
lemma counted_beginTransition (hcounted : p.core.Counted) (hkeeps : p.keepsBegin inputs = true)
    (h : p.beginTransition inputs = some p') : p'.core.Counted := by
  rcases core_beginTransition h with ⟨-, hcore, -⟩ | ⟨hclosed, q, r, hq, hr, -, hcore⟩
  · rw [hcore]
    exact hcounted
  rw [keepsBegin, hclosed, hq, Option.all_some, Bool.false_or, Bool.and_eq_true] at hkeeps
  have hstopped := counted_emitSystem hcounted hkeeps.1 hq
  have hloop : r.core.Counted := by
    rcases hr with ⟨-, rfl⟩ | ⟨herror, hr⟩
    · exact hstopped
    · rw [herror, Bool.false_or] at hkeeps
      exact counted_highWaterLoop hstopped hkeeps.2 hr
  rw [hcore]
  split_ifs
  · exact hloop
  · exact ⟨hloop.sound, hloop.runs, hloop.numbered⟩

/-- Operation 2. -/
lemma counted_changeDefinition (hcounted : p.core.Counted) (hkeeps : p.keepsChange inputs = true)
    (h : p.changeDefinition inputs = some p') : p'.core.Counted := by
  rcases core_changeDefinition h with ⟨-, hcore, -⟩ | ⟨hopen, hemitted, q, hq, -, hcore⟩
  · rw [hcore]
    exact hcounted
  rw [keepsChange, hopen, hemitted, Bool.not_true, Bool.false_or, Bool.false_or] at hkeeps
  have hchanged := counted_emitSystem hcounted hkeeps hq
  rw [hcore]
  split_ifs
  · exact hchanged
  · exact ⟨hchanged.sound, hchanged.runs, hchanged.numbered⟩

/-- Operation 3. -/
lemma counted_finishWarm (hcounted : p.core.Counted) (hkeeps : p.keepsWarm inputs = true)
    (h : p.finishWarm inputs = some p') : p'.core.Counted := by
  rcases core_finishWarm h with ⟨-, hcore, -⟩ | ⟨hopen, hemitted, q, hq, -, hcore⟩
  · rw [hcore]
    exact hcounted
  rw [keepsWarm, hopen, hemitted, Bool.not_true, Bool.false_or, Bool.false_or] at hkeeps
  have hentered : Core.Counted { p with epochId := p.pending.epochId }.core :=
    ⟨hcounted.sound, hcounted.runs, hcounted.numbered⟩
  unfold keepsSystem at hkeeps
  have hstarted := counted_emitSystem hentered (by unfold keepsSystem; exact hkeeps) hq
  rw [hcore]
  split_ifs
  · exact hstarted
  · exact ⟨hstarted.sound, hstarted.runs, hstarted.numbered⟩

/-- Operation 4. -/
lemma counted_finishCold (hcounted : p.core.Counted) (hkeeps : p.keepsCold inputs = true)
    (h : p.finishCold inputs = some p') : p'.core.Counted := by
  rcases core_finishCold h with ⟨-, hcore, -⟩ | ⟨hopen, hemitted, q, hq, -, hcore⟩
  · rw [hcore]
    exact hcounted
  rw [keepsCold, hopen, hemitted, Bool.not_true, Bool.false_or, Bool.false_or, Bool.and_eq_true,
    decide_eq_true_eq] at hkeeps
  have hcold : p.coldStarted.core.Counted :=
    Core.Counted.cold (c := p.core) hcounted hkeeps.1 rfl rfl rfl rfl
  have hstarted := counted_emitSystem hcold hkeeps.2 hq
  rw [hcore]
  split_ifs
  · exact hstarted
  · exact ⟨hstarted.sound, hstarted.runs, hstarted.numbered⟩

/-- **Every operation that keeps the numbers** keeps the counters right. -/
lemma counted_of_operated (hcounted : p.core.Counted) (hkeeps : p.keepsOp arith inputs = true)
    (h : Operated arith inputs p p') : p'.core.Counted := by
  unfold keepsOp at hkeeps
  cases h with
  | checkpoint hcheckpoint h =>
    rw [if_pos hcheckpoint] at hkeeps
    exact counted_checkpoint hcounted hkeeps h
  | message hcheckpoint hop h =>
    simp only [hcheckpoint, hop, Bool.false_eq_true, if_false, if_true] at hkeeps
    exact counted_message hcounted hkeeps h
  | stage hcheckpoint hop h =>
    rw [hcheckpoint, hop] at hkeeps
    exact counted_stage hcounted hkeeps h
  | dataOp hcheckpoint hop h =>
    have hnot : inputs.op ≠ 0 ∧ inputs.op ≠ 5 := by
      constructor <;> intro heq <;> rw [heq] at hop <;> exact absurd hop (by decide)
    rw [hcheckpoint, if_neg (by decide), if_neg hnot.1, if_neg hnot.2, if_pos hop, keepsDataOp]
      at hkeeps
    rcases core_dataOp h with ⟨-, -, hcore⟩ | ⟨-, -, hcore⟩ | ⟨emission, hplan, hemit⟩
    · rw [hcore]
      exact ⟨hcounted.sound, hcounted.runs, hcounted.numbered⟩
    · rw [hcore]
      exact ⟨hcounted.sound, hcounted.runs, hcounted.numbered⟩
    · rw [hplan] at hkeeps
      have hsource : emission.sourceId ≠ SYSTEM_SOURCE_ID := by
        rw [(emitted_of_prepare hop hplan).sourceId]
        exact activeSourceId_ne_zero inputs
      exact counted_emit (p := { p with memory := (p.prepared arith inputs).memory })
        ⟨hcounted.sound, hcounted.runs, hcounted.numbered⟩ hsource hkeeps hemit
  | beginTransition hcheckpoint hop h =>
    rw [hcheckpoint, hop] at hkeeps
    exact counted_beginTransition hcounted hkeeps h
  | changeDefinition hcheckpoint hop h =>
    rw [hcheckpoint, hop] at hkeeps
    exact counted_changeDefinition hcounted hkeeps h
  | finishWarm hcheckpoint hop h =>
    rw [hcheckpoint, hop] at hkeeps
    exact counted_finishWarm hcounted hkeeps h
  | finishCold hcheckpoint hop h =>
    rw [hcheckpoint, hop] at hkeeps
    exact counted_finishCold hcounted hkeeps h
  | unknown _ _ h =>
    rw [h]
    exact hcounted

/-- A call that keeps the numbers keeps the counters right. -/
lemma counted_call (hcounted : p.core.Counted) (hkeeps : p.keepsNumbers arith inputs = true)
    (hcall : p.call arith inputs = some p') : p'.core.Counted := by
  have hentered : (p.enter inputs).core.Counted := by
    rw [core_enter]
    split_ifs
    · exact ⟨hcounted.sound, hcounted.runs, hcounted.numbered⟩
    · exact hcounted
  obtain ⟨q, rfl, ⟨-, rfl⟩ | ⟨hedge, hoperated⟩⟩ := call_cases hcall
  · exact hentered
  · rw [keepsNumbers, hedge, Bool.not_true, Bool.false_or] at hkeeps
    rw [core_leave]
    exact counted_of_operated hentered hkeeps hoperated

/-- The producer before its first call. -/
lemma counted_init : init.core.Counted where
  sound := sound_noSources.1
  runs := fun _ hwrite => by cases hwrite
  numbered := by
    refine ⟨fun _ => 0, .nil, fun _ other => ?_⟩
    rw [Core.counter, show init.core.sources = noSources from rfl, sound_noSources.2]
    split_ifs <;> rfl

end Producer

/-! ## Record identity -/

/-- **Record identity.** In every run of calls that keep the numbers, no two records in the ring have
been written under the same run, source and number, and those of each run and source are numbered
`0, 1, 2, …` in the order written. -/
theorem ring_identity_unique {arith : RealArith} {p : Producer}
    (hrun : Runs (Producer.step arith) (fun q inputs => q.keepsNumbers arith inputs = true)
      Producer.init p) :
    (p.store.ring.written.Pairwise fun a b =>
      ¬(a.runId = b.runId ∧ a.sourceId = b.sourceId ∧ a.seq = b.seq)) ∧
    ∀ run source, ∃ n, ((p.store.ring.written.filter fun write =>
        decide (write.runId = run ∧ write.sourceId = source)).map fun write =>
          write.seq.toNat) = List.range n := by
  have hcounted : p.core.Counted :=
    hrun.invariant (P := fun q => q.core.Counted) Producer.counted_init
      fun _ _ _ hcounted hkeeps hstep => Producer.counted_call hcounted hkeeps hstep
  obtain ⟨next, hnumbered, -⟩ := hcounted.numbered
  refine ⟨hnumbered.distinct.imp ?_, fun run source => ⟨next (run, source), ?_⟩⟩
  · rintro a b hdistinct ⟨hrunId, hsource, hseq⟩
    exact hdistinct ⟨Prod.ext hrunId hsource, congrArg UInt64.toNat hseq⟩
  · rw [← hnumbered (run, source), numbers]
    simp only [RingWrite.stream, Prod.mk.injEq]
    rfl

/-- Two messages, a transition and a message of the new run. -/
def renumberingCalls : List Inputs :=
  [{ sourceId := 5 }, { sourceId := 5 }, { op := 1 }, { op := 2 }, { op := 4 },
    { sourceId := 5 }].flatMap pulse

/-- Source 5 counts from zero in the new run. -/
theorem ring_identity_unique_cold_start : ∃ p : Producer,
    p.store.ring.written.map RingWrite.stream =
      [(1, 5), (1, 5), (1, 0), (1, 5), (1, 0), (2, 0), (2, 5)] ∧
    ∃ n, ((p.store.ring.written.filter fun write =>
      decide (write.runId = 2 ∧ write.sourceId = 5)).map fun write => write.seq.toNat) =
        List.range n := by
  have hmap : (follow (Producer.step noReals)
      (fun q inputs => q.keepsNumbers noReals inputs = true) renumberingCalls Producer.init).map
      (fun p => p.store.ring.written.map RingWrite.stream) =
        some [(1, 5), (1, 5), (1, 0), (1, 5), (1, 0), (2, 0), (2, 5)] := by
    decide +kernel
  obtain ⟨p, hfollow, hstreams⟩ := Option.map_eq_some_iff.mp hmap
  exact ⟨p, hstreams, (ring_identity_unique (Runs.start.of_follow hfollow)).2 2 5⟩

/-- A staged record that gets into the ring but not into the full scan list, and one with its number
after the scan list has been reset. -/
def reusedNumberCalls : List Inputs :=
  fillingCalls ++
    pulse { op := 5, sourceId := 5, stageLength := 1, stageSeq := 4, accumulateScanRecords := true } ++
    pulse { op := 5, sourceId := 5, stageLength := 1, stageSeq := 4 }

/-- Two records of source 5 are written under number 4. -/
theorem ring_identity_reused : ∃ p, Producer.Reachable noReals p ∧
    ¬p.store.ring.written.Pairwise fun a b =>
      ¬(a.runId = b.runId ∧ a.sourceId = b.sourceId ∧ a.seq = b.seq) := by
  have hmap : (follow (Producer.step noReals) (fun _ _ => True) reusedNumberCalls
      Producer.init).map (fun p => decide (p.store.ring.written.Pairwise fun a b =>
        ¬(a.runId = b.runId ∧ a.sourceId = b.sourceId ∧ a.seq = b.seq))) = some false := by
    decide +kernel
  obtain ⟨p, hfollow, hreused⟩ := Option.map_eq_some_iff.mp hmap
  exact ⟨p, Runs.start.of_follow hfollow, of_decide_eq_false hreused⟩

end OpenOT.St
