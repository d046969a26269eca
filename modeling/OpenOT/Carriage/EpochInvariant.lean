import OpenOT.Carriage.Epoch
import OpenOT.Carriage.RingInvariant
import OpenOT.Lib.Numbering

set_option relaxedAutoImplicit false
set_option autoImplicit false

/-!
# Every record has a number of its own

The invariant of the epoch producer: the records written to its ring are numbered, stream by
stream, and the counters say which number is next.

## Main definitions

* `OpenOT.ReadRecord.stream`, `OpenOT.ReadRecord.seqNo` — the stream and the number of a record.
* `OpenOT.Emitted` — the shapes of the records the producer writes.
* `OpenOT.EpochProducer.Counted` — the invariant.
* `OpenOT.EpochCall.Mixes` — a call that would number the system source from a second counter.

## Main results

* `OpenOT.EpochProducer.Counted.call` — a call that does not mix the counters keeps the
  invariant, whether it is accepted or rejected.
* `OpenOT.record_identity_unique` — over every run of such calls the records are numbered.
* `OpenOT.system_source_numbered_twice` — a run in which two records carry the same number.

## Design

The invariant holds between calls and after every record. It need not hold in the state a
panic leaves, where a counter may be one behind; what still holds there is that the history is
numbered.
-/

namespace OpenOT

open Rust Numbering

/-! ## Streams and shapes -/

/-- The stream of a record: its run and its source. -/
def ReadRecord.stream (w : ReadRecord) : UInt64 × UInt32 := (w.record.runId, w.record.sourceId)

/-- The sequence number of a record. -/
def ReadRecord.seqNo (w : ReadRecord) : ℕ := w.record.seq.toNat

/-- The shapes of the records a producer writes. -/
inductive Emitted (record : Record) : Prop
  | data (hslots : record.slots = [])
  | message (hevent : record.eventTypeId = EVENT_MESSAGE)
      (hslots : record.slots = [⟨KEY_MESSAGE_TEMPLATE_ID, TY_UDINT, toLe 4 0⟩])
  | highWater (hevent : record.eventTypeId = EVENT_SOURCE_HIGH_WATER)
      (hslots : record.slots = [⟨KEY_SOURCE_HIGH_WATER, TY_ULINT, toLe 8 record.seq.toNat⟩])
  | stopped (hevent : record.eventTypeId = EVENT_LOGGER_STOPPED) (hslots : record.slots = [])
  | changed (pending : PendingTransition) (hevent : record.eventTypeId = EVENT_DEFINITION_CHANGED)
      (hslots : record.slots = [⟨KEY_DEF_HASH_OLD, TY_BYTES, pending.defHashOld.toList⟩,
        ⟨KEY_DEF_HASH_NEW, TY_BYTES, pending.defHashNew.toList⟩,
        ⟨KEY_EPOCH_ID, TY_ULINT, toLe 8 pending.epochId.toNat⟩])
  | started (coldStart : UInt8) (hevent : record.eventTypeId = EVENT_LOGGER_STARTED)
      (hslots : record.slots = [⟨KEY_COLD_START, TY_BOOL, [coldStart]⟩])

/-- A record the producer writes encodes, to at most 80 bytes. -/
lemma Emitted.encodable {record : Record} (h : Emitted record) :
    record.Encodable true ∧ (record.bytes true).length ≤ 80 := by
  have hsize : (∀ slot ∈ record.slots, slot.payload.length ≤ 255) ∧
      (slotArea record.slots).length ≤ 36 := by
    cases h with
    | data hslots => simp [hslots, slotArea]
    | message _ hslots => simp [hslots, slotArea, paddingLen]
    | highWater _ hslots => simp [hslots, slotArea, paddingLen]
    | stopped _ hslots => simp [hslots, slotArea]
    | changed _ _ hslots => simp [hslots, slotArea, paddingLen]
    | started _ _ hslots => simp [hslots, slotArea, paddingLen]
  have hlen : record.encodedLen true ≤ 80 := by
    have := hsize.2
    simp only [Record.encodedLen, HEADER_LEN, CRC_LEN, if_true]
    omega
  exact ⟨⟨hsize.1, by omega⟩, by rwa [length_bytes]⟩

namespace EpochProducer

/-! ## The invariant -/

/-- The next number of a source in the current run. The system source has two counters: its own,
and one a data record under the reserved id opens. -/
def nextSeq (producer : EpochProducer) (sourceId : UInt32) : UInt64 :=
  producer.sourceSeq.getD sourceId (if sourceId = SYSTEM_SOURCE_ID then producer.systemSeq else 0)

/-- The records written so far are numbered. -/
def Contiguous (producer : EpochProducer) : Prop :=
  ∃ next, Numbered ReadRecord.stream ReadRecord.seqNo next producer.written

/-- The counters say which number each stream is at: in the current run the next number of the
source, and zero in runs to come. -/
structure Numbers (producer : EpochProducer) (next : UInt64 × UInt32 → ℕ) : Prop where
  numbered : Numbered ReadRecord.stream ReadRecord.seqNo next producer.written
  bound : ∀ k, next k < 2 ^ 64
  current : ∀ source, next (producer.runId, source) = (producer.nextSeq source).toNat
  future : ∀ run source, producer.runId < run → next (run, source) = 0

/-- The invariant of the producer. -/
structure Counted (producer : EpochProducer) : Prop where
  ring : producer.ring.Represents producer.written
  capacity : 80 ≤ producer.ring.capacity
  emitted : ∀ w ∈ producer.written, Emitted w.record
  numbers : ∃ next, producer.Numbers next
  system_source : SYSTEM_SOURCE_ID ∈ producer.sourceSeq → producer.systemSeq = 0
  transition : producer.transition.isSome → producer.systemSeq ≠ 0

variable {producer : EpochProducer}

lemma Counted.contiguous (h : producer.Counted) : producer.Contiguous := by
  obtain ⟨next, hnext⟩ := h.numbers
  exact ⟨next, hnext.numbered⟩

/-- The invariant does not depend on the other fields. -/
lemma Counted.congr {producer' : EpochProducer} (h : producer.Counted)
    (hring : producer'.ring = producer.ring) (hwritten : producer'.written = producer.written)
    (hrun : producer'.runId = producer.runId) (hsystem : producer'.systemSeq = producer.systemSeq)
    (hsource : producer'.sourceSeq = producer.sourceSeq)
    (htransition : producer'.transition.isSome → producer.systemSeq ≠ 0) :
    producer'.Counted := by
  obtain ⟨next, hnumbered, hbound, hcurrent, hfuture⟩ := h.numbers
  refine ⟨hring ▸ hwritten ▸ h.ring, hring ▸ h.capacity, hwritten ▸ h.emitted,
    ⟨next, hwritten ▸ hnumbered, hbound, ?_, hrun ▸ hfuture⟩, ?_, hsystem ▸ htransition⟩
  · intro source
    rw [hrun, hcurrent, nextSeq, nextSeq, hsource, hsystem]
  · rw [hsource, hsystem]
    exact h.system_source

/-- A new producer has written nothing. -/
lemma counted_new {capacity : ℕ} {runId epochId : UInt64} (hcap : 80 ≤ capacity)
    (hnew : EpochProducer.new capacity runId epochId = .ok producer) : producer.Counted := by
  obtain ⟨ring, hring, hproducer⟩ := Outcome.bind_eq_ok.mp hnew
  obtain ⟨hrep, hcapacity⟩ := RingBuffer.represents_new (Outcome.mapErr_eq_ok.mp hring)
  obtain rfl := Outcome.ok.inj hproducer
  refine ⟨hrep, hcapacity ▸ hcap, by simp, ⟨fun _ => 0, ?_⟩, by simp, by simp⟩
  exact ⟨Numbered.nil, by simp, by simp [nextSeq], by simp⟩

/-- One more record keeps the invariant, if it carries the next number of its source and the
counters move on by one. -/
lemma Counted.emit (h : producer.Counted) {producer' : EpochProducer} {w : ReadRecord}
    (hring : producer'.ring.Represents producer'.written)
    (hcap : producer'.ring.capacity = producer.ring.capacity)
    (hwritten : producer'.written = producer.written ++ [w]) (hw : Emitted w.record)
    (hrun : producer'.runId = producer.runId) (hwrun : w.record.runId = producer.runId)
    (hseq : w.record.seq = producer.nextSeq w.record.sourceId)
    (hnext : ∀ source, (producer'.nextSeq source).toNat =
      if source = w.record.sourceId then (producer.nextSeq source).toNat + 1
      else (producer.nextSeq source).toNat)
    (hsystem : SYSTEM_SOURCE_ID ∈ producer'.sourceSeq → producer'.systemSeq = 0)
    (htransition : producer'.transition.isSome → producer'.systemSeq ≠ 0) :
    producer'.Counted := by
  obtain ⟨next, hnumbers⟩ := h.numbers
  have hstream : w.stream = (producer.runId, w.record.sourceId) := by
    rw [ReadRecord.stream, hwrun]
  have hat : next w.stream = (producer.nextSeq w.record.sourceId).toNat := by
    rw [hstream, hnumbers.current]
  have hcurrent : ∀ source, (if (producer.runId, source) = w.stream
      then next (producer.runId, source) + 1 else next (producer.runId, source)) =
        (producer'.nextSeq source).toNat := by
    intro source
    rw [hnext, hstream, hnumbers.current]
    simp
  refine ⟨hring, hcap ▸ h.capacity, ?_, ⟨fun k => if k = w.stream then next k + 1 else next k, ?_⟩,
    hsystem, htransition⟩
  · intro v hv
    rw [hwritten] at hv
    rcases List.mem_append.mp hv with hold | hlast
    · exact h.emitted v hold
    · rw [List.mem_singleton.mp hlast]
      exact hw
  · refine ⟨?_, ?_, ?_, ?_⟩
    · rw [hwritten]
      exact hnumbers.numbered.concat (by rw [hat, ReadRecord.seqNo, hseq]) fun _ => rfl
    · intro k
      by_cases hk : k = w.stream
      · have := hcurrent w.record.sourceId
        rw [← hstream] at this
        rw [hk, this]
        exact UInt64.toNat_lt _
      · simp only [if_neg hk]
        exact hnumbers.bound k
    · intro source
      rw [hrun]
      exact hcurrent source
    · intro run source hlt
      rw [hrun] at hlt
      have hne : (run, source) ≠ w.stream := by
        rw [hstream]
        rintro heq
        exact absurd (Prod.mk.inj heq).1 (UInt64.ne_of_lt hlt).symm
      simp only [if_neg hne]
      exact hnumbers.future run source hlt

/-! ## Single records -/

section Records

variable {E : EpochError → EpochProducer → Prop} {P : EpochProducer → Prop}

/-- The ring accepts every record the producer writes. -/
lemma wp_writeRecord (hring : producer.ring.Represents producer.written)
    (hcap : 80 ≤ producer.ring.capacity) {record : Record} (hrecord : Emitted record)
    {Q : ℕ × ℕ → EpochProducer → Prop}
    (h : ∀ ring startAbs endAbs,
      ring.Represents (producer.written ++ [⟨startAbs, endAbs, record⟩]) →
      ring.capacity = producer.ring.capacity →
      Q (startAbs, endAbs) { producer with
        ring := ring
        written := producer.written ++ [⟨startAbs, endAbs, record⟩] }) :
    (writeRecord record).wp Q E P producer := by
  rcases hring.writeRecord record with
    ⟨ring, startAbs, endAbs, hwrite, -, -, -, -, hcapacity, -, hrep⟩ | ⟨hreject, -⟩
  · simp only [Mut.wp, writeRecord, hwrite]
    exact h ring startAbs endAbs hrep hcapacity
  · obtain ⟨henc, hlen⟩ := hrecord.encodable
    exact absurd ⟨henc, hlen.trans hcap⟩ hreject

/-- Stamping a record moves the source time only. -/
lemma wp_record {sourceId : UInt32} {seq : UInt64} {eventTypeId : UInt32}
    {Q : Record → EpochProducer → Prop}
    (h : ∀ sourceTime, Q (Record.new producer.sourceTime producer.runId seq sourceId eventTypeId)
      { producer with sourceTime := sourceTime }) (hP : P producer) :
    (record sourceId seq eventTypeId).wp Q E P producer :=
  Mut.wp_bind (Mut.wp_get (Mut.wp_bind (Mut.wp_checkedAdd
    (fun sourceTime _ => Mut.wp_bind (Mut.wp_modify (Mut.wp_pure (h sourceTime)))) hP)))

/-- A system record. The system source must not have been used by a data record. -/
lemma Counted.emitSystem (h : producer.Counted) (hsource : SYSTEM_SOURCE_ID ∉ producer.sourceSeq)
    {eventTypeId : UInt32} {slots : List Slot}
    (hshape : ∀ record : Record, record.eventTypeId = eventTypeId → record.slots = slots →
      Emitted record) :
    (emitSystem eventTypeId slots).wp
      (fun _ producer' => producer'.Counted ∧ producer'.systemSeq ≠ 0 ∧
        producer'.transition = producer.transition)
      (fun _ _ => False) Contiguous producer := by
  refine Mut.wp_bind (Mut.wp_get (Mut.wp_bind (Mut.wp_checkedAdd ?_ h.contiguous)))
  intro next hnext
  refine Mut.wp_bind (Mut.wp_modify (Mut.wp_bind (wp_record ?_ h.contiguous)))
  intro sourceTime
  have hrecord := hshape { Record.new producer.sourceTime producer.runId producer.systemSeq
    SYSTEM_SOURCE_ID eventTypeId with slots := slots } rfl rfl
  have hne : next ≠ 0 := by
    rintro rfl
    simp at hnext
  change (writeRecord _).wp _ _ _ { producer with systemSeq := next, sourceTime := sourceTime }
  refine wp_writeRecord ?_ ?_ hrecord fun ring startAbs endAbs hrep hcap => ?_
  · exact h.ring
  · exact h.capacity
  refine ⟨h.emit hrep hcap rfl hrecord rfl rfl ?_ ?_ ?_ ?_, hne, rfl⟩
  · exact (Std.TreeMap.getD_eq_fallback hsource).symm
  · intro source
    by_cases hs : source = SYSTEM_SOURCE_ID
    · subst hs
      simp [nextSeq, Std.TreeMap.getD_eq_fallback hsource, Record.new, hnext]
    · simp [nextSeq, hs, Record.new]
  · exact fun hmem => absurd hmem hsource
  · exact fun _ => hne

/-- A data record. The system source must not have been used by a system record. -/
lemma Counted.emitData (h : producer.Counted) {sourceId eventTypeId : UInt32}
    (hmix : producer.transition = none → sourceId = SYSTEM_SOURCE_ID → producer.systemSeq = 0) :
    (emitData sourceId eventTypeId).wp (fun _ producer' => producer'.Counted)
      (fun _ producer' => producer'.Counted) Contiguous producer := by
  refine Mut.wp_bind (Mut.wp_get ?_)
  by_cases hopen : producer.transition.isSome
  · rw [if_pos hopen]
    exact h
  have hnone : producer.transition = none := by simpa using hopen
  rw [if_neg hopen]
  -- the number drawn is the next number of the source
  have hfallback : (if sourceId = SYSTEM_SOURCE_ID then producer.systemSeq else 0) = 0 := by
    split_ifs with hs
    · exact hmix hnone hs
    · rfl
  have hdrawn : (producer.sourceSeq.insertIfNew sourceId 0).getD sourceId 0 =
      producer.nextSeq sourceId := by
    rw [Std.TreeMap.getD_insertIfNew, nextSeq, hfallback]
    split_ifs with hnew
    · exact (Std.TreeMap.getD_eq_fallback hnew.2).symm
    · rfl
  refine Mut.wp_bind (Mut.wp_bind (Mut.wp_modify (Mut.wp_bind (Mut.wp_get
    (Mut.wp_bind (Mut.wp_checkedAdd ?_ h.contiguous))))))
  intro next hnext
  refine Mut.wp_bind (Mut.wp_modify (Mut.wp_pure (Mut.wp_bind (wp_record ?_ h.contiguous))))
  intro sourceTime
  beta_reduce at hnext ⊢
  simp only [hdrawn] at hnext ⊢
  have hrecord : Emitted (if eventTypeId = EVENT_MESSAGE then
      { Record.new producer.sourceTime producer.runId (producer.nextSeq sourceId) sourceId
          eventTypeId with slots := [⟨KEY_MESSAGE_TEMPLATE_ID, TY_UDINT, toLe 4 0⟩] }
      else Record.new producer.sourceTime producer.runId (producer.nextSeq sourceId) sourceId
        eventTypeId) := by
    split_ifs with hevent
    · exact .message hevent rfl
    · exact .data rfl
  change Mut.wp (writeRecord _ >>= fun _ => pure ()) _ _ _ { producer with
    sourceSeq := (producer.sourceSeq.insertIfNew sourceId 0).insert sourceId next
    sourceTime := sourceTime }
  refine Mut.wp_bind (wp_writeRecord ?_ ?_ hrecord fun ring startAbs endAbs hrep hcap => ?_)
  · exact h.ring
  · exact h.capacity
  have hid : ∀ record : Record, record = (if eventTypeId = EVENT_MESSAGE then
      { Record.new producer.sourceTime producer.runId (producer.nextSeq sourceId) sourceId
          eventTypeId with slots := [⟨KEY_MESSAGE_TEMPLATE_ID, TY_UDINT, toLe 4 0⟩] }
      else Record.new producer.sourceTime producer.runId (producer.nextSeq sourceId) sourceId
        eventTypeId) → record.runId = producer.runId ∧ record.sourceId = sourceId ∧
          record.seq = producer.nextSeq sourceId := by
    rintro record rfl
    split_ifs <;> exact ⟨rfl, rfl, rfl⟩
  obtain ⟨hrun, hsource, hseq⟩ := hid _ rfl
  refine h.emit hrep hcap rfl hrecord rfl hrun (hseq.trans (congrArg _ hsource.symm)) ?_ ?_ ?_
  · intro source
    rw [hsource]
    by_cases hs : source = sourceId
    · subst hs
      simp [nextSeq, hnext]
    · simp [nextSeq, Std.TreeMap.getD_insert, Std.TreeMap.getD_insertIfNew, Ne.symm hs, hs]
  · intro hmem
    by_cases hs : sourceId = SYSTEM_SOURCE_ID
    · exact hmix hnone hs
    · apply h.system_source
      simpa [Std.TreeMap.mem_insert, Std.TreeMap.mem_insertIfNew, hs] using hmem
  · simp [hnone]

/-- The checkpoint loop, over entries that are still what the counters say. -/
lemma Counted.checkpointLoop {highWater : List (UInt32 × UInt64)} :
    ∀ {producer : EpochProducer}, producer.Counted →
      (highWater.Pairwise fun a b => ¬compare a.1 b.1 = .eq) →
      (∀ entry ∈ highWater, producer.sourceSeq[entry.1]? = some entry.2) →
      (checkpointLoop highWater).wp
        (fun _ producer' => producer'.Counted ∧ producer'.systemSeq = producer.systemSeq ∧
          producer'.transition = producer.transition)
        (fun _ _ => False) Contiguous producer := by
  induction highWater with
  | nil => exact fun h _ _ => ⟨h, rfl, rfl⟩
  | cons entry highWater ih =>
    intro producer h hdistinct hcounts
    obtain ⟨sourceId, producedCount⟩ := entry
    obtain ⟨hother, hdistinct⟩ := List.pairwise_cons.mp hdistinct
    obtain ⟨hcount, hcounts⟩ := List.forall_mem_cons.mp hcounts
    have hmem : sourceId ∈ producer.sourceSeq := by
      rw [Std.TreeMap.mem_iff_isSome_getElem?, hcount]
      rfl
    have hnextSeq : ∀ fallback, producer.sourceSeq.getD sourceId fallback = producedCount := by
      intro fallback
      rw [Std.TreeMap.getD_eq_getD_getElem?, hcount]
      rfl
    refine Mut.wp_bind (wp_record ?_ h.contiguous)
    intro sourceTime
    have hrecord : Emitted { Record.new producer.sourceTime producer.runId producedCount sourceId
        EVENT_SOURCE_HIGH_WATER with
          slots := [⟨KEY_SOURCE_HIGH_WATER, TY_ULINT, toLe 8 producedCount.toNat⟩] } :=
      .highWater rfl rfl
    refine Mut.wp_bind (wp_writeRecord ?_ ?_ hrecord fun ring startAbs endAbs hrep hcap => ?_)
    · exact h.ring
    · exact h.capacity
    refine Mut.wp_bind (Mut.wp_checkedAdd ?_ ?_)
    · intro next hnext
      refine Mut.wp_bind (Mut.wp_modify ?_)
      refine ih ?_ hdistinct ?_
      · refine h.emit hrep hcap rfl hrecord rfl rfl (hnextSeq _).symm ?_ ?_ h.transition
        · intro source
          by_cases hs : source = sourceId
          · subst hs
            simp [nextSeq, hnextSeq, hnext, Record.new]
          · simp [nextSeq, Std.TreeMap.getD_insert, Ne.symm hs, hs, Record.new]
        · intro hsystem
          apply h.system_source
          rcases Std.TreeMap.mem_insert.mp hsystem with heq | hold
          · rwa [Std.LawfulEqCmp.eq_of_compare heq] at hmem
          · exact hold
      · intro entry hentry
        rw [← hcounts entry hentry]
        simp [Std.TreeMap.getElem?_insert, hother entry hentry]
    · -- the record is written, but its counter overflows
      obtain ⟨next, hnumbers⟩ := h.numbers
      refine ⟨fun k => if k = (producer.runId, sourceId) then next k + 1 else next k, ?_⟩
      refine hnumbers.numbered.concat ?_ fun _ => rfl
      exact ((hnumbers.current sourceId).trans (congrArg _ (hnextSeq _))).symm

end Records

/-! ## The methods -/

/-- A checkpoint writes one record for each counter. -/
lemma Counted.checkpointHighWater (h : producer.Counted) :
    checkpointHighWater.wp
      (fun _ producer' => producer'.Counted ∧ producer'.systemSeq = producer.systemSeq ∧
        producer'.transition = producer.transition)
      (fun _ producer' => producer'.Counted ∧ producer.transition.isSome) Contiguous producer := by
  refine Mut.wp_bind (Mut.wp_get ?_)
  by_cases hopen : producer.transition.isSome
  · rw [if_pos hopen]
    exact ⟨h, hopen⟩
  · rw [if_neg hopen]
    refine Mut.wp_mono (h.checkpointLoop Std.TreeMap.distinct_keys_toList ?_)
      (fun _ _ => id) (fun _ _ => False.elim) fun _ => id
    exact fun entry hentry => Std.TreeMap.mem_toList_iff_getElem?_eq_some.mp hentry

/-- Beginning a transition. The system source must not have been used by a data record. -/
lemma Counted.beginEpochTransition (h : producer.Counted) {defHashOld defHashNew : DefinitionHash}
    {epochId : UInt64}
    (hmix : producer.transition = none → SYSTEM_SOURCE_ID ∉ producer.sourceSeq) :
    (beginEpochTransition defHashOld defHashNew epochId).wp
      (fun _ producer' => producer'.Counted) (fun _ producer' => producer'.Counted)
      Contiguous producer := by
  refine Mut.wp_bind (Mut.wp_get ?_)
  by_cases hopen : producer.transition.isSome
  · rw [if_pos hopen]
    exact h
  have hnone : producer.transition = none := by simpa using hopen
  rw [if_neg hopen]
  refine Mut.wp_bind (Mut.wp_mono (h.emitSystem (hmix hnone) ?_) ?_ (fun _ _ => False.elim)
    fun _ => id)
  · exact fun record hevent hslots => .stopped hevent hslots
  rintro - stopped ⟨hstopped, hne, htransition⟩
  refine Mut.wp_bind (Mut.wp_mono hstopped.checkpointHighWater ?_ (fun _ _ => And.left)
    fun _ => id)
  rintro - marked ⟨hmarked, hsystem, -⟩
  exact Mut.wp_modify (hmarked.congr rfl rfl rfl rfl rfl fun _ => hsystem ▸ hne)

/-- With the transition taken out the invariant still holds. -/
lemma Counted.taken (h : producer.Counted) : Counted { producer with transition := none } :=
  h.congr rfl rfl rfl rfl rfl (by simp)

/-- While a transition is open the system source belongs to the system records. -/
lemma Counted.system_source_free (h : producer.Counted) (hopen : producer.transition.isSome) :
    SYSTEM_SOURCE_ID ∉ producer.sourceSeq :=
  fun hmem => h.transition hopen (h.system_source hmem)

/-- A method that needs an open transition: it is rejected without one; with one, the rest of the
method runs with the transition taken out. -/
lemma Counted.takeTransition (h : producer.Counted)
    {rest : PendingTransition → Mut EpochProducer EpochError Unit}
    (hrest : ∀ pending, producer.transition = some pending →
      (rest pending).wp (fun _ producer' => producer'.Counted)
        (fun _ producer' => producer'.Counted) Contiguous { producer with transition := none }) :
    (takeTransition >>= rest).wp (fun _ producer' => producer'.Counted)
      (fun _ producer' => producer'.Counted) Contiguous producer := by
  refine Mut.wp_bind (Mut.wp_bind (Mut.wp_get (Mut.wp_bind (Mut.wp_modify ?_))))
  cases hopen : producer.transition with
  | none => exact Mut.wp_throw h.taken
  | some pending => exact Mut.wp_pure (hrest pending hopen)

/-- Putting a transition back. -/
lemma Counted.put (h : producer.Counted) (hne : producer.systemSeq ≠ 0)
    (pending : PendingTransition) : Counted { producer with transition := some pending } :=
  h.congr rfl rfl rfl rfl rfl fun _ => hne

/-- Announcing the new definition. -/
lemma Counted.emitDefinitionChanged (h : producer.Counted) :
    emitDefinitionChanged.wp (fun _ producer' => producer'.Counted)
      (fun _ producer' => producer'.Counted) Contiguous producer := by
  refine h.takeTransition fun pending hpending => ?_
  have hopen : producer.transition.isSome := by simp [hpending]
  by_cases hemitted : pending.definitionChangedEmitted
  · rw [if_pos hemitted]
    exact Mut.wp_bind (Mut.wp_modify (Mut.wp_throw (h.taken.put (h.transition hopen) pending)))
  · rw [if_neg hemitted]
    refine Mut.wp_bind (Mut.wp_mono (h.taken.emitSystem (h.system_source_free hopen) ?_) ?_
      (fun _ _ => False.elim) fun _ => id)
    · exact fun record hevent hslots => .changed pending hevent hslots
    · rintro - changed ⟨hchanged, hne, -⟩
      exact Mut.wp_modify (hchanged.put hne _)

/-- Closing a warm transition. -/
lemma Counted.finishDefinitionChange (h : producer.Counted) :
    finishDefinitionChange.wp (fun _ producer' => producer'.Counted)
      (fun _ producer' => producer'.Counted) Contiguous producer := by
  refine h.takeTransition fun pending hpending => ?_
  have hopen : producer.transition.isSome := by simp [hpending]
  by_cases hemitted : pending.definitionChangedEmitted
  swap
  · rw [if_pos (by simpa using hemitted)]
    exact Mut.wp_bind (Mut.wp_modify (Mut.wp_throw (h.taken.put (h.transition hopen) pending)))
  rw [if_neg (by simpa using hemitted)]
  have hepoch : Counted { producer with transition := none, epochId := pending.epochId } :=
    h.congr rfl rfl rfl rfl rfl (by simp)
  refine Mut.wp_bind (Mut.wp_modify (Mut.wp_bind (Mut.wp_mono
    (hepoch.emitSystem (h.system_source_free hopen) ?_) ?_ (fun _ _ => False.elim) fun _ => id)))
  · exact fun record hevent hslots => .started 0 hevent hslots
  · rintro ⟨startAbs, -⟩ started ⟨hstarted, -, -⟩
    exact Mut.wp_modify (hstarted.congr rfl rfl rfl rfl rfl hstarted.transition)

/-- Closing a cold start: the counters start over in the next run, where nothing has been
written yet. -/
lemma Counted.finishColdStart (h : producer.Counted) :
    finishColdStart.wp (fun _ producer' => producer'.Counted)
      (fun _ producer' => producer'.Counted) Contiguous producer := by
  refine h.takeTransition fun pending hpending => ?_
  have hopen : producer.transition.isSome := by simp [hpending]
  by_cases hemitted : pending.definitionChangedEmitted
  swap
  · rw [if_pos (by simpa using hemitted)]
    exact Mut.wp_bind (Mut.wp_modify (Mut.wp_throw (h.taken.put (h.transition hopen) pending)))
  rw [if_neg (by simpa using hemitted)]
  refine Mut.wp_bind (Mut.wp_get (Mut.wp_bind (Mut.wp_checkedAdd ?_ h.contiguous)))
  intro runId hrunId
  obtain ⟨next, hnumbers⟩ := h.numbers
  have hlt : ∀ run, runId ≤ run → producer.runId < run := by
    intro run hle
    rw [UInt64.le_iff_toNat_le] at hle
    rw [UInt64.lt_iff_toNat_lt]
    simp at hrunId
    omega
  have hrun : Counted { producer with
      transition := none
      runId := runId
      epochId := pending.epochId
      systemSeq := 0
      sourceSeq := ∅ } := by
    refine ⟨h.ring, h.capacity, h.emitted, ⟨next, hnumbers.numbered, hnumbers.bound, ?_, ?_⟩,
      by simp, by simp⟩
    · intro source
      simp [nextSeq, hnumbers.future runId source (hlt runId (UInt64.le_refl _))]
    · exact fun run source hafter => hnumbers.future run source (hlt run (UInt64.le_of_lt hafter))
  refine Mut.wp_bind (Mut.wp_modify (Mut.wp_bind (Mut.wp_mono
    (hrun.emitSystem (by simp) ?_) ?_ (fun _ _ => False.elim) fun _ => id)))
  · exact fun record hevent hslots => .started 1 hevent hslots
  · rintro ⟨startAbs, -⟩ started ⟨hstarted, -, -⟩
    exact Mut.wp_modify (hstarted.congr rfl rfl rfl rfl rfl hstarted.transition)

end EpochProducer

/-! ## Runs of calls -/

/-- The call would number a record of the system source from a second counter: an accepted data
record under the reserved id after system records of the run, or a transition begun after such
data records. -/
def EpochCall.Mixes (producer : EpochProducer) : EpochCall → Prop
  | emitData sourceId _ => producer.transition = none ∧ sourceId = SYSTEM_SOURCE_ID ∧
      producer.systemSeq ≠ 0
  | beginEpochTransition _ _ _ => producer.transition = none ∧
      SYSTEM_SOURCE_ID ∈ producer.sourceSeq
  | _ => False

instance (producer : EpochProducer) : DecidablePred (EpochCall.Mixes producer)
  | .emitData sourceId _ => inferInstanceAs (Decidable (producer.transition = none ∧
      sourceId = SYSTEM_SOURCE_ID ∧ producer.systemSeq ≠ 0))
  | .beginEpochTransition _ _ _ => inferInstanceAs (Decidable (producer.transition = none ∧
      SYSTEM_SOURCE_ID ∈ producer.sourceSeq))
  | .checkpointHighWater => isFalse id
  | .emitDefinitionChanged => isFalse id
  | .finishDefinitionChange => isFalse id
  | .finishColdStart => isFalse id

namespace EpochProducer

variable {producer : EpochProducer}

/-- **One call keeps the invariant**, accepted or rejected, unless it mixes the two counters of
the system source. -/
lemma Counted.call (h : producer.Counted) {call : EpochCall} (hmix : ¬call.Mixes producer) :
    call.run.wp (fun _ producer' => producer'.Counted) (fun _ producer' => producer'.Counted)
      Contiguous producer := by
  cases call with
  | emitData sourceId eventTypeId =>
    refine h.emitData fun hnone hsource => ?_
    by_contra hne
    exact hmix ⟨hnone, hsource, hne⟩
  | checkpointHighWater =>
    exact Mut.wp_mono h.checkpointHighWater (fun _ _ => And.left) (fun _ _ => And.left)
      fun _ => id
  | beginEpochTransition defHashOld defHashNew epochId =>
    exact h.beginEpochTransition fun hnone hmem => hmix ⟨hnone, hmem⟩
  | emitDefinitionChanged => exact h.emitDefinitionChanged
  | finishDefinitionChange => exact h.finishDefinitionChange
  | finishColdStart => exact h.finishColdStart

/-- No call of the run mixes the two counters of the system source. -/
def KeepsApart : List EpochCall → EpochProducer → Prop
  | [], _ => True
  | call :: calls, producer => ¬call.Mixes producer ∧
    match call.run producer with
    | (.panic, _) => True
    | (_, producer') => KeepsApart calls producer'

instance decidableKeepsApart : (calls : List EpochCall) → (producer : EpochProducer) →
    Decidable (KeepsApart calls producer)
  | [], _ => isTrue trivial
  | call :: calls, producer =>
    have : Decidable (match call.run producer with
        | (.panic, _) => True
        | (_, producer') => KeepsApart calls producer') :=
      match call.run producer with
      | (.panic, _) => isTrue trivial
      | (.ok _, producer') => decidableKeepsApart calls producer'
      | (.err _, producer') => decidableKeepsApart calls producer'
    inferInstanceAs (Decidable (¬call.Mixes producer ∧ _))

/-- Over a run the records stay numbered. -/
lemma Counted.runCalls (h : producer.Counted) {calls : List EpochCall}
    (hapart : KeepsApart calls producer) : (runCalls calls producer).Contiguous := by
  induction calls generalizing producer with
  | nil => exact h.contiguous
  | cons call calls ih =>
    obtain ⟨hmix, hrest⟩ := hapart
    have hcall := h.call hmix
    rw [EpochProducer.runCalls]
    unfold Mut.wp at hcall
    match hrun : call.run producer with
    | (.ok _, producer') =>
      rw [hrun] at hcall hrest
      exact ih hcall hrest
    | (.err _, producer') =>
      rw [hrun] at hcall hrest
      exact ih hcall hrest
    | (.panic, producer') =>
      rw [hrun] at hcall
      exact hcall

end EpochProducer

/-! ## The history only grows -/

namespace EpochProducer

/-- The history has grown and the system source still has one counter only, if it had. -/
def Extends (before after : EpochProducer) : Prop :=
  SYSTEM_SOURCE_ID ∉ before.sourceSeq →
    before.written <+: after.written ∧ SYSTEM_SOURCE_ID ∉ after.sourceSeq

instance : Std.Refl Extends where
  refl _ hsource := ⟨List.prefix_rfl, hsource⟩

instance : IsTrans EpochProducer Extends where
  trans _ _ _ hab hbc hsource :=
    have ⟨hpre, hsource'⟩ := hab hsource
    have ⟨hpre', hsource''⟩ := hbc hsource'
    ⟨hpre.trans hpre', hsource''⟩

/-- The other fields do not matter. -/
lemma extends_of_eq {before after : EpochProducer} (hwritten : after.written = before.written)
    (hsource : after.sourceSeq = before.sourceSeq) : Extends before after :=
  fun h => ⟨hwritten ▸ List.prefix_rfl, hsource ▸ h⟩

/-- A counter of another source. -/
lemma extends_insert {producer : EpochProducer} {sourceId : UInt32} {next : UInt64}
    (hne : sourceId ≠ SYSTEM_SOURCE_ID) :
    Extends producer { producer with sourceSeq := producer.sourceSeq.insert sourceId next } := by
  refine fun h => ⟨List.prefix_rfl, ?_⟩
  simpa [Std.TreeMap.mem_insert, hne] using h

lemma keeps_writeRecord (record : Record) : (writeRecord record).Keeps Extends := by
  intro producer
  unfold writeRecord
  split
  · exact fun h => ⟨List.prefix_append _ _, h⟩
  · exact extends_of_eq rfl rfl
  · exact extends_of_eq rfl rfl

lemma keeps_record (sourceId : UInt32) (seq : UInt64) (eventTypeId : UInt32) :
    (record sourceId seq eventTypeId).Keeps Extends := by
  refine .bind (.of_eq fun _ => rfl) fun producer => .bind (.of_eq fun _ => rfl) fun sourceTime =>
    .bind (.modify fun _ => extends_of_eq rfl rfl) fun _ => .of_eq fun _ => rfl

lemma keeps_nextSourceSeq {sourceId : UInt32} (hne : sourceId ≠ SYSTEM_SOURCE_ID) :
    (nextSourceSeq sourceId).Keeps Extends := by
  refine .bind (.modify fun producer h => ⟨List.prefix_rfl, ?_⟩) fun _ =>
    .bind (.of_eq fun _ => rfl) fun producer => .bind (.of_eq fun _ => rfl) fun next =>
    .bind (.modify fun _ => extends_insert hne) fun _ => .of_eq fun _ => rfl
  simpa [Std.TreeMap.mem_insertIfNew, hne] using h

lemma keeps_emitSystem (eventTypeId : UInt32) (slots : List Slot) :
    (emitSystem eventTypeId slots).Keeps Extends := by
  refine .bind (.of_eq fun _ => rfl) fun producer => .bind (.of_eq fun _ => rfl) fun next =>
    .bind (.modify fun _ => extends_of_eq rfl rfl) fun _ => .bind (keeps_record _ _ _) fun _ => ?_
  exact keeps_writeRecord _

lemma keeps_checkpointLoop {highWater : List (UInt32 × UInt64)}
    (hne : ∀ entry ∈ highWater, entry.1 ≠ SYSTEM_SOURCE_ID) :
    (checkpointLoop highWater).Keeps Extends := by
  induction highWater with
  | nil => exact .of_eq fun _ => rfl
  | cons entry highWater ih =>
    obtain ⟨hentry, hne⟩ := List.forall_mem_cons.mp hne
    refine .bind (keeps_record _ _ _) fun _ => .bind (keeps_writeRecord _) fun _ =>
      .bind (.of_eq fun _ => rfl) fun next => .bind (.modify fun _ => extends_insert hentry)
      fun _ => ih hne

lemma keeps_checkpointHighWater : checkpointHighWater.Keeps Extends := by
  refine .get_bind fun producer => ?_
  split_ifs with hopen
  · exact extends_of_eq rfl rfl
  · intro hsource
    refine keeps_checkpointLoop ?_ producer hsource
    intro entry hentry heq
    apply hsource
    rw [← heq, Std.TreeMap.mem_iff_isSome_getElem?,
      Std.TreeMap.mem_toList_iff_getElem?_eq_some.mp hentry]
    rfl

lemma keeps_takeTransition : takeTransition.Keeps Extends := by
  refine .bind (.of_eq fun _ => rfl) fun producer =>
    .bind (.modify fun _ => extends_of_eq rfl rfl) fun _ => ?_
  split
  · exact .of_eq fun _ => rfl
  · exact .of_eq fun _ => rfl

/-- **Every call only extends the history**, and keeps data records off the system source if it
names another source itself. -/
lemma keeps_call {call : EpochCall}
    (hne : ∀ sourceId eventTypeId, call = .emitData sourceId eventTypeId →
      sourceId ≠ SYSTEM_SOURCE_ID) : call.run.Keeps Extends := by
  have hput : ∀ pending : PendingTransition, Mut.Keeps Extends (Mut.modify fun producer =>
      { producer with transition := some pending } : Mut EpochProducer EpochError Unit) :=
    fun _ => .modify fun _ => extends_of_eq rfl rfl
  cases call with
  | emitData sourceId eventTypeId =>
    refine .bind (.of_eq fun _ => rfl) fun producer => ?_
    by_cases hopen : producer.transition.isSome
    · rw [if_pos hopen]
      exact .of_eq fun _ => rfl
    · rw [if_neg hopen]
      exact .bind (keeps_nextSourceSeq (hne _ _ rfl)) fun _ => .bind (keeps_record _ _ _)
        fun _ => .bind (keeps_writeRecord _) fun _ => .of_eq fun _ => rfl
  | checkpointHighWater => exact keeps_checkpointHighWater
  | beginEpochTransition defHashOld defHashNew epochId =>
    refine .bind (.of_eq fun _ => rfl) fun producer => ?_
    split_ifs
    · exact .of_eq fun _ => rfl
    · exact .bind (keeps_emitSystem _ _) fun _ => .bind keeps_checkpointHighWater fun _ => hput _
  | emitDefinitionChanged =>
    refine .bind keeps_takeTransition fun pending => ?_
    split_ifs
    · exact .bind (hput _) fun _ => .of_eq fun _ => rfl
    · exact .bind (keeps_emitSystem _ _) fun _ => hput _
  | finishDefinitionChange =>
    refine .bind keeps_takeTransition fun pending => ?_
    split_ifs
    · exact .bind (hput _) fun _ => .of_eq fun _ => rfl
    · exact .bind (.modify fun _ => extends_of_eq rfl rfl) fun _ => .bind (keeps_emitSystem _ _)
        fun _ => .modify fun _ => extends_of_eq rfl rfl
  | finishColdStart =>
    refine .bind keeps_takeTransition fun pending => ?_
    split_ifs
    · exact .bind (hput _) fun _ => .of_eq fun _ => rfl
    · exact .bind (.of_eq fun _ => rfl) fun _ => .bind (.of_eq fun _ => rfl) fun _ =>
        .bind (.modify fun _ _ => ⟨List.prefix_rfl, by simp⟩) fun _ =>
        .bind (keeps_emitSystem _ _) fun _ => .modify fun _ => extends_of_eq rfl rfl

end EpochProducer

/-! ## Record identity -/

/-- **Record identity.** Over every run of calls on a new producer in which no call mixes the two
counters of the system source, no two records written carry the same run, source and sequence
number, and those of each run and source are numbered `0, 1, 2, …` in the order written. -/
theorem record_identity_unique {capacity : ℕ} {runId epochId : UInt64} {producer : EpochProducer}
    (hcap : 80 ≤ capacity) (hnew : EpochProducer.new capacity runId epochId = .ok producer)
    (calls : List EpochCall) (hapart : EpochProducer.KeepsApart calls producer) :
    ((producer.runCalls calls).written.Pairwise fun a b =>
      ¬(a.record.runId = b.record.runId ∧ a.record.sourceId = b.record.sourceId ∧
        a.record.seq = b.record.seq)) ∧
    ∀ run source, ∃ n, ((producer.runCalls calls).written.filter fun w =>
        decide (w.record.runId = run ∧ w.record.sourceId = source)).map
      (fun w => w.record.seq.toNat) = List.range n := by
  obtain ⟨next, hnumbered⟩ := (EpochProducer.counted_new hcap hnew).runCalls hapart
  refine ⟨hnumbered.pairwise.imp ?_, fun run source => ⟨next (run, source), ?_⟩⟩
  · rintro a b hlt ⟨hrun, hsource, hseq⟩
    have := hlt (Prod.ext hrun hsource)
    rw [ReadRecord.seqNo, ReadRecord.seqNo, hseq] at this
    exact lt_irrefl _ this
  · rw [← hnumbered (run, source), numbers]
    simp only [ReadRecord.stream, Prod.mk.injEq]
    rfl

/-- A run with a data record, a cold start and a data record of the same source in the new run. -/
theorem record_identity_unique_cold_start :
    ∃ producer, EpochProducer.new 200 1 1 = .ok producer ∧
      EpochProducer.KeepsApart [.emitData 7 1,
        .beginEpochTransition (.replicate 8 1) (.replicate 8 2) 2, .emitDefinitionChanged,
        .finishColdStart, .emitData 7 1] producer ∧
      ∃ n, ((producer.runCalls [.emitData 7 1,
          .beginEpochTransition (.replicate 8 1) (.replicate 8 2) 2, .emitDefinitionChanged,
          .finishColdStart, .emitData 7 1]).written.filter fun w =>
        decide (w.record.runId = 2 ∧ w.record.sourceId = 7)).map (fun w => w.record.seq.toNat) =
          List.range n := by
  refine ⟨_, rfl, ?_, ?_⟩
  · decide +kernel
  · refine (record_identity_unique (show 80 ≤ 200 by decide) rfl _ ?_).2 2 7
    decide +kernel

/-- A data record under the reserved source id and the `LoggerStopped` record after it are both
number zero of the system source. -/
theorem system_source_numbered_twice :
    ∃ producer, EpochProducer.new 200 1 1 = .ok producer ∧
      ¬(producer.runCalls [.emitData 0 1, .beginEpochTransition (.replicate 8 1) (.replicate 8 2)
        2]).written.Pairwise fun a b =>
          ¬(a.record.runId = b.record.runId ∧ a.record.sourceId = b.record.sourceId ∧
            a.record.seq = b.record.seq) := by
  refine ⟨_, rfl, ?_⟩
  decide +kernel

end OpenOT
