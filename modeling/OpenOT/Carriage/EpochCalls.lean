import OpenOT.Carriage.EpochInvariant

set_option relaxedAutoImplicit false
set_option autoImplicit false

/-!
# What a call of the producer does

One rule for each step of the methods of the epoch producer, over a ring of any capacity: the
record written and the fields that change when the ring accepts it, those that have changed when
the ring rejects it, and the overflow that makes the step panic. The results about the producer
are derived from these rules.
-/

namespace OpenOT

open Rust

/-! ## Records -/

/-- The slots of a data record. -/
def dataSlots (eventTypeId : UInt32) : List Slot :=
  if eventTypeId = EVENT_MESSAGE then [⟨KEY_MESSAGE_TEMPLATE_ID, TY_UDINT, toLe 4 0⟩] else []

/-- The slots of a checkpoint. -/
def highWaterSlots (producedCount : UInt64) : List Slot :=
  [⟨KEY_SOURCE_HIGH_WATER, TY_ULINT, toLe 8 producedCount.toNat⟩]

/-- The slots of a `DefinitionChanged` record. -/
def changedSlots (pending : PendingTransition) : List Slot :=
  [⟨KEY_DEF_HASH_OLD, TY_BYTES, pending.defHashOld.toList⟩,
    ⟨KEY_DEF_HASH_NEW, TY_BYTES, pending.defHashNew.toList⟩,
    ⟨KEY_EPOCH_ID, TY_ULINT, toLe 8 pending.epochId.toNat⟩]

/-- The slots of a `LoggerStarted` record. -/
def startedSlots (coldStart : UInt8) : List Slot := [⟨KEY_COLD_START, TY_BOOL, [coldStart]⟩]

namespace EpochProducer

variable {producer : EpochProducer}

/-- The next record of the producer, with the given number and slots. -/
def stamped (producer : EpochProducer) (sourceId : UInt32) (seq : UInt64) (eventTypeId : UInt32)
    (slots : List Slot) : Record :=
  { Record.new producer.sourceTime producer.runId seq sourceId eventTypeId with slots := slots }

@[simp] lemma stamped_runId (sourceId : UInt32) (seq : UInt64) (eventTypeId : UInt32)
    (slots : List Slot) :
    (producer.stamped sourceId seq eventTypeId slots).runId = producer.runId := rfl

@[simp] lemma stamped_seq (sourceId : UInt32) (seq : UInt64) (eventTypeId : UInt32)
    (slots : List Slot) : (producer.stamped sourceId seq eventTypeId slots).seq = seq := rfl

@[simp] lemma stamped_sourceId (sourceId : UInt32) (seq : UInt64) (eventTypeId : UInt32)
    (slots : List Slot) : (producer.stamped sourceId seq eventTypeId slots).sourceId = sourceId := rfl

@[simp] lemma stamped_eventTypeId (sourceId : UInt32) (seq : UInt64) (eventTypeId : UInt32)
    (slots : List Slot) :
    (producer.stamped sourceId seq eventTypeId slots).eventTypeId = eventTypeId := rfl

@[simp] lemma stamped_slots (sourceId : UInt32) (seq : UInt64) (eventTypeId : UInt32)
    (slots : List Slot) : (producer.stamped sourceId seq eventTypeId slots).slots = slots := rfl

/-- How long a record with these slots is, with its CRC. -/
def lenOf (slots : List Slot) : ℕ := HEADER_LEN + (slotArea slots).length + CRC_LEN

@[simp] lemma lenOf_nil : lenOf [] = 44 := rfl

@[simp] lemma lenOf_dataSlots (eventTypeId : UInt32) :
    lenOf (dataSlots eventTypeId) = if eventTypeId = EVENT_MESSAGE then 52 else 44 := by
  unfold dataSlots
  split_ifs <;> simp [lenOf, slotArea, paddingLen, HEADER_LEN, CRC_LEN]

@[simp] lemma lenOf_highWaterSlots (producedCount : UInt64) :
    lenOf (highWaterSlots producedCount) = 56 := by
  simp [lenOf, highWaterSlots, slotArea, paddingLen, HEADER_LEN, CRC_LEN]

@[simp] lemma lenOf_changedSlots (pending : PendingTransition) :
    lenOf (changedSlots pending) = 80 := by
  simp [lenOf, changedSlots, slotArea, paddingLen, HEADER_LEN, CRC_LEN]

@[simp] lemma lenOf_startedSlots (coldStart : UInt8) : lenOf (startedSlots coldStart) = 52 := by
  simp [lenOf, startedSlots, slotArea, paddingLen, HEADER_LEN, CRC_LEN]

/-- The ring has taken a record: it holds the history with the record at its end. -/
structure Took (producer : EpochProducer) (record : Record) (ring : RingBuffer) (w : ReadRecord) :
    Prop where
  record_eq : w.record = record
  represents : ring.Represents (producer.written ++ [w])
  capacity : ring.capacity = producer.ring.capacity

/-- The producer after the ring has taken a record. -/
def take (producer : EpochProducer) (ring : RingBuffer) (w : ReadRecord) : EpochProducer :=
  { producer with ring := ring, written := producer.written ++ [w] }

section Rules

variable {E : EpochError → EpochProducer → Prop} {P : EpochProducer → Prop}
  (producer : EpochProducer)

/-- The ring takes a record of the producer exactly when it fits. -/
lemma wp_writeRecord_any (hring : producer.ring.Represents producer.written) {record : Record}
    (hrecord : Emitted record) {Q : ℕ × ℕ → EpochProducer → Prop}
    (hok : lenOf record.slots ≤ producer.ring.capacity → ∀ ring w, producer.Took record ring w →
      Q (w.startAbs, w.endAbs) (producer.take ring w))
    (herr : producer.ring.capacity < lenOf record.slots → ∀ e, E (.ring e) producer) :
    (writeRecord record).wp Q E P producer := by
  have hlen : (record.bytes true).length = lenOf record.slots := by
    rw [length_bytes]
    rfl
  rcases hring.writeRecord record with
    ⟨ring, startAbs, endAbs, hwrite, -, hle, -, -, hcapacity, -, hrep⟩ | ⟨hreject, e, hwrite⟩
  · simp only [Mut.wp, writeRecord, hwrite]
    exact hok (hlen ▸ hle) ring ⟨startAbs, endAbs, record⟩ ⟨rfl, hrep, hcapacity⟩
  · simp only [Mut.wp, writeRecord, hwrite]
    refine herr (Nat.lt_of_not_le fun hle => hreject ⟨hrecord.encodable.1, ?_⟩) e
    rwa [hlen]

/-- Stamping a record moves the source time. -/
lemma wp_stamp {sourceId eventTypeId : UInt32} {seq : UInt64} {Q : Record → EpochProducer → Prop}
    (hok : ∀ time, time.toNat = producer.sourceTime.toNat + 1 →
      Q (Record.new producer.sourceTime producer.runId seq sourceId eventTypeId)
        { producer with sourceTime := time })
    (hpanic : 2 ^ 64 ≤ producer.sourceTime.toNat + 1 → P producer) :
    (record sourceId seq eventTypeId).wp Q E P producer :=
  Mut.wp_bind (Mut.wp_get (Mut.wp_bind (Mut.wp_checkedAdd_of
    (fun time htime => Mut.wp_bind (Mut.wp_modify (Mut.wp_pure (hok time htime)))) hpanic)))

/-- The next number of a source: its counter is opened and then moved on. -/
lemma wp_nextSourceSeq {sourceId : UInt32} {Q : UInt64 → EpochProducer → Prop}
    (hok : ∀ next, next.toNat = (producer.sourceSeq.getD sourceId 0).toNat + 1 →
      Q (producer.sourceSeq.getD sourceId 0) { producer with
        sourceSeq := (producer.sourceSeq.insertIfNew sourceId 0).insert sourceId next })
    (hpanic : 2 ^ 64 ≤ (producer.sourceSeq.getD sourceId 0).toNat + 1 →
      P { producer with sourceSeq := producer.sourceSeq.insertIfNew sourceId 0 }) :
    (nextSourceSeq sourceId).wp Q E P producer := by
  have hdrawn : (producer.sourceSeq.insertIfNew sourceId 0).getD sourceId 0 =
      producer.sourceSeq.getD sourceId 0 := by
    rw [Std.TreeMap.getD_insertIfNew]
    split_ifs with hnew
    · exact (Std.TreeMap.getD_eq_fallback hnew.2).symm
    · rfl
  refine Mut.wp_bind (Mut.wp_modify (Mut.wp_bind (Mut.wp_get
    (Mut.wp_bind (Mut.wp_checkedAdd_of (fun next hnext => ?_) fun hover => ?_)))))
  · beta_reduce at hnext
    refine Mut.wp_bind (Mut.wp_modify (Mut.wp_pure ?_))
    simp only [hdrawn] at hnext ⊢
    exact hok next hnext
  · rw [hdrawn] at hover
    exact hpanic hover

/-- A system record: its counter has moved on even when the ring rejects it. -/
lemma wp_emitSystem (hring : producer.ring.Represents producer.written) {eventTypeId : UInt32}
    {slots : List Slot}
    (hrecord : Emitted (producer.stamped SYSTEM_SOURCE_ID producer.systemSeq eventTypeId slots))
    {Q : ℕ × ℕ → EpochProducer → Prop}
    (hok : lenOf slots ≤ producer.ring.capacity → ∀ next time ring w,
      next.toNat = producer.systemSeq.toNat + 1 → time.toNat = producer.sourceTime.toNat + 1 →
      producer.Took (producer.stamped SYSTEM_SOURCE_ID producer.systemSeq eventTypeId slots) ring w →
        Q (w.startAbs, w.endAbs)
          ({ producer with systemSeq := next, sourceTime := time }.take ring w))
    (herr : producer.ring.capacity < lenOf slots → ∀ next time e,
      next.toNat = producer.systemSeq.toNat + 1 → time.toNat = producer.sourceTime.toNat + 1 →
        E (.ring e) { producer with systemSeq := next, sourceTime := time })
    (hpanic : 2 ^ 64 ≤ producer.systemSeq.toNat + 1 ∨ 2 ^ 64 ≤ producer.sourceTime.toNat + 1 →
      ∀ next, P { producer with systemSeq := next }) :
    (emitSystem eventTypeId slots).wp Q E P producer := by
  refine Mut.wp_bind (Mut.wp_get (Mut.wp_bind (Mut.wp_checkedAdd_of ?_ ?_)))
  · intro next hnext
    refine Mut.wp_bind (Mut.wp_modify (Mut.wp_bind (wp_stamp { producer with systemSeq := next }
      (fun time htime => ?_) fun hover => hpanic (Or.inr hover) next)))
    refine wp_writeRecord_any { producer with systemSeq := next, sourceTime := time } hring hrecord
      (fun hle ring w htook => ?_) fun hlt e => herr hlt next time e hnext htime
    exact hok hle next time ring w hnext htime ⟨htook.record_eq, htook.represents, htook.capacity⟩
  · exact fun hover => hpanic (Or.inl hover) producer.systemSeq

/-- A data record: its source has a counter, and the counter has moved on, even when the ring
rejects it. -/
lemma wp_emitData (hring : producer.ring.Represents producer.written)
    {sourceId eventTypeId : UInt32} {Q : Unit → EpochProducer → Prop}
    (hok : producer.transition = none → lenOf (dataSlots eventTypeId) ≤ producer.ring.capacity →
      ∀ next time ring w, next.toNat = (producer.sourceSeq.getD sourceId 0).toNat + 1 →
        time.toNat = producer.sourceTime.toNat + 1 →
        producer.Took (producer.stamped sourceId (producer.sourceSeq.getD sourceId 0) eventTypeId
          (dataSlots eventTypeId)) ring w →
        Q () ({ producer with
          sourceSeq := (producer.sourceSeq.insertIfNew sourceId 0).insert sourceId next
          sourceTime := time }.take ring w))
    (hguard : producer.transition.isSome → E .emissionDuringTransition producer)
    (herr : producer.transition = none → producer.ring.capacity < lenOf (dataSlots eventTypeId) →
      ∀ next time e, next.toNat = (producer.sourceSeq.getD sourceId 0).toNat + 1 →
        time.toNat = producer.sourceTime.toNat + 1 →
        E (.ring e) { producer with
          sourceSeq := (producer.sourceSeq.insertIfNew sourceId 0).insert sourceId next
          sourceTime := time })
    (hpanic : producer.transition = none →
      2 ^ 64 ≤ (producer.sourceSeq.getD sourceId 0).toNat + 1 ∨
        2 ^ 64 ≤ producer.sourceTime.toNat + 1 →
      ∀ sourceSeq, P { producer with sourceSeq := sourceSeq }) :
    (emitData sourceId eventTypeId).wp Q E P producer := by
  refine Mut.wp_bind (Mut.wp_get ?_)
  by_cases hopen : producer.transition.isSome
  · rw [if_pos hopen]
    exact hguard hopen
  have hnone : producer.transition = none := by simpa using hopen
  rw [if_neg hopen]
  refine Mut.wp_bind (wp_nextSourceSeq _ (fun next hnext => ?_) fun hover =>
    hpanic hnone (Or.inl hover) _)
  refine Mut.wp_bind (wp_stamp _ (fun time htime => ?_) fun hover => hpanic hnone (Or.inr hover) _)
  set counted : EpochProducer := { producer with
    sourceSeq := (producer.sourceSeq.insertIfNew sourceId 0).insert sourceId next
    sourceTime := time } with hcounted
  have heq : (if eventTypeId = EVENT_MESSAGE then
      { Record.new producer.sourceTime producer.runId (producer.sourceSeq.getD sourceId 0) sourceId
          eventTypeId with slots := [⟨KEY_MESSAGE_TEMPLATE_ID, TY_UDINT, toLe 4 0⟩] }
      else Record.new producer.sourceTime producer.runId (producer.sourceSeq.getD sourceId 0)
        sourceId eventTypeId) = producer.stamped sourceId (producer.sourceSeq.getD sourceId 0)
          eventTypeId (dataSlots eventTypeId) := by
    unfold stamped dataSlots
    split_ifs <;> rfl
  have hrecord : Emitted (producer.stamped sourceId (producer.sourceSeq.getD sourceId 0)
      eventTypeId (dataSlots eventTypeId)) := by
    by_cases hevent : eventTypeId = EVENT_MESSAGE
    · exact .message hevent (if_pos hevent)
    · exact .data (if_neg hevent)
  change Mut.wp (writeRecord (if eventTypeId = EVENT_MESSAGE then { Record.new producer.sourceTime
    producer.runId (producer.sourceSeq.getD sourceId 0) sourceId eventTypeId with
      slots := [⟨KEY_MESSAGE_TEMPLATE_ID, TY_UDINT, toLe 4 0⟩] }
    else Record.new producer.sourceTime producer.runId (producer.sourceSeq.getD sourceId 0)
      sourceId eventTypeId) >>= fun _ => pure ()) Q E P counted
  rw [heq]
  refine Mut.wp_bind (wp_writeRecord_any counted hring hrecord (fun hle ring w htook => ?_)
    fun hlt e => herr hnone hlt next time e hnext htime)
  exact hok hnone hle next time ring w hnext htime ⟨htook.record_eq, htook.represents, htook.capacity⟩

/-! ### The checkpoint -/

/-- Writing a checkpoint for each entry, one after the other. -/
inductive Marked : EpochProducer → List (UInt32 × UInt64) → EpochProducer → Prop
  | nil (producer : EpochProducer) : Marked producer [] producer
  | cons {producer producer' : EpochProducer} {sourceId : UInt32} {producedCount next time : UInt64}
      {entries : List (UInt32 × UInt64)} {ring : RingBuffer} {w : ReadRecord}
      (hnext : next.toNat = producedCount.toNat + 1)
      (htime : time.toNat = producer.sourceTime.toNat + 1)
      (htook : producer.Took (producer.stamped sourceId producedCount EVENT_SOURCE_HIGH_WATER
        (highWaterSlots producedCount)) ring w)
      (hrest : Marked ({ producer with
        sourceSeq := producer.sourceSeq.insert sourceId next
        sourceTime := time }.take ring w) entries producer') :
      Marked producer ((sourceId, producedCount) :: entries) producer'

/-- The record is a checkpoint of the run for an entry. -/
structure Marks (runId : UInt64) (entry : UInt32 × UInt64) (w : ReadRecord) : Prop where
  runId : w.record.runId = runId
  sourceId : w.record.sourceId = entry.1
  seq : w.record.seq = entry.2
  eventTypeId : w.record.eventTypeId = EVENT_SOURCE_HIGH_WATER
  slots : w.record.slots = highWaterSlots entry.2

/-- Each checkpoint belongs to an entry. -/
lemma exists_entry_of_marks {runId : UInt64} {entries : List (UInt32 × UInt64)}
    {ws : List ReadRecord} (h : List.Forall₂ (Marks runId) entries ws) {w : ReadRecord}
    (hw : w ∈ ws) : ∃ entry ∈ entries, Marks runId entry w := by
  induction h with
  | nil => cases hw
  | @cons entry v entries ws hv _ ih =>
    rcases List.mem_cons.mp hw with rfl | hw
    · exact ⟨entry, List.mem_cons_self, hv⟩
    · obtain ⟨e, he, hmark⟩ := ih hw
      exact ⟨e, List.mem_cons_of_mem _ he, hmark⟩

/-- What the checkpoints change. -/
lemma Marked.spec {producer producer' : EpochProducer} {entries : List (UInt32 × UInt64)}
    (h : Marked producer entries producer')
    (hring : producer.ring.Represents producer.written) :
    ∃ ring time sourceSeq ws, producer' = { producer with
        ring := ring
        sourceTime := time
        sourceSeq := sourceSeq
        written := producer.written ++ ws } ∧
      List.Forall₂ (Marks producer.runId) entries ws ∧
      ring.Represents (producer.written ++ ws) ∧ ring.capacity = producer.ring.capacity ∧
      ∀ source, source ∈ sourceSeq ↔ source ∈ producer.sourceSeq ∨ source ∈ entries.map Prod.fst := by
  induction h with
  | nil producer =>
    refine ⟨producer.ring, producer.sourceTime, producer.sourceSeq, [], ?_, .nil, ?_, rfl, ?_⟩
    · simp
    · simpa using hring
    · simp
  | @cons producer producer' sourceId producedCount next time entries ring w hnext htime htook hrest
      ih =>
    obtain ⟨ring', time', sourceSeq, ws, rfl, hmarks, hrep, hcap, hmem⟩ := ih htook.represents
    refine ⟨ring', time', sourceSeq, w :: ws, ?_, .cons ?_ hmarks, ?_, hcap.trans htook.capacity, ?_⟩
    · simp [take]
    · constructor <;> rw [htook.record_eq] <;> rfl
    · simpa [take] using hrep
    · intro source
      rw [hmem]
      simp only [take, Std.TreeMap.mem_insert, List.map_cons, List.mem_cons,
        Std.LawfulEqCmp.compare_eq_iff_eq]
      tauto

/-- The producer has written a checkpoint for the first of some entries. -/
structure MarkedSome (producer : EpochProducer) (entries : List (UInt32 × UInt64))
    (producer' : EpochProducer) : Prop where
  written : ∃ ws k, producer'.written = producer.written ++ ws ∧
    List.Forall₂ (Marks producer.runId) (entries.take k) ws
  represents : producer'.ring.Represents producer'.written
  capacity : producer'.ring.capacity = producer.ring.capacity
  transition : producer'.transition = producer.transition
  epochFirstAbs : producer'.epochFirstAbs = producer.epochFirstAbs

/-- No checkpoint yet. -/
lemma MarkedSome.refl {producer : EpochProducer} (entries : List (UInt32 × UInt64))
    (hring : producer.ring.Represents producer.written) : MarkedSome producer entries producer :=
  ⟨⟨[], 0, (List.append_nil _).symm, .nil⟩, hring, rfl, rfl, rfl⟩

/-- A checkpoint that goes on behind the first record. -/
lemma MarkedSome.cons {producer first producer' : EpochProducer} {entry : UInt32 × UInt64}
    {entries : List (UInt32 × UInt64)} {ring : RingBuffer} {w : ReadRecord}
    (htook : producer.Took (producer.stamped entry.1 entry.2 EVENT_SOURCE_HIGH_WATER
      (highWaterSlots entry.2)) ring w)
    (hfirst : first = { producer with
      sourceSeq := first.sourceSeq
      sourceTime := first.sourceTime }.take ring w)
    (h : MarkedSome first entries producer') : MarkedSome producer (entry :: entries) producer' := by
  obtain ⟨ws, k, hwritten, hmarks⟩ := h.written
  have hrun : first.runId = producer.runId := by rw [hfirst]; rfl
  have hlog : first.written = producer.written ++ [w] := by rw [hfirst]; rfl
  have hring : first.ring = ring := by rw [hfirst]; rfl
  refine ⟨⟨w :: ws, k + 1, ?_, ?_⟩, h.represents, ?_, h.transition.trans ?_,
    h.epochFirstAbs.trans ?_⟩
  · rw [hwritten, hlog]
    simp
  · rw [List.take_succ_cons]
    refine .cons ?_ (hrun ▸ hmarks)
    constructor <;> rw [htook.record_eq] <;> rfl
  · rw [h.capacity, hring, htook.capacity]
  · rw [hfirst]
    rfl
  · rw [hfirst]
    rfl

/-- The checkpoint loop: every entry is marked; or the ring rejects the first checkpoint; or a
counter overflows behind some of them. -/
lemma wp_checkpointLoop {entries : List (UInt32 × UInt64)} {Q : Unit → EpochProducer → Prop}
    (hring : producer.ring.Represents producer.written)
    (hok : ∀ producer', Marked producer entries producer' → Q () producer')
    (herr : entries ≠ [] → producer.ring.capacity < 56 → ∀ time e,
      time.toNat = producer.sourceTime.toNat + 1 → E (.ring e) { producer with sourceTime := time })
    (hpanic : ∀ producer', MarkedSome producer entries producer' → P producer') :
    (checkpointLoop entries).wp Q E P producer := by
  induction entries generalizing producer with
  | nil => exact hok producer (.nil producer)
  | cons entry entries ih =>
    obtain ⟨sourceId, producedCount⟩ := entry
    have hrecord : Emitted (producer.stamped sourceId producedCount EVENT_SOURCE_HIGH_WATER
        (highWaterSlots producedCount)) := .highWater rfl rfl
    refine Mut.wp_bind (wp_stamp producer (fun time htime => ?_)
      fun _ => hpanic producer (.refl _ hring))
    refine Mut.wp_bind (wp_writeRecord_any { producer with sourceTime := time } hring hrecord
      (fun hle ring w htook => ?_) fun hlt e => ?_)
    · have htook' : producer.Took (producer.stamped sourceId producedCount EVENT_SOURCE_HIGH_WATER
          (highWaterSlots producedCount)) ring w :=
        ⟨htook.record_eq, htook.represents, htook.capacity⟩
      refine Mut.wp_bind (Mut.wp_checkedAdd_of (fun next hnext => ?_) fun _ => ?_)
      · refine Mut.wp_bind (Mut.wp_modify ?_)
        refine ih _ htook.represents ?_ ?_ ?_
        · exact fun producer' hmarked => hok producer' (.cons hnext htime htook' hmarked)
        · intro _ hlt
          have hle : 56 ≤ producer.ring.capacity := lenOf_highWaterSlots producedCount ▸ hle
          exact absurd (htook.capacity ▸ hlt) (Nat.not_lt.mpr hle)
        · exact fun producer' hsome => hpanic producer' (.cons htook' rfl hsome)
      · exact hpanic _ (.cons htook' rfl (.refl _ htook.represents))
    · exact herr (by simp) (lenOf_highWaterSlots producedCount ▸ hlt) time e htime

/-- A checkpoint of every counter. -/
lemma wp_checkpointHighWater {Q : Unit → EpochProducer → Prop}
    (hring : producer.ring.Represents producer.written)
    (hok : producer.transition = none → ∀ producer',
      Marked producer producer.sourceSeq.toList producer' → Q () producer')
    (hguard : producer.transition.isSome → E .emissionDuringTransition producer)
    (herr : producer.transition = none → producer.sourceSeq.toList ≠ [] →
      producer.ring.capacity < 56 → ∀ time e, time.toNat = producer.sourceTime.toNat + 1 →
        E (.ring e) { producer with sourceTime := time })
    (hpanic : producer.transition = none → ∀ producer',
      MarkedSome producer producer.sourceSeq.toList producer' → P producer') :
    checkpointHighWater.wp Q E P producer := by
  refine Mut.wp_bind (Mut.wp_get ?_)
  by_cases hopen : producer.transition.isSome
  · rw [if_pos hopen]
    exact hguard hopen
  · have hnone : producer.transition = none := by simpa using hopen
    rw [if_neg hopen]
    exact wp_checkpointLoop producer hring (hok hnone) (herr hnone) (hpanic hnone)

/-- A method that needs an open transition: the rest of it runs with the transition taken out. -/
lemma wp_takeTransition {Q : Unit → EpochProducer → Prop}
    {rest : PendingTransition → Mut EpochProducer EpochError Unit}
    (hguard : producer.transition = none → E .noTransitionOpen producer)
    (hrest : ∀ pending, producer.transition = some pending →
      (rest pending).wp Q E P { producer with transition := none }) :
    (takeTransition >>= rest).wp Q E P producer := by
  refine Mut.wp_bind (Mut.wp_bind (Mut.wp_get (Mut.wp_bind (Mut.wp_modify ?_))))
  cases hopen : producer.transition with
  | none =>
    have hsame : { producer with transition := none } = producer := by rw [← hopen]
    simp only [hsame]
    exact Mut.wp_throw (hguard hopen)
  | some pending => exact Mut.wp_pure (hrest pending hopen)

end Rules

/-! ## Calls -/

/-- What a call that succeeds does. -/
inductive Did (producer : EpochProducer) : EpochCall → EpochProducer → Prop
  | emitData {sourceId eventTypeId : UInt32} {next time : UInt64} {ring : RingBuffer}
      {w : ReadRecord} (hopen : producer.transition = none)
      (hnext : next.toNat = (producer.sourceSeq.getD sourceId 0).toNat + 1)
      (htime : time.toNat = producer.sourceTime.toNat + 1)
      (htook : producer.Took (producer.stamped sourceId (producer.sourceSeq.getD sourceId 0)
        eventTypeId (dataSlots eventTypeId)) ring w) :
      Did producer (.emitData sourceId eventTypeId) ({ producer with
        sourceSeq := (producer.sourceSeq.insertIfNew sourceId 0).insert sourceId next
        sourceTime := time }.take ring w)
  | checkpoint {producer' : EpochProducer} (hopen : producer.transition = none)
      (hmarked : Marked producer producer.sourceSeq.toList producer') :
      Did producer .checkpointHighWater producer'
  | began {defHashOld defHashNew : DefinitionHash} {epochId next time : UInt64} {ring : RingBuffer}
      {w : ReadRecord} {marked : EpochProducer} (hopen : producer.transition = none)
      (hnext : next.toNat = producer.systemSeq.toNat + 1)
      (htime : time.toNat = producer.sourceTime.toNat + 1)
      (htook : producer.Took (producer.stamped SYSTEM_SOURCE_ID producer.systemSeq
        EVENT_LOGGER_STOPPED []) ring w)
      (hmarked : Marked ({ producer with systemSeq := next, sourceTime := time }.take ring w)
        producer.sourceSeq.toList marked) :
      Did producer (.beginEpochTransition defHashOld defHashNew epochId)
        { marked with transition := some ⟨defHashOld, defHashNew, epochId, false⟩ }
  | changed {pending : PendingTransition} {next time : UInt64} {ring : RingBuffer} {w : ReadRecord}
      (hopen : producer.transition = some pending)
      (hemitted : pending.definitionChangedEmitted = false)
      (hnext : next.toNat = producer.systemSeq.toNat + 1)
      (htime : time.toNat = producer.sourceTime.toNat + 1)
      (htook : producer.Took (producer.stamped SYSTEM_SOURCE_ID producer.systemSeq
        EVENT_DEFINITION_CHANGED (changedSlots pending)) ring w) :
      Did producer .emitDefinitionChanged ({ producer with
        systemSeq := next
        sourceTime := time
        transition := some { pending with definitionChangedEmitted := true } }.take ring w)
  | warm {pending : PendingTransition} {next time : UInt64} {ring : RingBuffer} {w : ReadRecord}
      (hopen : producer.transition = some pending)
      (hemitted : pending.definitionChangedEmitted = true)
      (hnext : next.toNat = producer.systemSeq.toNat + 1)
      (htime : time.toNat = producer.sourceTime.toNat + 1)
      (htook : producer.Took (producer.stamped SYSTEM_SOURCE_ID producer.systemSeq
        EVENT_LOGGER_STARTED (startedSlots 0)) ring w) :
      Did producer .finishDefinitionChange ({ producer with
        epochId := pending.epochId
        epochFirstAbs := w.startAbs
        systemSeq := next
        sourceTime := time
        definitionHash := pending.defHashNew
        prevDefinitionHash := pending.defHashOld
        transition := none }.take ring w)
  | cold {pending : PendingTransition} {runId next time : UInt64} {ring : RingBuffer}
      {w : ReadRecord} (hopen : producer.transition = some pending)
      (hemitted : pending.definitionChangedEmitted = true)
      (hrunId : runId.toNat = producer.runId.toNat + 1) (hnext : next.toNat = 1)
      (htime : time.toNat = producer.sourceTime.toNat + 1)
      (htook : producer.Took ({ producer with runId := runId }.stamped SYSTEM_SOURCE_ID 0
        EVENT_LOGGER_STARTED (startedSlots 1)) ring w) :
      Did producer .finishColdStart ({ producer with
        runId := runId
        epochId := pending.epochId
        epochFirstAbs := w.startAbs
        systemSeq := next
        sourceSeq := ∅
        sourceTime := time
        definitionHash := pending.defHashNew
        prevDefinitionHash := pending.defHashOld
        transition := none }.take ring w)

/-- What a call that fails leaves: the state as it was; or, in a ring too small for some record of
the producer, a state without a transition. -/
def Failed (producer producer' : EpochProducer) : Prop :=
  producer' = producer ∨ producer.ring.capacity < 80 ∧ producer'.transition = none ∧
    producer'.ring.Represents producer'.written ∧
    producer'.ring.capacity = producer.ring.capacity

/-- What a call that panics leaves: what it has written so far is nothing, some checkpoints, or a
`LoggerStopped` record and some checkpoints. -/
structure Halted (producer producer' : EpochProducer) : Prop where
  written : ∃ stopped ws k, producer'.written = producer.written ++ (stopped ++ ws) ∧
    (stopped = [] ∨ ∃ w, stopped = [w] ∧ w.record = producer.stamped SYSTEM_SOURCE_ID
      producer.systemSeq EVENT_LOGGER_STOPPED []) ∧
    List.Forall₂ (Marks producer.runId) (producer.sourceSeq.toList.take k) ws ∧
    (stopped ++ ws ≠ [] → producer.transition = none)
  represents : producer'.ring.Represents producer'.written
  capacity : producer'.ring.capacity = producer.ring.capacity
  transition : producer'.transition = none
  epochFirstAbs : producer'.epochFirstAbs = producer.epochFirstAbs

/-- A call that panics before it has written anything. -/
lemma Halted.quiet {producer' : EpochProducer}
    (hring : producer.ring.Represents producer.written) (hsame : producer'.ring = producer.ring)
    (hwritten : producer'.written = producer.written) (htransition : producer'.transition = none)
    (hfirst : producer'.epochFirstAbs = producer.epochFirstAbs) : Halted producer producer' :=
  ⟨⟨[], [], 0, by simp [hwritten], Or.inl rfl, .nil, by simp⟩, hsame ▸ hwritten ▸ hring,
    by rw [hsame], htransition, hfirst⟩

/-- A call that panics behind some checkpoints. -/
lemma MarkedSome.halted {producer' : EpochProducer} (hopen : producer.transition = none)
    (h : MarkedSome producer producer.sourceSeq.toList producer') : Halted producer producer' := by
  obtain ⟨ws, k, hwritten, hmarks⟩ := h.written
  exact ⟨⟨[], ws, k, by simpa using hwritten, Or.inl rfl, hmarks, fun _ => hopen⟩, h.represents,
    h.capacity, h.transition.trans hopen, h.epochFirstAbs⟩

/-- Putting back a transition that was taken out. -/
lemma put_taken {pending : PendingTransition} (hopen : producer.transition = some pending) :
    { producer with transition := some pending } = producer := by
  rw [← hopen]

/-- **What a call does.** -/
lemma call_spec (hring : producer.ring.Represents producer.written) (call : EpochCall) :
    call.run.wp (fun _ producer' => Did producer call producer')
      (fun _ producer' => Failed producer producer') (Halted producer) producer := by
  cases call with
  | emitData sourceId eventTypeId =>
    refine wp_emitData producer hring ?_ (fun _ => Or.inl rfl) ?_ ?_
    · exact fun hopen _ next time ring w hnext htime htook => .emitData hopen hnext htime htook
    · refine fun hopen hlt next time e _ _ => Or.inr ⟨?_, hopen, hring, rfl⟩
      rw [lenOf_dataSlots] at hlt
      split_ifs at hlt <;> omega
    · exact fun hopen _ sourceSeq => .quiet hring rfl rfl hopen rfl
  | checkpointHighWater =>
    refine wp_checkpointHighWater producer hring (fun hopen _ => .checkpoint hopen)
      (fun _ => Or.inl rfl) ?_ fun hopen _ hsome => hsome.halted hopen
    exact fun hopen _ hlt time e _ => Or.inr ⟨by omega, hopen, hring, rfl⟩
  | beginEpochTransition defHashOld defHashNew epochId =>
    refine Mut.wp_bind (Mut.wp_get ?_)
    by_cases hopen : producer.transition.isSome
    · rw [if_pos hopen]
      exact Or.inl rfl
    have hnone : producer.transition = none := by simpa using hopen
    rw [if_neg hopen]
    refine Mut.wp_bind (wp_emitSystem producer hring (.stopped rfl rfl) ?_ ?_ ?_)
    · intro hle next time ring w hnext htime htook
      refine Mut.wp_bind (wp_checkpointHighWater _ htook.represents ?_ ?_ ?_ ?_)
      · exact fun _ marked hmarked => .began hnone hnext htime htook hmarked
      · exact fun hsome => absurd hsome hopen
      · intro _ _ hlt time e _
        have hlt : ring.capacity < 56 := hlt
        rw [htook.capacity] at hlt
        exact Or.inr ⟨by omega, hnone, htook.represents, htook.capacity⟩
      · rintro - producer' hsome
        obtain ⟨ws, k, hwritten, hmarks⟩ := hsome.written
        refine ⟨⟨[w], ws, k, ?_, Or.inr ⟨w, rfl, htook.record_eq⟩, hmarks, fun _ => hnone⟩,
          hsome.represents, hsome.capacity.trans htook.capacity, hsome.transition.trans hnone,
          hsome.epochFirstAbs⟩
        rw [hwritten]
        exact List.append_assoc _ _ _
    · refine fun hlt next time e _ _ => Or.inr ⟨?_, hnone, hring, rfl⟩
      rw [lenOf_nil] at hlt
      omega
    · exact fun _ next => .quiet hring rfl rfl hnone rfl
  | emitDefinitionChanged =>
    refine wp_takeTransition producer (fun _ => Or.inl rfl) fun pending hopen => ?_
    by_cases hemitted : pending.definitionChangedEmitted
    · rw [if_pos hemitted]
      exact Mut.wp_bind (Mut.wp_modify (Mut.wp_throw (Or.inl (put_taken hopen))))
    rw [if_neg hemitted]
    refine Mut.wp_bind (wp_emitSystem { producer with transition := none } hring
      (.changed pending rfl rfl) ?_ ?_ ?_)
    · exact fun _ next time ring w hnext htime htook =>
        Mut.wp_modify (.changed hopen (by simpa using hemitted) hnext htime
          ⟨htook.record_eq, htook.represents, htook.capacity⟩)
    · exact fun hlt next time e _ _ =>
        Or.inr ⟨lenOf_changedSlots pending ▸ hlt, rfl, hring, rfl⟩
    · exact fun _ next => .quiet hring rfl rfl rfl rfl
  | finishDefinitionChange =>
    refine wp_takeTransition producer (fun _ => Or.inl rfl) fun pending hopen => ?_
    by_cases hemitted : pending.definitionChangedEmitted
    swap
    · rw [if_pos (by simpa using hemitted)]
      exact Mut.wp_bind (Mut.wp_modify (Mut.wp_throw (Or.inl (put_taken hopen))))
    rw [if_neg (by simpa using hemitted)]
    refine Mut.wp_bind (Mut.wp_modify (Mut.wp_bind (wp_emitSystem
      { producer with transition := none, epochId := pending.epochId } hring
      (.started 0 rfl rfl) ?_ ?_ ?_)))
    · exact fun _ next time ring w hnext htime htook => Mut.wp_modify
        (.warm hopen hemitted hnext htime ⟨htook.record_eq, htook.represents, htook.capacity⟩)
    · intro hlt next time e _ _
      have hlt : producer.ring.capacity < 52 := lenOf_startedSlots 0 ▸ hlt
      exact Or.inr ⟨by omega, rfl, hring, rfl⟩
    · exact fun _ next => .quiet hring rfl rfl rfl rfl
  | finishColdStart =>
    refine wp_takeTransition producer (fun _ => Or.inl rfl) fun pending hopen => ?_
    by_cases hemitted : pending.definitionChangedEmitted
    swap
    · rw [if_pos (by simpa using hemitted)]
      exact Mut.wp_bind (Mut.wp_modify (Mut.wp_throw (Or.inl (put_taken hopen))))
    rw [if_neg (by simpa using hemitted)]
    refine Mut.wp_bind (Mut.wp_get (Mut.wp_bind (Mut.wp_checkedAdd_of (fun runId hrunId => ?_)
      fun _ => .quiet hring rfl rfl rfl rfl)))
    refine Mut.wp_bind (Mut.wp_modify (Mut.wp_bind (wp_emitSystem { producer with
      transition := none
      runId := runId
      epochId := pending.epochId
      systemSeq := 0
      sourceSeq := ∅ } hring (.started 1 rfl rfl) ?_ ?_ ?_)))
    · exact fun _ next time ring w hnext htime htook => Mut.wp_modify
        (.cold hopen hemitted hrunId hnext htime ⟨htook.record_eq, htook.represents, htook.capacity⟩)
    · intro hlt next time e _ _
      have hlt : producer.ring.capacity < 52 := lenOf_startedSlots 1 ▸ hlt
      exact Or.inr ⟨by omega, rfl, hring, rfl⟩
    · exact fun _ next => .quiet hring rfl rfl rfl rfl

/-- **The rule of runs.** What every call keeps, accepted or rejected, holds after a run; a call
that panics may leave something weaker. -/
lemma runCalls_of_call {I H : EpochProducer → Prop} {allowed : EpochCall → Prop}
    (hcall : ∀ producer call, allowed call → I producer →
      call.run.wp (fun _ => I) (fun _ => I) H producer)
    (hend : ∀ producer, I producer → H producer) {calls : List EpochCall}
    (hallowed : ∀ call ∈ calls, allowed call) (h : I producer) : H (producer.runCalls calls) := by
  induction calls generalizing producer with
  | nil => exact hend producer h
  | cons call calls ih =>
    obtain ⟨hfirst, hallowed⟩ := List.forall_mem_cons.mp hallowed
    have hwp := hcall producer call hfirst h
    rcases Mut.run_cases call.run producer with
      ⟨a, producer', hrun⟩ | ⟨e, producer', hrun⟩ | ⟨producer', hrun⟩
    · rw [Mut.wp, hrun] at hwp
      rw [EpochProducer.runCalls, hrun]
      exact ih hallowed hwp
    · rw [Mut.wp, hrun] at hwp
      rw [EpochProducer.runCalls, hrun]
      exact ih hallowed hwp
    · rw [Mut.wp, hrun] at hwp
      rw [EpochProducer.runCalls, hrun]
      exact hwp

end EpochProducer

end OpenOT
