import OpenOT.Carriage.EpochCalls
import OpenOT.St.Decoding
import OpenOT.St.Driving
import OpenOT.St.Listing
import OpenOT.St.RecordNumbers
import OpenOT.St.RingRuns

set_option relaxedAutoImplicit false
set_option autoImplicit false

/-!
# The records of both producers

`OPENOT_Producer` and `EpochProducer` write the same records. A byte-pool producer whose ring and
counters are those of the function block follows it through every record: of the system source, of
the high-water loop, and of a message.

## Main definitions

* `OpenOT.St.Producer.numberOf` — the next number of a source in the source table.
* `OpenOT.St.Core.onRing` — the byte-pool producer with the variables of a core.
* `OpenOT.St.Core.Tracks` — its ring and its counters are those of the core.

## Main results

* `OpenOT.St.Store.publish_follows` — a record is published by both.
* `OpenOT.St.Producer.tracks_emitSystem`, `OpenOT.St.Producer.tracks_highWater`,
  `OpenOT.St.Producer.tracks_message` — the records of an operation.
* `OpenOT.St.Producer.tracks_highWaterLoop` — the selection loop and the iteration over the counters.

## Design

The clock of both has moved once for each record published, which bounds every counter. So an
operation of the byte-pool producer panics only when its clock has come to its end.
-/

namespace OpenOT

open Rust

/-! ## Records of the byte-pool producer -/

namespace EpochProducer

variable {producer : EpochProducer} {E : EpochError → EpochProducer → Prop}
  {P : EpochProducer → Prop}

/-- The producer after a ring that has taken a record. -/
lemma wp_writeRecord_of {record : Record} {ring : RingBuffer} {w : ReadRecord}
    {Q : ℕ × ℕ → EpochProducer → Prop}
    (hwrite : RingBuffer.writeRecord record producer.ring = (.ok (w.startAbs, w.endAbs), ring))
    (hrecord : w.record = record)
    (hok : Q (w.startAbs, w.endAbs)
      { producer with ring := ring, written := producer.written ++ [w] }) :
    (writeRecord record).wp Q E P producer := by
  obtain ⟨startAbs, endAbs, _⟩ := w
  cases hrecord
  simp only [Mut.wp, writeRecord, hwrite]
  exact hok

/-- A successor in range. -/
lemma eq_add_one {a b : UInt64} (h : b.toNat = a.toNat + 1) : b = a + 1 := by
  have hlt := b.toNat_lt
  rw [← UInt64.toNat_inj, h, UInt64.toNat_add]
  exact (Nat.mod_eq_of_lt (by rw [← h]; exact hlt)).symm

/-- A record of the system source that the ring takes. -/
lemma wp_emitSystem_of {eventTypeId : UInt32} {slots : List Slot}
    {Q : ℕ × ℕ → EpochProducer → Prop} (hseq : producer.systemSeq.toNat + 1 < 2 ^ 64)
    (hpanic : 2 ^ 64 ≤ producer.sourceTime.toNat + 1 → ∀ producer', P producer')
    (hok : ∃ ring w, w.record = producer.stamped SYSTEM_SOURCE_ID producer.systemSeq eventTypeId
        slots ∧
      RingBuffer.writeRecord w.record producer.ring = (.ok (w.startAbs, w.endAbs), ring) ∧
      (producer.sourceTime.toNat + 1 < 2 ^ 64 → Q (w.startAbs, w.endAbs) { producer with
        ring := ring
        systemSeq := producer.systemSeq + 1
        sourceTime := producer.sourceTime + 1
        written := producer.written ++ [w] })) :
    (emitSystem eventTypeId slots).wp Q E P producer := by
  obtain ⟨ring, w, hrecord, hwrite, hq⟩ := hok
  refine Mut.wp_bind (Mut.wp_get (Mut.wp_bind (Mut.wp_checkedAdd_of (fun next hnext => ?_)
    fun hover => absurd hseq (not_lt.mpr hover))))
  refine Mut.wp_bind (Mut.wp_modify (Mut.wp_bind (wp_stamp { producer with systemSeq := next }
    (fun time htime => ?_) fun hover => hpanic hover _)))
  have hlt : producer.sourceTime.toNat + 1 < 2 ^ 64 := htime ▸ time.toNat_lt
  refine wp_writeRecord_of (w := w) (hrecord ▸ hwrite) hrecord ?_
  rw [eq_add_one hnext, eq_add_one htime]
  exact hq hlt

/-- A round of `checkpoint_high_water` whose record the ring takes. -/
lemma wp_checkpointLoop_cons {sourceId : UInt32} {producedCount : UInt64}
    {entries : List (UInt32 × UInt64)} {Q : Unit → EpochProducer → Prop}
    (hseq : producedCount.toNat + 1 < 2 ^ 64)
    (hpanic : 2 ^ 64 ≤ producer.sourceTime.toNat + 1 → ∀ producer', P producer')
    (hok : ∃ ring w, w.record = producer.stamped sourceId producedCount EVENT_SOURCE_HIGH_WATER
        (highWaterSlots producedCount) ∧
      RingBuffer.writeRecord w.record producer.ring = (.ok (w.startAbs, w.endAbs), ring) ∧
      (producer.sourceTime.toNat + 1 < 2 ^ 64 → (checkpointLoop entries).wp Q E P { producer with
        ring := ring
        sourceSeq := producer.sourceSeq.insert sourceId (producedCount + 1)
        sourceTime := producer.sourceTime + 1
        written := producer.written ++ [w] })) :
    (checkpointLoop ((sourceId, producedCount) :: entries)).wp Q E P producer := by
  obtain ⟨ring, w, hrecord, hwrite, hq⟩ := hok
  refine Mut.wp_bind (wp_stamp producer (fun time htime => ?_) fun hover => hpanic hover _)
  have hlt : producer.sourceTime.toNat + 1 < 2 ^ 64 := htime ▸ time.toNat_lt
  refine Mut.wp_bind (wp_writeRecord_of (w := w) (hrecord ▸ hwrite) hrecord ?_)
  refine Mut.wp_bind (Mut.wp_checkedAdd_of (fun next hnext => ?_)
    fun hover => absurd hseq (not_lt.mpr hover))
  refine Mut.wp_bind (Mut.wp_modify ?_)
  rw [eq_add_one hnext, eq_add_one htime]
  exact hq hlt

/-- A message whose record the ring takes. -/
lemma wp_emitMessage_of {sourceId : UInt32} {Q : Unit → EpochProducer → Prop}
    (hopen : producer.transition = none)
    (hseq : (producer.sourceSeq.getD sourceId 0).toNat + 1 < 2 ^ 64)
    (hpanic : 2 ^ 64 ≤ producer.sourceTime.toNat + 1 → ∀ producer', P producer')
    (hok : ∃ ring w, w.record = producer.stamped sourceId (producer.sourceSeq.getD sourceId 0)
        EVENT_MESSAGE (dataSlots EVENT_MESSAGE) ∧
      RingBuffer.writeRecord w.record producer.ring = (.ok (w.startAbs, w.endAbs), ring) ∧
      (producer.sourceTime.toNat + 1 < 2 ^ 64 → Q () { producer with
        ring := ring
        sourceSeq := (producer.sourceSeq.insertIfNew sourceId 0).insert sourceId
          (producer.sourceSeq.getD sourceId 0 + 1)
        sourceTime := producer.sourceTime + 1
        written := producer.written ++ [w] })) :
    (emitData sourceId EVENT_MESSAGE).wp Q E P producer := by
  obtain ⟨ring, w, hrecord, hwrite, hq⟩ := hok
  refine Mut.wp_bind (Mut.wp_get ?_)
  rw [if_neg (by simp [hopen])]
  refine Mut.wp_bind (wp_nextSourceSeq _ (fun next hnext => ?_) fun hover =>
    absurd hseq (not_lt.mpr hover))
  refine Mut.wp_bind (wp_stamp _ (fun time htime => ?_) fun hover => hpanic hover _)
  have hlt : producer.sourceTime.toNat + 1 < 2 ^ 64 := htime ▸ time.toNat_lt
  refine Mut.wp_bind (wp_writeRecord_of (w := w) (hrecord ▸ hwrite) hrecord ?_)
  rw [eq_add_one hnext, eq_add_one htime]
  exact hq hlt

end EpochProducer

namespace St

/-! ## Records of the controller -/

/-- The flag of the trailer is set when a record is encoded: a record with and one without it have
the same bytes. -/
lemma bytes_record (envelope : Envelope) (eventTypeId : UInt32) (slots : List Slot) :
    ({ Record.new envelope.sourceTime envelope.runId envelope.seq envelope.sourceId eventTypeId with
      slots := slots } : Record).bytes true = (envelope.record eventTypeId slots).bytes true := by
  have hflags : crcFlags 0 true = crcFlags FLAG_HAS_CRC true := by decide
  have hbody : ({ Record.new envelope.sourceTime envelope.runId envelope.seq envelope.sourceId
      eventTypeId with slots := slots } : Record).body true =
        (envelope.record eventTypeId slots).body true := by
    unfold Record.body
    rw [show ({ Record.new envelope.sourceTime envelope.runId envelope.seq envelope.sourceId
      eventTypeId with slots := slots } : Record).flags = 0 from rfl, hflags]
    rfl
  unfold Record.bytes
  rw [hbody]

namespace Store

variable {store : Store} {ring : RingBuffer} {written : List ReadRecord}

/-- **A record is published by both**, as long as the scan list has room and the table of loss
ranges does not overflow. -/
lemma publish_follows (h : store.ring.Follows ring written) {o : Option Encoded} {encoded : Encoded}
    {envelope : Envelope} {eventTypeId : UInt32} {slots : List Slot}
    (hencodes : Encodes o (envelope.record eventTypeId slots)) (hsome : o = some encoded)
    (hseq : envelope.seq.toNat + 1 < 2 ^ 64) {count bytes : ℕ}
    (hroom : store.scan.RoomFor (count + 1) (bytes + (44 + area slots))) (inputs : Inputs)
    (hover : (store.publish inputs eventTypeId envelope.runId envelope.sourceId envelope.seq
      encoded).ring.lossRangeOverflow = false) :
    let next := store.publish inputs eventTypeId envelope.runId envelope.sourceId envelope.seq
      encoded
    store.takes encoded.length = true ∧ next.scan.RoomFor count bytes ∧
      next.published.length = store.published.length + 1 ∧
      ∃ ring' w, w.record = { Record.new envelope.sourceTime envelope.runId envelope.seq
          envelope.sourceId eventTypeId with slots := slots } ∧
        RingBuffer.writeRecord w.record ring = (.ok (w.startAbs, w.endAbs), ring') ∧
        next.ring.Follows ring' (written ++ [w]) := by
  obtain ⟨hfits, hbuffer, hlength, hbytes⟩ := hencodes.of_some hsome
  rw [length_record] at hfits hlength
  have hencodable : ({ Record.new envelope.sourceTime envelope.runId envelope.seq envelope.sourceId
      eventTypeId with slots := slots } : Record).Encodable true :=
    ⟨(encodable_of_area_le envelope eventTypeId hfits).payload_le,
      (encodable_of_area_le envelope eventTypeId hfits).total_le⟩
  let call : EncodedCall := {
    record := { Record.new envelope.sourceTime envelope.runId envelope.seq envelope.sourceId
      eventTypeId with slots := slots }
    input := ⟨encoded.buffer.toArray, by rw [List.size_toArray, hbuffer]⟩
    length := encoded.length
    encodes := by
      rw [encode_of_encodable hencodable, bytes_record]
      exact congrArg Outcome.ok hbytes.symm
    bounds := by
      rw [UInt16.le_iff_toNat_le, UInt16.le_iff_toNat_le, hlength]
      exact ⟨Nat.le_add_right 44 _, hfits⟩
    seq_lt := Nat.lt_sub_of_add_lt hseq }
  have happly : (store.publish inputs eventTypeId envelope.runId envelope.sourceId envelope.seq
      encoded).ring = store.ring.apply call := ring_publish
  rw [happly] at hover
  obtain ⟨ring', startAbs, endAbs, hwrite, hfollows, -, herror⟩ := h.apply hover
  rcases room_publish inputs eventTypeId envelope.runId envelope.sourceId envelope.seq
    (hlength ▸ hroom) (by omega) (by omega) with ⟨htakes, hleft⟩ | ⟨-, hrefused⟩
  swap
  · rw [happly, herror] at hrefused
    cases hrefused
  refine ⟨htakes, hleft, ?_, ring', ⟨startAbs, endAbs, call.record⟩, rfl, hwrite, ?_⟩
  · rw [published_publish, if_pos htakes, List.length_append, List.length_singleton]
  · rw [happly]
    exact hfollows

/-- The table of loss ranges has not overflowed before. -/
lemma Fed.overflow {inputs : Inputs} {meets : Published → Prop} {next : Store}
    (h : Fed inputs meets store next) (hover : next.ring.lossRangeOverflow = false) :
    store.ring.lossRangeOverflow = false := by
  induction h with
  | refl => exact hover
  | publish _ _ _ ih =>
    refine ih ?_
    rw [ring_publish, Ring256.lossRangeOverflow_call] at hover
    by_contra hset
    rw [Ring256.overflows_of_overflow (by simpa using hset)] at hover
    cases hover

/-- What has been published stays so. -/
lemma Fed.length_le {inputs : Inputs} {meets : Published → Prop} {next : Store}
    (h : Fed inputs meets store next) : store.published.length ≤ next.published.length := by
  obtain ⟨new, hnew, -⟩ := h.published
  rw [hnew, List.length_append]
  exact Nat.le_add_right _ _

end Store

/-! ## The source table -/

namespace Producer

variable {sources opened : Vector SourceEntry 16} {index : Fin 16} {sourceId : UInt32}
  {next : UInt64}

/-- The next number of a source, if the table has an entry for it. -/
def numberOf (sources : Vector SourceEntry 16) (sourceId : UInt32) : Option UInt64 :=
  KeyedTable.lookup isSource (fun entry => some entry.nextSeq) sources sourceId

lemma numberOf_eq (hsound : Sound sources) (hentry : isSource sourceId (sources.get index) = true) :
    numberOf sources sourceId = some (sources.get index).nextSeq :=
  KeyedTable.lookup_eq hsound.distinct hentry

/-- A source with a number has an entry. -/
lemma entry_of_numberOf (h : numberOf sources sourceId = some next) :
    ∃ i, findEntry sources (isSource sourceId) = some i ∧
      isSource sourceId (sources.get i) = true ∧ (sources.get i).nextSeq = next := by
  obtain ⟨i, hfind, hnext⟩ := Option.bind_eq_some_iff.mp h
  exact ⟨i, hfind, List.find?_some (p := fun i => isSource sourceId (sources.get i)) hfind,
    Option.some.inj hnext⟩

lemma numberOf_noSources (sourceId : UInt32) : numberOf noSources sourceId = none := by
  refine KeyedTable.lookup_eq_none fun i => ?_
  have hget : noSources.get i = ⟨false, 0, 0⟩ := Vector.getElem_replicate i.isLt
  rw [hget]
  rfl

/-- The number of a source is set. -/
lemma numberOf_set (hsound : Sound sources)
    (hentry : isSource sourceId (sources.get index) = true) (hsource : sourceId ≠ SYSTEM_SOURCE_ID)
    (next : UInt64) :
    let counted := sources.set index { sources.get index with nextSeq := next } (entry_lt index)
    Sound counted ∧ ∀ other, numberOf counted other =
      if other = sourceId then some next else numberOf sources other := by
  have hentry' : isSource sourceId { sources.get index with nextSeq := next } = true := hentry
  have hother : ∀ i, i ≠ index → isSource sourceId (sources.get i) = false := fun i hne => by
    by_contra hi
    rw [Bool.not_eq_false] at hi
    exact hne (hsound.distinct _ _ _ hi hentry)
  exact ⟨(counterOf_set index _ hsound hentry' hsource hother (.inl hentry)).1,
    (KeyedTable.lookup_set _ isSource_inj hsound.distinct hentry' hother (.inl hentry)).2⟩

/-- Opening an entry changes no number, and a source without a number starts at zero. -/
lemma numberOf_open (hsound : Sound sources)
    (h : openSource sourceId sources = some (index, opened)) :
    (opened.get index).nextSeq = (numberOf sources sourceId).getD 0 ∧
      ∀ other, other ≠ sourceId → numberOf opened other = numberOf sources other := by
  obtain ⟨hused, hid, rfl | ⟨hnone, hfree, rfl⟩⟩ := openSource_some h
  · rw [numberOf_eq hsound (by rw [isSource, hused, hid]; simp)]
    exact ⟨rfl, fun _ _ => rfl⟩
  · have hentry : isSource sourceId ⟨true, sourceId, 0⟩ = true := by simp [isSource]
    have hset := (KeyedTable.lookup_set (fun entry => some entry.nextSeq) isSource_inj
      hsound.distinct hentry (fun i _ => hnone i)
      (.inr fun k => by simp [isSource, hfree] : _ ∨ ∀ k, isSource k (sources.get index) = false)).2
    refine ⟨?_, fun other hne => (hset other).trans (if_neg hne)⟩
    rw [KeyedTable.get_set, if_pos rfl, numberOf, KeyedTable.lookup_eq_none hnone]
    rfl

end Producer

/-! ## The relation -/

/-- The transition that the `Pending…` variables hold. -/
def Pending.transition (pending : Pending) : Option PendingTransition :=
  if pending.isOpen then
    some ⟨pending.defHashOld, pending.defHashNew, pending.epochId, pending.defChangedEmitted⟩
  else none

/-- An open transition. -/
lemma Pending.transition_of_open {pending : Pending} (h : pending.isOpen = true) :
    pending.transition = some ⟨pending.defHashOld, pending.defHashNew, pending.epochId,
      pending.defChangedEmitted⟩ := if_pos h

/-- No transition. -/
lemma Pending.transition_of_closed {pending : Pending} (h : pending.isOpen = false) :
    pending.transition = none := if_neg (ne_true_of_eq_false h)

namespace Core

/-- The byte-pool producer with the variables of the core, over a ring and a table of counters. -/
def onRing (c : Core) (sourceTime : UInt64) (transition : Option PendingTransition)
    (ring : RingBuffer) (written : List ReadRecord) (sourceSeq : Std.TreeMap UInt32 UInt64) :
    EpochProducer where
  ring := ring
  runId := c.runId
  epochId := c.epochId
  epochFirstAbs := c.epochFirstAbs
  systemSeq := c.systemSeq
  sourceSeq := sourceSeq
  sourceTime := sourceTime
  definitionHash := c.definitionHash
  prevDefinitionHash := c.prevDefinitionHash
  transition := transition
  written := written

/-- The ring and the counters of a core are those of a byte-pool producer. The clock has moved once
for each record published, so none of the counters has come near its end. -/
structure Tracks (c : Core) (sourceTime : UInt64) (ring : RingBuffer) (written : List ReadRecord)
    (sourceSeq : Std.TreeMap UInt32 UInt64) : Prop where
  follows : c.store.ring.Follows ring written
  clock : sourceTime.toNat = 1780000000000000000 + c.store.published.length
  sound : Producer.Sound c.sources
  counters : ∀ sourceId, sourceSeq[sourceId]? = Producer.numberOf c.sources sourceId
  systemSeq_le : c.systemSeq.toNat ≤ c.store.published.length
  counter_le : ∀ (sourceId : UInt32) (next : UInt64), sourceSeq[sourceId]? = some next →
    next.toNat ≤ c.store.published.length

/-- A successor in range. -/
lemma toNat_succ {a : UInt64} (h : a.toNat + 1 < 2 ^ 64) : (a + 1).toNat = a.toNat + 1 := by
  rw [UInt64.toNat_add]
  exact Nat.mod_eq_of_lt h

/-- A record more: each counter has moved at most once. -/
lemma Tracks.next {c c' : Core} {sourceTime : UInt64} {ring ring' : RingBuffer}
    {written written' : List ReadRecord} {sourceSeq sourceSeq' : Std.TreeMap UInt32 UInt64}
    (h : c.Tracks sourceTime ring written sourceSeq) (htime : sourceTime.toNat + 1 < 2 ^ 64)
    (hfollows : c'.store.ring.Follows ring' written')
    (hcount : c'.store.published.length = c.store.published.length + 1)
    (hsound : Producer.Sound c'.sources)
    (hcounters : ∀ sourceId, sourceSeq'[sourceId]? = Producer.numberOf c'.sources sourceId)
    (hsystem : c'.systemSeq.toNat ≤ c.store.published.length + 1)
    (hcounter : ∀ (sourceId : UInt32) (next : UInt64), sourceSeq'[sourceId]? = some next →
      next.toNat ≤ c.store.published.length + 1) :
    c'.Tracks (sourceTime + 1) ring' written' sourceSeq' := by
  refine ⟨hfollows, ?_, hsound, hcounters, hcount ▸ hsystem, hcount ▸ hcounter⟩
  rw [toNat_succ htime, h.clock, hcount, Nat.add_assoc]

/-- The relation is one of the ring, the history and the counters. -/
lemma Tracks.congr {c c' : Core} {sourceTime : UInt64} {ring : RingBuffer}
    {written : List ReadRecord} {sourceSeq : Std.TreeMap UInt32 UInt64}
    (h : c.Tracks sourceTime ring written sourceSeq) (hring : c'.store.ring = c.store.ring)
    (hpublished : c'.store.published = c.store.published) (hsources : c'.sources = c.sources)
    (hsystem : c'.systemSeq = c.systemSeq) : c'.Tracks sourceTime ring written sourceSeq where
  follows := hring ▸ h.follows
  clock := hpublished ▸ h.clock
  sound := hsources ▸ h.sound
  counters := hsources ▸ h.counters
  systemSeq_le := hpublished ▸ hsystem ▸ h.systemSeq_le
  counter_le := hpublished ▸ h.counter_le

end Core

/-- The source time is as good as used up. -/
def Store.Spent (store : Store) : Prop :=
  2 ^ 64 ≤ 1780000000000000001 + store.published.length

namespace Producer

variable {arith : RealArith} {inputs : Inputs} {p p' q : Producer} {ring : RingBuffer}
  {written : List ReadRecord} {sourceSeq : Std.TreeMap UInt32 UInt64}
  {transition : Option PendingTransition} {E : EpochError → EpochProducer → Prop}
  {P : EpochProducer → Prop}

/-! ## Records of both -/

/-- A counter that is set. -/
lemma getElem?_insert (sourceSeq : Std.TreeMap UInt32 UInt64) (sourceId other : UInt32)
    (next : UInt64) : (sourceSeq.insert sourceId next)[other]? =
      if other = sourceId then some next else sourceSeq[other]? := by
  rw [Std.TreeMap.getElem?_insert]
  refine if_congr ?_ rfl rfl
  rw [Std.LawfulEqCmp.compare_eq_iff_eq]
  exact eq_comm

/-- **A record of the system source.** -/
lemma tracks_emitSystem {eventTypeId : UInt32} {encode : UInt64 → UInt64 → Option Encoded}
    {slots : List Slot} {Q : ℕ × ℕ → EpochProducer → Prop} (hplain : inputs.Plain)
    (h : p.core.Tracks p.sourceTime ring written sourceSeq) (hfine : p.error = false)
    (hencodes : ∀ seq sourceTime, Encodes (encode seq sourceTime)
      (Envelope.record ⟨sourceTime, p.runId, seq, 0⟩ eventTypeId slots))
    {count bytes : ℕ}
    (hroom : p.store.scan.RoomFor (count + 1) (bytes + (44 + area slots)))
    (hq : p.emitSystem inputs eventTypeId encode = some q)
    (hover : q.store.ring.lossRangeOverflow = false)
    (hpanic : q.store.Spent → ∀ producer, P producer)
    (hok : ∀ ring' written' endAbs, q.core.Tracks q.sourceTime ring' written' sourceSeq →
      q.error = false → q.store.scan.RoomFor count bytes →
      q.store.published.length = p.store.published.length + 1 →
      Q (q.store.ring.lastStartAbs, endAbs)
        (q.core.onRing q.sourceTime transition ring' written' sourceSeq)) :
    (EpochProducer.emitSystem eventTypeId slots).wp Q E P
      (p.core.onRing p.sourceTime transition ring written sourceSeq) := by
  obtain ⟨hmoved, htime⟩ := sourceTime_tick (p := p) hplain
  obtain ⟨encoded, hencoded, hcore, herror⟩ := core_emitSystem hq
  have hclock : q.sourceTime = p.sourceTime + 1 := (sourceTime_emitSystem hq).trans hmoved
  have hstore : q.store = p.store.publish inputs eventTypeId p.runId 0 p.systemSeq encoded :=
    congrArg Core.store hcore
  have hlt := p.sourceTime.toNat_lt
  have hbound : p.sourceTime.toNat = 1780000000000000000 + p.store.published.length := h.clock
  have hseq : p.systemSeq.toNat ≤ p.store.published.length := h.systemSeq_le
  have hring : p.store.ring.Follows ring written := h.follows
  rw [htime] at hencoded
  rw [hstore] at hover
  obtain ⟨htakes, hleft, hcount, ring', w, hrecord, hwrite, hfollows⟩ := Store.publish_follows
    hring (hencodes _ _) hencoded (by dsimp only; omega) hroom inputs hover
  dsimp only at hleft hcount hrecord hfollows
  rw [← hstore] at hleft hcount hfollows
  have hlast : q.store.ring.lastStartAbs = w.startAbs := by
    have hlast := hfollows.last
    rw [List.getLast?_concat] at hlast
    exact congrArg Prod.fst hlast
  refine EpochProducer.wp_emitSystem_of (show p.systemSeq.toNat + 1 < 2 ^ 64 by omega)
    (fun hover => hpanic ?_) ⟨ring', w, hrecord, hwrite, fun hroom => ?_⟩
  · change 2 ^ 64 ≤ p.sourceTime.toNat + 1 at hover
    rw [Store.Spent, hcount]
    omega
  change p.sourceTime.toNat + 1 < 2 ^ 64 at hroom
  have htracks : q.core.Tracks q.sourceTime ring' (written ++ [w]) sourceSeq := by
    have hsources : q.core.sources = p.sources := congrArg Core.sources hcore
    have hsystem : q.core.systemSeq = p.systemSeq + 1 := congrArg Core.systemSeq hcore
    rw [hclock]
    refine h.next hroom hfollows hcount (hsources ▸ h.sound) (hsources ▸ h.counters) ?_
      fun sourceId next hnext => (h.counter_le sourceId next hnext).trans (Nat.le_succ _)
    rw [hsystem, Core.toNat_succ (by omega)]
    exact Nat.succ_le_succ hseq
  have hproducer : q.core.onRing q.sourceTime transition ring' (written ++ [w]) sourceSeq = {
      p.core.onRing p.sourceTime transition ring written sourceSeq with
      ring := ring'
      systemSeq := p.systemSeq + 1
      sourceTime := p.sourceTime + 1
      written := written ++ [w] } := by
    rw [hcore, hclock]
    rfl
  have hfine' : q.error = false := by rw [herror, hfine, htakes]; rfl
  have hq := hok ring' (written ++ [w]) w.endAbs htracks hfine' hleft hcount
  rw [hlast, hproducer] at hq
  exact hq

/-- **A high-water record.** -/
lemma tracks_highWater {index : Fin 16} {sourceId : UInt32} {producedCount : UInt64}
    {entries : List (UInt32 × UInt64)} {Q : Unit → EpochProducer → Prop} (hplain : inputs.Plain)
    (h : p.core.Tracks p.sourceTime ring written sourceSeq) (hfine : p.error = false)
    (hentry : isSource sourceId (p.sources.get index) = true)
    (hproduced : (p.sources.get index).nextSeq = producedCount) {count : ℕ}
    (hroom : p.store.scan.RoomFor (count + 1) (56 * (count + 1)))
    (hq : p.highWater inputs index = some q) (hover : q.store.ring.lossRangeOverflow = false)
    (hpanic : q.store.Spent → ∀ producer, P producer)
    (hok : ∀ ring' written', q.core.Tracks q.sourceTime ring' written'
        (sourceSeq.insert sourceId (producedCount + 1)) →
      q.error = false → q.store.scan.RoomFor count (56 * count) →
      (EpochProducer.checkpointLoop entries).wp Q E P (q.core.onRing q.sourceTime transition ring'
        written' (sourceSeq.insert sourceId (producedCount + 1)))) :
    (EpochProducer.checkpointLoop ((sourceId, producedCount) :: entries)).wp Q E P
      (p.core.onRing p.sourceTime transition ring written sourceSeq) := by
  obtain ⟨hmoved, htime⟩ := sourceTime_tick (p := p) hplain
  obtain ⟨encoded, hencoded, hcore, herror⟩ := core_highWater hq
  have hid : (p.sources.get index).sourceId = sourceId :=
    eq_of_beq (Bool.and_eq_true_iff.mp hentry).2
  rw [hid] at hencoded hcore
  rw [htime, nextSeq, hproduced] at hencoded
  have hclock : q.sourceTime = p.sourceTime + 1 := (sourceTime_highWater hq).trans hmoved
  have hstore : q.store = p.store.publish inputs EVENT_SOURCE_HIGH_WATER p.runId sourceId
      producedCount encoded :=
    (congrArg Core.store hcore).trans (hproduced ▸ Core.store_countAfter)
  have hlt := p.sourceTime.toNat_lt
  have hbound : p.sourceTime.toNat = 1780000000000000000 + p.store.published.length := h.clock
  have hring : p.store.ring.Follows ring written := h.follows
  have hnumber : sourceSeq[sourceId]? = some producedCount := by
    rw [h.counters, ← hproduced]
    exact numberOf_eq h.sound hentry
  have hseq : producedCount.toNat ≤ p.store.published.length := h.counter_le sourceId _ hnumber
  have hsource : sourceId ≠ SYSTEM_SOURCE_ID := fun heq => by
    rw [heq] at hentry
    exact absurd hentry (ne_true_of_eq_false (h.sound.nonzero index))
  rw [hstore] at hover
  have hroom' : p.store.scan.RoomFor (count + 1) (56 * count + (44 +
      area [longField KEY_SOURCE_HIGH_WATER TY_ULINT producedCount])) := by
    rw [area_longField]
    exact hroom
  obtain ⟨htakes, hleft, hcount, ring', w, hrecord, hwrite, hfollows⟩ := Store.publish_follows
    hring (encodes_sourceHighWater sourceId p.runId producedCount p.sourceTime) hencoded
    (by dsimp only; omega) hroom' inputs hover
  dsimp only at hleft hcount hrecord hfollows
  rw [← hstore] at hleft hcount hfollows
  refine EpochProducer.wp_checkpointLoop_cons (show producedCount.toNat + 1 < 2 ^ 64 by omega)
    (fun hover => hpanic ?_) ⟨ring', w, hrecord, hwrite, fun hroom => ?_⟩
  · change 2 ^ 64 ≤ p.sourceTime.toNat + 1 at hover
    rw [Store.Spent, hcount]
    omega
  change p.sourceTime.toNat + 1 < 2 ^ 64 at hroom
  have hsources : q.core.sources = p.sources.set index
      { p.sources.get index with nextSeq := producedCount + 1 } (entry_lt index) := by
    rw [hcore, Core.sources_countAfter, if_pos (show p.core.store.takes encoded.length = true from
      htakes), ← hproduced]
    rfl
  have hbefore : Sound p.sources := h.sound
  obtain ⟨hsound, hset⟩ := numberOf_set hbefore hentry hsource (producedCount + 1)
  have htracks : q.core.Tracks q.sourceTime ring' (written ++ [w])
      (sourceSeq.insert sourceId (producedCount + 1)) := by
    have hsystem : q.core.systemSeq = p.systemSeq := by
      rw [hcore]
      unfold Core.countAfter
      dsimp only
      split_ifs <;> rfl
    have hcounters : ∀ other, (sourceSeq.insert sourceId (producedCount + 1))[other]? =
        numberOf q.core.sources other := by
      intro other
      rw [hsources, hset, getElem?_insert, h.counters]
      rfl
    rw [hclock]
    refine h.next hroom hfollows hcount (hsources ▸ hsound) hcounters ?_ ?_
    · rw [hsystem]
      exact h.systemSeq_le.trans (Nat.le_succ _)
    · intro other next hnext
      rw [getElem?_insert] at hnext
      split_ifs at hnext
      · rw [← Option.some.inj hnext, Core.toNat_succ (by omega)]
        exact Nat.succ_le_succ hseq
      · exact (h.counter_le other next hnext).trans (Nat.le_succ _)
  have hproducer : q.core.onRing q.sourceTime transition ring' (written ++ [w])
      (sourceSeq.insert sourceId (producedCount + 1)) = {
      p.core.onRing p.sourceTime transition ring written sourceSeq with
      ring := ring'
      sourceSeq := sourceSeq.insert sourceId (producedCount + 1)
      sourceTime := p.sourceTime + 1
      written := written ++ [w] } := by
    rw [hcore, hclock]
    unfold Core.countAfter
    dsimp only
    split_ifs <;> rfl
  have hfine' : q.error = false := by rw [herror, hfine, htakes]; rfl
  have hq := hok ring' (written ++ [w]) htracks hfine' hleft
  rw [hproducer] at hq
  exact hq

/-- The slots of a minimal message. -/
lemma messageSlots_of_isMinimal {message : MessageInputs} (h : message.IsMinimal) :
    messageSlots message = dataSlots EVENT_MESSAGE := by
  obtain ⟨htemplate, hargs, hseverity⟩ := h
  unfold messageSlots
  rw [htemplate, hargs, hseverity]
  rfl

/-- **A message.** -/
lemma tracks_message {index : Fin 16} {sources : Vector SourceEntry 16}
    {Q : Unit → EpochProducer → Prop} (hplain : inputs.Plain)
    (h : p.core.Tracks p.sourceTime ring written sourceSeq) (hfine : p.error = false)
    (hopen : p.pending.isOpen = false) (hsource : inputs.sourceId ≠ 0)
    (hmessage : inputs.message.IsMinimal)
    (hfind : openSource inputs.sourceId p.sources = some (index, sources)) {count bytes : ℕ}
    (hroom : p.store.scan.RoomFor (count + 1) (bytes + 52))
    (hq : p.message inputs = some q) (hover : q.store.ring.lossRangeOverflow = false)
    (hpanic : q.store.Spent → ∀ producer, P producer)
    (hok : ∀ ring' written' sourceSeq', q.core.Tracks q.sourceTime ring' written' sourceSeq' →
      q.error = false → Q () (q.core.onRing q.sourceTime none ring' written' sourceSeq')) :
    (EpochProducer.emitData inputs.sourceId EVENT_MESSAGE).wp Q E P
      (p.core.onRing p.sourceTime none ring written sourceSeq) := by
  obtain ⟨hmoved, htime⟩ := sourceTime_tick (p := p) hplain
  obtain ⟨encoded, hencoded, htick, herror, hcore⟩ := message_of_entry hopen hsource hfind hq
  have hclock : q.sourceTime = p.sourceTime + 1 := htick.trans hmoved
  set seq := (sources.get index).nextSeq with hseqDef
  rw [htime] at hencoded
  have hstore : q.store = p.store.publish inputs EVENT_MESSAGE p.runId inputs.sourceId seq
      encoded := by
    refine (congrArg Core.store hcore).trans ?_
    split_ifs <;> rfl
  have hlt := p.sourceTime.toNat_lt
  have hbound : p.sourceTime.toNat = 1780000000000000000 + p.store.published.length := h.clock
  have hring : p.store.ring.Follows ring written := h.follows
  have hbefore : Sound p.sources := h.sound
  obtain ⟨hdrawn, hothers⟩ := numberOf_open hbefore hfind
  obtain ⟨hopened, hentry, -⟩ := counterOf_open hbefore hsource hfind
  have hdraw : sourceSeq.getD inputs.sourceId 0 = seq := by
    rw [Std.TreeMap.getD_eq_getD_getElem?, h.counters, hseqDef, hdrawn]
    rfl
  have hseq : seq.toNat ≤ p.store.published.length := by
    rw [← hdraw, Std.TreeMap.getD_eq_getD_getElem?]
    cases hnumber : sourceSeq[inputs.sourceId]? with
    | none => exact Nat.zero_le _
    | some next => exact h.counter_le _ _ hnumber
  rw [hstore] at hover
  have hencodes := encodes_minimalMessage ⟨p.sourceTime, p.runId, seq, inputs.sourceId⟩
    inputs.message
  rw [messageSlots_of_isMinimal hmessage] at hencodes
  obtain ⟨htakes, -, hcount, ring', w, hrecord, hwrite, hfollows⟩ := Store.publish_follows
    hring hencodes hencoded (by dsimp only; omega) hroom inputs hover
  dsimp only at hcount hrecord hfollows
  rw [← hstore] at hcount hfollows
  replace hcore := hcore.trans (if_pos htakes)
  refine EpochProducer.wp_emitMessage_of rfl
    (show (sourceSeq.getD inputs.sourceId 0).toNat + 1 < 2 ^ 64 by rw [hdraw]; omega)
    (fun hover => hpanic ?_) ⟨ring', w, ?_, hwrite, fun hroom => ?_⟩
  · change 2 ^ 64 ≤ p.sourceTime.toNat + 1 at hover
    rw [Store.Spent, hcount]
    omega
  · change w.record = (p.core.onRing p.sourceTime none ring written sourceSeq).stamped
      inputs.sourceId (sourceSeq.getD inputs.sourceId 0) EVENT_MESSAGE (dataSlots EVENT_MESSAGE)
    rw [hdraw]
    exact hrecord
  change p.sourceTime.toNat + 1 < 2 ^ 64 at hroom
  set sourceSeq' := (sourceSeq.insertIfNew inputs.sourceId 0).insert inputs.sourceId (seq + 1)
    with hsourceSeq
  have hsources : q.core.sources = sources.set index
      { sources.get index with nextSeq := seq + 1 } (entry_lt index) := by
    rw [hcore]
    rfl
  obtain ⟨hsound, hset⟩ := numberOf_set hopened hentry hsource (seq + 1)
  have hnumbers : ∀ other, sourceSeq'[other]? =
      if other = inputs.sourceId then some (seq + 1) else sourceSeq[other]? := by
    intro other
    rw [hsourceSeq, getElem?_insert, Std.TreeMap.getElem?_insertIfNew]
    split_ifs with hsame hnew
    · rfl
    · exact absurd (Std.LawfulEqCmp.compare_eq_iff_eq.mp hnew.1).symm hsame
    · rfl
  have htracks : q.core.Tracks q.sourceTime ring' (written ++ [w]) sourceSeq' := by
    have hsystem : q.core.systemSeq = p.systemSeq := by
      rw [hcore]
      rfl
    rw [hclock]
    refine h.next hroom hfollows hcount (hsources ▸ hsound) (fun other => ?_) ?_ ?_
    · rw [hsources, hset, hnumbers]
      split_ifs with hsame
      · rfl
      · rw [h.counters, hothers other hsame]
        rfl
    · rw [hsystem]
      exact h.systemSeq_le.trans (Nat.le_succ _)
    · intro other next hnext
      rw [hnumbers] at hnext
      split_ifs at hnext
      · rw [← Option.some.inj hnext, Core.toNat_succ (by omega)]
        exact Nat.succ_le_succ hseq
      · exact (h.counter_le other next hnext).trans (Nat.le_succ _)
  have hproducer : q.core.onRing q.sourceTime none ring' (written ++ [w]) sourceSeq' =
      { p.core.onRing p.sourceTime none ring written sourceSeq with
        ring := ring'
        sourceSeq := sourceSeq'
        sourceTime := p.sourceTime + 1
        written := written ++ [w] } := by
    rw [hcore, hclock]
    rfl
  have hfine' : q.error = false := by rw [herror, hfine, htakes]; rfl
  have hq := hok ring' (written ++ [w]) sourceSeq' htracks hfine'
  rw [hproducer, hsourceSeq, ← hdraw] at hq
  exact hq

/-! ## The loops -/

/-- The counters that a loop over the sources in ascending order has still to come to. -/
structure Awaits (last : Option UInt32) (sourceSeq : Std.TreeMap UInt32 UInt64)
    (entries : List (UInt32 × UInt64)) : Prop where
  ascending : entries.Pairwise fun a b => a.1 < b.1
  mem_iff : ∀ sourceId next, (sourceId, next) ∈ entries ↔
    sourceSeq[sourceId]? = some next ∧ (last.all fun lastId => decide (lastId < sourceId)) = true

/-- At first it awaits them all. -/
lemma awaits_toList (sourceSeq : Std.TreeMap UInt32 UInt64) :
    Awaits none sourceSeq sourceSeq.toList where
  ascending := Std.TreeMap.ordered_keys_toList.imp Std.compare_eq_lt.mp
  mem_iff sourceId next := by
    rw [Std.TreeMap.mem_toList_iff_getElem?_eq_some]
    simp

/-- A round. -/
lemma Awaits.round {last : Option UInt32} {sourceId : UInt32} {producedCount : UInt64}
    {entries : List (UInt32 × UInt64)}
    (h : Awaits last sourceSeq ((sourceId, producedCount) :: entries)) (next : UInt64) :
    Awaits (some sourceId) (sourceSeq.insert sourceId next) entries := by
  obtain ⟨hfirst, hrest⟩ := List.pairwise_cons.mp h.ascending
  refine ⟨hrest, fun other number => ⟨fun hmem => ?_, fun ⟨hnumber, hafter⟩ => ?_⟩⟩
  · have hlt : sourceId < other := hfirst _ hmem
    have hne : other ≠ sourceId := fun heq => UInt32.lt_irrefl _ (heq ▸ hlt)
    rw [getElem?_insert, if_neg hne]
    exact ⟨((h.mem_iff other number).mp (List.mem_cons_of_mem _ hmem)).1, decide_eq_true hlt⟩
  · have hlt : sourceId < other := of_decide_eq_true hafter
    have hne : other ≠ sourceId := fun heq => UInt32.lt_irrefl _ (heq ▸ hlt)
    rw [getElem?_insert, if_neg hne] at hnumber
    have hlast := ((h.mem_iff sourceId producedCount).mp List.mem_cons_self).2
    have hmem : (other, number) ∈ (sourceId, producedCount) :: entries := by
      refine (h.mem_iff other number).mpr ⟨hnumber, ?_⟩
      cases last with
      | none => rfl
      | some lastId =>
        rw [Option.all_some, decide_eq_true_eq] at hlast ⊢
        exact UInt32.lt_trans hlast hlt
    rcases List.mem_cons.mp hmem with heq | hmem
    · exact absurd (congrArg Prod.fst heq) hne
    · exact hmem

section

variable {sources : Vector SourceEntry 16} {last : Option UInt32} {sourceId : UInt32}
  {producedCount : UInt64} {entries : List (UInt32 × UInt64)}
  (hsound : Sound sources)
  (hcounters : ∀ sourceId, sourceSeq[sourceId]? = numberOf sources sourceId)

include hsound hcounters in
/-- A source above the last one is awaited. -/
lemma Awaits.mem_of_isAbove (h : Awaits last sourceSeq entries) {i : Fin 16}
    (habove : isAbove last (sources.get i) = true) :
    ((sources.get i).sourceId, (sources.get i).nextSeq) ∈ entries := by
  obtain ⟨hused, hlast⟩ := Bool.and_eq_true_iff.mp habove
  refine (h.mem_iff _ _).mpr ⟨?_, hlast⟩
  rw [hcounters]
  exact numberOf_eq hsound (by rw [isSource, hused]; simp)

include hsound hcounters in
/-- No source is awaited any more. -/
lemma Awaits.selectNext_nil (h : Awaits last sourceSeq []) : selectNext last sources = none := by
  cases hselect : selectNext last sources with
  | none => rfl
  | some index =>
    have hmem := h.mem_of_isAbove hsound hcounters (isAbove_of_selectNext hselect)
    cases hmem

include hsound hcounters in
/-- **The loop of operation 1 selects the first source awaited.** -/
lemma Awaits.selectNext_cons (h : Awaits last sourceSeq ((sourceId, producedCount) :: entries)) :
    ∃ index, selectNext last sources = some index ∧
      isSource sourceId (sources.get index) = true ∧
      (sources.get index).nextSeq = producedCount := by
  obtain ⟨hnumber, hafter⟩ := (h.mem_iff sourceId producedCount).mp List.mem_cons_self
  obtain ⟨i, -, hentry, hproduced⟩ := entry_of_numberOf ((hcounters sourceId).symm.trans hnumber)
  have hid : (sources.get i).sourceId = sourceId := eq_of_beq (Bool.and_eq_true_iff.mp hentry).2
  have habove : isAbove last (sources.get i) = true := by
    rw [isAbove, (Bool.and_eq_true_iff.mp hentry).1, hid]
    exact hafter
  cases hselect : selectNext last sources with
  | none =>
    rw [isAbove_of_selectNext_none hselect i] at habove
    cases habove
  | some index =>
    have hselected := isAbove_of_selectNext hselect
    have hle := hid ▸ le_of_selectNext hselect habove
    have hfirst : (sources.get index).sourceId = sourceId ∧
        (sources.get index).nextSeq = producedCount := by
      rcases List.mem_cons.mp (h.mem_of_isAbove hsound hcounters hselected) with heq | hmem
      · exact Prod.mk.inj heq
      · have hlt := (List.pairwise_cons.mp h.ascending).1 _ hmem
        exact absurd hlt (UInt32.not_lt.mpr hle)
    refine ⟨index, rfl, ?_, hfirst.2⟩
    rw [isSource, (Bool.and_eq_true_iff.mp hselected).1, hfirst.1]
    simp

end

/-- **The loop of operation 1.** -/
lemma tracks_highWaterLoop {fuel : ℕ} {last : Option UInt32} {entries : List (UInt32 × UInt64)}
    {Q : Unit → EpochProducer → Prop} (hplain : inputs.Plain)
    (h : p.core.Tracks p.sourceTime ring written sourceSeq) (hfine : p.error = false)
    (hawaits : Awaits last sourceSeq entries)
    (hroom : p.store.scan.RoomFor entries.length (56 * entries.length))
    (hq : p.highWaterLoop inputs fuel last = some q)
    (hover : q.store.ring.lossRangeOverflow = false)
    (hpanic : q.store.Spent → ∀ producer, P producer)
    (hok : ∀ ring' written' sourceSeq', q.core.Tracks q.sourceTime ring' written' sourceSeq' →
      q.error = false → Q () (q.core.onRing q.sourceTime transition ring' written' sourceSeq')) :
    (EpochProducer.checkpointLoop entries).wp Q E P
      (p.core.onRing p.sourceTime transition ring written sourceSeq) := by
  have hcounters : ∀ sourceId, sourceSeq[sourceId]? = numberOf p.sources sourceId := h.counters
  have hsound : Sound p.sources := h.sound
  induction entries generalizing p fuel last ring written sourceSeq with
  | nil =>
    have hselect := hawaits.selectNext_nil hsound hcounters
    cases fuel with
    | zero => cases hq
    | succ fuel =>
      unfold highWaterLoop at hq
      rw [hselect] at hq
      cases hq
      exact Mut.wp_pure (hok ring written sourceSeq h hfine)
  | cons entry entries ih =>
    obtain ⟨sourceId, producedCount⟩ := entry
    obtain ⟨index, hselect, hentry, hproduced⟩ := hawaits.selectNext_cons hsound hcounters
    cases fuel with
    | zero => cases hq
    | succ fuel =>
      unfold highWaterLoop at hq
      rw [hselect] at hq
      obtain ⟨next, hnext, hq⟩ := Option.bind_eq_some_iff.mp hq
      have hrest : Store.Fed inputs Published.IsHighWater next.store q.store := by
        split_ifs at hq with herror
        · cases hq
          exact .refl
        · exact (feeds_highWaterLoop hq).store
      refine tracks_highWater hplain h hfine hentry hproduced hroom hnext (hrest.overflow hover)
        (fun hspent => hpanic (Nat.le_trans hspent (Nat.add_le_add_left hrest.length_le _)))
        fun ring' written' htracks hfine' hleft => ?_
      rw [if_neg (by rw [hfine']; exact Bool.false_ne_true)] at hq
      have hid : (p.sources.get index).sourceId = sourceId :=
        eq_of_beq (Bool.and_eq_true_iff.mp hentry).2
      exact ih htracks hfine' (hid.symm ▸ hawaits.round _) hleft hq htracks.counters htracks.sound

end Producer

end St

end OpenOT
