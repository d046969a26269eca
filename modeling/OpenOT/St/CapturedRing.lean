import OpenOT.Carriage.Capture
import OpenOT.Carriage.EvictionLog
import OpenOT.St.ProducerRefinement

set_option relaxedAutoImplicit false
set_option autoImplicit false

/-!
# The image of the controller

What a reader finds in the image that is captured of the controller: the ring of the function block
and its control fields, read through the snapshot by the raw reader. In every state of a run of
calls the reader finds the records that the ring has taken and still retains, with the bytes and
the numbers that were handed over.

## Main definitions

* `OpenOT.St.Published.Carries` — the bytes of an entry are a record with its numbers.
* `OpenOT.St.Producer.StagesOnly` — a call that stages such a record, if it stages any.
* `OpenOT.St.Ring256.Shows` — the ring mirrors a byte-pool ring that holds what it has taken.
* `OpenOT.St.Producer.image` — the image of the controller.

## Main results

* `OpenOT.St.Ring256.Shows.call` — a call extends the history.
* `OpenOT.St.captured_ring_read_back` — what a reader finds in an image.
-/

namespace OpenOT

open Rust CircularLog Transition

/-- A record attests no number but its own and reports nothing dropped. -/
structure Record.Truthful (record : Record) : Prop where
  highWater : LossTracker.parseSourceHighWater record = none ∨
    LossTracker.parseSourceHighWater record = some record.seq
  dropped : ∀ (ε : Type) bufferId,
    (LossTracker.parseRecordsDropped record bufferId : Outcome ε (Option LossEvent)) = .ok none

/-- A record of any other event is. -/
lemma Record.truthful_of_ne {record : Record} (hmark : record.eventTypeId ≠ EVENT_SOURCE_HIGH_WATER)
    (hdropped : record.eventTypeId ≠ EVENT_RECORDS_DROPPED) : record.Truthful where
  highWater := .inl (if_pos hmark)
  dropped _ _ := if_pos hdropped

/-- A record in a byte-pool ring, as the function block notes what it takes. -/
def ReadRecord.ringWrite (w : ReadRecord) : St.RingWrite :=
  ⟨w.startAbs, w.record.bytes true, w.record.runId, w.record.sourceId, w.record.seq⟩

namespace St

/-! ## Entries that are records -/

namespace Published

/-- The bytes of an entry are a record with its numbers, and the record meets a condition. -/
def Carries (meets : Record → Prop) (entry : Published) : Prop :=
  ∃ record : Record, record.Encodable true ∧ record.bytes true = entry.bytes ∧
    entry.bytes.length ≤ 256 ∧ record.runId = entry.runId ∧ record.sourceId = entry.sourceId ∧
    record.seq = entry.seq ∧ record.withCrcFlag true = record ∧ meets record

variable {meets : Record → Prop} {entry : Published} {slots : List Slot}

lemma Carries.mono {meets' : Record → Prop} (h : entry.Carries meets)
    (hle : ∀ record, meets record → meets' record) : entry.Carries meets' := by
  obtain ⟨record, hencodable, hbytes, hlength, hrun, hsource, hseq, hflag, hmeets⟩ := h
  exact ⟨record, hencodable, hbytes, hlength, hrun, hsource, hseq, hflag, hle record hmeets⟩

/-- An entry that holds slots is a record. -/
lemma Holds.carries (h : entry.Holds slots) (hmeets : ∀ sourceTime, meets (Envelope.record
    ⟨sourceTime, entry.runId, entry.seq, entry.sourceId⟩ entry.eventTypeId slots)) :
    entry.Carries meets := by
  obtain ⟨hfits, sourceTime, hbytes⟩ := h
  refine ⟨_, encodable_of_area_le _ _ hfits, hbytes.symm, ?_, rfl, rfl, rfl, ?_,
    hmeets sourceTime⟩
  · rw [hbytes, length_record]
    exact hfits
  · have hflags : crcFlags FLAG_HAS_CRC true = FLAG_HAS_CRC := by decide
    exact congrArg (fun flags => { Envelope.record _ _ slots with flags := flags }) hflags

/-- A record of an event that is not about losses is truthful. -/
lemma Holds.truthful (h : entry.Holds slots) (hmark : entry.eventTypeId ≠ EVENT_SOURCE_HIGH_WATER)
    (hdropped : entry.eventTypeId ≠ EVENT_RECORDS_DROPPED) : entry.Carries Record.Truthful :=
  h.carries fun _ => Record.truthful_of_ne hmark hdropped

/-- A high-water record of its own number is. -/
lemma Holds.truthful_highWater
    (h : entry.Holds [longField KEY_SOURCE_HIGH_WATER TY_ULINT entry.seq])
    (hevent : entry.eventTypeId = EVENT_SOURCE_HIGH_WATER) : entry.Carries Record.Truthful := by
  have hdropped : entry.eventTypeId ≠ EVENT_RECORDS_DROPPED := by
    rw [hevent]
    decide
  refine h.carries fun sourceTime => ⟨.inr ?_, fun ε bufferId => if_pos hdropped⟩
  simp [LossTracker.parseSourceHighWater, Envelope.record, hevent, longField]

/-- A record of the system source is. -/
lemma IsSystem.truthful {eventTypeId : UInt32} (h : entry.IsSystem eventTypeId slots)
    (hmark : eventTypeId ≠ EVENT_SOURCE_HIGH_WATER)
    (hdropped : eventTypeId ≠ EVENT_RECORDS_DROPPED) : entry.Carries Record.Truthful := by
  obtain ⟨-, rfl, hholds⟩ := h
  exact hholds.truthful hmark hdropped

/-- A message is. -/
lemma IsMessage.truthful {inputs : Inputs} (h : entry.IsMessage inputs) :
    entry.Carries Record.Truthful := by
  obtain ⟨-, hevent, hholds⟩ := h
  exact hholds.truthful (by rw [hevent]; decide) (by rw [hevent]; decide)

end Published

/-- No data operation emits a record about losses. -/
lemma Emitted.not_about_losses {inputs : Inputs} {events : AttestableEventLog} {memory : Memory}
    {e : Emission} (h : Emitted inputs events memory e) :
    e.eventTypeId ≠ EVENT_SOURCE_HIGH_WATER ∧ e.eventTypeId ≠ EVENT_RECORDS_DROPPED := by
  cases h with
  | condition =>
    unfold conditionEmission
    dsimp only
    split_ifs <;> exact ⟨by decide, by decide⟩
  | lifecycle _ hevent =>
    change inputs.conditionLifecycleEventTypeId ≠ _ ∧ inputs.conditionLifecycleEventTypeId ≠ _
    refine ⟨?_, ?_⟩ <;>
    · rintro heq
      rw [heq] at hevent
      exact absurd hevent.1 (by decide)
  | procedure _ hknown =>
    change inputs.procedure.eventTypeId ≠ _ ∧ inputs.procedure.eventTypeId ≠ _
    rcases hknown with h | h | h | h <;> rw [h] <;> exact ⟨by decide, by decide⟩
  | regulated _ hknown =>
    change inputs.regulated.eventTypeId ≠ _ ∧ inputs.regulated.eventTypeId ≠ _
    rcases hknown with h | h | h | h <;> rw [h] <;> exact ⟨by decide, by decide⟩
  | _ =>
    simp [ValueKind.change, stateTransitionEmission, parameterEmission, commandEmission,
      signatureEmission, EVENT_SOURCE_HIGH_WATER, EVENT_RECORDS_DROPPED]

/-- The record of a data operation is truthful. -/
lemma Published.IsData.truthful {inputs : Inputs} {p : Producer} {entry : Published}
    (h : entry.IsData inputs p) : entry.Carries Record.Truthful := by
  obtain ⟨emission, hemitted, hentry⟩ := h
  obtain ⟨slots, hwrites⟩ := hemitted.writes
  obtain ⟨hmark, hdropped⟩ := hemitted.not_about_losses
  rw [← hentry.eventTypeId] at hmark hdropped
  exact (hentry.holds slots hwrites).truthful hmark hdropped

/-! ## Operations that publish records -/

namespace Producer

variable {arith : RealArith} {inputs : Inputs} {p p' : Producer} {meets : Record → Prop}

/-- The entry that operation 5 publishes. -/
def staged (inputs : Inputs) (p : Producer) : Published where
  inputs := inputs
  eventTypeId := inputs.stageEventTypeId
  runId := p.runId
  sourceId := inputs.sourceId
  seq := inputs.stageSeq
  bytes := inputs.stageRecord.toList.take inputs.stageLength.toNat

/-- A call that stages a record stages one that meets a condition, under its own numbers. -/
def StagesOnly (meets : Record → Prop) (p : Producer) (inputs : Inputs) : Prop :=
  inputs.checkpoint = false → inputs.op = 5 → (p.staged inputs).Carries meets

/-- The high-water records. -/
lemma fed_highWater {index : Fin 16} (h : p.highWater inputs index = some p') :
    Store.Fed inputs (Published.Carries Record.Truthful) p.store p'.store := by
  obtain ⟨encoded, hencoded, hcore, -⟩ := core_highWater h
  have hencodes := encodes_sourceHighWater (p.sources.get index).sourceId p.runId
    (p.nextSeq index) (p.nextSourceTime inputs)
  have hfeeds : Core.Feeds inputs (Published.Carries Record.Truthful) p.core
      (p.core.countAfter inputs 0x0108 (p.sources.get index).sourceId index encoded) :=
    Core.feeds_countAfter (hencodes.length_le hencoded)
      (Published.Holds.truthful_highWater (hencodes.holds hencoded) rfl)
  rw [show p'.store = _ from congrArg Core.store hcore]
  exact hfeeds.store

/-- The records of operation 1. -/
lemma fed_beginTransition (h : p.beginTransition inputs = some p') :
    Store.Fed inputs (Published.Carries Record.Truthful) p.store p'.store := by
  rcases core_beginTransition h with ⟨-, hcore, -⟩ | ⟨-, q, r, hq, hr, -, hcore⟩
  · rw [show p'.store = p.store from congrArg Core.store hcore]
    exact .refl
  have hstore : p'.store = r.store := by
    split_ifs at hcore <;> exact congrArg Core.store hcore
  have hstopped : Store.Fed inputs (Published.Carries Record.Truthful) p.store q.store :=
    (feeds_stopped hq).store.mono fun _ hentry => hentry.truthful (by decide) (by decide)
  rw [hstore]
  rcases hr with ⟨-, rfl⟩ | ⟨-, hr⟩
  · exact hstopped
  · exact highWaterLoop_keeps (P := fun q => Store.Fed inputs _ p.store q.store)
      (fun _ _ _ hp hhigh => hp.trans (fed_highWater hhigh)) hstopped hr

/-- The record of operation 5 is the one that is staged. -/
lemma fed_stage (h : p.stage inputs = some p') :
    Store.Fed inputs (fun entry => entry = p.staged inputs) p.store p'.store := by
  rcases core_stage h with ⟨hcore, -⟩ | ⟨-, -, -, hle, index, sources, -, hstaged⟩
  · rw [show p'.store = p.store from congrArg Core.store hcore]
    exact .refl
  rcases hstaged with ⟨-, hcore, -⟩ | ⟨hseq, hcore⟩
  · rw [show p'.store = p.store from congrArg Core.store hcore]
    exact .refl
  · have hlength : inputs.stageLength.toNat ≤ inputs.stageRecord.toList.length := by
      rw [Vector.length_toList]
      exact UInt16.le_iff_toNat_le.mp hle
    have hfeeds : Core.Feeds inputs (fun entry => entry = p.staged inputs)
        { p.core with sources := sources }
        (Core.countAfter inputs inputs.stageEventTypeId inputs.sourceId index
          ⟨inputs.stageRecord.toList, inputs.stageLength⟩ { p.core with sources := sources }) := by
      refine Core.feeds_countAfter hlength ?_
      rw [staged, hseq]
      rfl
    rw [show p'.store = _ from congrArg Core.store hcore]
    exact hfeeds.store

/-- **Every operation publishes records**: those of the producer are truthful, and operation 5
publishes what is staged. -/
lemma fed_records (hle : ∀ record, Record.Truthful record → meets record)
    (hstaged : p.StagesOnly meets inputs) (h : Operated arith inputs p p') :
    Store.Fed inputs (Published.Carries meets) p.store p'.store := by
  have hown {store : Store} (hfed : Store.Fed inputs (Published.Carries Record.Truthful) p.store
      store) : Store.Fed inputs (Published.Carries meets) p.store store :=
    hfed.mono fun _ hentry => hentry.mono hle
  cases h with
  | checkpoint _ h =>
    rcases core_checkpoint h with ⟨hcore, -⟩ | ⟨-, -, index, q, -, hq, hcore, -⟩
    · rw [show p'.store = p.store from congrArg Core.store hcore]
      exact .refl
    · rw [show p'.store = q.store from congrArg Core.store hcore]
      exact hown (fed_highWater hq)
  | message _ _ h => exact hown ((fed_message h).mono fun _ hentry => hentry.truthful)
  | stage hcheckpoint hop h =>
    exact (fed_stage h).mono fun _ hentry => hentry ▸ hstaged hcheckpoint hop
  | dataOp _ hop h => exact hown ((fed_dataOp hop h).mono fun _ hentry => hentry.truthful)
  | beginTransition _ _ h => exact hown (fed_beginTransition h)
  | changeDefinition _ _ h =>
    obtain ⟨c, hfeeds, hcore⟩ := feeds_changeDefinition h
    have hstore : p'.store = c.store := by
      rcases hcore with hcore | hcore <;> exact congrArg Core.store hcore
    rw [hstore]
    exact hown (hfeeds.store.mono fun _ hentry => hentry.truthful (by decide) (by decide))
  | finishWarm _ _ h =>
    rcases core_finishWarm h with ⟨-, hcore, -⟩ | ⟨-, -, q, hq, -, hcore⟩
    · rw [show p'.store = p.store from congrArg Core.store hcore]
      exact .refl
    · have hstore : p'.store = q.store := by
        split_ifs at hcore <;> exact congrArg Core.store hcore
      rw [hstore]
      exact hown ((feeds_started hq).store.mono fun _ hentry =>
        hentry.truthful (by decide) (by decide))
  | finishCold _ _ h =>
    rcases core_finishCold h with ⟨-, hcore, -⟩ | ⟨-, -, q, hq, -, hcore⟩
    · rw [show p'.store = p.store from congrArg Core.store hcore]
      exact .refl
    · have hstore : p'.store = q.store := by
        split_ifs at hcore <;> exact congrArg Core.store hcore
      rw [hstore]
      exact hown ((feeds_started hq).store.mono fun _ hentry =>
        hentry.truthful (by decide) (by decide))
  | unknown _ _ h =>
    rw [h]
    exact .refl

end Producer

/-! ## The ring shows what it has taken -/

namespace Ring256

/-- The ring mirrors a byte-pool ring that holds the records it has taken, each of which meets a
condition; and the loss ranges of that ring spell out those that were evicted, if no number is the
last one. -/
structure Shows (meets : Record → Prop) (r : Ring256) (ring : RingBuffer)
    (written : List ReadRecord) : Prop where
  mirrors : r.Mirrors ring
  represents : ring.Represents written
  written_eq : r.written = written.map ReadRecord.ringWrite
  records : ∀ w ∈ written, w.delivered = w ∧ meets w.record
  losses : (∀ w ∈ written, w.record.seq.toNat + 1 < 2 ^ 64) → EvictionLog.Exact ⟨ring, written, []⟩

variable {meets : Record → Prop} {r : Ring256} {ring : RingBuffer} {written : List ReadRecord}
  {buffer : Bytes} {length : UInt16}

/-- New rings. -/
lemma shows_new {fresh : RingBuffer} (hnew : RingBuffer.new 256 = .ok fresh) :
    new.Shows meets fresh [] := by
  refine ⟨mirrors_new hnew, (RingBuffer.represents_new hnew).1, rfl, by simp, fun _ => ?_⟩
  have hlog : EvictionLog.new 256 = .ok ⟨fresh, [], []⟩ := by
    rw [EvictionLog.new, hnew]
    rfl
  exact EvictionLog.exact_new hlog

/-- The tables have room for a record that overflows none of them. The number of the record does not
matter for that. -/
lemma Mirrors.roomFor_of_encodable (h : r.Mirrors ring) (hrep : ring.Represents written)
    {record : Record} (hencodable : record.Encodable true)
    (hlength : (record.bytes true).length = length.toNat) (hle : length.toNat ≤ 256)
    (hover : r.overflows length = false) :
    r.RoomFor length ∧ length ≠ 0 ∧ length ≤ 256 := by
  have hsize : ({ record with seq := 0 }.bytes true).length = length.toNat := by
    rw [← hlength, length_bytes, length_bytes]
    rfl
  have hencode : ({ record with seq := 0 } : Record).encode true =
      .ok ({ record with seq := 0 }.bytes true) :=
    encode_of_encodable ⟨hencodable.payload_le, hencodable.total_le⟩
  have hleast : 44 ≤ length.toNat := by
    rw [← hlength, length_bytes, Record.encodedLen, if_pos rfl, HEADER_LEN, CRC_LEN]
    omega
  let call : EncodedCall := {
    record := { record with seq := 0 }
    input := ⟨({ record with seq := 0 }.bytes true ++
      List.replicate (256 - length.toNat) 0).toArray, by
        rw [List.size_toArray, List.length_append, hsize, List.length_replicate]
        omega⟩
    length := length
    encodes := by
      rw [hencode, Vector.toList]
      exact congrArg Outcome.ok (List.take_left' hsize).symm
    bounds := ⟨UInt16.le_iff_toNat_le.mpr hleast, UInt16.le_iff_toNat_le.mpr hle⟩
    seq_lt := show (0 : UInt64).toNat < _ by decide }
  have hcall : (r.apply call).lossRangeOverflow = false := by
    rw [apply, lossRangeOverflow_call]
    exact hover
  exact ⟨(h.roomFor hrep hcall).1, call.length_valid⟩

/-- **A record that is handed over** is the next of the history. -/
lemma Shows.write (h : r.Shows meets ring written) (entry : Published)
    (hbytes : entry.bytes = buffer.take length.toNat) (hlength : length.toNat ≤ buffer.length)
    (hcarries : entry.Carries meets)
    (hover : (r.call true buffer length entry.runId entry.sourceId entry.seq).lossRangeOverflow =
      false) : ∃ ring' w, (r.call true buffer length entry.runId entry.sourceId entry.seq).Shows
        meets ring' (written ++ [w]) := by
  obtain ⟨record, hencodable, hrecord, hle, hrun, hsource, hseq, hflag, hmeets⟩ := hcarries
  rw [← hrun, ← hsource, ← hseq] at hover ⊢
  rw [hbytes] at hrecord hle
  have htake : (buffer.take length.toNat).length = length.toNat := by
    rw [List.length_take, Nat.min_eq_left hlength]
  rw [htake] at hle
  rw [lossRangeOverflow_call] at hover
  obtain ⟨hroom, hvalid⟩ := h.mirrors.roomFor_of_encodable h.represents hencodable
    (by rw [hrecord, htake]) hle hover
  have haccepts : r.accepts length = true := accepts_iff.mpr ⟨hvalid, hroom⟩
  obtain ⟨ring', hwrite, hmirrors⟩ := h.mirrors.call hencodable hrecord htake hvalid hroom
  have hrep : ring'.Represents (written ++ [⟨r.recordStartAbs length,
      r.recordStartAbs length + length.toNat, record⟩]) := by
    rcases h.represents.writeRecord record with
      ⟨ring'', start, stop, hwrite', -, -, -, -, -, -, hrep'⟩ | ⟨-, e, hreject⟩
    · rw [hwrite] at hwrite'
      cases hwrite'
      exact hrep'
    · rw [hwrite] at hreject
      cases hreject
  refine ⟨ring', _, hmirrors, hrep, ?_, fun w hw => ?_, fun hbound => ?_⟩
  · rw [written_call, if_pos haccepts, h.written_eq, List.map_append, ← hrecord]
    rfl
  · rcases List.mem_append.mp hw with hold | hlast
    · exact h.records w hold
    · rw [List.mem_singleton.mp hlast]
      exact ⟨congrArg (ReadRecord.mk _ _) hflag, hmeets⟩
  · have hfits : (record.bytes true).length ≤ ring.capacity := by
      rw [hrecord, htake, h.mirrors.capacity]
      exact hle
    obtain ⟨ring'', start, stop, hwrite', hexact⟩ :=
      (h.losses fun w hw => hbound w (List.mem_append_left _ hw)).accept hencodable hfits
        (hbound _ (List.mem_append_right _ List.mem_cons_self))
    rw [hwrite] at hwrite'
    cases hwrite'
    exact hexact

/-- **Operations** extend the history. -/
lemma Shows.fed {inputs : Inputs} {store next : Store} (h : store.ring.Shows meets ring written)
    (hfed : Store.Fed inputs (Published.Carries meets) store next)
    (hover : next.ring.lossRangeOverflow = false) :
    ∃ ring' more, next.ring.Shows meets ring' (written ++ more) := by
  induction hfed with
  | refl => exact ⟨ring, [], by rwa [List.append_nil]⟩
  | @publish next eventTypeId runId sourceId seq encoded hfed hlength hmeets ih =>
    have hring : (next.publish inputs eventTypeId runId sourceId seq encoded).ring =
        next.ring.call true encoded.buffer encoded.length runId sourceId seq := Store.ring_publish
    rw [hring] at hover ⊢
    have hbefore : next.ring.lossRangeOverflow = false := by
      rw [lossRangeOverflow_call] at hover
      by_contra hset
      rw [overflows_of_overflow (by simpa using hset)] at hover
      cases hover
    obtain ⟨ring', more, hshows⟩ := ih hbefore
    obtain ⟨ring'', w, hnext⟩ := hshows.write ⟨inputs, eventTypeId, runId, sourceId, seq,
      encoded.buffer.take encoded.length.toNat⟩ rfl hlength hmeets hover
    exact ⟨ring'', more ++ [w], by rwa [← List.append_assoc]⟩

end Ring256

/-! ## Images -/

namespace Producer

variable {arith : RealArith} {inputs : Inputs} {p p' q : Producer} {meets : Record → Prop}
  {ring : RingBuffer} {written : List ReadRecord}

/-- What the capture blocks copy out of a producer: its ring and the control fields. -/
def image (p : Producer) : CapturedImage where
  ringBytes := p.outputs.ring
  control := {
    headAbs := p.outputs.headAbs
    oldestAbs := p.outputs.oldestAbs
    lostCount := p.outputs.lostCount
    runId := p.runId
    epochId := p.epochId
    epochFirstAbs := p.epochFirstAbs
    definitionHash := p.definitionHash.toList
    prevDefinitionHash := p.prevDefinitionHash.toList }

/-- The state of a producer whose image shows a history. -/
structure Shows (meets : Record → Prop) (p : Producer) (ring : RingBuffer)
    (written : List ReadRecord) : Prop where
  ring : p.store.ring.Shows meets ring written
  outputs : p.outputs = p.store.ring.outputs

/-- The producer before its first call. -/
lemma shows_init {fresh : RingBuffer} (hnew : RingBuffer.new 256 = .ok fresh) :
    init.Shows meets fresh [] := ⟨Ring256.shows_new hnew, rfl⟩

/-- **A call** extends the history. -/
lemma Shows.call (h : p.Shows meets ring written)
    (hle : ∀ record, Record.Truthful record → meets record) (hstaged : p.StagesOnly meets inputs)
    (hcall : p.call arith inputs = some p') (hover : p'.store.ring.lossRangeOverflow = false) :
    ∃ ring' more, p'.Shows meets ring' (written ++ more) := by
  have houtputs := outputs_call h.outputs hcall
  have hring : (p.enter inputs).store.ring = p.store.ring := by
    rw [show (p.enter inputs).store = _ from congrArg Core.store core_enter]
    split_ifs <;> rfl
  obtain ⟨q, rfl, hq⟩ := call_cases hcall
  have hentered : (p.enter inputs).store.ring.Shows meets ring written := hring ▸ h.ring
  rcases hq with ⟨-, rfl⟩ | ⟨-, hop⟩
  · exact ⟨ring, [], by rwa [List.append_nil], houtputs⟩
  · obtain ⟨ring', more, hshows⟩ := hentered.fed (fed_records hle hstaged hop) hover
    exact ⟨ring', more, hshows, houtputs⟩

/-- **A run** extends the history. -/
lemma Shows.runs (h : q.Shows meets ring written)
    (hle : ∀ record, Record.Truthful record → meets record)
    (hrun : Runs (step arith) (StagesOnly meets) q p)
    (hover : p.store.ring.lossRangeOverflow = false) :
    ∃ ring' more, p.Shows meets ring' (written ++ more) := by
  induction hrun with
  | start => exact ⟨ring, [], by rwa [List.append_nil]⟩
  | step hrun hguard hstep ih =>
    obtain ⟨ring', more, hshows⟩ := ih ((store_call hstep).2 hover)
    obtain ⟨ring'', more', hnext⟩ := hshows.call hle hguard hstep hover
    exact ⟨ring'', more ++ more', by rwa [← List.append_assoc]⟩

/-- In every run the outputs are those of the ring. -/
lemma outputs_runs {guard : Producer → Inputs → Prop} (hrun : Runs (step arith) guard init p) :
    p.outputs = p.store.ring.outputs :=
  hrun.invariant (P := fun q => q.outputs = q.store.ring.outputs) rfl
    fun _ _ _ hq _ hstep => outputs_call hq hstep

/-- Once the table of loss ranges has overflowed, it stays so. -/
lemma overflow_runs {guard : Producer → Inputs → Prop} (hrun : Runs (step arith) guard q p)
    (hover : p.store.ring.lossRangeOverflow = false) : q.store.ring.lossRangeOverflow = false := by
  induction hrun with
  | start => exact hover
  | step _ _ hstep ih => exact ih ((store_call hstep).2 hover)

/-- The positions of an image are those of the byte-pool ring. -/
lemma Shows.headAbs (h : p.Shows meets ring written) : p.image.control.headAbs = ring.headAbs :=
  (congrArg RingOutputs.headAbs h.outputs).trans h.ring.mirrors.headAbs

lemma Shows.oldestAbs (h : p.Shows meets ring written) :
    p.image.control.oldestAbs = ring.oldestAbs :=
  (congrArg RingOutputs.oldestAbs h.outputs).trans h.ring.mirrors.oldestAbs

lemma Shows.lostCount (h : p.Shows meets ring written) :
    p.image.control.lostCount = ring.lostCount :=
  (congrArg RingOutputs.lostCount h.outputs).trans h.ring.mirrors.lostCount

/-- The ring that a reader builds of an image. -/
lemma Shows.fromCaptured (h : p.Shows meets ring written) :
    RingBuffer.fromCaptured p.image.ringBytes p.image.control.headAbs p.image.control.oldestAbs
      p.image.control.lostCount =
        .ok ⟨ring.bytes, ring.headAbs, ring.oldestAbs, ring.lostCount, 0, [], []⟩ := by
  have hbytes : p.image.ringBytes = ring.bytes :=
    (congrArg RingOutputs.ring h.outputs).trans h.ring.mirrors.bytes
  have hlength : ring.bytes.length = ring.capacity := rfl
  have hpos := h.ring.represents.capacity_pos
  obtain ⟨hordered, hwindow⟩ := h.ring.represents.window
  rw [hbytes, h.headAbs, h.oldestAbs, h.lostCount, RingBuffer.fromCaptured, if_neg (by omega),
    if_neg (by omega), if_neg (by omega)]

/-- **What a reader finds in an image**, from a position of the log. -/
lemma Shows.read (h : p.Shows meets ring written) {cursor : ℕ} {rest : List (Entry UInt8)}
    (hat : At (logOf written) cursor rest) :
    ∃ image, RingBuffer.fromCaptured p.image.ringBytes p.image.control.headAbs
        p.image.control.oldestAbs p.image.control.lostCount = .ok image ∧
      image.readRawFromSnapshot cursor (p.image.control.toSnapshot S4A_CAPTURE_CAPACITY) =
        ring.readRawFrom cursor := by
  refine ⟨_, h.fromCaptured, ?_⟩
  obtain ⟨⟨⟨-, hcapacity, hhead, holdest, -⟩, hrep, -⟩, houtputs⟩ := h
  set captured : RingBuffer := ⟨ring.bytes, ring.headAbs, ring.oldestAbs, ring.lostCount, 0, [], []⟩
  have hsize : (p.image.control.toSnapshot S4A_CAPTURE_CAPACITY).bufferBytes.toNat =
      captured.capacity := (show (256 : ℕ) = ring.capacity from hcapacity.symm)
  have hlater : ring.Represents (written ++ []) := by rwa [List.append_nil]
  have hread : captured.readRawWindow cursor ring.headAbs ring.oldestAbs ring.oldestAbs =
      ring.readRawFrom cursor := hrep.readRawWindow_shown hlater rfl hat (Nat.le_max_right _ _)
  rw [RingBuffer.readRawFromSnapshot, if_neg (not_not.mpr hsize), ← hread]
  simp only [CapturedControlFields.toSnapshot, image, houtputs, Ring256.outputs, hhead, holdest]

/-- The records that a reader finds are those that the ring has taken. -/
lemma Shows.taken (h : p.Shows meets ring written) (first : ℕ) :
    ((written.filter fun w => decide (first ≤ w.startAbs)).map ReadRecord.delivered).map
        ReadRecord.ringWrite =
      p.store.ring.written.filter fun write => decide (first ≤ write.startAbs) := by
  rw [h.ring.written_eq, List.filter_map, List.map_map]
  refine List.map_congr_left fun w hw => ?_
  rw [Function.comp_apply, (h.ring.records w (List.mem_filter.mp hw).1).1]

end Producer

/-- **The image is read back.** In every run of calls, each of which stages an encoded record under
its own numbers if it stages any, and which does not overflow the table of loss ranges: a reader that
comes to the image of the controller with a cursor of zero, or of the head of an earlier image,
accepts it, and finds exactly the records that the ring has taken from the cursor on and has not
overwritten, in their order, each with the bytes, the run, the source and the number under which it
was handed over. It resumes at the head, and is told whether it has been lapped; the records that
are not retained are those that the loss count counts. -/
theorem captured_ring_read_back {arith : RealArith} {p : Producer}
    (hrun : Runs (Producer.step arith) (Producer.StagesOnly fun _ => True) Producer.init p)
    (hover : p.outputs.lossRangeOverflow = false) (cursor : ℕ)
    (hcursor : cursor = 0 ∨ ∃ q,
      Runs (Producer.step arith) (Producer.StagesOnly fun _ => True) Producer.init q ∧
      Runs (Producer.step arith) (Producer.StagesOnly fun _ => True) q p ∧
      cursor = q.image.control.headAbs) :
    let control := p.image.control
    ∃ ring batch, RingBuffer.fromCaptured p.image.ringBytes control.headAbs control.oldestAbs
        control.lostCount = .ok ring ∧
      ring.readRawFromSnapshot cursor (control.toSnapshot S4A_CAPTURE_CAPACITY) = .ok batch ∧
      batch.records.map ReadRecord.ringWrite = (p.store.ring.written.filter fun write =>
        decide (max cursor control.oldestAbs ≤ write.startAbs)) ∧
      (∀ r ∈ batch.records, r.endAbs = r.startAbs + (r.record.bytes true).length) ∧
      batch.nextAbs = control.headAbs ∧ batch.lapped = decide (cursor < control.oldestAbs) ∧
      control.lostCount + (p.store.ring.written.filter fun write =>
        decide (control.oldestAbs ≤ write.startAbs)).length = p.store.ring.written.length := by
  obtain ⟨fresh, hnew⟩ : ∃ fresh, RingBuffer.new 256 = .ok fresh := ⟨_, rfl⟩
  have houtputs := Producer.outputs_runs hrun
  have hflag : p.store.ring.lossRangeOverflow = false := by
    rw [houtputs] at hover
    exact hover
  -- the cursor is a position of the log of a byte-pool ring that the image shows
  obtain ⟨ring, written, hshows, rest, hat⟩ : ∃ ring written,
      p.Shows (fun _ => True) ring written ∧ ∃ rest, At (logOf written) cursor rest := by
    rcases hcursor with rfl | ⟨q, hbefore, hafter, rfl⟩
    · obtain ⟨ring, written, hshows⟩ := (Producer.shows_init hnew).runs (by simp) hrun hflag
      exact ⟨ring, _, hshows, _, At.zero _⟩
    · have hq : q.store.ring.lossRangeOverflow = false := Producer.overflow_runs hafter hflag
      obtain ⟨ring, written, hshows⟩ := (Producer.shows_init hnew).runs (by simp) hbefore hq
      obtain ⟨ring', more, hlater⟩ := hshows.runs (by simp) hafter hflag
      refine ⟨ring', _, hlater, logOf more, ?_⟩
      rw [logOf, List.map_append, show q.image.control.headAbs = _ from hshows.headAbs]
      rw [hshows.ring.represents.head]
      exact At.headOf_append _ _
  obtain ⟨captured, hcaptured, hread⟩ := hshows.read hat
  rw [hshows.ring.represents.readRawFrom hat] at hread
  have hrep := hshows.ring.represents
  have hhead : p.image.control.headAbs = ring.headAbs := hshows.headAbs
  have holdest : p.image.control.oldestAbs = ring.oldestAbs := hshows.oldestAbs
  have hfilter : ((retained ring.headAbs ring.capacity written).filter fun w =>
      decide (cursor ≤ w.startAbs)) = written.filter fun w =>
        decide (max cursor ring.oldestAbs ≤ w.startAbs) := by
    rw [hrep.retained_eq, List.filter_filter]
    refine List.filter_congr fun w _ => ?_
    rw [← Bool.decide_and, decide_eq_decide]
    omega
  rw [hfilter] at hread
  refine ⟨captured, _, hcaptured, hread, ?_, ?_, hhead.symm, by rw [holdest], ?_⟩
  · rw [hshows.taken, holdest]
  · intro r hr
    obtain ⟨w, hw, rfl⟩ := List.mem_map.mp hr
    have hmem := (List.mem_filter.mp hw).1
    rw [(hshows.ring.records w hmem).1]
    exact (hrep.spans w hmem).endAbs_eq
  · have hlost := hrep.lost
    rw [hrep.index_eq, List.length_map, hrep.retained_eq] at hlost
    rw [holdest, ← hshows.taken, List.length_map, List.length_map, hshows.ring.written_eq,
      List.length_map, ← hlost]
    rw [show p.image.control.lostCount = _ from hshows.lostCount]

/-- A call that stages nothing. -/
lemma Producer.stagesOnly_of_ne {meets : Record → Prop} {p : Producer} {inputs : Inputs}
    (h : inputs.op ≠ 5) : p.StagesOnly meets inputs := fun _ hop => absurd hop h

/-- Two messages, and behind them a transition and a message of the new run: a reader that has read
the two messages has been lapped by then. -/
theorem captured_ring_read_back_lapped : ∃ (p : Producer) (ring : RingBuffer) (batch : ReadBatch),
    ring.readRawFromSnapshot 104 (p.image.control.toSnapshot S4A_CAPTURE_CAPACITY) = .ok batch ∧
      batch.records.map (fun r => r.ringWrite.startAbs) = [256, 336, 388] ∧
      batch.lapped = true := by
  let messages : List Inputs := [{ sourceId := 5 }, { sourceId := 5 }].flatMap pulse
  let later : List Inputs := [{ op := 1 }, { op := 2 }, { op := 4 }, { sourceId := 5 }].flatMap pulse
  have hmap : (follow (Producer.step noReals) (fun _ inputs => inputs.op ≠ 5) messages
      Producer.init).bind (fun q => (follow (Producer.step noReals) (fun _ inputs => inputs.op ≠ 5)
        later q).map fun p => (q.image.control.headAbs, p.outputs.lossRangeOverflow,
          p.image.control.oldestAbs, p.store.ring.written.map (·.startAbs))) =
            some (104, false, 256, [0, 52, 104, 148, 256, 336, 388]) := by
    decide +kernel
  obtain ⟨q, hbefore, hmap⟩ := Option.bind_eq_some_iff.mp hmap
  obtain ⟨p, hafter, hvalues⟩ := Option.map_eq_some_iff.mp hmap
  simp only [Prod.mk.injEq] at hvalues
  obtain ⟨hcursor, hover, holdest, hstarts⟩ := hvalues
  have hguard : ∀ (s : Producer) (inputs : Inputs), inputs.op ≠ 5 →
      s.StagesOnly (fun _ => True) inputs := fun _ _ => Producer.stagesOnly_of_ne
  have hrunq := (Runs.start.of_follow hbefore).mono hguard
  have hrunp := (Runs.start.of_follow hafter).mono hguard
  obtain ⟨ring, batch, -, hread, hrecords, -, -, hlapped, -⟩ :=
    captured_ring_read_back (((Runs.start.of_follow hbefore).of_follow hafter).mono hguard) hover
      104 (.inr ⟨q, hrunq, hrunp, hcursor.symm⟩)
  refine ⟨p, ring, batch, hread, ?_, hlapped.trans (by rw [holdest]; rfl)⟩
  have hmapped := congrArg (List.map fun write : RingWrite => write.startAbs) hrecords
  rw [List.map_map, holdest] at hmapped
  refine hmapped.trans ?_
  change (p.store.ring.written.filter ((fun n => decide (max 104 256 ≤ n)) ∘
    fun write => write.startAbs)).map _ = _
  rw [← List.filter_map, hstarts]
  rfl

end St

end OpenOT
