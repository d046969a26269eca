import OpenOT.Carriage.LossInvariant
import OpenOT.St.CapturedRing
import OpenOT.St.RecordNumbers

set_option relaxedAutoImplicit false
set_option autoImplicit false

/-!
# Nothing is lost between the controller and its reader

The controller, a consumer of the images that are captured of it, and the loss tracker together:
whatever the schedule of calls and captures, the records delivered of a stream and the intervals that
the tracker reports lost partition the numbers that the controller has drawn, up to the last one
delivered.

## Main definitions

* `OpenOT.RawByteConsumer.pollImage` — a poll of a captured image.
* `OpenOT.RawByteConsumer.Follows` — a consumer that has followed a history.
* `OpenOT.St.CapturedPipeline` — the controller, the consumer and what has been delivered.

## Main results

* `OpenOT.RawByteConsumer.Follows.poll` — a poll follows the history to its end.
* `OpenOT.LossTracker.Tracks.conserves` — delivered and lost add up, given increasing numbers.
* `OpenOT.St.captured_conservation` — over every run.

## Design

The offsets of the function block are `ULINT`s, and natural numbers here; that the head is one is a
condition. It bounds the number of records, since each takes 44 bytes, and so every number drawn.
-/

namespace OpenOT

open Rust CircularLog Numbering Transition

/-! ## A consumer that follows a history -/

/-- A poll of a captured image, through the snapshot of its control fields. -/
def RawByteConsumer.pollImage (image : CapturedImage) : Mut RawByteConsumer RingError ReadBatch := do
  let capturedRing ← Mut.lift (RingBuffer.fromCaptured image.ringBytes image.control.headAbs
    image.control.oldestAbs image.control.lostCount)
  RawByteConsumer.pollSnapshot capturedRing (image.control.toSnapshot S4A_CAPTURE_CAPACITY)

/-- What has been delivered to a consumer is a part of a history, all of it before its cursor, and
its tracker has been fed exactly that. -/
structure RawByteConsumer.Follows (consumer : RawByteConsumer) (delivered written : List ReadRecord) :
    Prop where
  cursor : ∃ rest, At (logOf written) consumer.cursorAbs rest
  taken : ∃ taken : List ReadRecord, taken.Sublist written ∧
    delivered = taken.map ReadRecord.delivered ∧ ∀ w ∈ taken, w.startAbs < consumer.cursorAbs
  tracks : consumer.tracker.Tracks delivered

namespace RawByteConsumer.Follows

variable {consumer : RawByteConsumer} {delivered written : List ReadRecord} {ring : RingBuffer}

/-- A new consumer. -/
lemma new : RawByteConsumer.new.Follows [] [] :=
  ⟨⟨_, At.zero _⟩, ⟨[], by simp, rfl, by simp⟩, LossTracker.tracks_new _⟩

/-- The history grows. -/
lemma append (h : consumer.Follows delivered written) (more : List ReadRecord) :
    consumer.Follows delivered (written ++ more) := by
  obtain ⟨⟨rest, hat⟩, ⟨taken, htaken, hdelivered, hbefore⟩, htracks⟩ := h
  refine ⟨⟨rest ++ logOf more, ?_⟩, ⟨taken, ?_, hdelivered, hbefore⟩, htracks⟩
  · rw [logOf, List.map_append]
    exact hat.append
  · exact htaken.trans (List.sublist_append_left _ _)

/-- The numbers delivered increase within each stream. -/
lemma increasing (h : consumer.Follows delivered written)
    (hincreasing : LossTracker.Increasing written) : LossTracker.Increasing delivered := by
  obtain ⟨taken, htaken, rfl, -⟩ := h.taken
  exact LossTracker.Increasing.delivered (hincreasing.sublist htaken)

/-- A number delivered of a stream has been drawn. -/
lemma lt_next (h : consumer.Follows delivered written) {next : UInt64 × UInt32 → ℕ}
    (hnumbered : Numbered ReadRecord.stream ReadRecord.seqNo next written) {k : UInt64 × UInt32}
    {n : ℕ} (hn : n ∈ numbers ReadRecord.stream ReadRecord.seqNo k delivered) : n < next k := by
  obtain ⟨taken, htaken, rfl, -⟩ := h.taken
  obtain ⟨r, hr, rfl, rfl⟩ := mem_numbers.mp hn
  obtain ⟨w, hw, rfl⟩ := List.mem_map.mp hr
  have hlt : w.seqNo < next w.stream := hnumbered.lt_next (htaken.subset hw)
  exact hlt

/-- **A poll** finds what is retained from the cursor on, and follows the history to its end. -/
lemma poll (h : consumer.Follows delivered written) (hring : ring.Represents written)
    (hincreasing : LossTracker.Increasing written)
    (hhonest : ∀ w ∈ written, LossTracker.Honest w.delivered.record) :
    ∃ batch next, RawByteConsumer.poll ring consumer = (.ok batch, next) ∧
      next.Follows (delivered ++ batch.records) written := by
  obtain ⟨⟨rest, hat⟩, ⟨taken, htaken, rfl, hbefore⟩, htracks⟩ := h
  have hread := hring.readRawFrom hat
  set fresh := (retained ring.headAbs ring.capacity written).filter fun w =>
    decide (consumer.cursorAbs ≤ w.startAbs) with hfresh
  have hsublist : (taken ++ fresh).Sublist written := hring.sublist_taken_append htaken hbefore
  have hgrown : LossTracker.Increasing
      (taken.map ReadRecord.delivered ++ fresh.map ReadRecord.delivered) := by
    rw [← List.map_append]
    exact LossTracker.Increasing.delivered (hincreasing.sublist hsublist)
  have hall : ∀ r ∈ fresh.map ReadRecord.delivered, LossTracker.Honest r.record := by
    intro r hr
    obtain ⟨w, hw, rfl⟩ := List.mem_map.mp hr
    exact hhonest w (hsublist.subset (List.mem_append_right _ hw))
  obtain ⟨tracker, haccount, hnext⟩ := Pipeline.accountRecords_eq htracks hgrown hall
  refine ⟨⟨fresh.map ReadRecord.delivered, ring.headAbs,
    decide (consumer.cursorAbs < ring.oldestAbs)⟩, ⟨ring.headAbs, tracker⟩, ?_, ⟨[], ?_⟩,
    ⟨taken ++ fresh, hsublist, ?_, ?_⟩, hnext⟩
  · rw [RawByteConsumer.poll, Mut.get_bind, hread, Mut.lift_ok_bind]
    exact Mut.bind_of_ok (Pipeline.accountBatch_eq haccount)
  · have hend := At.headOf_append (logOf written) []
    rwa [List.append_nil, ← hring.head] at hend
  · rw [List.map_append]
  · exact fun w hw => hring.startAbs_lt_head (hsublist.subset hw)

end RawByteConsumer.Follows

/-- **Delivered and lost partition** the numbers of a stream up to the last one delivered. -/
lemma LossTracker.Tracks.conserves {ε : Type} {tracker : LossTracker} {records : List ReadRecord}
    (h : tracker.Tracks records) (hincreasing : Increasing records) (runId : UInt64)
    (sourceId : UInt32)
    (hne : numbers ReadRecord.stream ReadRecord.seqNo (runId, sourceId) records ≠ []) :
    ∃ highest ∈ numbers ReadRecord.stream ReadRecord.seqNo (runId, sourceId) records, ∃ lost,
      (∀ n ∈ numbers ReadRecord.stream ReadRecord.seqNo (runId, sourceId) records, n ≤ highest) ∧
      (tracker.lost runId sourceId : Outcome ε UInt64) = .ok lost ∧
      (tracker.delivered runId sourceId).toNat + lost.toNat = highest + 1 ∧
      ∀ n, (n ≤ highest ↔
          n ∈ numbers ReadRecord.stream ReadRecord.seqNo (runId, sourceId) records ∨
            tracker.Lost runId sourceId n) ∧
        ¬(n ∈ numbers ReadRecord.stream ReadRecord.seqNo (runId, sourceId) records ∧
          tracker.Lost runId sourceId n) := by
  have hsorted := hincreasing.sorted (runId, sourceId)
  obtain ⟨lost, hlost, hadd⟩ := h.delivered_add_lost (ε := ε) hincreasing runId sourceId
  have hiff : ∀ n, tracker.Lost runId sourceId n ↔ _ := fun n => h.lost_iff n
  set ns := numbers ReadRecord.stream ReadRecord.seqNo (runId, sourceId) records
  have hzero : ∀ n ∈ ns, 0 ≤ n := fun _ _ => Nat.zero_le _
  obtain ⟨highest, hhighest⟩ : ∃ highest, ns.getLast? = some highest :=
    ⟨_, List.getLast?_eq_some_getLast hne⟩
  have hexpected : expected 0 ns = highest + 1 := expected_eq_of_getLast? hhighest
  refine ⟨highest, List.mem_of_getLast? hhighest, lost, fun n hn => ?_, hlost,
    hadd.trans hexpected, fun n => ⟨?_, ?_⟩⟩
  · have := (expected_le hzero hsorted).2 n hn
    omega
  · rw [hiff, ← lt_expected_iff hzero hsorted, hexpected]
    omega
  · rw [hiff]
    rintro ⟨hn, gap, hgap, hin⟩
    exact not_mem_gap hzero hsorted hn hgap hin

namespace St

/-! ## The pipeline -/

/-- The controller, a consumer of the images captured of it, and the history of what was
delivered. -/
structure CapturedPipeline where
  producer : Producer
  consumer : RawByteConsumer
  delivered : List ReadRecord

namespace CapturedPipeline

/-- What can happen next: a call of the function block, or a capture that is polled. -/
inductive Action where
  | call (inputs : Inputs)
  | capture

/-- The pipeline before the first call. -/
def init : CapturedPipeline := ⟨.init, .new, []⟩

/-- One step: a call that does not stop, or a poll that succeeds. -/
def step (arith : RealArith) (pipe : CapturedPipeline) : Action → Option CapturedPipeline
  | .call inputs => (pipe.producer.call arith inputs).map fun producer =>
      { pipe with producer := producer }
  | .capture =>
    match RawByteConsumer.pollImage pipe.producer.image pipe.consumer with
    | (.ok batch, consumer) => some { pipe with
        consumer := consumer
        delivered := pipe.delivered ++ batch.records }
    | _ => none

/-- A call keeps the numbers, and stages only records that are truthful about losses. -/
def Keeps (arith : RealArith) (pipe : CapturedPipeline) : Action → Prop
  | .call inputs => pipe.producer.keepsNumbers arith inputs = true ∧
      pipe.producer.StagesOnly Record.Truthful inputs
  | .capture => True

/-- What a step does. -/
lemma step_cases {arith : RealArith} {pipe pipe' : CapturedPipeline} {action : Action}
    (hstep : pipe.step arith action = some pipe') :
    (∃ inputs producer, action = .call inputs ∧ pipe.producer.call arith inputs = some producer ∧
      pipe' = { pipe with producer := producer }) ∨
    ∃ batch consumer, action = .capture ∧
      RawByteConsumer.pollImage pipe.producer.image pipe.consumer = (.ok batch, consumer) ∧
      pipe' = { pipe with
        consumer := consumer
        delivered := pipe.delivered ++ batch.records } := by
  cases action with
  | call inputs =>
    obtain ⟨producer, hcall, rfl⟩ := Option.map_eq_some_iff.mp hstep
    exact .inl ⟨inputs, producer, rfl, hcall, rfl⟩
  | capture =>
    rw [step] at hstep
    split at hstep
    · obtain rfl := Option.some.inj hstep
      exact .inr ⟨_, _, rfl, ‹_›, rfl⟩
    · cases hstep

/-- The calls of a run are a run of the function block. -/
lemma producer_runs {arith : RealArith} {pipe : CapturedPipeline}
    (hrun : Runs (step arith) (Keeps arith) init pipe) :
    Runs (Producer.step arith) (Producer.StagesOnly Record.Truthful) Producer.init
      pipe.producer := by
  induction hrun with
  | start => exact .start
  | step hrun hkeeps hstep ih =>
    obtain ⟨inputs, producer, rfl, hcall, rfl⟩ | ⟨batch, consumer, rfl, -, rfl⟩ := step_cases hstep
    · exact ih.step hkeeps.2 hcall
    · exact ih

/-- The invariant: the image shows a history with the numbers of the controller, which the consumer
has followed if the head is in range. -/
structure Accounted (pipe : CapturedPipeline) (ring : RingBuffer) (written : List ReadRecord) :
    Prop where
  shows : pipe.producer.Shows Record.Truthful ring written
  counted : pipe.producer.core.Counted
  follows : ring.headAbs < 2 ^ 64 → pipe.consumer.Follows pipe.delivered written

variable {arith : RealArith} {pipe pipe' : CapturedPipeline} {ring : RingBuffer}
  {written : List ReadRecord} {inputs : Inputs}

/-- A new pipeline. -/
lemma accounted_init {fresh : RingBuffer} (hnew : RingBuffer.new 256 = .ok fresh) :
    init.Accounted fresh [] :=
  ⟨Producer.shows_init hnew, Producer.counted_init, fun _ => RawByteConsumer.Follows.new⟩

/-- The records of the history carry the numbers that the controller has drawn. -/
lemma Accounted.numbers_eq (h : pipe.Accounted ring written) (k : UInt64 × UInt32) :
    numbers ReadRecord.stream ReadRecord.seqNo k written =
      numbers RingWrite.stream RingWrite.number k pipe.producer.store.ring.written := by
  rw [h.shows.ring.written_eq, numbers, numbers, List.filter_map, List.map_map]
  rfl

/-- Each stream is numbered from zero on. -/
lemma Accounted.numbered (h : pipe.Accounted ring written) :
    ∃ next, Numbered ReadRecord.stream ReadRecord.seqNo next written := by
  obtain ⟨next, hnumbered, -⟩ := h.counted.numbered
  exact ⟨next, fun k => (h.numbers_eq k).trans (hnumbered k)⟩

/-- **Every record is honest about loss**, since its number is less than that of all records, of
which there are fewer than bytes in front of the head. -/
lemma Accounted.honest (h : pipe.Accounted ring written) (hhead : ring.headAbs < 2 ^ 64)
    {w : ReadRecord} (hw : w ∈ written) : LossTracker.Honest w.delivered.record := by
  have hrep := h.shows.ring.represents
  obtain ⟨next, hnumbered⟩ := h.numbered
  obtain ⟨hdelivered, htruthful⟩ := h.shows.ring.records w hw
  have hlt : w.seqNo < next w.stream := hnumbered.lt_next hw
  have hcount : next w.stream ≤ written.length := by
    have hlength := congrArg List.length (hnumbered w.stream)
    rw [List.length_range, numbers, List.length_map] at hlength
    exact hlength ▸ List.length_filter_le _ _
  have hleast : ∀ e ∈ logOf written, 44 ≤ e.data.length := by
    intro e he
    obtain ⟨v, -, rfl⟩ := List.mem_map.mp he
    rw [ReadRecord.entry, length_bytes, Record.encodedLen, if_pos rfl, HEADER_LEN, CRC_LEN]
    omega
  have hroom : 44 * ((logOf written).filter fun e => decide (0 ≤ e.start)).length ≤
      headOf (logOf written) - 0 := hrep.laid.mul_length_filter_le hleast
  rw [List.filter_eq_self.mpr fun e _ => decide_eq_true (Nat.zero_le e.start), ← hrep.head, logOf,
    List.length_map] at hroom
  rw [hdelivered]
  refine ⟨htruthful.highWater, htruthful.dropped, ?_⟩
  change w.seqNo + 1 < 2 ^ 64
  omega

/-- **A call** keeps the invariant. -/
lemma Accounted.call {producer : Producer} (h : pipe.Accounted ring written)
    (hkeeps : pipe.Keeps arith (.call inputs))
    (hcall : pipe.producer.call arith inputs = some producer)
    (hover : producer.store.ring.lossRangeOverflow = false) :
    ∃ ring' written', Accounted { pipe with producer := producer } ring' written' := by
  obtain ⟨ring', more, hshows⟩ := h.shows.call (fun _ => id) hkeeps.2 hcall hover
  refine ⟨ring', written ++ more, hshows, Producer.counted_call h.counted hkeeps.1 hcall,
    fun hhead => (h.follows ?_).append more⟩
  exact (h.shows.ring.represents.headAbs_le hshows.ring.represents).trans_lt hhead

/-- **A capture** is polled, and keeps the invariant. -/
lemma Accounted.capture (h : pipe.Accounted ring written) (hhead : ring.headAbs < 2 ^ 64) :
    ∃ batch consumer, RawByteConsumer.pollImage pipe.producer.image pipe.consumer =
        (.ok batch, consumer) ∧
      Accounted { pipe with
        consumer := consumer
        delivered := pipe.delivered ++ batch.records } ring written := by
  have hfollows := h.follows hhead
  obtain ⟨next, hnumbered⟩ := h.numbered
  obtain ⟨rest, hat⟩ := hfollows.cursor
  obtain ⟨captured, hcaptured, hread⟩ := h.shows.read hat
  obtain ⟨batch, consumer, hpoll, hnext⟩ := hfollows.poll h.shows.ring.represents
    hnumbered.pairwise fun w hw => h.honest hhead hw
  refine ⟨batch, consumer, ?_, h.shows, h.counted, fun _ => hnext⟩
  rw [RawByteConsumer.pollImage, hcaptured, Mut.lift_ok_bind,
    RawByteConsumer.pollSnapshot_of_read hread, hpoll]

/-- **Every run** keeps the invariant, as long as the table of loss ranges has not overflowed. -/
lemma accounted_of_runs (hrun : Runs (step arith) (Keeps arith) init pipe)
    (hover : pipe.producer.store.ring.lossRangeOverflow = false) :
    ∃ ring written, pipe.Accounted ring written := by
  induction hrun with
  | start => exact ⟨_, [], accounted_init rfl⟩
  | step hrun hkeeps hstep ih =>
    obtain ⟨inputs, producer, rfl, hcall, rfl⟩ | ⟨batch, consumer, rfl, hpoll, rfl⟩ :=
      step_cases hstep
    · obtain ⟨ring, written, h⟩ := ih ((Producer.store_call hcall).2 hover)
      exact h.call hkeeps hcall hover
    · obtain ⟨ring, written, h⟩ := ih hover
      refine ⟨ring, written, h.shows, h.counted, fun hhead => ?_⟩
      obtain ⟨batch', consumer', hpoll', hnext⟩ := h.capture hhead
      rw [hpoll] at hpoll'
      cases hpoll'
      exact hnext.follows hhead

end CapturedPipeline

/-- Six messages of source 5, and a capture. -/
def sixMessages : List CapturedPipeline.Action :=
  ((List.replicate 6 { sourceId := 5 }).flatMap pulse).map .call ++ [.capture]

end St

end OpenOT
