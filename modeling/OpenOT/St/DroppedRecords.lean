import OpenOT.St.CapturedRing

set_option relaxedAutoImplicit false
set_option autoImplicit false

/-!
# The loss reports of the controller

The function block that writes a range of lost records as a `RecordsDropped` record, and what the
reader makes of its buffer. The producer lists the ranges that its ring has evicted; a program that
writes each of them with this block reports exactly the evicted records.

## Main definitions

* `OpenOT.St.encodeProducerRecordsDropped` — the function block.
* `OpenOT.St.DroppedOutputs.readBack` — the buffer, decoded and parsed by the reader.

## Main results

* `OpenOT.St.records_dropped_encoder_exact` — the ranges that are written, and those that the reader
  gets back.
* `OpenOT.St.captured_losses_reported` — the reports of the ranges that a producer lists.

## Design

A range that is refused leaves the buffer of the call before, of which no byte lies before `Length`;
here it is blank.
-/

namespace OpenOT

open Rust CircularLog Transition LossTracker

/-- The records that an event reports lost. -/
def LossEvent.members (event : LossEvent) : List (UInt64 × UInt32 × ℕ) :=
  LossRange.members ⟨event.runId, event.sourceId, event.firstSeq, event.lastSeq⟩

namespace St

/-- The run, the source and the number under which the ring has taken a record. -/
def RingWrite.identity (write : RingWrite) : UInt64 × UInt32 × ℕ :=
  (write.runId, write.sourceId, write.seq.toNat)

/-! ## The function block -/

/-- The outputs of the function block. -/
structure DroppedOutputs where
  buffer : Bytes
  length : UInt16
  done : Bool
  error : Bool
  deriving DecidableEq

/-- The outputs for a range that is refused. -/
def DroppedOutputs.refused : DroppedOutputs := ⟨blankBuffer, 0, false, true⟩

/-- `OPENOT_EncodeProducerRecordsDropped`. -/
def encodeProducerRecordsDropped (runId : UInt64) (sourceId : UInt32)
    (firstSeq lastSeq seq sourceTime : UInt64) : Option DroppedOutputs :=
  if lastSeq < firstSeq then some .refused
  else
    let countWide := lastSeq - firstSeq + 1
    if 4294967295 < countWide then some .refused
    else do
      let encoded ← encodeRecord 76 ⟨sourceTime, runId, seq, sourceId⟩ 0x0104 fun pos => do
        let pos ← udintSlot 0x0016 countWide.toUInt32 pos
        let pos ← u64Slot 0x0017 0x07 firstSeq pos
        u64Slot 0x0018 0x07 lastSeq pos
      pure ⟨encoded.buffer, encoded.length, true, false⟩

/-- The report of a range, under a number and a time. -/
def reportRange (range : LossRange) (seq sourceTime : UInt64) : Option DroppedOutputs :=
  encodeProducerRecordsDropped range.runId range.sourceId range.firstSeq range.lastSeq seq
    sourceTime

/-- What the reader makes of the bytes before `Length`. -/
def DroppedOutputs.readBack (outputs : DroppedOutputs) (bufferId : UInt32) :
    Outcome WireError (Option LossEvent) := do
  let decoded ← decode (outputs.buffer.take outputs.length.toNat)
  parseRecordsDropped decoded.record bufferId

/-- The event of a range. -/
def rangeEvent (range : LossRange) (bufferId : UInt32) : LossEvent :=
  ⟨bufferId, range.runId, range.sourceId, range.firstSeq, range.lastSeq,
    range.lastSeq - range.firstSeq + 1, false⟩

variable {range : LossRange} {seq sourceTime : UInt64} {bufferId : UInt32}

/-! ## What is written -/

/-- The count as the block computes it: it wraps for the range of all numbers. -/
lemma toNat_countWide (hle : range.firstSeq ≤ range.lastSeq) :
    (range.lastSeq - range.firstSeq + 1).toNat =
      (range.lastSeq.toNat - range.firstSeq.toNat + 1) % 2 ^ 64 := by
  rw [UInt64.toNat_add, UInt64.toNat_sub_of_le _ _ hle]
  rfl

/-- A range without the last number of `ULINT` has the count of its members. -/
lemma toNat_countWide_of_proper (h : range.Proper) :
    (range.lastSeq - range.firstSeq + 1).toNat = range.members.length := by
  have hle := h.le
  have hbound := h.bound
  rw [toNat_countWide (UInt64.le_iff_toNat_le.mpr hle), Nat.mod_eq_of_lt (by omega),
    LossRange.length_members]
  omega

/-- The record of a report. -/
def reportRecord (range : LossRange) (seq sourceTime : UInt64) : Record :=
  Envelope.record ⟨sourceTime, range.runId, seq, range.sourceId⟩ EVENT_RECORDS_DROPPED
    (droppedSlots (range.lastSeq - range.firstSeq + 1) range)

/-- A range in order whose count fits a `UDINT` is written. -/
lemma reportRange_eq (seq sourceTime : UInt64) (hle : range.firstSeq ≤ range.lastSeq)
    (hcount : (range.lastSeq - range.firstSeq + 1).toNat < 2 ^ 32) :
    ∃ outputs, reportRange range seq sourceTime = some outputs ∧ outputs.done = true ∧
      outputs.error = false ∧
      outputs.buffer.take outputs.length.toNat = (reportRecord range seq sourceTime).bytes true := by
  set countWide := range.lastSeq - range.firstSeq + 1 with hwide
  have hslots : droppedSlots countWide range = [udintField KEY_DROPPED_COUNT countWide.toUInt32] ++
      ([longField KEY_FIRST_LOST_SEQ TY_ULINT range.firstSeq] ++
        [longField KEY_LAST_LOST_SEQ TY_ULINT range.lastSeq]) := by
    simp [droppedSlots, udintField, longField]
  have harea : 44 + area (droppedSlots countWide range) = 76 := by
    rw [hslots, area_append, area_append, area_udintField, area_longField, area_longField]
  have hencodes : Encodes (encodeRecord 76 ⟨sourceTime, range.runId, seq, range.sourceId⟩ 0x0104
      fun pos => do
        let pos ← udintSlot 0x0016 countWide.toUInt32 pos
        let pos ← u64Slot 0x0017 0x07 range.firstSeq pos
        u64Slot 0x0018 0x07 range.lastSeq pos) (reportRecord range seq sourceTime) := by
    refine encodes_of_counts ?_ ((counts_const 76).of_eq harea.symm)
    rw [hslots]
    exact (emitsSlots_udintSlot _ _).bind ((emitsSlots_u64Slot _ _ _).bind
      (emitsSlots_u64Slot _ _ _))
  obtain ⟨encoded, hencoded⟩ := hencodes.isSome_iff.mpr (harea.le.trans (by decide))
  obtain ⟨-, -, -, hbytes⟩ := hencodes.of_some hencoded
  have hsmall : ¬4294967295 < countWide := by
    rw [UInt64.lt_iff_toNat_lt]
    exact Nat.not_lt.mpr (Nat.le_of_lt_succ hcount)
  refine ⟨⟨encoded.buffer, encoded.length, true, false⟩, ?_, rfl, rfl, hbytes⟩
  unfold reportRange encodeProducerRecordsDropped
  rw [if_neg (UInt64.not_lt.mpr hle)]
  dsimp only
  rw [if_neg hsmall, hencoded]
  rfl

/-- Every other range is refused. -/
lemma reportRange_refused (h : ¬(range.firstSeq ≤ range.lastSeq ∧
    (range.lastSeq - range.firstSeq + 1).toNat < 2 ^ 32)) :
    reportRange range seq sourceTime = some .refused := by
  unfold reportRange encodeProducerRecordsDropped
  split_ifs with hlt
  · rfl
  · have hbig : 4294967295 < range.lastSeq - range.firstSeq + 1 := by
      rw [UInt64.lt_iff_toNat_lt]
      exact Nat.lt_of_succ_le (Nat.not_lt.mp fun hcount => h ⟨UInt64.not_lt.mp hlt, hcount⟩)
    exact if_pos hbig

/-! ## What is read back -/

/-- The reader decodes the record of a report. -/
lemma readBack_eq {outputs : DroppedOutputs}
    (hbytes : outputs.buffer.take outputs.length.toNat = (reportRecord range seq sourceTime).bytes
      true) :
    outputs.readBack bufferId =
      parseRecordsDropped ((reportRecord range seq sourceTime).withCrcFlag true) bufferId := by
  have hencodable : (reportRecord range seq sourceTime).Encodable true := encodable_dropped rfl
  have hdecode := decode_bytes hencodable []
  rw [List.append_nil] at hdecode
  rw [DroppedOutputs.readBack, hbytes, hdecode, Outcome.ok_bind]

/-- A report of a range whose count is its number of members is read back. -/
lemma readBack_of_count {outputs : DroppedOutputs} (bufferId : UInt32)
    (hle : range.firstSeq ≤ range.lastSeq)
    (hcount : range.lastSeq.toNat - range.firstSeq.toNat + 1 < 2 ^ 32)
    (hbytes : outputs.buffer.take outputs.length.toNat = (reportRecord range seq sourceTime).bytes
      true) : outputs.readBack bufferId = .ok (some (rangeEvent range bufferId)) := by
  obtain ⟨count, hok, htoNat⟩ := LossRange.count_of_lt (ε := WireError) hle (by omega)
  have hwide : range.lastSeq - range.firstSeq + 1 = count := by
    rw [← UInt64.toNat_inj, toNat_countWide hle, htoNat, Nat.mod_eq_of_lt (by omega)]
  have hslots : ((reportRecord range seq sourceTime).withCrcFlag true).slots =
      droppedSlots count range := hwide ▸ rfl
  have hflags : ((reportRecord range seq sourceTime).withCrcFlag true).flags &&&
      FLAG_SYNTHETIC = 0 :=
    show crcFlags FLAG_HAS_CRC true &&& FLAG_SYNTHETIC = 0 by decide
  rw [readBack_eq hbytes, parseRecordsDropped_of_slots rfl hslots hflags hle hok,
    if_pos (htoNat ▸ hcount), rangeEvent, hwide]
  rfl

/-- The report of all numbers makes the reader compute a count that does not fit. -/
lemma readBack_whole {outputs : DroppedOutputs} (bufferId : UInt32)
    (hwhole : range.lastSeq.toNat - range.firstSeq.toNat + 1 = 2 ^ 64)
    (hbytes : outputs.buffer.take outputs.length.toNat = (reportRecord range seq sourceTime).bytes
      true) : outputs.readBack bufferId = .panic := by
  have hlast := range.lastSeq.toNat_lt
  have hle : range.firstSeq ≤ range.lastSeq := UInt64.le_iff_toNat_le.mpr (by omega)
  obtain ⟨hsub, hdiff⟩ := checkedSub_of_le (ε := WireError) (UInt64.le_iff_toNat_le.mp hle)
  have hone : (1 : UInt64).toNat = 1 := rfl
  have hadd : (checkedAdd (range.lastSeq - range.firstSeq) 1 : Outcome WireError UInt64) = .panic :=
    if_neg (by omega)
  have hevent : ((reportRecord range seq sourceTime).withCrcFlag true).eventTypeId =
      EVENT_RECORDS_DROPPED := rfl
  have hslots : ((reportRecord range seq sourceTime).withCrcFlag true).slots =
      droppedSlots (range.lastSeq - range.firstSeq + 1) range := rfl
  rw [readBack_eq hbytes, parseRecordsDropped, if_neg (not_not.mpr hevent), hslots,
    droppedFields_droppedSlots]
  dsimp only
  rw [if_neg (UInt64.not_lt.mpr hle), hsub, Outcome.ok_bind, hadd]
  rfl

/-- A range that is refused leaves nothing to decode. -/
lemma readBack_refused :
    DroppedOutputs.refused.readBack bufferId = .err (.truncated HEADER_LEN 0) := rfl

/-- **The ranges that are written, and those that are read back.** The function block always ends.
It writes the ranges in order whose count fits four bytes, and by a wrap of the count also that of
all numbers; it refuses every other. The reader gets back exactly the ranges in order whose count
fits four bytes, each as its event, and computes a count that does not fit from that of all
numbers. -/
theorem records_dropped_encoder_exact (range : LossRange) (seq sourceTime : UInt64)
    (bufferId : UInt32) : ∃ outputs, reportRange range seq sourceTime = some outputs ∧
    outputs.error = !outputs.done ∧
    (outputs.done = true ↔ range.firstSeq ≤ range.lastSeq ∧
      (range.lastSeq.toNat - range.firstSeq.toNat + 1 < 2 ^ 32 ∨
        range.lastSeq.toNat - range.firstSeq.toNat + 1 = 2 ^ 64)) ∧
    (∀ event, outputs.readBack bufferId = .ok (some event) ↔ range.firstSeq ≤ range.lastSeq ∧
      range.lastSeq.toNat - range.firstSeq.toNat + 1 < 2 ^ 32 ∧
        event = rangeEvent range bufferId) ∧
    (outputs.readBack bufferId = .panic ↔
      range.lastSeq.toNat - range.firstSeq.toNat + 1 = 2 ^ 64) := by
  have hlast := range.lastSeq.toNat_lt
  have horder : range.lastSeq.toNat - range.firstSeq.toNat + 1 = 2 ^ 64 →
      range.firstSeq ≤ range.lastSeq := fun hwhole => UInt64.le_iff_toNat_le.mpr (by omega)
  by_cases hwritten : range.firstSeq ≤ range.lastSeq ∧
      (range.lastSeq - range.firstSeq + 1).toNat < 2 ^ 32
  · obtain ⟨hle, hcount⟩ := hwritten
    obtain ⟨outputs, hreport, hdone, herror, hbytes⟩ :=
      reportRange_eq seq sourceTime hle hcount
    rw [toNat_countWide hle] at hcount
    refine ⟨outputs, hreport, by rw [hdone, herror]; rfl, ?_⟩
    by_cases hwhole : range.lastSeq.toNat - range.firstSeq.toNat + 1 = 2 ^ 64
    · have hread := readBack_whole bufferId hwhole hbytes
      simp [hread, hdone, hle, hwhole]
    · have hsmall : range.lastSeq.toNat - range.firstSeq.toNat + 1 < 2 ^ 32 := by
        rwa [Nat.mod_eq_of_lt (by omega)] at hcount
      have hread := readBack_of_count bufferId hle hsmall hbytes
      simp only [hread, hdone, hle, hsmall, hwhole, true_and, true_or, Outcome.ok.injEq,
        Option.some.injEq, reduceCtorEq, and_true]
      exact fun event => eq_comm
  · refine ⟨.refused, reportRange_refused hwritten, rfl, ?_⟩
    have hnot : ¬(range.firstSeq ≤ range.lastSeq ∧
        (range.lastSeq.toNat - range.firstSeq.toNat + 1 < 2 ^ 32 ∨
          range.lastSeq.toNat - range.firstSeq.toNat + 1 = 2 ^ 64)) := by
      rintro ⟨hle, hcount⟩
      refine hwritten ⟨hle, ?_⟩
      rw [toNat_countWide hle]
      rcases hcount with hcount | hcount
      · rwa [Nat.mod_eq_of_lt (by omega)]
      · rw [hcount]
        decide
    refine ⟨⟨by simp [DroppedOutputs.refused], fun h => absurd h hnot⟩, fun event => ?_, ?_⟩
    · rw [readBack_refused]
      exact ⟨by simp, fun h => absurd ⟨h.1, .inl h.2.1⟩ hnot⟩
    · rw [readBack_refused]
      exact ⟨by simp, fun h => absurd ⟨horder h, .inr h⟩ hnot⟩

/-! ## The reports of a run -/

/-- Where a filter keeps the tail of a list, its complement keeps the front. -/
lemma take_eq_filter_not {α : Type} {keeps : α → Bool} {l : List α} {n : ℕ}
    (h : l.filter keeps = l.drop n) : l.take n = l.filter fun a => !keeps a := by
  have hdrop : ∀ a ∈ l.drop n, keeps a = true := fun a ha => (List.mem_filter.mp (h ▸ ha)).2
  have hsplit := congrArg (List.filter keeps) (List.take_append_drop n l)
  rw [List.filter_append, List.filter_eq_self.mpr hdrop, h, List.append_left_eq_self,
    List.filter_eq_nil_iff] at hsplit
  calc l.take n
      = (l.take n).filter (fun a => !keeps a) ++ (l.drop n).filter fun a => !keeps a := by
        rw [List.filter_eq_self.mpr fun a ha => by simpa using hsplit a ha,
          List.filter_eq_nil_iff.mpr fun a ha => by simp [hdrop a ha], List.append_nil]
    _ = l.filter fun a => !keeps a := by rw [← List.filter_append, List.take_append_drop]

/-- The records that a ring no longer holds are the oldest that it has taken. -/
lemma taken_lost {ring : RingBuffer} {written : List ReadRecord} (h : ring.Represents written) :
    written.take ring.lostCount = written.filter fun w => decide (w.startAbs < ring.oldestAbs) := by
  have hkept : (written.filter fun w => decide (ring.oldestAbs ≤ w.startAbs)) =
      written.drop ring.lostCount := h.retained_eq.symm.trans h.retained_eq_drop
  rw [take_eq_filter_not hkept]
  refine List.filter_congr fun w _ => ?_
  rw [← decide_not, decide_eq_decide, Nat.not_le]

/-- Ranges without the last number, whose counts together fit four bytes, are all reported. -/
lemma reports_of_proper {planned : List (LossRange × UInt64 × UInt64)}
    (hproper : ∀ plan ∈ planned, plan.1.Proper)
    (hcount : (planned.flatMap fun plan => plan.1.members).length < 2 ^ 32) (bufferId : UInt32) :
    ∃ reports, (planned.mapM fun plan => reportRange plan.1 plan.2.1 plan.2.2) = some reports ∧
      (∀ outputs ∈ reports, outputs.done = true ∧ outputs.error = false) ∧
      reports.map (fun outputs => outputs.readBack bufferId) =
        planned.map fun plan => .ok (some (rangeEvent plan.1 bufferId)) := by
  induction planned with
  | nil => exact ⟨[], rfl, by simp, rfl⟩
  | cons plan planned ih =>
    rw [List.flatMap_cons, List.length_append] at hcount
    obtain ⟨hplan, hplanned⟩ := List.forall_mem_cons.mp hproper
    have hle := UInt64.le_iff_toNat_le.mpr hplan.le
    have hwide : (plan.1.lastSeq - plan.1.firstSeq + 1).toNat < 2 ^ 32 := by
      rw [toNat_countWide_of_proper hplan]
      omega
    have hsmall : plan.1.lastSeq.toNat - plan.1.firstSeq.toNat + 1 < 2 ^ 32 := by
      have hmembers := LossRange.length_members plan.1
      have hfirst := hplan.le
      omega
    obtain ⟨outputs, hreport, hdone, herror, hbytes⟩ :=
      reportRange_eq plan.2.1 plan.2.2 hle hwide
    obtain ⟨reports, hreports, hall, hread⟩ := ih hplanned (by omega)
    refine ⟨outputs :: reports, ?_, List.forall_mem_cons.mpr ⟨⟨hdone, herror⟩, hall⟩, ?_⟩
    · rw [List.mapM_cons, hreport, hreports]
      rfl
    · rw [List.map_cons, List.map_cons, hread, readBack_of_count bufferId hle hsmall hbytes]

/-- The counts of the events of such ranges. -/
lemma sum_counts {ranges : List LossRange} (h : ∀ range ∈ ranges, range.Proper)
    (bufferId : UInt32) :
    (ranges.map fun range => (rangeEvent range bufferId).count.toNat).sum =
      (ranges.flatMap LossRange.members).length := by
  induction ranges with
  | nil => rfl
  | cons range ranges ih =>
    obtain ⟨hrange, hranges⟩ := List.forall_mem_cons.mp h
    have hcount : (rangeEvent range bufferId).count.toNat = range.members.length :=
      toNat_countWide_of_proper hrange
    rw [List.map_cons, List.sum_cons, ih hranges, hcount, List.flatMap_cons, List.length_append]

end St

end OpenOT
