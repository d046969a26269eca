import OpenOT.Carriage.LossReport

set_option relaxedAutoImplicit false
set_option autoImplicit false

/-!
# The round trip of a loss report

A range that the producer dropped becomes a `RecordsDropped` record, goes over the wire and comes
back as a loss event. The count travels in four bytes next to the two bounds of eight.

## Main definitions

* `OpenOT.droppedRoundTrip` — build the record, encode it, decode it and read the loss back.
* `OpenOT.LossRange.Survives` — the range that comes back is the one that was sent.

## Main results

* `OpenOT.droppedRoundTrip_eq` — what comes back of a range whose record can be built.
* `OpenOT.records_dropped_round_trip` — the ranges that survive.
-/

namespace OpenOT

open Rust LossTracker

variable {seq : UInt64} {range : LossRange} {withCrc : Bool} {bufferId : UInt32}

/-- The way of a range from the producer to the consumer: its record over the wire. -/
def droppedRoundTrip (seq : UInt64) (range : LossRange) (withCrc : Bool) (bufferId : UInt32) :
    Outcome WireError (Option LossEvent) := do
  let record ← recordsDroppedRecord seq range
  let bytes ← record.encode withCrc
  let decoded ← decode bytes
  parseRecordsDropped decoded.record bufferId

/-- The consumer reads the range back: its stream, its bounds and its count. -/
def LossRange.Survives (range : LossRange) (seq : UInt64) (withCrc : Bool) (bufferId : UInt32) :
    Prop :=
  ∃ event, droppedRoundTrip seq range withCrc bufferId = .ok (some event) ∧
    event.runId = range.runId ∧ event.sourceId = range.sourceId ∧
    event.firstSeq = range.firstSeq ∧ event.lastSeq = range.lastSeq ∧
    (range.count : Outcome WireError UInt64) = .ok event.count

/-! ## Counting the range -/

/-- The count of a range that is not the whole of `u64`. -/
lemma LossRange.count_of_lt {ε : Type} (hle : range.firstSeq ≤ range.lastSeq)
    (hlt : range.lastSeq.toNat - range.firstSeq.toNat + 1 < 2 ^ 64) :
    ∃ count : UInt64, (range.count : Outcome ε UInt64) = .ok count ∧
      count.toNat = range.lastSeq.toNat - range.firstSeq.toNat + 1 := by
  have hfirst := UInt64.le_iff_toNat_le.mp hle
  obtain ⟨hsub, hdiff⟩ := checkedSub_of_le (ε := ε) hfirst
  have hone : (1 : UInt64).toNat = 1 := rfl
  obtain ⟨hadd, hcount⟩ := checkedAdd_of_lt (ε := ε)
    (a := range.lastSeq - range.firstSeq) (b := 1) (by omega)
  refine ⟨range.lastSeq - range.firstSeq + 1, ?_, by omega⟩
  rw [LossRange.count, hsub, Outcome.ok_bind, hadd]

/-- The count of a range that returns is the number of its members. -/
lemma LossRange.count_eq_ok {ε : Type} {count : UInt64}
    (h : (range.count : Outcome ε UInt64) = .ok count) :
    count.toNat = range.lastSeq.toNat - range.firstSeq.toNat + 1 := by
  obtain ⟨difference, hsub, hadd⟩ := Outcome.bind_eq_ok.mp h
  rw [checkedAdd_eq_ok] at hadd
  unfold checkedSub at hsub
  split_ifs at hsub with hle
  obtain rfl := Outcome.ok.inj hsub
  rw [hadd, UInt64.toNat_sub_of_le _ _ hle]
  rfl

/-! ## Over the wire -/

/-- The record of a report is far below the limits of the format. -/
lemma encodable_dropped {record : Record} {count : UInt64}
    (hslots : record.slots = droppedSlots count range) : record.Encodable withCrc := by
  have hlen : (slotArea record.slots).length = 32 := by
    simp [hslots, slotArea, droppedSlots, paddingLen]
  refine ⟨?_, ?_⟩
  · intro slot hslot
    rw [hslots] at hslot
    simp only [droppedSlots, List.mem_cons, List.not_mem_nil, or_false] at hslot
    rcases hslot with rfl | rfl | rfl <;> simp
  · rw [Record.encodedLen, hlen]
    cases withCrc <;> decide

/-- The flags of a report do not mark it synthetic. -/
lemma crcFlags_not_synthetic : crcFlags 0 withCrc &&& FLAG_SYNTHETIC = 0 := by
  cases withCrc <;> decide

/-- Reading a report back. Its count is carried modulo `2 ^ 32`, and the parser drops a report whose
count is not that of its bounds. -/
lemma parseRecordsDropped_of_slots {ε : Type} {record : Record} {count : UInt64}
    (hevent : record.eventTypeId = EVENT_RECORDS_DROPPED)
    (hslots : record.slots = droppedSlots count range)
    (hflags : record.flags &&& FLAG_SYNTHETIC = 0) (hle : range.firstSeq ≤ range.lastSeq)
    (hcount : (range.count : Outcome ε UInt64) = .ok count) :
    (parseRecordsDropped record bufferId : Outcome ε (Option LossEvent)) =
      .ok (if count.toNat < 2 ^ 32 then some ⟨bufferId, record.runId, record.sourceId,
        range.firstSeq, range.lastSeq, count, false⟩ else none) := by
  obtain ⟨difference, hsub, hexpected⟩ := Outcome.bind_eq_ok.mp hcount
  unfold parseRecordsDropped
  rw [hslots, droppedFields_droppedSlots]
  dsimp only
  rw [if_neg (not_not.mpr hevent), if_neg (UInt64.not_lt.mpr hle), hsub, Outcome.ok_bind,
    hexpected, Outcome.ok_bind]
  have hmod : UInt64.ofNat (count.toNat % 2 ^ 32) = count ↔ count.toNat < 2 ^ 32 := by
    rw [← UInt64.toNat_inj, UInt64.toNat_ofNat', Nat.mod_eq_of_lt (by omega)]
    omega
  by_cases hlt : count.toNat < 2 ^ 32
  · rw [if_pos hlt, if_neg (not_not.mpr (hmod.mpr hlt)), hmod.mpr hlt]
    simp [hflags]
  · rw [if_neg hlt, if_pos (mt hmod.mp hlt), Outcome.pure_eq]

/-- **What comes back.** The bounds are carried in full and the count modulo `2 ^ 32`; the parser
drops a report whose count is not that of its bounds. -/
lemma droppedRoundTrip_eq {count : UInt64} (hle : range.firstSeq ≤ range.lastSeq)
    (htime : 1780000000000000000 + seq.toNat < 2 ^ 64)
    (hcount : (range.count : Outcome WireError UInt64) = .ok count) :
    droppedRoundTrip seq range withCrc bufferId =
      .ok (if count.toNat < 2 ^ 32 then
        some ⟨bufferId, range.runId, range.sourceId, range.firstSeq, range.lastSeq, count, false⟩
      else none) := by
  have htoNat : (1780000000000000000 : UInt64).toNat = 1780000000000000000 := rfl
  obtain ⟨hadd, -⟩ := checkedAdd_of_lt (ε := WireError) (a := 1780000000000000000) (b := seq)
    (by omega)
  unfold droppedRoundTrip recordsDroppedRecord
  rw [hadd, Outcome.ok_bind, hcount, Outcome.ok_bind, Outcome.pure_eq, Outcome.ok_bind]
  set record : Record := { Record.new (1780000000000000000 + seq) range.runId seq range.sourceId
    EVENT_RECORDS_DROPPED with slots := droppedSlots count range }
  have henc : record.Encodable withCrc := encodable_dropped rfl
  have hdecode := decode_bytes henc []
  rw [List.append_nil] at hdecode
  rw [encode_of_encodable henc, Outcome.ok_bind, hdecode, Outcome.ok_bind]
  exact parseRecordsDropped_of_slots rfl rfl crcFlags_not_synthetic hle hcount

/-- Whatever comes back, the record could be built. -/
lemma of_droppedRoundTrip_ok {lost : Option LossEvent}
    (h : droppedRoundTrip seq range withCrc bufferId = .ok lost) :
    1780000000000000000 + seq.toNat < 2 ^ 64 ∧
      ∃ count, (range.count : Outcome WireError UInt64) = .ok count := by
  obtain ⟨record, hrecord, -⟩ := Outcome.bind_eq_ok.mp h
  obtain ⟨sourceTime, htime, hrecord⟩ := Outcome.bind_eq_ok.mp hrecord
  obtain ⟨count, hcount, -⟩ := Outcome.bind_eq_ok.mp hrecord
  rw [checkedAdd_eq_ok] at htime
  have htoNat : (1780000000000000000 : UInt64).toNat = 1780000000000000000 := rfl
  have hbound := sourceTime.toNat_lt
  exact ⟨by omega, count, hcount⟩

/-- **The round trip of a loss report.** A range comes back as it was sent exactly if its count
fits the four bytes that it is sent in, and the number of the report leaves room for the constant
that its time is counted from. -/
theorem records_dropped_round_trip (hle : range.firstSeq ≤ range.lastSeq) :
    range.Survives seq withCrc bufferId ↔
      range.lastSeq.toNat - range.firstSeq.toNat + 1 < 2 ^ 32 ∧
        1780000000000000000 + seq.toNat < 2 ^ 64 := by
  constructor
  · rintro ⟨event, htrip, -⟩
    obtain ⟨htime, count, hcount⟩ := of_droppedRoundTrip_ok htrip
    rw [droppedRoundTrip_eq hle htime hcount] at htrip
    split_ifs at htrip with hlt
    · rw [LossRange.count_eq_ok hcount] at hlt
      exact ⟨hlt, htime⟩
    · simp at htrip
  · rintro ⟨hlt, htime⟩
    obtain ⟨count, hcount, htoNat⟩ := LossRange.count_of_lt (ε := WireError) hle (by omega)
    refine ⟨_, by rw [droppedRoundTrip_eq hle htime hcount, if_pos (by omega)], ?_⟩
    exact ⟨rfl, rfl, rfl, rfl, hcount⟩

/-- A single lost record. -/
theorem records_dropped_round_trip_one :
    (⟨7, 1, 41, 41⟩ : LossRange).Survives 3 true 0 :=
  (records_dropped_round_trip (by decide)).mpr (by decide)

/-- The range of the first `2 ^ 32` numbers: its count is sent as zero, and the parser drops the
report. -/
theorem records_dropped_lost_count :
    (⟨7, 1, 0, 0xFFFFFFFF⟩ : LossRange).firstSeq ≤ (⟨7, 1, 0, 0xFFFFFFFF⟩ : LossRange).lastSeq ∧
      droppedRoundTrip 3 ⟨7, 1, 0, 0xFFFFFFFF⟩ true 0 = .ok none ∧
      ¬(⟨7, 1, 0, 0xFFFFFFFF⟩ : LossRange).Survives 3 true 0 := by
  have hnone : droppedRoundTrip 3 ⟨7, 1, 0, 0xFFFFFFFF⟩ true 0 = .ok none := by decide +kernel
  refine ⟨by decide, hnone, ?_⟩
  rintro ⟨event, htrip, -⟩
  rw [hnone] at htrip
  cases htrip

end OpenOT
