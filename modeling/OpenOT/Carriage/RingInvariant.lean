import OpenOT.Carriage.Ring
import OpenOT.Carriage.WireFormat
import OpenOT.Lib.CircularLog

set_option relaxedAutoImplicit false
set_option autoImplicit false

/-!
# What the ring holds

The ring against its history. The history is the list of the records that `write_record`
accepted, each with the span it was given; the ring keeps, byte for byte, exactly the part of it
that starts at most a capacity behind the head, and counts the rest as lost.

## Main definitions

* `OpenOT.logOf` — the circular log of a list of written records.
* `OpenOT.RingBuffer.Represents` — the representation invariant of the ring.
* `OpenOT.RingBuffer.writeAll` — a run of `write_record` calls with its history.

## Main results

* `OpenOT.RingBuffer.Represents.writeRecord` — one call keeps the invariant, or fails and
  changes nothing.
* `OpenOT.RingBuffer.Represents.readFrom` — the index reader returns the retained records from
  the cursor on.
* `OpenOT.RingBuffer.ring_drops_exactly_the_oldest` — the invariant over every run from a new
  ring.
-/

namespace OpenOT

open Rust CircularLog

/-! ## Histories -/

/-- The log entry of a written record: its start and its bytes with the CRC. -/
def ReadRecord.entry (w : ReadRecord) : Entry UInt8 := ⟨w.startAbs, w.record.bytes true⟩

/-- The index entry of a written record. -/
def ReadRecord.indexEntry (w : ReadRecord) : RecordIndex :=
  ⟨w.startAbs, w.endAbs, w.record.runId, w.record.sourceId, w.record.seq⟩

/-- A written record as a reader sees it: its `HasCrc` flag is set. -/
def ReadRecord.delivered (w : ReadRecord) : ReadRecord :=
  { w with record := w.record.withCrcFlag true }

/-- The circular log of a list of written records. -/
def logOf (written : List ReadRecord) : List (Entry UInt8) := written.map ReadRecord.entry

/-- The written records that start at most `capacity` behind the head. -/
def retained (headAbs capacity : ℕ) (written : List ReadRecord) : List ReadRecord :=
  written.filter fun w => decide (headAbs - capacity ≤ w.startAbs)

/-- A written record was encodable and its span is as long as its bytes. -/
structure ReadRecord.Spans (w : ReadRecord) : Prop where
  encodable : w.record.Encodable true
  endAbs_eq : w.endAbs = w.startAbs + (w.record.bytes true).length

lemma logOf_concat (written : List ReadRecord) (w : ReadRecord) :
    logOf (written ++ [w]) = logOf written ++ [w.entry] := by
  simp [logOf]

@[simp] lemma entry_stop {w : ReadRecord} (h : w.Spans) : w.entry.stop = w.endAbs :=
  h.endAbs_eq.symm

/-- The bytes of a record are not empty. -/
lemma length_bytes_pos (record : Record) (withCrc : Bool) : 0 < (record.bytes withCrc).length := by
  rw [length_bytes, Record.encodedLen, HEADER_LEN]
  omega

/-- Starts of written records are in order. -/
lemma pairwise_startAbs {cap : ℕ} {written : List ReadRecord} (h : Laid cap (logOf written)) :
    written.Pairwise fun a b => a.startAbs ≤ b.startAbs :=
  (List.pairwise_map.mp h.pairwise_start).imp id

/-- What is retained is a suffix of the history. -/
lemma retained_suffix {cap headAbs capacity : ℕ} {written : List ReadRecord}
    (h : Laid cap (logOf written)) : retained headAbs capacity written <:+ written := by
  rw [retained, ← dropWhile_lt_eq_filter (pairwise_startAbs h)]
  exact List.dropWhile_suffix _

/-- Retaining for a later head keeps a part of what was retained. -/
lemma retained_retained {headAbs headAbs' capacity : ℕ} {written : List ReadRecord}
    (hle : headAbs ≤ headAbs') :
    retained headAbs' capacity (retained headAbs capacity written) =
      retained headAbs' capacity written := by
  unfold retained
  rw [List.filter_filter]
  apply List.filter_congr
  intro w _
  simp
  omega

namespace RingBuffer

/-! ## The invariant -/

/-- The ring holds the history `written`: the records are laid out from offset zero on, the
index lists those retained, and from the oldest of them on the pool holds their bytes and the
marks of the gaps between them. -/
structure Represents (ring : RingBuffer) (written : List ReadRecord) : Prop where
  capacity_pos : 0 < ring.capacity
  laid : Laid ring.capacity (logOf written)
  spans : ∀ w ∈ written, w.Spans
  head : ring.headAbs = headOf (logOf written)
  index_eq : ring.index =
    (retained ring.headAbs ring.capacity written).map ReadRecord.indexEntry
  oldest : ring.oldestAbs = ring.index.head?.elim ring.headAbs (·.startAbs)
  lost : ring.lostCount + ring.index.length = written.length
  intact : Intact ring.capacity 0 (logOf written) ring.oldestAbs ring.bytes

/-- A new ring holds the empty history. -/
lemma represents_new {capacity : ℕ} {ring : RingBuffer} (h : new capacity = .ok ring) :
    ring.Represents [] ∧ ring.capacity = capacity := by
  unfold new at h
  split_ifs at h with hz
  obtain rfl := Outcome.ok.inj h
  have hcap : RingBuffer.capacity ⟨List.replicate capacity 0, 0, 0, 0, 0, [], []⟩ = capacity :=
    List.length_replicate
  refine ⟨⟨by omega, Laid.nil, by simp, rfl, rfl, rfl, rfl, rfl, by simp [logOf], ?_⟩, hcap⟩
  intro done e rest hnil
  simp [logOf] at hnil

/-! ## Writing -/

/-- The eviction loop drops the front of the index below the floor and counts it. -/
lemma evictLoop_eq (floor : ℕ) (index : List RecordIndex) (ranges : List LossRange) (n : ℕ) :
    ∃ ranges' evicted, evictLoop floor index ranges n =
        (index.dropWhile (fun idx => decide (idx.startAbs < floor)), ranges', evicted) ∧
      evicted + (index.dropWhile (fun idx => decide (idx.startAbs < floor))).length =
        n + index.length := by
  induction index generalizing ranges n with
  | nil => exact ⟨_, _, rfl, rfl⟩
  | cons front index ih =>
    unfold evictLoop
    split_ifs with hlt
    · obtain ⟨ranges', evicted, hloop, hcount⟩ :=
        ih (recordProducerLoss ranges front.runId front.sourceId front.seq) (n + 1)
      rw [List.dropWhile_cons_of_pos (by simpa using hlt), List.length_cons]
      exact ⟨ranges', evicted, hloop, by omega⟩
    · rw [List.dropWhile_cons_of_neg (by simpa using hlt)]
      exact ⟨_, _, rfl, rfl⟩

/-- A call whose record encodes and fits: the fields of the ring it leaves. -/
lemma writeRecord_eq {ring : RingBuffer} {record : Record} (hcap : 0 < ring.capacity)
    (henc : record.Encodable true) (hle : (record.bytes true).length ≤ ring.capacity) :
    ∃ ring' startAbs endAbs floor, writeRecord record ring = (.ok (startAbs, endAbs), ring') ∧
      startAbs = place ring.capacity ring.headAbs (record.bytes true).length ∧
      endAbs = startAbs + (record.bytes true).length ∧ floor = endAbs - ring.capacity ∧
      ring'.bytes = writeEntry ring.capacity 0 ring.headAbs (record.bytes true) ring.bytes ∧
      ring'.headAbs = endAbs ∧
      ring'.index = ring.index.dropWhile (fun idx => decide (idx.startAbs < floor)) ++
        [⟨startAbs, endAbs, record.runId, record.sourceId, record.seq⟩] ∧
      ring'.oldestAbs =
        (ring.index.dropWhile (fun idx => decide (idx.startAbs < floor))).head?.elim startAbs
          (·.startAbs) ∧
      ring'.lostCount + ring'.index.length = ring.lostCount + ring.index.length + 1 ∧
      ring'.producerLossRanges = (evictLoop floor ring.index ring.producerLossRanges 0).2.1 := by
  have hplace : (if ring.headAbs % ring.capacity = 0 ∨
      ring.headAbs % ring.capacity + (record.bytes true).length ≤ ring.capacity then ring.headAbs
      else ring.headAbs + (ring.capacity - ring.headAbs % ring.capacity)) =
        place ring.capacity ring.headAbs (record.bytes true).length := rfl
  have hfit := place_mod_add_le hcap hle ring.headAbs
  have hlt := Nat.mod_lt ring.headAbs hcap
  obtain ⟨ranges, evicted, hloop, hcount⟩ := evictLoop_eq
    (place ring.capacity ring.headAbs (record.bytes true).length + (record.bytes true).length -
      ring.capacity) ring.index ring.producerLossRanges 0
  unfold writeRecord
  simp only [encode_of_encodable henc, Outcome.mapErr_ok, Mut.lift_ok_bind, Mut.get_bind,
    if_neg (Nat.not_lt.mpr hle), physicalOffset, if_neg hcap.ne', evictBeforeClobber, hplace,
    Mut.modify_bind, hloop]
  have hcopy : (copyFromSlice (markGap ring.capacity 0 ring.headAbs (record.bytes true).length
      ring.bytes) (place ring.capacity ring.headAbs (record.bytes true).length % ring.capacity)
      (record.bytes true) : Outcome RingError Bytes) =
        .ok (writeEntry ring.capacity 0 ring.headAbs (record.bytes true) ring.bytes) :=
    copyFromSlice_of_le (by rwa [length_markGap])
  by_cases hgap : place ring.capacity ring.headAbs (record.bytes true).length = ring.headAbs
  · rw [markGap, if_pos hgap] at hcopy
    simp only [if_neg (not_not.mpr hgap), Mut.lift_ok_bind, Mut.get_bind, hcopy, Mut.modify_bind,
      Mut.pure_apply]
    refine ⟨_, _, _, _, rfl, rfl, rfl, rfl, rfl, rfl, rfl, rfl, ?_, by rw [hloop]⟩
    simp only [List.length_append, List.length_singleton]
    omega
  · rw [markGap, if_neg hgap] at hcopy
    simp only [if_pos hgap, assign_of_lt (ε := RingError) (v := 0) hlt, Mut.lift_ok_bind,
      Mut.get_bind, hcopy, Mut.modify_bind, Mut.pure_apply]
    refine ⟨_, _, _, _, rfl, rfl, rfl, rfl, rfl, rfl, rfl, rfl, ?_, by rw [hloop]⟩
    simp only [List.length_append, List.length_singleton]
    omega

/-- A call whose record does not encode or does not fit returns an error and changes nothing. -/
lemma writeRecord_reject {ring : RingBuffer} {record : Record}
    (h : ¬(record.Encodable true ∧ (record.bytes true).length ≤ ring.capacity)) :
    ∃ e, writeRecord record ring = (.err e, ring) := by
  unfold writeRecord
  by_cases henc : record.Encodable true
  · have hlong : ring.capacity < (record.bytes true).length := by
      by_contra hle
      exact h ⟨henc, Nat.not_lt.mp hle⟩
    simp only [encode_of_encodable henc, Outcome.mapErr_ok, Mut.lift_ok_bind, Mut.get_bind,
      if_pos hlong, Mut.throw_apply]
    exact ⟨_, rfl⟩
  · obtain ⟨e, he⟩ := encode_of_not_encodable henc
    simp only [he, Outcome.mapErr_err, Mut.lift_err_bind]
    exact ⟨_, rfl⟩

namespace Represents

variable {ring : RingBuffer} {written : List ReadRecord}

/-- A record is in the index exactly when it is retained. -/
lemma mem_index (h : ring.Represents written) {idx : RecordIndex} :
    idx ∈ ring.index ↔
      ∃ w ∈ written, ring.headAbs - ring.capacity ≤ w.startAbs ∧ w.indexEntry = idx := by
  rw [h.index_eq, List.mem_map]
  simp only [retained, List.mem_filter, decide_eq_true_eq, and_assoc]

/-- Written records start before the head. -/
lemma startAbs_lt_head (h : ring.Represents written) {w : ReadRecord} (hw : w ∈ written) :
    w.startAbs < ring.headAbs := by
  rw [h.head]
  exact h.laid.start_lt_head (List.mem_map_of_mem hw)

/-- Writing more does not move the head back. -/
lemma headAbs_le (h : ring.Represents written) {ring' : RingBuffer} {ws : List ReadRecord}
    (h' : ring'.Represents (written ++ ws)) : ring.headAbs ≤ ring'.headAbs := by
  have hlog : logOf (written ++ ws) = logOf written ++ logOf ws := List.map_append
  have hlaid := h'.laid
  rw [hlog] at hlaid
  rw [h.head, h'.head, hlog]
  exact hlaid.headOf_le

/-- Records written later start at or behind the head. -/
lemma head_le_startAbs (h : ring.Represents written) {ring' : RingBuffer} {ws : List ReadRecord}
    (h' : ring'.Represents (written ++ ws)) {w : ReadRecord} (hw : w ∈ ws) :
    ring.headAbs ≤ w.startAbs := by
  have hlaid := h'.laid
  rw [logOf, List.map_append] at hlaid
  rw [h.head]
  exact hlaid.head_le_of_mem (List.mem_map_of_mem hw)

/-- The index is in the order of the starts. -/
lemma pairwise_index (h : ring.Represents written) :
    ring.index.Pairwise fun a b => a.startAbs ≤ b.startAbs := by
  rw [h.index_eq, List.pairwise_map]
  exact (pairwise_startAbs h.laid).filter _

/-- The oldest offset is at or before every indexed record. -/
lemma oldest_le_of_mem (h : ring.Represents written) {idx : RecordIndex} (hidx : idx ∈ ring.index) :
    ring.oldestAbs ≤ idx.startAbs := by
  have hsorted := h.pairwise_index
  rw [h.oldest]
  cases hindex : ring.index with
  | nil => simp [hindex] at hidx
  | cons front index =>
    rw [hindex] at hsorted hidx
    rcases List.mem_cons.mp hidx with rfl | hmem
    · exact le_rfl
    · exact (List.pairwise_cons.mp hsorted).1 idx hmem

/-- The oldest offset is at or before the head, and at most a capacity behind it. -/
lemma window (h : ring.Represents written) :
    ring.oldestAbs ≤ ring.headAbs ∧ ring.headAbs ≤ ring.oldestAbs + ring.capacity := by
  rw [h.oldest]
  cases hindex : ring.index with
  | nil => simp
  | cons front index =>
    obtain ⟨w, hw, hge, rfl⟩ := h.mem_index.mp (hindex ▸ List.mem_cons_self)
    have hlt := h.startAbs_lt_head hw
    simp only [List.head?_cons, Option.elim_some, ReadRecord.indexEntry]
    omega

/-- The retained records are those from the oldest offset on. -/
lemma retained_eq (h : ring.Represents written) :
    retained ring.headAbs ring.capacity written =
      written.filter fun w => decide (ring.oldestAbs ≤ w.startAbs) := by
  apply List.filter_congr
  intro w hw
  rw [decide_eq_decide]
  constructor
  · intro hge
    exact h.oldest_le_of_mem (h.mem_index.mpr ⟨w, hw, hge, rfl⟩)
  · intro hge
    have := h.window
    omega

/-- **One call keeps the invariant.** A record that encodes and fits is appended at the place
behind the head; any other record is rejected and nothing changes.

**Proof sketch.** The loop drops the index entries below the new floor, so what is left of the
index is what the new head retains (`retained_retained`). The new oldest offset is the start of
the first record left, or of the new record; in both cases it is at most a capacity behind the
new head, which is what `Intact.write` asks for. -/
lemma writeRecord (h : ring.Represents written) (record : Record) :
    (∃ ring' startAbs endAbs, RingBuffer.writeRecord record ring = (.ok (startAbs, endAbs), ring') ∧
        record.Encodable true ∧ (record.bytes true).length ≤ ring.capacity ∧
        startAbs = place ring.capacity ring.headAbs (record.bytes true).length ∧
        endAbs = startAbs + (record.bytes true).length ∧ ring'.capacity = ring.capacity ∧
        ring.oldestAbs ≤ ring'.oldestAbs ∧
        ring'.Represents (written ++ [⟨startAbs, endAbs, record⟩])) ∨
      ¬(record.Encodable true ∧ (record.bytes true).length ≤ ring.capacity) ∧
        ∃ e, RingBuffer.writeRecord record ring = (.err e, ring) := by
  by_cases hok : record.Encodable true ∧ (record.bytes true).length ≤ ring.capacity
  swap
  · exact Or.inr ⟨hok, writeRecord_reject hok⟩
  obtain ⟨henc, hle⟩ := hok
  have hpos := length_bytes_pos record true
  obtain ⟨ring', startAbs, endAbs, floor, hwrite, hstart, hend, hfloor, hbytes, hhead, hindex,
    holdest, hlost, -⟩ := writeRecord_eq h.capacity_pos henc hle
  have hcap : ring'.capacity = ring.capacity := by
    rw [RingBuffer.capacity, hbytes, length_writeEntry h.capacity_pos rfl hle]
  have hplace : ring.headAbs ≤ startAbs := hstart ▸ le_place
  set w : ReadRecord := ⟨startAbs, endAbs, record⟩ with hw
  have hentry : w.entry = ⟨place ring.capacity (headOf (logOf written)) (record.bytes true).length,
      record.bytes true⟩ := by
    rw [← h.head, ← hstart]
    rfl
  -- what the loop leaves in the index is what the new head retains
  have hkept : ring.index.dropWhile (fun idx => decide (idx.startAbs < floor)) =
      (retained endAbs ring.capacity written).map ReadRecord.indexEntry := by
    rw [h.index_eq, List.dropWhile_map,
      show ((fun idx : RecordIndex => decide (idx.startAbs < floor)) ∘ ReadRecord.indexEntry) =
        fun w => decide (w.startAbs < floor) from rfl,
      retained, dropWhile_lt_eq_filter ((pairwise_startAbs h.laid).filter _), hfloor]
    exact congrArg _ (retained_retained (by omega))
  have hretained : retained endAbs ring.capacity (written ++ [w]) =
      retained endAbs ring.capacity written ++ [w] := by
    have hnew : decide (endAbs - ring.capacity ≤ w.startAbs) = true := by
      simp only [hw, decide_eq_true_eq]
      omega
    simp only [retained, List.filter_append, List.filter_cons, hnew, if_true, List.filter_nil]
  -- the new oldest offset
  have hmono : ring.oldestAbs ≤ ring'.oldestAbs ∧ endAbs ≤ ring'.oldestAbs + ring.capacity := by
    have hwin := h.window
    rw [holdest]
    cases hdrop : ring.index.dropWhile (fun idx => decide (idx.startAbs < floor)) with
    | nil =>
      simp only [List.head?_nil, Option.elim_none]
      omega
    | cons front rest =>
      have hfront : front ∈ ring.index.dropWhile (fun idx => decide (idx.startAbs < floor)) :=
        hdrop ▸ List.mem_cons_self
      have hold := h.oldest_le_of_mem ((List.dropWhile_suffix _).subset hfront)
      rw [hkept, List.mem_map] at hfront
      obtain ⟨v, hv, rfl⟩ := hfront
      have hge : endAbs - ring.capacity ≤ v.startAbs := by
        simpa using (List.mem_filter.mp hv).2
      simp only [List.head?_cons, Option.elim_some, ReadRecord.indexEntry] at hold ⊢
      omega
  refine Or.inl ⟨ring', startAbs, endAbs, hwrite, henc, hle, hstart, hend, hcap, hmono.1, ?_⟩
  refine ⟨hcap ▸ h.capacity_pos, ?_, ?_, ?_, ?_, ?_, ?_, ?_⟩
  · rw [hcap, logOf_concat, hentry]
    exact h.laid.snoc hpos hle
  · intro v hv
    rcases List.mem_append.mp hv with hold | hlast
    · exact h.spans v hold
    · rw [List.mem_singleton.mp hlast]
      exact ⟨henc, hend⟩
  · rw [logOf_concat, headOf_concat, hhead]
    exact hend
  · rw [hindex, hkept, hhead, hcap, hretained, List.map_append]
    rfl
  · rw [holdest, hindex]
    cases ring.index.dropWhile (fun idx => decide (idx.startAbs < floor)) <;> rfl
  · rw [hlost, h.lost, List.length_append, List.length_singleton]
  · rw [hcap, logOf_concat, hentry, hbytes, h.head]
    refine h.intact.write h.capacity_pos h.laid hpos hle hmono.1 ?_
    rw [← h.head, ← hstart, ← hend]
    exact hmono.2

/-! ## Reading through the index -/

/-- A retained record is in the pool, as a slice. -/
lemma slice_eq (h : ring.Represents written) {w : ReadRecord} (hw : w ∈ written)
    (hge : ring.oldestAbs ≤ w.startAbs) :
    w.startAbs % ring.capacity + (w.record.bytes true).length ≤ ring.capacity ∧
      (ring.bytes.take (w.startAbs % ring.capacity + (w.record.bytes true).length)).drop
        (w.startAbs % ring.capacity) = w.record.bytes true := by
  have hmem : w.entry ∈ logOf written := List.mem_map_of_mem hw
  have hfit := h.laid.start_mod_add_le h.capacity_pos hmem
  exact ⟨hfit, (h.intact.entry _ hmem hge).slice hfit⟩

/-- The loop of the index reader returns the records from the cursor on. -/
lemma readIndexed_eq (h : ring.Represents written) (cursor : ℕ) {ws : List ReadRecord}
    (hws : ∀ w ∈ ws, w ∈ written ∧ ring.oldestAbs ≤ w.startAbs) :
    readIndexed ring cursor (ws.map ReadRecord.indexEntry) =
      .ok ((ws.filter fun w => decide (cursor ≤ w.startAbs)).map ReadRecord.delivered) := by
  induction ws with
  | nil => rfl
  | cons w ws ih =>
    obtain ⟨⟨hw, hge⟩, hws⟩ := List.forall_mem_cons.mp hws
    rw [List.map_cons, readIndexed]
    by_cases hcur : cursor ≤ w.startAbs
    · obtain ⟨hfit, hslice⟩ := h.slice_eq hw hge
      have hspans := h.spans w hw
      have hdecode := decode_bytes hspans.encodable []
      rw [List.append_nil] at hdecode
      have hlen : w.endAbs - w.startAbs = (w.record.bytes true).length := by
        rw [hspans.endAbs_eq, Nat.add_sub_cancel_left]
      rw [if_pos (show cursor ≤ w.indexEntry.startAbs from hcur)]
      simp only [ReadRecord.indexEntry, physicalOffset, if_neg h.capacity_pos.ne', Outcome.ok_bind,
        hlen]
      rw [slice_of_le (Nat.le_add_right _ _) hfit, hslice]
      simp only [Outcome.ok_bind, hdecode, Outcome.mapErr_ok, ih hws, Outcome.pure_eq]
      rw [List.filter_cons_of_pos (by simpa using hcur), List.map_cons]
      rfl
    · rw [if_neg (show ¬cursor ≤ w.indexEntry.startAbs from hcur),
        List.filter_cons_of_neg (by simpa using hcur)]
      exact ih hws

/-- **The index reader** returns the retained records from the cursor on. -/
lemma readFrom (h : ring.Represents written) (cursor : ℕ) :
    RingBuffer.readFrom ring cursor =
      .ok ⟨((retained ring.headAbs ring.capacity written).filter fun w =>
        decide (cursor ≤ w.startAbs)).map ReadRecord.delivered, ring.headAbs,
        decide (cursor < ring.oldestAbs)⟩ := by
  have hmem : ∀ w ∈ retained ring.headAbs ring.capacity written,
      w ∈ written ∧ ring.oldestAbs ≤ w.startAbs := by
    intro w hw
    rw [h.retained_eq] at hw
    simpa using List.mem_filter.mp hw
  have hcursor : ∀ w ∈ retained ring.headAbs ring.capacity written,
      decide ((if decide (cursor < ring.oldestAbs) then ring.oldestAbs else cursor) ≤ w.startAbs) =
        decide (cursor ≤ w.startAbs) := by
    intro w hw
    have := (hmem w hw).2
    rw [decide_eq_decide]
    by_cases hlt : cursor < ring.oldestAbs
    · simp only [hlt, decide_true, if_true]
      omega
    · simp [hlt]
  simp only [RingBuffer.readFrom, h.index_eq, h.readIndexed_eq _ hmem, List.filter_congr hcursor,
    Outcome.ok_bind, Outcome.pure_eq]

end Represents

/-! ## Runs -/

/-- A run of `write_record` calls: the ring it leaves, and the records accepted with the spans
the calls returned. -/
def writeAll : List Record → RingBuffer → RingBuffer × List ReadRecord
  | [], ring => (ring, [])
  | record :: records, ring =>
    match writeRecord record ring with
    | (.ok (startAbs, endAbs), ring') =>
      ((writeAll records ring').1, ⟨startAbs, endAbs, record⟩ :: (writeAll records ring').2)
    | (_, ring') => writeAll records ring'

/-- A run keeps the invariant and extends the history. -/
lemma Represents.writeAll {ring : RingBuffer} {written : List ReadRecord}
    (h : ring.Represents written) (records : List Record) :
    (writeAll records ring).1.Represents (written ++ (writeAll records ring).2) ∧
      (writeAll records ring).1.capacity = ring.capacity := by
  induction records generalizing ring written with
  | nil => exact ⟨by simpa [RingBuffer.writeAll] using h, rfl⟩
  | cons record records ih =>
    rw [RingBuffer.writeAll]
    rcases h.writeRecord record with
      ⟨ring', startAbs, endAbs, hwrite, -, -, -, -, hcap, -, hnext⟩ | ⟨-, e, hwrite⟩
    · obtain ⟨hrep, hcap'⟩ := ih hnext
      rw [List.append_assoc, List.singleton_append] at hrep
      rw [hwrite]
      exact ⟨hrep, hcap'.trans hcap⟩
    · rw [hwrite]
      exact ih h

/-- **The ring drops exactly the oldest.** After any sequence of `write_record` calls on a new
ring: the index is ordered and its spans do not overlap; the oldest offset is the start of its
first span, or the head; the window is at most a capacity long; no span crosses the pool's end;
the index lists exactly the accepted records that start at least at `head - capacity`, which are
a suffix of the history; the pool holds the encoding of each; reading from zero returns exactly
them; the rest is counted as lost; and a call that returns an error leaves the ring as it was. -/
theorem ring_drops_exactly_the_oldest {capacity : ℕ} {fresh : RingBuffer}
    (hnew : new capacity = .ok fresh) (records : List Record) (ring : RingBuffer)
    (written kept : List ReadRecord) (hrun : writeAll records fresh = (ring, written))
    (hkept : kept = written.filter fun w => decide (ring.headAbs - capacity ≤ w.startAbs)) :
    (ring.index.Pairwise fun a b => a.endAbs ≤ b.startAbs) ∧
    (∀ idx ∈ ring.index, idx.startAbs < idx.endAbs ∧
      idx.startAbs % capacity + (idx.endAbs - idx.startAbs) ≤ capacity) ∧
    ring.oldestAbs = ring.index.head?.elim ring.headAbs (·.startAbs) ∧
    ring.oldestAbs ≤ ring.headAbs ∧ ring.headAbs - ring.oldestAbs ≤ capacity ∧
    ring.index = kept.map (fun w =>
      ⟨w.startAbs, w.endAbs, w.record.runId, w.record.sourceId, w.record.seq⟩) ∧
    kept <:+ written ∧
    (∀ w ∈ kept, w.record.encode true =
      .ok ((ring.bytes.take (w.startAbs % capacity + (w.endAbs - w.startAbs))).drop
        (w.startAbs % capacity))) ∧
    ring.readFrom 0 = .ok ⟨kept.map fun w => { w with record := w.record.withCrcFlag true },
      ring.headAbs, decide (0 < ring.oldestAbs)⟩ ∧
    ring.lostCount = (written.filter fun w => decide (w.startAbs < ring.headAbs - capacity)).length ∧
    (∀ record, (writeRecord record ring).1 ≠ .panic ∧
      ∀ e ring', writeRecord record ring = (.err e, ring') → ring' = ring) := by
  obtain ⟨hfresh, hcap₀⟩ := represents_new hnew
  have hrep := hfresh.writeAll records
  rw [hrun, hcap₀, List.nil_append] at hrep
  obtain ⟨h, rfl⟩ : ring.Represents written ∧ ring.capacity = capacity := hrep
  have hretained : kept = retained ring.headAbs ring.capacity written := hkept
  have hmem : ∀ w ∈ kept, w ∈ written ∧ ring.oldestAbs ≤ w.startAbs := by
    intro w hw
    rw [hretained, h.retained_eq] at hw
    simpa using List.mem_filter.mp hw
  have hlen : ∀ w ∈ written, w.endAbs - w.startAbs = (w.record.bytes true).length := by
    intro w hw
    rw [(h.spans w hw).endAbs_eq, Nat.add_sub_cancel_left]
  refine ⟨?_, ?_, h.oldest, h.window.1, ?_, ?_, ?_, ?_, ?_, ?_, ?_⟩
  · rw [h.index_eq, List.pairwise_map]
    have hpair := List.pairwise_map.mp h.laid.pairwise
    refine (List.Pairwise.and_mem.mp hpair).imp ?_ |>.filter _
    rintro a b ⟨ha, -, hab⟩
    rwa [entry_stop (h.spans a ha)] at hab
  · intro idx hidx
    obtain ⟨w, hw, hge, rfl⟩ := h.mem_index.mp hidx
    have hpos := length_bytes_pos w.record true
    have hfit := (h.slice_eq hw (h.oldest_le_of_mem hidx)).1
    have := hlen w hw
    simp only [ReadRecord.indexEntry]
    omega
  · have := h.window.2
    omega
  · rw [h.index_eq, hretained]
    rfl
  · rw [hretained]
    exact retained_suffix h.laid
  · intro w hw
    obtain ⟨hw, hge⟩ := hmem w hw
    rw [hlen w hw, (h.slice_eq hw hge).2, encode_of_encodable (h.spans w hw).encodable]
  · rw [h.readFrom, hretained]
    simp only [Nat.zero_le, decide_true, List.filter_true]
    rfl
  · have hsplit := List.length_eq_length_filter_add
      (l := written) fun w => decide (w.startAbs < ring.headAbs - ring.capacity)
    have hrest : (written.filter fun w => !decide (w.startAbs < ring.headAbs - ring.capacity)) =
        retained ring.headAbs ring.capacity written := by
      apply List.filter_congr
      intro w _
      rw [← decide_not, decide_eq_decide, Nat.not_lt]
    have hlost := h.lost
    rw [h.index_eq, List.length_map] at hlost
    rw [hrest] at hsplit
    omega
  · intro record
    rcases h.writeRecord record with ⟨ring', s, e, hwrite, -⟩ | ⟨-, e, hwrite⟩
    · rw [hwrite]
      simp
    · rw [hwrite]
      refine ⟨by simp, fun e' ring' heq => ?_⟩
      exact (Prod.mk.inj heq).2.symm

/-- Three records of 44 bytes in a pool of 100: the third goes behind a gap of 12 bytes and the
first is lost. -/
theorem ring_drops_the_first_of_three :
    ∃ fresh ring written, new 100 = .ok fresh ∧
      writeAll (List.replicate 3 (Record.new 0 0 0 1 1)) fresh = (ring, written) ∧
      written.map (·.startAbs) = [0, 44, 100] ∧ ring.index.map (·.startAbs) = [44, 100] ∧
      ring.lostCount = 1 := by
  obtain ⟨-, -, -, -, -, hindex, -, -, -, hlost, -⟩ :=
    ring_drops_exactly_the_oldest (show new 100 = .ok _ from rfl)
      (List.replicate 3 (Record.new 0 0 0 1 1)) _ _ _ rfl rfl
  refine ⟨_, _, _, rfl, rfl, by decide +kernel, ?_, ?_⟩
  · rw [hindex]
    decide +kernel
  · rw [hlost]
    decide +kernel

end RingBuffer

end OpenOT
