import OpenOT.St.RingRefinement

set_option relaxedAutoImplicit false
set_option autoImplicit false

/-!
# The ring of the controller over a run

The function block `Ring256` and a byte-pool ring of 256 bytes over a run of calls that hand them
the same records. A record with a trailer has at least 44 bytes, so at most five of them lie in 256
bytes: the table of six spans always has a free one, and only the table of loss ranges can overflow.

## Main definitions

* `OpenOT.St.EncodedCall` — a call that hands over an encoded record.
* `OpenOT.St.Ring256.runCalls` — a run of calls.
* `OpenOT.St.Ring256.Follows` — the function block and the byte-pool ring with its history.

## Main results

* `OpenOT.St.Ring256.Mirrors.length_kept` — the spans that stay are at most four.
* `OpenOT.St.ring256_refines_ring` — the two agree over every run that does not overflow the table
  of loss ranges.
-/

namespace OpenOT.St

open Rust CircularLog CircularTable

/-- A call with `Execute` that hands over an encoded record, with its run, source and number. -/
structure EncodedCall where
  record : Record
  input : Vector UInt8 256
  length : UInt16
  encodes : record.encode true = .ok (input.toList.take length.toNat)
  bounds : 44 ≤ length ∧ length ≤ 256
  seq_lt : record.seq.toNat < 2 ^ 64 - 1

namespace EncodedCall

variable (c : EncodedCall)

lemma encodable : c.record.Encodable true := (encode_eq_ok_iff.mp c.encodes).1

lemma bytes_eq : c.record.bytes true = c.input.toList.take c.length.toNat :=
  (encode_eq_ok_iff.mp c.encodes).2.symm

lemma length_le : c.length.toNat ≤ 256 := UInt16.le_iff_toNat_le.mp c.bounds.2

lemma length_take : (c.input.toList.take c.length.toNat).length = c.length.toNat := by
  rw [List.length_take, Vector.length_toList, Nat.min_eq_left c.length_le]

lemma length_valid : c.length ≠ 0 ∧ c.length ≤ 256 := by
  refine ⟨fun hzero => ?_, c.bounds.2⟩
  have hge := c.bounds.1
  rw [hzero] at hge
  exact absurd hge (by decide)

end EncodedCall

namespace Ring256

/-- A call. -/
def apply (r : Ring256) (c : EncodedCall) : Ring256 :=
  r.call true c.input.toList c.length c.record.runId c.record.sourceId c.record.seq

/-- A run of calls. -/
def runCalls (calls : List EncodedCall) (r : Ring256) : Ring256 := calls.foldl apply r

/-- The span table of the function block has no free entry when it has made place for a record: the
branch of the error that is not an overflow of the loss ranges. -/
def SpansFull (c : EncodedCall) (r : Ring256) : Prop :=
  6 ≤ (r.entered.makePlace c.length).spanCount

variable {r : Ring256} {c : EncodedCall} {ring : RingBuffer} {written : List ReadRecord}

/-! ## The table of loss ranges -/

/-- A call overflows the table of loss ranges as it makes place. -/
lemma lossRangeOverflow_apply :
    (r.apply c).lossRangeOverflow = (r.entered.makePlace c.length).lossRangeOverflow := by
  have hvalid : ¬(c.length = 0 ∨ 256 < c.length) := by
    rw [not_or, UInt16.not_lt]
    exact c.length_valid
  rw [apply, call_eq, if_neg hvalid]
  split_ifs <;> rfl

/-- Once it has overflowed, the table stays so. -/
lemma overflow_of_apply (h : (r.apply c).lossRangeOverflow = false) :
    r.lossRangeOverflow = false := by
  rw [lossRangeOverflow_apply] at h
  obtain ⟨lost, ranges, head, left, oldest, -, hover⟩ := makePlace_frame c.length r.entered
  exact hover h

/-- Over a run, too. -/
lemma overflow_of_runCalls {calls : List EncodedCall}
    (h : (runCalls calls r).lossRangeOverflow = false) : r.lossRangeOverflow = false := by
  induction calls generalizing r with
  | nil => exact h
  | cons c calls ih => exact overflow_of_apply (ih h)

/-! ## The table of spans -/

/-- At most five records of the ring lie in the last 256 bytes. -/
lemma length_index_le (h : ring.Represents written) (hcap : ring.capacity = 256) :
    ring.index.length ≤ 5 := by
  have hleast : ∀ e ∈ logOf written, 44 ≤ e.data.length := by
    intro e he
    obtain ⟨w, -, rfl⟩ := List.mem_map.mp he
    rw [ReadRecord.entry, length_bytes, Record.encodedLen, if_pos rfl, HEADER_LEN, CRC_LEN]
    omega
  have hlen : ((logOf written).filter fun e =>
      decide (ring.headAbs - ring.capacity ≤ e.start)).length = ring.index.length := by
    rw [h.index_eq, List.length_map, OpenOT.retained, logOf, List.filter_map, List.length_map]
    rfl
  have hmul : 44 * ((logOf written).filter fun e =>
      decide (ring.headAbs - ring.capacity ≤ e.start)).length ≤
        headOf (logOf written) - (ring.headAbs - ring.capacity) :=
    h.laid.mul_length_filter_le hleast
  rw [hlen, ← h.head] at hmul
  omega

/-- **The span table is large enough**: of the spans it holds, at most four stay when a record is
taken. -/
lemma Mirrors.length_kept (h : r.Mirrors ring) (hrep : ring.Represents written) (c : EncodedCall) :
    (r.kept c.length).length ≤ 4 := by
  have hsize : (c.record.bytes true).length = c.length.toNat := by rw [c.bytes_eq, c.length_take]
  have hle : (c.record.bytes true).length ≤ ring.capacity := by
    rw [hsize, h.capacity]
    exact c.length_le
  obtain ⟨ring', startAbs, endAbs, floor, hwrite, hstart, hend, hfloor, -, -, hindex, -⟩ :=
    RingBuffer.writeRecord_eq hrep.capacity_pos c.encodable hle
  obtain ⟨hrep', hcap'⟩ : ring'.Represents (written ++ [⟨startAbs, endAbs, c.record⟩]) ∧
      ring'.capacity = ring.capacity := by
    rcases hrep.writeRecord c.record with
      ⟨ring'', start', end', hwrite', -, -, -, -, hcap, -, hrep'⟩ | ⟨hreject, -⟩
    · rw [hwrite] at hwrite'
      cases hwrite'
      exact ⟨hrep', hcap⟩
    · exact absurd ⟨c.encodable, hle⟩ hreject
  have hkept : ring.index.dropWhile (fun idx => decide (idx.startAbs < floor)) =
      r.kept c.length := by
    rw [hfloor, hend, hstart, h.capacity, hsize, ← h.headAbs, ← retentionFloor_eq, ← h.index]
    rfl
  have hfive := length_index_le hrep' (hcap'.trans h.capacity)
  rw [hindex, hkept, List.length_append, List.length_singleton] at hfive
  omega

/-- Only the table of loss ranges can overflow. -/
lemma Mirrors.roomFor (h : r.Mirrors ring) (hrep : ring.Represents written)
    (hover : (r.apply c).lossRangeOverflow = false) :
    r.RoomFor c.length ∧ ¬r.SpansFull c := by
  have hflag := overflow_of_apply hover
  rw [lossRangeOverflow_apply] at hover
  have hkept := h.length_kept hrep c
  refine ⟨⟨hflag, (overflow_evict_iff (r := r.entered) _ hflag).mp hover, by omega⟩, ?_⟩
  have hretained := congrArg List.length (makePlace_spec hover).1
  rw [Ring256.retained, length_window] at hretained
  change _ = (r.kept c.length).length at hretained
  rw [SpansFull, hretained]
  omega

/-! ## Runs -/

/-- The function block mirrors a byte-pool ring with a history, and its last span is the last of
the history. -/
structure Follows (r : Ring256) (ring : RingBuffer) (written : List ReadRecord) : Prop where
  mirrors : r.Mirrors ring
  represents : ring.Represents written
  last : (r.lastStartAbs, r.lastEndAbs) =
    written.getLast?.elim (0, 0) fun w => (w.startAbs, w.endAbs)

/-- One call and one write. -/
lemma Follows.apply (h : r.Follows ring written)
    (hover : (r.apply c).lossRangeOverflow = false) :
    ∃ ring' startAbs endAbs,
      RingBuffer.writeRecord c.record ring = (.ok (startAbs, endAbs), ring') ∧
      (r.apply c).Follows ring' (written ++ [⟨startAbs, endAbs, c.record⟩]) ∧
      (r.apply c).done = true ∧ (r.apply c).error = false := by
  obtain ⟨hroom, -⟩ := h.mirrors.roomFor h.represents hover
  have haccepts : r.accepts c.length = true := accepts_iff.mpr ⟨c.length_valid, hroom⟩
  obtain ⟨ring', hwrite, hmirrors⟩ :=
    h.mirrors.call c.encodable c.bytes_eq c.length_take c.length_valid hroom
  have hrep : ring'.Represents (written ++ [⟨r.recordStartAbs c.length,
      r.recordStartAbs c.length + c.length.toNat, c.record⟩]) := by
    rcases h.represents.writeRecord c.record with
      ⟨ring'', start', end', hwrite', -, -, -, -, -, -, hrep'⟩ | ⟨-, e, hreject⟩
    · rw [hwrite] at hwrite'
      cases hwrite'
      exact hrep'
    · rw [hwrite] at hreject
      cases hreject
  refine ⟨ring', _, _, hwrite, ⟨hmirrors, hrep, ?_⟩, ?_, ?_⟩
  · rw [Ring256.apply, call_of_accepts haccepts, List.getLast?_concat]
    rfl
  · rw [Ring256.apply, done_call, haccepts]
  · rw [Ring256.apply, error_call, haccepts]
    rfl

/-- A run of calls and of writes. -/
lemma Follows.runCalls (h : r.Follows ring written) {calls : List EncodedCall}
    (hover : (runCalls calls r).lossRangeOverflow = false) :
    (runCalls calls r).Follows (RingBuffer.writeAll (calls.map (·.record)) ring).1
        (written ++ (RingBuffer.writeAll (calls.map (·.record)) ring).2) ∧
      (RingBuffer.writeAll (calls.map (·.record)) ring).2.map (·.record) =
        calls.map (·.record) := by
  induction calls generalizing r ring written with
  | nil => exact ⟨by simpa [RingBuffer.writeAll, Ring256.runCalls] using h, rfl⟩
  | cons c calls ih =>
    obtain ⟨ring', startAbs, endAbs, hwrite, hnext, -⟩ := h.apply (overflow_of_runCalls hover)
    obtain ⟨hfollows, hrecords⟩ := ih hnext hover
    rw [List.map_cons, RingBuffer.writeAll, hwrite]
    rw [List.append_assoc, List.singleton_append] at hfollows
    exact ⟨hfollows, by rw [List.map_cons, hrecords]⟩

/-- New rings. -/
lemma follows_new (hnew : RingBuffer.new 256 = .ok ring) : new.Follows ring [] :=
  ⟨mirrors_new hnew, (RingBuffer.represents_new hnew).1, rfl⟩

end Ring256

/-! ## The refinement -/

/-- **The ring of the controller refines the byte-pool ring.** Over every run of calls that hand
over encoded records and do not overflow the table of loss ranges: bytes, positions, loss count,
loss ranges and the last span are those of a new byte-pool ring of 256 bytes that takes the same
records without a drain, every one of which it accepts; the span table holds its index, in order,
as a queue; and on the way every call has ended in `Done` and has found a free span. -/
theorem ring256_refines_ring {fresh : RingBuffer} (hnew : RingBuffer.new 256 = .ok fresh)
    (calls : List EncodedCall)
    (hover : (Ring256.runCalls calls .new).lossRangeOverflow = false) :
    let r := Ring256.runCalls calls .new
    let ring := (RingBuffer.writeAll (calls.map (·.record)) fresh).1
    let written := (RingBuffer.writeAll (calls.map (·.record)) fresh).2
    written.map (·.record) = calls.map (·.record) ∧
      r.ring = ring.bytes ∧ r.headAbs = ring.headAbs ∧ r.oldestAbs = ring.oldestAbs ∧
      r.lostCount = ring.lostCount ∧ r.lossRanges = ring.producerLossRanges ∧
      (r.lastStartAbs, r.lastEndAbs) =
        written.getLast?.elim (0, 0) (fun w => (w.startAbs, w.endAbs)) ∧
      r.spanCount = ring.index.length ∧ window r.spans r.spanHead r.spanCount = ring.index ∧
      r.Queued ∧
      ∀ before c after, calls = before ++ c :: after →
        ¬(Ring256.runCalls before .new).SpansFull c ∧
        ((Ring256.runCalls before .new).apply c).done = true ∧
        ((Ring256.runCalls before .new).apply c).error = false := by
  obtain ⟨⟨hmirrors, -, hlast⟩, hrecords⟩ := (Ring256.follows_new hnew).runCalls hover
  rw [List.nil_append] at hlast
  refine ⟨hrecords, hmirrors.bytes, hmirrors.headAbs, hmirrors.oldestAbs, hmirrors.lostCount,
    hmirrors.lossRanges, hlast, ?_, hmirrors.index, hmirrors.tail, ?_⟩
  · rw [← hmirrors.index, length_window]
  · rintro before c after rfl
    rw [Ring256.runCalls, List.foldl_append, List.foldl_cons] at hover
    have hcall : ((Ring256.runCalls before .new).apply c).lossRangeOverflow = false :=
      Ring256.overflow_of_runCalls hover
    have hbefore := ((Ring256.follows_new hnew).runCalls (Ring256.overflow_of_apply hcall)).1
    obtain ⟨ring', startAbs, endAbs, -, -, hdone, herror⟩ := hbefore.apply hcall
    exact ⟨(hbefore.mirrors.roomFor hbefore.represents hcall).2, hdone, herror⟩

/-- The length of a record without slots. -/
lemma length_plain (seq : UInt64) : ((Record.new 0 1 seq 5 1).bytes true).length = 44 := by
  rw [length_bytes]
  rfl

/-- A call that hands over a record without slots. -/
def plainCall (seq : UInt64) (h : seq.toNat < 2 ^ 64 - 1) : EncodedCall where
  record := Record.new 0 1 seq 5 1
  input := ⟨((Record.new 0 1 seq 5 1).bytes true ++ List.replicate 212 0).toArray, by
    rw [List.size_toArray, List.length_append, length_plain, List.length_replicate]⟩
  length := 44
  encodes := by
    have henc : (Record.new 0 1 seq 5 1).Encodable true := by
      refine ⟨?_, ?_⟩
      · simp [Record.new]
      · rw [← length_bytes, length_plain]
        decide
    rw [encode_of_encodable henc, Vector.toList]
    exact congrArg Outcome.ok (List.take_left' (length_plain seq)).symm
  bounds := by decide
  seq_lt := h

/-- Six records of 44 bytes. -/
def sixCalls : List EncodedCall :=
  [plainCall 0 (by decide), plainCall 1 (by decide), plainCall 2 (by decide),
    plainCall 3 (by decide), plainCall 4 (by decide), plainCall 5 (by decide)]

/-- The sixth record goes behind a gap and drops the first. -/
theorem ring256_refines_ring_six :
    ∃ fresh, RingBuffer.new 256 = .ok fresh ∧
      (Ring256.runCalls sixCalls .new).lostCount = 1 ∧
      (RingBuffer.writeAll (sixCalls.map (·.record)) fresh).1.lostCount = 1 ∧
      (RingBuffer.writeAll (sixCalls.map (·.record)) fresh).1.producerLossRanges =
        [⟨1, 5, 0, 0⟩] := by
  obtain ⟨fresh, hnew⟩ : ∃ fresh, RingBuffer.new 256 = .ok fresh := ⟨_, rfl⟩
  have hrun : ((Ring256.runCalls sixCalls .new).lossRangeOverflow,
      (Ring256.runCalls sixCalls .new).lostCount, (Ring256.runCalls sixCalls .new).lossRanges) =
        (false, 1, [⟨1, 5, 0, 0⟩]) := by decide +kernel
  simp only [Prod.mk.injEq] at hrun
  obtain ⟨hover, hlost, hranges⟩ := hrun
  obtain ⟨-, -, -, -, hlost', hranges', -⟩ := ring256_refines_ring hnew sixCalls hover
  exact ⟨fresh, hnew, hlost, hlost'.symm.trans hlost, hranges'.symm.trans hranges⟩

end OpenOT.St
