import OpenOT.Carriage.Ring
import OpenOT.Lib.CircularLog
import OpenOT.St.Buffer

set_option relaxedAutoImplicit false
set_option autoImplicit false

/-!
# The ring of the controller

The function block `OPENOT_Ring256Producer`: a ring of 256 bytes with a circular table of the
spans of its records and a table of 16 loss ranges.

## Main definitions

* `OpenOT.St.Ring256` — the variables of the function block.
* `OpenOT.St.Ring256.call` — a call of the function block.

## Design

Positions and counts are natural numbers. The entries of the two tables have the fields of
`RecordIndex` and `LossRange`; the loss ranges are the list of the first `LossRangeCount` entries
of theirs. The field `written` is history: every record the ring has taken. The function block
does not read it.
-/

namespace OpenOT.St

open Rust CircularLog

/-- A record the ring has taken, with what was passed with it. -/
structure RingWrite where
  startAbs : ℕ
  bytes : Bytes
  runId : UInt64
  sourceId : UInt32
  seq : UInt64
  deriving DecidableEq

/-- The variables of `OPENOT_Ring256Producer`. -/
structure Ring256 where
  ring : Bytes
  headAbs : ℕ
  oldestAbs : ℕ
  lostCount : ℕ
  lastStartAbs : ℕ
  lastEndAbs : ℕ
  lossRanges : List LossRange
  lossRangeOverflow : Bool
  done : Bool
  error : Bool
  spans : Vector RecordIndex 6
  spanHead : Fin 6
  spanTail : Fin 6
  spanCount : ℕ
  /-- history: what the ring has taken -/
  written : List RingWrite
  deriving DecidableEq

namespace Ring256

/-- The function block before its first call. -/
def new : Ring256 where
  ring := blankBuffer
  headAbs := 0
  oldestAbs := 0
  lostCount := 0
  lastStartAbs := 0
  lastEndAbs := 0
  lossRanges := []
  lossRangeOverflow := false
  done := false
  error := false
  spans := .replicate 6 ⟨0, 0, 0, 0, 0⟩
  spanHead := 0
  spanTail := 0
  spanCount := 0
  written := []

/-- The next index of the span table. -/
def nextSpan (i : Fin 6) : Fin 6 := if i = 5 then 0 else i + 1

/-- The loss ranges with the record of a span; `none` if the table is full. -/
def recordLoss (lossRanges : List LossRange) (span : RecordIndex) : Option (List LossRange) :=
  match lossRanges.getLast? with
  | some last =>
    if last.runId = span.runId ∧ last.sourceId = span.sourceId ∧ last.lastSeq + 1 = span.seq then
      some (lossRanges.dropLast ++ [{ last with lastSeq := span.seq }])
    else if 16 ≤ lossRanges.length then none
    else some (lossRanges ++ [⟨span.runId, span.sourceId, span.seq, span.seq⟩])
  | none => some (lossRanges ++ [⟨span.runId, span.sourceId, span.seq, span.seq⟩])

/-- The `WHILE ContinueEvict` loop, with the span count it starts from. -/
def evict (retentionFloor : ℕ) : ℕ → Ring256 → Ring256
  | 0, r => r
  | count + 1, r =>
    if (r.spans.get r.spanHead).startAbs < retentionFloor then
      let lossRanges := recordLoss r.lossRanges (r.spans.get r.spanHead)
      let r := { r with
        lostCount := r.lostCount + 1
        lossRanges := lossRanges.getD r.lossRanges
        lossRangeOverflow := r.lossRangeOverflow || lossRanges.isNone
        spanHead := nextSpan r.spanHead
        spanCount := count }
      if r.lossRangeOverflow then r else evict retentionFloor count r
    else r

/-- Where a record of the given length starts. -/
def recordStartAbs (r : Ring256) (length : UInt16) : ℕ :=
  if r.headAbs % 256 = 0 ∨ r.headAbs % 256 + length.toNat ≤ 256 then r.headAbs
  else r.headAbs + (256 - r.headAbs % 256)

/-- The offset below which a head at `finalHead` retains nothing. -/
def retentionFloor (finalHead : ℕ) : ℕ := if 256 < finalHead then finalHead - 256 else 0

/-- What is done when there is no error: the mark of the gap, the bytes and the span. -/
def put (record : Bytes) (length : UInt16) (startAbs : ℕ) (runId : UInt64) (sourceId : UInt32)
    (seq : UInt64) (r : Ring256) : Ring256 :=
  let marked := if startAbs ≠ r.headAbs then r.ring.set (r.headAbs % 256) 0 else r.ring
  { r with
    ring := overwrite marked (startAbs % 256) (record.take length.toNat)
    spans := r.spans.set r.spanTail ⟨startAbs, startAbs + length.toNat, runId, sourceId, seq⟩
    spanTail := nextSpan r.spanTail
    spanCount := r.spanCount + 1
    headAbs := startAbs + length.toNat
    lastStartAbs := startAbs
    lastEndAbs := startAbs + length.toNat
    done := true
    written := r.written ++ [⟨startAbs, record.take length.toNat, runId, sourceId, seq⟩] }

/-- What is done before the error is known: the records that the new one overwrites are dropped. -/
def makePlace (length : UInt16) (r : Ring256) : Ring256 :=
  let startAbs := r.recordStartAbs length
  let r := evict (retentionFloor (startAbs + length.toNat)) r.spanCount r
  { r with
    oldestAbs := if 0 < r.spanCount then (r.spans.get r.spanHead).startAbs else startAbs
    error := r.lossRangeOverflow || decide (6 ≤ r.spanCount) }

/-- A call of `OPENOT_Ring256Producer`. -/
def call (execute : Bool) (record : Bytes) (length : UInt16) (runId : UInt64) (sourceId : UInt32)
    (seq : UInt64) (r : Ring256) : Ring256 :=
  let r := { r with done := false, error := r.lossRangeOverflow }
  if execute then
    if length = 0 ∨ 256 < length then { r with error := true }
    else
      let startAbs := r.recordStartAbs length
      let r := r.makePlace length
      if r.error then r else r.put record length startAbs runId sourceId seq
  else r

/-! ## What a call does -/

/-- The variables that the loop changes. -/
lemma evict_frame (floor count : ℕ) (r : Ring256) :
    ∃ lost ranges overflow head left, evict floor count r = { r with
        lostCount := lost
        lossRanges := ranges
        lossRangeOverflow := overflow
        spanHead := head
        spanCount := left } ∧
      (overflow = false → r.lossRangeOverflow = false) := by
  induction count generalizing r with
  | zero => exact ⟨_, _, _, _, _, rfl, id⟩
  | succ count ih =>
    unfold evict
    dsimp only
    split_ifs with hold hfull
    · exact ⟨_, _, _, _, _, rfl, fun h => (Bool.or_eq_false_iff.mp h).1⟩
    · obtain ⟨lost, ranges, overflow, head, left, heq, hover⟩ := ih { r with
        lostCount := r.lostCount + 1
        lossRanges := (recordLoss r.lossRanges (r.spans.get r.spanHead)).getD r.lossRanges
        lossRangeOverflow := r.lossRangeOverflow ||
          (recordLoss r.lossRanges (r.spans.get r.spanHead)).isNone
        spanHead := nextSpan r.spanHead
        spanCount := count }
      exact ⟨lost, ranges, overflow, head, left, heq,
        fun h => (Bool.or_eq_false_iff.mp (hover h)).1⟩
    · exact ⟨_, _, _, _, _, rfl, id⟩

/-- What making place changes. -/
lemma makePlace_frame (length : UInt16) (r : Ring256) :
    ∃ lost ranges head left oldest, r.makePlace length = { r with
        lostCount := lost
        lossRanges := ranges
        lossRangeOverflow := (r.makePlace length).lossRangeOverflow
        spanHead := head
        spanCount := left
        oldestAbs := oldest
        error := (r.makePlace length).error } ∧
      ((r.makePlace length).lossRangeOverflow = false → r.lossRangeOverflow = false) := by
  obtain ⟨lost, ranges, overflow, head, left, heq, hover⟩ :=
    evict_frame (retentionFloor (r.recordStartAbs length + length.toNat)) r.spanCount r
  unfold makePlace
  dsimp only
  rw [heq]
  exact ⟨lost, ranges, head, left, _, rfl, hover⟩

/-- The ring at the start of a call. -/
def entered (r : Ring256) : Ring256 := { r with done := false, error := r.lossRangeOverflow }

/-- Whether the ring takes a record of the given length: neither of its tables overflows. -/
def accepts (length : UInt16) (r : Ring256) : Bool :=
  !decide (length = 0 ∨ 256 < length) && !(r.entered.makePlace length).error

section

variable {record : Bytes} {length : UInt16} {runId : UInt64} {sourceId : UInt32} {seq : UInt64}
  {r : Ring256}

/-- A call with `Execute`, over the ring at its start. -/
lemma call_eq : call true record length runId sourceId seq r =
    if length = 0 ∨ 256 < length then { r.entered with error := true }
    else if (r.entered.makePlace length).error then r.entered.makePlace length
    else (r.entered.makePlace length).put record length (r.recordStartAbs length) runId sourceId
      seq := rfl

/-- A record that the ring takes. -/
lemma call_of_accepts (h : r.accepts length = true) :
    call true record length runId sourceId seq r =
      (r.entered.makePlace length).put record length (r.recordStartAbs length) runId sourceId
        seq := by
  simp only [accepts, Bool.and_eq_true, Bool.not_eq_true', decide_eq_false_iff_not] at h
  rw [call_eq, if_neg h.1, if_neg (ne_true_of_eq_false h.2)]

/-- A record that the ring does not take leaves its bytes and its history as they are. -/
lemma call_of_not_accepts (h : r.accepts length = false) :
    let r' := call true record length runId sourceId seq r
    r'.done = false ∧ r'.error = true ∧ r'.written = r.written := by
  dsimp only
  rw [call_eq]
  by_cases hlength : length = 0 ∨ 256 < length
  · rw [if_pos hlength]
    exact ⟨rfl, rfl, rfl⟩
  · have herror : (r.entered.makePlace length).error = true := by
      simpa [accepts, hlength] using h
    rw [if_neg hlength, if_pos herror]
    obtain ⟨lost, ranges, head, left, oldest, heq, -⟩ := makePlace_frame length r.entered
    exact ⟨by rw [heq]; rfl, herror, by rw [heq]; rfl⟩

/-- What the ring has taken after a call. -/
lemma written_call : (call true record length runId sourceId seq r).written =
    if r.accepts length then r.written ++
      [⟨r.recordStartAbs length, record.take length.toNat, runId, sourceId, seq⟩]
    else r.written := by
  split_ifs with h
  · obtain ⟨lost, ranges, head, left, oldest, heq, -⟩ := makePlace_frame length r.entered
    rw [call_of_accepts h, heq]
    rfl
  · exact (call_of_not_accepts (by simpa using h)).2.2

/-- The two outputs of a call agree. -/
lemma done_call : (call true record length runId sourceId seq r).done = r.accepts length := by
  by_cases h : r.accepts length = true
  · rw [call_of_accepts h, h]
    rfl
  · rw [(call_of_not_accepts (by simpa using h)).1]
    simpa using h

lemma error_call : (call true record length runId sourceId seq r).error = !r.accepts length := by
  by_cases h : r.accepts length = true
  · have herror := h
    simp only [accepts, Bool.and_eq_true, Bool.not_eq_true'] at herror
    rw [call_of_accepts h, h]
    exact herror.2
  · have hfalse : r.accepts length = false := by simpa using h
    rw [(call_of_not_accepts hfalse).2.1, hfalse]
    rfl

/-- Once the table of loss ranges has overflowed, no record is taken any more. -/
lemma accepts_of_overflow (h : r.lossRangeOverflow = true) : r.accepts length = false := by
  obtain ⟨lost, ranges, head, left, oldest, -, hover⟩ := makePlace_frame length r.entered
  have hplace : (r.entered.makePlace length).lossRangeOverflow = true := by
    by_contra hnot
    have hfalse := hover (by simpa using hnot)
    simp [entered, h] at hfalse
  have herror : (r.entered.makePlace length).error =
      ((r.entered.makePlace length).lossRangeOverflow ||
        decide (6 ≤ (r.entered.makePlace length).spanCount)) := rfl
  simp [accepts, herror, hplace]

end

end Ring256

end OpenOT.St
