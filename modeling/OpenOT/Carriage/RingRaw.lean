import OpenOT.Carriage.RingInvariant

set_option relaxedAutoImplicit false
set_option autoImplicit false

/-!
# The raw reader of the ring

The reader over raw bytes has no index: it rediscovers every record boundary and every gap from
the pool. On a ring that represents a history, a walk that starts at a position of the log
(the head of a part of the history, or the start of a record) finds exactly the records ahead.

## Main results

* `OpenOT.RingBuffer.Represents.readRawLoop_record` — the walk over one record.
* `OpenOT.RingBuffer.Represents.readRawLoop_gap` — the walk over a gap.
* `OpenOT.RingBuffer.Represents.readRawFrom` — the raw reader from a position of the log.
* `OpenOT.RingBuffer.raw_reader_refines_index_reader` — the two readers agree on every cursor
  that is or was the head.
-/

namespace OpenOT

open Rust CircularLog

namespace RingBuffer

namespace Represents

variable {ring : RingBuffer} {written acc : List ReadRecord} {abs : ℕ}

/-- The walk stands at a retained record: it decodes it and goes on behind it. -/
lemma readRawLoop_record (h : ring.Represents written) {w : ReadRecord} (hw : w ∈ written)
    (hge : ring.oldestAbs ≤ w.startAbs) :
    readRawLoop ring ring.headAbs ring.oldestAbs ring.oldestAbs w.startAbs acc =
      readRawLoop ring ring.headAbs ring.oldestAbs ring.oldestAbs w.endAbs
        (acc ++ [w.delivered]) := by
  obtain ⟨hfit, hslice⟩ := h.slice_eq hw hge
  have hspans := h.spans w hw
  have hdec : Decodes (w.record.bytes true) (w.record.withCrcFlag true) :=
    Decodes.of_encode (encode_of_encodable hspans.encodable)
  obtain ⟨hforty, hsync, hlength⟩ := hdec.header
  have hholds := h.intact.entry _ (List.mem_map_of_mem hw) hge
  have hlt := h.startAbs_lt_head hw
  have hphys := Nat.mod_lt w.startAbs h.capacity_pos
  set phys := w.startAbs % ring.capacity with hphysdef
  set len := (w.record.bytes true).length with hlendef
  unfold HEADER_LEN at hforty
  have hfirst : (Rust.index ring.bytes phys : Outcome RingError UInt8) = .ok 0x4F := by
    rw [index_eq_ok, ← hdec.head_ne_zero]
    exact hholds 0 (by simp only [ReadRecord.entry]; omega)
  have hpart : ∀ o n, o + n ≤ len →
      ((ring.bytes.drop (phys + o)).take n) = ((w.record.bytes true).drop o).take n := by
    intro o n hon
    rw [← hslice, List.drop_drop, List.drop_take, List.take_take]
    congr 1
    omega
  have hcap : ring.bytes.length = ring.capacity := rfl
  have hsync' : (ring.bytes.take (phys + 4)).drop phys = SYNC := by
    have := hpart 0 4 (by omega)
    rw [Nat.add_zero, List.drop_zero, hsync] at this
    rw [List.drop_take, Nat.add_sub_cancel_left, this]
  have htotal : (UInt16.ofNat (fromLe ((ring.bytes.drop (phys + 4)).take 2))).toNat = len := by
    have htwo : len < 2 ^ 16 := by
      have := fromLe_lt ((w.record.bytes true |>.drop 4).take 2)
      rwa [show ((w.record.bytes true |>.drop 4).take 2).length = 2 by
        rw [List.length_take, List.length_drop]; omega, hlength] at this
    rw [hpart 4 2 (by omega), hlength, UInt16.toNat_ofNat', Nat.mod_eq_of_lt htwo]
  rw [readRawLoop, if_pos hlt, if_neg (Nat.not_lt.mpr hge), if_neg h.capacity_pos.ne']
  simp only [← hphysdef, hfirst, Outcome.ok_bind]
  rw [if_neg (by decide), if_neg (by unfold HEADER_LEN; omega),
    slice_of_le (by omega) (by omega), Outcome.ok_bind, if_neg (not_not.mpr hsync'),
    readU16_eq (by omega), Outcome.ok_bind, htotal, if_neg (by unfold HEADER_LEN; omega),
    if_neg (by omega), slice_of_le (by omega) (by omega), Outcome.ok_bind, hslice, hdec,
    Outcome.mapErr_ok, Outcome.ok_bind, if_neg (Nat.not_lt.mpr hge), ← hspans.endAbs_eq]
  rfl

/-- The walk stands in front of a gap: it follows the mark to the next record. -/
lemma readRawLoop_gap (h : ring.Represents written) {e : Entry UInt8} {rest : List (Entry UInt8)}
    (hat : At (logOf written) abs (e :: rest)) (hge : ring.oldestAbs ≤ abs) (hne : abs ≠ e.start) :
    readRawLoop ring ring.headAbs ring.oldestAbs ring.oldestAbs abs acc =
      readRawLoop ring ring.headAbs ring.oldestAbs ring.oldestAbs e.start acc := by
  obtain ⟨done, hlog, habs, hphys, hstart⟩ := hat.gap h.capacity_pos h.laid hne
  have hlt : abs < ring.headAbs := by
    have hmem : e ∈ logOf written := by
      rw [hlog]
      simp
    have := h.laid.start_lt_head hmem
    have := hat.le_start h.laid
    rw [h.head]
    omega
  have hmark := h.intact.gap done e rest hlog (habs ▸ hge) (habs ▸ hne)
  rw [← habs] at hmark
  have hfirst : (Rust.index ring.bytes (abs % ring.capacity) : Outcome RingError UInt8) = .ok 0 :=
    index_eq_ok.mpr hmark
  rw [readRawLoop, if_pos hlt, if_neg (Nat.not_lt.mpr hge), if_neg h.capacity_pos.ne']
  simp only [hfirst, Outcome.ok_bind, if_true, if_neg hphys, hstart]

/-- The walk from a position of the log returns the records ahead.

**Proof sketch.** Induction on the records ahead. With none left the position is the head. Else
the walk crosses the gap in front of the next record, if there is one, and then the record. -/
lemma readRawLoop_eq (h : ring.Represents written) {ahead : List ReadRecord}
    (acc : List ReadRecord) (hahead : ∀ w ∈ ahead, w ∈ written)
    (hat : At (logOf written) abs (logOf ahead)) (hge : ring.oldestAbs ≤ abs) :
    readRawLoop ring ring.headAbs ring.oldestAbs ring.oldestAbs abs acc =
      .ok (acc ++ ahead.map ReadRecord.delivered) := by
  induction ahead generalizing abs acc with
  | nil =>
    have hend : abs = ring.headAbs := hat.eq_head.trans h.head.symm
    rw [readRawLoop, if_neg (by omega), List.map_nil, List.append_nil]
  | cons w ahead ih =>
    obtain ⟨hw, hahead⟩ := List.forall_mem_cons.mp hahead
    have hle : abs ≤ w.startAbs := hat.le_start h.laid
    have hgap : readRawLoop ring ring.headAbs ring.oldestAbs ring.oldestAbs abs acc =
        readRawLoop ring ring.headAbs ring.oldestAbs ring.oldestAbs w.startAbs acc := by
      by_cases heq : abs = w.startAbs
      · rw [heq]
      · exact h.readRawLoop_gap hat hge heq
    have hspans := h.spans w hw
    have hnext : At (logOf written) w.endAbs (logOf ahead) := by
      rw [← entry_stop hspans]
      exact hat.next
    rw [hgap, h.readRawLoop_record hw (hge.trans hle), ih _ hahead hnext (by
      have := hspans.endAbs_eq
      omega)]
    rw [List.map_cons, List.append_assoc, List.singleton_append]

/-- The records ahead of a position are those that start at or after it. -/
lemma at_filter (h : ring.Represents written) {rest : List (Entry UInt8)}
    (hat : At (logOf written) abs rest) :
    At (logOf written) abs (logOf (written.filter fun w => decide (abs ≤ w.startAbs))) := by
  rw [hat.rest_eq_filter h.laid] at hat
  rw [logOf, List.filter_map] at hat
  exact hat

/-- The oldest offset is a position of the log. -/
lemma at_oldest (h : ring.Represents written) :
    ∃ rest, At (logOf written) ring.oldestAbs rest := by
  rw [h.oldest]
  cases hindex : ring.index with
  | nil =>
    rw [List.head?_nil, Option.elim_none, h.head]
    exact ⟨[], by simpa using At.headOf_append (logOf written) []⟩
  | cons front index =>
    obtain ⟨w, hw, -, rfl⟩ := h.mem_index.mp (hindex ▸ List.mem_cons_self)
    obtain ⟨done, rest, rfl⟩ := List.append_of_mem hw
    refine ⟨logOf (w :: rest), ?_⟩
    rw [logOf, List.map_append]
    exact At.start _ _ _

/-- **The raw reader** from a position of the log returns what the index reader returns. -/
lemma readRawFrom (h : ring.Represents written) {cursor : ℕ} {rest : List (Entry UInt8)}
    (hat : At (logOf written) cursor rest) :
    RingBuffer.readRawFrom ring cursor =
      .ok ⟨((retained ring.headAbs ring.capacity written).filter fun w =>
        decide (cursor ≤ w.startAbs)).map ReadRecord.delivered, ring.headAbs,
        decide (cursor < ring.oldestAbs)⟩ := by
  set first := if decide (cursor < ring.oldestAbs) then ring.oldestAbs else cursor with hfirst
  have hge : ring.oldestAbs ≤ first ∧ cursor ≤ first := by
    rw [hfirst]
    split_ifs with hlt <;> simp at hlt <;> omega
  have hpos : ∃ rest, At (logOf written) first rest := by
    rw [hfirst]
    split_ifs with hlt
    · exact h.at_oldest
    · exact ⟨rest, hat⟩
  have hahead : (written.filter fun w => decide (first ≤ w.startAbs)) =
      (retained ring.headAbs ring.capacity written).filter fun w =>
        decide (cursor ≤ w.startAbs) := by
    rw [h.retained_eq, List.filter_filter]
    apply List.filter_congr
    intro w _
    rw [← Bool.decide_and, decide_eq_decide, hfirst]
    split_ifs with hlt <;> simp at hlt <;> omega
  obtain ⟨rest', hpos⟩ := hpos
  have hloop := h.readRawLoop_eq [] (fun w hw => (List.mem_filter.mp hw).1)
    (h.at_filter hpos) hge.1
  simp only [RingBuffer.readRawFrom, readRawWindow, ← hfirst, hloop, Outcome.ok_bind, hahead,
    ne_eq, not_true_eq_false, false_and, if_false, List.nil_append, Outcome.pure_eq]

/-- What was taken in front of a cursor and what is retained from it on are, in order, a part of
the history. -/
lemma sublist_taken_append (h : ring.Represents written) {taken : List ReadRecord} {cursor : ℕ}
    (htaken : taken.Sublist written) (hbefore : ∀ w ∈ taken, w.startAbs < cursor) :
    (taken ++ (retained ring.headAbs ring.capacity written).filter fun w =>
      decide (cursor ≤ w.startAbs)).Sublist written := by
  have hsorted := pairwise_startAbs h.laid
  have hsplit : (written.filter fun w => decide (w.startAbs < cursor)) ++
      (written.filter fun w => decide (cursor ≤ w.startAbs)) = written := by
    rw [← takeWhile_lt_eq_filter hsorted, ← dropWhile_lt_eq_filter hsorted,
      List.takeWhile_append_dropWhile]
  have hparts : (taken ++ (retained ring.headAbs ring.capacity written).filter fun w =>
      decide (cursor ≤ w.startAbs)).Sublist ((written.filter fun w =>
        decide (w.startAbs < cursor)) ++ (written.filter fun w => decide (cursor ≤ w.startAbs))) := by
    refine List.Sublist.append ?_ (List.filter_sublist.filter _)
    rw [← List.filter_eq_self.mpr fun w hw => decide_eq_true (hbefore w hw)]
    exact htaken.filter _
  rwa [hsplit] at hparts

end Represents

/-- A run in two parts. -/
lemma writeAll_append (before after : List Record) (ring : RingBuffer) :
    writeAll (before ++ after) ring =
      ((writeAll after (writeAll before ring).1).1,
        (writeAll before ring).2 ++ (writeAll after (writeAll before ring).1).2) := by
  induction before generalizing ring with
  | nil => rfl
  | cons record before ih =>
    simp only [List.cons_append, writeAll]
    split
    · simp only [ih, List.cons_append]
    · exact ih _

/-- A cursor that was the head earlier in a run is a position of the log. -/
lemma at_cursor {fresh : RingBuffer} (hfresh : fresh.Represents []) (before after : List Record) :
    ∃ rest, At (logOf (writeAll (before ++ after) fresh).2) (writeAll before fresh).1.headAbs
      rest := by
  refine ⟨logOf (writeAll after (writeAll before fresh).1).2, ?_⟩
  rw [(hfresh.writeAll before).1.head, writeAll_append, List.nil_append]
  simp only [logOf, List.map_append]
  exact At.headOf_append _ _

/-- **The raw reader refines the index reader.** After any sequence of `write_record` calls,
accepted or rejected, on a new ring of any capacity, and from any cursor that is zero or is or
was the head, the raw reader succeeds and returns the same batch as the index reader: the same
records with the same spans, the same resume offset and the same `lapped` flag. -/
theorem raw_reader_refines_index_reader {capacity : ℕ} {fresh : RingBuffer}
    (hnew : new capacity = .ok fresh) (records : List Record) (cursor : ℕ)
    (hcursor : cursor = 0 ∨ ∃ before after, records = before ++ after ∧
      cursor = (writeAll before fresh).1.headAbs) :
    ∃ batch, (writeAll records fresh).1.readRawFrom cursor = .ok batch ∧
      (writeAll records fresh).1.readFrom cursor = .ok batch := by
  obtain ⟨hfresh, -⟩ := represents_new hnew
  have h := (hfresh.writeAll records).1
  rw [List.nil_append] at h
  have hpos : ∃ rest, At (logOf (writeAll records fresh).2) cursor rest := by
    rcases hcursor with rfl | ⟨before, after, rfl, rfl⟩
    · exact ⟨_, At.zero _⟩
    · exact at_cursor hfresh before after
  obtain ⟨rest, hpos⟩ := hpos
  exact ⟨_, h.readRawFrom hpos, h.readFrom cursor⟩

/-- A cursor taken at head 44 in a pool of 100, after two more records: the raw reader finds the
record behind the cursor and the one behind the gap. -/
theorem raw_reader_refines_index_reader_behind_gap :
    ∃ fresh batch, new 100 = .ok fresh ∧
      (writeAll (List.replicate 3 (Record.new 0 0 0 1 1)) fresh).1.readRawFrom 44 = .ok batch ∧
      batch.records.map (fun r => (r.startAbs, r.endAbs)) = [(44, 88), (100, 144)] ∧
      batch.nextAbs = 144 ∧ batch.lapped = false := by
  obtain ⟨batch, hraw, hindex⟩ := raw_reader_refines_index_reader
    (show new 100 = .ok _ from rfl)
    (List.replicate 3 (Record.new 0 0 0 1 1)) 44
    (Or.inr ⟨[Record.new 0 0 0 1 1], List.replicate 2 (Record.new 0 0 0 1 1), rfl,
      by decide +kernel⟩)
  refine ⟨_, batch, rfl, hraw, ?_⟩
  have hbatch : (writeAll (List.replicate 3 (Record.new 0 0 0 1 1))
      ⟨List.replicate 100 0, 0, 0, 0, 0, [], []⟩).1.readFrom 44 = .ok
        ⟨[⟨44, 88, ⟨8, 0, 0, 0, 1, 1, []⟩⟩, ⟨100, 144, ⟨8, 0, 0, 0, 1, 1, []⟩⟩], 144, false⟩ := by
    decide +kernel
  rw [hbatch] at hindex
  obtain rfl := Outcome.ok.inj hindex
  exact ⟨rfl, rfl, rfl⟩

end RingBuffer

end OpenOT
