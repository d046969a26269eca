import OpenOT.Carriage.Captured
import OpenOT.Carriage.Polling

set_option relaxedAutoImplicit false
set_option autoImplicit false

/-!
# Reads through a snapshot

A consumer may read the pool through a control snapshot: the parser is that of the raw reader, but
the window comes from the snapshot, and so does the oldest offset of every re-check. The bytes may
be those of a captured image, or of a ring that has taken more records since the snapshot.

## Main definitions

* `OpenOT.RingBuffer.readRawFromSnapshot` — a raw read through a snapshot.
* `OpenOT.RawByteConsumer.pollSnapshot` — a poll through a snapshot.
* `OpenOT.ControlBlockSnapshot.Shows` — the snapshot was taken of a ring.

## Main results

* `OpenOT.RingBuffer.readRawLoop_cut` — an earlier head cuts a walk short, and does nothing else.
* `OpenOT.RingBuffer.Represents.readRawWindow_shown` — the window of a snapshot over later bytes.
* `OpenOT.snapshot_poll_delayed` — a poll through a snapshot is a poll at the time of the snapshot.
-/

namespace OpenOT

open Rust CircularLog

/-- Reads raw bytes with the head and the oldest offset of a snapshot. -/
def RingBuffer.readRawFromSnapshot (ring : RingBuffer) (cursorAbs : ℕ)
    (snapshot : ControlBlockSnapshot) : Outcome RingError ReadBatch :=
  let snapshotBytes := snapshot.bufferBytes.toNat
  if snapshotBytes ≠ ring.capacity then
    .err (.controlBlockCapacityMismatch snapshot.bufferBytes ring.capacity)
  else ring.readRawWindow cursorAbs snapshot.headAbs snapshot.oldestAbs snapshot.oldestAbs

/-- Walks the new bytes of a ring with the window of a snapshot. -/
def RawByteConsumer.pollSnapshot (ring : RingBuffer) (snapshot : ControlBlockSnapshot) :
    Mut RawByteConsumer RingError ReadBatch := do
  let consumer ← Mut.get
  let batch ← Mut.lift (ring.readRawFromSnapshot consumer.cursorAbs snapshot)
  accountBatch batch
  pure batch

/-- The positions of a snapshot are those of a ring. -/
structure ControlBlockSnapshot.Shows (snapshot : ControlBlockSnapshot) (ring : RingBuffer) :
    Prop where
  headAbs : snapshot.headAbs = ring.headAbs
  oldestAbs : snapshot.oldestAbs = ring.oldestAbs

namespace RingBuffer

/-! ## Walks over the same bytes -/

/-- **An earlier head cuts a walk short**: over the same bytes it finds the records that begin before
it. The oldest offsets do not matter as long as they are not ahead of the walk. -/
lemma readRawLoop_cut {ring ring' : RingBuffer} (hbytes : ring'.bytes = ring.bytes)
    {headAbs headAbs' oldest oldest' after after' abs : ℕ} {acc acc' found : List ReadRecord}
    (h : readRawLoop ring headAbs oldest after abs acc = .ok (acc ++ found))
    (hhead : headAbs' ≤ headAbs) (holdest : oldest' ≤ abs) (hafter : after' ≤ abs) :
    readRawLoop ring' headAbs' oldest' after' abs acc' =
      .ok (acc' ++ found.filter fun r => decide (r.startAbs < headAbs')) := by
  induction hmeasure : headAbs - abs using Nat.strong_induction_on
    generalizing abs acc acc' found with
  | _ m ih =>
    subst hmeasure
    by_cases hlt' : abs < headAbs'
    swap
    · -- the walk ends here, and whatever the longer one finds begins behind its end
      obtain ⟨found', hfound, hwalk⟩ := walk_of_readRawLoop h
      rw [List.append_cancel_left_eq] at hfound
      have hnone : (found.filter fun r => decide (r.startAbs < headAbs')) = [] := by
        rw [List.filter_eq_nil_iff]
        intro r hr
        have := hwalk.start_mem (hfound ▸ hr)
        simp
        omega
      rw [readRawLoop, if_neg hlt', hnone, List.append_nil]
    have hcapacity : ring'.capacity = ring.capacity := congrArg List.length hbytes
    rw [readRawLoop, if_pos (show abs < headAbs by omega)] at h
    obtain ⟨-, h⟩ := Outcome.of_ite_err h
    obtain ⟨hcap, h⟩ := Outcome.of_ite_panic h
    have hphys := Nat.mod_lt abs (Nat.pos_of_ne_zero hcap)
    obtain ⟨first, hfirst, h⟩ := Outcome.bind_eq_ok.mp h
    rw [readRawLoop, if_pos hlt', if_neg (by omega), hcapacity, if_neg hcap, hbytes]
    simp only [hfirst, Outcome.ok_bind]
    by_cases hzero : first = 0
    · rw [if_pos hzero] at h ⊢
      obtain ⟨hstart, h⟩ := Outcome.of_ite_err h
      rw [if_neg hstart]
      exact ih _ (by omega) h (by omega) (by omega) rfl
    rw [if_neg hzero] at h ⊢
    obtain ⟨hheader, h⟩ := Outcome.of_ite_err h
    obtain ⟨sync, hsync, h⟩ := Outcome.bind_eq_ok.mp h
    obtain ⟨hmagic, h⟩ := Outcome.of_ite_err h
    obtain ⟨totalLen, htotal, h⟩ := Outcome.bind_eq_ok.mp h
    obtain ⟨hshort, h⟩ := Outcome.of_ite_err h
    obtain ⟨hcross, h⟩ := Outcome.of_ite_err h
    obtain ⟨span, hspan, h⟩ := Outcome.bind_eq_ok.mp h
    obtain ⟨decoded, hdecode, h⟩ := Outcome.bind_eq_ok.mp h
    obtain ⟨-, h⟩ := Outcome.of_ite_err h
    rw [if_neg hheader, hsync, Outcome.ok_bind, if_neg hmagic, htotal, Outcome.ok_bind,
      if_neg hshort, if_neg hcross, hspan, Outcome.ok_bind, hdecode, Outcome.ok_bind,
      if_neg (by omega)]
    unfold HEADER_LEN at hshort
    obtain ⟨found', hfound, -⟩ := walk_of_readRawLoop h
    rw [List.append_assoc, List.append_cancel_left_eq, List.singleton_append] at hfound
    subst hfound
    rw [ih _ (by omega) (h.trans (by rw [List.append_cons])) (by omega) (by omega) rfl,
      List.filter_cons_of_pos (by simpa using hlt'), List.append_assoc, List.singleton_append]

/-! ## Later bytes -/

namespace Represents

variable {ring later image : RingBuffer} {written more : List ReadRecord} {cursor : ℕ}
  {rest : List (Entry UInt8)}

/-- **The window of a snapshot over later bytes.** As long as nothing from the start of the window
on has been evicted since, the records found are those that were found then. -/
lemma readRawWindow_shown (h : ring.Represents written) (hlater : later.Represents (written ++ more))
    (hbytes : image.bytes = later.bytes) (hat : At (logOf written) cursor rest)
    (hkept : later.oldestAbs ≤ max cursor ring.oldestAbs) :
    image.readRawWindow cursor ring.headAbs ring.oldestAbs ring.oldestAbs =
      ring.readRawFrom cursor := by
  set first := if decide (cursor < ring.oldestAbs) then ring.oldestAbs else cursor with hfirst
  have hge : ring.oldestAbs ≤ first ∧ later.oldestAbs ≤ first := by
    rw [hfirst]
    split_ifs with hlt <;> simp at hlt <;> omega
  have hpos : ∃ rest, At (logOf written) first rest := by
    rw [hfirst]
    split_ifs with hlt
    · exact h.at_oldest
    · exact ⟨rest, hat⟩
  obtain ⟨rest', hpos⟩ := hpos
  -- the walk at the time of the snapshot, and the walk over all that the later bytes hold
  have hthen := h.readRawLoop_eq [] (fun w hw => (List.mem_filter.mp hw).1) (h.at_filter hpos) hge.1
  have hgrown : ∃ rest, At (logOf (written ++ more)) first rest := by
    simp only [logOf, List.map_append]
    exact ⟨_, hpos.append⟩
  obtain ⟨rest'', hgrown⟩ := hgrown
  have hnow := hlater.readRawLoop_eq [] (fun w hw => (List.mem_filter.mp hw).1)
    (hlater.at_filter hgrown) hge.2
  have hle : ring.headAbs ≤ later.headAbs := by
    have hlaid := hlater.laid
    rw [logOf, List.map_append] at hlaid
    rw [h.head, hlater.head, logOf, logOf, List.map_append]
    exact hlaid.headOf_le
  have hcut : readRawLoop image ring.headAbs ring.oldestAbs ring.oldestAbs first [] = _ :=
    readRawLoop_cut hbytes hnow hle hge.1 hge.1
  -- what was written since begins at the old head or behind it
  have hmore : ∀ w ∈ more, ring.headAbs ≤ w.startAbs := by
    intro w hw
    have hlaid := hlater.laid
    rw [logOf, List.map_append] at hlaid
    rw [h.head]
    exact hlaid.head_le_of_mem (List.mem_map_of_mem hw)
  have hsame : (((written ++ more).filter fun w => decide (first ≤ w.startAbs)).map
      ReadRecord.delivered).filter (fun r => decide (r.startAbs < ring.headAbs)) =
      (written.filter fun w => decide (first ≤ w.startAbs)).map ReadRecord.delivered := by
    rw [List.filter_map, List.filter_append, List.filter_append]
    have hold : ((written.filter fun w => decide (first ≤ w.startAbs)).filter
        ((fun r => decide (r.startAbs < ring.headAbs)) ∘ ReadRecord.delivered)) =
        written.filter fun w => decide (first ≤ w.startAbs) :=
      List.filter_eq_self.mpr fun w hw =>
        decide_eq_true (show w.startAbs < _ from h.startAbs_lt_head (List.mem_filter.mp hw).1)
    have hnew : ((more.filter fun w => decide (first ≤ w.startAbs)).filter
        ((fun r => decide (r.startAbs < ring.headAbs)) ∘ ReadRecord.delivered)) = [] := by
      rw [List.filter_eq_nil_iff]
      intro w hw
      exact mt of_decide_eq_true (Nat.not_lt.mpr (hmore w (List.mem_filter.mp hw).1))
    rw [hold, hnew, List.append_nil]
  simp only [RingBuffer.readRawFrom, readRawWindow, ← hfirst, hthen, hcut, hsame, Outcome.ok_bind,
    List.nil_append]

end Represents

end RingBuffer

/-! ## Polls through a snapshot -/

namespace RawByteConsumer

variable {ring image : RingBuffer} {snapshot : ControlBlockSnapshot} {consumer : RawByteConsumer}

/-- A poll through a snapshot whose read is that of another ring. -/
lemma pollSnapshot_of_read (h : image.readRawFromSnapshot consumer.cursorAbs snapshot =
    ring.readRawFrom consumer.cursorAbs) :
    pollSnapshot image snapshot consumer = poll ring consumer := by
  simp only [pollSnapshot, poll, Mut.bind_of_ok (show Mut.get consumer = (.ok consumer, consumer)
    from rfl), h]

/-- A poll through a snapshot whose read fails. -/
lemma pollSnapshot_of_err {e : RingError}
    (h : image.readRawFromSnapshot consumer.cursorAbs snapshot = .err e) :
    pollSnapshot image snapshot consumer = (.err e, consumer) := by
  simp only [pollSnapshot, Mut.bind_of_ok (show Mut.get consumer = (.ok consumer, consumer)
    from rfl), h]
  rfl

end RawByteConsumer

/-- **A poll through a snapshot is a poll at the time of the snapshot.** A consumer whose cursor is
zero or a head up to that time reads, through a control snapshot, the bytes of a ring that has taken
more records since, or a captured image of them. If the snapshot names the capacity and nothing from
the start of its window on has been evicted since, the poll ends as it would have ended then, and
leaves the same cursor and the same loss accounts; if it names another capacity, it is refused. -/
theorem snapshot_poll_delayed {capacity : ℕ} {fresh : RingBuffer}
    (hnew : RingBuffer.new capacity = .ok fresh) (before after : List Record)
    (consumer : RawByteConsumer)
    (hcursor : consumer.cursorAbs = 0 ∨ ∃ first second, before = first ++ second ∧
      consumer.cursorAbs = (RingBuffer.writeAll first fresh).1.headAbs)
    (snapshot : ControlBlockSnapshot)
    (hshows : snapshot.Shows (RingBuffer.writeAll before fresh).1)
    (hkept : (RingBuffer.writeAll (before ++ after) fresh).1.oldestAbs ≤
      max consumer.cursorAbs snapshot.oldestAbs) :
    ∃ image, RingBuffer.fromCaptured (RingBuffer.writeAll (before ++ after) fresh).1.bytes
        snapshot.headAbs snapshot.oldestAbs snapshot.lostCount = .ok image ∧
      ∀ ring ∈ [image, (RingBuffer.writeAll (before ++ after) fresh).1],
        RawByteConsumer.pollSnapshot ring snapshot consumer =
          if snapshot.bufferBytes.toNat = capacity then
            RawByteConsumer.poll (RingBuffer.writeAll before fresh).1 consumer
          else (.err (.controlBlockCapacityMismatch snapshot.bufferBytes capacity), consumer) := by
  obtain ⟨hfresh, hcapacity⟩ := RingBuffer.represents_new hnew
  obtain ⟨hrep, hcap⟩ := hfresh.writeAll before
  obtain ⟨hlater, hcap'⟩ := hrep.writeAll after
  rw [List.nil_append] at hrep hlater
  have hsplit : (RingBuffer.writeAll (before ++ after) fresh).1 =
      (RingBuffer.writeAll after (RingBuffer.writeAll before fresh).1).1 := by
    rw [RingBuffer.writeAll_append]
  rw [hsplit] at hkept ⊢
  set ring := (RingBuffer.writeAll before fresh).1 with hring
  set later := (RingBuffer.writeAll after ring).1
  have hlength : later.bytes.length = capacity := hcap'.trans (hcap.trans hcapacity)
  obtain ⟨hordered, hwindow⟩ := hrep.window
  have hpos : ∃ rest, At (logOf (RingBuffer.writeAll before fresh).2) consumer.cursorAbs rest := by
    rcases hcursor with hzero | ⟨first, second, rfl, hhead⟩
    · exact ⟨_, hzero ▸ At.zero _⟩
    · exact hhead ▸ RingBuffer.at_cursor hfresh first second
  obtain ⟨rest, hpos⟩ := hpos
  have hread : ∀ image : RingBuffer, image.bytes = later.bytes →
      image.readRawFromSnapshot consumer.cursorAbs snapshot =
        if snapshot.bufferBytes.toNat = capacity then ring.readRawFrom consumer.cursorAbs
        else .err (.controlBlockCapacityMismatch snapshot.bufferBytes capacity) := by
    intro image hbytes
    have himage : image.capacity = capacity := (congrArg List.length hbytes).trans hlength
    simp only [RingBuffer.readRawFromSnapshot, himage, ne_eq, ite_not]
    rw [hshows.oldestAbs] at hkept ⊢
    rw [hshows.headAbs, hrep.readRawWindow_shown hlater hbytes hpos hkept]
  refine ⟨⟨later.bytes, snapshot.headAbs, snapshot.oldestAbs, snapshot.lostCount, 0, [], []⟩, ?_, ?_⟩
  · rw [RingBuffer.fromCaptured, hshows.headAbs, hshows.oldestAbs, hlength, ← hcapacity, ← hcap,
      if_neg hrep.capacity_pos.ne', if_neg (by omega), if_neg (by omega)]
  · intro image himage
    have hbytes : image.bytes = later.bytes := by
      rcases List.mem_pair.mp himage with rfl | rfl <;> rfl
    have hread := hread image hbytes
    split_ifs with hsize
    · rw [if_pos hsize] at hread
      exact RawByteConsumer.pollSnapshot_of_read hread
    · rw [if_neg hsize] at hread
      exact RawByteConsumer.pollSnapshot_of_err hread

/-- Two records of 44 bytes in a pool of 100 bytes, as a snapshot shows them. -/
def twoRecordsShown : ControlBlockSnapshot where
  version := 2
  caps := 0
  bufferId := DEFAULT_BUFFER_ID
  bufferBytes := 100
  headAbs := 88
  oldestAbs := 0
  lostCount := 0
  runId := 1
  epochId := 1
  epochFirstAbs := 0
  definitionHash := List.replicate 8 0
  prevDefinitionHash := List.replicate 8 0

/-- The first record has been evicted since, and the consumer is behind it. -/
theorem snapshot_poll_delayed_behind_eviction : ∃ fresh image,
    RingBuffer.new 100 = .ok fresh ∧
      (RingBuffer.writeAll (List.replicate 3 (Record.new 0 0 0 1 1)) fresh).1.oldestAbs = 44 ∧
      RawByteConsumer.pollSnapshot image twoRecordsShown ⟨44, .new DEFAULT_BUFFER_ID⟩ =
        RawByteConsumer.poll (RingBuffer.writeAll (List.replicate 2 (Record.new 0 0 0 1 1)) fresh).1
          ⟨44, .new DEFAULT_BUFFER_ID⟩ := by
  obtain ⟨fresh, hnew⟩ : ∃ fresh, RingBuffer.new 100 = .ok fresh := ⟨_, rfl⟩
  obtain ⟨hhead, hpositions, holdest⟩ :
      (RingBuffer.writeAll [Record.new 0 0 0 1 1] fresh).1.headAbs = 44 ∧
        ((RingBuffer.writeAll (List.replicate 2 (Record.new 0 0 0 1 1)) fresh).1.headAbs,
          (RingBuffer.writeAll (List.replicate 2 (Record.new 0 0 0 1 1)) fresh).1.oldestAbs) =
            (88, 0) ∧
        (RingBuffer.writeAll (List.replicate 3 (Record.new 0 0 0 1 1)) fresh).1.oldestAbs = 44 := by
    obtain rfl := Outcome.ok.inj hnew
    decide +kernel
  obtain ⟨image, -, hpoll⟩ := snapshot_poll_delayed hnew
    (List.replicate 2 (Record.new 0 0 0 1 1)) [Record.new 0 0 0 1 1]
    ⟨44, .new DEFAULT_BUFFER_ID⟩
    (Or.inr ⟨[Record.new 0 0 0 1 1], [Record.new 0 0 0 1 1], rfl, hhead.symm⟩) twoRecordsShown
    ⟨(Prod.mk.inj hpositions).1.symm, (Prod.mk.inj hpositions).2.symm⟩
    (le_trans (le_of_eq holdest) (le_max_left _ _))
  exact ⟨fresh, image, hnew, holdest, hpoll image List.mem_cons_self⟩

end OpenOT
