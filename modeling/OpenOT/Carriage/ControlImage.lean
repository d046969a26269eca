import OpenOT.Carriage.Control
import OpenOT.Lib.Layout

set_option relaxedAutoImplicit false
set_option autoImplicit false

/-!
# Images of the control block

A snapshot is written out as a block of 88 bytes with an even `SeqLock`. The decoder accepts such
images and nothing else.

## Main definitions

* `OpenOT.ControlBlockSnapshot.encode` — the image of a snapshot.
* `OpenOT.ControlBlockSnapshot.Fits` — the values that the fields can hold.

## Main results

* `OpenOT.ControlBlockSnapshot.encode_eq` — an image, field by field.
* `OpenOT.decodeWithLocks_append` — what stands behind the block is not looked at.
* `OpenOT.control_block_exact` — the decoder accepts exactly the images.
-/

namespace OpenOT

open Rust Layout

namespace ControlBlockSnapshot

/-- Encodes a snapshot as an 88-byte image with a stable even `SeqLock`. -/
def encode (snapshot : ControlBlockSnapshot) (seqLock : UInt32) : Outcome ControlBlockError Bytes :=
  if seqLock % 2 ≠ 0 then .panic
  else do
    let bytes := List.replicate CONTROL_BLOCK_LEN (0 : UInt8)
    let bytes ← copyFromSlice bytes OFF_SYNC CONTROL_BLOCK_SYNC
    let bytes ← assign bytes OFF_VERSION snapshot.version
    let bytes ← assign bytes OFF_CAPS snapshot.caps
    let bytes ← copyFromSlice bytes OFF_BUFFER_ID (toLe 4 snapshot.bufferId.toNat)
    let bytes ← copyFromSlice bytes OFF_BUFFER_BYTES (toLe 4 snapshot.bufferBytes.toNat)
    let bytes ← copyFromSlice bytes OFF_SEQ_LOCK (toLe 4 seqLock.toNat)
    let bytes ← copyFromSlice bytes OFF_HEAD_ABS (toLe 8 snapshot.headAbs)
    let bytes ← copyFromSlice bytes OFF_OLDEST_ABS (toLe 8 snapshot.oldestAbs)
    let bytes ← copyFromSlice bytes OFF_LOST_COUNT (toLe 8 snapshot.lostCount)
    let bytes ← copyFromSlice bytes OFF_RUN_ID (toLe 8 snapshot.runId.toNat)
    let bytes ← copyFromSlice bytes OFF_EPOCH_ID (toLe 8 snapshot.epochId.toNat)
    let bytes ← copyFromSlice bytes OFF_EPOCH_FIRST_ABS (toLe 8 snapshot.epochFirstAbs)
    let bytes ← copyFromSlice bytes OFF_DEFINITION_HASH snapshot.definitionHash
    copyFromSlice bytes OFF_PREV_DEFINITION_HASH snapshot.prevDefinitionHash

/-- The fields can hold the values: the offsets are words and the hashes have eight bytes. -/
structure Fits (snapshot : ControlBlockSnapshot) : Prop where
  headAbs : snapshot.headAbs < 2 ^ 64
  oldestAbs : snapshot.oldestAbs < 2 ^ 64
  lostCount : snapshot.lostCount < 2 ^ 64
  epochFirstAbs : snapshot.epochFirstAbs < 2 ^ 64
  definitionHash : snapshot.definitionHash.length = 8
  prevDefinitionHash : snapshot.prevDefinitionHash.length = 8

/-- The fields of an image, in order. -/
def fields (snapshot : ControlBlockSnapshot) (seqLock : UInt32) : List Bytes :=
  [CONTROL_BLOCK_SYNC, [snapshot.version], [snapshot.caps], [0, 0],
    toLe 4 snapshot.bufferId.toNat, toLe 4 snapshot.bufferBytes.toNat, toLe 4 seqLock.toNat,
    [0, 0, 0, 0], toLe 8 snapshot.headAbs, toLe 8 snapshot.oldestAbs, toLe 8 snapshot.lostCount,
    toLe 8 snapshot.runId.toNat, toLe 8 snapshot.epochId.toNat, toLe 8 snapshot.epochFirstAbs,
    snapshot.definitionHash, snapshot.prevDefinitionHash]

/-- The widths of the fields. -/
def widths : List ℕ := [4, 1, 1, 2, 4, 4, 4, 4, 8, 8, 8, 8, 8, 8, 8, 8]

lemma map_length_fields {snapshot : ControlBlockSnapshot} (h : snapshot.Fits) (seqLock : UInt32) :
    (snapshot.fields seqLock).map List.length = widths := by
  simp [fields, widths, h.definitionHash, h.prevDefinitionHash, CONTROL_BLOCK_SYNC]

/-- **An image**, field by field. -/
lemma encode_eq {snapshot : ControlBlockSnapshot} {seqLock : UInt32} (h : snapshot.Fits)
    (heven : seqLock % 2 = 0) :
    snapshot.encode seqLock = .ok (snapshot.fields seqLock).flatten := by
  have hzero : List.replicate CONTROL_BLOCK_LEN (0 : UInt8) =
      (widths.map fun w => List.replicate w (0 : UInt8)).flatten := by
    rw [CONTROL_BLOCK_LEN]
    rfl
  rw [encode, if_neg (not_not.mpr heven), hzero]
  refine Eq.trans (bind_copyFromSlice 0 rfl rfl rfl) ?_
  refine Eq.trans (bind_assign 1 rfl rfl) ?_
  refine Eq.trans (bind_assign 2 rfl rfl) ?_
  refine Eq.trans (bind_copyFromSlice 4 rfl rfl rfl) ?_
  refine Eq.trans (bind_copyFromSlice 5 rfl rfl rfl) ?_
  refine Eq.trans (bind_copyFromSlice 6 rfl rfl rfl) ?_
  refine Eq.trans (bind_copyFromSlice 8 rfl rfl rfl) ?_
  refine Eq.trans (bind_copyFromSlice 9 rfl rfl rfl) ?_
  refine Eq.trans (bind_copyFromSlice 10 rfl rfl rfl) ?_
  refine Eq.trans (bind_copyFromSlice 11 rfl rfl rfl) ?_
  refine Eq.trans (bind_copyFromSlice 12 rfl rfl rfl) ?_
  refine Eq.trans (bind_copyFromSlice 13 rfl rfl rfl) ?_
  refine Eq.trans (bind_copyFromSlice 14 rfl rfl h.definitionHash) ?_
  refine Eq.trans (copyFromSlice_field 15 rfl ?_ h.prevDefinitionHash) rfl
  simp [widths, h.definitionHash, CONTROL_BLOCK_SYNC, OFF_PREV_DEFINITION_HASH]

/-- The fields of a block. -/
lemma splitLengths_widths (block : Bytes) :
    widths.splitLengths block =
      [controlField block OFF_SYNC 4, controlField block OFF_VERSION 1, controlField block OFF_CAPS 1,
        controlField block OFF_RESERVED 2, controlField block OFF_BUFFER_ID 4,
        controlField block OFF_BUFFER_BYTES 4, controlField block OFF_SEQ_LOCK 4,
        controlField block OFF_RESERVED2 4, controlField block OFF_HEAD_ABS 8,
        controlField block OFF_OLDEST_ABS 8, controlField block OFF_LOST_COUNT 8,
        controlField block OFF_RUN_ID 8, controlField block OFF_EPOCH_ID 8,
        controlField block OFF_EPOCH_FIRST_ABS 8, controlField block OFF_DEFINITION_HASH 8,
        controlField block OFF_PREV_DEFINITION_HASH 8] := by
  simp only [widths, List.splitLengths_cons, List.splitLengths_nil, List.drop_drop]
  rfl

/-- A block is an image exactly if its fields are those of the snapshot. -/
lemma eq_image_iff {snapshot : ControlBlockSnapshot} (h : snapshot.Fits) {block : Bytes}
    (hlen : block.length = CONTROL_BLOCK_LEN) (seqLock : UInt32) :
    block = (snapshot.fields seqLock).flatten ↔
      widths.splitLengths block = snapshot.fields seqLock := by
  rw [eq_flatten_iff, map_length_fields h]
  rw [map_length_fields h, hlen, CONTROL_BLOCK_LEN]
  rfl

end ControlBlockSnapshot

/-! ## Decoding -/

/-- **What stands behind the block is not looked at.** -/
lemma decodeWithLocks_append {block rest : Bytes} (hlen : block.length = CONTROL_BLOCK_LEN)
    (first second : UInt32) :
    decodeWithLocks (block ++ rest) first second = decodeWithLocks block first second := by
  rw [CONTROL_BLOCK_LEN] at hlen
  have hslice : ∀ offset n, offset + n ≤ 88 →
      (slice (block ++ rest) offset (offset + n) : Outcome ControlBlockError Bytes) =
        slice block offset (offset + n) := by
    intro offset n hle
    rw [slice_of_le (by omega) (by simp; omega), slice_of_le (by omega) (by omega),
      List.take_append_of_le_length (by omega)]
  have hindex : ∀ offset, offset < 88 →
      (index (block ++ rest) offset : Outcome ControlBlockError UInt8) = index block offset := by
    intro offset hlt
    rw [index_of_lt (by simp; omega), index_of_lt (by omega), List.getElem_append_left]
  have hfield : ∀ offset n, offset + n ≤ 88 →
      ((block ++ rest).drop offset).take n = (block.drop offset).take n := by
    intro offset n hle
    rw [List.drop_append_of_le_length (by omega), List.take_append_of_le_length (by simp; omega)]
  have hu32 : ∀ offset, offset + 4 ≤ 88 →
      (readU32 (block ++ rest) offset : Outcome ControlBlockError UInt32) =
        readU32 block offset := by
    intro offset hle
    rw [readU32_eq (by simp; omega), readU32_eq (by omega), hfield _ _ hle]
  have hu64 : ∀ offset, offset + 8 ≤ 88 →
      (readU64 (block ++ rest) offset : Outcome ControlBlockError UInt64) =
        readU64 block offset := by
    intro offset hle
    rw [readU64_eq (by simp; omega), readU64_eq (by omega), hfield _ _ hle]
  have hblock : ¬block.length < CONTROL_BLOCK_LEN := by
    rw [CONTROL_BLOCK_LEN]
    omega
  have hbytes : ¬(block ++ rest).length < CONTROL_BLOCK_LEN := by
    rw [List.length_append]
    omega
  rw [decodeWithLocks, if_neg hbytes, hslice _ _ (by decide), hslice _ _ (by decide),
    hslice _ _ (by decide), hslice _ _ (by decide), hslice _ _ (by decide), hindex _ (by decide),
    hindex _ (by decide), hu32 _ (by decide), hu32 _ (by decide), hu32 _ (by decide),
    hu64 _ (by decide), hu64 _ (by decide), hu64 _ (by decide), hu64 _ (by decide),
    hu64 _ (by decide), hu64 _ (by decide), decodeWithLocks, if_neg hblock]

open ControlBlockSnapshot

/-- The decoder accepts the image of a snapshot. -/
lemma decodeWithLocks_image {snapshot : ControlBlockSnapshot} (h : snapshot.Fits)
    {seqLock : UInt32} (heven : seqLock % 2 = 0) {block : Bytes}
    (hblock : block = (snapshot.fields seqLock).flatten) :
    block.length = CONTROL_BLOCK_LEN ∧ decodeWithLocks block seqLock seqLock = .ok snapshot := by
  have hlen : block.length = CONTROL_BLOCK_LEN := by
    rw [hblock, List.length_flatten, map_length_fields h, CONTROL_BLOCK_LEN]
    rfl
  refine ⟨hlen, ?_⟩
  have hfields := (eq_image_iff h hlen seqLock).mp hblock
  rw [splitLengths_widths] at hfields
  simp only [ControlBlockSnapshot.fields, List.cons.injEq, and_true] at hfields
  obtain ⟨hsync, hversion, hcaps, hreserved, hid, hcapacity, hlock, hreserved2, hhead, holdest,
    hlost, hrun, hepoch, hfirst, hhash, hprev⟩ := hfields
  have hbyte : ∀ offset b, controlField block offset 1 = [b] → block.getD offset 0 = b := by
    intro offset b hb
    have := congrArg (·[0]?) hb
    simp [controlField] at this
    rw [List.getD_eq_getElem?_getD, this, Option.getD_some]
  have hword : ∀ n, n < 2 ^ 64 → fromLe (toLe 8 n) = n := by
    intro n hn
    rw [fromLe_toLe, Nat.mod_eq_of_lt (by simpa using hn)]
  rw [decodeWithLocks_eq hlen, hsync, if_neg (not_not.mpr rfl), if_neg (not_not.mpr heven),
    if_neg (not_not.mpr rfl), hlock, ofNat_fromLe_toLe_u32, if_neg (not_not.mpr rfl), hreserved,
    hreserved2, if_neg (by simp), hbyte _ _ hversion, hbyte _ _ hcaps, hid, hcapacity, hhead,
    holdest, hlost, hrun, hepoch, hfirst, hhash, hprev, ofNat_fromLe_toLe_u32,
    ofNat_fromLe_toLe_u32, ofNat_fromLe_toLe_u64, ofNat_fromLe_toLe_u64, hword _ h.headAbs,
    hword _ h.oldestAbs, hword _ h.lostCount, hword _ h.epochFirstAbs]

/-- What the decoder accepts is the image of the snapshot it returns. -/
lemma of_decodeWithLocks {block : Bytes} (hlen : block.length = CONTROL_BLOCK_LEN)
    {first second : UInt32} {snapshot : ControlBlockSnapshot}
    (h : decodeWithLocks block first second = .ok snapshot) :
    snapshot.Fits ∧ first % 2 = 0 ∧ first = second ∧
      block = (snapshot.fields first).flatten := by
  rw [decodeWithLocks_eq hlen] at h
  obtain ⟨hsync, h⟩ := Outcome.of_ite_err h
  obtain ⟨heven, h⟩ := Outcome.of_ite_err h
  obtain ⟨hsame, h⟩ := Outcome.of_ite_err h
  obtain ⟨hlock, h⟩ := Outcome.of_ite_err h
  obtain ⟨hreserved, h⟩ := Outcome.of_ite_err h
  rw [not_or] at hreserved
  have hwidth : ∀ offset n, offset + n ≤ 88 → (controlField block offset n).length = n := by
    intro offset n hle
    rw [CONTROL_BLOCK_LEN] at hlen
    simp only [controlField, List.length_take, List.length_drop]
    omega
  have hword : ∀ offset, offset + 8 ≤ 88 → fromLe (controlField block offset 8) < 2 ^ 64 := by
    intro offset hle
    simpa [hwidth offset 8 hle] using fromLe_lt (controlField block offset 8)
  have hfits : snapshot.Fits := by
    obtain rfl := Outcome.ok.inj h
    exact ⟨hword _ (by decide), hword _ (by decide), hword _ (by decide), hword _ (by decide),
      hwidth _ _ (by decide), hwidth _ _ (by decide)⟩
  refine ⟨hfits, not_not.mp heven, not_not.mp hsame, ?_⟩
  rw [eq_image_iff hfits hlen, splitLengths_widths]
  obtain rfl := Outcome.ok.inj h
  have hbyte : ∀ offset, offset + 1 ≤ 88 →
      controlField block offset 1 = [block.getD offset 0] := by
    intro offset hle
    rw [CONTROL_BLOCK_LEN] at hlen
    have hlt : offset < block.length := by omega
    rw [controlField, List.drop_eq_getElem_cons hlt, List.take_succ_cons, List.take_zero,
      List.getD_eq_getElem?_getD, List.getElem?_eq_getElem hlt, Option.getD_some]
  have hu64 : ∀ offset, offset + 8 ≤ 88 →
      toLe 8 (fromLe (controlField block offset 8)) = controlField block offset 8 := by
    intro offset hle
    have := toLe_fromLe (controlField block offset 8)
    rwa [hwidth offset 8 hle] at this
  have hlock' := congrArg (fun lock : UInt32 => toLe 4 lock.toNat) (not_not.mp hlock)
  simp only [toLe_ofNat_fromLe_u32 (hwidth OFF_SEQ_LOCK 4 (by decide))] at hlock'
  rw [ControlBlockSnapshot.fields, not_not.mp hsync, not_not.mp hreserved.1,
    not_not.mp hreserved.2, hbyte _ (by decide), hbyte _ (by decide), hlock',
    toLe_ofNat_fromLe_u32 (hwidth _ _ (by decide)), toLe_ofNat_fromLe_u32 (hwidth _ _ (by decide)),
    hu64 _ (by decide), hu64 _ (by decide), hu64 _ (by decide), hu64 _ (by decide),
    toLe_ofNat_fromLe_u64 (hwidth _ _ (by decide)), toLe_ofNat_fromLe_u64 (hwidth _ _ (by decide))]

/-- **The decoder accepts exactly the images.** A snapshot is returned for some bytes and two
observations of `SeqLock` exactly if the observations agree and the first 88 bytes are what
`encode` writes for the snapshot and this lock. -/
theorem control_block_exact (bytes : Bytes) (first second : UInt32)
    (snapshot : ControlBlockSnapshot) :
    decodeWithLocks bytes first second = .ok snapshot ↔
      snapshot.Fits ∧ first = second ∧
        snapshot.encode first = .ok (bytes.take CONTROL_BLOCK_LEN) := by
  constructor
  · intro h
    have hlen : (bytes.take CONTROL_BLOCK_LEN).length = CONTROL_BLOCK_LEN := by
      rw [decodeWithLocks] at h
      have := (Outcome.of_ite_err h).1
      rw [List.length_take]
      omega
    rw [← List.take_append_drop CONTROL_BLOCK_LEN bytes, decodeWithLocks_append hlen] at h
    obtain ⟨hfits, heven, hsame, hblock⟩ := of_decodeWithLocks hlen h
    exact ⟨hfits, hsame, by rw [encode_eq hfits heven, ← hblock]⟩
  · rintro ⟨hfits, rfl, hencode⟩
    have heven : first % 2 = 0 := by
      by_contra hodd
      rw [ControlBlockSnapshot.encode, if_pos hodd] at hencode
      cases hencode
    rw [encode_eq hfits heven] at hencode
    obtain ⟨hlen, hdecode⟩ := decodeWithLocks_image hfits heven (Outcome.ok.inj hencode).symm
    rw [← List.take_append_drop CONTROL_BLOCK_LEN bytes, decodeWithLocks_append hlen, hdecode]

end OpenOT
