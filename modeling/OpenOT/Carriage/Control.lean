import OpenOT.Carriage.Wire

set_option relaxedAutoImplicit false
set_option autoImplicit false

/-!
# The control block

The 88-byte shared-memory control block of `control.rs`: its field offsets, the snapshot a
consumer works from, and the decoder that checks the seqlock words around the read.

## Main definitions

* `OpenOT.ControlBlockSnapshot` — the producer-owned fields.
* `OpenOT.decodeWithLocks` — a snapshot from the bytes and the two seqlock words observed.

## Main results

* `OpenOT.decodeWithLocks_eq`, `OpenOT.decodeWithLocks_cases` — how the decoder ends.
-/

namespace OpenOT

open Rust

/-! ## Layout -/

-- kept folded, so that a statement about a copy of the block is not unfolded into its loads
@[irreducible] def CONTROL_BLOCK_LEN : ℕ := 88
def CONTROL_BLOCK_SYNC : Bytes := [0x4F, 0x4F, 0x54, 0x32]
def OFF_SYNC : ℕ := 0
def OFF_VERSION : ℕ := 4
def OFF_CAPS : ℕ := 5
def OFF_RESERVED : ℕ := 6
def OFF_BUFFER_ID : ℕ := 8
def OFF_BUFFER_BYTES : ℕ := 12
def OFF_SEQ_LOCK : ℕ := 16
def OFF_RESERVED2 : ℕ := 20
def OFF_HEAD_ABS : ℕ := 24
def OFF_OLDEST_ABS : ℕ := 32
def OFF_LOST_COUNT : ℕ := 40
def OFF_RUN_ID : ℕ := 48
def OFF_EPOCH_ID : ℕ := 56
def OFF_EPOCH_FIRST_ABS : ℕ := 64
def OFF_DEFINITION_HASH : ℕ := 72
def OFF_PREV_DEFINITION_HASH : ℕ := 80

/-- The logical buffer id used when a single ring is in play. -/
def DEFAULT_BUFFER_ID : UInt32 := 1

/-- A snapshot of the producer-owned control block fields. -/
structure ControlBlockSnapshot where
  version : UInt8
  caps : UInt8
  bufferId : UInt32
  bufferBytes : UInt32
  headAbs : ℕ
  oldestAbs : ℕ
  lostCount : ℕ
  runId : UInt64
  epochId : UInt64
  epochFirstAbs : ℕ
  definitionHash : Bytes
  prevDefinitionHash : Bytes
  deriving DecidableEq, Repr

/-- Errors from reading the shared-memory control block. -/
inductive ControlBlockError where
  | truncated (needed available : ℕ)
  | wrongSync
  | updating (seqLock : UInt32)
  | staleSnapshot (first second : UInt32)
  | reservedNonZero
  deriving DecidableEq, Repr

/-- Decodes a snapshot from bytes read between two observations of `SeqLock`. -/
def decodeWithLocks (bytes : Bytes) (firstSeqLock secondSeqLock : UInt32) :
    Outcome ControlBlockError ControlBlockSnapshot :=
  if bytes.length < CONTROL_BLOCK_LEN then .err (.truncated CONTROL_BLOCK_LEN bytes.length)
  else do
    let sync ← slice bytes OFF_SYNC (OFF_SYNC + 4)
    if sync ≠ CONTROL_BLOCK_SYNC then .err .wrongSync
    else if firstSeqLock % 2 ≠ 0 then .err (.updating firstSeqLock)
    else if firstSeqLock ≠ secondSeqLock then .err (.staleSnapshot firstSeqLock secondSeqLock)
    else do
      let imageLock ← readU32 bytes OFF_SEQ_LOCK
      if imageLock ≠ firstSeqLock then .err (.staleSnapshot firstSeqLock imageLock)
      else do
        let reserved ← slice bytes OFF_RESERVED (OFF_RESERVED + 2)
        let reserved2 ← slice bytes OFF_RESERVED2 (OFF_RESERVED2 + 4)
        if reserved ≠ [0, 0] ∨ reserved2 ≠ [0, 0, 0, 0] then .err .reservedNonZero
        else do
          let definitionHash ← slice bytes OFF_DEFINITION_HASH (OFF_DEFINITION_HASH + 8)
          let prevDefinitionHash ←
            slice bytes OFF_PREV_DEFINITION_HASH (OFF_PREV_DEFINITION_HASH + 8)
          let version ← index bytes OFF_VERSION
          let caps ← index bytes OFF_CAPS
          let bufferId ← readU32 bytes OFF_BUFFER_ID
          let bufferBytes ← readU32 bytes OFF_BUFFER_BYTES
          let headAbs ← readU64 bytes OFF_HEAD_ABS
          let oldestAbs ← readU64 bytes OFF_OLDEST_ABS
          let lostCount ← readU64 bytes OFF_LOST_COUNT
          let runId ← readU64 bytes OFF_RUN_ID
          let epochId ← readU64 bytes OFF_EPOCH_ID
          let epochFirstAbs ← readU64 bytes OFF_EPOCH_FIRST_ABS
          pure { version, caps, bufferId, bufferBytes, headAbs := headAbs.toNat,
                 oldestAbs := oldestAbs.toNat, lostCount := lostCount.toNat, runId, epochId,
                 epochFirstAbs := epochFirstAbs.toNat, definitionHash, prevDefinitionHash }

/-- The field of `n` bytes at an offset of the block. -/
def controlField (bytes : Bytes) (offset n : ℕ) : Bytes := (bytes.drop offset).take n

/-- **What the decoder does with a whole block**: no access is out of range. -/
lemma decodeWithLocks_eq {bytes : Bytes} (hlen : bytes.length = CONTROL_BLOCK_LEN)
    (first second : UInt32) :
    decodeWithLocks bytes first second =
      if controlField bytes OFF_SYNC 4 ≠ CONTROL_BLOCK_SYNC then .err .wrongSync
      else if first % 2 ≠ 0 then .err (.updating first)
      else if first ≠ second then .err (.staleSnapshot first second)
      else if UInt32.ofNat (fromLe (controlField bytes OFF_SEQ_LOCK 4)) ≠ first then
        .err (.staleSnapshot first (UInt32.ofNat (fromLe (controlField bytes OFF_SEQ_LOCK 4))))
      else if controlField bytes OFF_RESERVED 2 ≠ [0, 0] ∨
          controlField bytes OFF_RESERVED2 4 ≠ [0, 0, 0, 0] then .err .reservedNonZero
      else .ok {
        version := (bytes.getD OFF_VERSION 0)
        caps := (bytes.getD OFF_CAPS 0)
        bufferId := UInt32.ofNat (fromLe (controlField bytes OFF_BUFFER_ID 4))
        bufferBytes := UInt32.ofNat (fromLe (controlField bytes OFF_BUFFER_BYTES 4))
        headAbs := fromLe (controlField bytes OFF_HEAD_ABS 8)
        oldestAbs := fromLe (controlField bytes OFF_OLDEST_ABS 8)
        lostCount := fromLe (controlField bytes OFF_LOST_COUNT 8)
        runId := UInt64.ofNat (fromLe (controlField bytes OFF_RUN_ID 8))
        epochId := UInt64.ofNat (fromLe (controlField bytes OFF_EPOCH_ID 8))
        epochFirstAbs := fromLe (controlField bytes OFF_EPOCH_FIRST_ABS 8)
        definitionHash := controlField bytes OFF_DEFINITION_HASH 8
        prevDefinitionHash := controlField bytes OFF_PREV_DEFINITION_HASH 8 } := by
  rw [CONTROL_BLOCK_LEN] at hlen
  have hslice : ∀ offset n, offset + n ≤ 88 →
      (slice bytes offset (offset + n) : Outcome ControlBlockError Bytes) =
        .ok (controlField bytes offset n) := by
    intro offset n hle
    rw [slice_of_le (by omega) (by omega), List.drop_take, Nat.add_sub_cancel_left]
    rfl
  have hindex : ∀ offset, offset < 88 →
      (index bytes offset : Outcome ControlBlockError UInt8) = .ok (bytes.getD offset 0) := by
    intro offset hlt
    have hlt' : offset < bytes.length := by omega
    rw [index_of_lt hlt', List.getD_eq_getElem?_getD, List.getElem?_eq_getElem hlt',
      Option.getD_some]
  have hu32 : ∀ offset, offset + 4 ≤ 88 →
      (readU32 bytes offset : Outcome ControlBlockError UInt32) =
        .ok (UInt32.ofNat (fromLe (controlField bytes offset 4))) :=
    fun offset hle => readU32_eq (by omega)
  have hu64 : ∀ offset, offset + 8 ≤ 88 →
      (readU64 bytes offset : Outcome ControlBlockError UInt64) =
        .ok (UInt64.ofNat (fromLe (controlField bytes offset 8))) :=
    fun offset hle => readU64_eq (by omega)
  have hword : ∀ offset, offset + 8 ≤ 88 →
      (UInt64.ofNat (fromLe (controlField bytes offset 8))).toNat =
        fromLe (controlField bytes offset 8) := by
    intro offset hle
    have hlt := fromLe_lt (controlField bytes offset 8)
    have hwidth : (controlField bytes offset 8).length = 8 := by
      rw [controlField, List.length_take, List.length_drop]
      omega
    rw [hwidth] at hlt
    rw [UInt64.toNat_ofNat', Nat.mod_eq_of_lt (by simpa using hlt)]
  rw [decodeWithLocks, if_neg (by rw [CONTROL_BLOCK_LEN]; omega), hslice _ _ (by decide),
    hu32 _ (by decide), hslice _ _ (by decide), hslice _ _ (by decide), hslice _ _ (by decide),
    hslice _ _ (by decide), hindex _ (by decide), hindex _ (by decide), hu32 _ (by decide),
    hu32 _ (by decide), hu64 _ (by decide), hu64 _ (by decide), hu64 _ (by decide),
    hu64 _ (by decide), hu64 _ (by decide), hu64 _ (by decide)]
  simp only [Outcome.ok_bind, Outcome.pure_eq, hword _ (show OFF_HEAD_ABS + 8 ≤ 88 by decide),
    hword _ (show OFF_OLDEST_ABS + 8 ≤ 88 by decide),
    hword _ (show OFF_LOST_COUNT + 8 ≤ 88 by decide),
    hword _ (show OFF_EPOCH_FIRST_ABS + 8 ≤ 88 by decide)]

/-- The decoder returns an error, or `SeqLock` was even and did not change and the words of the
snapshot are those in the bytes. -/
lemma decodeWithLocks_cases {bytes : Bytes} (hlen : bytes.length = CONTROL_BLOCK_LEN)
    (first second : UInt32) :
    (∃ e, decodeWithLocks bytes first second = .err e) ∨
      first % 2 = 0 ∧ first = second ∧
        ∃ snapshot, decodeWithLocks bytes first second = .ok snapshot ∧
          snapshot.headAbs = fromLe (controlField bytes OFF_HEAD_ABS 8) ∧
          snapshot.oldestAbs = fromLe (controlField bytes OFF_OLDEST_ABS 8) ∧
          snapshot.lostCount = fromLe (controlField bytes OFF_LOST_COUNT 8) := by
  rw [decodeWithLocks_eq hlen]
  split_ifs with hsync hodd hstale hlock hreserved
  · exact Or.inl ⟨_, rfl⟩
  · exact Or.inl ⟨_, rfl⟩
  · exact Or.inl ⟨_, rfl⟩
  · exact Or.inl ⟨_, rfl⟩
  · exact Or.inl ⟨_, rfl⟩
  · exact Or.inr ⟨not_not.mp hodd, not_not.mp hstale, _, rfl, rfl, rfl, rfl⟩

end OpenOT
