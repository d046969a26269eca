import OpenOT.Carriage.ConcurrentWalk
import OpenOT.Carriage.RingRaw
import OpenOT.Shm.Snapshot

set_option relaxedAutoImplicit false
set_option autoImplicit false

/-!
# The shared-memory publisher

The publisher of `open-ot-shm`, which binds a concurrent producer to a mapped store, and what a
raw consumer reads from such a store while nothing is appended: the snapshot returns the control
words, and the walk over the shared bytes is the walk of the plain ring over its own.

## Main definitions

* `OpenOT.SharedRecordPublisher` — the publisher, with `create`, `openExisting` and `append`.
* `OpenOT.SharedRecordPublisher.stores` — the stores that a sequence of appends goes through.
* `OpenOT.AppendCall.accepts` — the calls that are accepted.
* `OpenOT.SharedStore.Readable` — a poll delivers the record.
* `OpenOT.SharedStore.Shows` — the store shows what a plain ring holds.

## Main results

* `OpenOT.SharedStore.run_readControlSnapshot` — the snapshot on its own.
* `OpenOT.SharedStore.Shows.run_readRawLoop` — the walk on its own.
* `OpenOT.SharedStore.Shows.readable_iff` — the records a consumer can read.
-/

namespace OpenOT

open Rust CircularLog Shared

/-! ## The publisher -/

/-- The byte capacity of a mapped store. -/
def SharedStore.capacity (store : SharedStore) : ℕ := store.ring.bytes.length

/-- A producer bound to a mapped store. -/
structure SharedRecordPublisher where
  store : SharedStore
  producer : ConcurrentProducer
  deriving DecidableEq, Repr

namespace SharedRecordPublisher

/-- Binds a publisher to a mapped store. -/
def withStore (store : SharedStore) : SharedRecordPublisher := ⟨store, .withStore store.capacity⟩

/-- Maps a new store and binds a publisher. -/
def create (capacity : ℕ) : Option SharedRecordPublisher :=
  (SharedStore.create capacity).map withStore

/-- Maps the store that another publisher has left behind and binds a publisher. -/
def openExisting (store : SharedStore) : SharedRecordPublisher := withStore store

/-- Appends a record, structured or encoded. The new head is computed before the first store; if
it overflows, the call panics there. -/
def append (call : AppendCall) : Mut SharedRecordPublisher RingError Unit := fun publisher =>
  match call.run publisher.producer with
  | (.ok stores, producer) =>
    if producer.headAbs < 2 ^ 64 then (.ok (), ⟨publisher.store.applyAll stores, producer⟩)
    else (.panic, publisher)
  | (.err error, producer) => (.err error, { publisher with producer })
  | (.panic, producer) => (.panic, { publisher with producer })

/-- A sequence of appends; a panic ends it. -/
def appendAll : List AppendCall → SharedRecordPublisher → SharedRecordPublisher
  | [], publisher => publisher
  | call :: calls, publisher =>
    match append call publisher with
    | (.panic, publisher') => publisher'
    | (_, publisher') => appendAll calls publisher'

/-- The store before a sequence of appends and after each of them. -/
def stores : List AppendCall → SharedRecordPublisher → List SharedStore
  | [], publisher => [publisher.store]
  | call :: calls, publisher =>
    publisher.store ::
      match append call publisher with
      | (.panic, _) => []
      | (_, publisher') => stores calls publisher'

end SharedRecordPublisher

/-! ## The calls that are accepted -/

/-- The checks of a call: the record encodes, or the bytes are one record with a CRC, and fits. -/
def AppendCall.accepts (capacity : ℕ) : AppendCall → Bool
  | writeRecord record =>
    match record.encode true with
    | .ok bytes => decide (bytes.length ≤ capacity)
    | _ => false
  | appendEncoded bytes =>
    match (readU16 bytes 6 : Outcome WireError UInt16) with
    | .ok flags => decide (flags &&& FLAG_HAS_CRC ≠ 0 ∧
        validateRecord bytes = .ok bytes.length ∧ bytes.length ≤ capacity)
    | _ => false

/-- A call passes the checks exactly when it is accepted. -/
lemma AppendCall.accepts_iff (producer : ConcurrentProducer) (call : AppendCall) :
    call.accepts producer.capacity = true ↔ ∃ stores, (call.run producer).1 = .ok stores := by
  cases call with
  | writeRecord record =>
    cases hencode : record.encode true with
    | ok bytes =>
      simp only [accepts, run, ConcurrentProducer.writeRecord, hencode, decide_eq_true_eq,
        Outcome.mapErr_ok, Mut.lift_ok_bind, Mut.get_bind]
      by_cases hle : bytes.length ≤ producer.capacity
      · simp [hle, Nat.not_lt.mpr hle, ConcurrentProducer.publish]
      · simp [hle, Nat.not_le.mp hle]
    | err e => simp [accepts, run, ConcurrentProducer.writeRecord, hencode]
    | panic => simp [accepts, run, ConcurrentProducer.writeRecord, hencode]
  | appendEncoded bytes =>
    have hshort : bytes.length < HEADER_LEN →
        validateRecord bytes = .err (.truncated HEADER_LEN bytes.length) := by
      intro hheader
      rw [validateRecord, if_pos hheader]
    simp only [accepts, run, ConcurrentProducer.appendEncoded]
    by_cases hheader : bytes.length < HEADER_LEN
    · rw [if_pos hheader, hshort hheader]
      cases (readU16 bytes 6 : Outcome WireError UInt16) <;> simp
    · have hsix : 6 + 2 ≤ bytes.length := by
        unfold HEADER_LEN at hheader
        omega
      rw [if_neg hheader, readU16_eq hsix, readU16_eq hsix]
      simp only [Mut.lift_ok_bind, decide_eq_true_eq]
      by_cases hcrc : UInt16.ofNat (fromLe ((bytes.drop 6).take 2)) &&& FLAG_HAS_CRC = 0
      · simp [hcrc]
      · rw [if_neg hcrc]
        cases validateRecord bytes with
        | ok n =>
          simp only [Outcome.mapErr_ok, Mut.lift_ok_bind, Outcome.ok.injEq]
          by_cases hn : n = bytes.length
          · subst hn
            by_cases hle : bytes.length ≤ producer.capacity
            · simp [hcrc, hle, Nat.not_lt.mpr hle, ConcurrentProducer.publish]
            · simp [hle, Nat.not_le.mp hle]
          · simp [hn]
        | err e => simp
        | panic => simp

/-! ## Deliveries -/

/-- A written record is delivered as the decoding of its entry. -/
lemma ReadRecord.Spans.delivers {w : ReadRecord} (h : w.Spans) : Delivers w.delivered w.entry :=
  ⟨rfl, (entry_stop h).symm, Decodes.of_encode (encode_of_encodable h.encodable)⟩

/-- An entry is delivered as one record. -/
lemma Delivers.unique {r r' : ReadRecord} {e : Entry UInt8} (h : Delivers r e)
    (h' : Delivers r' e) : r = r' := by
  obtain ⟨startAbs, endAbs, record⟩ := r
  obtain ⟨startAbs', endAbs', record'⟩ := r'
  obtain rfl : startAbs = startAbs' := h.start.trans h'.start.symm
  obtain rfl : endAbs = endAbs' := h.stop.trans h'.stop.symm
  obtain rfl : record = record' := h.decodes.unique h'.decodes
  rfl

/-- Entries delivered as the same record are the same. -/
lemma Delivers.entry_unique {r : ReadRecord} {e e' : Entry UInt8} (h : Delivers r e)
    (h' : Delivers r e') : e = e' := by
  have hstart : e.start = e'.start := h.start.symm.trans h'.start
  have hdata : e.data = e'.data := by
    obtain ⟨-, -, htake⟩ := decode_eq_ok h.decodes
    obtain ⟨-, -, htake'⟩ := decode_eq_ok h'.decodes
    rw [List.take_length] at htake htake'
    rw [htake, htake']
  obtain ⟨start, data⟩ := e
  obtain ⟨start', data'⟩ := e'
  exact congrArg₂ Entry.mk hstart hdata

/-! ## A reader on its own -/

namespace SharedStore

variable (store : SharedStore)

/-- Loads of words and bytes on their own. -/
@[simp] lemma run_loadHead {ε : Type} :
    (loadHead : SharedAttempt ε ℕ).run read store = .ok (store.ring.headAbs % 2 ^ 64) := rfl

@[simp] lemma run_loadOldest {ε : Type} :
    (loadOldest : SharedAttempt ε ℕ).run read store = .ok (store.ring.oldestAbs % 2 ^ 64) := rfl

@[simp] lemma run_loadLost {ε : Type} :
    (loadLost : SharedAttempt ε ℕ).run read store = .ok (store.ring.lostCount % 2 ^ 64) := rfl

@[simp] lemma run_loadByte (phys : ℕ) :
    (loadByte phys : SharedAttempt RingError UInt8).run read store =
      index store.ring.bytes phys := rfl

@[simp] lemma run_loadFirst (abs phys : ℕ) :
    (loadFirst abs phys : SharedAttempt RingError UInt8).run read store =
      index store.ring.bytes phys := rfl

@[simp] lemma run_loadLengthHigh (abs phys : ℕ) (low : UInt8) :
    (loadLengthHigh abs phys low : SharedAttempt RingError UInt8).run read store =
      index store.ring.bytes phys := rfl

/-- Bytes loaded one by one are the bytes read. -/
lemma run_loadBytes (phys n : ℕ) :
    (loadBytes phys n : SharedAttempt RingError Bytes).run read store =
      readBytes store.ring.bytes phys n := by
  induction n generalizing phys with
  | zero => rfl
  | succ n ih => simp [loadBytes, readBytes, ih]

/-! ### The snapshot -/

lemma length_controlBlock : store.controlBlock.length = 88 := by
  simp [controlBlock, CONTROL_BLOCK_SYNC]

/-- A load of the control block on its own. -/
lemma run_loadControl {ε α : Type} (location : ControlLoad)
    (k : location.Value → SharedAttempt ε α) :
    (loadControl location >>= k).run read store = (k (readControl location store)).run read store :=
  rfl

/-- The single-byte loads return the block. -/
lemma run_loadControlBytes (offset n : ℕ) (h : offset + n ≤ 88) :
    (loadControlBytes offset n : SharedAttempt ControlBlockError Bytes).run read store =
      .ok (controlField store.controlBlock offset n) := by
  induction n generalizing offset with
  | zero => simp [loadControlBytes, controlField]
  | succ n ih =>
    have hlt : offset < store.controlBlock.length := by
      rw [length_controlBlock]
      omega
    have hbyte : readControl (.byte offset) store = store.controlBlock[offset] := by
      change store.controlBlock.getD offset 0 = _
      rw [List.getD_eq_getElem?_getD, List.getElem?_eq_getElem hlt, Option.getD_some]
    rw [loadControlBytes, run_loadControl, hbyte, Attempt.run_bind, ih (offset + 1) (by omega),
      Outcome.ok_bind, Attempt.run_pure, controlField, controlField,
      List.drop_eq_getElem_cons hlt, List.take_succ_cons]

/-- A copy over a field of the block of what is there. -/
lemma run_patch {α : Type} {ys : Bytes} {offset : ℕ}
    (k : Bytes → SharedAttempt ControlBlockError α)
    (hfield : controlField store.controlBlock offset ys.length = ys)
    (hle : offset + ys.length ≤ 88) :
    ((Attempt.lift (copyFromSlice store.controlBlock offset ys) :
        SharedAttempt ControlBlockError Bytes) >>= k).run read store =
      (k store.controlBlock).run read store := by
  rw [Attempt.run_bind, Attempt.run_lift,
    copyFromSlice_self hfield (by rwa [length_controlBlock]), Outcome.ok_bind]

/-- The bytes of a word are those of the number modulo `2 ^ 64`. -/
lemma toLe_word (n : ℕ) : toLe 8 (n % 2 ^ 64) = toLe 8 n := by
  have h := toLe_fromLe (toLe 8 n)
  rwa [length_toLe, fromLe_toLe, show 256 ^ 8 = 2 ^ 64 by norm_num] at h

/-- The copy of the block on its own is the block. -/
lemma run_readControlImage :
    (readControlImage store.seqLock).run read store = .ok store.controlBlock := by
  have hblock : controlField store.controlBlock 0 88 = store.controlBlock := by
    rw [controlField, List.drop_zero, ← length_controlBlock store, List.take_length]
  have hzero : List.replicate 8 0 = toLe 8 (UInt64.toNat 0) := by decide
  have hrunId : controlField store.controlBlock OFF_RUN_ID
      (toLe 8 (UInt64.toNat (readControl .runId store))).length =
        toLe 8 (UInt64.toNat (readControl .runId store)) := hzero
  have hepochId : controlField store.controlBlock OFF_EPOCH_ID
      (toLe 8 (UInt64.toNat (readControl .epochId store))).length =
        toLe 8 (UInt64.toNat (readControl .epochId store)) := hzero
  unfold readControlImage
  rw [Attempt.run_bind, run_loadControlBytes _ _ _ (by rw [CONTROL_BLOCK_LEN]),
    CONTROL_BLOCK_LEN, hblock, Outcome.ok_bind]
  rw [run_patch _ _ rfl (by simp [OFF_SEQ_LOCK]), run_loadControl]
  rw [run_patch _ _ rfl (by simp [OFF_BUFFER_ID]), run_loadControl]
  rw [run_patch _ _ rfl (by simp [OFF_BUFFER_BYTES]), Attempt.run_bind, run_loadHead,
    Outcome.ok_bind]
  rw [toLe_word, run_patch _ _ rfl (by simp [OFF_HEAD_ABS]), Attempt.run_bind, run_loadOldest,
    Outcome.ok_bind]
  rw [toLe_word, run_patch _ _ rfl (by simp [OFF_OLDEST_ABS]), Attempt.run_bind, run_loadLost,
    Outcome.ok_bind]
  rw [toLe_word, run_patch _ _ rfl (by simp [OFF_LOST_COUNT]), run_loadControl]
  rw [run_patch _ _ hrunId (by simp [OFF_RUN_ID]), run_loadControl]
  rw [run_patch _ _ hepochId (by simp [OFF_EPOCH_ID]), run_loadControl]
  rw [Attempt.run_lift]
  exact copyFromSlice_self hzero (by simp [length_controlBlock, OFF_EPOCH_FIRST_ABS])

/-- **The snapshot on its own** returns the control words. -/
lemma run_readControlSnapshot (heven : store.seqLock % 2 = 0) :
    ∃ snapshot, readControlSnapshot.run read store = .ok snapshot ∧
      snapshot.bufferBytes = store.bufferBytes ∧
      snapshot.headAbs = store.ring.headAbs % 2 ^ 64 ∧
      snapshot.oldestAbs = store.ring.oldestAbs % 2 ^ 64 := by
  have hlen : store.controlBlock.length = CONTROL_BLOCK_LEN := by
    rw [length_controlBlock, CONTROL_BLOCK_LEN]
  have hsync : controlField store.controlBlock OFF_SYNC 4 = CONTROL_BLOCK_SYNC := rfl
  have hlock : UInt32.ofNat (fromLe (controlField store.controlBlock OFF_SEQ_LOCK 4)) =
      store.seqLock := ofNat_fromLe_toLe_u32 store.seqLock
  have hreserved : ¬(controlField store.controlBlock OFF_RESERVED 2 ≠ [0, 0] ∨
      controlField store.controlBlock OFF_RESERVED2 4 ≠ [0, 0, 0, 0]) := by
    rw [not_or, not_not, not_not]
    exact ⟨rfl, rfl⟩
  have hattempt : ∃ snapshot, (attemptSnapshot store.seqLock).run read store = .ok snapshot ∧
      snapshot.bufferBytes = store.bufferBytes ∧
      snapshot.headAbs = store.ring.headAbs % 2 ^ 64 ∧
      snapshot.oldestAbs = store.ring.oldestAbs % 2 ^ 64 := by
    unfold attemptSnapshot
    rw [Attempt.run_bind, run_readControlImage, Outcome.ok_bind, run_loadControl, Attempt.run_lift,
      show readControl .secondSeqLock store = store.seqLock from rfl, decodeWithLocks_eq hlen,
      if_neg (not_not.mpr hsync), if_neg (not_not.mpr heven), if_neg (not_not.mpr rfl),
      if_neg (not_not.mpr hlock), if_neg hreserved]
    refine ⟨_, rfl, ofNat_fromLe_toLe_u32 store.bufferBytes, ?_, ?_⟩
    · rw [← fromLe_toLe_word, toLe_word]
      rfl
    · rw [← fromLe_toLe_word, toLe_word]
      rfl
  obtain ⟨snapshot, hrun, hsnapshot⟩ := hattempt
  refine ⟨snapshot, ?_, hsnapshot⟩
  have hretry : ∀ retries lastError,
      (retrySnapshot (retries + 1) lastError).run read store = .ok snapshot := by
    intro retries lastError
    change Attempt.run read store (if store.seqLock % 2 ≠ 0 then
        retrySnapshot retries (.updating store.seqLock)
      else Reader.bind (attemptSnapshot store.seqLock) (afterAttempt (retrySnapshot retries))) = _
    refine iteInduction (motive := fun p => Attempt.run read store p = .ok snapshot)
      (fun hodd => absurd heven hodd) fun _ => (Reader.run_bind read store _ _).trans ?_
    rw [show Reader.run read store (attemptSnapshot store.seqLock) = .ok snapshot from hrun]
    rfl
  exact hretry 999 (.updating 1)

/-! ### The walk -/

/-- A raw consumer reads the record: its poll, on its own, delivers it. -/
def Readable (consumer : ConcurrentRawConsumer) (r : ReadRecord) : Prop :=
  ∃ batch, ((consumer.poll store.capacity readControlSnapshot).run read store).1 = .ok batch ∧
    r ∈ batch.records

/-- The store shows what a plain ring holds: the same pool, head and oldest offset, between two
appends and with a head that has not overflowed. -/
structure Shows (ring : RingBuffer) : Prop where
  bytes : store.ring.bytes = ring.bytes
  head : store.ring.headAbs = ring.headAbs
  oldest : store.ring.oldestAbs = ring.oldestAbs
  head_lt : ring.headAbs < 2 ^ 64
  even : store.seqLock % 2 = 0

namespace Shows

variable {store} {ring : RingBuffer}

lemma capacity (h : store.Shows ring) : store.capacity = ring.capacity := by
  rw [SharedStore.capacity, h.bytes]
  rfl

/-- **The walk on its own** is the walk of the plain ring.

**Proof sketch.** Strong induction on the distance to the head. The loads of a turn return what
the accesses of the ring return; the re-check of the oldest offset finds the one of the
snapshot. -/
lemma run_readRawLoop (h : store.Shows ring) {headAbs firstOldest : ℕ}
    (holdest : store.ring.oldestAbs % 2 ^ 64 = firstOldest) (abs : ℕ) (records : List ReadRecord) :
    (readRawLoop store.capacity headAbs firstOldest abs records :
        SharedAttempt RingError (List ReadRecord)).run read store =
      RingBuffer.readRawLoop ring headAbs firstOldest firstOldest abs records := by
  have hlen : ring.bytes.length = ring.capacity := rfl
  rw [h.capacity]
  induction hn : headAbs - abs using Nat.strong_induction_on generalizing abs records with
  | _ n ih =>
  rw [readRawLoop, RingBuffer.readRawLoop]
  by_cases hlt : abs < headAbs
  swap
  · rw [if_neg hlt, if_neg hlt, Attempt.run_pure]
  rw [if_pos hlt, if_pos hlt]
  by_cases hold : abs < firstOldest
  · rw [if_pos hold, if_pos hold, Attempt.run_throw]
  rw [if_neg hold, if_neg hold]
  by_cases hcap : ring.capacity = 0
  · rw [if_pos hcap, if_pos hcap, Attempt.run_lift]
  rw [if_neg hcap, if_neg hcap]
  have hphys := Nat.mod_lt abs (Nat.pos_of_ne_zero hcap)
  simp only [Attempt.run_bind, run_loadFirst, h.bytes]
  obtain ⟨first, hindex⟩ : ∃ first,
      (index ring.bytes (abs % ring.capacity) : Outcome RingError UInt8) = .ok first :=
    ⟨_, index_of_lt hphys⟩
  rw [hindex, Outcome.ok_bind, Outcome.ok_bind]
  by_cases hfirst : first = 0
  · rw [if_pos hfirst, if_pos hfirst]
    by_cases hzero : abs % ring.capacity = 0
    · rw [if_pos hzero, if_pos hzero, Attempt.run_throw]
    · rw [if_neg hzero, if_neg hzero]
      exact ih _ (by omega) _ _ rfl
  rw [if_neg hfirst, if_neg hfirst]
  by_cases hheader : ring.capacity < abs % ring.capacity + HEADER_LEN
  · rw [if_pos hheader, if_pos hheader, Attempt.run_throw]
  rw [if_neg hheader, if_neg hheader]
  set phys := abs % ring.capacity with hphysdef
  have hforty : phys + 40 ≤ ring.bytes.length := by
    unfold HEADER_LEN at hheader
    omega
  have hslice : ∀ n, phys + n ≤ ring.bytes.length →
      (slice ring.bytes phys (phys + n) : Outcome RingError Bytes) =
        .ok ((ring.bytes.drop phys).take n) := by
    intro n hle
    rw [slice_of_le (by omega) hle, List.drop_take, Nat.add_sub_cancel_left]
  rw [Attempt.run_bind, run_loadBytes, h.bytes, readBytes_eq (by omega), hslice 4 (by omega),
    Outcome.ok_bind, Outcome.ok_bind]
  by_cases hsync : (ring.bytes.drop phys).take 4 ≠ SYNC
  · rw [if_pos hsync, if_pos hsync, Attempt.run_throw]
  rw [if_neg hsync, if_neg hsync]
  obtain ⟨low, hlow⟩ : ∃ low,
      (index ring.bytes (phys + 4) : Outcome RingError UInt8) = .ok low :=
    ⟨_, index_of_lt (by omega)⟩
  obtain ⟨high, hhigh⟩ : ∃ high,
      (index ring.bytes (phys + 5) : Outcome RingError UInt8) = .ok high :=
    ⟨_, index_of_lt (by omega)⟩
  have htotal : (readU16 ring.bytes (phys + 4) : Outcome RingError UInt16) =
      .ok (UInt16.ofNat (fromLe [low, high])) := by
    simp [readU16, readBytes, hlow, hhigh, Nat.add_assoc]
  have htoNat : (UInt16.ofNat (fromLe [low, high])).toNat = fromLe [low, high] := by
    rw [UInt16.toNat_ofNat', Nat.mod_eq_of_lt (by simpa using fromLe_lt [low, high])]
  rw [Attempt.run_bind, run_loadByte, h.bytes, hlow, Outcome.ok_bind, Attempt.run_bind,
    run_loadLengthHigh, h.bytes, hhigh, Outcome.ok_bind, htotal, Outcome.ok_bind, htoNat]
  set totalLen := fromLe [low, high]
  by_cases hshort : totalLen < HEADER_LEN
  · rw [if_pos hshort, if_pos hshort, Attempt.run_throw]
  rw [if_neg hshort, if_neg hshort]
  by_cases hcross : ring.capacity < phys + totalLen
  · rw [if_pos hcross, if_pos hcross, Attempt.run_throw]
  rw [if_neg hcross, if_neg hcross]
  rw [Attempt.run_bind, run_loadBytes, h.bytes, readBytes_eq (by omega), hslice _ (by omega),
    Outcome.ok_bind, Outcome.ok_bind, Attempt.run_bind, run_loadOldest, Outcome.ok_bind, holdest,
    if_neg hold, Attempt.run_bind, Attempt.run_lift]
  cases decode ((ring.bytes.drop phys).take totalLen) with
  | err e => rfl
  | panic => rfl
  | ok decoded =>
    simp only [Outcome.mapErr_ok, Outcome.ok_bind, if_neg hold]
    refine ih _ ?_ _ _ rfl
    unfold HEADER_LEN at hshort
    omega

/-- The read of a consumer on its own. -/
lemma run_readRawFromStore (h : store.Shows ring) (hle : ring.oldestAbs ≤ ring.headAbs)
    (hbuffer : store.bufferBytes.toNat = store.capacity) (cursor : ℕ) :
    (readRawFromStore store.capacity readControlSnapshot cursor).run read store =
      ring.readRawFrom cursor := by
  obtain ⟨snapshot, hrun, hbytes, hhead, holdest⟩ := run_readControlSnapshot store h.even
  have hlt := h.head_lt
  rw [h.head, Nat.mod_eq_of_lt hlt] at hhead
  have hmod : store.ring.oldestAbs % 2 ^ 64 = ring.oldestAbs := by
    rw [h.oldest, Nat.mod_eq_of_lt (by omega)]
  rw [hmod] at holdest
  unfold readRawFromStore
  rw [Attempt.run_bind, Attempt.run_mapErr, hrun, Outcome.mapErr_ok, Outcome.ok_bind, hbytes,
    if_neg (not_not.mpr hbuffer)]
  simp only [Attempt.run_bind, hhead, holdest, h.run_readRawLoop hmod, run_loadOldest, hmod,
    RingBuffer.readRawFrom, RingBuffer.readRawWindow]
  cases RingBuffer.readRawLoop ring ring.headAbs ring.oldestAbs ring.oldestAbs
    (if decide (cursor < ring.oldestAbs) = true then ring.oldestAbs else cursor) [] with
  | ok records => simp
  | err e => rfl
  | panic => rfl

/-- A store whose capacity does not fit the control block cannot be read. -/
lemma run_readRawFromStore_mismatch (h : store.Shows ring)
    (hbuffer : store.bufferBytes.toNat ≠ store.capacity) (cursor : ℕ) :
    (readRawFromStore store.capacity readControlSnapshot cursor).run read store =
      .err (.controlBlockCapacityMismatch store.bufferBytes store.capacity) := by
  obtain ⟨snapshot, hrun, hbytes, -, -⟩ := run_readControlSnapshot store h.even
  unfold readRawFromStore
  rw [Attempt.run_bind, Attempt.run_mapErr, hrun, Outcome.mapErr_ok, Outcome.ok_bind, hbytes,
    if_pos hbuffer, Attempt.run_throw]

/-- A poll returns the batch that its read returns. -/
lemma run_poll_of_ok {consumer : ConcurrentRawConsumer} {batch : ReadBatch}
    (h : (readRawFromStore store.capacity readControlSnapshot consumer.cursorAbs).run read store =
      .ok batch) :
    ((consumer.poll store.capacity readControlSnapshot).run read store).1 = .ok batch := by
  refine (congrArg Prod.fst (Reader.run_bind read store _ _)).trans ?_
  rw [show Reader.run read store _ = _ from h]
  rfl

/-- A poll reports a capacity that does not fit. -/
lemma run_poll_of_err {consumer : ConcurrentRawConsumer} {snapshotBytes : UInt32} {capacity : ℕ}
    (h : (readRawFromStore store.capacity readControlSnapshot consumer.cursorAbs).run read store =
      .err (.controlBlockCapacityMismatch snapshotBytes capacity)) :
    ((consumer.poll store.capacity readControlSnapshot).run read store).1 =
      .err (.controlBlockCapacityMismatch snapshotBytes capacity) := by
  refine (congrArg Prod.fst (Reader.run_bind read store _ _)).trans ?_
  rw [show Reader.run read store _ = _ from h]
  rfl

/-- **The records a consumer can read** are the entries from its cursor on that the oldest offset
has not passed, if the capacity fits the control block. -/
lemma readable_iff (h : store.Shows ring) {written : List ReadRecord}
    (hrep : ring.Represents written) {consumer : ConcurrentRawConsumer}
    (hat : ∃ rest, At (logOf written) consumer.cursorAbs rest) (r : ReadRecord) :
    store.Readable consumer r ↔ store.bufferBytes.toNat = store.capacity ∧
      ∃ e ∈ logOf written, ring.oldestAbs ≤ e.start ∧ consumer.cursorAbs ≤ e.start ∧
        Delivers r e := by
  by_cases hbuffer : store.bufferBytes.toNat = store.capacity
  swap
  · have herr := h.run_readRawFromStore_mismatch hbuffer consumer.cursorAbs
    refine ⟨?_, fun hread => absurd hread.1 hbuffer⟩
    rintro ⟨batch, hbatch, -⟩
    rw [run_poll_of_err herr] at hbatch
    cases hbatch
  obtain ⟨rest, hat⟩ := hat
  have hok := h.run_readRawFromStore hrep.window.1 hbuffer consumer.cursorAbs
  rw [hrep.readRawFrom hat] at hok
  have hread : store.Readable consumer r ↔
      r ∈ ((retained ring.headAbs ring.capacity written).filter fun w =>
        decide (consumer.cursorAbs ≤ w.startAbs)).map ReadRecord.delivered := by
    rw [Readable, run_poll_of_ok hok]
    constructor
    · rintro ⟨batch, hbatch, hmem⟩
      rwa [← Outcome.ok.inj hbatch] at hmem
    · exact fun hmem => ⟨_, rfl, hmem⟩
  rw [hread, hrep.retained_eq, List.filter_filter, List.mem_map]
  constructor
  · rintro ⟨w, hw, rfl⟩
    obtain ⟨hmem, hge⟩ := List.mem_filter.mp hw
    simp only [Bool.and_eq_true, decide_eq_true_eq] at hge
    exact ⟨hbuffer, w.entry, List.mem_map_of_mem hmem, hge.2, hge.1,
      (hrep.spans w hmem).delivers⟩
  · rintro ⟨-, e, he, hold, hcursor, hdel⟩
    obtain ⟨w, hw, rfl⟩ := List.mem_map.mp he
    refine ⟨w, List.mem_filter.mpr ⟨hw, by simpa using ⟨hcursor, hold⟩⟩, ?_⟩
    exact (hrep.spans w hw).delivers.unique hdel

end Shows

end SharedStore

end OpenOT
