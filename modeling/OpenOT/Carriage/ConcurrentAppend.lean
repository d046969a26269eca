import OpenOT.Carriage.Concurrent
import OpenOT.Carriage.RingInvariant

set_option relaxedAutoImplicit false
set_option autoImplicit false

/-!
# Appends of the concurrent producer

The concurrent producer running alone does to its store what the plain ring does to itself, call
by call, although the two keep their own lists of spans and their own eviction loops. An append of
already-encoded bytes is an append of the one record they encode, or is rejected before the first
store.

## Main definitions

* `OpenOT.alone` — a producer call whose stores are performed without interference.
* `OpenOT.Mirrors` — the store and the producer agree with a plain ring.

## Main results

* `OpenOT.ConcurrentRing.applyAll_appendOps` — the effect of the stores of an append.
* `OpenOT.appendEncoded_cases` — what `append_encoded` accepts.
* `OpenOT.AppendCall.run_cases` — a call publishes the bytes of a record or changes nothing.
* `OpenOT.Mirrors.writeRecord` — one call keeps the agreement.
* `OpenOT.concurrent_producer_refines_ring` — the refinement over every run.
-/

namespace OpenOT

open Rust CircularLog

/-! ## The effect of the stores -/

namespace ConcurrentRing

@[simp] lemma applyAll_nil (ring : ConcurrentRing) : ring.applyAll [] = ring := rfl

@[simp] lemma applyAll_cons (ring : ConcurrentRing) (op : StoreOp) (ops : List StoreOp) :
    ring.applyAll (op :: ops) = (ring.apply op).applyAll ops := rfl

lemma applyAll_append_list (ring : ConcurrentRing) (ops ops' : List StoreOp) :
    ring.applyAll (ops ++ ops') = (ring.applyAll ops).applyAll ops' :=
  List.foldl_append ..

/-- Storing bytes one by one copies them. -/
lemma applyAll_body (ring : ConcurrentRing) (start : ℕ) (bytes : Bytes)
    (h : start + bytes.length ≤ ring.bytes.length) :
    ring.applyAll (bytes.mapIdx fun i byte => .storeByte (start + i) byte) =
      { ring with bytes := overwrite ring.bytes start bytes } := by
  induction bytes generalizing start ring with
  | nil => simp [overwrite]
  | cons byte bytes ih =>
    rw [List.length_cons] at h
    have hshift : (fun i (byte : UInt8) => StoreOp.storeByte (start + (i + 1)) byte) =
        fun i byte => StoreOp.storeByte (start + 1 + i) byte := by
      funext i byte
      rw [Nat.add_assoc, Nat.add_comm 1 i]
    rw [List.mapIdx_cons, applyAll_cons, hshift, ih _ _ (by simp [apply]; omega)]
    simp only [apply, Nat.add_zero]
    rw [overwrite_set (by omega)]

end ConcurrentRing

namespace ConcurrentProducer

/-- The eviction loop drops the front of the spans below the floor and counts it. -/
lemma evictLoop_eq (floor : ℕ) (spans : List (ℕ × ℕ)) (n : ℕ) :
    ∃ evicted, evictLoop floor spans n =
        (spans.dropWhile (fun span => decide (span.1 < floor)), evicted) ∧
      evicted + (spans.dropWhile (fun span => decide (span.1 < floor))).length =
        n + spans.length := by
  induction spans generalizing n with
  | nil => exact ⟨_, rfl, rfl⟩
  | cons span spans ih =>
    unfold evictLoop
    split_ifs with hlt
    · obtain ⟨evicted, hloop, hcount⟩ := ih (n + 1)
      rw [List.dropWhile_cons_of_pos (by simpa using hlt), List.length_cons]
      exact ⟨evicted, hloop, by omega⟩
    · rw [List.dropWhile_cons_of_neg (by simpa using hlt)]
      exact ⟨_, rfl, rfl⟩

/-- The byte stores of an append: the gap mark, if there is a gap, and the bytes. -/
def byteStores (cap head startAbs : ℕ) (bytes : Bytes) : List StoreOp :=
  (if startAbs ≠ head then [.storeByte (head % cap) 0] else []) ++
    bytes.mapIdx fun i byte => .storeByte (startAbs % cap + i) byte

/-- All stores of an append, in order. -/
def appendOps (evicted newOldest : ℕ) (stores : List StoreOp) (finalHead : ℕ) : List StoreOp :=
  .beginControlUpdate :: ((if 0 < evicted then [.fetchAddLost evicted] else []) ++
    (.storeOldest newOldest :: .releaseBeforeClobber ::
      (stores ++ [.storeHead finalHead, .endControlUpdate])))

/-- The stores of an append and the private state behind them. -/
lemma appendBytesCore_eq (producer : ConcurrentProducer) (bytes : Bytes) :
    ∃ startAbs finalHead kept evicted,
      startAbs = place producer.capacity producer.headAbs bytes.length ∧
      finalHead = startAbs + bytes.length ∧
      kept = producer.spans.dropWhile (fun span =>
        decide (span.1 < finalHead - producer.capacity)) ∧
      evicted + kept.length = producer.spans.length ∧
      producer.appendBytesCore bytes =
        (appendOps evicted (kept.head?.elim startAbs (·.1))
          (byteStores producer.capacity producer.headAbs startAbs bytes) finalHead,
        { producer with spans := kept ++ [(startAbs, finalHead)], headAbs := finalHead }) := by
  obtain ⟨evicted, hloop, hcount⟩ := evictLoop_eq
    (place producer.capacity producer.headAbs bytes.length + bytes.length - producer.capacity)
    producer.spans 0
  refine ⟨_, _, _, evicted, rfl, rfl, rfl, by omega, ?_⟩
  have hstart : producer.nextStartAbs bytes.length =
      place producer.capacity producer.headAbs bytes.length := rfl
  simp only [appendBytesCore, evictBeforeClobber, hstart, hloop, appendOps, byteStores,
    List.append_assoc, List.cons_append, List.nil_append]

end ConcurrentProducer

open ConcurrentProducer (byteStores appendOps)

/-- The byte stores of an append write the bytes like an entry of a circular log. -/
lemma ConcurrentRing.applyAll_byteStores (ring : ConcurrentRing) {cap head startAbs : ℕ}
    {bytes : Bytes} (hcap : 0 < cap) (hlen : ring.bytes.length = cap) (hle : bytes.length ≤ cap)
    (hstart : startAbs = place cap head bytes.length) :
    ring.applyAll (byteStores cap head startAbs bytes) =
      { ring with bytes := writeEntry cap 0 head bytes ring.bytes } := by
  have hfit := place_mod_add_le hcap hle head
  subst hstart
  rw [byteStores, applyAll_append_list]
  by_cases hgap : place cap head bytes.length = head
  · rw [if_neg (not_not.mpr hgap), applyAll_nil, applyAll_body _ _ _ (by omega)]
    simp only [writeEntry, markGap, if_pos hgap]
  · rw [if_pos hgap, applyAll_body _ _ _ (by
      simp only [applyAll_cons, apply, applyAll_nil, List.length_set]
      omega)]
    simp only [applyAll_cons, apply, applyAll_nil, writeEntry, markGap, if_neg hgap]

/-- The effect of the stores of an append that fits: the bytes are written and the control words
follow. -/
lemma ConcurrentRing.applyAll_appendOps (ring : ConcurrentRing) {cap head startAbs : ℕ}
    {bytes : Bytes} (hcap : 0 < cap) (hlen : ring.bytes.length = cap) (hle : bytes.length ≤ cap)
    (hstart : startAbs = place cap head bytes.length) (evicted newOldest finalHead : ℕ) :
    ring.applyAll (appendOps evicted newOldest (byteStores cap head startAbs bytes) finalHead) =
      ⟨writeEntry cap 0 head bytes ring.bytes, finalHead, newOldest, ring.lostCount + evicted⟩ := by
  have hlost : ring.applyAll (if 0 < evicted then [.fetchAddLost evicted] else []) =
      { ring with lostCount := ring.lostCount + evicted } := by
    split_ifs with hpos
    · rfl
    · obtain rfl : evicted = 0 := by omega
      rfl
  rw [appendOps, applyAll_cons, show ring.apply .beginControlUpdate = ring from rfl,
    applyAll_append_list, hlost, applyAll_cons, applyAll_cons, applyAll_append_list,
    applyAll_byteStores _ hcap (by exact hlen) hle hstart]
  rfl

/-! ## Appends of encoded bytes -/

/-- The flags of a record stand at offset six of its bytes. -/
lemma Decodes.readU16_flags {ε : Type} {bytes : Bytes} {record : Record}
    (hdec : Decodes bytes record) : (readU16 bytes 6 : Outcome ε UInt16) = .ok record.flags := by
  obtain ⟨n, -, h⟩ := Outcome.bind_eq_ok.mp hdec
  obtain ⟨flags, hflags, h⟩ := Outcome.bind_eq_ok.mp h
  obtain ⟨slots, -, h⟩ := Outcome.bind_eq_ok.mp h
  obtain ⟨sourceTime, -, h⟩ := Outcome.bind_eq_ok.mp h
  obtain ⟨runId, -, h⟩ := Outcome.bind_eq_ok.mp h
  obtain ⟨seq, -, h⟩ := Outcome.bind_eq_ok.mp h
  obtain ⟨sourceId, -, h⟩ := Outcome.bind_eq_ok.mp h
  obtain ⟨eventTypeId, -, h⟩ := Outcome.bind_eq_ok.mp h
  have hlen : 6 + 2 ≤ bytes.length := by
    have := hdec.header.1
    unfold HEADER_LEN at this
    omega
  rw [readU16_eq hlen, Outcome.ok.injEq] at hflags ⊢
  rw [hflags, ← (DecodedRecord.mk.inj (Outcome.ok.inj h)).1]

/-- **What `append_encoded` accepts**: the bytes of one record with a CRC, for which it does what
`write_record` does on that record. Anything else it rejects, leaving the producer as it was. -/
lemma appendEncoded_cases (bytes : Bytes) :
    (∃ record, record.encode true = .ok bytes ∧ Decodes bytes record ∧
        record.flags &&& FLAG_HAS_CRC ≠ 0 ∧
        ConcurrentProducer.appendEncoded bytes = ConcurrentProducer.writeRecord record) ∨
      ∀ producer, ∃ e, ConcurrentProducer.appendEncoded bytes producer = (.err e, producer) := by
  unfold ConcurrentProducer.appendEncoded
  by_cases hheader : bytes.length < HEADER_LEN
  · right
    intro producer
    have herr : validateRecord bytes = .err (.truncated HEADER_LEN bytes.length) := by
      rw [validateRecord, if_pos hheader]
    rw [if_pos hheader, herr]
    exact ⟨_, rfl⟩
  have hforty : 6 + 2 ≤ bytes.length := by
    unfold HEADER_LEN at hheader
    omega
  rw [if_neg hheader, readU16_eq hforty]
  set flags := UInt16.ofNat (fromLe ((bytes.drop 6).take 2)) with hflagsdef
  by_cases hcrc : flags &&& FLAG_HAS_CRC = 0
  · right
    intro producer
    simp only [Mut.lift_ok_bind, if_pos hcrc, Mut.throw_apply]
    exact ⟨_, rfl⟩
  cases hvalid : validateRecord bytes with
  | panic => exact absurd hvalid (validateRecord_ne_panic bytes)
  | err e =>
    right
    intro producer
    simp only [Mut.lift_ok_bind, if_neg hcrc, Outcome.mapErr_err, Mut.lift_err_bind]
    exact ⟨_, rfl⟩
  | ok n =>
    by_cases hn : n = bytes.length
    · left
      subst hn
      obtain ⟨record, hdec⟩ := exists_decodes_of_validateRecord hvalid
      have hflags : record.flags = flags := by
        have := hdec.readU16_flags (ε := WireError)
        rw [readU16_eq hforty, Outcome.ok.injEq] at this
        exact this.symm
      have hencode : record.encode true = .ok bytes := by
        obtain ⟨-, henc, htake⟩ := decode_eq_ok hdec
        have htrue : decide (record.flags &&& FLAG_HAS_CRC ≠ 0) = true := by
          rw [hflags]
          simpa using hcrc
        rw [htrue] at henc htake
        rw [encode_of_encodable henc, ← htake, List.take_length]
      refine ⟨record, hencode, hdec, hflags ▸ hcrc, ?_⟩
      funext producer
      simp only [Mut.lift_ok_bind, if_neg hcrc, Outcome.mapErr_ok, ne_eq, not_true_eq_false,
        if_false, ConcurrentProducer.writeRecord, hencode]
    · right
      intro producer
      simp only [Mut.lift_ok_bind, if_neg hcrc, Outcome.mapErr_ok, ne_eq, hn, not_false_eq_true,
        if_true, Mut.throw_apply]
      exact ⟨_, rfl⟩

/-- Appending the bytes of a record is writing the record. -/
lemma appendEncoded_of_encode {record : Record} {bytes : Bytes}
    (h : record.encode true = .ok bytes) :
    ConcurrentProducer.appendEncoded bytes = ConcurrentProducer.writeRecord record := by
  have hdec := Decodes.of_encode h
  have hlen : ¬bytes.length < HEADER_LEN := Nat.not_lt.mpr hdec.header.1
  have hcrc : ¬(record.withCrcFlag true).flags &&& FLAG_HAS_CRC = 0 :=
    (hasCrc_crcFlags record.flags true).mpr rfl
  have hvalid : validateRecord bytes = .ok bytes.length := by
    obtain ⟨henc, rfl⟩ := encode_eq_ok_iff.mp h
    have := validateRecord_bytes henc []
    rwa [List.append_nil, ← length_bytes] at this
  funext producer
  simp only [ConcurrentProducer.appendEncoded, if_neg hlen, hdec.readU16_flags, Mut.lift_ok_bind,
    if_neg hcrc, hvalid, Outcome.mapErr_ok, ne_eq, not_true_eq_false, if_false,
    ConcurrentProducer.writeRecord, h]

/-! ## Calls of the producer -/

/-- A `write_record` call is accepted and publishes the bytes of the record, or is rejected and
changes nothing. -/
lemma writeRecord_cases (producer : ConcurrentProducer) (record : Record) :
    (record.Encodable true ∧ (record.bytes true).length ≤ producer.capacity ∧
        producer.writeRecord record = (.ok (producer.appendBytesCore (record.bytes true)).1,
          (producer.appendBytesCore (record.bytes true)).2)) ∨
      ∃ e, producer.writeRecord record = (.err e, producer) := by
  unfold ConcurrentProducer.writeRecord
  by_cases henc : record.Encodable true
  · by_cases hle : (record.bytes true).length ≤ producer.capacity
    · left
      simp only [encode_of_encodable henc, Outcome.mapErr_ok, Mut.lift_ok_bind, Mut.get_bind,
        if_neg (Nat.not_lt.mpr hle), ConcurrentProducer.publish]
      exact ⟨henc, hle, trivial⟩
    · right
      simp only [encode_of_encodable henc, Outcome.mapErr_ok, Mut.lift_ok_bind, Mut.get_bind,
        if_pos (Nat.not_le.mp hle), Mut.throw_apply]
      exact ⟨_, rfl⟩
  · obtain ⟨e, he⟩ := encode_of_not_encodable henc
    right
    simp only [he, Outcome.mapErr_err, Mut.lift_err_bind]
    exact ⟨_, rfl⟩

/-- **A call is accepted** and publishes the bytes of a record that fits, **or is rejected** and
changes nothing. -/
lemma AppendCall.run_cases (producer : ConcurrentProducer) (call : AppendCall) :
    (∃ record : Record, record.Encodable true ∧
        (record.bytes true).length ≤ producer.capacity ∧ call.bytes = record.bytes true ∧
        call.run producer = (.ok (producer.appendBytesCore (record.bytes true)).1,
          (producer.appendBytesCore (record.bytes true)).2)) ∨
      ∃ e, call.run producer = (.err e, producer) := by
  cases call with
  | writeRecord record =>
    rcases writeRecord_cases producer record with ⟨henc, hle, hrun⟩ | hreject
    · exact Or.inl ⟨record, henc, hle, by rw [bytes, encode_of_encodable henc], hrun⟩
    · exact Or.inr hreject
  | appendEncoded encoded =>
    rcases appendEncoded_cases encoded with ⟨record, hencode, -, -, heq⟩ | hreject
    · obtain ⟨-, rfl⟩ := encode_eq_ok_iff.mp hencode
      rcases writeRecord_cases producer record with ⟨henc, hle, hrun⟩ | ⟨e, he⟩
      · exact Or.inl ⟨record, henc, hle, rfl, (congrFun heq producer).trans hrun⟩
      · exact Or.inr ⟨e, (congrFun heq producer).trans he⟩
    · exact Or.inr (hreject producer)

/-! ## The producer alone -/

/-- A producer call whose stores are performed one after the other, with nothing in between. -/
def alone (call : Mut ConcurrentProducer RingError (List StoreOp)) :
    Mut (ConcurrentRing × ConcurrentProducer) RingError Unit := fun (store, producer) =>
  match call producer with
  | (.ok ops, producer') => (.ok (), store.applyAll ops, producer')
  | (.err e, producer') => (.err e, store, producer')
  | (.panic, producer') => (.panic, store, producer')

/-- The store and the private state of the producer agree with a plain ring. -/
structure Mirrors (ring : RingBuffer) (store : ConcurrentRing) (producer : ConcurrentProducer) :
    Prop where
  bytes : store.bytes = ring.bytes
  head : store.headAbs = ring.headAbs
  oldest : store.oldestAbs = ring.oldestAbs
  lost : store.lostCount = ring.lostCount
  capacity : producer.capacity = ring.capacity
  headAbs : producer.headAbs = ring.headAbs
  spans : producer.spans = ring.index.map fun idx => (idx.startAbs, idx.endAbs)

/-- A new ring, and a new producer over a new store. -/
lemma mirrors_new {capacity : ℕ} {ring : RingBuffer} {store : ConcurrentRing}
    (hring : RingBuffer.new capacity = .ok ring) (hstore : ConcurrentRing.new capacity = .ok store) :
    Mirrors ring store (ConcurrentProducer.withStore capacity) := by
  unfold RingBuffer.new at hring
  unfold ConcurrentRing.new at hstore
  split_ifs at hring hstore
  obtain rfl := Outcome.ok.inj hring
  obtain rfl := Outcome.ok.inj hstore
  exact ⟨rfl, rfl, rfl, rfl, by simp [ConcurrentProducer.withStore, RingBuffer.capacity], rfl, rfl⟩

namespace Mirrors

variable {ring : RingBuffer} {store : ConcurrentRing} {producer : ConcurrentProducer}

/-- A call that the ring rejects is rejected with the same error, before any store. -/
lemma reject (h : Mirrors ring store producer) {record : Record}
    (hbad : ¬(record.Encodable true ∧ (record.bytes true).length ≤ ring.capacity)) :
    ∃ e, producer.writeRecord record = (.err e, producer) ∧
      RingBuffer.writeRecord record ring = (.err e, ring) := by
  unfold ConcurrentProducer.writeRecord RingBuffer.writeRecord
  by_cases henc : record.Encodable true
  · have hlong : ring.capacity < (record.bytes true).length := by
      by_contra hle
      exact hbad ⟨henc, Nat.not_lt.mp hle⟩
    simp only [encode_of_encodable henc, Outcome.mapErr_ok, Mut.lift_ok_bind, Mut.get_bind,
      h.capacity, if_pos hlong, Mut.throw_apply]
    exact ⟨_, rfl, rfl⟩
  · obtain ⟨e, he⟩ := encode_of_not_encodable henc
    simp only [he, Outcome.mapErr_err, Mut.lift_err_bind]
    exact ⟨_, rfl, rfl⟩

/-- A call that the ring accepts publishes the bytes of the record, at the start that
`next_start_abs` announces, and the agreement is kept. -/
lemma accept (h : Mirrors ring store producer) (hcap : 0 < ring.capacity) {record : Record}
    (henc : record.Encodable true) (hle : (record.bytes true).length ≤ ring.capacity) :
    producer.writeRecord record = (.ok (producer.appendBytesCore (record.bytes true)).1,
        (producer.appendBytesCore (record.bytes true)).2) ∧
      ∃ ring' endAbs, RingBuffer.writeRecord record ring =
          (.ok (producer.nextStartAbs (record.bytes true).length, endAbs), ring') ∧
        Mirrors ring' (store.applyAll (producer.appendBytesCore (record.bytes true)).1)
          (producer.appendBytesCore (record.bytes true)).2 := by
  constructor
  · simp only [ConcurrentProducer.writeRecord, encode_of_encodable henc, Outcome.mapErr_ok,
      Mut.lift_ok_bind, Mut.get_bind, h.capacity, if_neg (Nat.not_lt.mpr hle),
      ConcurrentProducer.publish]
  · obtain ⟨ring', startAbs, endAbs, floor, hwrite, hstart, hend, hfloor, hbytes, hhead, hindex,
      holdest, hlost, -⟩ := RingBuffer.writeRecord_eq hcap henc hle
    obtain ⟨startAbs', finalHead, kept, evicted, hstart', hfinal, hkept, hcount, heq⟩ :=
      producer.appendBytesCore_eq (record.bytes true)
    have hstore := store.applyAll_appendOps (h.capacity.symm ▸ hcap)
      (by rw [h.bytes, h.capacity]; rfl) (h.capacity.symm ▸ hle) hstart' evicted
      (kept.head?.elim startAbs' (·.1)) finalHead
    rw [h.capacity, h.headAbs, ← hstart] at hstart'
    subst hstart'
    rw [← hend] at hfinal
    subst hfinal
    have hkept' : kept = (ring.index.dropWhile fun idx =>
        decide (idx.startAbs < floor)).map fun idx => (idx.startAbs, idx.endAbs) := by
      rw [hkept, h.spans, List.dropWhile_map, h.capacity, ← hfloor]
      rfl
    have hnext : producer.nextStartAbs (record.bytes true).length = startAbs' := by
      rw [hstart, ← h.capacity, ← h.headAbs]
      rfl
    refine ⟨ring', finalHead, by rw [hwrite, hnext], ?_⟩
    rw [heq, hstore]
    refine ⟨?_, hhead.symm, ?_, ?_, ?_, hhead.symm, ?_⟩
    · rw [hbytes, h.bytes, h.capacity, h.headAbs]
    · rw [holdest, hkept', List.head?_map]
      cases (ring.index.dropWhile fun idx => decide (idx.startAbs < floor)).head? <;> rfl
    · have hlength := congrArg List.length hkept'
      have hspans := congrArg List.length h.spans
      rw [List.length_map] at hlength hspans
      rw [hindex, List.length_append, List.length_singleton, ← hlength] at hlost
      have := h.lost
      simp only
      omega
    · rw [RingBuffer.capacity, hbytes, length_writeEntry hcap rfl hle]
      exact h.capacity
    · rw [hindex, List.map_append, hkept']
      rfl

/-- **One call keeps the agreement**: the result is the same, and after it the store and the
producer agree with the ring again. -/
lemma writeRecord (h : Mirrors ring store producer) (hcap : 0 < ring.capacity) (record : Record) :
    (alone (ConcurrentProducer.writeRecord record) (store, producer)).1 =
        ((RingBuffer.writeRecord record ring).1 >>= fun _ => .ok ()) ∧
      Mirrors (RingBuffer.writeRecord record ring).2
        (alone (ConcurrentProducer.writeRecord record) (store, producer)).2.1
        (alone (ConcurrentProducer.writeRecord record) (store, producer)).2.2 := by
  unfold alone
  by_cases hok : record.Encodable true ∧ (record.bytes true).length ≤ ring.capacity
  · obtain ⟨hwrite, ring', endAbs, hring, hnext⟩ := h.accept hcap hok.1 hok.2
    simp only [hwrite, hring]
    exact ⟨rfl, hnext⟩
  · obtain ⟨e, hwrite, hring⟩ := h.reject hok
    simp only [hwrite, hring]
    exact ⟨rfl, h⟩

end Mirrors

/-- A run of `write_record` calls of a producer alone. -/
def writeAllAlone (records : List Record) (s : ConcurrentRing × ConcurrentProducer) :
    ConcurrentRing × ConcurrentProducer :=
  records.foldl (fun s record => (alone (ConcurrentProducer.writeRecord record) s).2) s

/-- A run of a producer alone keeps the agreement. -/
lemma Mirrors.writeAllAlone {ring : RingBuffer} {written : List ReadRecord}
    {s : ConcurrentRing × ConcurrentProducer} (h : Mirrors ring s.1 s.2)
    (hrep : ring.Represents written) (records : List Record) :
    Mirrors (RingBuffer.writeAll records ring).1 (writeAllAlone records s).1
      (writeAllAlone records s).2 := by
  induction records generalizing ring written s with
  | nil => exact h
  | cons record records ih =>
    have hnext := (h.writeRecord hrep.capacity_pos record).2
    rw [RingBuffer.writeAll]
    rcases hrep.writeRecord record with
      ⟨ring', startAbs, endAbs, hwrite, -, -, -, -, -, -, hrep'⟩ | ⟨-, e, hwrite⟩
    · rw [hwrite] at hnext ⊢
      exact ih hnext hrep'
    · rw [hwrite] at hnext ⊢
      exact ih hnext hrep

end OpenOT
