import OpenOT.Shm.Publisher

set_option relaxedAutoImplicit false
set_option autoImplicit false

/-!
# Restarting the producer

A publisher opens the store that another publisher has left behind and goes on appending. The new
producer starts at head zero and without spans, whatever the store holds, so the ring is kept only
in special cases.

## Main definitions

* `OpenOT.KeepsRing` — the two offsets never decrease, and what could be read before the restart
  can be read until the oldest offset passes it.
* `OpenOT.RestartSafe` — the stores and the calls for which the restart does no harm.
* `OpenOT.Published` — the publisher and its store agree with a plain ring.

## Main results

* `OpenOT.Published.run` — appends of one publisher only extend the log.
* `OpenOT.append_openExisting` — the first append after a restart.
* `OpenOT.restart_keeps_ring_iff` — when a restart keeps the ring.
* `OpenOT.restart_rewinds_head` — a restart that does not.
-/

namespace OpenOT

open Rust CircularLog Shared SharedRecordPublisher

/-! ## The property -/

/-- A cursor that a consumer can have when the given stores were there: a new consumer's, or one
that a poll took from the head or the oldest offset. -/
def CursorFrom (stores : List SharedStore) (cursor : ℕ) : Prop :=
  cursor = 0 ∨ ∃ store ∈ stores, cursor = store.ring.headAbs ∨ cursor = store.ring.oldestAbs

/-- The head and the oldest offset do not decrease. -/
def Advances (store store' : SharedStore) : Prop :=
  store.ring.headAbs ≤ store'.ring.headAbs ∧ store.ring.oldestAbs ≤ store'.ring.oldestAbs

/-- The stores `after` a restart keep the ring `left` behind: neither offset ever decreases, and a
record that a consumer with a cursor from `before` could read from `left` can be read by it until
the oldest offset passes the record. -/
structure KeepsRing (before : List SharedStore) (left : SharedStore) (after : List SharedStore) :
    Prop where
  advances : after.Pairwise Advances
  readable : ∀ store ∈ after, ∀ consumer r, CursorFrom before consumer.cursorAbs →
    left.Readable consumer r → store.ring.oldestAbs ≤ r.startAbs → store.Readable consumer r

/-- The restart does no harm: nothing has been appended before it, or no call after it is
accepted, or the first call accepted writes the one record that is there once more, or the pool is
too large for any consumer and the first record is at least as long as everything before it. -/
def RestartSafe (left : SharedStore) (after : List AppendCall) : Prop :=
  left.ring.headAbs = 0 ∨
    ∀ call, after.find? (AppendCall.accepts left.capacity) = some call →
      left.ring.headAbs = call.bytes.length ∧
          left.ring.bytes.take call.bytes.length = call.bytes ∨
        2 ^ 32 ≤ left.capacity ∧ left.ring.headAbs ≤ call.bytes.length

/-! ## The stores of an append -/

namespace SharedStore

variable (store : SharedStore)

/-- The pool and its words change as in the owned store. -/
lemma applyAll_ring (ops : List StoreOp) :
    (store.applyAll ops).ring = store.ring.applyAll ops := by
  induction ops generalizing store with
  | nil => rfl
  | cons op ops ih =>
    refine (ih (store.apply op)).trans ?_
    cases op <;> rfl

lemma applyAll_bufferBytes (ops : List StoreOp) :
    (store.applyAll ops).bufferBytes = store.bufferBytes := by
  induction ops generalizing store with
  | nil => rfl
  | cons op ops ih =>
    refine (ih (store.apply op)).trans ?_
    cases op <;> rfl

/-- An append increments `SeqLock` twice. -/
lemma applyAll_seqLock {ops : List StoreOp} {updating : Bool} (h : Bracketed ops updating) :
    (store.applyAll ops).seqLock.toNat % 2 =
      (store.seqLock.toNat + if updating then 1 else 0) % 2 := by
  induction h generalizing store with
  | done => rfl
  | opens _ ih =>
    refine (ih (store.apply .beginControlUpdate)).trans ?_
    simp only [apply, UInt32.toNat_add]
    simp
    omega
  | @inside op stores hbegin hend _ ih =>
    refine (ih (store.apply op)).trans ?_
    cases op with
    | beginControlUpdate => exact absurd rfl hbegin
    | endControlUpdate => exact absurd rfl hend
    | _ => rfl
  | closes =>
    simp only [applyAll, List.foldl, apply, UInt32.toNat_add]
    simp

end SharedStore

/-! ## Appends of one publisher -/

/-- The publisher and its store agree with a plain ring that holds the history `written`. -/
structure Published (publisher : SharedRecordPublisher) (ring : RingBuffer)
    (written : List ReadRecord) : Prop where
  mirrors : Mirrors ring publisher.store.ring publisher.producer
  represents : ring.Represents written
  head_lt : ring.headAbs < 2 ^ 64
  even : publisher.store.seqLock % 2 = 0

/-- The store after some of the appends: it shows a ring with a part of the history, and is the
same in what appends do not change. -/
structure Reached (publisher : SharedRecordPublisher) (written written' : List ReadRecord)
    (store : SharedStore) : Prop where
  shows : ∃ ring part, store.Shows ring ∧ ring.Represents part ∧ written <+: part ∧
    part <+: written'
  advances : Advances publisher.store store
  capacity : store.capacity = publisher.store.capacity
  bufferBytes : store.bufferBytes = publisher.store.bufferBytes

section Published

variable {publisher publisher' : SharedRecordPublisher} {ring : RingBuffer}
  {written written' : List ReadRecord}

lemma even_iff {v : UInt32} : v % 2 = 0 ↔ v.toNat % 2 = 0 := by
  rw [← UInt32.toNat_inj]
  simp

/-- A call that fails the checks changes nothing. -/
lemma append_of_not_accepts {call : AppendCall}
    (h : ¬call.accepts publisher.producer.capacity = true) :
    ∃ e, append call publisher = (.err e, publisher) := by
  rcases call.run_cases publisher.producer with ⟨record, -, -, -, hrun⟩ | ⟨e, hrun⟩
  · exact absurd ((call.accepts_iff publisher.producer).mpr ⟨_, congrArg Prod.fst hrun⟩) h
  · exact ⟨e, by simp only [append, hrun]⟩

namespace Published

lemma shows (h : Published publisher ring written) : publisher.store.Shows ring :=
  ⟨h.mirrors.bytes, h.mirrors.head, h.mirrors.oldest, h.head_lt, h.even⟩

lemma capacity (h : Published publisher ring written) :
    publisher.store.capacity = ring.capacity := h.shows.capacity

/-- The store of a publisher is reached by no append. -/
lemma reached (h : Published publisher ring written) (hle : written <+: written') :
    Reached publisher written written' publisher.store :=
  ⟨⟨ring, written, h.shows, h.represents, List.prefix_rfl, hle⟩, ⟨le_rfl, le_rfl⟩, rfl, rfl⟩

/-- **One append** is rejected, overflows, or extends the history by one record. -/
lemma append (h : Published publisher ring written) (call : AppendCall) :
    (∃ e, append call publisher = (.err e, publisher)) ∨
      append call publisher = (.panic, publisher) ∨
      ∃ publisher' ring' w, append call publisher = (.ok (), publisher') ∧
        Published publisher' ring' (written ++ [w]) ∧ ring'.capacity = ring.capacity ∧
        Advances publisher.store publisher'.store ∧
        publisher'.store.bufferBytes = publisher.store.bufferBytes := by
  rcases call.run_cases publisher.producer with ⟨record, henc, hle, -, hrun⟩ | ⟨e, hrun⟩
  swap
  · exact Or.inl ⟨e, by simp only [SharedRecordPublisher.append, hrun]⟩
  rw [h.mirrors.capacity] at hle
  obtain ⟨-, ring', endAbs, hwrite, hmir⟩ := h.mirrors.accept h.represents.capacity_pos henc hle
  rcases h.represents.writeRecord record with
    ⟨ring'', startAbs, endAbs', hwrite', -, -, hstart, hend, hcap, holdest, hrep⟩ | ⟨hbad, -⟩
  swap
  · exact absurd ⟨henc, hle⟩ hbad
  rw [hwrite] at hwrite'
  obtain ⟨hspan, rfl⟩ := Prod.mk.inj hwrite'
  by_cases hlt : (publisher.producer.appendBytesCore (record.bytes true)).2.headAbs < 2 ^ 64
  swap
  · exact Or.inr (Or.inl (by simp only [SharedRecordPublisher.append, hrun, if_neg hlt]))
  right
  right
  have hhead : ring.headAbs ≤ ring'.headAbs := by
    have hplace : ring.headAbs ≤ startAbs := hstart ▸ le_place
    rw [hrep.head, logOf_concat, headOf_concat, entry_stop (hrep.spans _ (by simp))]
    simp only
    omega
  have hring := publisher.store.applyAll_ring
    (publisher.producer.appendBytesCore (record.bytes true)).1
  refine ⟨⟨publisher.store.applyAll (publisher.producer.appendBytesCore (record.bytes true)).1,
      (publisher.producer.appendBytesCore (record.bytes true)).2⟩, ring',
    ⟨startAbs, endAbs', record⟩, by simp only [SharedRecordPublisher.append, hrun, if_pos hlt],
    ⟨hring ▸ hmir, hrep, ?_, ?_⟩, hcap, ?_, SharedStore.applyAll_bufferBytes _ _⟩
  · rwa [← hmir.headAbs]
  · rw [even_iff, SharedStore.applyAll_seqLock _ (bracketed_appendBytesCore _ _)]
    simpa using even_iff.mp h.even
  · rw [Advances, hring, h.mirrors.head, h.mirrors.oldest, hmir.head, hmir.oldest]
    exact ⟨hhead, holdest⟩

/-- **Appends of one publisher** only extend the history: the offsets never decrease, and every
store on the way shows a part of it. -/
lemma run (h : Published publisher ring written) (calls : List AppendCall) :
    ∃ ring' written', Published (appendAll calls publisher) ring' written' ∧
      written <+: written' ∧ (stores calls publisher).Pairwise Advances ∧
      ∀ store ∈ stores calls publisher, Reached publisher written written' store := by
  induction calls generalizing publisher ring written with
  | nil =>
    refine ⟨ring, written, h, List.prefix_rfl, List.pairwise_singleton _ _, fun store hstore => ?_⟩
    rw [List.mem_singleton.mp hstore]
    exact h.reached List.prefix_rfl
  | cons call calls ih =>
    rw [appendAll, stores]
    rcases h.append call with ⟨e, hrun⟩ | hrun | ⟨publisher₁, ring₁, w, hrun, h₁, hcap, hadv, hbuf⟩
    · rw [hrun]
      obtain ⟨ring', written', hpub, hprefix, hpair, hreached⟩ := ih h
      refine ⟨ring', written', hpub, hprefix, ?_, ?_⟩
      · exact List.pairwise_cons.mpr ⟨fun store hstore => (hreached store hstore).advances, hpair⟩
      · intro store hstore
        rcases List.mem_cons.mp hstore with rfl | hrest
        · exact h.reached hprefix
        · exact hreached store hrest
    · rw [hrun]
      refine ⟨ring, written, h, List.prefix_rfl, List.pairwise_singleton _ _, fun store hstore => ?_⟩
      rw [List.mem_singleton.mp hstore]
      exact h.reached List.prefix_rfl
    · rw [hrun]
      obtain ⟨ring', written', hpub, hprefix, hpair, hreached⟩ := ih h₁
      have hgrows : written <+: written' := (List.prefix_append _ _).trans hprefix
      have hlater : ∀ store ∈ stores calls publisher₁, Reached publisher written written' store := by
        intro store hstore
        obtain ⟨⟨ring₂, part, hshows, hrep, hle, hle'⟩, hadv', hcap', hbuf'⟩ := hreached store hstore
        refine ⟨⟨ring₂, part, hshows, hrep, (List.prefix_append _ _).trans hle, hle'⟩,
          ⟨hadv.1.trans hadv'.1, hadv.2.trans hadv'.2⟩, hcap'.trans ?_, hbuf'.trans hbuf⟩
        rw [h₁.capacity, h.capacity, hcap]
      refine ⟨ring', written', hpub, hgrows, ?_, ?_⟩
      · exact List.pairwise_cons.mpr ⟨fun store hstore => (hlater store hstore).advances, hpair⟩
      · intro store hstore
        rcases List.mem_cons.mp hstore with rfl | hrest
        · exact h.reached hgrows
        · exact hlater store hrest

end Published

/-- A cursor taken while a history grew is a position of its log. -/
lemma CursorFrom.at {stores : List SharedStore} {cursor : ℕ} (hcursor : CursorFrom stores cursor)
    (hreached : ∀ store ∈ stores, Reached publisher written written' store) :
    ∃ rest, At (logOf written') cursor rest := by
  rcases hcursor with rfl | ⟨store, hstore, hcursor⟩
  · exact ⟨_, At.zero _⟩
  · obtain ⟨ring, part, hshows, hrep, -, more, rfl⟩ := (hreached store hstore).shows
    rw [logOf, List.map_append]
    rcases hcursor with rfl | rfl
    · rw [hshows.head, hrep.head]
      exact ⟨_, At.headOf_append _ _⟩
    · obtain ⟨rest, hat⟩ := hrep.at_oldest
      rw [hshows.oldest]
      exact ⟨_, hat.append⟩

end Published

/-- A created publisher has an empty history. -/
lemma published_create {capacity : ℕ} {created : SharedRecordPublisher}
    (h : create capacity = some created) :
    (∃ ring, Published created ring []) ∧ created.store.capacity = capacity ∧
      (created.store.bufferBytes.toNat = capacity ↔ capacity < 2 ^ 32) := by
  obtain ⟨store, hstore, rfl⟩ := Option.map_eq_some_iff.mp h
  rw [SharedStore.create, Option.ite_none_left_eq_some] at hstore
  obtain ⟨hpos, hstore⟩ := hstore
  obtain rfl := Option.some.inj hstore
  have hring : RingBuffer.new capacity = .ok ⟨List.replicate capacity 0, 0, 0, 0, 0, [], []⟩ := by
    rw [RingBuffer.new, if_neg hpos]
  refine ⟨⟨_, ⟨rfl, rfl, rfl, rfl, rfl, rfl, rfl⟩, (RingBuffer.represents_new hring).1,
    Nat.two_pow_pos 64, rfl⟩, List.length_replicate, ?_⟩
  simp only [withStore]
  split_ifs with hlt
  · rw [UInt32.toNat_ofNat', Nat.mod_eq_of_lt hlt]
    exact iff_of_true rfl hlt
  · have hmax : (0xFFFFFFFF : UInt32).toNat = 4294967295 := rfl
    omega

/-! ## The first append after a restart -/

/-- Calls that fail the checks leave the store as it is. -/
lemma stores_of_not_accepts {publisher : SharedRecordPublisher} {rejected : List AppendCall}
    (h : ∀ call ∈ rejected, ¬call.accepts publisher.producer.capacity = true)
    (calls : List AppendCall) :
    stores (rejected ++ calls) publisher =
      List.replicate rejected.length publisher.store ++ stores calls publisher := by
  induction rejected with
  | nil => rfl
  | cons call rejected ih =>
    obtain ⟨hcall, hrest⟩ := List.forall_mem_cons.mp h
    obtain ⟨e, hrun⟩ := append_of_not_accepts hcall
    rw [List.cons_append, stores, hrun, List.length_cons, List.replicate_succ, List.cons_append]
    simp only [ih hrest]

/-- The first append of a new producer: nothing is evicted and nothing is skipped. -/
lemma appendBytesCore_withStore (capacity : ℕ) (bytes : Bytes) :
    (ConcurrentProducer.withStore capacity).appendBytesCore bytes =
      (ConcurrentProducer.appendOps 0 0 (ConcurrentProducer.byteStores capacity 0 0 bytes)
        bytes.length, ⟨capacity, [(0, bytes.length)], bytes.length⟩) := by
  obtain ⟨startAbs, finalHead, kept, evicted, hstart, hfinal, hkept, hcount, hcore⟩ :=
    (ConcurrentProducer.withStore capacity).appendBytesCore_eq bytes
  obtain rfl : startAbs = 0 := hstart.trans (if_pos (Or.inl (Nat.zero_mod _)))
  obtain rfl : finalHead = bytes.length := by omega
  obtain rfl : kept = [] := hkept
  obtain rfl : evicted = 0 := hcount
  exact hcore

/-- **The first append after a restart** writes its bytes at offset zero, whatever is there, and
puts the head behind them. If nothing was lost before, the publisher goes on as one whose history
is this record. -/
lemma append_openExisting {left : SharedStore} {call : AppendCall} (hpos : 0 < left.capacity)
    (heven : left.seqLock % 2 = 0) (haccepts : call.accepts left.capacity = true) :
    ∃ publisher, append call (openExisting left) = (.ok (), publisher) ∧
      call.bytes.length ≤ left.capacity ∧
      publisher.store.ring.headAbs = call.bytes.length ∧ publisher.store.ring.oldestAbs = 0 ∧
      publisher.store.capacity = left.capacity ∧
      publisher.store.bufferBytes = left.bufferBytes ∧
      (left.ring.lostCount = 0 →
        ∃ ring w, Published publisher ring [w] ∧ w.entry = ⟨0, call.bytes⟩) := by
  obtain ⟨ops, hops⟩ := (call.accepts_iff (.withStore left.capacity)).mp haccepts
  rcases call.run_cases (.withStore left.capacity) with ⟨record, henc, hle, hbytes, hrun⟩ | ⟨e, hrun⟩
  swap
  · rw [hrun] at hops
    cases hops
  have hle : (record.bytes true).length ≤ left.capacity := hle
  have hshort : (record.bytes true).length < 2 ^ 64 := by
    have := henc.total_le
    rw [← length_bytes] at this
    omega
  have hzero : place left.capacity 0 (record.bytes true).length = 0 :=
    if_pos (Or.inl (Nat.zero_mod _))
  have hbracketed := bracketed_appendBytesCore (.withStore left.capacity) (record.bytes true)
  have heffect := fun (pool : ConcurrentRing) (hlen : pool.bytes.length = left.capacity) =>
    pool.applyAll_appendOps hpos hlen hle hzero.symm 0 0 (record.bytes true).length
  have hcore := appendBytesCore_withStore left.capacity (record.bytes true)
  generalize ConcurrentProducer.appendOps 0 0
    (ConcurrentProducer.byteStores left.capacity 0 0 (record.bytes true))
    (record.bytes true).length = stores at heffect hcore
  rw [hcore] at hrun hbracketed
  have hring := (left.applyAll_ring stores).trans (heffect left.ring rfl)
  refine ⟨⟨left.applyAll stores, ⟨left.capacity, [(0, (record.bytes true).length)],
      (record.bytes true).length⟩⟩, ?_, hbytes ▸ hle, ?_, ?_, ?_,
    SharedStore.applyAll_bufferBytes _ _, fun hlost => ?_⟩
  · simp only [SharedRecordPublisher.append, openExisting, withStore, hrun, if_pos hshort]
  · rw [hring, hbytes]
  · rw [hring]
  · rw [SharedStore.capacity, hring]
    exact length_writeEntry hpos rfl hle
  · -- a new producer over the same pool without control words does the same
    have hfresh : RingBuffer.Represents ⟨left.ring.bytes, 0, 0, 0, 0, [], []⟩ [] := by
      refine ⟨hpos, Laid.nil, by simp, rfl, rfl, rfl, rfl, rfl, by simp [logOf], ?_⟩
      intro done e rest hnil
      simp [logOf] at hnil
    have hmirrors : Mirrors ⟨left.ring.bytes, 0, 0, 0, 0, [], []⟩ ⟨left.ring.bytes, 0, 0, 0⟩
        (.withStore left.capacity) := ⟨rfl, rfl, rfl, rfl, rfl, rfl, rfl⟩
    obtain ⟨-, ring', endAbs, hwrite, hmir⟩ := hmirrors.accept hpos henc hle
    rcases hfresh.writeRecord record with
      ⟨ring'', startAbs, endAbs', hwrite', -, -, hstart, -, -, -, hrep⟩ | ⟨hbad, -⟩
    swap
    · exact absurd ⟨henc, hle⟩ hbad
    rw [hwrite] at hwrite'
    obtain ⟨-, rfl⟩ := Prod.mk.inj hwrite'
    rw [hcore, heffect ⟨left.ring.bytes, 0, 0, 0⟩ rfl] at hmir
    refine ⟨ring', ⟨startAbs, endAbs', record⟩, ⟨?_, hrep, ?_, ?_⟩, ?_⟩
    · rw [hring, hlost]
      exact hmir
    · rw [← hmir.headAbs]
      exact hshort
    · rw [even_iff, SharedStore.applyAll_seqLock _ hbracketed]
      simpa using even_iff.mp heven
    · rw [ReadRecord.entry, hstart.trans hzero, hbytes]

/-! ## What the store holds before the restart -/

namespace RingBuffer.Represents

variable {ring : RingBuffer} {written : List ReadRecord}

/-- The first record was written at offset zero. -/
lemma first_startAbs {w : ReadRecord} {rest : List ReadRecord}
    (h : ring.Represents (w :: rest)) : w.startAbs = 0 := by
  have hlaid : Laid ring.capacity ([] ++ w.entry :: logOf rest) := h.laid
  exact hlaid.split.2.1.trans (if_pos (Or.inl (Nat.zero_mod _)))

/-- Nothing has been written while the head is zero. -/
lemma written_eq_nil (h : ring.Represents written) (hzero : ring.headAbs = 0) : written = [] := by
  refine List.eq_nil_iff_forall_not_mem.mpr fun w hw => ?_
  have := h.startAbs_lt_head hw
  omega

/-- Nothing is evicted before the head has passed the capacity. -/
lemma oldest_eq_zero (h : ring.Represents written) (hle : ring.headAbs ≤ ring.capacity) :
    ring.oldestAbs = 0 := by
  cases written with
  | nil =>
    have hhead := h.head
    have := h.window.1
    simp only [logOf, List.map_nil, headOf_nil] at hhead
    omega
  | cons w rest =>
    have hmem := h.mem_index.mpr ⟨w, List.mem_cons_self, by omega, rfl⟩
    have hold := h.oldest_le_of_mem hmem
    rw [ReadRecord.indexEntry, h.first_startAbs] at hold
    exact Nat.le_zero.mp hold

/-- Nothing is lost while the oldest offset is zero. -/
lemma lost_eq_zero (h : ring.Represents written) (hzero : ring.oldestAbs = 0) :
    ring.lostCount = 0 := by
  have hlost := h.lost
  have hall : retained ring.headAbs ring.capacity written = written := by
    rw [h.retained_eq, hzero]
    simp
  rw [h.index_eq, List.length_map, hall] at hlost
  omega

/-- A pool that begins with a record as long as the head holds just this record.

**Proof sketch.** The first record written and the given one both stand at the front of the pool,
so their length fields are the same two bytes. -/
lemma log_eq_of_take (h : ring.Represents written) (hzero : ring.oldestAbs = 0) {bytes : Bytes}
    {record : Record} (hdec : Decodes bytes record) (hhead : ring.headAbs = bytes.length)
    (htake : ring.bytes.take bytes.length = bytes) : logOf written = [⟨0, bytes⟩] := by
  have hforty := hdec.header.1
  unfold HEADER_LEN at hforty
  cases written with
  | nil =>
    have := h.head
    simp only [logOf, List.map_nil, headOf_nil] at this
    omega
  | cons w rest =>
    have hstart := h.first_startAbs
    have hspans := h.spans w List.mem_cons_self
    have hslice := (h.slice_eq List.mem_cons_self (hzero ▸ Nat.zero_le _)).2
    rw [hstart, Nat.zero_mod, Nat.zero_add, List.drop_zero] at hslice
    have hfirst : Decodes (w.record.bytes true) (w.record.withCrcFlag true) :=
      hspans.delivers.decodes
    have hfield : ∀ b : Bytes, 40 ≤ b.length → ring.bytes.take b.length = b →
        (b.drop 4).take 2 = (ring.bytes.drop 4).take 2 := by
      intro b hb htake
      rw [← htake, List.drop_take, List.take_take, Nat.min_eq_left (by omega)]
    have hforty' := hfirst.header.1
    unfold HEADER_LEN at hforty'
    have hlen : (w.record.bytes true).length = bytes.length := by
      rw [← hfirst.header.2.2, ← hdec.header.2.2, hfield _ hforty htake, hfield _ hforty' hslice]
    have hrest : rest = [] := by
      refine List.eq_nil_iff_forall_not_mem.mpr fun v hv => ?_
      have hlt := h.startAbs_lt_head (List.mem_cons_of_mem w hv)
      have hpair := (List.pairwise_cons.mp h.laid.pairwise).1 v.entry (List.mem_map_of_mem hv)
      rw [entry_stop hspans, hspans.endAbs_eq, hstart] at hpair
      simp only [ReadRecord.entry] at hpair
      omega
    rw [hrest, logOf, List.map_singleton, ReadRecord.entry, hstart, ← hslice, hlen, htake]

end RingBuffer.Represents

/-! ## When a restart keeps the ring -/

/-- The first store is the one before the appends, and the last one is left behind. -/
lemma store_mem_stores (calls : List AppendCall) (publisher : SharedRecordPublisher) :
    publisher.store ∈ stores calls publisher := by
  cases calls <;> simp [stores]

lemma appendAll_mem_stores (calls : List AppendCall) {publisher : SharedRecordPublisher}
    {ring : RingBuffer} {written : List ReadRecord} (h : Published publisher ring written) :
    (appendAll calls publisher).store ∈ stores calls publisher := by
  induction calls generalizing publisher ring written with
  | nil => exact List.mem_singleton_self _
  | cons call calls ih =>
    rw [appendAll, stores]
    rcases h.append call with ⟨e, hrun⟩ | hrun | ⟨publisher₁, ring₁, w, hrun, h₁, -⟩
    · rw [hrun]
      exact List.mem_cons_of_mem _ (ih h)
    · rw [hrun]
      exact List.mem_cons_self
    · rw [hrun]
      exact List.mem_cons_of_mem _ (ih h₁)

section Restart

variable {publisher : SharedRecordPublisher} {ring ring₀ : RingBuffer}
  {written written₀ : List ReadRecord} {left : SharedStore}

/-- A publisher whose log goes on from what was left behind keeps it readable. -/
lemma Published.readable (h : Published publisher ring written) (hleft : left.Shows ring₀)
    (hrep : ring₀.Represents written₀) (hlog : logOf written₀ = logOf written)
    (hcap : publisher.store.capacity = left.capacity)
    (hbuffer : publisher.store.bufferBytes = left.bufferBytes) {calls : List AppendCall}
    {store : SharedStore} (hstore : store ∈ stores calls publisher)
    {consumer : ConcurrentRawConsumer} {r : ReadRecord}
    (hat : ∃ rest, At (logOf written₀) consumer.cursorAbs rest)
    (hread : left.Readable consumer r) (hold : store.ring.oldestAbs ≤ r.startAbs) :
    store.Readable consumer r := by
  obtain ⟨hfits, e, he, -, hcursor, hdel⟩ := (hleft.readable_iff hrep hat r).mp hread
  obtain ⟨ring', written', -, -, -, hreached⟩ := h.run calls
  obtain ⟨⟨ring₁, part, hshows, hrep₁, ⟨more, rfl⟩, -⟩, -, hcap₁, hbuffer₁⟩ :=
    hreached store hstore
  have hpart : logOf (written ++ more) = logOf written₀ ++ logOf more := by
    rw [hlog, logOf, logOf, logOf, List.map_append]
  have hat₁ : ∃ rest, At (logOf (written ++ more)) consumer.cursorAbs rest := by
    obtain ⟨rest, hat⟩ := hat
    rw [hpart]
    exact ⟨_, hat.append⟩
  refine (hshows.readable_iff hrep₁ hat₁ r).mpr ⟨?_, e, ?_, ?_, hcursor, hdel⟩
  · rw [hbuffer₁, hbuffer, hcap₁, hcap, hfits]
  · rw [hpart]
    exact List.mem_append_left _ he
  · rw [← hshows.oldest, ← hdel.start]
    exact hold

/-- A publisher that opens a store in which nothing has been written goes on as usual. -/
lemma Published.openExisting (h : Published publisher ring []) :
    Published (SharedRecordPublisher.openExisting publisher.store) ring [] := by
  have hindex : ring.index = [] := by
    rw [h.represents.index_eq]
    rfl
  refine ⟨⟨h.mirrors.bytes, h.mirrors.head, h.mirrors.oldest, h.mirrors.lost, h.capacity, ?_, ?_⟩,
    h.represents, h.head_lt, h.even⟩
  · exact h.represents.head.symm
  · rw [hindex]
    rfl

/-- The stores after a restart: as it was left until the first call is accepted, then as that call
leaves it. -/
lemma stores_openExisting {after : List AppendCall} {call : AppendCall}
    (hfind : after.find? (AppendCall.accepts left.capacity) = some call)
    (hrun : append call (openExisting left) = (.ok (), publisher)) :
    ∃ n calls, stores after (openExisting left) =
      List.replicate n left ++ left :: stores calls publisher := by
  obtain ⟨-, rejected, calls, rfl, hrejected⟩ := List.find?_eq_some_iff_append.mp hfind
  refine ⟨rejected.length, calls, ?_⟩
  have hreject : ∀ call ∈ rejected, ¬call.accepts left.capacity = true :=
    fun call hcall => by simpa using hrejected call hcall
  rw [stores_of_not_accepts (show _ from hreject), stores, hrun]
  rfl

/-- Without a call that is accepted, the store stays as it was left. -/
lemma eq_left_of_find?_eq_none {after : List AppendCall}
    (hfind : after.find? (AppendCall.accepts left.capacity) = none) {store : SharedStore}
    (hstore : store ∈ stores after (openExisting left)) : store = left := by
  have hreject : stores (after ++ []) (openExisting left) = List.replicate after.length left ++
      stores [] (openExisting left) := stores_of_not_accepts (List.find?_eq_none.mp hfind) []
  rw [List.append_nil] at hreject
  rw [hreject, List.mem_append] at hstore
  rcases hstore with hold | hlast
  · exact List.eq_of_mem_replicate hold
  · exact List.mem_singleton.mp hlast

/-- Stores that are all the same, in front of stores that advance. -/
lemma pairwise_advances {n : ℕ} {later : List SharedStore}
    (hlater : ∀ store ∈ later, Advances left store) (hpair : later.Pairwise Advances) :
    (List.replicate n left ++ left :: later).Pairwise Advances := by
  have hrefl : Advances left left := ⟨le_rfl, le_rfl⟩
  refine List.pairwise_append.mpr ⟨List.pairwise_replicate.mpr (Or.inr hrefl),
    List.pairwise_cons.mpr ⟨hlater, hpair⟩, fun a ha b hb => ?_⟩
  rw [List.eq_of_mem_replicate ha]
  rcases List.mem_cons.mp hb with rfl | hmem
  · exact hrefl
  · exact hlater b hmem

/-- **A restart that keeps the ring is safe.** The store after the first append shows just the
record appended; whatever could be read before has to be this record. -/
lemma KeepsRing.restartSafe {before : List SharedStore} {after : List AppendCall}
    (hleft : left.Shows ring₀) (hlost : left.ring.lostCount = ring₀.lostCount)
    (hrep : ring₀.Represents written₀)
    (hfits : left.capacity < 2 ^ 32 → left.bufferBytes.toNat = left.capacity)
    (hkeeps : KeepsRing before left (stores after (openExisting left))) :
    RestartSafe left after := by
  by_cases hzero : left.ring.headAbs = 0
  · exact Or.inl hzero
  right
  intro call hfind
  have hpos : 0 < left.capacity := hleft.capacity ▸ hrep.capacity_pos
  obtain ⟨publisher, hrun, -, hhead, holdest, hcap, hbuffer, hgoes⟩ :=
    append_openExisting hpos hleft.even (List.find?_some hfind)
  obtain ⟨n, calls, hstores⟩ := stores_openExisting hfind hrun
  have hmem := store_mem_stores calls publisher
  rw [hstores] at hkeeps
  obtain ⟨hle, hold⟩ : Advances left publisher.store :=
    (List.pairwise_cons.mp (List.pairwise_append.mp hkeeps.advances).2.1).1 _ hmem
  rw [hhead] at hle
  rw [holdest, hleft.oldest] at hold
  by_cases hlarge : 2 ^ 32 ≤ left.capacity
  · exact Or.inr ⟨hlarge, hle⟩
  left
  have hfits := hfits (Nat.not_le.mp hlarge)
  obtain ⟨ring₁, w, hpub, hentry⟩ :=
    hgoes (hlost.trans (hrep.lost_eq_zero (Nat.le_zero.mp hold)))
  -- every record that is there is the one appended
  have hsame : ∀ v ∈ written₀, v.entry = ⟨0, call.bytes⟩ := by
    intro v hv
    have hread : left.Readable .withStore v.delivered :=
      (hleft.readable_iff hrep ⟨_, At.zero _⟩ _).mpr ⟨hfits, v.entry, List.mem_map_of_mem hv,
        hold.trans (Nat.zero_le _), Nat.zero_le _, (hrep.spans v hv).delivers⟩
    have hread₁ := hkeeps.readable publisher.store
      (List.mem_append_right _ (List.mem_cons_of_mem _ hmem)) _ _ (Or.inl rfl) hread
      (holdest ▸ Nat.zero_le _)
    obtain ⟨-, e, he, -, -, hdel⟩ :=
      (hpub.shows.readable_iff hpub.represents ⟨_, At.zero _⟩ _).mp hread₁
    rw [(hrep.spans v hv).delivers.entry_unique hdel, ← hentry]
    exact List.mem_singleton.mp he
  obtain ⟨v, hv⟩ : ∃ v, written₀.getLast? = some v := by
    cases hlast : written₀.getLast? with
    | some v => exact ⟨v, rfl⟩
    | none =>
      rw [List.getLast?_eq_none_iff.mp hlast] at hrep
      exact absurd (hleft.head.trans hrep.head) hzero
  have hventry := hsame v (List.mem_of_getLast? hv)
  obtain ⟨hstart, hdata⟩ : v.startAbs = 0 ∧ v.record.bytes true = call.bytes :=
    ⟨congrArg Entry.start hventry, congrArg Entry.data hventry⟩
  refine ⟨?_, ?_⟩
  · rw [hleft.head, hrep.head, logOf, headOf, List.getLast?_map, hv]
    simp only [Option.map_some, hventry, Entry.stop, Nat.zero_add]
  · have hslice := (hrep.slice_eq (List.mem_of_getLast? hv) (hold.trans (Nat.zero_le _))).2
    rwa [hstart, Nat.zero_mod, Nat.zero_add, List.drop_zero, hdata, ← hleft.bytes] at hslice

/-- **A safe restart keeps the ring.** -/
lemma RestartSafe.keepsRing {before : List SharedStore} {after : List AppendCall}
    (hleft : Published publisher ring₀ written₀) (heq : publisher.store = left)
    (hfits : left.bufferBytes.toNat = left.capacity → left.capacity < 2 ^ 32)
    (hcursor : ∀ cursor, CursorFrom before cursor → ∃ rest, At (logOf written₀) cursor rest)
    (hsafe : RestartSafe left after) :
    KeepsRing before left (stores after (openExisting left)) := by
  subst heq
  have hshows := hleft.shows
  have hrep := hleft.represents
  rcases hsafe with hzero | hcalls
  · -- nothing has been written: the new producer is the old one
    obtain rfl := hrep.written_eq_nil (hshows.head ▸ hzero)
    have hopened := hleft.openExisting
    obtain ⟨-, -, -, -, hpair, -⟩ := hopened.run after
    exact ⟨hpair, fun store hstore consumer r hcons hread hold =>
      hopened.readable hshows hrep rfl rfl rfl hstore (hcursor _ hcons) hread hold⟩
  · cases hfind : after.find? (AppendCall.accepts publisher.store.capacity) with
    | none =>
      refine ⟨List.pairwise_of_forall_mem_list fun a ha b hb => ?_,
    fun store hstore _ _ _ hread _ => ?_⟩
      · rw [eq_left_of_find?_eq_none hfind ha, eq_left_of_find?_eq_none hfind hb]
        exact ⟨le_rfl, le_rfl⟩
      · rwa [eq_left_of_find?_eq_none hfind hstore]
    | some call =>
      obtain ⟨opened, hrun, hshort, hhead, holdest, hcap, hbuffer, hgoes⟩ :=
        append_openExisting (hleft.capacity ▸ hrep.capacity_pos) hleft.even (List.find?_some hfind)
      obtain ⟨n, calls, hstores⟩ := stores_openExisting hfind hrun
      have hle : publisher.store.ring.headAbs ≤ call.bytes.length := by
        rcases hcalls call hfind with ⟨hsame, -⟩ | ⟨-, hle⟩
        · exact hsame.le
        · exact hle
      have hold₀ : ring₀.oldestAbs = 0 := hrep.oldest_eq_zero (by
        rw [← hshows.head, ← hleft.capacity]
        exact hle.trans hshort)
      obtain ⟨ring₁, w, hopened, hentry⟩ :=
        hgoes (hleft.mirrors.lost.trans (hrep.lost_eq_zero hold₀))
      obtain ⟨_, _, -, -, hpair, hreached⟩ := hopened.run calls
      have hfirst : Advances publisher.store opened.store := by
        rw [Advances, hhead, holdest, hshows.oldest, hold₀]
        exact ⟨hle, le_rfl⟩
      rw [hstores]
      refine ⟨pairwise_advances (fun store hstore => ?_) hpair, ?_⟩
      · obtain ⟨hadv₁, hadv₂⟩ := (hreached store hstore).advances
        exact ⟨hfirst.1.trans hadv₁, hfirst.2.trans hadv₂⟩
      · intro store hstore consumer r hcons hread hold
        have hcases : store = publisher.store ∨ store ∈ stores calls opened := by
          rcases List.mem_append.mp hstore with hold | hlater
          · exact Or.inl (List.eq_of_mem_replicate hold)
          · exact List.mem_cons.mp hlater
        rcases hcases with rfl | hlater
        · exact hread
        rcases hcalls call hfind with ⟨hsame, htake⟩ | ⟨hlarge, -⟩
        · -- the record that is there is written once more
          have hspans := hopened.represents.spans w (List.mem_singleton_self w)
          have hdec : Decodes call.bytes (w.record.withCrcFlag true) := by
            have := hspans.delivers.decodes
            rwa [hentry] at this
          have hlog := hrep.log_eq_of_take hold₀ hdec (hshows.head ▸ hsame) (hshows.bytes ▸ htake)
          refine hopened.readable hshows hrep ?_ hcap hbuffer hlater (hcursor _ hcons) hread hold
          rw [hlog, logOf, List.map_singleton, hentry]
        · -- no consumer can read the store
          have hfits := hfits ((hshows.readable_iff hrep (hcursor _ hcons) r).mp hread).1
          omega

end Restart

/-- **When a restart keeps the ring.** For every capacity, every sequence of appends to a new store
and every sequence of appends after the store left behind has been opened again: neither offset
ever decreases and every record that a consumer could read stays readable until the oldest offset
passes it, exactly if nothing had been appended, or no call is accepted, or the first call
accepted writes once more the one record that is there, or the pool is too large to be read and
the first record is at least as long as everything before it. -/
theorem restart_keeps_ring_iff {capacity : ℕ} {created : SharedRecordPublisher}
    (hcreate : create capacity = some created) (before after : List AppendCall)
    {left : SharedStore} (hleft : (appendAll before created).store = left) :
    KeepsRing (stores before created) left (stores after (openExisting left)) ↔
      RestartSafe left after := by
  obtain ⟨⟨ring, hcreated⟩, hcap, hfits⟩ := published_create hcreate
  obtain ⟨ring₀, written₀, hpub, -, -, hreached⟩ := hcreated.run before
  obtain ⟨-, -, hcap₀, hbuffer₀⟩ := hreached _ (appendAll_mem_stores before hcreated)
  rw [hleft, hcap] at hcap₀
  rw [hleft] at hbuffer₀
  rw [← hbuffer₀] at hfits
  constructor
  · have hshows := hpub.shows
    have hlost := hpub.mirrors.lost
    rw [hleft] at hshows hlost
    exact KeepsRing.restartSafe hshows hlost hpub.represents (hcap₀ ▸ hfits.mpr)
  · exact RestartSafe.keepsRing hpub hleft (hcap₀ ▸ hfits.mp) fun _ hcursor => hcursor.at hreached

/-- A pool of 100 that holds one record: appending the same record first and another one then
keeps the ring. -/
theorem restart_keeps_ring_iff_same_record :
    ∃ created left, create 100 = some created ∧
      (appendAll [.writeRecord (Record.new 0 0 0 1 1)] created).store = left ∧
      left.ring.headAbs = 44 ∧
      KeepsRing (stores [.writeRecord (Record.new 0 0 0 1 1)] created) left
        (stores [.writeRecord (Record.new 0 0 0 1 1), .writeRecord (Record.new 0 0 1 1 1)]
          (openExisting left)) := by
  refine ⟨_, _, rfl, rfl, by decide +kernel, (restart_keeps_ring_iff
    (show create 100 = some _ from rfl) _ _ rfl).mpr (Or.inr fun call hcall => Or.inl ?_)⟩
  have hfind : List.find? (AppendCall.accepts 100) [.writeRecord (Record.new 0 0 0 1 1),
      .writeRecord (Record.new 0 0 1 1 1)] = some (.writeRecord (Record.new 0 0 0 1 1)) := by
    decide +kernel
  obtain rfl := Option.some.inj (hfind.symm.trans hcall)
  decide +kernel

/-- A restart that does not keep the ring: two records of 44 bytes have been appended to a pool of
100, and the first append of the new publisher puts the head back from 88 to 44. -/
theorem restart_rewinds_head :
    ∃ created left, create 100 = some created ∧
      (appendAll (List.replicate 2 (.writeRecord (Record.new 0 0 0 1 1))) created).store = left ∧
      (stores [.writeRecord (Record.new 0 0 0 1 1)] (openExisting left)).map (·.ring.headAbs) =
        [88, 44] ∧
      ¬KeepsRing (stores (List.replicate 2 (.writeRecord (Record.new 0 0 0 1 1))) created) left
        (stores [.writeRecord (Record.new 0 0 0 1 1)] (openExisting left)) := by
  refine ⟨_, _, rfl, rfl, by decide +kernel, fun hkeeps => ?_⟩
  have hsorted := List.pairwise_map.mpr (hkeeps.advances.imp And.left)
  revert hsorted
  decide +kernel

end OpenOT
