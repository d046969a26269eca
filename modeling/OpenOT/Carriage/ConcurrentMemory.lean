import OpenOT.Carriage.ConcurrentAppend
import OpenOT.Carriage.ConcurrentWalk
import OpenOT.Carriage.RingRaw

set_option relaxedAutoImplicit false
set_option autoImplicit false

/-!
# The owned store while an append is under way

The producer's side of the protocol, store by store. Between two appends the store agrees with a
plain ring (`Quiescent`). During an append every single store keeps the shared memory valid and
moves it forward: the oldest offset goes up before the first reclaimed byte is touched, the bytes
that are then written lie less than a pool ahead of it, and the head is published when the entry
is complete.

## Main definitions

* `OpenOT.Memory` — the store with the entries published and the entry being appended.
* `OpenOT.Memory.Follows` — a list of stores that keeps the memory valid, one by one.
* `OpenOT.Quiescent` — the store between two appends.

## Main results

* `OpenOT.Quiescent.follows_append` — the stores of an append, from a quiescent store to a
  quiescent store.
-/

namespace OpenOT

open Rust CircularLog Shared

/-! ## The memory -/

/-- The owned store together with what is in it: the entries below the published head and the
entry being appended. -/
structure Memory where
  published : List (Entry UInt8)
  pending : List (Entry UInt8)
  ring : ConcurrentRing

namespace Memory

/-- The view a consumer has of the memory. -/
def view (m : Memory) : View := ⟨m.published, m.pending, m.ring.bytes, m.ring.oldestAbs⟩

/-- The view is valid and the head is the end of what is published. -/
structure Valid (cap : ℕ) (m : Memory) : Prop where
  view : m.view.Valid cap
  head : m.ring.headAbs = headOf m.published

/-- One store: the entry being appended is published by the store of the head. -/
def apply (m : Memory) (op : StoreOp) : Memory :=
  match op with
  | .storeHead _ => ⟨m.published ++ m.pending, [], m.ring.apply op⟩
  | _ => { m with ring := m.ring.apply op }

/-- The stores `ops` keep the memory valid and move it forward, one by one, and lead to `F`. -/
def Follows (cap : ℕ) : List StoreOp → Memory → (Memory → Prop) → Prop
  | [], m, F => F m
  | op :: ops, m, F =>
    (m.apply op).Valid cap ∧ m.view.Later (m.apply op).view ∧ Follows cap ops (m.apply op) F

variable {cap : ℕ} {m : Memory} {F : Memory → Prop}

/-- A store that a consumer's view does not show. -/
lemma follows_silent {op : StoreOp} {ops : List StoreOp} (hm : m.Valid cap)
    (hsilent : m.ring.apply op = { m.ring with lostCount := (m.ring.apply op).lostCount })
    (hhead : ∀ v, op ≠ .storeHead v)
    (h : Follows cap ops { m with ring := m.ring.apply op } F) : Follows cap (op :: ops) m F := by
  have happly : m.apply op = { m with ring := m.ring.apply op } := by
    cases op <;> first | rfl | exact absurd rfl (hhead _)
  have hview : (m.apply op).view = m.view := by
    rw [happly, hsilent]
    rfl
  refine ⟨⟨hview ▸ hm.view, ?_⟩, hview ▸ View.Later.refl _, happly ▸ h⟩
  rw [happly, hsilent]
  exact hm.head

/-- The loss is added, if there is any. -/
lemma follows_lost {n : ℕ} {ops : List StoreOp} (hm : m.Valid cap)
    (h : ∀ lost, Follows cap ops { m with ring := { m.ring with lostCount := lost } } F) :
    Follows cap ((if 0 < n then [.fetchAddLost n] else []) ++ ops) m F := by
  split_ifs
  · exact follows_silent hm rfl (by simp) (h _)
  · exact h m.ring.lostCount

/-- A store of a byte ahead of the head and less than a pool ahead of the oldest offset. -/
lemma Valid.storeByte (hm : m.Valid cap) {stop : ℕ} (hwindow : stop ≤ m.ring.oldestAbs + cap)
    {y : ℕ} (hy : headOf m.published ≤ y) (hy' : y < stop) {byte : UInt8}
    (hfirst : y % cap = 0 → byte = 0x4F) :
    (m.apply (.storeByte (y % cap) byte)).Valid cap ∧
      m.view.Later (m.apply (.storeByte (y % cap) byte)).view := by
  have hlaid : Laid cap m.published := hm.view.laid.of_append
  refine ⟨⟨⟨hm.view.laid, hm.view.decodes, ?_, hm.view.oldest_at, ?_⟩, hm.head⟩,
    List.prefix_refl _, List.prefix_refl _, le_rfl⟩
  · refine hm.view.intact.of_agree hlaid ?_ ?_
    · exact (List.length_set ..).trans hm.view.intact.length
    · intro x (hx : m.ring.oldestAbs ≤ x) (hlt : x < headOf m.published)
      exact List.getElem?_set_ne
        (mod_ne_of_lt_of_lt (by omega : x < y) (by omega : y < x + cap)).symm
  · intro hne
    have hold : m.ring.bytes[0]? = some 0x4F := hm.view.first hne
    change (m.ring.bytes.set (y % cap) byte)[0]? = some 0x4F
    by_cases hzero : y % cap = 0
    · obtain ⟨hlt, -⟩ := List.getElem?_eq_some_iff.mp hold
      rw [hfirst hzero, hzero, List.getElem?_set_self hlt]
    · rw [List.getElem?_set_ne hzero, hold]

/-- A list of such stores. -/
lemma follows_bytes {stop : ℕ} {stores ops : List StoreOp} (hm : m.Valid cap)
    (hwindow : stop ≤ m.ring.oldestAbs + cap)
    (hstores : ∀ op ∈ stores, ∃ y byte, op = .storeByte (y % cap) byte ∧
      headOf m.published ≤ y ∧ y < stop ∧ (y % cap = 0 → byte = 0x4F))
    (h : ∀ m' : Memory, m'.Valid cap →
      m' = { m with ring := m.ring.applyAll stores } → Follows cap ops m' F) :
    Follows cap (stores ++ ops) m F := by
  induction stores generalizing m with
  | nil => exact h m hm rfl
  | cons op stores ih =>
    obtain ⟨⟨y, byte, rfl, hy, hy', hfirst⟩, hrest⟩ := List.forall_mem_cons.mp hstores
    obtain ⟨hvalid, hlater⟩ := hm.storeByte hwindow hy hy' hfirst
    exact ⟨hvalid, hlater, ih hvalid hwindow hrest h⟩

/-- The byte stores of an append lie between the old head and the new one, and what goes to the
first cell of the pool is the first byte of the entry. -/
lemma mem_byteStores {head startAbs : ℕ} {bytes : Bytes} (hcap : 0 < cap)
    (hle : bytes.length ≤ cap) (hpos : bytes[0]? = some 0x4F)
    (hstart : startAbs = place cap head bytes.length) :
    ∀ op ∈ ConcurrentProducer.byteStores cap head startAbs bytes,
      ∃ y byte, op = .storeByte (y % cap) byte ∧ head ≤ y ∧ y < startAbs + bytes.length ∧
        (y % cap = 0 → byte = 0x4F) := by
  have hfit := place_mod_add_le hcap hle head
  have hge : head ≤ startAbs := hstart ▸ le_place
  obtain ⟨hlen, hfirst⟩ := List.getElem?_eq_some_iff.mp hpos
  intro op hop
  rcases List.mem_append.mp hop with hmark | hbody
  · split_ifs at hmark with hgap
    · refine ⟨head, 0, List.mem_singleton.mp hmark, le_rfl, by omega, fun hzero => ?_⟩
      rcases place_cases hcap head bytes.length with ⟨heq, -⟩ | ⟨hne, -⟩
      · exact absurd (hstart.trans heq) hgap
      · exact absurd hzero hne
    · simp at hmark
  · obtain ⟨i, hi, rfl⟩ := List.mem_mapIdx.mp hbody
    refine ⟨startAbs + i, bytes[i], ?_, by omega, by omega, fun hzero => ?_⟩
    · rw [add_mod_of_lt (by rw [hstart]; omega)]
    · rw [add_mod_of_lt (by rw [hstart]; omega)] at hzero
      obtain rfl : i = 0 := by omega
      exact hfirst

/-- The stores of an append from that of the oldest offset on. -/
lemma follows_publish {head startAbs finalHead oldest : ℕ} {bytes : Bytes} (hcap : 0 < cap)
    (hm : m.Valid cap) (hpending : m.pending = [⟨startAbs, bytes⟩])
    (hhead : headOf m.published = head) (hle : bytes.length ≤ cap) (hpos : bytes[0]? = some 0x4F)
    (hstart : startAbs = place cap head bytes.length)
    (hfinal : finalHead = startAbs + bytes.length) (hold : m.ring.oldestAbs ≤ oldest)
    (hwindow : finalHead ≤ oldest + cap) (hat : ∃ rest, At m.view.log oldest rest)
    (h : F ⟨m.published ++ m.pending, [], { m.ring with
      bytes := writeEntry cap 0 head bytes m.ring.bytes
      headAbs := finalHead
      oldestAbs := oldest }⟩) :
    Follows cap (.storeOldest oldest :: .releaseBeforeClobber ::
      (ConcurrentProducer.byteStores cap head startAbs bytes ++
        [.storeHead finalHead, .endControlUpdate])) m F := by
  obtain ⟨hlen, -⟩ := List.getElem?_eq_some_iff.mp hpos
  have hlaid : Laid cap m.published := hm.view.laid.of_append
  -- the oldest offset goes up
  have hm₁ : (m.apply (.storeOldest oldest)).Valid cap :=
    ⟨⟨hm.view.laid, hm.view.decodes, hm.view.intact.mono hold, hat, hm.view.first⟩, hm.head⟩
  refine ⟨hm₁, ⟨List.prefix_refl _, List.prefix_refl _, hold⟩, ?_⟩
  refine follows_silent hm₁ rfl (by simp) (follows_bytes hm₁ (hfinal ▸ hwindow)
    (hhead ▸ mem_byteStores hcap hle hpos (hhead.symm ▸ hstart)) fun m₂ hm₂ heq => ?_)
  -- the bytes are in the pool
  have hring : m₂.ring = { m.ring with
      bytes := writeEntry cap 0 head bytes m.ring.bytes
      oldestAbs := oldest } := by
    rw [heq]
    exact ConcurrentRing.applyAll_byteStores _ hcap hm.view.intact.length hle hstart
  have hpub : m₂.published = m.published ∧ m₂.pending = m.pending := by
    rw [heq]
    exact ⟨rfl, rfl⟩
  have hlog : m.published ++ m.pending = m.published ++
      [⟨place cap (headOf m.published) bytes.length, bytes⟩] := by
    rw [hpending, hhead, ← hstart]
  have hm₃ : m₂.apply (.storeHead finalHead) = ⟨m.published ++ m.pending, [], { m.ring with
      bytes := writeEntry cap 0 head bytes m.ring.bytes
      headAbs := finalHead
      oldestAbs := oldest }⟩ := by
    simp only [apply, hpub, hring, ConcurrentRing.apply]
  -- the head is published
  have hvalid : (m₂.apply (.storeHead finalHead)).Valid cap := by
    rw [hm₃]
    refine ⟨⟨?_, ?_, ?_, ?_, ?_⟩, ?_⟩
    · simpa [View.log, view] using hm.view.laid
    · simpa [View.log, view] using hm.view.decodes
    · change Intact cap 0 (m.published ++ m.pending) oldest _
      rw [hlog, ← hhead]
      have hwindow' : place cap (headOf m.published) bytes.length + bytes.length ≤ oldest + cap := by
        rw [hhead, ← hstart, ← hfinal]
        exact hwindow
      exact hm.view.intact.write hcap hlaid (by omega) hle hold hwindow'
    · simpa [View.log, view] using hat
    · intro _
      change (writeEntry cap 0 head bytes m.ring.bytes)[0]? = some 0x4F
      by_cases hnil : m.published = []
      · obtain rfl : head = 0 := by
          rw [← hhead, hnil, headOf_nil]
        have hlen' : m.ring.bytes.length = cap := hm.view.intact.length
        have hholds : Holds cap (writeEntry cap 0 0 bytes m.ring.bytes) _ :=
          holds_writeEntry hcap hlen' hle
        simpa [place, hpos] using hholds 0 hlen
      · have hne : m₂.view.published ≠ [] := by
          rw [view, hpub.1]
          exact hnil
        simpa only [view, hring] using hm₂.view.first hne
    · change finalHead = headOf (m.published ++ m.pending)
      rw [hpending, headOf_concat, hfinal]
      rfl
  refine ⟨hvalid, ?_, follows_silent hvalid rfl (by simp) (hm₃ ▸ h)⟩
  rw [hm₃]
  refine ⟨?_, ?_, ?_⟩
  · simp only [view, hpub]
    exact List.prefix_append _ _
  · simp only [View.log, view, hpub, List.append_nil]
    exact List.prefix_refl _
  · simp only [view, hring]
    exact le_rfl

/-- What a list of stores leads to, with the ring they leave. -/
lemma follows_ring {ops : List StoreOp} (h : Follows cap ops m F) :
    Follows cap ops m fun m' => F m' ∧ m'.ring = m.ring.applyAll ops := by
  induction ops generalizing m with
  | nil => exact ⟨h, rfl⟩
  | cons op ops ih =>
    obtain ⟨hvalid, hlater, hrest⟩ := h
    have hring : (m.apply op).ring = m.ring.apply op := by
      cases op <;> rfl
    refine ⟨hvalid, hlater, ?_⟩
    have := ih hrest
    rwa [hring] at this

lemma follows_mono {ops : List StoreOp} {F' : Memory → Prop} (h : Follows cap ops m F)
    (hF : ∀ m, F m → F' m) : Follows cap ops m F' := by
  induction ops generalizing m with
  | nil => exact hF m h
  | cons op ops ih => exact ⟨h.1, h.2.1, ih h.2.2⟩

end Memory

/-! ## Between two appends -/

namespace RingBuffer.Represents

variable {ring : RingBuffer} {written : List ReadRecord}

/-- Every entry of the history is a record. -/
lemma decodes (h : ring.Represents written) :
    ∀ e ∈ logOf written, ∃ record, Decodes e.data record := by
  intro e he
  obtain ⟨w, hw, rfl⟩ := List.mem_map.mp he
  exact ⟨_, Decodes.of_encode (encode_of_encodable (h.spans w hw).encodable)⟩

/-- Once something has been written the pool begins with a sync byte: the last multiple of the
capacity below the head is the start of a retained record. -/
lemma first_byte (h : ring.Represents written) (hne : written ≠ []) :
    ring.bytes[0]? = some 0x4F := by
  have hcap := h.capacity_pos
  obtain ⟨w, hw⟩ := List.exists_mem_of_ne_nil written hne
  have hpos := h.startAbs_lt_head hw
  set last := ring.capacity * ((ring.headAbs - 1) / ring.capacity) with hlast
  have hmod : last % ring.capacity = 0 := Nat.mul_mod_right _ _
  have hdiv := Nat.div_add_mod (ring.headAbs - 1) ring.capacity
  have hlt := Nat.mod_lt (ring.headAbs - 1) hcap
  obtain ⟨e, he, hstart⟩ := h.laid.exists_start_of_mod_eq_zero hcap hmod
    (h.head ▸ (by omega : last < ring.headAbs))
  obtain ⟨v, hv, rfl⟩ := List.mem_map.mp he
  have hge : ring.oldestAbs ≤ v.startAbs := by
    refine h.oldest_le_of_mem (h.mem_index.mpr ⟨v, hv, ?_, rfl⟩)
    have : v.startAbs = last := hstart
    omega
  obtain ⟨record, hdec⟩ := h.decodes _ he
  have hzero := h.intact.entry _ he hge 0 (by
    have := hdec.header.1
    unfold HEADER_LEN at this
    omega)
  rwa [Nat.add_zero, hstart, hmod, hdec.head_ne_zero] at hzero

end RingBuffer.Represents

/-- Between two appends the store agrees with a plain ring that represents what is published. -/
def Quiescent (producer : ConcurrentProducer) (m : Memory) : Prop :=
  ∃ ring written, RingBuffer.Represents ring written ∧ Mirrors ring m.ring producer ∧
    m.published = logOf written ∧ m.pending = []

/-- A new store. -/
lemma quiescent_new {capacity : ℕ} {store : ConcurrentRing}
    (h : ConcurrentRing.new capacity = .ok store) :
    Quiescent (.withStore capacity) ⟨[], [], store⟩ := by
  have hring : ∃ ring, RingBuffer.new capacity = .ok ring := by
    unfold ConcurrentRing.new at h
    unfold RingBuffer.new
    split_ifs at h ⊢
    exact ⟨_, rfl⟩
  obtain ⟨ring, hring⟩ := hring
  exact ⟨ring, [], (RingBuffer.represents_new hring).1, mirrors_new hring h, rfl, rfl⟩

namespace Quiescent

variable {producer : ConcurrentProducer} {m : Memory}

lemma capacity_pos (h : Quiescent producer m) : 0 < producer.capacity := by
  obtain ⟨ring, written, hrep, hmir, -, -⟩ := h
  exact hmir.capacity ▸ hrep.capacity_pos

/-- A quiescent store is valid, also with the next entry announced. -/
lemma valid (h : Quiescent producer m) : m.Valid producer.capacity := by
  obtain ⟨ring, written, hrep, hmir, hpub, hpend⟩ := h
  have hlog : m.view.log = logOf written := by
    rw [View.log, Memory.view, hpub, hpend, List.append_nil]
  refine ⟨⟨?_, ?_, ?_, ?_, ?_⟩, ?_⟩
  · rw [hlog, hmir.capacity]
    exact hrep.laid
  · rw [hlog]
    exact hrep.decodes
  · simp only [Memory.view, hpub, hmir.bytes, hmir.oldest, hmir.capacity]
    exact hrep.intact
  · rw [hlog]
    simp only [Memory.view, hmir.oldest]
    exact hrep.at_oldest
  · intro hne
    simp only [Memory.view, hmir.bytes]
    refine hrep.first_byte fun hnil => hne ?_
    simp [Memory.view, hpub, hnil, logOf]
  · rw [hmir.head, hpub, hrep.head]

/-- **The stores of an append.** From a quiescent store, with the entry announced, every store of
the append keeps the memory valid and moves it forward, and the last one leaves it quiescent.

**Proof sketch.** The oldest offset goes to that of the plain ring after the same call, which is
at most a capacity behind the new head. The bytes of the gap mark and of the entry lie between
the old head and the new one, so they miss every protected cell (`Memory.Valid.storeByte`). When
the head is stored, the store agrees with the plain ring again. -/
lemma follows_append (h : Quiescent producer m) {record : Record} (henc : record.Encodable true)
    (hle : (record.bytes true).length ≤ producer.capacity) {m₀ : Memory}
    (hm₀ : m₀ = { m with pending :=
      [⟨producer.nextStartAbs (record.bytes true).length, record.bytes true⟩] }) :
    m₀.Valid producer.capacity ∧ m.view.Later m₀.view ∧
      m₀.Follows producer.capacity (producer.appendBytesCore (record.bytes true)).1
        (Quiescent (producer.appendBytesCore (record.bytes true)).2) := by
  have hcap := h.capacity_pos
  have hvalid := h.valid
  obtain ⟨ring, written, hrep, hmir, hpub, hpend⟩ := h
  have hle' : (record.bytes true).length ≤ ring.capacity := hmir.capacity ▸ hle
  obtain ⟨-, ring', endAbs, hring, hmir'⟩ := hmir.accept hrep.capacity_pos henc hle'
  rcases hrep.writeRecord record with
    ⟨ring'', startAbs, endAbs', hwrite, -, -, hstart, hend, hcap', hmono, hrep'⟩ | ⟨hbad, -⟩
  swap
  · exact absurd ⟨henc, hle'⟩ hbad
  rw [hring] at hwrite
  obtain ⟨hres, rfl⟩ := Prod.mk.inj hwrite
  obtain ⟨rfl, rfl⟩ := Prod.mk.inj (Outcome.ok.inj hres)
  obtain ⟨startAbs, finalHead, kept, evicted, hs, hf, -, -, heq⟩ :=
    producer.appendBytesCore_eq (record.bytes true)
  obtain rfl : startAbs = producer.nextStartAbs (record.bytes true).length := hs
  obtain rfl : finalHead = endAbs := hf.trans hend.symm
  have hplace : producer.nextStartAbs (record.bytes true).length =
      place producer.capacity producer.headAbs (record.bytes true).length := rfl
  -- the store after the append is that of the ring after the call
  have hlen : m.ring.bytes.length = producer.capacity := hvalid.view.intact.length
  have hstore := m.ring.applyAll_appendOps hcap hlen hle hplace evicted
    (kept.head?.elim (producer.nextStartAbs (record.bytes true).length) (·.1)) finalHead
  rw [heq, hstore] at hmir'
  set oldest := kept.head?.elim (producer.nextStartAbs (record.bytes true).length) (·.1)
  have holdest : oldest = ring'.oldestAbs := hmir'.oldest
  have hhead' : finalHead = ring'.headAbs := hmir'.head
  have hcap'' : producer.capacity = ring'.capacity := hmir.capacity.trans hcap'.symm
  have hlog : m.published ++ [⟨producer.nextStartAbs (record.bytes true).length,
      record.bytes true⟩] = logOf (written ++
        [⟨producer.nextStartAbs (record.bytes true).length, finalHead, record⟩]) := by
    rw [logOf_concat, hpub]
    rfl
  have hvalid₀ : m₀.Valid producer.capacity := by
    subst hm₀
    refine ⟨⟨?_, ?_, hvalid.view.intact, ?_, hvalid.view.first⟩, hvalid.head⟩
    · rw [View.log, Memory.view, hlog, hcap'']
      exact hrep'.laid
    · rw [View.log, Memory.view, hlog]
      exact hrep'.decodes
    · obtain ⟨rest, hat⟩ := hvalid.view.oldest_at
      rw [View.log, Memory.view, hpend, List.append_nil] at hat
      exact ⟨_, hat.append⟩
  refine ⟨hvalid₀, ?_, ?_⟩
  · subst hm₀
    refine ⟨List.prefix_refl _, ?_, le_rfl⟩
    simp only [View.log, Memory.view, hpend, List.append_nil]
    exact List.prefix_append _ _
  have hfinish : ∀ m' : Memory, (m'.published = m₀.published ++ m₀.pending ∧ m'.pending = []) ∧
      m'.ring = m₀.ring.applyAll (producer.appendBytesCore (record.bytes true)).1 →
      Quiescent (producer.appendBytesCore (record.bytes true)).2 m' := by
    rintro m' ⟨⟨hpub', hpend'⟩, hring'⟩
    refine ⟨ring', _, hrep', ?_, ?_, hpend'⟩
    · rw [hring', hm₀, heq, hstore]
      exact hmir'
    · rw [hpub', hm₀]
      exact hlog
  refine Memory.follows_mono (Memory.follows_ring ?_) hfinish
  rw [heq]
  refine Memory.follows_silent hvalid₀ rfl (by simp) (Memory.follows_lost hvalid₀ fun lost => ?_)
  have hwindow := hrep'.window
  refine Memory.follows_publish hcap ⟨hvalid₀.view, hvalid₀.head⟩ (by rw [hm₀]) ?_ hle
    (Decodes.of_encode (encode_of_encodable henc)).head_ne_zero hplace hend ?_ ?_ ?_ ⟨rfl, rfl⟩
  · rw [hm₀, hmir.headAbs, hrep.head]
    exact congrArg headOf hpub
  · rw [hm₀, holdest]
    exact hmir.oldest ▸ hmono
  · omega
  · simp only [View.log, Memory.view, hm₀, hlog, holdest]
    exact hrep'.at_oldest

end Quiescent

end OpenOT
