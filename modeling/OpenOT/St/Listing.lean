import OpenOT.Lib.PackedList
import OpenOT.St.Feeding

set_option relaxedAutoImplicit false
set_option autoImplicit false

/-!
# The scan list holds what has been published

In every state that calls of `OPENOT_Producer` reach, the scan list holds the records published
since it was last reset, byte for byte and one behind the other; and operation 1, called with an
empty list, always has room for its records.

## Main definitions

* `OpenOT.St.Store.Listed` — the scan list and the counter mirror what has been published.
* `OpenOT.St.ScanList.RoomFor` — the list has room for a number of high-water records.

## Main results

* `OpenOT.St.Store.Listed.publish` — publishing a record keeps the list.
* `OpenOT.St.scan_list_mirrors` — the list in every state reached, and the room of operation 1.

## Design

The bound on the space of operation 1 is 44 bytes for the `LoggerStopped` record and 56 for the
high-water record of each of 16 sources: 940 of 1024 bytes, 17 of 17 places. The loop is followed
with the number of sources it has not come to.
-/

namespace OpenOT.St

open Rust CircularLog PackedList Transition

/-! ## Publishing keeps the list -/

/-- The scan list holds the records published since it was last reset. -/
structure Store.Listed (store : Store) : Prop where
  packs : Packs store.scan.records store.scan.offsets store.scan.lengths store.scan.writePos
    (store.listed.map Published.bytes)
  size : store.scan.records.length = 1024
  count : store.scan.count = store.listed.length
  counted : store.publishedRecordCount = store.countAtReset + UInt64.ofNat store.listed.length
  suffix : store.listed <:+ store.published

/-- The list has room for a number of records with a number of bytes. -/
def ScanList.RoomFor (count bytes : ℕ) (scan : ScanList) : Prop :=
  scan.count + count ≤ 17 ∧ scan.writePos + bytes ≤ 1024

namespace Store

variable {store next : Store} {inputs : Inputs} {eventTypeId : UInt32} {runId : UInt64}
  {sourceId : UInt32} {seq : UInt64} {encoded : Encoded}

lemma listed_new : new.Listed where
  packs := .nil
  size := List.length_replicate
  count := rfl
  counted := rfl
  suffix := List.suffix_rfl

/-- An empty list. -/
lemma Listed.reset (h : store.Listed) : store.reset.Listed where
  packs := .nil
  size := h.size
  count := rfl
  counted := by
    change store.publishedRecordCount = store.publishedRecordCount + UInt64.ofNat 0
    simp
  suffix := List.nil_suffix

/-- What `hasRoom` checks. -/
lemma room_of_hasRoom {scan : ScanList} {length : UInt16} (h : scan.hasRoom length = true) :
    scan.count ≤ 16 ∧ scan.writePos + length.toNat ≤ 1024 := by
  simp only [ScanList.hasRoom, Bool.not_eq_true', Bool.or_eq_false_iff,
    decide_eq_false_iff_not] at h
  exact ⟨not_lt.mp h.1.2, not_lt.mp h.2⟩

/-- **Publishing a record keeps the list.** -/
lemma Listed.publish (h : store.Listed) (hlength : encoded.length.toNat ≤ encoded.buffer.length) :
    (store.publish inputs eventTypeId runId sourceId seq encoded).Listed := by
  rw [publish_eq]
  split_ifs with htakes
  swap
  · exact ⟨h.packs, h.size, h.count, h.counted, h.suffix⟩
  obtain ⟨hcount, hstop⟩ := room_of_hasRoom (Bool.and_eq_true_iff.mp htakes).2
  have hbytes : (encoded.buffer.take encoded.length.toNat).length = encoded.length.toNat := by
    rw [List.length_take, Nat.min_eq_left hlength]
  have hsize : store.scan.writePos + (encoded.buffer.take encoded.length.toNat).length ≤
      store.scan.records.length := by
    rw [hbytes, h.size]
    exact hstop
  have hmap : (store.listed.map Published.bytes).length = store.scan.count := by
    rw [List.length_map, h.count]
  have hput : Packs _ _ _ _ (_ ++ [encoded.buffer.take encoded.length.toNat]) :=
    h.packs.put (by omega) hsize
  rw [hmap, hbytes] at hput
  constructor
  · change Packs _ _ _ _ ((store.listed ++ [_]).map Published.bytes)
    rw [List.map_append]
    exact hput
  · exact (length_overwrite hsize).trans h.size
  · change store.scan.count + 1 = (store.listed ++ [_]).length
    rw [List.length_append, h.count]
    rfl
  · change store.publishedRecordCount + 1 =
      store.countAtReset + UInt64.ofNat (store.listed ++ [_]).length
    rw [h.counted, List.length_append, List.length_singleton, UInt64.ofNat_add, UInt64.add_assoc]
    rfl
  · obtain ⟨before, hbefore⟩ := h.suffix
    change store.listed ++ [_] <:+ store.published ++ [_]
    exact ⟨before, by rw [← hbefore, List.append_assoc]⟩

/-- A list with room loses no record that the ring takes. -/
lemma room_publish (inputs : Inputs) (eventTypeId : UInt32) (runId : UInt64) (sourceId : UInt32)
    (seq : UInt64) {count bytes : ℕ}
    (hroom : store.scan.RoomFor (count + 1) (bytes + encoded.length.toNat))
    (hpos : 0 < encoded.length.toNat) (hle : encoded.length.toNat ≤ 256) :
    let next := store.publish inputs eventTypeId runId sourceId seq encoded
    store.takes encoded.length = true ∧ next.scan.RoomFor count bytes ∨
      store.takes encoded.length = false ∧ next.ring.error = true := by
  obtain ⟨hcount, hstop⟩ := hroom
  have hhas : store.scan.hasRoom encoded.length = true := by
    have hzero : encoded.length ≠ 0 := fun h => by
      rw [h] at hpos
      exact absurd hpos (Nat.lt_irrefl 0)
    have hlong : ¬256 < encoded.length := by
      rw [UInt16.lt_iff_toNat_lt]
      exact not_lt.mpr hle
    simp only [ScanList.hasRoom, hzero, hlong, decide_false, Bool.false_or, Bool.not_eq_true',
      Bool.or_eq_false_iff, decide_eq_false_iff_not]
    exact ⟨by omega, by omega⟩
  dsimp only
  rw [ring_publish, Ring256.error_call]
  by_cases haccepts : store.ring.accepts encoded.length = true
  · have htakes : store.takes encoded.length = true := by rw [takes, haccepts, hhas]; rfl
    refine .inl ⟨htakes, ?_⟩
    rw [publish_eq, if_pos htakes]
    exact ⟨show store.scan.count + 1 + count ≤ 17 by omega,
      show store.scan.writePos + encoded.length.toNat + bytes ≤ 1024 by omega⟩
  · rw [Bool.not_eq_true] at haccepts
    exact .inr ⟨by rw [takes, haccepts]; rfl, by rw [haccepts]; rfl⟩

/-- The records of a call keep the list. -/
lemma Listed.fed {meets : Published → Prop} (h : store.Listed)
    (hfed : Fed inputs meets store next) : next.Listed := by
  induction hfed with
  | refl => exact h
  | publish _ hlength _ ih => exact ih.publish hlength

end Store

namespace Producer

variable {arith : RealArith} {inputs : Inputs} {p p' : Producer}

/-- A call keeps the list. -/
lemma listed_call (h : p.store.Listed) (hcall : p.call arith inputs = some p') :
    p'.store.Listed := by
  have henter : (p.enter inputs).store.Listed := by
    have hcore : (p.enter inputs).core = _ := core_enter
    rw [show (p.enter inputs).store = _ from congrArg Core.store hcore]
    split_ifs
    · exact h.reset
    · exact h
  obtain ⟨q, rfl, hq⟩ := call_cases hcall
  rcases hq with ⟨-, rfl⟩ | ⟨-, hop⟩
  · exact henter
  · have hfed : Store.Fed inputs _ (p.enter inputs).store q.store := fed_of_operated hop
    exact henter.fed hfed

/-! ## The room of operation 1 -/

/-- A high-water record is published if the ring takes it. -/
lemma room_highWater {index : Fin 16} {count : ℕ}
    (hroom : p.store.scan.RoomFor (count + 1) (56 * (count + 1)))
    (herror : p.error = false) (h : p.highWater inputs index = some p') :
    p'.error = false ∧ p'.store.scan.RoomFor count (56 * count) ∨
      p'.error = true ∧ p'.store.ring.error = true := by
  obtain ⟨encoded, hencoded, hcore, hfail⟩ := core_highWater h
  obtain ⟨-, -, hlength, -⟩ := (encodes_sourceHighWater ..).of_some hencoded
  rw [length_record, area_longField] at hlength
  have hstore : p'.store = p.store.publish inputs 0x0108 p.runId (p.sources.get index).sourceId
      (p.nextSeq index) encoded :=
    (congrArg Core.store hcore).trans Core.store_countAfter
  rw [hfail, hstore, herror, Bool.false_or]
  have hroom' : p.store.scan.RoomFor (count + 1) (56 * count + encoded.length.toNat) := by
    rw [hlength]
    exact hroom
  rcases Store.room_publish inputs 0x0108 p.runId (p.sources.get index).sourceId (p.nextSeq index)
    hroom' (by omega) (by omega) with ⟨htakes, hleft⟩ | ⟨htakes, hring⟩
  · exact .inl ⟨by rw [htakes]; rfl, hleft⟩
  · exact .inr ⟨by rw [htakes]; rfl, hring⟩

/-- The loop of operation 1 fails only if the ring does. -/
lemma room_highWaterLoop {fuel : ℕ} {last : Option UInt32} (herror : p.error = false)
    (hroom : p.store.scan.RoomFor (remaining last p.sources) (56 * remaining last p.sources))
    (h : p.highWaterLoop inputs fuel last = some p') :
    p'.error = true → p'.store.ring.error = true := by
  have hround : ∀ last (q : Producer) index q', q.error = false →
      q.store.scan.RoomFor (remaining last q.sources) (56 * remaining last q.sources) →
      selectNext last q.sources = some index → q.highWater inputs index = some q' →
      q'.error = false ∧ q'.store.scan.RoomFor
          (remaining (some (q.sources.get index).sourceId) q'.sources)
          (56 * remaining (some (q.sources.get index).sourceId) q'.sources) ∨
        q'.error = true ∧ q'.store.ring.error = true := by
    intro last q index q' hfine hleft hselect hhigh
    have hlt := remaining_lt hselect
    rw [remaining_congr (sources_highWater hhigh)]
    obtain ⟨hcount, hstop⟩ := hleft
    exact room_highWater ⟨by omega, by omega⟩ hfine hhigh
  refine highWaterLoop_rule
    (P := fun last q => q.error = false ∧
      q.store.scan.RoomFor (remaining last q.sources) (56 * remaining last q.sources))
    (Q := fun q => q.error = true → q.store.ring.error = true) ?_ ?_ ?_ ⟨herror, hroom⟩ h
  · intro last q hq _ hfail
    rw [hq.1] at hfail
    cases hfail
  · intro last q index q' hq hselect hhigh hfail _
    rcases hround last q index q' hq.1 hq.2 hselect hhigh with ⟨hnot, -⟩ | ⟨-, hring⟩
    · rw [hnot] at hfail
      cases hfail
    · exact hring
  · intro last q index q' hq hselect hhigh hfine
    rcases hround last q index q' hq.1 hq.2 hselect hhigh with hleft | ⟨hfail, -⟩
    · exact hleft
    · rw [hfine] at hfail
      cases hfail

/-- **Operation 1 with an empty list fails only if it is refused or if the ring fails.** -/
lemma room_beginTransition (inputs : Inputs) (herror : p.error = false)
    (hcount : p.store.scan.count = 0)
    (hstart : p.store.scan.writePos = 0) : ∃ p', p.beginTransition inputs = some p' ∧
      (p'.error = true → p.pending.isOpen = true ∨ p'.store.ring.error = true) := by
  obtain ⟨p', h⟩ := beginTransition_isSome inputs p
  refine ⟨p', h, fun hfail => ?_⟩
  rcases core_beginTransition h with ⟨hopen, -⟩ | ⟨-, q, r, hq, hr, hsame, hcore⟩
  · exact .inl hopen
  refine .inr ?_
  have hring : p'.store.ring = r.store.ring := by
    split_ifs at hcore <;> exact congrArg (fun c => c.store.ring) hcore
  obtain ⟨encoded, hencoded, hstopped, hqfail⟩ := core_emitSystem hq
  obtain ⟨-, -, hlength, -⟩ := (encodes_loggerStopped ..).of_some hencoded
  rw [length_record, area_nil] at hlength
  have hstore : q.store = p.store.publish inputs 0x0102 p.runId 0 p.systemSeq encoded :=
    congrArg Core.store hstopped
  rw [herror, Bool.false_or] at hqfail
  rw [hsame] at hfail
  rw [hring]
  have hroom : p.store.scan.RoomFor (16 + 1) (56 * 16 + encoded.length.toNat) :=
    ⟨by omega, by omega⟩
  rcases Store.room_publish inputs 0x0102 p.runId 0 p.systemSeq hroom (by omega) (by omega) with
    ⟨htakes, hleft⟩ | ⟨htakes, hrefused⟩
  · rw [← hstore] at hleft
    rw [htakes] at hqfail
    rcases hr with ⟨hnot, -⟩ | ⟨hfine, hr⟩
    · rw [hqfail] at hnot
      cases hnot
    have hle := remaining_le none q.sources
    obtain ⟨hplaces, hbytes⟩ := hleft
    exact room_highWaterLoop hfine ⟨by omega, by omega⟩ hr hfail
  · rw [← hstore] at hrefused
    rw [htakes] at hqfail
    rcases hr with ⟨-, rfl⟩ | ⟨hfine, -⟩
    · exact hrefused
    · rw [hqfail] at hfine
      cases hfine

end Producer

/-! ## The scan list in every state reached -/

/-- **The scan list mirrors what has been published.** In every state reached, the descriptors stand
one behind the other from offset 0 on, up to the write position, and the region of each is the
record published there since the list was reset; the counter of published records has grown by as
many. And operation 1, called with the list reset, never fails for want of room, whatever the source
table holds: it ends, and if it ends in an error, the transition was already open or the ring has
refused a record. -/
theorem scan_list_mirrors (arith : RealArith) :
    (∀ p, Producer.Reachable arith p →
      let scan := p.store.scan
      scan.count ≤ 17 ∧ scan.writePos ≤ 1024 ∧
        scan.writePos = (scan.lengths.toList.take scan.count).sum ∧
        p.store.publishedRecordCount = p.store.countAtReset + UInt64.ofNat scan.count ∧
        p.store.listed <:+ p.store.published ∧ p.store.listed.length = scan.count ∧
        ∀ i : Fin 17, ∀ hi : i.val < p.store.listed.length,
          scan.offsets.get i = (scan.lengths.toList.take i).sum ∧
          scan.lengths.get i = p.store.listed[i.val].bytes.length ∧
          (scan.records.drop (scan.offsets.get i)).take (scan.lengths.get i) =
            p.store.listed[i.val].bytes) ∧
      ∀ (p : Producer) (inputs : Inputs), p.edge inputs = true → inputs.checkpoint = false →
        inputs.op = 1 → p.resets inputs = true →
        ∃ p', p.call arith inputs = some p' ∧
          (p'.error = true → p.pending.isOpen = true ∨ p'.store.ring.error = true) := by
  constructor
  · intro p hrun
    have hlisted : p.store.Listed := hrun.invariant (P := fun p => p.store.Listed)
      Store.listed_new fun _ _ _ hp hcall => Producer.listed_call hp hcall
    have hmap : (p.store.listed.map Published.bytes).length = p.store.scan.count := by
      rw [List.length_map, hlisted.count]
    have hsum := hlisted.packs.stop_eq_sum
    rw [hmap] at hsum
    refine ⟨hmap ▸ hlisted.packs.count_le, hlisted.size ▸ hlisted.packs.stop_le, hsum, ?_,
      hlisted.suffix, hlisted.count.symm, fun i hi => ?_⟩
    · rw [hlisted.count]
      exact hlisted.counted
    · have hi' : i.val < (p.store.listed.map Published.bytes).length := by rwa [List.length_map]
      have hbytes : (p.store.listed.map Published.bytes)[i.val] = p.store.listed[i.val].bytes :=
        List.getElem_map _
      rw [← hbytes]
      exact ⟨hlisted.packs.offset_eq_sum i hi', hlisted.packs.length_eq i hi',
        hlisted.packs.chunk_eq i hi'⟩
  · intro p inputs hedge hcheckpoint hop hresets
    have hscan : (p.enter inputs).store = p.store.reset := if_pos hresets
    have hcount : (p.enter inputs).store.scan.count = 0 := by rw [hscan]; rfl
    have hstart : (p.enter inputs).store.scan.writePos = 0 := by rw [hscan]; rfl
    obtain ⟨p', hp', hfail⟩ := Producer.room_beginTransition inputs rfl hcount hstart
    refine ⟨p'.leave inputs (p.edge inputs), ?_, hfail⟩
    unfold Producer.call
    rw [if_pos hedge, Producer.operate, if_neg (by simp [hcheckpoint]), if_neg (by simp [hop]),
      if_neg (by simp [hop]), if_neg (by simp [hop, isDataOp]), if_pos hop, hp']
    rfl

/-- Two messages in one list: the second stands behind the 52 bytes of the first. -/
theorem scan_list_mirrors_messages :
    ∃ p, Producer.Reachable noReals p ∧ p.store.listed.length = 2 ∧
      p.store.scan.offsets.get 1 = (p.store.scan.lengths.toList.take 1).sum ∧
      p.store.scan.offsets.get 1 = 52 := by
  have hmap : (follow (Producer.step noReals) (fun _ _ => True)
      (pulse { sourceId := 5, accumulateScanRecords := true } ++
        pulse { sourceId := 6, accumulateScanRecords := true }) Producer.init).map
      (fun p => (p.store.listed.length, p.store.scan.offsets.get 1)) = some (2, 52) := by
    decide +kernel
  obtain ⟨p, hfollow, heq⟩ := Option.map_eq_some_iff.mp hmap
  obtain ⟨hlength, hoffset⟩ := Prod.mk.injEq .. ▸ heq
  have hrun : Producer.Reachable noReals p := Runs.start.of_follow hfollow
  exact ⟨p, hrun, hlength,
    (((scan_list_mirrors noReals).1 p hrun).2.2.2.2.2.2 1 (by rw [hlength]; decide)).1, hoffset⟩

end OpenOT.St
