import OpenOT.Carriage.LossInvariant
import OpenOT.Lib.Intervals
import Mathlib.Data.Set.Card

set_option relaxedAutoImplicit false
set_option autoImplicit false

/-!
# Loss intervals

What the interval union of the tracker does, whatever it is given. Its events represent, stream by
stream, a set of numbers; inserting an event adds its numbers to the set, or panics as the count of
the merged event overflows, which happens exactly when every number of `u64` would be lost.

## Main definitions

* `OpenOT.LossEvent.Sized` — an event that is not empty and counts its numbers.
* `OpenOT.LossTracker.ranges` — the ranges lost of a stream.
* `OpenOT.LossTracker.Tidy` — the events never touch within a stream.
* `OpenOT.LossTracker.Unites` — the events are the union of some inserted ones.

## Main results

* `OpenOT.mergeIntervals_cases` — the merge loop over sorted events that hang together.
* `OpenOT.LossTracker.Tidy.insert` — inserting an event is a union of sets, or panics.
* `OpenOT.LossTracker.Unites.insert` — the same with what was inserted, marks included.
* `OpenOT.LossTracker.Unites.mem_iff` — the events depend on which events were inserted only.
-/

namespace OpenOT

open Rust

/-! ## Events -/

/-- Two events touch exactly when their ranges do. -/
lemma rangesTouchOrOverlap_iff {left right : LossEvent} :
    rangesTouchOrOverlap left right = true ↔ Intervals.Touch left.range right.range := by
  have hl := toNat_saturatingAdd_one left.lastSeq
  have hr := toNat_saturatingAdd_one right.lastSeq
  have := left.firstSeq.toNat_lt
  have := right.firstSeq.toNat_lt
  simp only [rangesTouchOrOverlap, Bool.and_eq_true, decide_eq_true_eq, UInt64.le_iff_toNat_le,
    Intervals.Touch, LossEvent.range]
  omega

lemma toNat_min (a b : UInt64) : (min a b).toNat = min a.toNat b.toNat := by
  change (if a ≤ b then a else b).toNat = _
  rw [min_def, apply_ite UInt64.toNat]
  exact if_congr UInt64.le_iff_toNat_le rfl rfl

lemma toNat_max (a b : UInt64) : (max a b).toNat = max a.toNat b.toNat := by
  change (if a ≤ b then b else a).toNat = _
  rw [max_def, apply_ite UInt64.toNat]
  exact if_congr UInt64.le_iff_toNat_le rfl rfl

/-- An event is not empty, and its count is the length of its range. -/
structure LossEvent.Sized (event : LossEvent) : Prop where
  le : event.firstSeq.toNat ≤ event.lastSeq.toNat
  count : event.count.toNat = event.lastSeq.toNat - event.firstSeq.toNat + 1

/-- An event is of the stream of another and lies within it. -/
def LossEvent.Within (i e : LossEvent) : Prop :=
  i.stream = e.stream ∧ e.firstSeq.toNat ≤ i.firstSeq.toNat ∧ i.lastSeq.toNat ≤ e.lastSeq.toNat

/-- The numbers of an event are never all those of `u64`. -/
lemma LossEvent.Sized.length_lt {event : LossEvent} (h : event.Sized) :
    event.range.2 - event.range.1 + 1 < 2 ^ 64 := by
  have := h.count
  have := event.count.toNat_lt
  simp only [LossEvent.range]
  omega

/-! ## The merge loop -/

/-- What the merge loop over some events ends in: one event with their hull, synthetic if they all
are; or a panic, as their hull is the whole of `u64`. -/
inductive Merges {ε : Type} (events : List LossEvent) : Outcome ε (List LossEvent) → Prop
  | one {merged : LossEvent} (hsized : merged.Sized)
      (hbuffer : ∀ e ∈ events, e.bufferId = merged.bufferId)
      (hstream : ∀ e ∈ events, e.stream = merged.stream)
      (hhull : Intervals.Hull (events.map LossEvent.range) merged.range)
      (hsynthetic : merged.synthetic = true ↔ ∀ e ∈ events, e.synthetic = true) :
      Merges events (.ok [merged])
  | all (hhull : Intervals.Hull (events.map LossEvent.range) (0, 2 ^ 64 - 1)) :
      Merges events .panic

/-- Two events that touch, the first of which begins first, are merged into one, or their hull is
the whole of `u64`. -/
lemma mergeIntervals_step {ε : Type} {acc next : LossEvent} (events : List LossEvent)
    (hacc : acc.Sized) (hnext : next.Sized) (hle : acc.firstSeq.toNat ≤ next.firstSeq.toNat)
    (hreach : next.firstSeq.toNat ≤ acc.lastSeq.toNat + 1) :
    (∃ merged : LossEvent, merged.Sized ∧ merged.bufferId = acc.bufferId ∧
        merged.stream = acc.stream ∧ merged.firstSeq = acc.firstSeq ∧
        merged.lastSeq = max acc.lastSeq next.lastSeq ∧
        merged.synthetic = (acc.synthetic && next.synthetic) ∧
        (mergeIntervals (next :: events) [acc] : Outcome ε (List LossEvent)) =
          mergeIntervals events [merged]) ∨
      acc.firstSeq.toNat = 0 ∧ max acc.lastSeq.toNat next.lastSeq.toNat = 2 ^ 64 - 1 ∧
        (mergeIntervals (next :: events) [acc] : Outcome ε (List LossEvent)) = .panic := by
  have hle' := hnext.le
  have htouch : rangesTouchOrOverlap acc next = true := by
    rw [rangesTouchOrOverlap_iff]
    exact ⟨hreach, by simp only [LossEvent.range]; omega⟩
  have hmin : min acc.firstSeq next.firstSeq = acc.firstSeq := by
    rw [← UInt64.toNat_inj, toNat_min]
    omega
  have hmax := toNat_max acc.lastSeq next.lastSeq
  have hone : (1 : UInt64).toNat = 1 := rfl
  have hlast := (max acc.lastSeq next.lastSeq).toNat_lt
  have := hacc.le
  obtain ⟨hsub, hsub'⟩ := checkedSub_of_le (ε := ε) (a := max acc.lastSeq next.lastSeq)
    (b := acc.firstSeq) (by omega)
  by_cases hfits : (max acc.lastSeq next.lastSeq - acc.firstSeq).toNat + 1 < 2 ^ 64
  · obtain ⟨hadd, hadd'⟩ := checkedAdd_of_lt (ε := ε)
      (a := max acc.lastSeq next.lastSeq - acc.firstSeq) (b := 1) (by omega)
    refine Or.inl ⟨{ acc with
      lastSeq := max acc.lastSeq next.lastSeq
      count := max acc.lastSeq next.lastSeq - acc.firstSeq + 1
      synthetic := acc.synthetic && next.synthetic }, ⟨?_, ?_⟩, rfl, rfl, rfl, rfl, rfl, ?_⟩
    · simp only
      omega
    · simp only
      omega
    · simp [mergeIntervals, htouch, hmin, hsub, hadd]
  · refine Or.inr ⟨by omega, by omega, ?_⟩
    have hadd : (checkedAdd (max acc.lastSeq next.lastSeq - acc.firstSeq) 1 : Outcome ε UInt64) =
        .panic := by
      rw [checkedAdd, if_neg (by omega)]
    simp [mergeIntervals, htouch, hmin, hsub, hadd]

/-- Two events may be merged first. -/
lemma Merges.of_merge {ε : Type} {acc next merged : LossEvent} {events : List LossEvent}
    {out : Outcome ε (List LossEvent)} (h : Merges (merged :: events) out)
    (hbuffer : acc.bufferId = merged.bufferId ∧ next.bufferId = merged.bufferId)
    (hstream : acc.stream = merged.stream ∧ next.stream = merged.stream)
    (hrange : merged.range = (min acc.range.1 next.range.1, max acc.range.2 next.range.2))
    (hsynthetic : merged.synthetic = (acc.synthetic && next.synthetic)) :
    Merges (acc :: next :: events) out := by
  cases h with
  | one hsized hbuffer' hstream' hhull hsynthetic' =>
    simp only [List.forall_mem_cons, List.map_cons] at hbuffer' hstream' hhull hsynthetic'
    rw [hrange] at hhull
    refine .one hsized ?_ ?_ hhull.of_merge ?_
    · simp only [List.forall_mem_cons]
      exact ⟨hbuffer.1.trans hbuffer'.1, hbuffer.2.trans hbuffer'.1, hbuffer'.2⟩
    · simp only [List.forall_mem_cons]
      exact ⟨hstream.1.trans hstream'.1, hstream.2.trans hstream'.1, hstream'.2⟩
    · simp only [List.forall_mem_cons]
      rw [hsynthetic', hsynthetic, Bool.and_eq_true, and_assoc]
  | all hhull =>
    rw [List.map_cons, hrange] at hhull
    exact .all hhull.of_merge

/-- **The merge loop** over sorted events that hang together.

**Proof sketch.** By induction over the events that are left. Each of them begins at most right
behind the event merged so far, or right behind one that is left and itself begins there; as the
events are sorted, the next one is of the first kind, and merging it keeps the others so. -/
lemma mergeIntervals_cases {ε : Type} {events : List LossEvent} :
    ∀ {acc : LossEvent}, acc.Sized → (∀ e ∈ events, e.Sized) →
      (∀ e ∈ events, e.bufferId = acc.bufferId ∧ e.stream = acc.stream) →
      (acc :: events).Pairwise (fun a b => a.firstSeq.toNat ≤ b.firstSeq.toNat) →
      (∀ e ∈ events, e.firstSeq.toNat ≤ acc.lastSeq.toNat + 1 ∨
        ∃ d ∈ events, d.firstSeq.toNat ≤ acc.lastSeq.toNat + 1 ∧
          e.firstSeq.toNat ≤ d.lastSeq.toNat + 1) →
      Merges (acc :: events) (mergeIntervals events [acc] : Outcome ε (List LossEvent)) := by
  induction events with
  | nil =>
    intro acc hacc _ _ _ _
    exact .one hacc (by simp) (by simp) (Intervals.Hull.singleton _) (by simp)
  | cons next events ih =>
    intro acc hacc hsized hsame hsorted hchain
    obtain ⟨hnext, hsized⟩ := List.forall_mem_cons.mp hsized
    obtain ⟨⟨hbuffer, hstream⟩, hsame⟩ := List.forall_mem_cons.mp hsame
    obtain ⟨hfirst, hsorted⟩ := List.pairwise_cons.mp hsorted
    obtain ⟨hsecond, hrest⟩ := List.pairwise_cons.mp hsorted
    have hle := hfirst next List.mem_cons_self
    have hreach : next.firstSeq.toNat ≤ acc.lastSeq.toNat + 1 := by
      rcases hchain next List.mem_cons_self with h | ⟨d, hd, hd', -⟩
      · exact h
      · rcases List.mem_cons.mp hd with rfl | hd
        · exact hd'
        · exact (hsecond d hd).trans hd'
    have hacc' := hacc.le
    rcases mergeIntervals_step (ε := ε) events hacc hnext hle hreach with
      ⟨merged, hmerged, hmbuffer, hmstream, hmfirst, hmlast, hmsynthetic, hstep⟩ |
      ⟨hzero, hmax, hpanic⟩
    · have hlast : merged.lastSeq.toNat = max acc.lastSeq.toNat next.lastSeq.toNat := by
        rw [hmlast, toNat_max]
      have hrange : merged.range = (min acc.range.1 next.range.1, max acc.range.2 next.range.2) := by
        simp only [LossEvent.range, hlast, hmfirst, Nat.min_eq_left hle]
      rw [hstep]
      refine (ih hmerged hsized ?_ ?_ ?_).of_merge ⟨hmbuffer.symm, hbuffer.trans hmbuffer.symm⟩
        ⟨hmstream.symm, hstream.trans hmstream.symm⟩ hrange hmsynthetic
      · rw [hmbuffer, hmstream]
        exact hsame
      · refine List.pairwise_cons.mpr ⟨?_, hrest⟩
        intro e he
        rw [hmfirst]
        exact hfirst e (List.mem_cons_of_mem _ he)
      · intro e he
        rw [hlast]
        rcases hchain e (List.mem_cons_of_mem _ he) with h | ⟨d, hd, hd', hed⟩
        · left
          omega
        · rcases List.mem_cons.mp hd with rfl | hd
          · left
            omega
          · exact Or.inr ⟨d, hd, by omega, hed⟩
    · rw [hpanic]
      refine .all (Intervals.Hull.of_merge (i := acc.range) (j := next.range) ?_)
      have hrange : (min acc.range.1 next.range.1, max acc.range.2 next.range.2) =
          (0, 2 ^ 64 - 1) := by
        simp only [LossEvent.range]
        rw [hmax, hzero, Nat.zero_min]
      rw [hrange]
      refine ⟨⟨_, List.mem_cons_self, rfl⟩, fun _ _ => Nat.zero_le _, ⟨_, List.mem_cons_self, rfl⟩,
        List.forall_mem_cons.mpr ⟨le_rfl, ?_⟩⟩
      intro i hi
      obtain ⟨e, -, rfl⟩ := List.mem_map.mp hi
      exact Nat.le_pred_of_lt e.lastSeq.toNat_lt

instance : Std.Total fun a b : LossEvent => a.firstSeq ≤ b.firstSeq where
  total a b := UInt64.le_total a.firstSeq b.firstSeq

instance : IsTrans LossEvent fun a b => a.firstSeq ≤ b.firstSeq where
  trans _ _ _ := UInt64.le_trans

/-- Merging depends on which events there are only. -/
lemma Merges.of_mem_iff {ε : Type} {events events' : List LossEvent}
    {out : Outcome ε (List LossEvent)} (h : Merges events out)
    (hmem : ∀ e, e ∈ events ↔ e ∈ events') : Merges events' out := by
  have hranges : ∀ i, i ∈ events.map LossEvent.range ↔ i ∈ events'.map LossEvent.range := by
    intro i
    simp only [List.mem_map, hmem]
  cases h with
  | one hsized hbuffer hstream hhull hsynthetic =>
    simp only [hmem] at hbuffer hstream hsynthetic
    exact .one hsized hbuffer hstream (hhull.of_mem_iff hranges) hsynthetic
  | all hhull => exact .all (hhull.of_mem_iff hranges)

/-- Merging events of one stream that all touch one of them. -/
lemma mergeIntervals_sort {ε : Type} {events : List LossEvent} {event : LossEvent}
    (hsized : ∀ e ∈ events, e.Sized) (hevent : event ∈ events)
    (hbuffer : ∀ e ∈ events, e.bufferId = event.bufferId)
    (hstream : ∀ e ∈ events, e.stream = event.stream)
    (htouch : ∀ e ∈ events, Intervals.Touch e.range event.range) :
    Merges events (mergeIntervals (events.insertionSort fun a b =>
      a.firstSeq ≤ b.firstSeq) [] : Outcome ε (List LossEvent)) := by
  have hmem : ∀ e, e ∈ events.insertionSort (fun a b => a.firstSeq ≤ b.firstSeq) ↔ e ∈ events :=
    fun e => List.mem_insertionSort _
  have hsorted := List.pairwise_insertionSort (fun a b : LossEvent => a.firstSeq ≤ b.firstSeq)
    events
  simp only [UInt64.le_iff_toNat_le] at hsorted
  cases hsort : events.insertionSort (fun a b => a.firstSeq ≤ b.firstSeq) with
  | nil =>
    rw [← hmem, hsort] at hevent
    exact absurd hevent (List.not_mem_nil)
  | cons acc rest =>
    rw [hsort] at hmem
    have hacc := (hmem acc).mp List.mem_cons_self
    have hrest : ∀ e ∈ rest, e ∈ events := fun e he => (hmem e).mp (List.mem_cons_of_mem _ he)
    have hchain : ∀ e ∈ rest, e.firstSeq.toNat ≤ acc.lastSeq.toNat + 1 ∨
        ∃ d ∈ rest, d.firstSeq.toNat ≤ acc.lastSeq.toNat + 1 ∧
          e.firstSeq.toNat ≤ d.lastSeq.toNat + 1 := by
      intro e he
      have hreach := (htouch e (hrest e he)).2
      rcases List.mem_cons.mp ((hmem event).mpr hevent) with rfl | hlater
      · exact Or.inl hreach
      · exact Or.inr ⟨event, hlater, (htouch acc hacc).1, hreach⟩
    refine Merges.of_mem_iff ?_ hmem
    refine mergeIntervals_cases (hsized acc hacc) (fun e he => hsized e (hrest e he))
      (fun e he => ?_) (hsort ▸ hsorted) hchain
    exact ⟨(hbuffer e (hrest e he)).trans (hbuffer acc hacc).symm,
      (hstream e (hrest e he)).trans (hstream acc hacc).symm⟩

namespace LossTracker

variable {ε : Type} {tracker : LossTracker} {event : LossEvent}

/-- The ranges the tracker reports lost of a stream. -/
def ranges (tracker : LossTracker) (k : UInt64 × UInt32) : List (ℕ × ℕ) :=
  (tracker.lossEvents.filter fun event => decide (event.stream = k)).map LossEvent.range

/-- What is lost is what the ranges cover. -/
lemma lost_iff_covers {runId : UInt64} {sourceId : UInt32} {n : ℕ} :
    tracker.Lost runId sourceId n ↔ Intervals.Covers (tracker.ranges (runId, sourceId)) n := by
  simp [Lost, Intervals.Covers, ranges, LossEvent.stream, LossEvent.range, and_assoc]

/-- A range of a stream is that of one of its events. -/
lemma mem_ranges {k : UInt64 × UInt32} {i : ℕ × ℕ} :
    i ∈ tracker.ranges k ↔ ∃ e ∈ tracker.lossEvents, e.stream = k ∧ e.range = i := by
  simp [ranges, and_assoc]

/-- The tracker's events are sized, belong to its buffer, and never touch within a stream. -/
structure Tidy (tracker : LossTracker) : Prop where
  buffer : ∀ e ∈ tracker.lossEvents, e.bufferId = tracker.bufferId
  sized : ∀ e ∈ tracker.lossEvents, e.Sized
  apart : ∀ k, Intervals.Apart (tracker.ranges k)

/-- A new tracker has no events. -/
lemma tidy_new (bufferId : UInt32) : (new bufferId).Tidy :=
  ⟨by simp [new], by simp [new], fun _ => Intervals.Apart.nil⟩

/-- The union panics when the count of the merged event overflows. -/
lemma insertLossEvent_panic
    (hmerged : mergeIntervals (ε := ε) ((tracker.lossEvents.filter (merges event) ++
      [event]).insertionSort fun a b => a.firstSeq ≤ b.firstSeq) [] = .panic) :
    ((insertLossEvent event : Mut LossTracker ε Unit) tracker).1 = .panic := by
  have hmerged' : mergeIntervals (ε := ε) ((tracker.lossEvents.filter (fun existing =>
      sameLossStream existing event && rangesTouchOrOverlap existing event) ++
        [event]).insertionSort fun a b => a.firstSeq ≤ b.firstSeq) [] = .panic := hmerged
  simp only [insertLossEvent, Mut.get_bind, Mut.modify_bind, hmerged']
  rfl

/-- Within the tracker's buffer, an event merges with those of its stream that it touches. -/
lemma Tidy.merges_iff (h : tracker.Tidy) (hbuffer : event.bufferId = tracker.bufferId)
    {e : LossEvent} (he : e ∈ tracker.lossEvents) :
    merges event e = true ↔ e.stream = event.stream ∧ Intervals.Touch e.range event.range := by
  rw [← rangesTouchOrOverlap_iff]
  simp [merges, sameLossStream, h.buffer e he, hbuffer, LossEvent.stream]

/-- The ranges of the events that an event merges with. -/
lemma Tidy.ranges_touching (h : tracker.Tidy) (hbuffer : event.bufferId = tracker.bufferId) :
    (tracker.lossEvents.filter (merges event)).map LossEvent.range =
      (tracker.ranges event.stream).filter fun i => decide (Intervals.Touch i event.range) := by
  simp only [ranges, List.filter_map, List.filter_filter]
  congr 1
  apply List.filter_congr
  intro e he
  rw [Bool.eq_iff_iff, h.merges_iff hbuffer he]
  simp [and_comm]

/-- The tracker when the events that an event merges with have given way to one. -/
def replace (tracker : LossTracker) (event merged : LossEvent) : LossTracker :=
  { tracker with
    lossEvents := tracker.lossEvents.filter (fun e => !merges event e) ++ [merged] }

/-- The ranges of a stream when the events that an event merges with have given way to one. -/
lemma Tidy.ranges_replace (h : tracker.Tidy) (hbuffer : event.bufferId = tracker.bufferId)
    {merged : LossEvent} (hmerged : merged.stream = event.stream) (k : UInt64 × UInt32) :
    (tracker.replace event merged).ranges k =
      if event.stream = k then
        (tracker.ranges k).filter (fun i => !decide (Intervals.Touch i event.range)) ++
          [merged.range]
      else tracker.ranges k := by
  have hkept : ∀ e ∈ tracker.lossEvents, (!merges event e) =
      !(decide (e.stream = event.stream) && decide (Intervals.Touch e.range event.range)) := by
    intro e he
    rw [Bool.eq_iff_iff, Bool.not_eq_true', Bool.not_eq_true', Bool.eq_false_iff,
      Bool.eq_false_iff, ne_eq, ne_eq, h.merges_iff hbuffer he]
    simp
  split_ifs with hk
  · have hone : decide (merged.stream = k) = true := decide_eq_true (hmerged.trans hk)
    simp only [replace, ranges, List.filter_append, List.map_append, List.filter_cons, hone,
      if_true, List.filter_nil, List.map_cons, List.map_nil, List.filter_map, List.filter_filter]
    congr 2
    apply List.filter_congr
    intro e he
    rw [hkept e he, hk]
    by_cases hes : e.stream = k <;> simp [hes]
  · have hone : decide (merged.stream = k) = false := by simp [hmerged, hk]
    simp only [replace, ranges, List.filter_append, List.filter_cons, hone, if_false,
      List.filter_nil, List.append_nil, List.filter_filter, Bool.false_eq_true]
    congr 1
    apply List.filter_congr
    intro e he
    rw [hkept e he]
    by_cases hes : e.stream = k
    · simp [hes, Ne.symm hk]
    · simp [hes]

/-- The merged event is the union of an event and of those it merges with. -/
structure Replaced (tracker : LossTracker) (event merged : LossEvent) : Prop where
  tidy : (tracker.replace event merged).Tidy
  stream : merged.stream = event.stream
  within : ∀ e ∈ tracker.lossEvents, merges event e = true →
    merged.firstSeq.toNat ≤ e.firstSeq.toNat ∧ e.lastSeq.toNat ≤ merged.lastSeq.toNat
  self : merged.firstSeq.toNat ≤ event.firstSeq.toNat ∧
    event.lastSeq.toNat ≤ merged.lastSeq.toNat
  synthetic : merged.synthetic = true ↔ event.synthetic = true ∧
    ∀ e ∈ tracker.lossEvents, merges event e = true → e.synthetic = true
  covers : ∀ k n, Intervals.Covers ((tracker.replace event merged).ranges k) n ↔
    Intervals.Covers (tracker.ranges k) n ∨
      event.stream = k ∧ event.firstSeq.toNat ≤ n ∧ n ≤ event.lastSeq.toNat

/-- **The union.** Adding an event replaces the events it touches by one with the hull of their
ranges and its own, synthetic if they all are and the event is; it adds the numbers of the event to
those of its stream and leaves the others. Or it panics: then these are all the numbers there are.

**Proof sketch.** Within the stream of the event the filter by `merges` is the filter by `Touch`,
so the tracker does to its events what `Intervals.Apart.insert` does to their ranges; the other
streams keep their events. -/
lemma Tidy.insert (h : tracker.Tidy) (hsized : event.Sized)
    (hbuffer : event.bufferId = tracker.bufferId) :
    (∃ merged, (insertLossEvent event : Mut LossTracker ε Unit) tracker =
        (.ok (), tracker.replace event merged) ∧ Replaced tracker event merged) ∨
    ((insertLossEvent event : Mut LossTracker ε Unit) tracker).1 = .panic ∧
      ∀ n < 2 ^ 64, Intervals.Covers (tracker.ranges event.stream) n ∨
        event.firstSeq.toNat ≤ n ∧ n ≤ event.lastSeq.toNat := by
  set touching := tracker.lossEvents.filter (merges event) with htouching
  have hmem : ∀ e ∈ touching ++ [event], e.Sized ∧ e.bufferId = event.bufferId ∧
      e.stream = event.stream ∧ Intervals.Touch e.range event.range := by
    intro e he
    rcases List.mem_append.mp he with he | he
    · obtain ⟨he, hmerge⟩ := List.mem_filter.mp he
      exact ⟨h.sized e he, (h.buffer e he).trans hbuffer.symm, (h.merges_iff hbuffer he).mp hmerge⟩
    · rw [List.mem_singleton.mp he]
      exact ⟨hsized, rfl, rfl, Intervals.touch_self hsized.le⟩
  have hself : event ∈ touching ++ [event] := by simp
  have htouched : ∀ e ∈ tracker.lossEvents, merges event e = true → e ∈ touching ++ [event] :=
    fun e he hmerge => List.mem_append_left _ (List.mem_filter.mpr ⟨he, hmerge⟩)
  have hmerges := mergeIntervals_sort (ε := ε) (fun e he => (hmem e he).1) hself
    (fun e he => (hmem e he).2.1) (fun e he => (hmem e he).2.2.1) (fun e he => (hmem e he).2.2.2)
  have hranges : (touching ++ [event]).map LossEvent.range =
      (tracker.ranges event.stream).filter (fun i => decide (Intervals.Touch i event.range)) ++
        [event.range] := by
    rw [List.map_append, h.ranges_touching hbuffer]
    rfl
  generalize hout : (mergeIntervals ((touching ++ [event]).insertionSort fun a b =>
    a.firstSeq ≤ b.firstSeq) [] : Outcome ε (List LossEvent)) = out at hmerges
  cases hmerges with
  | @one merged hmsized hmbuffer hmstream hhull hmsynthetic =>
    have hstream : merged.stream = event.stream := (hmstream event hself).symm
    have hbufferId : merged.bufferId = tracker.bufferId := (hmbuffer event hself).symm.trans hbuffer
    refine Or.inl ⟨merged, insertLossEvent_eq rfl rfl hout, ?_⟩
    have hhull' := hhull
    rw [hranges] at hhull'
    have hstreams : ∀ k, Intervals.Apart ((tracker.replace event merged).ranges k) ∧
        ∀ n, Intervals.Covers ((tracker.replace event merged).ranges k) n ↔
          Intervals.Covers (tracker.ranges k) n ∨
            event.stream = k ∧ event.firstSeq.toNat ≤ n ∧ n ≤ event.lastSeq.toNat := by
      intro k
      rw [h.ranges_replace hbuffer hstream k]
      split_ifs with hk
      · subst hk
        obtain ⟨hapart, hcovers⟩ := (h.apart event.stream).insert hsized.le hhull'
        refine ⟨hapart, fun n => (hcovers n).trans ?_⟩
        simp only [true_and]
        rfl
      · exact ⟨h.apart k, fun n => by simp [hk]⟩
    have hwithin : ∀ e ∈ touching ++ [event], merged.firstSeq.toNat ≤ e.firstSeq.toNat ∧
        e.lastSeq.toNat ≤ merged.lastSeq.toNat := fun e he =>
      ⟨hhull.first_le _ (List.mem_map_of_mem he), hhull.le_last _ (List.mem_map_of_mem he)⟩
    have hevents : ∀ e ∈ (tracker.replace event merged).lossEvents,
        e ∈ tracker.lossEvents ∨ e = merged := by
      intro e he
      rcases List.mem_append.mp he with he | he
      · exact Or.inl (List.mem_of_mem_filter he)
      · exact Or.inr (List.mem_singleton.mp he)
    refine ⟨⟨?_, ?_, fun k => (hstreams k).1⟩, hstream, ?_, hwithin event hself, ?_,
      fun k => (hstreams k).2⟩
    · intro e he
      rcases hevents e he with he | rfl
      · exact h.buffer e he
      · exact hbufferId
    · intro e he
      rcases hevents e he with he | rfl
      · exact h.sized e he
      · exact hmsized
    · exact fun e he hmerge => hwithin e (htouched e he hmerge)
    · rw [hmsynthetic]
      simp only [htouching, List.mem_append, List.mem_filter, List.mem_singleton]
      constructor
      · exact fun hall => ⟨hall event (Or.inr rfl), fun e he hmerge => hall e (Or.inl ⟨he, hmerge⟩)⟩
      · rintro ⟨hevent, hall⟩ e (⟨he, hmerge⟩ | rfl)
        · exact hall e he hmerge
        · exact hevent
  | all hhull =>
    refine Or.inr ⟨insertLossEvent_panic hout, fun n hn => ?_⟩
    have hcovers := (hhull.mem_iff (List.mem_map_of_mem hself) (fun i hi => ?_) n).mp
      ⟨Nat.zero_le n, by omega⟩
    · rw [hranges] at hcovers
      obtain ⟨i, hi, hge, hle⟩ := hcovers
      rcases List.mem_append.mp hi with hi | hi
      · exact Or.inl ⟨i, List.mem_of_mem_filter hi, hge, hle⟩
      · rw [List.mem_singleton.mp hi] at hge hle
        exact Or.inr ⟨hge, hle⟩
    · obtain ⟨e, he, rfl⟩ := List.mem_map.mp hi
      exact (hmem e he).2.2.2

/-! ## What was inserted -/

/-- The number is in one of the inserted events of a stream. -/
def Inserted (inserted : List LossEvent) (k : UInt64 × UInt32) (n : ℕ) : Prop :=
  ∃ i ∈ inserted, i.stream = k ∧ i.firstSeq.toNat ≤ n ∧ n ≤ i.lastSeq.toNat

/-- The tracker's events are the union of the inserted ones: they cover the same numbers, and an
event is synthetic when all the inserted ones within it are. -/
structure Unites (tracker : LossTracker) (inserted : List LossEvent) : Prop where
  tidy : tracker.Tidy
  sized : ∀ i ∈ inserted, i.Sized
  covers : ∀ k n, Intervals.Covers (tracker.ranges k) n ↔ Inserted inserted k n
  synthetic : ∀ e ∈ tracker.lossEvents,
    e.synthetic = true ↔ ∀ i ∈ inserted, i.Within e → i.synthetic = true

/-- A new tracker unites nothing. -/
lemma unites_new (bufferId : UInt32) : (new bufferId).Unites [] :=
  ⟨tidy_new bufferId, by simp, by simp [new, ranges, Intervals.Covers, Inserted], by simp [new]⟩

section Unites

variable {inserted : List LossEvent}

lemma inserted_append {more : List LossEvent} {k : UInt64 × UInt32} {n : ℕ} :
    Inserted (inserted ++ more) k n ↔ Inserted inserted k n ∨ Inserted more k n := by
  simp [Inserted, or_and_right, exists_or]

/-- Inserting one more event. -/
lemma inserted_concat {k : UInt64 × UInt32} {n : ℕ} :
    Inserted (inserted ++ [event]) k n ↔ Inserted inserted k n ∨
      event.stream = k ∧ event.firstSeq.toNat ≤ n ∧ n ≤ event.lastSeq.toNat := by
  simp [Inserted, or_and_right, exists_or]

/-- An inserted event lies within an event of the tracker. -/
lemma Unites.exists_within (h : tracker.Unites inserted) {i : LossEvent} (hi : i ∈ inserted) :
    ∃ e ∈ tracker.lossEvents, i.Within e := by
  obtain ⟨range, hrange, hfirst, hlast⟩ := (h.tidy.apart i.stream).exists_of_covers
    (h.sized i hi).le fun n hge hle => (h.covers _ n).mpr ⟨i, hi, rfl, hge, hle⟩
  obtain ⟨e, he, hstream, rfl⟩ := mem_ranges.mp hrange
  exact ⟨e, he, hstream.symm, hfirst, hlast⟩

/-- The numbers lost of a stream are never all there are. -/
lemma Unites.not_all (h : tracker.Unites inserted) (k : UInt64 × UInt32) :
    ¬∀ n < 2 ^ 64, Inserted inserted k n := by
  intro hall
  obtain ⟨range, hrange, hfirst, hlast⟩ := (h.tidy.apart k).exists_of_covers
    (show 0 ≤ 2 ^ 64 - 1 by decide) fun n _ hle => (h.covers k n).mpr (hall n (by omega))
  obtain ⟨e, he, -, rfl⟩ := mem_ranges.mp hrange
  have := (h.tidy.sized e he).length_lt
  omega

/-- An event merges with those it lies within. -/
lemma Tidy.merges_of_within (h : tracker.Tidy) (hsized : event.Sized)
    (hbuffer : event.bufferId = tracker.bufferId) {e : LossEvent} (he : e ∈ tracker.lossEvents)
    (hwithin : event.Within e) : merges event e = true := by
  obtain ⟨hstream, hfirst, hlast⟩ := hwithin
  have := hsized.le
  refine (h.merges_iff hbuffer he).mpr ⟨hstream.symm, ?_, ?_⟩ <;>
    simp only [LossEvent.range] <;> omega

/-- **Inserting an event** into the union of some. -/
lemma Unites.insert (h : tracker.Unites inserted) (hsized : event.Sized)
    (hbuffer : event.bufferId = tracker.bufferId) :
    (∃ events, (insertLossEvent event : Mut LossTracker ε Unit) tracker =
        (.ok (), { tracker with lossEvents := events }) ∧
      Unites { tracker with lossEvents := events } (inserted ++ [event])) ∨
    ((insertLossEvent event : Mut LossTracker ε Unit) tracker).1 = .panic ∧
      ∀ n < 2 ^ 64, Inserted (inserted ++ [event]) event.stream n := by
  rcases h.tidy.insert (ε := ε) hsized hbuffer with ⟨merged, hinsert, hreplaced⟩ | ⟨hpanic, hall⟩
  swap
  · refine Or.inr ⟨hpanic, fun n hn => inserted_concat.mpr ?_⟩
    rw [← h.covers]
    exact (hall n hn).imp_right fun hn => ⟨rfl, hn⟩
  refine Or.inl ⟨_, hinsert, hreplaced.tidy, ?_, ?_, ?_⟩
  · intro i hi
    rcases List.mem_append.mp hi with hi | hi
    · exact h.sized i hi
    · rw [List.mem_singleton.mp hi]
      exact hsized
  · intro k n
    rw [inserted_concat, ← h.covers]
    exact hreplaced.covers k n
  intro e he
  simp only [List.mem_append, List.mem_singleton, or_imp, forall_and, forall_eq]
  rcases List.mem_append.mp he with he | he
  · -- an event that the new one does not touch
    obtain ⟨he, hkept⟩ := List.mem_filter.mp he
    rw [h.synthetic e he]
    refine (and_iff_left fun hwithin => ?_).symm
    rw [h.tidy.merges_of_within hsized hbuffer he hwithin] at hkept
    cases hkept
  · -- the merged event
    rw [List.mem_singleton.mp he, hreplaced.synthetic, and_comm]
    refine and_congr ⟨fun hall i hi hwithin => ?_, fun hall e he hmerge => ?_⟩
      ⟨fun hevent _ => hevent, fun hevent => hevent ⟨hreplaced.stream.symm, hreplaced.self⟩⟩
    · obtain ⟨e, he, hin⟩ := h.exists_within hi
      refine (h.synthetic e he).mp (hall e he ?_) i hi hin
      by_contra hmerge
      have hmem : e.range ∈ (tracker.replace event merged).ranges merged.stream :=
        mem_ranges.mpr ⟨e, List.mem_append_left _ (List.mem_filter.mpr ⟨he, by simpa using hmerge⟩),
          hin.1.symm.trans hwithin.1, rfl⟩
      have hmem' : merged.range ∈ (tracker.replace event merged).ranges merged.stream :=
        mem_ranges.mpr ⟨merged, List.mem_append_right _ List.mem_cons_self, rfl, rfl⟩
      have hi' := (h.sized i hi).le
      have heq := (hreplaced.tidy.apart merged.stream).eq_of_mem hmem hmem'
        (n := i.firstSeq.toNat) ⟨hin.2.1, by simp only [LossEvent.range]; exact hi'.trans hin.2.2⟩
        ⟨hwithin.2.1, by simp only [LossEvent.range]; exact hi'.trans hwithin.2.2⟩
      simp only [LossEvent.range, Prod.mk.injEq] at heq
      refine hmerge (h.tidy.merges_of_within hsized hbuffer he ⟨?_, ?_⟩)
      · exact hreplaced.stream.symm.trans (hwithin.1.symm.trans hin.1)
      · rw [heq.1, heq.2]
        exact hreplaced.self
    · rw [h.synthetic e he]
      intro i hi hin
      have hfirst := hreplaced.within e he hmerge
      refine hall i hi ⟨?_, by have := hin.2; omega, by have := hin.2; omega⟩
      rw [hin.1, hreplaced.stream]
      exact ((h.tidy.merges_iff hbuffer he).mp hmerge).1

/-- No event is listed twice. -/
lemma Tidy.nodup (h : tracker.Tidy) : tracker.lossEvents.Nodup := by
  rw [List.nodup_iff_sublist]
  intro e htwice
  have he : e ∈ tracker.lossEvents := htwice.subset List.mem_cons_self
  have hsub := (htwice.filter fun event => decide (event.stream = e.stream)).map LossEvent.range
  simp only [List.filter_cons, decide_true, if_true, List.filter_nil, List.map_cons,
    List.map_nil] at hsub
  have hpair := (h.apart e.stream).pairwise.sublist hsub
  simp only [List.pairwise_cons, List.mem_singleton, forall_eq] at hpair
  exact hpair.1 (Intervals.touch_self (h.sized e he).le)

/-- **The events depend on which events were inserted only**, not on their order. -/
lemma Unites.mem_iff {tracker' : LossTracker} {inserted' : List LossEvent}
    (h : tracker.Unites inserted) (h' : tracker'.Unites inserted')
    (hbuffer : tracker.bufferId = tracker'.bufferId)
    (hinserted : ∀ i, i ∈ inserted ↔ i ∈ inserted') (e : LossEvent) :
    e ∈ tracker.lossEvents ↔ e ∈ tracker'.lossEvents := by
  suffices hsub : ∀ {t t' : LossTracker} {ins ins' : List LossEvent}, t.Unites ins →
      t'.Unites ins' → t.bufferId = t'.bufferId → (∀ i, i ∈ ins ↔ i ∈ ins') →
      e ∈ t.lossEvents → e ∈ t'.lossEvents from
    ⟨hsub h h' hbuffer hinserted, hsub h' h hbuffer.symm fun i => (hinserted i).symm⟩
  intro t t' ins ins' h h' hbuffer hinserted he
  have hcovers : ∀ n, Intervals.Covers (t.ranges e.stream) n ↔
      Intervals.Covers (t'.ranges e.stream) n := by
    intro n
    rw [h.covers, h'.covers]
    simp only [Inserted, hinserted]
  have hrange := ((h.tidy.apart e.stream).mem_iff_of_covers_iff (h'.tidy.apart e.stream) hcovers
    e.range).mp (mem_ranges.mpr ⟨e, he, rfl, rfl⟩)
  obtain ⟨e', he', hstream, hrange⟩ := mem_ranges.mp hrange
  simp only [LossEvent.range, Prod.mk.injEq, UInt64.toNat_inj] at hrange
  have hcount : e'.count = e.count := by
    rw [← UInt64.toNat_inj, (h.tidy.sized e he).count, (h'.tidy.sized e' he').count, hrange.1,
      hrange.2]
  have hsynthetic : e'.synthetic = e.synthetic := by
    rw [Bool.eq_iff_iff, h.synthetic e he, h'.synthetic e' he']
    simp only [hinserted, LossEvent.Within, hstream, hrange]
  have hbufferId : e'.bufferId = e.bufferId := by
    rw [h'.tidy.buffer e' he', h.tidy.buffer e he, hbuffer]
  have heq : e' = e := by
    cases e
    cases e'
    simp only [LossEvent.stream, Prod.mk.injEq] at hstream hrange hcount hsynthetic hbufferId
    simp only [hstream, hrange, hcount, hsynthetic, hbufferId]
  exact heq ▸ he'

/-! ## The count of lost numbers -/

/-- The count of lost numbers is the sum of the lengths of the ranges. -/
lemma Tidy.lost (h : tracker.Tidy) {runId : UInt64} {sourceId : UInt32}
    (hsum : ((tracker.ranges (runId, sourceId)).map fun i => i.2 - i.1 + 1).sum < 2 ^ 64) :
    ∃ lost, (tracker.lost runId sourceId : Outcome ε UInt64) = .ok lost ∧
      lost.toNat = ((tracker.ranges (runId, sourceId)).map fun i => i.2 - i.1 + 1).sum := by
  have hfilter : (tracker.lossEvents.filter fun event =>
      event.runId == runId && event.sourceId == sourceId) =
        tracker.lossEvents.filter fun event => decide (event.stream = (runId, sourceId)) := by
    apply List.filter_congr
    intro event _
    simp [LossEvent.stream, Bool.decide_and, beq_eq_decide]
  have hcounts : (((tracker.lossEvents.filter fun event =>
      decide (event.stream = (runId, sourceId))).map (·.count)).map UInt64.toNat).sum =
        ((tracker.ranges (runId, sourceId)).map fun i => i.2 - i.1 + 1).sum := by
    rw [ranges, List.map_map, List.map_map]
    refine congrArg List.sum (List.map_congr_left fun event hevent => ?_)
    exact (h.sized event (List.mem_filter.mp hevent).1).count
  have hfits : UInt64.toNat 0 + (((tracker.lossEvents.filter fun event =>
      decide (event.stream = (runId, sourceId))).map (·.count)).map UInt64.toNat).sum < 2 ^ 64 := by
    rw [hcounts, UInt64.toNat_zero]
    omega
  obtain ⟨lost, hlost, hlost'⟩ := foldlM_checkedAdd (ε := ε) hfits
  refine ⟨lost, ?_, ?_⟩
  · rw [LossTracker.lost, hfilter]
    exact hlost
  · rw [hlost', hcounts, UInt64.toNat_zero, Nat.zero_add]

open Classical in
/-- **The count of lost numbers** never overflows, and is the size of the set inserted. -/
lemma Unites.lost (h : tracker.Unites inserted) (runId : UInt64) (sourceId : UInt32) :
    ∃ lost, (tracker.lost runId sourceId : Outcome ε UInt64) = .ok lost ∧
      lost.toNat = {n | Inserted inserted (runId, sourceId) n}.ncard := by
  set s : Finset ℕ := (Finset.range (2 ^ 64)).filter (Inserted inserted (runId, sourceId)) with hs
  have hmem : ∀ n, n ∈ s ↔ Inserted inserted (runId, sourceId) n := by
    intro n
    rw [hs, Finset.mem_filter, Finset.mem_range, and_iff_right_iff_imp]
    rintro ⟨i, -, -, -, hle⟩
    exact hle.trans_lt i.lastSeq.toNat_lt
  have hcard : s.card < 2 ^ 64 := by
    have hlt : s ⊂ Finset.range (2 ^ 64) := by
      refine (Finset.filter_subset _ _).ssubset_of_ne fun heq => h.not_all (runId, sourceId) ?_
      intro n hn
      rw [← hmem, hs, heq]
      exact Finset.mem_range.mpr hn
    have := Finset.card_lt_card hlt
    rwa [Finset.card_range] at this
  have hset : {n | Inserted inserted (runId, sourceId) n} = ↑s := by
    ext n
    exact (hmem n).symm
  have hsum := (h.tidy.apart (runId, sourceId)).sum_eq_card (s := s) fun n => by
    rw [hmem, h.covers]
  rw [hset, Set.ncard_coe_finset, ← hsum]
  exact h.tidy.lost (hsum ▸ hcard)

end Unites

/-! ## Reading the loss records -/

/-- The loss a `RecordsDropped` record reports, if it is consistent. -/
def reportedLoss (bufferId : UInt32) (record : Record) : Option LossEvent :=
  if record.eventTypeId ≠ EVENT_RECORDS_DROPPED then none
  else match droppedFields record.slots with
    | (some count, some first, some last) =>
      if first ≤ last ∧ count.toNat = last.toNat - first.toNat + 1 then
        some ⟨bufferId, record.runId, record.sourceId, first, last, count,
          decide (record.flags &&& FLAG_SYNTHETIC ≠ 0)⟩
      else none
    | _ => none

/-- A `RecordsDropped` record reports a range that is the whole of `u64`, with any count. -/
def ReportsAll (record : Record) : Prop :=
  record.eventTypeId = EVENT_RECORDS_DROPPED ∧
    ∃ count, droppedFields record.slots = (some count, some 0, some 0xFFFFFFFFFFFFFFFF)

/-- What is reported is sized, and of the record's stream. -/
lemma reportedLoss_spec {bufferId : UInt32} {record : Record}
    (h : reportedLoss bufferId record = some event) : event.Sized ∧ event.bufferId = bufferId ∧
      event.stream = (record.runId, record.sourceId) := by
  unfold reportedLoss at h
  split_ifs at h with hevent
  split at h
  · split_ifs at h with hfits
    obtain rfl := Option.some.inj h
    exact ⟨⟨UInt64.le_iff_toNat_le.mp hfits.1, hfits.2⟩, rfl, rfl⟩
  · cases h

/-- The parser returns what is reported, or panics at a range that is the whole of `u64`. -/
lemma parseRecordsDropped_cases (bufferId : UInt32) (record : Record) :
    ¬ReportsAll record ∧ (parseRecordsDropped record bufferId : Outcome ε (Option LossEvent)) =
        .ok (reportedLoss bufferId record) ∨
      ReportsAll record ∧
        (parseRecordsDropped record bufferId : Outcome ε (Option LossEvent)) = .panic := by
  unfold parseRecordsDropped reportedLoss ReportsAll
  by_cases hevent : record.eventTypeId = EVENT_RECORDS_DROPPED
  swap
  · exact Or.inl ⟨fun h => hevent h.1, by rw [if_pos hevent, if_pos hevent]⟩
  rw [if_neg (not_not.mpr hevent), if_neg (not_not.mpr hevent)]
  simp only [hevent, true_and]
  rcases droppedFields record.slots with ⟨_ | count, _ | first, _ | last⟩
  pick_goal 8
  · have hone : (1 : UInt64).toNat = 1 := rfl
    have hmax : (0xFFFFFFFFFFFFFFFF : UInt64).toNat = 2 ^ 64 - 1 := rfl
    have hall : (∃ count', (some count, some first, some last) =
        (some count', some (0 : UInt64), some (0xFFFFFFFFFFFFFFFF : UInt64))) ↔
          first.toNat = 0 ∧ last.toNat = 2 ^ 64 - 1 := by
      rw [← hmax, ← UInt64.toNat_zero, UInt64.toNat_inj, UInt64.toNat_inj]
      simp
    have hlast := last.toNat_lt
    rw [hall]
    dsimp only
    by_cases hlt : last < first
    · have hlt' := UInt64.lt_iff_toNat_lt.mp hlt
      rw [if_pos hlt, if_neg fun h => absurd h.1 (UInt64.not_le.mpr hlt)]
      exact Or.inl ⟨by omega, rfl⟩
    have hle := UInt64.not_lt.mp hlt
    have hle' := UInt64.le_iff_toNat_le.mp hle
    rw [if_neg hlt]
    obtain ⟨hsub, hsub'⟩ := checkedSub_of_le (ε := ε) (a := last) (b := first) hle'
    rw [hsub, Outcome.ok_bind]
    by_cases hfits : (last - first).toNat + (1 : UInt64).toNat < 2 ^ 64
    · obtain ⟨hadd, hadd'⟩ := checkedAdd_of_lt (ε := ε) (a := last - first) (b := 1) hfits
      rw [hadd, Outcome.ok_bind]
      refine Or.inl ⟨by omega, ?_⟩
      by_cases hcount : count = last - first + 1
      · rw [if_neg (not_not.mpr hcount), if_pos ⟨hle, by rw [hcount]; omega⟩]
        rfl
      · have hcount' : count.toNat ≠ last.toNat - first.toNat + 1 := by
          intro heq
          apply hcount
          rw [← UInt64.toNat_inj]
          omega
        rw [if_pos hcount, if_neg fun h => hcount' h.2]
        rfl
    · have hadd : (checkedAdd (last - first) 1 : Outcome ε UInt64) = .panic := by
        rw [checkedAdd, if_neg hfits]
      rw [hadd]
      exact Or.inr ⟨by omega, rfl⟩
  all_goals exact Or.inl ⟨by simp, rfl⟩

/-- A checkpoint attests its own number or nothing. -/
lemma parseSourceHighWater_cases (record : Record) :
    parseSourceHighWater record = none ∨ parseSourceHighWater record = some record.seq := by
  unfold parseSourceHighWater
  split_ifs
  · exact Or.inl rfl
  · cases hfind : record.slots.findSome? _ with
    | none => exact Or.inl rfl
    | some producedCount =>
      obtain ⟨slot, -, hslot⟩ := List.exists_of_findSome?_eq_some hfind
      by_cases hkey : slot.key ≠ KEY_SOURCE_HIGH_WATER ∨ slot.payload.length ≠ 8
      · simp only [if_pos hkey, reduceCtorEq] at hslot
      · simp only [if_neg hkey, Option.ite_none_right_eq_some, Option.some.injEq] at hslot
        rw [← hslot.2, hslot.1]
        exact Or.inr rfl

end LossTracker

/-! ## What a record skips -/

/-- The numbers from the expected one on before that of the record. -/
def skippedLoss (bufferId : UInt32) (expected : UInt64) (record : Record) (synthetic : Bool) :
    LossEvent :=
  ⟨bufferId, record.runId, record.sourceId, expected, record.seq - 1, record.seq - expected,
    synthetic⟩

/-- The numbers that are skipped are sized, and end before that of the record. -/
lemma skippedLoss_sized {bufferId : UInt32} {record : Record} {expected : UInt64}
    (hlt : expected.toNat < record.seq.toNat) (synthetic : Bool) :
    (skippedLoss bufferId expected record synthetic).Sized ∧
      (skippedLoss bufferId expected record synthetic).lastSeq.toNat + 1 = record.seq.toNat := by
  have hone : (1 : UInt64).toNat = 1 := rfl
  have hlast := UInt64.toNat_sub_of_le record.seq 1 (by rw [UInt64.le_iff_toNat_le]; omega)
  have hcount := UInt64.toNat_sub_of_le record.seq expected (by rw [UInt64.le_iff_toNat_le]; omega)
  refine ⟨⟨?_, ?_⟩, ?_⟩ <;> simp only [skippedLoss] <;> omega

namespace LossTracker

section Skipped

variable {ε : Type} {record : Record} {expected : UInt64}

/-- A checkpoint that attests its number inserts what it skips. -/
lemma accountHighWater_inserts (tracker : LossTracker)
    (hparse : parseSourceHighWater record = some record.seq)
    (hlt : expected.toNat < record.seq.toNat) :
    (accountHighWater record expected : Mut LossTracker ε Unit) tracker =
      insertLossEvent (skippedLoss tracker.bufferId expected record false) tracker := by
  have hone : (1 : UInt64).toNat = 1 := rfl
  obtain ⟨hlast, -⟩ := checkedSub_of_le (ε := ε) (a := record.seq) (b := 1) (by omega)
  obtain ⟨hcount, -⟩ := checkedSub_of_le (ε := ε) (a := record.seq) (b := expected) (by omega)
  simp only [accountHighWater, Mut.get_bind, hparse, if_pos (UInt64.lt_iff_toNat_lt.mpr hlt),
    hlast, hcount, Mut.lift_ok_bind]
  rfl

/-- Any other record, or one that skips nothing, attests nothing. -/
lemma accountHighWater_quiet (tracker : LossTracker)
    (h : ¬(parseSourceHighWater record = some record.seq ∧ expected.toNat < record.seq.toNat)) :
    (accountHighWater record expected : Mut LossTracker ε Unit) tracker = (.ok (), tracker) := by
  rcases parseSourceHighWater_cases record with hparse | hparse
  · simp only [accountHighWater, Mut.get_bind, hparse, Mut.pure_apply]
  · have hnot : ¬expected < record.seq := fun hlt => h ⟨hparse, UInt64.lt_iff_toNat_lt.mp hlt⟩
    simp only [accountHighWater, Mut.get_bind, hparse, if_neg hnot, Mut.pure_apply]

/-- A record behind the expected number inserts what it skips. -/
lemma accountGap_inserts (tracker : LossTracker) (hlt : expected.toNat < record.seq.toNat) :
    (accountGap record expected : Mut LossTracker ε Unit) tracker =
      insertLossEvent (skippedLoss tracker.bufferId expected record true) tracker := by
  have hone : (1 : UInt64).toNat = 1 := rfl
  have hseq := record.seq.toNat_lt
  obtain ⟨hlast, hlast'⟩ := checkedSub_of_le (ε := ε) (a := record.seq) (b := 1) (by omega)
  obtain ⟨hdiff, hdiff'⟩ :=
    checkedSub_of_le (ε := ε) (a := record.seq - 1) (b := expected) (by omega)
  obtain ⟨hcount, hcount'⟩ :=
    checkedAdd_of_lt (ε := ε) (a := record.seq - 1 - expected) (b := 1) (by omega)
  have hall := UInt64.toNat_sub_of_le record.seq expected (by rw [UInt64.le_iff_toNat_le]; omega)
  have heq : record.seq - 1 - expected + 1 = record.seq - expected := by
    rw [← UInt64.toNat_inj]
    omega
  simp only [accountGap, Mut.get_bind, if_pos (UInt64.lt_iff_toNat_lt.mpr hlt), hlast, hdiff,
    hcount, Mut.lift_ok_bind, heq]
  rfl

/-- A record that is not behind the expected number skips nothing. -/
lemma accountGap_quiet (tracker : LossTracker) (h : ¬expected.toNat < record.seq.toNat) :
    (accountGap record expected : Mut LossTracker ε Unit) tracker = (.ok (), tracker) := by
  simp only [accountGap, Mut.get_bind, if_neg fun hlt => h (UInt64.lt_iff_toNat_lt.mp hlt),
    Mut.pure_apply]

end Skipped

end LossTracker

end OpenOT
