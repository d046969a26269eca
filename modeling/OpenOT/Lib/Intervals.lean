import Mathlib.Algebra.BigOperators.Group.List.Basic
import Mathlib.Algebra.Ring.Nat
import Mathlib.Order.Interval.Finset.Nat

set_option relaxedAutoImplicit false
set_option autoImplicit false

/-!
# Sets of numbers as intervals

Closed intervals of natural numbers, given by their ends. A list of intervals that never touch
represents the set of the numbers it covers; an interval is added by replacing all those it
touches by the hull of them and itself.

## Main definitions

* `Intervals.Covers` — a number is in one of the intervals.
* `Intervals.Touch` — two intervals overlap, or one begins right behind the other.
* `Intervals.Hull` — the least interval around some intervals.
* `Intervals.Apart` — intervals that are not empty and never touch.

## Main results

* `Intervals.Hull.mem_iff` — a hull around intervals that all touch one of them covers no more
  than they do.
* `Intervals.Apart.insert` — adding an interval.
* `Intervals.Apart.sum_le_card` — the lengths of intervals apart add up.
* `Intervals.Apart.exists_of_covers` — an interval that is covered lies within one of them.
* `Intervals.Apart.mem_iff_of_covers_iff` — what is covered determines the intervals.
-/

namespace Intervals

/-- The number is in one of the intervals. -/
def Covers (intervals : List (ℕ × ℕ)) (n : ℕ) : Prop := ∃ i ∈ intervals, i.1 ≤ n ∧ n ≤ i.2

/-- The intervals overlap, or one begins right behind the other. -/
def Touch (i j : ℕ × ℕ) : Prop := j.1 ≤ i.2 + 1 ∧ i.1 ≤ j.2 + 1

instance (i j : ℕ × ℕ) : Decidable (Touch i j) := inferInstanceAs (Decidable (_ ∧ _))

lemma Touch.symm {i j : ℕ × ℕ} (h : Touch i j) : Touch j i := ⟨h.2, h.1⟩

instance : Std.Symm fun i j : ℕ × ℕ => ¬Touch i j where
  symm _ _ hnot htouch := hnot htouch.symm

lemma touch_self {i : ℕ × ℕ} (h : i.1 ≤ i.2) : Touch i i := ⟨by omega, by omega⟩

/-! ## Hulls -/

/-- The least interval around the given ones. -/
structure Hull (intervals : List (ℕ × ℕ)) (hull : ℕ × ℕ) : Prop where
  first_mem : ∃ i ∈ intervals, i.1 = hull.1
  first_le : ∀ i ∈ intervals, hull.1 ≤ i.1
  last_mem : ∃ i ∈ intervals, i.2 = hull.2
  le_last : ∀ i ∈ intervals, i.2 ≤ hull.2

namespace Hull

variable {intervals : List (ℕ × ℕ)} {hull e : ℕ × ℕ}

/-- A hull depends on which intervals there are only. -/
lemma of_mem_iff {intervals' : List (ℕ × ℕ)} (h : Hull intervals hull)
    (hmem : ∀ i, i ∈ intervals ↔ i ∈ intervals') : Hull intervals' hull := by
  obtain ⟨hfirst, hle, hlast, hge⟩ := h
  simp only [hmem] at hfirst hle hlast hge
  exact ⟨hfirst, hle, hlast, hge⟩

/-- A single interval is its own hull. -/
lemma singleton (i : ℕ × ℕ) : Hull [i] i := by
  constructor <;> simp

/-- Two intervals may be taken together first. -/
lemma of_merge {i j : ℕ × ℕ} (h : Hull ((min i.1 j.1, max i.2 j.2) :: intervals) hull) :
    Hull (i :: j :: intervals) hull := by
  obtain ⟨hfirst, hle, hlast, hge⟩ := h
  simp only [List.mem_cons, exists_eq_or_imp, forall_eq_or_imp] at hfirst hle hlast hge
  constructor
  · simp only [List.mem_cons, exists_eq_or_imp]
    rcases hfirst with hfirst | hfirst
    · rcases min_choice i.1 j.1 with hmin | hmin
      · exact Or.inl (hmin.symm.trans hfirst)
      · exact Or.inr (Or.inl (hmin.symm.trans hfirst))
    · exact Or.inr (Or.inr hfirst)
  · simp only [List.mem_cons, forall_eq_or_imp]
    exact ⟨hle.1.trans (min_le_left _ _), hle.1.trans (min_le_right _ _), hle.2⟩
  · simp only [List.mem_cons, exists_eq_or_imp]
    rcases hlast with hlast | hlast
    · rcases max_choice i.2 j.2 with hmax | hmax
      · exact Or.inl (hmax.symm.trans hlast)
      · exact Or.inr (Or.inl (hmax.symm.trans hlast))
    · exact Or.inr (Or.inr hlast)
  · simp only [List.mem_cons, forall_eq_or_imp]
    exact ⟨(le_max_left _ _).trans hge.1, (le_max_right _ _).trans hge.1, hge.2⟩

/-- A hull of intervals that are not empty is not empty. -/
lemma le (h : Hull intervals hull) (hne : ∀ i ∈ intervals, i.1 ≤ i.2) : hull.1 ≤ hull.2 := by
  obtain ⟨i, hi, hfirst⟩ := h.first_mem
  have := hne i hi
  have := h.le_last i hi
  omega

/-- A hull around intervals that all touch one of them covers no more than they do. -/
lemma mem_iff (h : Hull intervals hull) (he : e ∈ intervals)
    (htouch : ∀ i ∈ intervals, Touch i e) (n : ℕ) :
    hull.1 ≤ n ∧ n ≤ hull.2 ↔ Covers intervals n := by
  constructor
  · rintro ⟨hge, hle⟩
    obtain ⟨i, hi, hfirst⟩ := h.first_mem
    obtain ⟨j, hj, hlast⟩ := h.last_mem
    have hbefore := (htouch i hi).1
    have hbehind := (htouch j hj).2
    by_cases hlow : n < e.1
    · exact ⟨i, hi, by omega, by omega⟩
    · by_cases hhigh : e.2 < n
      · exact ⟨j, hj, by omega, by omega⟩
      · exact ⟨e, he, by omega, by omega⟩
  · rintro ⟨i, hi, hge, hle⟩
    exact ⟨(h.first_le i hi).trans hge, hle.trans (h.le_last i hi)⟩

/-- What touches none of the intervals does not touch a hull around them. -/
lemma not_touch (h : Hull intervals hull) (he : e ∈ intervals)
    (htouch : ∀ i ∈ intervals, Touch i e) {k : ℕ × ℕ} (hk : k.1 ≤ k.2)
    (hapart : ∀ i ∈ intervals, ¬Touch k i) : ¬Touch k hull := by
  rintro ⟨hle, hge⟩
  obtain ⟨i, hi, hfirst⟩ := h.first_mem
  obtain ⟨j, hj, hlast⟩ := h.last_mem
  have hbefore := (htouch i hi).1
  have hbehind := (htouch j hj).2
  have hnoti := hapart i hi
  have hnotj := hapart j hj
  have hnote := hapart e he
  unfold Touch at hnoti hnotj hnote
  omega

end Hull

/-! ## Intervals apart -/

/-- The intervals are not empty, and no two of them touch. -/
structure Apart (intervals : List (ℕ × ℕ)) : Prop where
  le : ∀ i ∈ intervals, i.1 ≤ i.2
  pairwise : intervals.Pairwise fun i j => ¬Touch i j

namespace Apart

variable {intervals : List (ℕ × ℕ)}

lemma nil : Apart [] := ⟨by simp, List.Pairwise.nil⟩

/-- **Adding an interval**: those it touches give way to the hull of them and itself. -/
lemma insert (h : Apart intervals) {e hull : ℕ × ℕ} (he : e.1 ≤ e.2)
    (hhull : Hull (intervals.filter (fun i => decide (Touch i e)) ++ [e]) hull) :
    Apart (intervals.filter (fun i => !decide (Touch i e)) ++ [hull]) ∧
      ∀ n, Covers (intervals.filter (fun i => !decide (Touch i e)) ++ [hull]) n ↔
        Covers intervals n ∨ e.1 ≤ n ∧ n ≤ e.2 := by
  have hmem : e ∈ intervals.filter (fun i => decide (Touch i e)) ++ [e] := by simp
  have htouch : ∀ i ∈ intervals.filter (fun i => decide (Touch i e)) ++ [e], Touch i e := by
    intro i hi
    rcases List.mem_append.mp hi with hi | hi
    · exact of_decide_eq_true (List.mem_filter.mp hi).2
    · rw [List.mem_singleton.mp hi]
      exact touch_self he
  have hne : ∀ i ∈ intervals.filter (fun i => decide (Touch i e)) ++ [e], i.1 ≤ i.2 := by
    intro i hi
    rcases List.mem_append.mp hi with hi | hi
    · exact h.le i (List.mem_of_mem_filter hi)
    · rw [List.mem_singleton.mp hi]
      exact he
  refine ⟨⟨?_, ?_⟩, ?_⟩
  · intro i hi
    rcases List.mem_append.mp hi with hi | hi
    · exact h.le i (List.mem_of_mem_filter hi)
    · rw [List.mem_singleton.mp hi]
      exact hhull.le hne
  · refine List.pairwise_append.mpr ⟨h.pairwise.filter _, List.pairwise_singleton _ _, ?_⟩
    intro k hk hull' hhull'
    rw [List.mem_singleton.mp hhull']
    obtain ⟨hkmem, hkapart⟩ := List.mem_filter.mp hk
    have hkapart : ¬Touch k e := by simpa using hkapart
    refine hhull.not_touch hmem htouch (h.le k hkmem) ?_
    intro i hi
    rcases List.mem_append.mp hi with hi | hi
    · obtain ⟨himem, hitouch⟩ := List.mem_filter.mp hi
      have hitouch : Touch i e := by simpa using hitouch
      have hne : k ≠ i := by
        rintro rfl
        exact hkapart hitouch
      exact h.pairwise.forall hkmem himem hne
    · rw [List.mem_singleton.mp hi]
      exact hkapart
  · intro n
    have hcovers : Covers (intervals.filter (fun i => decide (Touch i e)) ++ [e]) n ↔
        (∃ i ∈ intervals, Touch i e ∧ i.1 ≤ n ∧ n ≤ i.2) ∨ e.1 ≤ n ∧ n ≤ e.2 := by
      simp [Covers, or_and_right, exists_or, and_assoc]
    have hsplit : Covers (intervals.filter (fun i => !decide (Touch i e)) ++ [hull]) n ↔
        (∃ i ∈ intervals, ¬Touch i e ∧ i.1 ≤ n ∧ n ≤ i.2) ∨ hull.1 ≤ n ∧ n ≤ hull.2 := by
      simp [Covers, or_and_right, exists_or, and_assoc]
    rw [hsplit, hhull.mem_iff hmem htouch, hcovers, ← or_assoc]
    refine or_congr_left ?_
    constructor
    · rintro (⟨i, hi, -, hn⟩ | ⟨i, hi, -, hn⟩)
      · exact ⟨i, hi, hn⟩
      · exact ⟨i, hi, hn⟩
    · rintro ⟨i, hi, hn⟩
      by_cases ht : Touch i e
      · exact Or.inr ⟨i, hi, ht, hn⟩
      · exact Or.inl ⟨i, hi, ht, hn⟩

/-- A finite set of numbers that are covered is no larger than the lengths together. -/
lemma card_le_sum {s : Finset ℕ} (hs : ∀ n ∈ s, Covers intervals n) :
    s.card ≤ (intervals.map fun i => i.2 - i.1 + 1).sum := by
  induction intervals generalizing s with
  | nil =>
    rw [Finset.card_eq_zero.mpr (Finset.eq_empty_of_forall_notMem fun n hn => ?_)]
    · exact Nat.zero_le _
    · obtain ⟨i, hi, -⟩ := hs n hn
      exact List.not_mem_nil hi
  | cons i intervals ih =>
    have hrest : (s \ Finset.Icc i.1 i.2).card ≤ (intervals.map fun i => i.2 - i.1 + 1).sum := by
      refine ih fun n hn => ?_
      obtain ⟨hns, hni⟩ := Finset.mem_sdiff.mp hn
      obtain ⟨j, hj, hjn⟩ := hs n hns
      rcases List.mem_cons.mp hj with rfl | hj
      · exact absurd (Finset.mem_Icc.mpr hjn) hni
      · exact ⟨j, hj, hjn⟩
    have hsplit := Finset.card_le_card_sdiff_add_card (s := s) (t := Finset.Icc i.1 i.2)
    rw [Nat.card_Icc] at hsplit
    rw [List.map_cons, List.sum_cons]
    omega

/-- **Lengths add up**: intervals apart inside a finite set are together no longer than it. -/
lemma sum_le_card (h : Apart intervals) {s : Finset ℕ} (hs : ∀ n, Covers intervals n → n ∈ s) :
    (intervals.map fun i => i.2 - i.1 + 1).sum ≤ s.card := by
  induction intervals generalizing s with
  | nil => simp
  | cons i intervals ih =>
    obtain ⟨hapart, hpairwise⟩ := List.pairwise_cons.mp h.pairwise
    obtain ⟨hi, hle⟩ := List.forall_mem_cons.mp h.le
    have hsub : Finset.Icc i.1 i.2 ⊆ s := by
      intro n hn
      exact hs n ⟨i, List.mem_cons_self, Finset.mem_Icc.mp hn⟩
    have hrest : (intervals.map fun i => i.2 - i.1 + 1).sum ≤ (s \ Finset.Icc i.1 i.2).card := by
      refine ih ⟨hle, hpairwise⟩ ?_
      rintro n ⟨j, hj, hge, hle'⟩
      rw [Finset.mem_sdiff, Finset.mem_Icc]
      refine ⟨hs n ⟨j, List.mem_cons_of_mem _ hj, hge, hle'⟩, ?_⟩
      have := hapart j hj
      unfold Touch at this
      omega
    rw [Finset.card_sdiff_of_subset hsub, Nat.card_Icc] at hrest
    have := Finset.card_le_card hsub
    rw [Nat.card_Icc] at this
    rw [List.map_cons, List.sum_cons]
    omega

/-- The lengths of intervals apart are together the size of the set they cover. -/
lemma sum_eq_card (h : Apart intervals) {s : Finset ℕ} (hs : ∀ n, n ∈ s ↔ Covers intervals n) :
    (intervals.map fun i => i.2 - i.1 + 1).sum = s.card :=
  le_antisymm (h.sum_le_card fun n hn => (hs n).mpr hn) (card_le_sum fun n hn => (hs n).mp hn)

/-! ## What is covered determines the intervals -/

/-- **One interval**: an interval all of whose numbers are covered lies within one of them.

**Proof sketch.** Its first number lies in one of them. If that ends before the last number, then
the number behind its end is covered by another, and the two touch. -/
lemma exists_of_covers (h : Apart intervals) {a b : ℕ} (hab : a ≤ b)
    (hcovers : ∀ n, a ≤ n → n ≤ b → Covers intervals n) :
    ∃ i ∈ intervals, i.1 ≤ a ∧ b ≤ i.2 := by
  obtain ⟨i, hi, hge, hle⟩ := hcovers a le_rfl hab
  refine ⟨i, hi, hge, ?_⟩
  by_contra hshort
  obtain ⟨j, hj, hjge, hjle⟩ := hcovers (i.2 + 1) (by omega) (by omega)
  have hne : i ≠ j := by
    rintro rfl
    omega
  refine h.pairwise.forall hi hj hne ⟨hjge, ?_⟩
  omega

/-- Two of the intervals that have a number in common are one. -/
lemma eq_of_mem (h : Apart intervals) {i j : ℕ × ℕ} (hi : i ∈ intervals) (hj : j ∈ intervals)
    {n : ℕ} (hin : i.1 ≤ n ∧ n ≤ i.2) (hjn : j.1 ≤ n ∧ n ≤ j.2) : i = j := by
  by_contra hne
  refine h.pairwise.forall hi hj hne ⟨?_, ?_⟩ <;> omega

/-- **What is covered determines the intervals.** -/
lemma mem_iff_of_covers_iff {intervals' : List (ℕ × ℕ)} (h : Apart intervals)
    (h' : Apart intervals') (hcovers : ∀ n, Covers intervals n ↔ Covers intervals' n) (i : ℕ × ℕ) :
    i ∈ intervals ↔ i ∈ intervals' := by
  suffices hsub : ∀ {xs ys : List (ℕ × ℕ)}, Apart xs → Apart ys →
      (∀ n, Covers xs n ↔ Covers ys n) → i ∈ xs → i ∈ ys from
    ⟨hsub h h' hcovers, hsub h' h fun n => (hcovers n).symm⟩
  intro xs ys hxs hys hcovers hi
  have hle := hxs.le i hi
  obtain ⟨j, hj, hjfirst, hjlast⟩ := hys.exists_of_covers hle fun n hge hle =>
    (hcovers n).mp ⟨i, hi, hge, hle⟩
  obtain ⟨i', hi', hfirst, hlast⟩ := hxs.exists_of_covers (hys.le j hj) fun n hge hle =>
    (hcovers n).mpr ⟨j, hj, hge, hle⟩
  obtain rfl : i = i' := hxs.eq_of_mem hi hi' ⟨le_rfl, hle⟩ ⟨by omega, by omega⟩
  rwa [show i = j from Prod.ext (by omega) (by omega)]

end Apart

end Intervals
