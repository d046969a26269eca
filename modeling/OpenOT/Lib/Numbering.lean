import Mathlib.Algebra.BigOperators.Group.List.Basic
import Mathlib.Algebra.Ring.Nat
import Mathlib.Data.List.Basic
import Mathlib.Data.List.Induction
import Mathlib.Data.List.Pairwise

set_option relaxedAutoImplicit false
set_option autoImplicit false

/-!
# Numbered streams

A log of items, each of which belongs to a stream and carries a number. The log is numbered when
the numbers of each stream are `0, 1, 2, …` in order.

## Main definitions

* `Numbering.numbers` — the numbers of one stream, in order.
* `Numbering.Numbered` — every stream counts up from zero, to a given next number.
* `Numbering.gaps`, `Numbering.expected` — what a reader of an increasing sequence of numbers has
  missed, as intervals, and the number it expects next.

## Main results

* `Numbering.Numbered.concat` — an item that carries the next number of its stream.
* `Numbering.Numbered.pairwise`, `Numbering.Numbered.distinct` — within a stream, numbers increase,
  so that no two items have the same stream and number.
* `Numbering.lt_expected_iff`, `Numbering.not_mem_gap`, `Numbering.length_add_sum_gaps` — the
  numbers read and the gaps partition everything below the expected number.
-/

namespace Numbering

variable {α κ : Type} [DecidableEq κ] {key : α → κ} {num : α → ℕ} {log : List α} {next : κ → ℕ}

/-- The numbers of the items of stream `k`, in order. -/
def numbers (key : α → κ) (num : α → ℕ) (k : κ) (log : List α) : List ℕ :=
  (log.filter fun a => decide (key a = k)).map num

/-- The items of every stream are numbered from zero on, and `next` is the number that follows. -/
def Numbered (key : α → κ) (num : α → ℕ) (next : κ → ℕ) (log : List α) : Prop :=
  ∀ k, numbers key num k log = List.range (next k)

/-- The numbers of a stream of two logs, one after the other. -/
lemma numbers_append (k : κ) (log log' : List α) :
    numbers key num k (log ++ log') = numbers key num k log ++ numbers key num k log' := by
  simp [numbers]

lemma mem_numbers {k : κ} {n : ℕ} :
    n ∈ numbers key num k log ↔ ∃ a ∈ log, key a = k ∧ num a = n := by
  simp [numbers, and_assoc]

/-- The empty log. -/
lemma Numbered.nil : Numbered key num (fun _ => 0) [] := fun _ => rfl

namespace Numbered

/-- The next item of a stream. -/
lemma concat {next' : κ → ℕ} (h : Numbered key num next log) {a : α}
    (hnum : num a = next (key a))
    (hnext : ∀ k, next' k = if k = key a then next k + 1 else next k) :
    Numbered key num next' (log ++ [a]) := by
  intro k
  rw [numbers_append, h k, hnext k]
  split_ifs with hk
  · subst hk
    rw [List.range_succ]
    simp [numbers, hnum]
  · simp [numbers, Ne.symm hk]

/-- The number of an item is below the next number of its stream. -/
lemma lt_next (h : Numbered key num next log) {a : α} (ha : a ∈ log) : num a < next (key a) := by
  rw [← List.mem_range, ← h (key a)]
  exact mem_numbers.mpr ⟨a, ha, rfl, rfl⟩

/-- Within a stream, numbers increase. -/
lemma pairwise (h : Numbered key num next log) :
    log.Pairwise fun a b => key a = key b → num a < num b := by
  have hk : ∀ k, log.Pairwise fun a b => key a = k → key b = k → num a < num b := by
    intro k
    have hsorted : (numbers key num k log).Pairwise (· < ·) := by
      rw [h k]
      exact List.pairwise_lt_range
    rw [numbers, List.pairwise_map, List.pairwise_filter] at hsorted
    simpa using hsorted
  rw [List.pairwise_iff_getElem]
  intro i j hi hj hij heq
  exact List.pairwise_iff_getElem.mp (hk (key log[j])) i j hi hj hij heq rfl

/-- An item is determined by its stream and its number. -/
lemma eq_of_num_eq (h : Numbered key num next log) {a b : α} (ha : a ∈ log) (hb : b ∈ log)
    (hkey : key a = key b) (hnum : num a = num b) : a = b := by
  obtain ⟨i, hi, rfl⟩ := List.getElem_of_mem ha
  obtain ⟨j, hj, rfl⟩ := List.getElem_of_mem hb
  have hpairwise := List.pairwise_iff_getElem.mp h.pairwise
  rcases lt_trichotomy i j with hij | rfl | hji
  · exact absurd hnum (hpairwise i j hi hj hij hkey).ne
  · rfl
  · exact absurd hnum.symm (hpairwise j i hj hi hji hkey.symm).ne

/-- **Identities.** No two items have the same stream and the same number. -/
lemma distinct (h : Numbered key num next log) :
    log.Pairwise fun a b => ¬(key a = key b ∧ num a = num b) :=
  h.pairwise.imp fun hlt heq => (hlt heq.1).ne heq.2

end Numbered

/-! ## Gaps -/

/-- The number expected after `ns`, when `e` was expected before them. -/
def expected : ℕ → List ℕ → ℕ
  | e, [] => e
  | _, n :: ns => expected (n + 1) ns

/-- The interval missed when `n` is read and `e` was expected, if any. -/
def gapBefore (e n : ℕ) : List (ℕ × ℕ) := if e < n then [(e, n - 1)] else []

/-- The intervals missed before and between the numbers `ns`, when `e` was expected first. -/
def gaps : ℕ → List ℕ → List (ℕ × ℕ)
  | _, [] => []
  | e, n :: ns => gapBefore e n ++ gaps (n + 1) ns

section Gaps

variable {e : ℕ} {ns : List ℕ}

lemma mem_gapBefore {n : ℕ} {gap : ℕ × ℕ} :
    gap ∈ gapBefore e n ↔ e < n ∧ gap = (e, n - 1) := by
  unfold gapBefore
  split_ifs with h <;> simp [h]

lemma expected_concat (e : ℕ) (ns : List ℕ) (n : ℕ) : expected e (ns ++ [n]) = n + 1 := by
  induction ns generalizing e with
  | nil => rfl
  | cons m ns ih => exact ih (m + 1)

lemma gaps_concat (e : ℕ) (ns : List ℕ) (n : ℕ) :
    gaps e (ns ++ [n]) = gaps e ns ++ gapBefore (expected e ns) n := by
  induction ns generalizing e with
  | nil => simp [gaps, expected]
  | cons m ns ih => simp [gaps, expected, ih]

/-- The last number read is the one before the expected number. -/
lemma expected_eq_of_getLast? {n : ℕ} (h : ns.getLast? = some n) : expected e ns = n + 1 := by
  obtain ⟨init, rfl⟩ := List.getLast?_eq_some_iff.mp h
  exact expected_concat e init n

/-- The largest number read is the one before the expected number. -/
lemma expected_eq_of_max (hsorted : ns.Pairwise (· < ·)) {n : ℕ} (hn : n ∈ ns)
    (hmax : ∀ m ∈ ns, m ≤ n) : expected e ns = n + 1 := by
  induction ns using List.reverseRecOn with
  | nil => cases hn
  | append_singleton init last _ =>
    rw [expected_concat]
    rcases List.mem_append.mp hn with hinit | hlast
    · have hlt := (List.pairwise_append.mp hsorted).2.2 n hinit last (List.mem_singleton_self _)
      have := hmax last (List.mem_append_right _ (List.mem_singleton_self _))
      omega
    · rw [List.mem_singleton.mp hlast]

/-- The expected number is behind everything read. -/
lemma expected_le (hle : ∀ n ∈ ns, e ≤ n) (hsorted : ns.Pairwise (· < ·)) :
    e ≤ expected e ns ∧ ∀ n ∈ ns, n < expected e ns := by
  induction ns generalizing e with
  | nil => simp [expected]
  | cons m ns ih =>
    obtain ⟨hlater, hsorted'⟩ := List.pairwise_cons.mp hsorted
    have hm : ∀ n ∈ ns, m + 1 ≤ n := fun n hn => hlater n hn
    obtain ⟨hnext, hlt⟩ := ih hm hsorted'
    have := hle m List.mem_cons_self
    refine ⟨by rw [expected]; omega, ?_⟩
    intro n hn
    rw [expected]
    rcases List.mem_cons.mp hn with rfl | hn
    · omega
    · exact hlt n hn

/-- A gap is an interval that ends right before a number read. -/
lemma gap_spec (hle : ∀ n ∈ ns, e ≤ n) (hsorted : ns.Pairwise (· < ·)) {gap : ℕ × ℕ}
    (hgap : gap ∈ gaps e ns) : e ≤ gap.1 ∧ gap.1 ≤ gap.2 ∧ gap.2 + 1 ∈ ns := by
  induction ns generalizing e with
  | nil => simp [gaps] at hgap
  | cons m ns ih =>
    obtain ⟨hlater, hsorted'⟩ := List.pairwise_cons.mp hsorted
    have hm : ∀ n ∈ ns, m + 1 ≤ n := fun n hn => hlater n hn
    rw [gaps, List.mem_append] at hgap
    rcases hgap with hfirst | hrest
    · obtain ⟨hlt, rfl⟩ := mem_gapBefore.mp hfirst
      refine ⟨le_rfl, Nat.le_sub_one_of_lt hlt, ?_⟩
      rw [Nat.sub_add_cancel (by omega)]
      exact List.mem_cons_self
    · obtain ⟨hge, hordered, hmem⟩ := ih hm hsorted' hrest
      have := hle m List.mem_cons_self
      exact ⟨by omega, hordered, List.mem_cons_of_mem _ hmem⟩

/-- What has been read or missed is what lies below the expected number. -/
lemma lt_expected_iff (hle : ∀ n ∈ ns, e ≤ n) (hsorted : ns.Pairwise (· < ·)) (n : ℕ) :
    e ≤ n ∧ n < expected e ns ↔ n ∈ ns ∨ ∃ gap ∈ gaps e ns, gap.1 ≤ n ∧ n ≤ gap.2 := by
  induction ns generalizing e with
  | nil =>
    simp [expected, gaps]
  | cons m ns ih =>
    obtain ⟨hlater, hsorted'⟩ := List.pairwise_cons.mp hsorted
    have hm : ∀ n ∈ ns, m + 1 ≤ n := fun n hn => hlater n hn
    have hem := hle m List.mem_cons_self
    have hnext := (expected_le hm hsorted').1
    have hfirst : (∃ gap ∈ gapBefore e m, gap.1 ≤ n ∧ n ≤ gap.2) ↔ e ≤ n ∧ n < m := by
      simp only [mem_gapBefore]
      constructor
      · rintro ⟨_, ⟨hlt, rfl⟩, hge, hle⟩
        exact ⟨hge, by omega⟩
      · rintro ⟨hge, hlt⟩
        exact ⟨_, ⟨by omega, rfl⟩, hge, by omega⟩
    simp only [gaps, expected, List.mem_append, or_and_right, exists_or, hfirst, List.mem_cons]
    rw [or_assoc, or_left_comm (a := n ∈ ns), ← ih hm hsorted']
    omega

/-- What has been read is not in a gap. -/
lemma not_mem_gap (hle : ∀ n ∈ ns, e ≤ n) (hsorted : ns.Pairwise (· < ·)) {n : ℕ} (hn : n ∈ ns)
    {gap : ℕ × ℕ} (hgap : gap ∈ gaps e ns) : ¬(gap.1 ≤ n ∧ n ≤ gap.2) := by
  induction ns generalizing e with
  | nil => simp at hn
  | cons m ns ih =>
    obtain ⟨hlater, hsorted'⟩ := List.pairwise_cons.mp hsorted
    have hm : ∀ n ∈ ns, m + 1 ≤ n := fun n hn => hlater n hn
    rw [gaps, List.mem_append] at hgap
    have hmn : m ≤ n := by
      rcases List.mem_cons.mp hn with rfl | hn
      · exact le_rfl
      · exact (hlater n hn).le
    rcases hgap with hfirst | hrest
    · obtain ⟨hlt, rfl⟩ := mem_gapBefore.mp hfirst
      simp only
      omega
    · rcases List.mem_cons.mp hn with rfl | hn
      · have := (gap_spec hm hsorted' hrest).1
        omega
      · exact ih hm hsorted' hn hrest

/-- The numbers read and the lengths of the gaps add up. -/
lemma length_add_sum_gaps (hle : ∀ n ∈ ns, e ≤ n) (hsorted : ns.Pairwise (· < ·)) :
    e + ns.length + ((gaps e ns).map fun gap => gap.2 - gap.1 + 1).sum = expected e ns := by
  induction ns generalizing e with
  | nil => simp [gaps, expected]
  | cons m ns ih =>
    obtain ⟨hlater, hsorted'⟩ := List.pairwise_cons.mp hsorted
    have hm : ∀ n ∈ ns, m + 1 ≤ n := fun n hn => hlater n hn
    have hem := hle m List.mem_cons_self
    rw [gaps, expected, ← ih hm hsorted', List.map_append, List.sum_append, List.length_cons,
      gapBefore]
    split_ifs with hlt
    · simp only [List.map_cons, List.map_nil, List.sum_cons, List.sum_nil]
      omega
    · simp only [List.map_nil, List.sum_nil]
      omega

end Gaps

end Numbering
