import Mathlib.Data.List.Basic
import Mathlib.Data.Fin.Basic

set_option relaxedAutoImplicit false
set_option autoImplicit false

/-!
# Keyed tables

A table of fixed size whose entries belong to keys, found by going through it. While no key has two
entries, the table is a partial function of the keys, and writing an entry changes it at one key.

## Main definitions

* `KeyedTable.lookup` — what the entry of a key says.
* `KeyedTable.Distinct` — no key has two entries.

## Main results

* `KeyedTable.get_set` — reading an entry after one has been written.
* `KeyedTable.lookup_eq` — any entry of a key is the one that is found.
* `KeyedTable.lookup_set` — the entry of a key is written.
-/

namespace KeyedTable

variable {α κ β : Type} {n : ℕ} {is : κ → α → Bool} {val : α → Option β} {table : Vector α n}
  {k : κ} {i index : Fin n} {a : α}

/-- Reading an entry after one has been written. -/
lemma get_set : (table.set index a).get i = if index = i then a else table.get i := by
  have hget : (table.set index a).get i = if index.val = i.val then a else table.get i :=
    Vector.getElem_set index.isLt i.isLt
  rw [hget]
  exact if_congr Fin.val_inj rfl rfl

/-- The first entry of a key. -/
def find (is : κ → α → Bool) (table : Vector α n) (k : κ) : Option (Fin n) :=
  (List.finRange n).find? fun i => is k (table.get i)

/-- What the entry of a key says. -/
def lookup (is : κ → α → Bool) (val : α → Option β) (table : Vector α n) (k : κ) : Option β :=
  (find is table k).bind fun i => val (table.get i)

/-- No key has two entries. -/
def Distinct (is : κ → α → Bool) (table : Vector α n) : Prop :=
  ∀ k i j, is k (table.get i) = true → is k (table.get j) = true → i = j

/-- Any entry of a key is the one that is found. -/
lemma find_eq (hdistinct : Distinct is table) (hi : is k (table.get i) = true) :
    find is table k = some i := by
  cases hfind : find is table k with
  | none => exact absurd hi (List.find?_eq_none.mp hfind i (List.mem_finRange i))
  | some j =>
    have hj : is k (table.get j) = true := List.find?_some (p := fun i => is k (table.get i)) hfind
    rw [hdistinct k i j hi hj]

/-- A key without an entry. -/
lemma find_eq_none (h : ∀ i, is k (table.get i) = false) : find is table k = none :=
  List.find?_eq_none.mpr fun i _ => by simp [h i]

/-- What is found for a key that has an entry. -/
lemma lookup_eq (hdistinct : Distinct is table) (hi : is k (table.get i) = true) :
    lookup is val table k = val (table.get i) := by
  rw [lookup, find_eq hdistinct hi, Option.bind_some]

/-- Nothing is found for a key without an entry. -/
lemma lookup_eq_none (h : ∀ i, is k (table.get i) = false) : lookup is val table k = none := by
  rw [lookup, find_eq_none h, Option.bind_none]

/-- **The entry of a key is written**, its own or one that belonged to no key. The other keys keep
their entries. -/
lemma lookup_set [DecidableEq κ] (val : α → Option β)
    (hkey : ∀ k k' a, is k a = true → is k' a = true → k = k')
    (hdistinct : Distinct is table) (hentry : is k a = true)
    (hother : ∀ i, i ≠ index → is k (table.get i) = false)
    (hindex : is k (table.get index) = true ∨ ∀ k', is k' (table.get index) = false) :
    Distinct is (table.set index a) ∧ ∀ k', lookup is val (table.set index a) k' =
      if k' = k then val a else lookup is val table k' := by
  have hmoved : ∀ k' i, is k' ((table.set index a).get i) = true →
      i = index ∧ k = k' ∨ i ≠ index ∧ is k' (table.get i) = true := by
    intro k' i hi
    rw [get_set] at hi
    split_ifs at hi with heq
    · exact .inl ⟨heq.symm, hkey _ _ _ hentry hi⟩
    · exact .inr ⟨fun h => heq h.symm, hi⟩
  have hset : Distinct is (table.set index a) := by
    intro k' i j hi hj
    rcases hmoved k' i hi with ⟨hi', heq⟩ | ⟨hne, hold⟩ <;>
      rcases hmoved k' j hj with ⟨hj', heq'⟩ | ⟨hne', hold'⟩
    · rw [hi', hj']
    · rw [← heq, hother j hne'] at hold'
      cases hold'
    · rw [← heq', hother i hne] at hold
      cases hold
    · exact hdistinct k' i j hold hold'
  refine ⟨hset, fun k' => ?_⟩
  split_ifs with hsame
  · have hget : (table.set index a).get index = a := by rw [get_set, if_pos rfl]
    rw [hsame, lookup_eq hset (i := index) (by rw [hget]; exact hentry), hget]
  · have hnot : is k' (table.get index) = false := by
      rcases hindex with hown | hfree
      · by_contra hof
        rw [Bool.not_eq_false] at hof
        exact hsame (hkey _ _ _ hof hown)
      · exact hfree k'
    by_cases hexists : ∃ i, is k' (table.get i) = true
    · obtain ⟨i, hi⟩ := hexists
      have hne : index ≠ i := fun heq => by
        rw [← heq, hnot] at hi
        cases hi
      have hget : (table.set index a).get i = table.get i := by rw [get_set, if_neg hne]
      rw [lookup_eq hdistinct hi, lookup_eq hset (i := i) (by rw [hget]; exact hi), hget]
    · have hnone : ∀ i, is k' (table.get i) = false := fun i => by
        simpa using fun h => hexists ⟨i, h⟩
      rw [lookup_eq_none hnone, lookup_eq_none fun i => ?_]
      rw [get_set]
      split_ifs
      · by_contra hof
        rw [Bool.not_eq_false] at hof
        exact hsame (hkey _ _ _ hof hentry)
      · exact hnone i

end KeyedTable
