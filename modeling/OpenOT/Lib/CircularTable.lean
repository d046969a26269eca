import Mathlib.Data.List.Basic
import Mathlib.Data.Fin.Basic
import Mathlib.Data.Int.ModEq

set_option relaxedAutoImplicit false
set_option autoImplicit false

/-!
# Circular tables

A queue in a table of fixed size: a head and a count, with the entries from the head on, around
the end of the table.

## Main definitions

* `CircularTable.window` — the entries of the queue, front first.

## Main results

* `CircularTable.window_succ` — taking the front.
* `CircularTable.window_set` — adding behind the back.
-/

namespace CircularTable

variable {α : Type} {n : ℕ} [NeZero n]

/-- The `count` entries from `head` on. -/
def window (cells : Vector α n) (head : Fin n) (count : ℕ) : List α :=
  (List.range count).map fun i => cells.get (head + Fin.ofNat n i)

@[simp] lemma window_zero (cells : Vector α n) (head : Fin n) : window cells head 0 = [] := rfl

@[simp] lemma length_window (cells : Vector α n) (head : Fin n) (count : ℕ) :
    (window cells head count).length = count := by
  simp [window]

/-- The place of an entry. -/
lemma val_place (head : Fin n) (i : ℕ) : (head + Fin.ofNat n i).val = (head.val + i) % n := by
  simp [Fin.val_add]

/-- The front of the queue, and the queue without it. -/
lemma window_succ (cells : Vector α n) (head : Fin n) (count : ℕ) :
    window cells head (count + 1) = cells.get head :: window cells (head + 1) count := by
  rw [window, List.range_succ_eq_map, List.map_cons, List.map_map]
  have hfirst : head + Fin.ofNat n 0 = head := by
    ext
    rw [val_place, Nat.add_zero, Nat.mod_eq_of_lt head.isLt]
  rw [hfirst, window]
  congr 1
  apply List.map_congr_left
  intro i _
  have hnext : head + Fin.ofNat n i.succ = head + 1 + Fin.ofNat n i := by
    ext
    rw [val_place, val_place, Fin.val_add, Nat.mod_add_mod]
    have hone : ((1 : Fin n) : ℕ) = 1 % n := Fin.val_one' n
    rw [hone, Nat.add_assoc, ← Nat.add_mod_mod head.val (1 % n + i), Nat.mod_add_mod,
      Nat.add_mod_mod, Nat.add_comm 1 i]
  rw [Function.comp_apply, hnext]

/-- The back of the queue. -/
lemma window_succ_back (cells : Vector α n) (head : Fin n) (count : ℕ) :
    window cells head (count + 1) =
      window cells head count ++ [cells.get (head + Fin.ofNat n count)] := by
  simp [window, List.range_succ]

/-- The places of the queue and the one behind it are different. -/
lemma place_ne {head : Fin n} {i count : ℕ} (hi : i < count) (hcount : count < n) :
    head + Fin.ofNat n count ≠ head + Fin.ofNat n i := by
  intro heq
  have hval := congrArg Fin.val heq
  rw [val_place, val_place] at hval
  have hmod : count % n = i % n := Nat.ModEq.add_left_cancel' head.val hval
  rw [Nat.mod_eq_of_lt hcount, Nat.mod_eq_of_lt (hi.trans hcount)] at hmod
  omega

/-- Writing behind the back adds an entry. -/
lemma window_set (cells : Vector α n) (head : Fin n) {count : ℕ} (hcount : count < n) (a : α) :
    window (cells.set (head + Fin.ofNat n count : Fin n) a) head (count + 1) =
      window cells head count ++ [a] := by
  rw [window_succ_back]
  congr 1
  · apply List.map_congr_left
    intro i hi
    have hne : head + Fin.ofNat n count ≠ head + Fin.ofNat n i :=
      place_ne (List.mem_range.mp hi) hcount
    exact Vector.getElem_set_ne _ _ fun heq => hne (Fin.ext heq)
  · exact congrArg (fun b => [b]) (Vector.getElem_set_self _)

end CircularTable
