import Mathlib.Data.List.Basic
import Mathlib.Logic.Function.Iterate

set_option relaxedAutoImplicit false
set_option autoImplicit false

/-!
# Checksums that detect an error in one symbol

A checksum register is updated with the symbols of a string, one after the other. If each update
can be undone, and different symbols take the register to different values, then two strings that
differ in one symbol have different checksums.

## Main definitions

* `Checksum.Detecting` — updates without collisions.

## Main results

* `Checksum.Detecting.foldl_ne` — two strings that differ in one symbol.
* `Checksum.Detecting.foldl_modify_ne` — the same, for a symbol changed in place.
-/

namespace Checksum

open Function

variable {σ α : Type}

/-- The updates do not collide, in the register or in the symbol. -/
structure Detecting (update : σ → α → σ) : Prop where
  state : ∀ a, Injective fun s => update s a
  symbol : ∀ s, Injective (update s)

variable {update : σ → α → σ}

namespace Detecting

/-- A string takes different registers to different ones. -/
lemma foldl_injective (h : Detecting update) (xs : List α) :
    Injective fun s => xs.foldl update s := by
  induction xs with
  | nil => exact injective_id
  | cons x xs ih => exact ih.comp (h.state x)

/-- Two strings that differ in one symbol have different checksums. -/
lemma foldl_ne (h : Detecting update) (pre post : List α) {a b : α} (hne : a ≠ b) (s : σ) :
    (pre ++ a :: post).foldl update s ≠ (pre ++ b :: post).foldl update s := by
  rw [List.foldl_append, List.foldl_append]
  intro heq
  exact hne (h.symbol _ (h.foldl_injective post heq))

/-- A symbol changed in place changes the checksum. -/
lemma foldl_modify_ne (h : Detecting update) {xs : List α} {k : ℕ} (hk : k < xs.length)
    {f : α → α} (hne : f xs[k] ≠ xs[k]) (s : σ) :
    (xs.modify k f).foldl update s ≠ xs.foldl update s := by
  have hsplit : xs.take k ++ xs[k] :: xs.drop (k + 1) = xs := by
    rw [List.getElem_cons_drop, List.take_append_drop]
  have hdiffer := h.foldl_ne (xs.take k) (xs.drop (k + 1)) hne s
  rwa [hsplit, ← List.modify_eq_take_cons_drop hk] at hdiffer

end Detecting

end Checksum
