import OpenOT.Lib.CircularLog

set_option relaxedAutoImplicit false
set_option autoImplicit false

/-!
# Packed lists

A list of chunks that stand one behind the other at the front of an array of cells, with a table of
their offsets and one of their lengths.

## Main definitions

* `PackedList.Packs` — the cells and the two tables hold the chunks.

## Main results

* `PackedList.Packs.put` — writing a chunk behind the others.
* `PackedList.Packs.chunk_eq` — the cells of a chunk are found through the tables.
* `PackedList.Packs.offset_eq_sum`, `PackedList.Packs.stop_eq_sum` — the chunks leave no gaps.
-/

namespace PackedList

open CircularLog

variable {α : Type} {n : ℕ}

/-- The first `stop` cells are the chunks, and the tables have the offset and the length of
each. -/
structure Packs (cells : List α) (offsets lengths : Vector ℕ n) (stop : ℕ)
    (chunks : List (List α)) : Prop where
  count_le : chunks.length ≤ n
  stop_le : stop ≤ cells.length
  stop_eq : stop = chunks.flatten.length
  cells_eq : cells.take stop = chunks.flatten
  offset_eq : ∀ i : Fin n, i.val < chunks.length → offsets.get i = (chunks.take i).flatten.length
  length_eq : ∀ i : Fin n, ∀ hi : i.val < chunks.length, lengths.get i = chunks[i.val].length

namespace Packs

variable {cells chunk : List α} {offsets lengths : Vector ℕ n} {stop : ℕ} {chunks : List (List α)}

/-- No chunks. -/
lemma nil : Packs cells offsets lengths 0 [] where
  count_le := Nat.zero_le n
  stop_le := Nat.zero_le _
  stop_eq := rfl
  cells_eq := rfl
  offset_eq _ hi := absurd hi (Nat.not_lt_zero _)
  length_eq _ hi := absurd hi (Nat.not_lt_zero _)

/-- **Writing a chunk behind the others.** -/
lemma put (h : Packs cells offsets lengths stop chunks) (hcount : chunks.length < n)
    (hstop : stop + chunk.length ≤ cells.length) :
    Packs (overwrite cells stop chunk) (offsets.setIfInBounds chunks.length stop)
      (lengths.setIfInBounds chunks.length chunk.length) (stop + chunk.length)
      (chunks ++ [chunk]) where
  count_le := by
    rw [List.length_append, List.length_singleton]
    exact hcount
  stop_le := by rwa [length_overwrite hstop]
  stop_eq := by
    rw [List.flatten_concat, List.length_append, ← h.stop_eq]
  cells_eq := by
    have hfront : (cells.take stop ++ chunk).length = stop + chunk.length := by
      rw [List.length_append, List.length_take, Nat.min_eq_left h.stop_le]
    rw [overwrite, List.flatten_concat, ← h.cells_eq, ← hfront, List.take_left']
    rfl
  offset_eq i hi := by
    rw [List.length_append, List.length_singleton] at hi
    have hget : (offsets.setIfInBounds chunks.length stop).get i =
        if chunks.length = i.val then stop else offsets.get i :=
      Vector.getElem_setIfInBounds i.isLt
    rw [hget]
    split_ifs with hlast
    · rw [← hlast, List.take_left' rfl]
      exact h.stop_eq
    · rw [h.offset_eq i (by omega), List.take_append_of_le_length (by omega)]
  length_eq i hi := by
    rw [List.length_append, List.length_singleton] at hi
    have hget : (lengths.setIfInBounds chunks.length chunk.length).get i =
        if chunks.length = i.val then chunk.length else lengths.get i :=
      Vector.getElem_setIfInBounds i.isLt
    rw [hget]
    split_ifs with hlast
    · simp [← hlast]
    · rw [h.length_eq i (by omega), List.getElem_append_left (by omega)]

/-- **The cells of a chunk** are found through the tables. -/
lemma chunk_eq (h : Packs cells offsets lengths stop chunks) (i : Fin n)
    (hi : i.val < chunks.length) :
    (cells.drop (offsets.get i)).take (lengths.get i) = chunks[i.val] := by
  have hsplit : chunks = chunks.take i ++ chunks[i.val] :: chunks.drop (i + 1) := by
    rw [List.getElem_cons_drop, List.take_append_drop]
  have hcells : cells = (chunks.take i).flatten ++
      (chunks[i.val] ++ ((chunks.drop (i + 1)).flatten ++ cells.drop stop)) := by
    calc cells = chunks.flatten ++ cells.drop stop := by
          rw [← h.cells_eq, List.take_append_drop]
      _ = _ := by
          rw [congrArg List.flatten hsplit, List.flatten_append, List.flatten_cons,
            List.append_assoc, List.append_assoc]
  rw [h.offset_eq i hi, h.length_eq i hi]
  conv_lhs => rw [hcells]
  rw [List.drop_left, List.take_left]

/-- The lengths of the first chunks add up. -/
lemma sum_lengths (h : Packs cells offsets lengths stop chunks) {k : ℕ} (hk : k ≤ chunks.length) :
    (lengths.toList.take k).sum = (chunks.take k).flatten.length := by
  have hlengths : lengths.toList.take k = (chunks.take k).map List.length := by
    have hle := h.count_le
    apply List.ext_getElem
    · simp
      omega
    · intro i hi _
      have hik : i < k := by
        rw [List.length_take] at hi
        omega
      have hget := h.length_eq ⟨i, by omega⟩ (by dsimp only; omega)
      simpa [Vector.get] using hget
  rw [hlengths, List.length_flatten]

/-- The offset of a chunk is the sum of the lengths before. -/
lemma offset_eq_sum (h : Packs cells offsets lengths stop chunks) (i : Fin n)
    (hi : i.val < chunks.length) : offsets.get i = (lengths.toList.take i).sum := by
  rw [h.offset_eq i hi, h.sum_lengths hi.le]

/-- All lengths add up to the end of the last chunk. -/
lemma stop_eq_sum (h : Packs cells offsets lengths stop chunks) :
    stop = (lengths.toList.take chunks.length).sum := by
  rw [h.sum_lengths le_rfl, List.take_length]
  exact h.stop_eq

end Packs

end PackedList
