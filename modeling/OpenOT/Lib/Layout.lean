import Mathlib.Data.List.SplitLengths
import OpenOT.Lib.Outcome

set_option relaxedAutoImplicit false
set_option autoImplicit false

/-!
# Blocks of fields

A block is the concatenation of fields of given widths. It is cut into its fields by
`List.splitLengths`, and a copy over one of the fields leaves the others as they are.

## Main results

* `Layout.splitLengths_flatten`, `Layout.eq_flatten_iff` — a block and its fields.
* `Layout.copyFromSlice_field`, `Layout.assign_field` — writing over a field.
* `Layout.copyFromSlice_widths` — the same for a block given by the widths of its fields.
-/

namespace Layout

open Rust

variable {α ε : Type} {fs : List (List α)} {old new : List α} {a : ℕ}

/-- A block is cut into the fields it was made of. -/
lemma splitLengths_flatten (fs : List (List α)) :
    (fs.map List.length).splitLengths fs.flatten = fs := by
  induction fs with
  | nil => rfl
  | cons f fs ih =>
    rw [List.map_cons, List.flatten_cons, List.splitLengths_cons, List.take_left, List.drop_left, ih]

/-- **A block consists of some fields** exactly if it is cut into them. -/
lemma eq_flatten_iff {block : List α} (h : block.length = (fs.map List.length).sum) :
    block = fs.flatten ↔ (fs.map List.length).splitLengths block = fs := by
  constructor
  · rintro rfl
    exact splitLengths_flatten fs
  · intro hcut
    rw [← List.flatten_splitLengths block (fs.map List.length) h.le, hcut]

/-- A block around one of its fields. -/
lemma flatten_eq_around {i : ℕ} (hi : fs[i]? = some old) :
    fs.flatten = (fs.take i).flatten ++ (old ++ (fs.drop (i + 1)).flatten) := by
  obtain ⟨hlt, hold⟩ := List.getElem?_eq_some_iff.mp hi
  rw [← List.flatten_cons, ← List.flatten_append, ← hold, ← List.drop_eq_getElem_cons hlt,
    List.take_append_drop]

/-- **A copy over a field** replaces the field. -/
lemma copyFromSlice_field (i : ℕ) (hi : fs[i]? = some old) (ha : a = (fs.take i).flatten.length)
    (hw : new.length = old.length) :
    (copyFromSlice fs.flatten a new : Outcome ε (List α)) = .ok (fs.set i new).flatten := by
  obtain ⟨hlt, -⟩ := List.getElem?_eq_some_iff.mp hi
  have hnew : (fs.set i new)[i]? = some new := List.getElem?_set_self hlt
  have htake : (fs.set i new).take i = fs.take i := List.take_set_of_le le_rfl
  have hdrop : (fs.set i new).drop (i + 1) = fs.drop (i + 1) :=
    List.drop_set_of_lt (Nat.lt_succ_self i)
  rw [flatten_eq_around hi, flatten_eq_around hnew, htake, hdrop,
    copyFromSlice_of_le (by simp only [List.length_append]; omega), ha, List.take_left, hw,
    ← List.drop_drop, List.drop_left, List.drop_left, List.append_assoc]

/-- An assignment to a field of one element replaces the field. -/
lemma assign_field {x y : α} (i : ℕ) (hi : fs[i]? = some [x])
    (ha : a = (fs.take i).flatten.length) :
    (assign fs.flatten a y : Outcome ε (List α)) = .ok (fs.set i [y]).flatten := by
  have hcopy : (copyFromSlice fs.flatten a [y] : Outcome ε (List α)) =
      .ok (fs.set i [y]).flatten := copyFromSlice_field i hi ha rfl
  have hlt : a < fs.flatten.length := by
    rw [flatten_eq_around hi, ha]
    simp
  rw [copyFromSlice_of_le (show a + [y].length ≤ fs.flatten.length from hlt)] at hcopy
  rw [assign, if_pos hlt, List.set_eq_take_append_cons_drop, if_pos hlt, ← hcopy]
  simp

/-! ## Fields of given widths -/

section Widths

variable {ws : List ℕ}

/-- **A copy over a field** of a block given by the widths of its fields: the widths stay. -/
lemma copyFromSlice_widths (i : ℕ) (hfs : fs.map List.length = ws) (ha : a = (ws.take i).sum)
    (hw : ws[i]? = some new.length) :
    (copyFromSlice fs.flatten a new : Outcome ε (List α)) = .ok (fs.set i new).flatten ∧
      (fs.set i new).map List.length = ws := by
  subst hfs
  obtain ⟨old, hold, hlength⟩ : ∃ old, fs[i]? = some old ∧ old.length = new.length := by
    simpa using hw
  refine ⟨copyFromSlice_field i hold ?_ hlength.symm, ?_⟩
  · rw [ha, List.length_flatten, List.map_take]
  · obtain ⟨hlt, hget⟩ := List.getElem?_eq_some_iff.mp hw
    rw [List.map_set, ← hget, List.set_getElem_self]

end Widths

section Bind

variable {β : Type} {k : List α → Outcome ε β}

/-- A copy over a field, in sequence. -/
lemma bind_copyFromSlice (i : ℕ) (hi : fs[i]? = some old) (ha : a = (fs.take i).flatten.length)
    (hw : new.length = old.length) :
    (copyFromSlice fs.flatten a new >>= k) = k (fs.set i new).flatten := by
  rw [copyFromSlice_field i hi ha hw, Outcome.ok_bind]

@[inherit_doc bind_copyFromSlice]
lemma bind_assign {x y : α} (i : ℕ) (hi : fs[i]? = some [x]) (ha : a = (fs.take i).flatten.length) :
    (assign fs.flatten a y >>= k) = k (fs.set i [y]).flatten := by
  rw [assign_field i hi ha, Outcome.ok_bind]

end Bind

end Layout
