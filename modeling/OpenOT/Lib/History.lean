import Mathlib.Data.List.Induction

set_option relaxedAutoImplicit false
set_option autoImplicit false

/-!
# Histories

Properties of a log that relate an item to what stands before it. A log grows at its end.

## Main definitions

* `History.Each` — a property of every item and what stands before it.
* `History.Latest` — an item with a property, with only quiet items behind it.

## Main results

* `History.Each.concat`, `History.Latest.concat` — how the two are kept when a log grows.
-/

namespace History

variable {α : Type} {Q : List α → α → Prop} {P P' quiet : α → Prop} {log : List α} {a : α}

/-- Every item of the log has the property, given what stands before it. -/
def Each (Q : List α → α → Prop) (log : List α) : Prop :=
  ∀ before a after, log = before ++ a :: after → Q before a

/-- The log has an item with the property `P`, and only quiet items behind it. -/
def Latest (P quiet : α → Prop) (log : List α) : Prop :=
  ∃ before a between, log = before ++ a :: between ∧ P a ∧ ∀ b ∈ between, quiet b

lemma Each.nil : Each Q [] := fun before a after h => by simp at h

/-- An item that has the property is added. -/
lemma Each.concat (h : Each Q log) (ha : Q log a) : Each Q (log ++ [a]) := by
  intro before b after heq
  rcases List.eq_nil_or_concat after with rfl | ⟨after', c, rfl⟩
  · obtain ⟨rfl, hlast⟩ := List.append_inj' heq rfl
    cases hlast
    exact ha
  · have hassoc : log ++ [a] = before ++ b :: after' ++ [c] := by simpa using heq
    exact h before b after' (List.append_inj' hassoc rfl).1

/-- Items that have the property whatever stands before them are added. -/
lemma Each.append {more : List α} (h : Each Q log) (hmore : ∀ b ∈ more, ∀ before, Q before b) :
    Each Q (log ++ more) := by
  induction more using List.reverseRecOn with
  | nil => simpa using h
  | append_singleton more b ih =>
    rw [← List.append_assoc]
    exact (ih fun c hc => hmore c (List.mem_append_left _ hc)).concat
      (hmore b (by simp) _)

/-- The item added has the property. -/
lemma Latest.here (ha : P a) : Latest P quiet (log ++ [a]) := ⟨log, a, [], rfl, ha, by simp⟩

/-- A quiet item is added. -/
lemma Latest.concat (h : Latest P quiet log) (ha : quiet a) : Latest P quiet (log ++ [a]) := by
  obtain ⟨before, b, between, rfl, hb, hquiet⟩ := h
  refine ⟨before, b, between ++ [a], by simp, hb, fun c hc => ?_⟩
  rcases List.mem_append.mp hc with hc | hc
  · exact hquiet c hc
  · rw [List.mem_singleton.mp hc]
    exact ha

/-- Quiet items are added. -/
lemma Latest.append {more : List α} (h : Latest P quiet log) (hmore : ∀ b ∈ more, quiet b) :
    Latest P quiet (log ++ more) := by
  obtain ⟨before, b, between, rfl, hb, hquiet⟩ := h
  refine ⟨before, b, between ++ more, by simp, hb, fun c hc => ?_⟩
  rcases List.mem_append.mp hc with hc | hc
  · exact hquiet c hc
  · exact hmore c hc

end History
