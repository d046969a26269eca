import Mathlib.Data.List.Basic

set_option relaxedAutoImplicit false
set_option autoImplicit false

/-!
# Logs of changes

A log of changes of values that belong to keys. A change may say what the value was before; the log
is chained if that is what the change of the same key before it has left.

## Main definitions

* `ChangeLog.last` — what the last change of a key has left.
* `ChangeLog.Chained` — every change continues the one of its key before it.

## Main results

* `ChangeLog.last_concat` — a change sets the value of its key.
* `ChangeLog.Chained.concat` — a chained log is continued.
-/

namespace ChangeLog

/-- A change of the value of a key, with the value before it if it says so. -/
structure Change (κ β : Type) where
  key : κ
  previous : Option β
  value : β
  deriving DecidableEq

variable {κ β : Type} [DecidableEq κ] {log : List (Change κ β)} {c : Change κ β} {k : κ}

/-- What the last change of a key has left. -/
def last (log : List (Change κ β)) (k : κ) : Option β :=
  (log.filter fun c => c.key = k).getLast?.map Change.value

@[simp] lemma last_nil : last ([] : List (Change κ β)) k = none := rfl

/-- A change sets the value of its key. -/
lemma last_concat : last (log ++ [c]) k = if k = c.key then some c.value else last log k := by
  rw [last, List.filter_append]
  by_cases hkey : k = c.key
  · simp [hkey]
  · simp [hkey, Ne.symm hkey, last]

/-- A change that says what was before it says what the one of its key before it has left. -/
def Chained (log : List (Change κ β)) : Prop :=
  ∀ front c back, log = front ++ c :: back →
    ∀ b, c.previous = some b → last front c.key = some b

lemma chained_nil : Chained ([] : List (Change κ β)) := by
  intro front c back h
  cases front <;> cases h

/-- A chained log is continued. -/
lemma Chained.concat (h : Chained log)
    (hc : ∀ b, c.previous = some b → last log c.key = some b) : Chained (log ++ [c]) := by
  intro front d back hsplit
  obtain rfl | ⟨back, e, rfl⟩ := back.eq_nil_or_concat
  · obtain ⟨rfl, hlast⟩ := List.append_inj' hsplit rfl
    cases hlast
    exact hc
  · rw [List.concat_eq_append, ← List.cons_append, ← List.append_assoc] at hsplit
    obtain ⟨hlog, -⟩ := List.append_inj' hsplit rfl
    exact h front d back hlog

end ChangeLog
