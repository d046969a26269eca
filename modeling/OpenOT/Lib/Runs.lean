import OpenOT.Lib.Outcome

set_option relaxedAutoImplicit false
set_option autoImplicit false

/-!
# Runs of a transition system

The states that a transition system reaches by steps each of which meets a condition on the state
before it and on the action taken. An action may not be possible in a state; a schedule is a list
of actions, and can be evaluated.

## Main definitions

* `Transition.Runs` — the states reached.
* `Transition.follow` — the state after a schedule.

## Main results

* `Transition.Runs.invariant` — what every step keeps holds in every state reached.
* `Transition.Runs.of_follow` — a schedule is a run.
-/

namespace Transition

variable {σ A : Type}

/-- The states reached from `init` by steps whose state and action meet a condition. -/
inductive Runs (step : σ → A → Option σ) (meets : σ → A → Prop) (init : σ) : σ → Prop
  | start : Runs step meets init init
  | step {s s' : σ} {action : A} (h : Runs step meets init s) (hmeets : meets s action)
      (hstep : step s action = some s') : Runs step meets init s'

/-- The state after a schedule of actions, if each is possible and meets the condition. -/
def follow (step : σ → A → Option σ) (meets : σ → A → Prop) [∀ s, DecidablePred (meets s)] :
    List A → σ → Option σ
  | [], s => some s
  | action :: actions, s =>
    if meets s action then (step s action).bind (follow step meets actions) else none

variable {step : σ → A → Option σ} {meets : σ → A → Prop} {init s s' : σ}

/-- **The rule of invariants.** What holds initially and is kept by every step that meets the
condition holds in every state reached. -/
lemma Runs.invariant {P : σ → Prop} (hrun : Runs step meets init s) (hinit : P init)
    (hkeep : ∀ s action s', P s → meets s action → step s action = some s' → P s') : P s := by
  induction hrun with
  | start => exact hinit
  | step _ hmeets hstep ih => exact hkeep _ _ _ ih hmeets hstep

/-- A weaker condition is met by the same runs. -/
lemma Runs.mono {meets' : σ → A → Prop} (hrun : Runs step meets init s)
    (hle : ∀ s action, meets s action → meets' s action) : Runs step meets' init s := by
  induction hrun with
  | start => exact .start
  | step _ hmeets hstep ih => exact ih.step (hle _ _ hmeets) hstep

/-- A schedule is a run. -/
lemma Runs.of_follow [∀ s, DecidablePred (meets s)] {actions : List A}
    (h : Runs step meets init s) (hfollow : follow step meets actions s = some s') :
    Runs step meets init s' := by
  induction actions generalizing s with
  | nil => exact Option.some.inj hfollow ▸ h
  | cons action actions ih =>
    rw [follow] at hfollow
    split at hfollow
    · rename_i hmeets
      obtain ⟨next, hstep, hrest⟩ := Option.bind_eq_some_iff.mp hfollow
      exact ih (h.step hmeets hstep) hrest
    · cases hfollow

end Transition
