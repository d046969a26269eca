import OpenOT.Lib.Outcome

set_option relaxedAutoImplicit false
set_option autoImplicit false

/-!
# Readers of shared memory

A thread that only loads, while another thread changes the memory between its loads. A `Reader`
is the tree of its loads; what it does next may depend on everything it has loaded. Its
correctness is a weakest precondition under a *rely*: between two loads the memory moves along a
given relation, and every load sees the memory as it is then.

## Main definitions

* `Shared.Reader` — a program whose only effect is to load.
* `Shared.Env` — what a load returns, how the memory may move, and what is assumed of loads.
* `Shared.Reader.wp` — every way the reader can end satisfies the postcondition.
* `Shared.Reader.Loads` — the locations the reader loads from.
* `Shared.Attempt` — a reader that ends like a call: with a value, an error or a panic.

## Main results

* `Shared.Reader.wp_bind`, `Shared.Attempt.wp_bind` — sequencing.
* `Shared.Reader.wp_stable` — a reader that stands at a load can wait.
* `Shared.Attempt.run_bind` — the reader on its own.
-/

namespace Shared

open Rust

/-- A program that ends, or loads from location `i` and goes on with what it saw. -/
inductive Reader (ι : Type) (ρ : ι → Type) (α : Type) where
  | ret (a : α)
  | load (i : ι) (k : ρ i → Reader ι ρ α)

/-- The surroundings of a reader: what a load returns, how the memory may move between two loads,
and what is assumed of the values returned. -/
structure Env (ι : Type) (ρ : ι → Type) (σ : Type) where
  read : (i : ι) → σ → ρ i
  rely : σ → σ → Prop
  admits : (i : ι) → ρ i → Prop

variable {ι : Type} {ρ : ι → Type} {σ α β ε ε' : Type}

namespace Reader

/-- Sequencing. -/
def bind : Reader ι ρ α → (α → Reader ι ρ β) → Reader ι ρ β
  | ret a, f => f a
  | load i k, f => load i fun v => (k v).bind f

instance : Monad (Reader ι ρ) where
  pure := ret
  bind := bind

/-- However the memory moves, the reader ends with `Q`. -/
def wp (env : Env ι ρ σ) : Reader ι ρ α → (α → σ → Prop) → σ → Prop
  | ret a, Q, s => Q a s
  | load i k, Q, s =>
    ∀ s', env.rely s s' → env.admits i (env.read i s') → (k (env.read i s')).wp env Q s'

/-- The reader on its own: the memory does not move. -/
def run (read : (i : ι) → σ → ρ i) (s : σ) : Reader ι ρ α → α
  | ret a => a
  | load i k => (k (read i s)).run read s

/-- Whatever it sees, the reader loads only from locations that satisfy `P`. -/
def Loads (P : ι → Prop) : Reader ι ρ α → Prop
  | ret _ => True
  | load i k => P i ∧ ∀ v, (k v).Loads P

/-- The locations of a sequence. -/
lemma Loads.bind {P : ι → Prop} {p : Reader ι ρ α} {f : α → Reader ι ρ β} (hp : p.Loads P)
    (hf : ∀ a, (f a).Loads P) : (p.bind f).Loads P := by
  induction p with
  | ret a => exact hf a
  | load i k ih => exact ⟨hp.1, fun v => ih v (hp.2 v)⟩

variable {env : Env ι ρ σ} {Q Q' : α → σ → Prop} {s s' : σ}

/-- A reader in sequence: the second part starts where the first ended. -/
lemma wp_bind {p : Reader ι ρ α} {f : α → Reader ι ρ β} {Q : β → σ → Prop} :
    (p >>= f).wp env Q s ↔ p.wp env (fun a s => (f a).wp env Q s) s := by
  change (p.bind f).wp env Q s ↔ _
  induction p generalizing s with
  | ret a => rfl
  | load i k ih =>
    simp only [bind, wp]
    exact forall_congr' fun s' => imp_congr_right fun _ => imp_congr_right fun _ => ih _

/-- A weaker postcondition. -/
lemma wp_mono {p : Reader ι ρ α} (h : p.wp env Q s) (hQ : ∀ a s, Q a s → Q' a s) :
    p.wp env Q' s := by
  induction p generalizing s with
  | ret a => exact hQ a s h
  | load i k ih => exact fun s' hrely hadm => ih _ (h s' hrely hadm)

/-- A reader that stands at a load can wait while the memory moves. -/
lemma wp_stable (htrans : ∀ s₁ s₂ s₃, env.rely s₁ s₂ → env.rely s₂ s₃ → env.rely s₁ s₃) {i : ι}
    {k : ρ i → Reader ι ρ α} (h : (load i k).wp env Q s) (hrely : env.rely s s') :
    (load i k).wp env Q s' :=
  fun s'' hnext hadm => h s'' (htrans _ _ _ hrely hnext) hadm

/-- A sequence on its own. -/
lemma run_bind (read : (i : ι) → σ → ρ i) (s : σ) (p : Reader ι ρ α) (f : α → Reader ι ρ β) :
    (p.bind f).run read s = (f (p.run read s)).run read s := by
  induction p with
  | ret a => rfl
  | load i k ih => exact ih _

end Reader

/-! ## Readers that can fail -/

/-- A reader that ends like a call. -/
def Attempt (ι : Type) (ρ : ι → Type) (ε α : Type) : Type := Reader ι ρ (Outcome ε α)

namespace Attempt

/-- Sequencing: an error or a panic ends the reader. -/
def bind (p : Attempt ι ρ ε α) (f : α → Attempt ι ρ ε β) : Attempt ι ρ ε β :=
  Reader.bind p fun
    | .ok a => f a
    | .err e => .ret (.err e)
    | .panic => .ret .panic

instance : Monad (Attempt ι ρ ε) where
  pure a := Reader.ret (.ok a)
  bind := bind

/-- Loads from a location. -/
def load (i : ι) : Attempt ι ρ ε (ρ i) := Reader.load i fun v => .ret (.ok v)

/-- A call that does not load. -/
def lift (x : Outcome ε α) : Attempt ι ρ ε α := Reader.ret x

/-- `return Err(e)`. -/
def throw (e : ε) : Attempt ι ρ ε α := Reader.ret (.err e)

/-- Converting the error. -/
def mapErr (f : ε → ε') (p : Attempt ι ρ ε α) : Attempt ι ρ ε' α :=
  Reader.bind p fun x => .ret (x.mapErr f)

/-- However the memory moves, the reader ends with a value and `Q`, or with an error and `E`; it
never panics. -/
def wp (env : Env ι ρ σ) (p : Attempt ι ρ ε α) (Q : α → σ → Prop) (E : ε → σ → Prop) (s : σ) :
    Prop :=
  Reader.wp env p (fun
    | .ok a, s => Q a s
    | .err e, s => E e s
    | .panic, _ => False) s

variable {env : Env ι ρ σ} {Q Q' : α → σ → Prop} {E E' : ε → σ → Prop} {s : σ}

/-- The locations of a sequence that can fail. -/
lemma Loads.bind {P : ι → Prop} {p : Attempt ι ρ ε α} {f : α → Attempt ι ρ ε β}
    (hp : Reader.Loads P p) (hf : ∀ a, Reader.Loads P (f a)) :
    Reader.Loads P (p >>= f : Attempt ι ρ ε β) := by
  refine Reader.Loads.bind hp ?_
  rintro (a | e | _)
  · exact hf a
  · trivial
  · trivial

lemma wp_pure {a : α} (h : Q a s) : (pure a : Attempt ι ρ ε α).wp env Q E s := h

lemma wp_throw {e : ε} (h : E e s) : (throw e : Attempt ι ρ ε α).wp env Q E s := h

lemma wp_lift_ok {x : Outcome ε α} {a : α} (hx : x = .ok a) (h : Q a s) :
    (lift x : Attempt ι ρ ε α).wp env Q E s := by
  subst hx
  exact h

/-- A reader in sequence. -/
lemma wp_bind {p : Attempt ι ρ ε α} {f : α → Attempt ι ρ ε β} {Q : β → σ → Prop}
    (h : p.wp env (fun a s => (f a).wp env Q E s) E s) : (p >>= f).wp env Q E s := by
  refine Reader.wp_bind.mpr (Reader.wp_mono h ?_)
  rintro (a | e | _) s hs
  · exact hs
  · exact hs
  · exact hs.elim

lemma wp_mono {p : Attempt ι ρ ε α} (h : p.wp env Q E s) (hQ : ∀ a s, Q a s → Q' a s)
    (hE : ∀ e s, E e s → E' e s) : p.wp env Q' E' s := by
  refine Reader.wp_mono h ?_
  rintro (a | e | _) s hs
  · exact hQ a s hs
  · exact hE e s hs
  · exact hs.elim

/-- Converting the error converts the condition on it. -/
lemma wp_mapErr {f : ε → ε'} {p : Attempt ι ρ ε α} {E : ε' → σ → Prop}
    (h : p.wp env Q (fun e s => E (f e) s) s) : (p.mapErr f).wp env Q E s := by
  refine Reader.wp_bind.mpr (Reader.wp_mono h ?_)
  rintro (a | e | _) s hs
  · exact hs
  · exact hs
  · exact hs.elim

/-! ### On its own -/

/-- The reader on its own, as a call. -/
def run (read : (i : ι) → σ → ρ i) (s : σ) (p : Attempt ι ρ ε α) : Outcome ε α :=
  Reader.run read s p

variable (read : (i : ι) → σ → ρ i) (s : σ)

@[simp] lemma run_pure (a : α) : (pure a : Attempt ι ρ ε α).run read s = .ok a := rfl

@[simp] lemma run_throw (e : ε) : (throw e : Attempt ι ρ ε α).run read s = .err e := rfl

@[simp] lemma run_lift (x : Outcome ε α) : (lift x : Attempt ι ρ ε α).run read s = x := rfl

@[simp] lemma run_load (i : ι) : (load i : Attempt ι ρ ε (ρ i)).run read s = .ok (read i s) := rfl

/-- A sequence on its own is a sequence of calls. -/
@[simp] lemma run_bind (p : Attempt ι ρ ε α) (f : α → Attempt ι ρ ε β) :
    (p >>= f).run read s = p.run read s >>= fun a => (f a).run read s := by
  refine (Reader.run_bind read s p _).trans ?_
  unfold run
  cases Reader.run read s p <;> rfl

@[simp] lemma run_mapErr (f : ε → ε') (p : Attempt ι ρ ε α) :
    (p.mapErr f).run read s = (p.run read s).mapErr f :=
  Reader.run_bind read s p _

end Attempt

end Shared
