import Mathlib.Algebra.Ring.Nat
import Mathlib.Data.List.Basic
import Mathlib.Order.Defs.Unbundled

set_option relaxedAutoImplicit false
set_option autoImplicit false

/-!
# How a Rust call ends

A call returns a value, returns an `Err`, or panics. `Rust.Outcome` keeps the three apart, so
that "never indexes outside the slice" and "never overflows" are statements about results.
`Rust.Mut` is the shape of a method on `&mut self`: the state is handed on whichever way the
call ends, because an `Err` raised half way through does not undo the assignments before it.

## Main definitions

* `Rust.Outcome` — value, error or panic, with its monad structure.
* `Rust.Mut` — a method on a mutable state, with its monad structure.
* `Rust.index`, `Rust.slice`, `Rust.copyFromSlice` — the checked accesses `xs[i]`, `xs[a..b]`
  and `xs[a..b].copy_from_slice(ys)`.
* `Rust.checkedAdd`, `Rust.checkedSub` — `u64` arithmetic with overflow checks.
* `Rust.Mut.wp` — the postconditions of a method, one for each way it can end.
* `Rust.Mut.Keeps` — a relation between the states a method begins in and leaves.

## Main results

* `Rust.Outcome.bind_eq_ok` — what a sequence of calls that returns has done.
* `Rust.index_eq_ok`, `Rust.slice_eq_ok`, `Rust.exists_copyFromSlice` — the accesses in range.
-/

namespace Rust

/-- A sequence of two calls that cannot panic returns exactly when both do. -/
lemma except_bind_eq_ok {ε α β : Type} {x : Except ε α} {f : α → Except ε β} {b : β} :
    (x >>= f) = .ok b ↔ ∃ a, x = .ok a ∧ f a = .ok b := by
  cases x with
  | ok a => simp [bind, Except.bind]
  | error e => simp [bind, Except.bind]

/-- The end of a call: a value, an `Err`, or a panic. -/
inductive Outcome (ε α : Type) where
  | ok (value : α)
  | err (error : ε)
  | panic
  deriving DecidableEq, Repr

namespace Outcome

variable {ε ε' α β : Type}

/-- Sequencing: an error or a panic ends the computation (the `?` operator). -/
def bind (x : Outcome ε α) (f : α → Outcome ε β) : Outcome ε β :=
  match x with
  | ok a => f a
  | err e => err e
  | panic => panic

instance : Monad (Outcome ε) where
  pure := ok
  bind := bind

@[simp] lemma pure_eq (a : α) : (pure a : Outcome ε α) = ok a := rfl

@[simp] lemma ok_bind (a : α) (f : α → Outcome ε β) : (ok a >>= f) = f a := rfl

@[simp] lemma err_bind (e : ε) (f : α → Outcome ε β) : (err e >>= f) = err e := rfl

@[simp] lemma panic_bind (f : α → Outcome ε β) : ((panic : Outcome ε α) >>= f) = panic := rfl

instance : LawfulMonad (Outcome ε) :=
  LawfulMonad.mk' _ (fun x => by cases x <;> rfl) (fun _ _ => rfl) fun x _ _ => by cases x <;> rfl

/-- Converting the error of a call, as `From` does behind the `?` operator. -/
def mapErr (f : ε → ε') : Outcome ε α → Outcome ε' α
  | ok a => ok a
  | err e => err (f e)
  | panic => panic

@[simp] lemma mapErr_ok (f : ε → ε') (a : α) : (ok a).mapErr f = ok a := rfl

@[simp] lemma mapErr_err (f : ε → ε') (e : ε) : (err e : Outcome ε α).mapErr f = err (f e) := rfl

@[simp] lemma mapErr_panic (f : ε → ε') : (panic : Outcome ε α).mapErr f = panic := rfl

/-- A sequence of two calls returns exactly when both do. -/
lemma bind_eq_ok {x : Outcome ε α} {f : α → Outcome ε β} {b : β} :
    (x >>= f) = ok b ↔ ∃ a, x = ok a ∧ f a = ok b := by
  cases x <;> simp

/-- A sequence of two calls panics exactly when the first does, or the second after it. -/
lemma bind_eq_panic {x : Outcome ε α} {f : α → Outcome ε β} :
    (x >>= f) = panic ↔ x = panic ∨ ∃ a, x = ok a ∧ f a = panic := by
  cases x <;> simp

/-- A check that returns an error: what returns has passed it. -/
lemma of_ite_err {c : Prop} [Decidable c] {e : ε} {x : Outcome ε α} {a : α}
    (h : (if c then err e else x) = ok a) : ¬c ∧ x = ok a := by
  split_ifs at h with hc
  exact ⟨hc, h⟩

/-- A check that panics: what returns has passed it. -/
lemma of_ite_panic {c : Prop} [Decidable c] {x : Outcome ε α} {a : α}
    (h : (if c then panic else x) = ok a) : ¬c ∧ x = ok a := by
  split_ifs at h with hc
  exact ⟨hc, h⟩

/-- A choice neither side of which panics. -/
lemma ite_ne_panic {c : Prop} [Decidable c] {x y : Outcome ε α} (hx : c → x ≠ panic)
    (hy : ¬c → y ≠ panic) : (if c then x else y) ≠ panic := by
  split
  · exact hx ‹c›
  · exact hy ‹¬c›

/-- A loop none of whose rounds panics. -/
lemma foldlM_ne_panic {f : β → α → Outcome ε β} {xs : List α}
    (h : ∀ x ∈ xs, ∀ b, f b x ≠ panic) (b : β) : xs.foldlM f b ≠ panic := by
  induction xs generalizing b with
  | nil => exact fun hpanic => by cases hpanic
  | cons x xs ih =>
    rw [List.foldlM_cons, Ne, bind_eq_panic]
    rintro (hpanic | ⟨b', -, hpanic⟩)
    · exact h x List.mem_cons_self b hpanic
    · exact ih (fun y hy => h y (List.mem_cons_of_mem x hy)) b' hpanic

/-- The outcome is an error. -/
def isErr : Outcome ε α → Bool
  | ok _ => false
  | err _ => true
  | panic => false

lemma isErr_iff {x : Outcome ε α} : x.isErr = true ↔ ∃ e, x = err e := by
  cases x <;> simp [isErr]

/-- Converting the error does not change the values. -/
@[simp] lemma mapErr_eq_ok {f : ε → ε'} {x : Outcome ε α} {a : α} :
    x.mapErr f = ok a ↔ x = ok a := by
  cases x <;> simp

/-- Converting the error does not change the panics. -/
@[simp] lemma mapErr_eq_panic {f : ε → ε'} {x : Outcome ε α} :
    x.mapErr f = panic ↔ x = panic := by
  cases x <;> simp

end Outcome

/-! ## Checked accesses -/

variable {ε α : Type}

/-- `xs[i]`: panics out of range. -/
def index (xs : List α) (i : ℕ) : Outcome ε α :=
  match xs[i]? with
  | some a => .ok a
  | none => .panic

/-- `&xs[a..b]`: panics unless `a ≤ b ≤ xs.len()`. -/
def slice (xs : List α) (a b : ℕ) : Outcome ε (List α) :=
  if a ≤ b ∧ b ≤ xs.length then .ok ((xs.take b).drop a) else .panic

/-- `xs[a..a + ys.len()].copy_from_slice(ys)`: panics when the range does not fit. -/
def copyFromSlice (xs : List α) (a : ℕ) (ys : List α) : Outcome ε (List α) :=
  if a + ys.length ≤ xs.length then .ok (xs.take a ++ ys ++ xs.drop (a + ys.length)) else .panic

/-- `xs[i] = v`: panics out of range. -/
def assign (xs : List α) (i : ℕ) (v : α) : Outcome ε (List α) :=
  if i < xs.length then .ok (xs.set i v) else .panic

lemma index_eq_ok {xs : List α} {i : ℕ} {a : α} :
    (index xs i : Outcome ε α) = .ok a ↔ xs[i]? = some a := by
  unfold index
  cases xs[i]? <;> simp

/-- An access in range returns the element. -/
lemma index_of_lt {xs : List α} {i : ℕ} (h : i < xs.length) :
    (index xs i : Outcome ε α) = .ok xs[i] := by
  rw [index_eq_ok, List.getElem?_eq_getElem h]

lemma slice_eq_ok {xs ys : List α} {a b : ℕ} :
    (slice xs a b : Outcome ε (List α)) = .ok ys ↔
      a ≤ b ∧ b ≤ xs.length ∧ (xs.take b).drop a = ys := by
  unfold slice
  split_ifs with h
  · simp [h.1, h.2]
  · simp only [false_iff]
    tauto

/-- A slice in range returns its elements. -/
lemma slice_of_le {xs : List α} {a b : ℕ} (hab : a ≤ b) (hb : b ≤ xs.length) :
    (slice xs a b : Outcome ε (List α)) = .ok ((xs.take b).drop a) :=
  slice_eq_ok.mpr ⟨hab, hb, rfl⟩

lemma copyFromSlice_of_le {xs ys : List α} {a : ℕ} (h : a + ys.length ≤ xs.length) :
    (copyFromSlice xs a ys : Outcome ε (List α)) =
      .ok (xs.take a ++ ys ++ xs.drop (a + ys.length)) := by
  rw [copyFromSlice, if_pos h]

/-- A copy in range replaces the slice and nothing else. -/
lemma exists_copyFromSlice {xs ys : List α} {a : ℕ} (h : a + ys.length ≤ xs.length) :
    ∃ zs, (copyFromSlice xs a ys : Outcome ε (List α)) = .ok zs ∧ zs.length = xs.length ∧
      (zs.drop a).take ys.length = ys ∧
      ∀ c n, c + n ≤ a ∨ a + ys.length ≤ c → (zs.drop c).take n = (xs.drop c).take n := by
  refine ⟨_, copyFromSlice_of_le h, by simp; omega, ?_, fun c n hdisj => List.ext_getElem? ?_⟩
  · rw [List.append_assoc, List.drop_append_of_le_length (by simp; omega), List.drop_take,
      Nat.sub_self, List.take_zero, List.nil_append, List.take_left]
  · intro i
    simp only [List.getElem?_take, List.getElem?_drop, List.append_assoc, List.getElem?_append,
      List.length_take]
    grind

/-- Copying over a slice what is there changes nothing. -/
lemma copyFromSlice_self {xs ys : List α} {a : ℕ} (h : (xs.drop a).take ys.length = ys)
    (hle : a + ys.length ≤ xs.length) : (copyFromSlice xs a ys : Outcome ε (List α)) = .ok xs := by
  rw [copyFromSlice_of_le hle, Outcome.ok.injEq]
  calc xs.take a ++ ys ++ xs.drop (a + ys.length)
      = xs.take a ++ ((xs.drop a).take ys.length ++ (xs.drop a).drop ys.length) := by
        rw [h, List.drop_drop, List.append_assoc]
    _ = xs := by rw [List.take_append_drop, List.take_append_drop]

lemma assign_of_lt {xs : List α} {i : ℕ} {v : α} (h : i < xs.length) :
    (assign xs i v : Outcome ε (List α)) = .ok (xs.set i v) := by
  rw [assign, if_pos h]

/-! ## Arithmetic with overflow checks -/

/-- `a + b` on `u64`, panicking on overflow. -/
def checkedAdd (a b : UInt64) : Outcome ε UInt64 :=
  if a.toNat + b.toNat < 2 ^ 64 then .ok (a + b) else .panic

/-- `a - b` on `u64`, panicking on underflow. -/
def checkedSub (a b : UInt64) : Outcome ε UInt64 :=
  if b ≤ a then .ok (a - b) else .panic

/-- A sum that returns is the sum of the values. -/
lemma checkedAdd_eq_ok {a b c : UInt64} :
    (checkedAdd a b : Outcome ε UInt64) = .ok c ↔ c.toNat = a.toNat + b.toNat := by
  unfold checkedAdd
  split_ifs with h
  · simp only [Outcome.ok.injEq, ← UInt64.toNat_inj, UInt64.toNat_add, Nat.mod_eq_of_lt h]
    exact eq_comm
  · have := c.toNat_lt
    simp only [false_iff]
    omega

/-- A sum in range. -/
lemma checkedAdd_of_lt {a b : UInt64} (h : a.toNat + b.toNat < 2 ^ 64) :
    (checkedAdd a b : Outcome ε UInt64) = .ok (a + b) ∧ (a + b).toNat = a.toNat + b.toNat := by
  rw [checkedAdd, if_pos h, UInt64.toNat_add, Nat.mod_eq_of_lt h]
  exact ⟨rfl, rfl⟩

/-- A difference in range. -/
lemma checkedSub_of_le {a b : UInt64} (h : b.toNat ≤ a.toNat) :
    (checkedSub a b : Outcome ε UInt64) = .ok (a - b) ∧ (a - b).toNat + b.toNat = a.toNat := by
  have hle : b ≤ a := UInt64.le_iff_toNat_le.mpr h
  rw [checkedSub, if_pos hle, UInt64.toNat_sub_of_le _ _ hle]
  exact ⟨rfl, Nat.sub_add_cancel h⟩

/-! ## Methods on a mutable state -/

/-- A method on `&mut self`: the state is handed on whichever way the call ends. -/
def Mut (σ ε α : Type) : Type := σ → Outcome ε α × σ

namespace Mut

variable {σ τ ε' β : Type}

/-- Sequencing: an error or a panic ends the method, with the state as it is then. -/
def bind (m : Mut σ ε α) (f : α → Mut σ ε β) : Mut σ ε β := fun s =>
  match m s with
  | (.ok a, s') => f a s'
  | (.err e, s') => (.err e, s')
  | (.panic, s') => (.panic, s')

instance : Monad (Mut σ ε) where
  pure a := fun s => (.ok a, s)
  bind := bind

/-- A call that does not touch the state. -/
def lift (x : Outcome ε α) : Mut σ ε α := fun s => (x, s)

/-- The current state. -/
def get : Mut σ ε σ := fun s => (.ok s, s)

/-- Assigns to the state. -/
def modify (f : σ → σ) : Mut σ ε Unit := fun s => (.ok (), f s)

/-- `return Err(e)`. -/
def throw (e : ε) : Mut σ ε α := fun s => (.err e, s)

/-- A method of a field of the state, its error converted by the `?` operator. -/
def field (proj : σ → τ) (put : τ → σ → σ) (conv : ε' → ε) (m : Mut τ ε' α) : Mut σ ε α :=
  fun s => ((m (proj s)).1.mapErr conv, put (m (proj s)).2 s)

@[simp] lemma pure_apply (a : α) (s : σ) : (pure a : Mut σ ε α) s = (.ok a, s) := rfl

@[simp] lemma lift_apply (x : Outcome ε α) (s : σ) : (lift x : Mut σ ε α) s = (x, s) := rfl

@[simp] lemma get_apply (s : σ) : (get : Mut σ ε σ) s = (.ok s, s) := rfl

@[simp] lemma modify_apply (f : σ → σ) (s : σ) : (modify f : Mut σ ε Unit) s = (.ok (), f s) := rfl

@[simp] lemma throw_apply (e : ε) (s : σ) : (throw e : Mut σ ε α) s = (.err e, s) := rfl

/-- Sequencing after a call that returned a value. -/
lemma bind_of_ok {m : Mut σ ε α} {f : α → Mut σ ε β} {s s' : σ} {a : α} (h : m s = (.ok a, s')) :
    (m >>= f) s = f a s' := by
  change bind m f s = _
  simp only [bind, h]

/-- Sequencing after a call that returned an error. -/
lemma bind_of_err {m : Mut σ ε α} {f : α → Mut σ ε β} {s s' : σ} {e : ε}
    (h : m s = (.err e, s')) : (m >>= f) s = (.err e, s') := by
  change bind m f s = _
  simp only [bind, h]

/-- Sequencing after a call that panicked. -/
lemma bind_of_panic {m : Mut σ ε α} {f : α → Mut σ ε β} {s s' : σ} (h : m s = (.panic, s')) :
    (m >>= f) s = (.panic, s') := by
  change bind m f s = _
  simp only [bind, h]

/-- Sequencing is associative. -/
lemma bind_assoc {γ : Type} (m : Mut σ ε α) (f : α → Mut σ ε β) (g : β → Mut σ ε γ) :
    m >>= f >>= g = m >>= fun a => f a >>= g := by
  funext s
  change bind (bind m f) g s = bind m (fun a => bind (f a) g) s
  simp only [bind]
  obtain ⟨outcome, s'⟩ := m s
  cases outcome <;> rfl

/-- A method of a field that returned a value. -/
lemma field_of_ok {proj : σ → τ} {put : τ → σ → σ} {conv : ε' → ε} {m : Mut τ ε' α} {s : σ} {t : τ}
    {a : α} (h : m (proj s) = (.ok a, t)) : field proj put conv m s = (.ok a, put t s) := by
  rw [field, h]
  rfl

/-- A method of a field that panicked. -/
lemma field_of_panic {proj : σ → τ} {put : τ → σ → σ} {conv : ε' → ε} {m : Mut τ ε' α} {s : σ}
    {t : τ} (h : m (proj s) = (.panic, t)) : field proj put conv m s = (.panic, put t s) := by
  rw [field, h]
  rfl

/-- A computation returns a value, returns an error or panics. -/
lemma run_cases (m : Mut σ ε α) (s : σ) : (∃ a s', m s = (.ok a, s')) ∨
    (∃ e s', m s = (.err e, s')) ∨ ∃ s', m s = (.panic, s') := by
  obtain ⟨outcome, s'⟩ := m s
  cases outcome with
  | ok a => exact Or.inl ⟨a, s', rfl⟩
  | err e => exact Or.inr (Or.inl ⟨e, s', rfl⟩)
  | panic => exact Or.inr (Or.inr ⟨s', rfl⟩)

@[simp] lemma get_bind (f : σ → Mut σ ε β) (s : σ) : (get >>= f) s = f s s := rfl

@[simp] lemma modify_bind (g : σ → σ) (f : Unit → Mut σ ε β) (s : σ) :
    (modify g >>= f) s = f () (g s) := rfl

@[simp] lemma throw_bind (e : ε) (f : α → Mut σ ε β) (s : σ) :
    ((throw e : Mut σ ε α) >>= f) s = (.err e, s) := rfl

@[simp] lemma lift_ok_bind (a : α) (f : α → Mut σ ε β) (s : σ) :
    ((lift (.ok a) : Mut σ ε α) >>= f) s = f a s := rfl

@[simp] lemma lift_err_bind (e : ε) (f : α → Mut σ ε β) (s : σ) :
    ((lift (.err e) : Mut σ ε α) >>= f) s = (.err e, s) := rfl

@[simp] lemma lift_panic_bind (f : α → Mut σ ε β) (s : σ) :
    ((lift .panic : Mut σ ε α) >>= f) s = (.panic, s) := rfl

@[simp] lemma pure_bind_apply (a : α) (f : α → Mut σ ε β) (s : σ) :
    ((pure a : Mut σ ε α) >>= f) s = f a s := rfl

/-! ### Postconditions -/

/-- The method run from `s` ends in `Q` with a value, in `E` with an error, or in `P` with a
panic. -/
def wp (m : Mut σ ε α) (Q : α → σ → Prop) (E : ε → σ → Prop) (P : σ → Prop) (s : σ) : Prop :=
  match m s with
  | (.ok a, s') => Q a s'
  | (.err e, s') => E e s'
  | (.panic, s') => P s'

section Wp

variable {Q : α → σ → Prop} {E : ε → σ → Prop} {P : σ → Prop} {s : σ}

lemma wp_pure {a : α} (h : Q a s) : wp (pure a) Q E P s := h

lemma wp_throw {e : ε} (h : E e s) : wp (throw e) Q E P s := h

lemma wp_get {Q : σ → σ → Prop} (h : Q s s) : wp get Q E P s := h

lemma wp_modify {f : σ → σ} {Q : Unit → σ → Prop} (h : Q () (f s)) : wp (modify f) Q E P s := h

/-- Sequencing: an error or a panic of the first method is one of the whole. -/
lemma wp_bind {m : Mut σ ε β} {f : β → Mut σ ε α} (h : m.wp (fun b => (f b).wp Q E P) E P s) :
    (m >>= f).wp Q E P s := by
  unfold wp at h ⊢
  match hm : m s with
  | (.ok b, s') => simpa only [hm, bind_of_ok hm] using h
  | (.err e, s') => simpa only [hm, bind_of_err hm] using h
  | (.panic, s') => simpa only [hm, bind_of_panic hm] using h

/-- Weaker postconditions. -/
lemma wp_mono {m : Mut σ ε α} {Q' : α → σ → Prop} {E' : ε → σ → Prop} {P' : σ → Prop}
    (h : m.wp Q E P s) (hQ : ∀ a s', Q a s' → Q' a s') (hE : ∀ e s', E e s' → E' e s')
    (hP : ∀ s', P s' → P' s') : m.wp Q' E' P' s := by
  unfold wp at h ⊢
  match hm : m s with
  | (.ok a, s') => exact hQ a s' (by simpa only [hm] using h)
  | (.err e, s') => exact hE e s' (by simpa only [hm] using h)
  | (.panic, s') => exact hP s' (by simpa only [hm] using h)

/-- A sum that overflows panics, and leaves the state alone. -/
lemma wp_checkedAdd_of {a b : UInt64} {Q : UInt64 → σ → Prop}
    (hok : ∀ c, c.toNat = a.toNat + b.toNat → Q c s) (hP : 2 ^ 64 ≤ a.toNat + b.toNat → P s) :
    (lift (checkedAdd a b) : Mut σ ε UInt64).wp Q E P s := by
  unfold wp lift
  match hc : (checkedAdd a b : Outcome ε UInt64) with
  | .ok c => exact hok c (checkedAdd_eq_ok.mp hc)
  | .err e => simp [checkedAdd, ite_eq_iff] at hc
  | .panic =>
    refine hP (Nat.le_of_not_lt fun hlt => ?_)
    rw [(checkedAdd_of_lt (ε := ε) hlt).1] at hc
    cases hc

/-- A sum may overflow. -/
lemma wp_checkedAdd {a b : UInt64} {Q : UInt64 → σ → Prop}
    (hok : ∀ c, c.toNat = a.toNat + b.toNat → Q c s) (hP : P s) :
    (lift (checkedAdd a b) : Mut σ ε UInt64).wp Q E P s :=
  wp_checkedAdd_of hok fun _ => hP

end Wp

/-! ### Relations between the states before and after -/

/-- However the method ends, the state it leaves is related to the one it began in. -/
def Keeps (R : σ → σ → Prop) (m : Mut σ ε α) : Prop := ∀ s, R s (m s).2

section Keeps

variable {R : σ → σ → Prop}

/-- A method that leaves the state alone. -/
lemma Keeps.of_eq [Std.Refl R] {m : Mut σ ε α} (h : ∀ s, (m s).2 = s) : Keeps R m := by
  intro s
  rw [h]
  exact Std.Refl.refl s

lemma Keeps.modify {f : σ → σ} (h : ∀ s, R s (f s)) : Keeps R (modify f : Mut σ ε Unit) := h

/-- Sequencing, when the relation is transitive. -/
lemma Keeps.bind [IsTrans σ R] {m : Mut σ ε β} {f : β → Mut σ ε α} (hm : Keeps R m)
    (hf : ∀ b, Keeps R (f b)) : Keeps R (m >>= f) := by
  intro s
  have hs := hm s
  match h : m s with
  | (.ok b, s') =>
    rw [h] at hs
    rw [bind_of_ok h]
    exact IsTrans.trans _ _ _ hs (hf b s')
  | (.err e, s') =>
    rw [h] at hs
    rw [bind_of_err h]
    exact hs
  | (.panic, s') =>
    rw [h] at hs
    rw [bind_of_panic h]
    exact hs

/-- Reading the state first: what follows may depend on the state it is run from. -/
lemma Keeps.get_bind {f : σ → Mut σ ε α} (hf : ∀ s, R s (f s s).2) : Keeps R (get >>= f) := hf

end Keeps

end Mut

end Rust
