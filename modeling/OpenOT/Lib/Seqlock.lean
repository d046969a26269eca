import OpenOT.Lib.Outcome
import Mathlib.Data.List.Infix

set_option relaxedAutoImplicit false
set_option autoImplicit false

/-!
# Sequence locks

One writer changes a protected value in updates: it announces an update, changes the value as it
likes, and commits. The *count* of announcements and commits is odd during an update. A reader
compares the count before and after its loads, of which it sees the remainder for some modulus
only, since the counter wraps.

## Main definitions

* `Seqlock` — the committed values, the value now, and whether an update is under way.
* `Seqlock.count` — the number of announcements and commits.
* `Seqlock.Later` — how the writer moves.

## Main results

* `Seqlock.later_announce`, `Seqlock.later_write`, `Seqlock.later_commit` — the writer's steps.
* `Seqlock.Later.eq_of_mod` — an even count that seems not to have changed has not changed, unless
  the counter went all the way round.
* `Seqlock.Later.frozen` — what a reader has seen in between was there all the time.
-/

/-- A value that one writer changes in updates. -/
structure Seqlock (W : Type) where
  /-- the initial value and the value after every update completed, in order -/
  committed : List W
  /-- the value now -/
  current : W
  /-- an update is under way -/
  updating : Bool

namespace Seqlock

variable {W : Type} {s s₁ s₂ s₃ : Seqlock W}

/-- The number of announcements and commits, counting the initial value as two. -/
def count (s : Seqlock W) : ℕ := 2 * s.committed.length + if s.updating then 1 else 0

/-- Between updates the value is the one committed last. -/
def Valid (s : Seqlock W) : Prop := s.updating = false → s.committed.getLast? = some s.current

/-- Announces an update. -/
def announce (s : Seqlock W) : Seqlock W := { s with updating := true }

/-- Changes the value. -/
def write (s : Seqlock W) (w : W) : Seqlock W := { s with current := w }

/-- Completes the update. -/
def commit (s : Seqlock W) : Seqlock W := ⟨s.committed ++ [s.current], s.current, false⟩

/-- The writer has moved on from `s₁` to `s₂`. -/
structure Later (s₁ s₂ : Seqlock W) : Prop where
  valid : s₂.Valid
  committed : s₁.committed <+: s₂.committed
  count : s₁.count ≤ s₂.count

lemma Later.refl (h : s.Valid) : s.Later s := ⟨h, List.prefix_rfl, le_rfl⟩

lemma Later.trans (h₁₂ : s₁.Later s₂) (h₂₃ : s₂.Later s₃) : s₁.Later s₃ :=
  ⟨h₂₃.valid, h₁₂.committed.trans h₂₃.committed, h₁₂.count.trans h₂₃.count⟩

/-! ## The steps of the writer -/

/-- An announcement is counted. -/
lemma count_announce (h : s.updating = false) : s.announce.count = s.count + 1 := by
  unfold Seqlock.count
  rw [h]
  rfl

/-- A commit is counted. -/
lemma count_commit (h : s.updating = true) : s.commit.count = s.count + 1 := by
  unfold Seqlock.count commit
  rw [h, List.length_append, List.length_singleton, Nat.mul_add]
  rfl

lemma later_announce (h : s.updating = false) : s.Later s.announce :=
  ⟨by simp [Valid, announce], List.prefix_rfl, (count_announce h).symm ▸ Nat.le_succ _⟩

lemma later_write (h : s.updating = true) (w : W) : s.Later (s.write w) :=
  ⟨by simp [Valid, write, h], List.prefix_rfl, le_rfl⟩

lemma later_commit (h : s.updating = true) : s.Later s.commit :=
  ⟨by simp [Valid, commit], List.prefix_append _ _, (count_commit h).symm ▸ Nat.le_succ _⟩

/-! ## What a reader can conclude -/

/-- The count is even exactly between updates. -/
lemma count_even_iff : s.count % 2 = 0 ↔ s.updating = false := by
  unfold Seqlock.count
  cases s.updating <;> simp

/-- **The count did not change** if it was even, looks the same modulo `2 * m`, and fewer than `m`
updates were completed in between. -/
lemma Later.eq_of_mod {m : ℕ} (h : s₁.Later s₂) (hquiet : s₁.updating = false)
    (hmod : s₁.count % (2 * m) = s₂.count % (2 * m))
    (hfew : s₂.committed.length < s₁.committed.length + m) : s₁.count = s₂.count := by
  have heven : s₂.updating = false := by
    rw [← count_even_iff] at hquiet ⊢
    have h₁ := Nat.mod_mod_of_dvd s₁.count (Nat.dvd_mul_right 2 m)
    have h₂ := Nat.mod_mod_of_dvd s₂.count (Nat.dvd_mul_right 2 m)
    omega
  have hle := h.count
  simp only [Seqlock.count, hquiet, heven, Bool.false_eq_true, if_false, Nat.add_zero,
    Nat.mul_mod_mul_left] at hmod hle ⊢
  obtain ⟨n, hn⟩ := Nat.exists_eq_add_of_le (Nat.le_of_mul_le_mul_left hle (by omega))
  have hzero : n % m = 0 := by
    rw [hn] at hmod
    have := Nat.sub_mod_eq_zero_of_mod_eq (Nat.eq_of_mul_eq_mul_left (by omega) hmod.symm)
    rwa [Nat.add_sub_cancel_left] at this
  rw [Nat.mod_eq_of_lt (by omega)] at hzero
  omega

/-- **A count that did not change froze the value**: whenever the reader looked in between, there
was no update under way and the value was the one at the end. -/
lemma Later.frozen (h₁₂ : s₁.Later s₂) (h₂₃ : s₂.Later s₃)
    (hquiet : s₁.updating = false) (hcount : s₁.count = s₃.count) :
    s₃.updating = false ∧ s₂.current = s₃.current ∧ s₃.committed.getLast? = some s₃.current := by
  have hcount₂ : s₁.count = s₂.count := le_antisymm h₁₂.count (hcount ▸ h₂₃.count)
  have heven := count_even_iff.mpr hquiet
  have hquiet₂ : s₂.updating = false := count_even_iff.mp (hcount₂ ▸ heven)
  have hquiet₃ : s₃.updating = false := count_even_iff.mp (hcount ▸ heven)
  have hlen : s₂.committed.length = s₃.committed.length := by
    have : s₂.count = s₃.count := hcount₂ ▸ hcount
    simp only [Seqlock.count, hquiet₂, hquiet₃] at this
    omega
  have hsame : s₂.committed = s₃.committed := h₂₃.committed.eq_of_length hlen
  have hlast₃ := h₂₃.valid hquiet₃
  have hlast₂ := h₁₂.valid hquiet₂
  rw [hsame, hlast₃] at hlast₂
  exact ⟨hquiet₃, (Option.some.inj hlast₂).symm, hlast₃⟩

end Seqlock
