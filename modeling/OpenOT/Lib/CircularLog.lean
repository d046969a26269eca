import Mathlib.Data.List.Basic
import Mathlib.Data.List.Induction
import Mathlib.Data.Nat.ModEq
import Mathlib.Tactic.Ring

set_option relaxedAutoImplicit false
set_option autoImplicit false

/-!
# Logs laid out in a circular pool

A log of entries written to a pool of `cap` cells and addressed by ever-increasing absolute
offsets: cell `x` lives at index `x % cap`. An entry never crosses the pool's end. When it does
not fit behind the head, the rest of the pool is left as a gap, a blank cell at the head marks
it, and the entry starts at the next multiple of `cap`.

Nothing here knows who writes the pool or in which order; `Intact` says which cells a reader
can trust, given the oldest offset that is still protected.

## Main definitions

* `CircularLog.place` — where the next entry goes.
* `CircularLog.Laid` — the logs that placement produces.
* `CircularLog.Intact` — the pool holds the entries and the gap marks from an offset on.
* `CircularLog.Stands`, `CircularLog.At` — an offset where a walk over the log may stand.

## Main results

* `CircularLog.Laid.split` — every entry stands where `place` put it.
* `CircularLog.Laid.exists_start_of_mod_eq_zero` — every multiple of `cap` below the head is the
  start of an entry.
* `CircularLog.Intact.write` — writing the next entry keeps the pool intact.
* `CircularLog.At.of_prefix` — a position of a log is a position of its published prefix.
-/

namespace CircularLog

variable {α : Type}

/-- An entry: its absolute start and its cells. -/
structure Entry (α : Type) where
  start : ℕ
  data : List α
  deriving DecidableEq, Repr

/-- The offset one past the last cell of an entry. -/
def Entry.stop (e : Entry α) : ℕ := e.start + e.data.length

/-- The start of an entry of `len` cells when the head is at `head`: the head itself if the
entry fits before the pool's end, else the next multiple of `cap`. -/
def place (cap head len : ℕ) : ℕ :=
  if head % cap = 0 ∨ head % cap + len ≤ cap then head else head + (cap - head % cap)

/-- The head of a log: one past its last entry. -/
def headOf (log : List (Entry α)) : ℕ :=
  match log.getLast? with
  | none => 0
  | some e => e.stop

/-- The logs that placement produces, entry by entry. -/
inductive Laid (cap : ℕ) : List (Entry α) → Prop
  | nil : Laid cap []
  | snoc {log : List (Entry α)} {data : List α} (h : Laid cap log) (hpos : 0 < data.length)
      (hle : data.length ≤ cap) : Laid cap (log ++ [⟨place cap (headOf log) data.length, data⟩])

@[simp] lemma headOf_nil : headOf ([] : List (Entry α)) = 0 := rfl

@[simp] lemma headOf_concat (log : List (Entry α)) (e : Entry α) :
    headOf (log ++ [e]) = e.stop := by
  simp [headOf]

/-! ## Placement -/

section Place

variable {cap len : ℕ}

/-- The entry is placed at the head, or behind a gap at the next multiple of `cap`. -/
lemma place_cases (hcap : 0 < cap) (head len : ℕ) :
    place cap head len = head ∧ (head % cap = 0 ∨ head % cap + len ≤ cap) ∨
      head % cap ≠ 0 ∧ cap < head % cap + len ∧ place cap head len % cap = 0 ∧
        place cap head len = head + (cap - head % cap) := by
  unfold place
  split_ifs with h
  · exact Or.inl ⟨rfl, h⟩
  · rw [not_or, Nat.not_le] at h
    refine Or.inr ⟨h.1, h.2, ?_, rfl⟩
    have hlt := Nat.mod_lt head hcap
    have hdiv := Nat.div_add_mod head cap
    rw [show head + (cap - head % cap) = cap * (head / cap + 1) by rw [Nat.mul_add]; omega]
    exact Nat.mul_mod_right _ _

lemma le_place {head : ℕ} : head ≤ place cap head len := by
  unfold place
  split_ifs <;> omega

/-- A placed entry lies before the pool's end. -/
lemma place_mod_add_le (hcap : 0 < cap) (hlen : len ≤ cap) (head : ℕ) :
    place cap head len % cap + len ≤ cap := by
  rcases place_cases hcap head len with ⟨heq, h | h⟩ | ⟨-, -, hz, -⟩
  · rw [heq, h]
    omega
  · rw [heq]
    exact h
  · omega

end Place

/-- Offsets less than a pool apart live in different cells. -/
lemma mod_ne_of_lt_of_lt {cap x y : ℕ} (hxy : x < y) (hyx : y < x + cap) : x % cap ≠ y % cap := by
  intro h
  have hdvd : cap ∣ y - x := (Nat.modEq_iff_dvd' hxy.le).mp h
  have := Nat.le_of_dvd (by omega) hdvd
  omega

/-- Offsets of one entry live in consecutive cells. -/
lemma add_mod_of_lt {cap x i : ℕ} (h : x % cap + i < cap) : (x + i) % cap = x % cap + i := by
  rw [Nat.add_mod, Nat.mod_eq_of_lt (by omega : i < cap), Nat.mod_eq_of_lt h]

/-! ## Laid-out logs -/

namespace Laid

variable {cap : ℕ} {log done rest : List (Entry α)} {e : Entry α}

/-- The log before the last entry is laid out, and the last entry stands where it was placed. -/
lemma of_concat (h : Laid cap (log ++ [e])) :
    Laid cap log ∧ e.start = place cap (headOf log) e.data.length ∧ 0 < e.data.length ∧
      e.data.length ≤ cap := by
  generalize hfull : log ++ [e] = full at h
  cases h with
  | nil => simp at hfull
  | snoc h hpos hle =>
    obtain ⟨rfl, hlast⟩ := List.append_inj' hfull rfl
    obtain rfl := List.singleton_inj.mp hlast
    exact ⟨h, rfl, hpos, hle⟩

/-- A prefix of a laid-out log is laid out. -/
lemma of_append (h : Laid cap (done ++ rest)) : Laid cap done := by
  induction rest using List.reverseRecOn with
  | nil => simpa using h
  | append_singleton rest e ih => exact ih (of_concat (by rwa [List.append_assoc])).1

/-- **Every entry stands where it was placed.** -/
lemma split (h : Laid cap (done ++ e :: rest)) :
    Laid cap done ∧ e.start = place cap (headOf done) e.data.length ∧ 0 < e.data.length ∧
      e.data.length ≤ cap := by
  rw [List.append_cons] at h
  exact of_concat h.of_append

/-- An entry placed behind a prefix starts at or after the prefix's head. -/
lemma head_le_start (h : Laid cap (done ++ e :: rest)) : headOf done ≤ e.start := by
  rw [h.split.2.1]
  exact le_place

/-- The head of a prefix does not pass the head of the log. -/
lemma headOf_le (h : Laid cap (done ++ rest)) : headOf done ≤ headOf (done ++ rest) := by
  induction rest using List.reverseRecOn with
  | nil => simp
  | append_singleton rest e ih =>
    rw [← List.append_assoc] at h ⊢
    obtain ⟨hlog, hstart, -⟩ := h.of_concat
    have hle : headOf (done ++ rest) ≤ e.start := hstart ▸ le_place
    have := ih hlog
    rw [headOf_concat, Entry.stop]
    omega

/-- No entry passes the head. -/
lemma stop_le_head (h : Laid cap log) (he : e ∈ log) : e.stop ≤ headOf log := by
  obtain ⟨done, rest, rfl⟩ := List.append_of_mem he
  rw [List.append_cons] at h ⊢
  have := h.headOf_le
  rwa [headOf_concat] at this

/-- An entry starts before the head. -/
lemma start_lt_head (h : Laid cap log) (he : e ∈ log) : e.start < headOf log := by
  have hstop := h.stop_le_head he
  obtain ⟨done, rest, rfl⟩ := List.append_of_mem he
  have := h.split.2.2.1
  unfold Entry.stop at hstop
  omega

/-- An entry lies before the pool's end. -/
lemma start_mod_add_le (hcap : 0 < cap) (h : Laid cap log) (he : e ∈ log) :
    e.start % cap + e.data.length ≤ cap := by
  obtain ⟨done, rest, rfl⟩ := List.append_of_mem he
  obtain ⟨-, hstart, -, hle⟩ := h.split
  rw [hstart]
  exact place_mod_add_le hcap hle _

/-- The entries are in order and do not overlap. -/
lemma pairwise (h : Laid cap log) : log.Pairwise fun a b => a.stop ≤ b.start := by
  induction h with
  | nil => exact List.Pairwise.nil
  | snoc h hpos hle ih =>
    rw [List.pairwise_append]
    refine ⟨ih, List.pairwise_singleton _ _, fun a ha b hb => ?_⟩
    rw [List.mem_singleton.mp hb]
    exact (h.stop_le_head ha).trans le_place

/-- Entries behind a position start at or after the head of what stands before it. -/
lemma head_le_of_mem (h : Laid cap (done ++ rest)) (he : e ∈ rest) : headOf done ≤ e.start := by
  obtain ⟨mid, post, rfl⟩ := List.append_of_mem he
  rw [← List.append_assoc] at h
  exact (h.of_append).headOf_le.trans h.head_le_start

/-- No entry starts at or behind the head. -/
lemma filter_eq_nil (h : Laid cap log) {k : ℕ} (hk : headOf log ≤ k) :
    (log.filter fun e => decide (k ≤ e.start)) = [] := by
  rw [List.filter_eq_nil_iff]
  intro e he
  have := h.start_lt_head he
  simp
  omega

/-- Entries of a least length, counted from a floor on: they lie apart between it and the head. -/
lemma mul_length_filter_le (h : Laid cap log) {least floor : ℕ}
    (hleast : ∀ e ∈ log, least ≤ e.data.length) :
    least * (log.filter fun e => decide (floor ≤ e.start)).length ≤ headOf log - floor := by
  induction h with
  | nil => simp
  | @snoc log data h hpos hle ih =>
    have hlog := ih fun e he => hleast e (List.mem_append_left _ he)
    have hlast := hleast _ (List.mem_append_right _ List.mem_cons_self)
    have hplace : headOf log ≤ place cap (headOf log) data.length := le_place
    rw [List.filter_append, headOf_concat, Entry.stop]
    by_cases hfloor : floor ≤ place cap (headOf log) data.length
    · rw [List.filter_cons_of_pos (by simpa using hfloor), List.filter_nil, List.length_append,
        List.length_singleton, Nat.mul_succ]
      dsimp only at hlast ⊢
      omega
    · rw [List.filter_cons_of_neg (by simpa using hfloor), List.filter_nil, List.append_nil]
      dsimp only
      omega

/-- **The end of a log**: from an entry to the head it takes the room of the entries from there on
and of one more, for at most one gap stands between them.

**Proof sketch.** Induction on the entries behind it. While there is no gap, the head is at most
the lengths of the entries away. Behind a gap the head is, in the pool, at most the lengths of the
entries behind the gap away from the beginning of the pool, so that there is room for the others. -/
lemma head_le_start_add (hcap : 0 < cap) {len : ℕ} (h : Laid cap (done ++ e :: rest))
    (hlen : ∀ e' ∈ e :: rest, e'.data.length ≤ len) (hroom : (rest.length + 1) * len ≤ cap) :
    headOf (done ++ e :: rest) ≤ e.start + (rest.length + 2) * len := by
  have hinv : headOf (done ++ e :: rest) ≤ e.start + (rest.length + 1) * len ∨
      headOf (done ++ e :: rest) ≤ e.start + (rest.length + 2) * len ∧
        headOf (done ++ e :: rest) % cap ≤ rest.length * len := by
    induction rest using List.reverseRecOn with
    | nil =>
      rw [headOf_concat, Entry.stop]
      have := hlen e List.mem_cons_self
      simp only [List.length_nil]
      omega
    | append_singleton rest f ih =>
      rw [← List.cons_append, ← List.append_assoc] at h ⊢
      obtain ⟨hlog, hstart, -⟩ := h.of_concat
      have hf := hlen f (by simp)
      rw [List.length_append, List.length_singleton, Nat.add_one_mul] at hroom
      have hold := ih hlog (fun e' he' => hlen e' (by
        rcases List.mem_cons.mp he' with rfl | he'
        · exact List.mem_cons_self
        · exact List.mem_cons_of_mem _ (List.mem_append_left _ he'))) (by omega)
      rw [headOf_concat, Entry.stop, List.length_append, List.length_singleton, hstart]
      simp only [Nat.add_mul, Nat.one_mul] at hold hroom ⊢
      generalize headOf (done ++ e :: rest) = head at hold ⊢
      rcases place_cases hcap head f.data.length with ⟨heq, -⟩ | ⟨-, hover, hzero, heq⟩
      · rw [heq]
        have hmod : (head + f.data.length) % cap ≤ head % cap + f.data.length := by
          rw [← Nat.mod_add_mod]
          exact Nat.mod_le _ _
        omega
      · have hmod : (place cap head f.data.length + f.data.length) % cap ≤ f.data.length := by
          rw [← Nat.mod_add_mod, hzero, Nat.zero_add]
          exact Nat.mod_le _ _
        omega
  simp only [Nat.add_mul] at hinv ⊢
  omega

/-- **Every multiple of `cap` below the head is the start of an entry**: no entry crosses the
pool's end, and a gap leads to the next multiple.

**Proof sketch.** Induction on the log. A multiple below the old head is covered. Otherwise it
lies between the old head and the end of the new entry; it cannot lie inside the gap, whose end
is the first multiple, nor inside the entry, which would then cross the pool's end. -/
lemma exists_start_of_mod_eq_zero (hcap : 0 < cap) (h : Laid cap log) {m : ℕ}
    (hm : m % cap = 0) (hlt : m < headOf log) : ∃ e ∈ log, e.start = m := by
  induction h with
  | nil => simp at hlt
  | @snoc log data h hpos hle ih =>
    rcases Nat.lt_or_ge m (headOf log) with hold | hnew
    · obtain ⟨e, he, hstart⟩ := ih hold
      exact ⟨e, List.mem_append_left _ he, hstart⟩
    · refine ⟨_, List.mem_append_right _ (List.mem_singleton_self _), ?_⟩
      have hfit := place_mod_add_le hcap hle (headOf log)
      rw [headOf_concat, Entry.stop] at hlt
      simp only at hlt ⊢
      by_contra hne
      rcases Nat.lt_or_gt_of_ne hne with hin | hgap
      · -- inside the entry
        have hm' : m = place cap (headOf log) data.length +
            (m - place cap (headOf log) data.length) := by omega
        rw [hm', add_mod_of_lt (by omega)] at hm
        omega
      · -- inside the gap
        rcases place_cases hcap (headOf log) data.length with
          ⟨heq, -⟩ | ⟨hz, -, -, heq⟩
        · omega
        · have hm' : m = headOf log + (m - headOf log) := by omega
          rw [hm', add_mod_of_lt (by omega)] at hm
          omega

end Laid

/-! ## Keeping a suffix -/

section Suffix

variable {β : Type} {f : β → ℕ} {k : ℕ} {l : List β}

/-- In a list sorted by `f`, dropping from the front what lies below `k` keeps exactly what does
not. -/
lemma dropWhile_lt_eq_filter (h : l.Pairwise fun a b => f a ≤ f b) :
    l.dropWhile (fun b => decide (f b < k)) = l.filter fun b => decide (k ≤ f b) := by
  induction l with
  | nil => rfl
  | cons a l ih =>
    obtain ⟨ha, hl⟩ := List.pairwise_cons.mp h
    by_cases hk : f a < k
    · rw [List.dropWhile_cons_of_pos (by simpa using hk), ih hl,
        List.filter_cons_of_neg (by simpa using hk)]
    · rw [List.dropWhile_cons_of_neg (by simpa using hk)]
      refine (List.filter_eq_self.mpr fun b hb => ?_).symm
      rcases List.mem_cons.mp hb with rfl | hb
      · simpa using hk
      · have := ha b hb
        simp
        omega

/-- In a list sorted by `f`, the front below `k` is everything below `k`. -/
lemma takeWhile_lt_eq_filter (h : l.Pairwise fun a b => f a ≤ f b) :
    l.takeWhile (fun b => decide (f b < k)) = l.filter fun b => decide (f b < k) := by
  induction l with
  | nil => rfl
  | cons a l ih =>
    obtain ⟨ha, hl⟩ := List.pairwise_cons.mp h
    by_cases hk : f a < k
    · rw [List.takeWhile_cons_of_pos (by simpa using hk), ih hl,
        List.filter_cons_of_pos (by simpa using hk)]
    · rw [List.takeWhile_cons_of_neg (by simpa using hk)]
      refine (List.filter_eq_nil_iff.mpr fun b hb => ?_).symm
      rcases List.mem_cons.mp hb with rfl | hb
      · simpa using hk
      · have := ha b hb
        simp
        omega

end Suffix

/-- The starts of a laid-out log increase. -/
lemma Laid.pairwise_start_lt {cap : ℕ} {log : List (Entry α)} (h : Laid cap log) :
    log.Pairwise fun a b => a.start < b.start := by
  refine (List.Pairwise.and_mem.mp h.pairwise).imp ?_
  rintro a b ⟨ha, -, hab⟩
  obtain ⟨done, rest, rfl⟩ := List.append_of_mem ha
  have := h.split.2.2.1
  unfold Entry.stop at hab
  omega

/-- The starts of a laid-out log are in order. -/
lemma Laid.pairwise_start {cap : ℕ} {log : List (Entry α)} (h : Laid cap log) :
    log.Pairwise fun a b => a.start ≤ b.start :=
  h.pairwise_start_lt.imp Nat.le_of_lt

/-! ## Pools -/

/-- The pool holds the cells of an entry. -/
def Holds (cap : ℕ) (pool : List α) (e : Entry α) : Prop :=
  ∀ i < e.data.length, pool[(e.start + i) % cap]? = e.data[i]?

/-- An entry that the pool holds is a slice of it. -/
lemma Holds.slice {cap : ℕ} {pool : List α} {e : Entry α} (h : Holds cap pool e)
    (hfit : e.start % cap + e.data.length ≤ cap) :
    (pool.take (e.start % cap + e.data.length)).drop (e.start % cap) = e.data := by
  apply List.ext_getElem?
  intro i
  rw [List.getElem?_drop, List.getElem?_take]
  split_ifs with hi
  · have hlt : i < e.data.length := by omega
    rw [← h i hlt, add_mod_of_lt (by omega)]
  · rw [List.getElem?_eq_none (by omega)]

/-- The pool can be trusted from `oldest` on: it holds every entry that starts there or later,
and a blank cell at the start of every gap that lies there or later. -/
structure Intact (cap : ℕ) (blank : α) (log : List (Entry α)) (oldest : ℕ) (pool : List α) :
    Prop where
  length : pool.length = cap
  entry : ∀ e ∈ log, oldest ≤ e.start → Holds cap pool e
  gap : ∀ done e rest, log = done ++ e :: rest → oldest ≤ headOf done →
    headOf done ≠ e.start → pool[headOf done % cap]? = some blank

namespace Intact

variable {cap oldest oldest' : ℕ} {blank : α} {log : List (Entry α)} {pool pool' : List α}

/-- Protecting less keeps what is still protected. -/
lemma mono (h : Intact cap blank log oldest pool) (hle : oldest ≤ oldest') :
    Intact cap blank log oldest' pool where
  length := h.length
  entry e he ho := h.entry e he (hle.trans ho)
  gap done e rest heq ho hne := h.gap done e rest heq (hle.trans ho) hne

/-- What holds a log holds its beginning. -/
lemma of_append {more : List (Entry α)} (h : Intact cap blank (log ++ more) oldest pool) :
    Intact cap blank log oldest pool where
  length := h.length
  entry e he := h.entry e (List.mem_append_left _ he)
  gap done e rest heq := h.gap done e (rest ++ more) (by rw [heq, List.append_assoc]; rfl)

/-- Changing cells outside the protected offsets keeps them intact. -/
lemma of_agree (h : Intact cap blank log oldest pool) (hlaid : Laid cap log)
    (hlen : pool'.length = cap)
    (hagree : ∀ x, oldest ≤ x → x < headOf log → pool'[x % cap]? = pool[x % cap]?) :
    Intact cap blank log oldest pool' where
  length := hlen
  entry e he ho i hi := by
    have hstop := hlaid.stop_le_head he
    unfold Entry.stop at hstop
    rw [hagree _ (by omega) (by omega)]
    exact h.entry e he ho i hi
  gap done e rest heq ho hne := by
    subst heq
    have hmem : e ∈ done ++ e :: rest := by simp
    have := hlaid.head_le_start
    have := hlaid.start_lt_head hmem
    rw [hagree _ ho (by omega)]
    exact h.gap done e rest rfl ho hne

/-- Once the next entry and the mark of its gap are in the pool, the longer log is intact. -/
lemma snoc {e : Entry α} (h : Intact cap blank log oldest pool) (hnew : Holds cap pool e)
    (hgap : oldest ≤ headOf log → headOf log ≠ e.start →
      pool[headOf log % cap]? = some blank) :
    Intact cap blank (log ++ [e]) oldest pool where
  length := h.length
  entry a ha ho := by
    rcases List.mem_append.mp ha with hold | hlast
    · exact h.entry a hold ho
    · rw [List.mem_singleton.mp hlast]
      exact hnew
  gap done a rest heq ho hne := by
    rcases List.eq_nil_or_concat rest with rfl | ⟨rest', b, rfl⟩
    · obtain ⟨rfl, hlast⟩ := List.append_inj' heq rfl
      obtain rfl := List.singleton_inj.mp hlast
      exact hgap ho hne
    · rw [List.concat_eq_append, ← List.cons_append, ← List.append_assoc] at heq
      obtain ⟨rfl, -⟩ := List.append_inj' heq rfl
      exact h.gap done a rest' rfl ho hne

end Intact

/-- The cells of the next entry, and of the mark of its gap, are less than a pool ahead of every
offset that the new head still protects. -/
lemma mod_ne_of_place {cap head len x y : ℕ} (hx : x < head)
    (hfloor : place cap head len + len ≤ x + cap) (hy : head ≤ y)
    (hy' : y < place cap head len + len) : x % cap ≠ y % cap :=
  mod_ne_of_lt_of_lt (by omega) (by omega)

/-! ## Writing the next entry -/

/-- The pool with `data` copied over its cells from index `i` on. -/
def overwrite (pool : List α) (i : ℕ) (data : List α) : List α :=
  pool.take i ++ data ++ pool.drop (i + data.length)

@[simp] lemma length_overwrite {pool data : List α} {i : ℕ} (h : i + data.length ≤ pool.length) :
    (overwrite pool i data).length = pool.length := by
  simp [overwrite]
  omega

/-- The cells of a pool after a copy. -/
lemma getElem?_overwrite {pool data : List α} {i : ℕ} (h : i + data.length ≤ pool.length) (j : ℕ) :
    (overwrite pool i data)[j]? =
      if i ≤ j ∧ j < i + data.length then data[j - i]? else pool[j]? := by
  have hi : (pool.take i).length = i := by
    simp
    omega
  unfold overwrite
  rw [List.append_assoc]
  rcases Nat.lt_or_ge j i with hlt | hge
  · rw [List.getElem?_append_left (by omega), List.getElem?_take, if_pos hlt, if_neg (by omega)]
  · rw [List.getElem?_append_right (by omega), hi]
    rcases Nat.lt_or_ge j (i + data.length) with hin | hout
    · rw [List.getElem?_append_left (by omega), if_pos ⟨hge, hin⟩]
    · rw [List.getElem?_append_right (by omega), List.getElem?_drop, if_neg (by omega)]
      congr 1
      omega

/-- Copying cell after cell. -/
lemma overwrite_set {pool data : List α} {a : α} {i : ℕ} (h : i + 1 + data.length ≤ pool.length) :
    overwrite (pool.set i a) (i + 1) data = overwrite pool i (a :: data) := by
  apply List.ext_getElem?
  intro j
  rw [getElem?_overwrite (by simpa using h), getElem?_overwrite (by simp; omega), List.length_cons]
  rcases Nat.lt_trichotomy j i with hlt | rfl | hgt
  · rw [if_neg (by omega), if_neg (by omega), List.getElem?_set_ne (by omega)]
  · rw [if_neg (by omega), if_pos (by omega), List.getElem?_set_self (by omega), Nat.sub_self]
    rfl
  · by_cases hin : j < i + (data.length + 1)
    · rw [if_pos (by omega), if_pos (by omega), show j - i = (j - (i + 1)) + 1 by omega,
        List.getElem?_cons_succ]
    · rw [if_neg (by omega), if_neg (by omega), List.getElem?_set_ne (by omega)]

/-- The pool with the blank at the head, if the next entry goes behind a gap. -/
def markGap (cap : ℕ) (blank : α) (head len : ℕ) (pool : List α) : List α :=
  if place cap head len = head then pool else pool.set (head % cap) blank

@[simp] lemma length_markGap (cap : ℕ) (blank : α) (head len : ℕ) (pool : List α) :
    (markGap cap blank head len pool).length = pool.length := by
  unfold markGap
  split_ifs <;> simp

/-- Marking the gap changes at most the cell at the head. -/
lemma getElem?_markGap {cap head len : ℕ} {blank : α} {pool : List α} {j : ℕ}
    (hj : j ≠ head % cap) : (markGap cap blank head len pool)[j]? = pool[j]? := by
  unfold markGap
  split_ifs
  · rfl
  · exact List.getElem?_set_ne (Ne.symm hj)

/-- The pool after the next entry has been written. -/
def writeEntry (cap : ℕ) (blank : α) (head : ℕ) (data pool : List α) : List α :=
  overwrite (markGap cap blank head data.length pool) (place cap head data.length % cap) data

section WriteEntry

variable {cap head : ℕ} {blank : α} {data pool : List α}

lemma length_writeEntry (hcap : 0 < cap) (hlen : pool.length = cap) (hle : data.length ≤ cap) :
    (writeEntry cap blank head data pool).length = cap := by
  have := place_mod_add_le hcap hle head
  rw [writeEntry, length_overwrite (by simpa [hlen] using this), length_markGap, hlen]

/-- The written entry is in the pool. -/
lemma holds_writeEntry (hcap : 0 < cap) (hlen : pool.length = cap) (hle : data.length ≤ cap) :
    Holds cap (writeEntry cap blank head data pool) ⟨place cap head data.length, data⟩ := by
  have hfit := place_mod_add_le hcap hle head
  intro i hi
  simp only at hi ⊢
  rw [writeEntry, getElem?_overwrite (by simpa [hlen] using hfit), add_mod_of_lt (by omega),
    if_pos (by omega), Nat.add_sub_cancel_left]

/-- The mark of the gap is in the pool if the new head still protects it. (Otherwise the entry
itself may cover it.) -/
lemma mark_writeEntry (hcap : 0 < cap) (hlen : pool.length = cap) (hle : data.length ≤ cap)
    (hfloor : place cap head data.length + data.length ≤ head + cap)
    (hne : head ≠ place cap head data.length) :
    (writeEntry cap blank head data pool)[head % cap]? = some blank := by
  have hfit := place_mod_add_le hcap hle head
  have hlt := Nat.mod_lt head hcap
  rcases place_cases hcap head data.length with ⟨heq, -⟩ | ⟨-, -, hz, heq⟩
  · exact absurd heq.symm hne
  · rw [writeEntry, getElem?_overwrite (by simpa [hlen] using hfit), if_neg (by omega), markGap,
      if_neg (Ne.symm hne), List.getElem?_set_self (by omega)]

/-- Cells that the new head still protects are not touched. -/
lemma writeEntry_agree (hcap : 0 < cap) (hlen : pool.length = cap) (hle : data.length ≤ cap)
    (hpos : 0 < data.length) {x : ℕ} (hx : x < head)
    (hfloor : place cap head data.length + data.length ≤ x + cap) :
    (writeEntry cap blank head data pool)[x % cap]? = pool[x % cap]? := by
  have hfit := place_mod_add_le hcap hle head
  have hle' : head ≤ place cap head data.length := le_place
  rw [writeEntry, getElem?_overwrite (by simpa [hlen] using hfit), if_neg,
    getElem?_markGap (mod_ne_of_place hx hfloor le_rfl (by omega))]
  rintro ⟨hlo, hhi⟩
  set i := x % cap - place cap head data.length % cap with hi
  have hcell : (place cap head data.length + i) % cap = x % cap := by
    rw [add_mod_of_lt (by omega)]
    omega
  exact mod_ne_of_place hx hfloor (by omega : head ≤ place cap head data.length + i) (by omega)
    hcell.symm

end WriteEntry

/-- **Writing the next entry keeps the pool intact**, provided the offsets that stay protected
are less than a pool behind the new head. -/
lemma Intact.write {cap oldest oldest' : ℕ} {blank : α} {log : List (Entry α)}
    {data pool : List α} (h : Intact cap blank log oldest pool) (hcap : 0 < cap)
    (hlaid : Laid cap log) (hpos : 0 < data.length) (hle : data.length ≤ cap)
    (hold : oldest ≤ oldest')
    (hfloor : place cap (headOf log) data.length + data.length ≤ oldest' + cap) :
    Intact cap blank (log ++ [⟨place cap (headOf log) data.length, data⟩]) oldest'
      (writeEntry cap blank (headOf log) data pool) := by
  refine ((h.mono hold).of_agree hlaid (length_writeEntry hcap h.length hle) ?_).snoc
    (holds_writeEntry hcap h.length hle) fun ho => mark_writeEntry hcap h.length hle (by omega)
  intro x hx hlt
  exact writeEntry_agree hcap h.length hle hpos hlt (by omega)

/-! ## Walks -/

/-- A walk that has passed `done` and has `rest` ahead stands at `abs`: the head of what it has
passed, or the start of the next entry. -/
def Stands (done : List (Entry α)) (abs : ℕ) (rest : List (Entry α)) : Prop :=
  abs = headOf done ∨ ∃ e post, rest = e :: post ∧ abs = e.start

/-- A walk over `log` may stand at `abs` with the entries `rest` ahead. -/
def At (log : List (Entry α)) (abs : ℕ) (rest : List (Entry α)) : Prop :=
  ∃ done, log = done ++ rest ∧ Stands done abs rest

namespace Stands

variable {cap abs : ℕ} {done rest : List (Entry α)} {e : Entry α}

/-- The walk does not stand behind the next entry. -/
lemma le_start (h : Stands done abs (e :: rest)) (hlaid : Laid cap (done ++ e :: rest)) :
    abs ≤ e.start := by
  rcases h with h | ⟨e', post, h', h⟩
  · exact h ▸ hlaid.head_le_start
  · obtain ⟨rfl, rfl⟩ := List.cons.inj h'
    exact h.le

/-- The walk does not stand before the head of what it has passed. -/
lemma head_le (h : Stands done abs rest) (hlaid : Laid cap (done ++ rest)) : headOf done ≤ abs := by
  rcases h with h | ⟨e, post, rfl, h⟩
  · exact h.ge
  · exact h ▸ hlaid.head_le_start

/-- A walk in front of a gap stands at its beginning, and the gap leads to the next multiple of
`cap`. -/
lemma gap (h : Stands done abs (e :: rest)) (hcap : 0 < cap) (hlaid : Laid cap (done ++ e :: rest))
    (hne : abs ≠ e.start) :
    abs = headOf done ∧ abs % cap ≠ 0 ∧ e.start = abs + (cap - abs % cap) := by
  rcases h with habs | ⟨e', post, h', habs⟩
  · obtain ⟨-, hstart, -⟩ := hlaid.split
    rcases place_cases hcap (headOf done) e.data.length with ⟨heq, -⟩ | ⟨hz, -, -, heq⟩
    · exact absurd (habs.trans (heq.symm.trans hstart.symm)) hne
    · refine ⟨habs, ?_, ?_⟩
      · rw [habs]
        exact hz
      · rw [hstart, heq, habs]
  · obtain ⟨rfl, rfl⟩ := List.cons.inj h'
    exact absurd habs hne

/-- A walk that has reached the head has nothing ahead. -/
lemma rest_eq_nil (h : Stands done abs rest) (hlaid : Laid cap (done ++ rest))
    (hle : headOf (done ++ rest) ≤ abs) : rest = [] := by
  rcases rest with _ | ⟨e, post⟩
  · rfl
  · have hlt := hlaid.start_lt_head (show e ∈ done ++ e :: post by simp)
    have := h.le_start hlaid
    omega

end Stands

namespace At

variable {cap abs : ℕ} {log more rest post : List (Entry α)} {e : Entry α}

/-- Every log can be walked from its beginning. -/
lemma zero (log : List (Entry α)) : At log 0 log := ⟨[], rfl, Or.inl rfl⟩

/-- The head of a prefix is a position. -/
lemma headOf_append (done rest : List (Entry α)) : At (done ++ rest) (headOf done) rest :=
  ⟨done, rfl, Or.inl rfl⟩

/-- The start of an entry is a position. -/
lemma start (done rest : List (Entry α)) (e : Entry α) : At (done ++ e :: rest) e.start (e :: rest) :=
  ⟨done, rfl, Or.inr ⟨e, rest, rfl, rfl⟩⟩

/-- Positions stay positions when the log grows. -/
lemma append (h : At log abs rest) : At (log ++ more) abs (rest ++ more) := by
  obtain ⟨done, rfl, h | ⟨e, post, rfl, h⟩⟩ := h
  · exact ⟨done, List.append_assoc _ _ _, Or.inl h⟩
  · exact ⟨done, List.append_assoc _ _ _, Or.inr ⟨e, post ++ more, rfl, h⟩⟩

/-- From the start of an entry the walk goes on behind it. -/
lemma next (h : At log abs (e :: rest)) : At log e.stop rest := by
  obtain ⟨done, rfl, -⟩ := h
  rw [List.append_cons, ← headOf_concat done e]
  exact headOf_append _ _

/-- With nothing ahead the walk has reached the head. -/
lemma eq_head (h : At log abs []) : abs = headOf log := by
  obtain ⟨done, rfl, h | ⟨e, post, h, -⟩⟩ := h
  · simpa using h
  · simp at h

/-- The walk does not stand behind the next entry. -/
lemma le_start (h : At log abs (e :: rest)) (hlaid : Laid cap log) : abs ≤ e.start := by
  obtain ⟨done, rfl, h⟩ := h
  exact h.le_start hlaid

/-- No position lies behind the head. -/
lemma le_head (h : At log abs rest) (hlaid : Laid cap log) : abs ≤ headOf log := by
  obtain ⟨done, rfl, h | ⟨e, post, rfl, h⟩⟩ := h
  · exact h ▸ hlaid.headOf_le
  · exact h ▸ (hlaid.start_lt_head (by simp)).le

/-- The entries ahead are exactly those that start at or after the position. -/
lemma rest_eq_filter (h : At log abs rest) (hlaid : Laid cap log) :
    rest = log.filter fun e => decide (abs ≤ e.start) := by
  obtain ⟨done, rfl, habs⟩ := h
  have hdone : done.filter (fun e => decide (abs ≤ e.start)) = [] :=
    hlaid.of_append.filter_eq_nil (habs.head_le hlaid)
  have hrest : rest.filter (fun e => decide (abs ≤ e.start)) = rest := by
    rw [List.filter_eq_self]
    intro a ha
    rcases habs with h | ⟨e, post, rfl, h⟩
    · have := hlaid.head_le_of_mem ha
      simp
      omega
    · rcases List.mem_cons.mp ha with rfl | hpost
      · simp [h]
      · have := (List.pairwise_append.mp hlaid.pairwise_start).2.1
        have := (List.pairwise_cons.mp this).1 a hpost
        simp
        omega
  rw [List.filter_append, hdone, hrest, List.nil_append]

/-- A walk in front of a gap. -/
lemma gap (h : At log abs (e :: rest)) (hcap : 0 < cap) (hlaid : Laid cap log)
    (hne : abs ≠ e.start) :
    ∃ done, log = done ++ e :: rest ∧ abs = headOf done ∧ abs % cap ≠ 0 ∧
      e.start = abs + (cap - abs % cap) := by
  obtain ⟨done, rfl, h⟩ := h
  exact ⟨done, rfl, h.gap hcap hlaid hne⟩

/-- A position below the head of a published prefix is a position of that prefix. -/
lemma of_prefix (h : At (log ++ more) abs rest) (hlaid : Laid cap (log ++ more))
    (hlt : abs < headOf log) : ∃ rest', rest = rest' ++ more ∧ At log abs rest' := by
  obtain ⟨done, heq, habs⟩ := h
  have hle : headOf done ≤ abs := habs.head_le (heq ▸ hlaid)
  rcases List.append_eq_append_iff.mp heq with ⟨mid, rfl, rfl⟩ | ⟨mid, rfl, rfl⟩
  · -- the walk has passed the prefix: its head would be at or below `abs`
    rw [← List.append_assoc] at hlaid
    have := hlaid.of_append.headOf_le
    omega
  · refine ⟨mid, rfl, done, rfl, ?_⟩
    rcases habs with h | ⟨e, post, hrest, h⟩
    · exact Or.inl h
    · cases mid with
      | nil =>
        rw [List.append_nil] at hlt
        have : headOf done ≤ e.start := by
          rw [List.nil_append] at hrest
          subst hrest
          rw [List.append_nil] at hlaid
          exact hlaid.head_le_start
        omega
      | cons a mid =>
        obtain ⟨rfl, -⟩ := List.cons.inj hrest
        exact Or.inr ⟨_, mid, rfl, h⟩

end At

end CircularLog
