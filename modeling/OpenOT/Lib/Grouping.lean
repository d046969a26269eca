import Mathlib.Data.List.Basic
import Mathlib.Data.List.Forall2
import Mathlib.Data.List.Pairwise
import Mathlib.Order.Lattice

set_option relaxedAutoImplicit false
set_option autoImplicit false

/-!
# Grouping

A list of items with keys, and a list of keys in a given order. The list is the concatenation of one
group for each key exactly when its items have keys of that list, in that order.

## Main definitions

* `Grouping.Groups` — one group of items for each key.
* `Grouping.group` — the items of a key.
* `Grouping.positions` — where the items of a key stand.

## Main results

* `Grouping.flatten_group` — a sorted list is the concatenation of its groups.
* `Grouping.Groups.sorted` — the concatenation of groups is sorted.
* `Grouping.Groups.eq_group` — the groups are determined by their concatenation.
* `Grouping.Groups.positions` — the items of a key stand one behind the other.
-/

namespace Grouping

variable {α κ ρ : Type} {f : α → κ} {ks : List κ} {groups : List (List α)} {l : List α} {k : κ}

/-- One group of items for each key. -/
def Groups (f : α → κ) (ks : List κ) (groups : List (List α)) : Prop :=
  List.Forall₂ (fun k group => ∀ a ∈ group, f a = k) ks groups

/-- A group of a list of groups has a key. -/
lemma exists_of_forall₂ {β : Type} {R : κ → β → Prop} {bs : List β} (h : List.Forall₂ R ks bs)
    {b : β} (hb : b ∈ bs) : ∃ k ∈ ks, R k b := by
  induction h with
  | nil => cases hb
  | @cons k b' ks bs hfirst hrest ih =>
    rcases List.mem_cons.mp hb with rfl | hb
    · exact ⟨k, List.mem_cons_self, hfirst⟩
    · obtain ⟨k', hk', hR⟩ := ih hb
      exact ⟨k', List.mem_cons_of_mem _ hk', hR⟩

/-- A key in the middle of the keys has its group in the middle of the groups. -/
lemma exists_split_of_forall₂ {β : Type} {R : κ → β → Prop} {before after : List κ} {k : κ}
    {bs : List β} (h : List.Forall₂ R (before ++ k :: after) bs) :
    ∃ done b rest, bs = done ++ b :: rest ∧ R k b ∧ List.Forall₂ R after rest := by
  induction before generalizing bs with
  | nil =>
    obtain ⟨b, rest, hk, hrest, rfl⟩ := List.forall₂_cons_left_iff.mp h
    exact ⟨[], b, rest, rfl, hk, hrest⟩
  | cons k' before ih =>
    obtain ⟨b', bs, -, hbs, rfl⟩ := List.forall₂_cons_left_iff.mp h
    obtain ⟨done, b, rest, rfl, hk, hrest⟩ := ih hbs
    exact ⟨b' :: done, b, rest, rfl, hk, hrest⟩

/-- Every item has one of the keys. -/
lemma Groups.mem (h : Groups f ks groups) {a : α} (ha : a ∈ groups.flatten) : f a ∈ ks := by
  obtain ⟨group, hgroup, ha⟩ := List.mem_flatten.mp ha
  obtain ⟨k, hk, hall⟩ := exists_of_forall₂ h hgroup
  exact hall a ha ▸ hk

/-- **The concatenation of groups is sorted.** -/
lemma Groups.sorted [LinearOrder ρ] {rank : κ → ρ} (h : Groups f ks groups)
    (hks : ks.Pairwise fun k k' => rank k < rank k') :
    groups.flatten.Pairwise fun a b => rank (f a) ≤ rank (f b) := by
  induction h with
  | nil => simp
  | @cons k group ks groups hgroup hrest ih =>
    rw [List.pairwise_cons] at hks
    rw [List.flatten_cons, List.pairwise_append]
    refine ⟨List.pairwise_of_forall_mem_list fun a ha b hb => ?_, ih hks.2, fun a ha b hb => ?_⟩
    · rw [hgroup a ha, hgroup b hb]
    · rw [hgroup a ha]
      exact le_of_lt (hks.1 _ (Groups.mem hrest hb))

/-! ## The group of a key -/

variable [DecidableEq κ]

/-- The items of a key. -/
def group (f : α → κ) (l : List α) (k : κ) : List α := l.filter fun a => decide (f a = k)

lemma mem_group {a : α} : a ∈ group f l k ↔ a ∈ l ∧ f a = k := by
  simp [group]

@[simp] lemma group_append (l l' : List α) :
    group f (l ++ l') k = group f l k ++ group f l' k :=
  List.filter_append ..

/-- A list all of whose items have one key. -/
lemma group_eq_self (h : ∀ a ∈ l, f a = k) : group f l k = l :=
  List.filter_eq_self.mpr fun a ha => decide_eq_true (h a ha)

/-- A list without items of a key. -/
lemma group_eq_nil (h : ∀ a ∈ l, f a ≠ k) : group f l k = [] :=
  List.filter_eq_nil_iff.mpr fun a ha => by simp [h a ha]

/-- **The groups are determined by their concatenation.** -/
lemma Groups.eq_group (h : Groups f ks groups) (hks : ks.Nodup) :
    groups = ks.map (group f groups.flatten) := by
  induction h with
  | nil => rfl
  | @cons k first ks groups hgroup hrest ih =>
    rw [List.nodup_cons] at hks
    have hlater : group f groups.flatten k = [] :=
      group_eq_nil fun a ha heq => hks.1 (heq ▸ Groups.mem hrest ha)
    rw [List.map_cons, List.flatten_cons, group_append, group_eq_self hgroup, hlater,
      List.append_nil]
    refine congrArg (first :: ·) ((ih hks.2).trans (List.map_congr_left fun k' hk' => ?_))
    rw [group_append, group_eq_nil (l := first) fun a ha heq => ?_, List.nil_append]
    rw [hgroup a ha] at heq
    exact hks.1 (heq ▸ hk')

/-! ## Sorted lists -/

section Sorted

variable [LinearOrder ρ] {rank : κ → ρ}

/-- The items of a key below all others stand in front. -/
lemma group_append_filter (hmem : ∀ a ∈ l, f a ≠ k → rank k < rank (f a))
    (hsorted : l.Pairwise fun a b => rank (f a) ≤ rank (f b)) :
    group f l k ++ l.filter (fun a => decide (f a ≠ k)) = l := by
  induction l with
  | nil => rfl
  | cons a l ih =>
    rw [List.pairwise_cons] at hsorted
    by_cases ha : f a = k
    · rw [group, List.filter_cons_of_pos (by simpa using ha),
        List.filter_cons_of_neg (by simpa using ha), List.cons_append]
      exact congrArg (a :: ·) (ih (fun b hb => hmem b (List.mem_cons_of_mem _ hb)) hsorted.2)
    · have hlater : ∀ b ∈ a :: l, f b ≠ k := by
        intro b hb heq
        rcases List.mem_cons.mp hb with rfl | hb
        · exact ha heq
        · have hle := hsorted.1 b hb
          rw [heq] at hle
          exact absurd (hmem a List.mem_cons_self ha) (not_lt.mpr hle)
      rw [group_eq_nil hlater, List.nil_append, List.filter_eq_self]
      exact fun b hb => decide_eq_true (hlater b hb)

/-- **A sorted list is the concatenation of its groups.** -/
lemma flatten_group (hks : ks.Pairwise fun k k' => rank k < rank k') (hmem : ∀ a ∈ l, f a ∈ ks)
    (hsorted : l.Pairwise fun a b => rank (f a) ≤ rank (f b)) :
    (ks.map (group f l)).flatten = l := by
  induction ks generalizing l with
  | nil => simpa using List.eq_nil_iff_forall_not_mem.mpr fun a ha => by simpa using hmem a ha
  | cons k ks ih =>
    rw [List.pairwise_cons] at hks
    have hother : ∀ a ∈ l, f a ≠ k → f a ∈ ks := fun a ha hne =>
      (List.mem_cons.mp (hmem a ha)).resolve_left hne
    have hgroups : ks.map (group f l) =
        ks.map (group f (l.filter fun a => decide (f a ≠ k))) := by
      refine List.map_congr_left fun k' hk' => ?_
      have hne : k' ≠ k := fun heq => lt_irrefl (rank k) (heq ▸ hks.1 k' hk')
      rw [group, group, List.filter_filter]
      refine List.filter_congr fun a _ => ?_
      by_cases ha : f a = k' <;> simp [ha, hne]
    rw [List.map_cons, List.flatten_cons, hgroups, ih hks.2 (fun a ha => ?_) (hsorted.filter _)]
    · exact group_append_filter (fun a ha hne => hks.1 _ (hother a ha hne)) hsorted
    · rw [List.mem_filter] at ha
      exact hother a ha.1 (by simpa using ha.2)

end Sorted

/-! ## Positions -/

/-- Where the items of a key stand, when the list starts at a position. -/
def positions (f : α → κ) (k : κ) : ℕ → List α → List ℕ
  | _, [] => []
  | i, a :: l => if f a = k then i :: positions f k (i + 1) l else positions f k (i + 1) l

lemma positions_append (i : ℕ) (l l' : List α) :
    positions f k i (l ++ l') = positions f k i l ++ positions f k (i + l.length) l' := by
  induction l generalizing i with
  | nil => rfl
  | cons a l ih =>
    rw [List.cons_append, positions, positions, ih, List.length_cons, Nat.add_right_comm,
      Nat.add_assoc]
    split_ifs <;> rfl

/-- A list without items of a key. -/
lemma positions_eq_nil (i : ℕ) (h : ∀ a ∈ l, f a ≠ k) : positions f k i l = [] := by
  induction l generalizing i with
  | nil => rfl
  | cons a l ih =>
    rw [positions, if_neg (h a List.mem_cons_self)]
    exact ih _ fun b hb => h b (List.mem_cons_of_mem _ hb)

/-- A list all of whose items have one key. -/
lemma positions_eq_range' (i : ℕ) (h : ∀ a ∈ l, f a = k) :
    positions f k i l = List.range' i l.length := by
  induction l generalizing i with
  | nil => rfl
  | cons a l ih =>
    rw [positions, if_pos (h a List.mem_cons_self), List.length_cons, List.range'_succ]
    exact congrArg (i :: ·) (ih _ fun b hb => h b (List.mem_cons_of_mem _ hb))

/-- **The items of a key stand one behind the other.** -/
lemma Groups.positions (h : Groups f ks groups) (hks : ks.Nodup) (i : ℕ) :
    ∃ first count, Grouping.positions f k i groups.flatten = List.range' first count := by
  induction h generalizing i with
  | nil => exact ⟨0, 0, rfl⟩
  | @cons k' first ks groups hgroup hrest ih =>
    rw [List.nodup_cons] at hks
    rw [List.flatten_cons, positions_append]
    by_cases hk : k' = k
    · subst hk
      rw [positions_eq_range' i hgroup, positions_eq_nil _ fun a ha heq => ?_, List.append_nil]
      · exact ⟨_, _, rfl⟩
      · exact hks.1 (heq ▸ Groups.mem hrest ha)
    · rw [positions_eq_nil i fun a ha heq => hk ((hgroup a ha).symm.trans heq), List.nil_append]
      exact ih hks.2 _

end Grouping
