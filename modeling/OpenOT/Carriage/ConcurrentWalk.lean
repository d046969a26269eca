import OpenOT.Carriage.Concurrent
import OpenOT.Carriage.WireFormat
import OpenOT.Lib.CircularLog
import Mathlib.Data.List.Forall2

set_option relaxedAutoImplicit false
set_option autoImplicit false

/-!
# The raw walk under interference

What one poll can do while a producer keeps appending. The producer's side is abstract here: a
`View` of the shared memory has a published log, an append in progress, the pool and the oldest
offset, and moves only forward. The walk stands at positions of the log it saw at its snapshot.
Whatever it loads at offset `abs` is right as long as the oldest offset has not passed `abs`; once
it has, the walk is *dirty*, and either runs into an error at `abs` or skips to the next multiple
of the capacity, and the re-check of the oldest offset at its end refuses the batch.

## Main definitions

* `OpenOT.View`, `OpenOT.View.Valid`, `OpenOT.View.Later` — the shared memory, its invariant and
  how it moves.
* `OpenOT.Delivers` — a delivered record is the decoding of an appended entry.
* `OpenOT.Crosses` — the loads on which the walk reports a record that crosses the pool's end.
* `OpenOT.PollEnds` — the ways a poll can end.

## Main results

* `OpenOT.wp_readRawLoop` — the walk, from any position.
* `OpenOT.wp_readRawFromStore` — one read, from the snapshot to the final re-check.
* `OpenOT.wp_poll` — one poll.
-/

namespace OpenOT

open Rust CircularLog Shared

/-! ## Views of the shared memory -/

/-- What the producer has put into the shared memory: the entries below the published head, the
entry being appended (if any), the pool and the oldest offset. -/
structure View where
  published : List (Entry UInt8)
  pending : List (Entry UInt8)
  bytes : Bytes
  oldestAbs : ℕ

/-- Every entry begun so far. -/
def View.log (v : View) : List (Entry UInt8) := v.published ++ v.pending

/-- The invariant of the shared memory: entries are laid out and are records, the pool can be
trusted from the oldest offset on, that offset is a position of the log, and once something is
published the pool begins with a sync byte. -/
structure View.Valid (cap : ℕ) (v : View) : Prop where
  laid : Laid cap v.log
  decodes : ∀ e ∈ v.log, ∃ record, Decodes e.data record
  intact : Intact cap 0 v.published v.oldestAbs v.bytes
  oldest_at : ∃ rest, At v.log v.oldestAbs rest
  first : v.published ≠ [] → v.bytes[0]? = some 0x4F

/-- How the shared memory moves: entries are begun and published in order, and the oldest offset
does not go back. -/
structure View.Later (v v' : View) : Prop where
  published : v.published <+: v'.published
  log : v.log <+: v'.log
  oldest : v.oldestAbs ≤ v'.oldestAbs

lemma View.Later.refl (v : View) : v.Later v :=
  ⟨List.prefix_refl _, List.prefix_refl _, le_rfl⟩

lemma View.Later.trans {v₁ v₂ v₃ : View} (h : v₁.Later v₂) (h' : v₂.Later v₃) : v₁.Later v₃ :=
  ⟨h.published.trans h'.published, h.log.trans h'.log, h.oldest.trans h'.oldest⟩

/-- A position stays a position. -/
lemma View.Later.at {v v' : View} (h : v.Later v') {abs : ℕ} {rest : List (Entry UInt8)}
    (hat : At v.log abs rest) : ∃ rest, At v'.log abs rest := by
  obtain ⟨more, hmore⟩ := h.log
  exact ⟨_, hmore ▸ hat.append⟩

/-- A record is the decoding of an entry, with its span. -/
structure Delivers (r : ReadRecord) (e : Entry UInt8) : Prop where
  start : r.startAbs = e.start
  stop : r.endAbs = e.stop
  decodes : Decodes e.data r.record

section Related

variable {records : List ReadRecord} {entries : List (Entry UInt8)}

/-- Every delivered record has its entry, and every entry its record. -/
lemma exists_delivers (h : List.Forall₂ Delivers records entries) :
    (∀ r ∈ records, ∃ e ∈ entries, Delivers r e) ∧
      ∀ e ∈ entries, ∃ r ∈ records, Delivers r e := by
  induction h with
  | nil => simp
  | @cons r e records entries hr _ ih =>
    refine ⟨fun r' hr' => ?_, fun e' he' => ?_⟩
    · rcases List.mem_cons.mp hr' with rfl | hmem
      · exact ⟨e, List.mem_cons_self, hr⟩
      · obtain ⟨e', he', hdel⟩ := ih.1 r' hmem
        exact ⟨e', List.mem_cons_of_mem _ he', hdel⟩
    · rcases List.mem_cons.mp he' with rfl | hmem
      · exact ⟨r, List.mem_cons_self, hr⟩
      · obtain ⟨r', hr', hdel⟩ := ih.2 e' hmem
        exact ⟨r', List.mem_cons_of_mem _ hr', hdel⟩

/-- Records of entries in order are in order. -/
lemma pairwise_delivers (h : List.Forall₂ Delivers records entries)
    (hsorted : entries.Pairwise fun a b => a.start < b.start) :
    records.Pairwise fun a b => a.startAbs < b.startAbs := by
  induction h with
  | nil => exact .nil
  | @cons r e records entries hr hrest ih =>
    obtain ⟨hhead, htail⟩ := List.pairwise_cons.mp hsorted
    refine List.pairwise_cons.mpr ⟨fun r' hr' => ?_, ih htail⟩
    obtain ⟨e', he', hdel⟩ := (exists_delivers hrest).1 r' hr'
    rw [hr.start, hdel.start]
    exact hhead e' he'

end Related

section Walk

variable {κ σ : Type} {value : κ → Type} {cap : ℕ} {env : Env (Load κ) (Load.Value value) σ}
  {view : σ → View}

/-- The loads see the pool and the oldest offset of the view, and the memory moves as views do. -/
structure Observes (env : Env (Load κ) (Load.Value value) σ) (view : σ → View) (cap : ℕ) :
    Prop where
  oldest : ∀ s, env.read .oldest s = (view s).oldestAbs
  byte : ∀ phys s, env.read (.byte phys) s = index (view s).bytes phys
  firstByte : ∀ abs phys s, env.read (.firstByte abs phys) s = index (view s).bytes phys
  lengthHigh : ∀ abs phys low s, env.read (.lengthHigh abs phys low) s = index (view s).bytes phys
  rely : ∀ {s s'}, env.rely s s' → (view s').Valid cap ∧ (view s).Later (view s')

/-- The loads on which the walk reports a record that crosses the pool's end: a byte that is not
a gap mark too close to the end for a header, or a length that reaches over the end. -/
def Crosses (cap : ℕ) : (load : Load κ) → load.Value value → Prop
  | .firstByte abs _, v => ∃ b, v = .ok b ∧ b ≠ 0 ∧ cap < abs % cap + HEADER_LEN
  | .lengthHigh abs _ low, v => ∃ high, v = .ok high ∧ HEADER_LEN ≤ fromLe [low, high] ∧
      cap < abs % cap + fromLe [low, high]
  | _, _ => False

instance (cap : ℕ) (load : Load κ) (v : load.Value value) : Decidable (Crosses cap load v) :=
  match load, v with
  | .firstByte abs _, .ok b =>
    decidable_of_iff (b ≠ 0 ∧ cap < abs % cap + HEADER_LEN)
      ⟨fun h => ⟨b, rfl, h⟩, fun ⟨_, hb, h⟩ => Outcome.ok.inj hb ▸ h⟩
  | .firstByte _ _, .err _ => isFalse fun ⟨_, h, _⟩ => nomatch h
  | .firstByte _ _, .panic => isFalse fun ⟨_, h, _⟩ => nomatch h
  | .lengthHigh abs _ low, .ok high =>
    decidable_of_iff (HEADER_LEN ≤ fromLe [low, high] ∧ cap < abs % cap + fromLe [low, high])
      ⟨fun h => ⟨high, rfl, h⟩, fun ⟨_, hhigh, h⟩ => Outcome.ok.inj hhigh ▸ h⟩
  | .lengthHigh _ _ _, .err _ => isFalse fun ⟨_, h, _⟩ => nomatch h
  | .lengthHigh _ _ _, .panic => isFalse fun ⟨_, h, _⟩ => nomatch h
  | .head, _ => isFalse id
  | .oldest, _ => isFalse id
  | .lost, _ => isFalse id
  | .byte _, _ => isFalse id
  | .control _, _ => isFalse id

/-! ## Single loads -/

section Loads

variable {s : σ} {phys : ℕ} {E : RingError → σ → Prop}

/-- A byte of a valid pool. -/
lemma View.Valid.exists_byte {v : View} (h : v.Valid cap) (hphys : phys < cap) :
    ∃ b, v.bytes[phys]? = some b :=
  ⟨_, List.getElem?_eq_getElem (h.intact.length.symm ▸ hphys)⟩

lemma wp_loadByte (hobs : Observes env view cap) (hphys : phys < cap) {Q : UInt8 → σ → Prop}
    (h : ∀ s' b, env.rely s s' → (view s').bytes[phys]? = some b → Q b s') :
    (loadByte phys : Attempt (Load κ) (Load.Value value) RingError UInt8).wp env Q E s := by
  intro s' hrely _
  obtain ⟨b, hb⟩ := (hobs.rely hrely).1.exists_byte hphys
  have hread : env.read (.byte phys) s' = Outcome.ok b := by
    rw [hobs.byte]
    exact index_eq_ok.mpr hb
  rw [hread]
  exact h s' b hrely hb

lemma wp_loadFirst (hobs : Observes env view cap) (hphys : phys < cap) {abs : ℕ}
    {Q : UInt8 → σ → Prop}
    (h : ∀ s' b, env.rely s s' → (view s').bytes[phys]? = some b →
      env.admits (.firstByte abs phys) (Outcome.ok b) → Q b s') :
    (loadFirst abs phys : Attempt (Load κ) (Load.Value value) RingError UInt8).wp env Q E s := by
  intro s' hrely hadm
  obtain ⟨b, hb⟩ := (hobs.rely hrely).1.exists_byte hphys
  have hread : env.read (.firstByte abs phys) s' = Outcome.ok b := by
    rw [hobs.firstByte]
    exact index_eq_ok.mpr hb
  rw [hread] at hadm ⊢
  exact h s' b hrely hb hadm

lemma wp_loadLengthHigh (hobs : Observes env view cap) (hphys : phys < cap) {abs : ℕ}
    {low : UInt8} {Q : UInt8 → σ → Prop}
    (h : ∀ s' b, env.rely s s' → (view s').bytes[phys]? = some b →
      env.admits (.lengthHigh abs phys low) (Outcome.ok b) → Q b s') :
    (loadLengthHigh abs phys low : Attempt (Load κ) (Load.Value value) RingError UInt8).wp env Q
      E s := by
  intro s' hrely hadm
  obtain ⟨b, hb⟩ := (hobs.rely hrely).1.exists_byte hphys
  have hread : env.read (.lengthHigh abs phys low) s' = Outcome.ok b := by
    rw [hobs.lengthHigh]
    exact index_eq_ok.mpr hb
  rw [hread] at hadm ⊢
  exact h s' b hrely hb hadm

lemma wp_loadOldest (hobs : Observes env view cap) {Q : ℕ → σ → Prop}
    (h : ∀ s', env.rely s s' → Q (view s').oldestAbs s') :
    (loadOldest : Attempt (Load κ) (Load.Value value) RingError ℕ).wp env Q E s := by
  intro s' hrely _
  rw [hobs.oldest]
  exact h s' hrely

end Loads

/-- The view of `s'` is valid and later than that of `s`. -/
def Moves (view : σ → View) (cap : ℕ) (s s' : σ) : Prop :=
  (view s').Valid cap ∧ (view s).Later (view s')

lemma Moves.trans {s₁ s₂ s₃ : σ} (h : Moves view cap s₁ s₂) (h' : Moves view cap s₂ s₃) :
    Moves view cap s₁ s₃ := ⟨h'.1, h.2.trans h'.2⟩

/-- A published entry that the oldest offset has not passed can be read byte by byte. -/
lemma View.Valid.entry_byte {v : View} (h : v.Valid cap) (hcap : 0 < cap) {e : Entry UInt8}
    (he : e ∈ v.published) (hge : v.oldestAbs ≤ e.start) {i : ℕ} (hi : i < e.data.length) :
    v.bytes[e.start % cap + i]? = e.data[i]? := by
  have hfit := h.laid.start_mod_add_le hcap (List.mem_append_left _ he)
  rw [← h.intact.entry e he hge i hi, add_mod_of_lt (by omega)]

/-- A gap mark that the oldest offset has not passed is in the pool. -/
lemma View.Valid.gap_mark {v : View} (h : v.Valid cap) (hcap : 0 < cap)
    {P done post : List (Entry UInt8)} {e : Entry UInt8} {abs : ℕ} (hP : P <+: v.published)
    (hPeq : P = done ++ e :: post) (hstands : Stands done abs (e :: post))
    (hge : v.oldestAbs ≤ abs) (hne : abs ≠ e.start) : v.bytes[abs % cap]? = some 0 := by
  obtain ⟨more, hmore⟩ := hP
  have hlaid : Laid cap P := by
    have := h.laid
    rw [View.log, ← hmore, List.append_assoc] at this
    exact this.of_append
  have hintact : Intact cap 0 P v.oldestAbs v.bytes :=
    (show Intact cap 0 (P ++ more) v.oldestAbs v.bytes from hmore ▸ h.intact).of_append
  obtain ⟨hhead, -, -⟩ := hstands.gap hcap (hPeq ▸ hlaid) hne
  rw [hhead]
  exact hintact.gap done e post hPeq (hhead ▸ hge) (hhead ▸ hne)

/-- Loading consecutive bytes: they are those of every entry there that the oldest offset has not
passed when the last of them is loaded. -/
lemma wp_loadBytes (hobs : Observes env view cap) (hcap : 0 < cap) {s : σ} {phys n : ℕ}
    (hs : (view s).Valid cap) (hn : phys + n ≤ cap) {E : RingError → σ → Prop}
    {Q : Bytes → σ → Prop}
    (h : ∀ s' bytes, Moves view cap s s' →
      (∀ e ∈ (view s).published, ∀ o, e.start % cap + o = phys → o + n ≤ e.data.length →
        (view s').oldestAbs ≤ e.start → bytes = (e.data.drop o).take n) → Q bytes s') :
    (loadBytes phys n : Attempt (Load κ) (Load.Value value) RingError Bytes).wp env Q E s := by
  induction n generalizing s phys Q with
  | zero =>
    refine Attempt.wp_pure (h s [] ⟨hs, .refl _⟩ ?_)
    intro e _ o _ _ _
    rw [List.take_zero]
  | succ n ih =>
    refine Attempt.wp_bind (wp_loadByte hobs (by omega) fun s₁ b hrely hb => ?_)
    have hmove₁ : Moves view cap s s₁ := hobs.rely hrely
    refine Attempt.wp_bind (ih hmove₁.1 (by omega) fun s₂ bytes hmove₂ hbytes => ?_)
    refine Attempt.wp_pure (h s₂ (b :: bytes) (hmove₁.trans hmove₂) ?_)
    intro e he o ho hlen hge
    have he₁ : e ∈ (view s₁).published := hmove₁.2.published.subset he
    have hge₁ : (view s₁).oldestAbs ≤ e.start := hmove₂.2.oldest.trans hge
    have hfirst : e.data[o]? = some b := by
      rw [← hb, ← hmove₁.1.entry_byte hcap he₁ hge₁ (by omega), ho]
    obtain ⟨hlt, hget⟩ := List.getElem?_eq_some_iff.mp hfirst
    rw [hbytes e he₁ (o + 1) (by omega) (by omega) hge, List.drop_eq_getElem_cons hlt,
      List.take_succ_cons, hget]

/-! ## The walk -/

/-- The walk over the log `P` that began at `first` stands at `abs` with `records` in hand: it has
collected exactly the entries from `first` on that it has passed, or the oldest offset has passed
`first`. -/
def Walks (P : List (Entry UInt8)) (first abs : ℕ) (records : List ReadRecord) (v : View) : Prop :=
  first ≤ abs ∧ ∃ done rest, P = done ++ rest ∧
    (headOf P ≤ abs ∧ rest = [] ∨ Stands done abs rest) ∧
    (first < v.oldestAbs ∨
      List.Forall₂ Delivers records (done.filter fun e => decide (first ≤ e.start)))

/-- Errors of the walk that a poll which began at `cursor` recovers from, and the one it does not:
a record that crosses the pool's end, reported on a load that crosses it. -/
def Recoverable (env : Env (Load κ) (Load.Value value) σ) (view : σ → View) (cap cursor : ℕ) :
    RingError → σ → Prop
  | .overwrittenMidRead _ oldest, s =>
    cursor < oldest ∧ oldest ≤ (view s).oldestAbs ∧ ∃ rest, At (view s).log oldest rest
  | .wire _, s => cursor < (view s).oldestAbs
  | .controlBlock _, _ => True
  | .recordCrossesBoundary _, _ => ∃ load v, env.admits load v ∧ Crosses cap load v
  | _, _ => False

section Steps

variable {P done post : List (Entry UInt8)} {first abs : ℕ} {records : List ReadRecord}
  {e : Entry UInt8} {v v' : View}

/-- The walk has read the entry it stands at. -/
lemma Walks.record {r : ReadRecord} (hP : P = done ++ e :: post) (hle : first ≤ e.start)
    (hseen : first < v.oldestAbs ∨
      List.Forall₂ Delivers records (done.filter fun e => decide (first ≤ e.start)))
    (hlater : v.Later v') (hr : Delivers r e) : Walks P first e.stop (records ++ [r]) v' := by
  have hstop : e.start ≤ e.stop := Nat.le_add_right _ _
  refine ⟨by omega, done ++ [e], post, by rw [hP]; simp, Or.inr (Or.inl ?_), ?_⟩
  · rw [headOf_concat]
  · rcases hseen with hdirty | hseen
    · exact Or.inl (hdirty.trans_le hlater.oldest)
    · right
      rw [List.filter_append, List.filter_cons_of_pos (by simpa using hle), List.filter_nil]
      exact List.rel_append hseen (List.Forall₂.cons hr .nil)

/-- The walk has followed a blank byte to the next multiple of the capacity. It is a gap mark, or
the oldest offset has passed the walk. -/
lemma Walks.skip (hcap : 0 < cap) (hlaid : Laid cap P) (hP : P = done ++ e :: post)
    (hstands : Stands done abs (e :: post)) (hle : first ≤ abs)
    (hseen : first < v.oldestAbs ∨
      List.Forall₂ Delivers records (done.filter fun e => decide (first ≤ e.start)))
    (hlater : v.Later v') (hclean : v'.oldestAbs ≤ abs → abs ≠ e.start) :
    Walks P first (abs + (cap - abs % cap)) records v' := by
  have hlt := Nat.mod_lt abs hcap
  by_cases hgap : abs = e.start
  · -- the oldest offset has passed: the walk goes on at the multiple, if it is below the head
    have hdirty : first < v'.oldestAbs := by
      by_contra hnot
      exact hclean (by omega) hgap
    refine ⟨by omega, ?_⟩
    rcases Nat.lt_or_ge (abs + (cap - abs % cap)) (headOf P) with hbelow | habove
    · have hmul : (abs + (cap - abs % cap)) % cap = 0 := by
        rw [show abs + (cap - abs % cap) = cap * (abs / cap + 1) by
          have := Nat.div_add_mod abs cap
          rw [Nat.mul_add]
          omega]
        exact Nat.mul_mod_right _ _
      obtain ⟨e', he', hstart⟩ := hlaid.exists_start_of_mod_eq_zero hcap hmul hbelow
      obtain ⟨done', post', rfl⟩ := List.append_of_mem he'
      exact ⟨done', e' :: post', rfl, Or.inr (Or.inr ⟨e', post', rfl, hstart.symm⟩), Or.inl hdirty⟩
    · exact ⟨P, [], by simp, Or.inl ⟨habove, rfl⟩, Or.inl hdirty⟩
  · obtain ⟨-, -, hstart⟩ := hstands.gap hcap (hP ▸ hlaid) hgap
    refine ⟨by omega, done, e :: post, hP, Or.inr (Or.inr ⟨e, post, rfl, hstart.symm⟩), ?_⟩
    exact hseen.imp_left fun hdirty => hdirty.trans_le hlater.oldest

end Steps

/-- **The walk.** From any position of the log `P` seen at the snapshot, the loop ends behind its
head with the entries it passed, or with the oldest offset beyond where it began, or with an error
of the kinds `Recoverable` lists.

**Proof sketch.** Induction on the distance to the head. At `abs`, every load is right unless the
oldest offset has passed `abs` by then; so each check of the source either passes, as it does on
the entry at `abs`, or fails only after the oldest offset has passed `abs`. The re-check behind
the copy catches the rest. -/
lemma wp_readRawLoop (hobs : Observes env view cap) (hcap : 0 < cap) {P : List (Entry UInt8)}
    {first firstOldest cursor : ℕ} (hfirst : firstOldest ≤ first) (hcursor : cursor ≤ first) :
    ∀ (n abs : ℕ) (records : List ReadRecord) (s : σ), headOf P - abs ≤ n → (view s).Valid cap →
      P <+: (view s).published → Walks P first abs records (view s) →
      (readRawLoop cap (headOf P) firstOldest abs records).wp env
        (fun records s' => Moves view cap s s' ∧
          ∃ abs, headOf P ≤ abs ∧ Walks P first abs records (view s'))
        (Recoverable env view cap cursor) s := by
  intro n
  induction n with
  | zero =>
    intro abs records s hn hs hP hw
    rw [readRawLoop, if_neg (by omega)]
    exact Attempt.wp_pure ⟨⟨hs, .refl _⟩, abs, by omega, hw⟩
  | succ n ih =>
    intro abs records s hn hs hP hw
    by_cases hlt : abs < headOf P
    swap
    · rw [readRawLoop, if_neg hlt]
      exact Attempt.wp_pure ⟨⟨hs, .refl _⟩, abs, by omega, hw⟩
    obtain ⟨hle, done, rest, hPeq, hpos, hseen⟩ := hw
    rw [readRawLoop, if_pos hlt, if_neg (by omega), if_neg (by omega)]
    -- the walk is below the head, so it stands in front of an entry
    obtain ⟨e, post, rfl, hstands⟩ : ∃ e post, rest = e :: post ∧ Stands done abs rest := by
      rcases hpos with ⟨habove, -⟩ | hstands
      · omega
      · rcases rest with _ | ⟨e, post⟩
        · rcases hstands with hhead | ⟨e, post, hnil, -⟩
          · rw [hPeq, List.append_nil] at hlt
            omega
          · simp at hnil
        · exact ⟨e, post, rfl, hstands⟩
    have hlaid : Laid cap P := by
      obtain ⟨more, hmore⟩ := hP.trans (List.prefix_append _ (view s).pending)
      exact (show Laid cap (P ++ more) from hmore ▸ hs.laid).of_append
    have heP : e ∈ P := by
      rw [hPeq]
      simp
    have he : e ∈ (view s).published := hP.subset heP
    obtain ⟨record, hdec⟩ := hs.decodes e (List.mem_append_left _ he)
    obtain ⟨hforty, hsync, hlength⟩ := hdec.header
    unfold HEADER_LEN at hforty
    have hphys := Nat.mod_lt abs hcap
    have hfit := hlaid.start_mod_add_le hcap heP
    refine Attempt.wp_bind (wp_loadFirst hobs hphys fun s₁ b hrely₁ hb hadm₁ => ?_)
    have hmove₁ : Moves view cap s s₁ := hobs.rely hrely₁
    have hP₁ : P <+: (view s₁).published := hP.trans hmove₁.2.published
    by_cases hzero : b = 0
    · -- the pool begins with a sync byte, so this is not its first byte
      have hphys0 : abs % cap ≠ 0 := by
        intro hphys0
        have := hmove₁.1.first (List.ne_nil_of_mem (hP₁.subset heP))
        rw [hphys0, this, Option.some.injEq, hzero] at hb
        exact absurd hb (by decide)
      have hclean : (view s₁).oldestAbs ≤ abs → abs ≠ e.start := by
        intro hge heq
        subst heq
        have := hmove₁.1.entry_byte hcap (hP₁.subset heP) hge (show 0 < e.data.length by omega)
        rw [Nat.add_zero, hb, hdec.head_ne_zero, hzero] at this
        exact absurd this (by decide)
      have hnext := ih _ records s₁ (by omega) hmove₁.1 hP₁
        (Walks.skip hcap hlaid hPeq hstands hle hseen hmove₁.2 hclean)
      rw [if_pos hzero, if_neg hphys0]
      exact Attempt.wp_mono hnext (fun _ _ h => ⟨hmove₁.trans h.1, h.2⟩) fun _ _ h => h
    rw [if_neg hzero]
    by_cases hcross : cap < abs % cap + HEADER_LEN
    · rw [if_pos hcross]
      exact Attempt.wp_throw ⟨_, _, hadm₁, b, rfl, hzero, hcross⟩
    rw [if_neg hcross]
    -- from here on: as long as the oldest offset has not passed, the walk reads the entry `e`
    have hentry : (view s₁).oldestAbs ≤ abs → abs = e.start := by
      intro hge
      by_contra hne
      rw [hmove₁.1.gap_mark hcap hP₁ hPeq hstands hge hne, Option.some.injEq] at hb
      exact hzero hb.symm
    unfold HEADER_LEN at hcross
    refine Attempt.wp_bind
      (wp_loadBytes hobs hcap hmove₁.1 (by omega) fun s₂ sync hmove₂ hbytes₂ => ?_)
    have hsync₂ : (view s₂).oldestAbs ≤ abs → sync = SYNC := by
      intro hge
      obtain rfl := hentry (hmove₂.2.oldest.trans hge)
      rw [hbytes₂ e (hP₁.subset heP) 0 rfl (by omega) hge, List.drop_zero, hsync]
    by_cases hwrong : sync ≠ SYNC
    · rw [if_pos hwrong]
      refine Attempt.wp_throw (show cursor < (view s₂).oldestAbs from ?_)
      by_contra hnot
      exact hwrong (hsync₂ (by omega))
    rw [if_neg hwrong]
    refine Attempt.wp_bind (wp_loadByte hobs (by omega) fun s₃ low hrely₃ hlow => ?_)
    have hmove₃ : Moves view cap s₂ s₃ := hobs.rely hrely₃
    refine Attempt.wp_bind
      (wp_loadLengthHigh hobs (by omega) fun s₄ high hrely₄ hhigh hadm₄ => ?_)
    have hmove₄ : Moves view cap s₃ s₄ := hobs.rely hrely₄
    have hmove₁₄ : Moves view cap s₁ s₄ := (hmove₂.trans hmove₃).trans hmove₄
    have hlen₄ : (view s₄).oldestAbs ≤ abs → fromLe [low, high] = e.data.length := by
      intro hge
      obtain rfl := hentry (hmove₁₄.2.oldest.trans hge)
      have he₃ : e ∈ (view s₃).published :=
        ((hP₁.trans hmove₂.2.published).trans hmove₃.2.published).subset heP
      have hl := hmove₃.1.entry_byte hcap he₃ (hmove₄.2.oldest.trans hge)
        (show 4 < e.data.length by omega)
      have hh := hmove₄.1.entry_byte hcap (hmove₄.2.published.subset he₃) hge
        (show 5 < e.data.length by omega)
      rw [hlow] at hl
      rw [hhigh] at hh
      obtain ⟨h4, hl⟩ := List.getElem?_eq_some_iff.mp hl.symm
      obtain ⟨h5, hh⟩ := List.getElem?_eq_some_iff.mp hh.symm
      rw [← hlength, List.drop_eq_getElem_cons h4, List.drop_eq_getElem_cons h5, hl, hh]
      rfl
    dsimp only
    by_cases hshort : fromLe [low, high] < HEADER_LEN
    · rw [if_pos hshort]
      refine Attempt.wp_throw (show cursor < (view s₄).oldestAbs from ?_)
      by_contra hnot
      have := hlen₄ (by omega)
      unfold HEADER_LEN at hshort
      omega
    rw [if_neg hshort]
    by_cases hover : cap < abs % cap + fromLe [low, high]
    · rw [if_pos hover]
      exact Attempt.wp_throw ⟨_, _, hadm₄, high, rfl, Nat.not_lt.mp hshort, hover⟩
    rw [if_neg hover]
    refine Attempt.wp_bind
      (wp_loadBytes hobs hcap hmove₄.1 (by omega) fun s₅ bytes hmove₅ hbytes₅ => ?_)
    refine Attempt.wp_bind (wp_loadOldest hobs fun s₆ hrely₆ => ?_)
    have hmove₆ : Moves view cap s₅ s₆ := hobs.rely hrely₆
    have hmove : Moves view cap s s₆ := ((hmove₁.trans hmove₁₄).trans hmove₅).trans hmove₆
    by_cases hpassed : abs < (view s₆).oldestAbs
    · rw [if_pos hpassed]
      exact Attempt.wp_throw ⟨by omega, le_rfl, hmove₆.1.oldest_at⟩
    rw [if_neg hpassed]
    -- the oldest offset has not passed: the bytes are those of the entry
    have hge₅ : (view s₅).oldestAbs ≤ abs := hmove₆.2.oldest.trans (by omega)
    have hge₄ : (view s₄).oldestAbs ≤ abs := hmove₅.2.oldest.trans hge₅
    have htotal := hlen₄ hge₄
    obtain rfl := hentry (hmove₁₄.2.oldest.trans hge₄)
    have hdata : bytes = e.data := by
      rw [hbytes₅ e ((hP₁.trans hmove₁₄.2.published).subset heP) 0 rfl (by omega) hge₅, htotal,
        List.drop_zero, List.take_length]
    refine Attempt.wp_bind (Attempt.wp_lift_ok (a := ⟨record, e.data.length⟩) ?_ ?_)
    · rw [hdata, hdec]
      rfl
    have hdeliver : Delivers ⟨e.start, e.start + e.data.length, record⟩ e := ⟨rfl, rfl, hdec⟩
    have hnext := ih (e.start + e.data.length) _ s₆ (by omega) hmove₆.1
      (hP.trans hmove.2.published) (Walks.record hPeq hle hseen hmove.2 hdeliver)
    rw [htotal]
    exact Attempt.wp_mono hnext (fun _ _ h => ⟨hmove.trans h.1, h.2⟩) fun _ _ h => h

/-! ## One read and one poll -/

/-- A control snapshot taken from `s` to `s'`: the head of the log `P` that was published at some
moment in between, and the oldest offset at some moment in between. -/
structure SnapshotOf (view : σ → View) (cap : ℕ) (s : σ) (snapshot : ControlBlockSnapshot)
    (P : List (Entry UInt8)) (s' : σ) : Prop where
  moves : Moves view cap s s'
  capacity : snapshot.bufferBytes.toNat = cap
  head : snapshot.headAbs = headOf P
  before : (view s).published <+: P
  after : P <+: (view s').published
  oldest : snapshot.oldestAbs ≤ (view s').oldestAbs
  oldest_at : ∃ rest, At (view s').log snapshot.oldestAbs rest

/-- A batch read from `cursor`: the entries of the log `P` from `first` on, where `first` is the
cursor or an offset that the oldest offset has reached. -/
structure BatchOf (cursor : ℕ) (P : List (Entry UInt8)) (first : ℕ) (batch : ReadBatch)
    (v v' : View) : Prop where
  next : batch.nextAbs = headOf P
  before : v.published <+: P
  after : P <+: v'.published
  cursor_le : cursor ≤ first
  first_le : first = cursor ∨ first ≤ v'.oldestAbs
  records : List.Forall₂ Delivers batch.records (P.filter fun e => decide (first ≤ e.start))

/-- A walk may begin at any position of the log it sees, or behind its head. -/
lemma Walks.begin {P more : List (Entry UInt8)} {first : ℕ} {v : View}
    (hlaid : Laid cap (P ++ more)) (hat : ∃ rest, At (P ++ more) first rest) :
    Walks P first first [] v := by
  refine ⟨le_rfl, ?_⟩
  rcases Nat.lt_or_ge first (headOf P) with hlt | hge
  · obtain ⟨rest, hat⟩ := hat
    obtain ⟨rest', -, done, hPeq, hstands⟩ := hat.of_prefix hlaid hlt
    refine ⟨done, rest', hPeq, Or.inr hstands, Or.inr ?_⟩
    have hP := hlaid.of_append
    rw [hPeq] at hP
    rw [hP.of_append.filter_eq_nil (hstands.head_le hP)]
    exact .nil
  · refine ⟨P, [], by simp, Or.inl ⟨hge, rfl⟩, Or.inr ?_⟩
    rw [hlaid.of_append.filter_eq_nil hge]
    exact .nil

/-- A walk that has reached the head of its log and whose beginning the oldest offset has not
passed holds every entry from its beginning on. -/
lemma Walks.finish {P : List (Entry UInt8)} {first abs : ℕ} {records : List ReadRecord} {v : View}
    (h : Walks P first abs records v) (hlaid : Laid cap P) (habs : headOf P ≤ abs)
    (hclean : v.oldestAbs ≤ first) :
    List.Forall₂ Delivers records (P.filter fun e => decide (first ≤ e.start)) := by
  obtain ⟨-, done, rest, rfl, hpos, hseen⟩ := h
  have hrest : rest = [] := by
    rcases hpos with ⟨-, hnil⟩ | hstands
    · exact hnil
    · exact hstands.rest_eq_nil hlaid habs
  subst hrest
  rw [List.append_nil]
  exact hseen.resolve_left (by omega)

/-- **One read.** From a cursor that is a position of the log, a read returns every entry between
its beginning and the head of its snapshot, or ends with an error that a poll can tell apart.

**Proof sketch.** The walk (`wp_readRawLoop`) ends behind the head of the snapshot. If the oldest
offset has passed its beginning, it is beyond both the cursor and the oldest offset of the
snapshot, so the final re-check refuses the batch; otherwise the walk holds every entry. -/
lemma wp_readRawFromStore (hobs : Observes env view cap) (hcap : 0 < cap) {s : σ} {cursor : ℕ}
    {readControlSnapshot :
      Attempt (Load κ) (Load.Value value) ControlBlockError ControlBlockSnapshot}
    (hsnap : readControlSnapshot.wp env
      (fun snapshot s' => ∃ P, SnapshotOf view cap s snapshot P s') (fun _ _ => True) s)
    (hcursor : ∃ rest, At (view s).log cursor rest) :
    (readRawFromStore cap readControlSnapshot cursor).wp env
      (fun batch s' => ∃ P first, BatchOf cursor P first batch (view s) (view s'))
      (Recoverable env view cap cursor) s := by
  unfold readRawFromStore
  refine Attempt.wp_bind (Attempt.wp_mapErr (Attempt.wp_mono hsnap ?_ fun _ _ _ => trivial))
  rintro snapshot s₁ ⟨P, hsnap⟩
  rw [if_neg (not_not.mpr hsnap.capacity), hsnap.head]
  obtain ⟨more, hmore⟩ := hsnap.after.trans (List.prefix_append _ (view s₁).pending)
  have hlog : P ++ more = (view s₁).log := hmore
  have hlaid : Laid cap (P ++ more) := hlog ▸ hsnap.moves.1.laid
  set first := if decide (cursor < snapshot.oldestAbs) then snapshot.oldestAbs else cursor
    with hfirst
  have hle : snapshot.oldestAbs ≤ first ∧ cursor ≤ first ∧
      (first = cursor ∨ first ≤ snapshot.oldestAbs) := by
    rw [hfirst]
    split_ifs with hlt <;> simp at hlt <;> omega
  have hat : ∃ rest, At (P ++ more) first rest := by
    rw [hfirst, hlog]
    split_ifs
    · exact hsnap.oldest_at
    · obtain ⟨rest, hat⟩ := hcursor
      exact hsnap.moves.2.at hat
  refine Attempt.wp_bind (Attempt.wp_mono (wp_readRawLoop hobs hcap hle.1 hle.2.1 _ first [] s₁
    le_rfl hsnap.moves.1 hsnap.after (Walks.begin hlaid hat)) ?_ fun _ _ h => h)
  rintro records s₂ ⟨hmove₂, abs, habs, hwalk⟩
  refine Attempt.wp_bind (wp_loadOldest hobs fun s₃ hrely₃ => ?_)
  have hmove₃ : Moves view cap s₂ s₃ := hobs.rely hrely₃
  have hmono := hmove₂.2.oldest.trans hmove₃.2.oldest
  have holdest := hsnap.oldest
  split_ifs with hpassed
  · exact Attempt.wp_throw ⟨hpassed.2, le_rfl, hmove₃.1.oldest_at⟩
  · have hclean : (view s₂).oldestAbs ≤ first := by
      have := hmove₃.2.oldest
      omega
    refine Attempt.wp_pure ⟨P, first, rfl, hsnap.before,
      hsnap.after.trans (hmove₂.2.published.trans hmove₃.2.published), hle.2.1, ?_,
      hwalk.finish hlaid.of_append habs hclean⟩
    rcases hle.2.2 with heq | hold
    · exact Or.inl heq
    · exact Or.inr (by omega)

/-- The ways a poll can end. -/
inductive PollEnds (env : Env (Load κ) (Load.Value value) σ) (view : σ → View) (cap : ℕ)
    (consumer : ConcurrentRawConsumer) (s : σ) :
    Outcome RingError ReadBatch × ConcurrentRawConsumer → σ → Prop
  | delivered {batch : ReadBatch} {consumer' : ConcurrentRawConsumer} {s' : σ}
      {P : List (Entry UInt8)} {first : ℕ}
      (hbatch : BatchOf consumer.cursorAbs P first batch (view s) (view s'))
      (hcursor : consumer'.cursorAbs = headOf P) :
      PollEnds env view cap consumer s (.ok batch, consumer') s'
  | lapped {batch : ReadBatch} {consumer' : ConcurrentRawConsumer} {s' : σ}
      (hrecords : batch.records = []) (hlt : consumer.cursorAbs < consumer'.cursorAbs)
      (hle : consumer'.cursorAbs ≤ (view s').oldestAbs)
      (hat : ∃ rest, At (view s').log consumer'.cursorAbs rest) :
      PollEnds env view cap consumer s (.ok batch, consumer') s'
  | retried {batch : ReadBatch} {consumer' : ConcurrentRawConsumer} {s' : σ}
      (hrecords : batch.records = []) (hcursor : consumer'.cursorAbs = consumer.cursorAbs) :
      PollEnds env view cap consumer s (.ok batch, consumer') s'
  | crossed {error : RingError} {s' : σ}
      (hcross : ∃ load v, env.admits load v ∧ Crosses cap load v) :
      PollEnds env view cap consumer s (.err error, consumer) s'

/-- **One poll**: it delivers a batch, or laps the cursor, or leaves it for a retry; it reports an
error only after a load that crosses the pool's end. -/
lemma wp_poll (hobs : Observes env view cap) (hcap : 0 < cap) {s : σ}
    {consumer : ConcurrentRawConsumer}
    {readControlSnapshot :
      Attempt (Load κ) (Load.Value value) ControlBlockError ControlBlockSnapshot}
    (hsnap : readControlSnapshot.wp env
      (fun snapshot s' => ∃ P, SnapshotOf view cap s snapshot P s') (fun _ _ => True) s)
    (hcursor : ∃ rest, At (view s).log consumer.cursorAbs rest) :
    (consumer.poll cap readControlSnapshot).wp env (PollEnds env view cap consumer s) s := by
  refine Reader.wp_bind.mpr (Reader.wp_mono (wp_readRawFromStore hobs hcap hsnap hcursor) ?_)
  rintro (batch | error | _) s₁ h
  · obtain ⟨P, first, hbatch⟩ := h
    exact .delivered hbatch hbatch.next
  · cases error with
    | overwrittenMidRead readAbs oldest => exact .lapped rfl h.1 h.2.1 h.2.2
    | controlBlock error => exact .retried rfl rfl
    | wire error =>
      intro s₂ hrely _
      rw [hobs.oldest]
      have hmove : Moves view cap s₁ s₂ := hobs.rely hrely
      have hlt : consumer.cursorAbs < (view s₂).oldestAbs :=
        lt_of_lt_of_le h hmove.2.oldest
      beta_reduce
      rw [if_pos hlt]
      exact .lapped rfl hlt le_rfl hmove.1.oldest_at
    | recordCrossesBoundary abs => exact .crossed h
    | recordExceedsCapacity _ _ => exact h.elim
    | encodedRecordLengthMismatch _ _ => exact h.elim
    | encodedRecordMissingCrc _ => exact h.elim
    | controlBlockCapacityMismatch _ _ => exact h.elim
    | capturedCapacityZero => exact h.elim
    | invalidCapturedWindow _ _ _ => exact h.elim
    | unexpectedWrapMarker _ => exact h.elim
  · exact h.elim

end Walk

end OpenOT
