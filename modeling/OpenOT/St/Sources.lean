import OpenOT.Lib.KeyedTable
import OpenOT.St.Emissions
import OpenOT.St.Steps
import Mathlib.Data.Fintype.Card

set_option relaxedAutoImplicit false
set_option autoImplicit false

/-!
# The source table

How an entry of the source table is opened, and how operation 1 goes through the table: each round
of its loop takes a source above the last one, so the rounds end.

## Main definitions

* `OpenOT.St.Producer.isAbove` — the sources that operation 1 has not come to.
* `OpenOT.St.Producer.remaining` — how many there are.

## Main results

* `OpenOT.St.Producer.openSource_some` — what an opened entry is.
* `OpenOT.St.Producer.highWaterLoop_isSome`, `OpenOT.St.Producer.beginTransition_isSome` — the loop
  ends.
-/

namespace OpenOT.St.Producer

open Rust

variable {inputs : Inputs} {p p' : Producer} {sources opened : Vector SourceEntry 16}
  {index i : Fin 16} {last : Option UInt32} {sourceId : UInt32}

/-! ## Opening an entry -/

/-- The entry that is opened is that of the source: it was there, or it is new and counts from
zero. -/
lemma openSource_some (h : openSource sourceId sources = some (index, opened)) :
    (opened.get index).used = true ∧ (opened.get index).sourceId = sourceId ∧
      (opened = sources ∨ (∀ i, isSource sourceId (sources.get i) = false) ∧
        (sources.get index).used = false ∧
        opened = sources.set index ⟨true, sourceId, 0⟩ (entry_lt index)) := by
  rcases openEntry_some h with ⟨hentry, rfl⟩ | ⟨hnone, hfree, rfl⟩
  · obtain ⟨hused, hid⟩ := Bool.and_eq_true_iff.mp hentry
    exact ⟨hused, eq_of_beq hid, .inl rfl⟩
  · rw [KeyedTable.get_set, if_pos rfl]
    exact ⟨rfl, rfl, .inr ⟨hnone, by simpa using hfree, rfl⟩⟩

/-! ## Selecting the next source -/

/-- Whether an entry is one of a source above the last one. -/
def isAbove (last : Option UInt32) (entry : SourceEntry) : Bool :=
  entry.used && last.all fun lastId => decide (lastId < entry.sourceId)

/-- What is selected of the entries seen so far: the source with the lowest id above the last
one. -/
structure Selects (last : Option UInt32) (sources : Vector SourceEntry 16) (seen : List (Fin 16))
    (selected : Option (Fin 16)) : Prop where
  above : ∀ i, selected = some i → isAbove last (sources.get i) = true
  least : ∀ j ∈ seen, isAbove last (sources.get j) = true →
    ∃ i, selected = some i ∧ (sources.get i).sourceId ≤ (sources.get j).sourceId

/-- One round of the loop. -/
lemma Selects.step {seen : List (Fin 16)} {selected : Option (Fin 16)}
    (h : Selects last sources seen selected) (k : Fin 16) :
    Selects last sources (seen ++ [k]) (if isAbove last (sources.get k) then
      if selected.all fun other =>
          decide ((sources.get k).sourceId < (sources.get other).sourceId) then some k
      else selected
    else selected) := by
  by_cases habove : isAbove last (sources.get k) = true
  swap
  · rw [if_neg habove]
    refine ⟨h.above, fun j hj hj' => ?_⟩
    rcases List.mem_append.mp hj with hold | hnew
    · exact h.least j hold hj'
    · rw [List.mem_singleton.mp hnew] at hj'
      exact absurd hj' habove
  rw [if_pos habove]
  by_cases hbest : (selected.all fun other =>
      decide ((sources.get k).sourceId < (sources.get other).sourceId)) = true
  · rw [if_pos hbest]
    refine ⟨fun i hi => Option.some.inj hi ▸ habove, fun j hj hj' => ⟨k, rfl, ?_⟩⟩
    rcases List.mem_append.mp hj with hold | hnew
    · obtain ⟨i, rfl, hle⟩ := h.least j hold hj'
      rw [Option.all_some, decide_eq_true_eq] at hbest
      exact UInt32.le_trans (UInt32.le_of_lt hbest) hle
    · rw [List.mem_singleton.mp hnew]
      exact UInt32.le_refl _
  · rw [if_neg hbest]
    refine ⟨h.above, fun j hj hj' => ?_⟩
    rcases List.mem_append.mp hj with hold | hnew
    · exact h.least j hold hj'
    · cases selected with
      | none => exact absurd rfl hbest
      | some i =>
        rw [Option.all_some, decide_eq_true_eq, UInt32.not_lt] at hbest
        rw [List.mem_singleton.mp hnew]
        exact ⟨i, rfl, hbest⟩

/-- **The loop selects the lowest source above the last one.** -/
lemma selects_selectNext (last : Option UInt32) (sources : Vector SourceEntry 16) :
    Selects last sources (List.finRange 16) (selectNext last sources) := by
  have hfold : ∀ (l seen : List (Fin 16)) (selected : Option (Fin 16)),
      Selects last sources seen selected → Selects last sources (seen ++ l)
        (l.foldl (fun selected index =>
          let entry := sources.get index
          if entry.used && last.all fun lastId => decide (lastId < entry.sourceId) then
            if selected.all fun other => decide (entry.sourceId < (sources.get other).sourceId) then
              some index
            else selected
          else selected) selected) := by
    intro l
    induction l with
    | nil =>
      intro seen selected h
      rw [List.append_nil]
      exact h
    | cons k l ih =>
      intro seen selected h
      rw [List.append_cons, List.foldl_cons]
      exact ih _ _ (h.step k)
  exact hfold _ [] none ⟨fun _ h => (by cases h), fun _ h => (by cases h)⟩

/-- The source that is selected is above the last one. -/
lemma isAbove_of_selectNext (h : selectNext last sources = some index) :
    isAbove last (sources.get index) = true := (selects_selectNext last sources).above index h

/-- It is the lowest one. -/
lemma le_of_selectNext (h : selectNext last sources = some index)
    (hi : isAbove last (sources.get i) = true) :
    (sources.get index).sourceId ≤ (sources.get i).sourceId := by
  obtain ⟨j, hj, hle⟩ := (selects_selectNext last sources).least i (List.mem_finRange i) hi
  rw [h] at hj
  exact Option.some.inj hj ▸ hle

/-- When none is selected, there is none. -/
lemma isAbove_of_selectNext_none (h : selectNext last sources = none) (i : Fin 16) :
    isAbove last (sources.get i) = false := by
  by_contra hi
  rw [Bool.not_eq_false] at hi
  obtain ⟨j, hj, -⟩ := (selects_selectNext last sources).least i (List.mem_finRange i) hi
  rw [h] at hj
  cases hj

/-- How many sources operation 1 has not come to. -/
def remaining (last : Option UInt32) (sources : Vector SourceEntry 16) : ℕ :=
  (Finset.univ.filter fun i => isAbove last (sources.get i) = true).card

lemma remaining_le (last : Option UInt32) (sources : Vector SourceEntry 16) :
    remaining last sources ≤ 16 :=
  (Finset.card_filter_le _ _).trans_eq (Finset.card_fin 16)

/-- Tables with the same sources. -/
lemma remaining_congr (h : ∀ i, (opened.get i).used = (sources.get i).used ∧
    (opened.get i).sourceId = (sources.get i).sourceId) :
    remaining last opened = remaining last sources := by
  unfold remaining isAbove
  simp only [(h _).1, (h _).2]

/-- Each round leaves fewer sources. -/
lemma remaining_lt (h : selectNext last sources = some index) :
    remaining (some (sources.get index).sourceId) sources < remaining last sources := by
  have habove := isAbove_of_selectNext h
  refine Finset.card_lt_card (Finset.ssubset_iff_of_subset ?_ |>.mpr ⟨index, ?_, ?_⟩)
  · intro i hi
    rw [Finset.mem_filter] at hi ⊢
    refine ⟨hi.1, ?_⟩
    simp only [isAbove, Bool.and_eq_true, Option.all_some, decide_eq_true_eq] at hi
    unfold isAbove at habove ⊢
    rw [Bool.and_eq_true] at habove ⊢
    refine ⟨hi.2.1, ?_⟩
    cases last with
    | none => rfl
    | some lastId =>
      simp only [Option.all_some, decide_eq_true_eq] at habove ⊢
      exact UInt32.lt_trans habove.2 hi.2.2
  · rw [Finset.mem_filter]
    exact ⟨Finset.mem_univ _, habove⟩
  · rw [Finset.mem_filter]
    simp [isAbove]

/-! ## The loop -/

/-- A high-water record fits into the buffer of its encoder. -/
lemma highWater_isSome (inputs : Inputs) (index : Fin 16) (p : Producer) :
    ∃ p', p.highWater inputs index = some p' := by
  obtain ⟨encoded, hencoded⟩ := (encodes_sourceHighWater (p.sources.get index).sourceId p.runId
    (p.nextSeq index) (p.nextSourceTime inputs)).isSome_iff.mpr (by simp)
  unfold highWater
  simp only [Option.bind_eq_bind]
  rw [show encodeSourceHighWater (p.sources.get index).sourceId (p.tick inputs).runId
    (p.nextSeq index) (p.nextSourceTime inputs) = some encoded from hencoded, Option.bind_some]
  split_ifs <;> exact ⟨_, rfl⟩

/-- A high-water record keeps the sources of the table. -/
lemma sources_highWater (h : p.highWater inputs index = some p') (i : Fin 16) :
    (p'.sources.get i).used = (p.sources.get i).used ∧
      (p'.sources.get i).sourceId = (p.sources.get i).sourceId := by
  obtain ⟨encoded, -, hcore, -⟩ := core_highWater h
  have hsources : p'.sources = (p.core.countAfter inputs 0x0108 (p.sources.get index).sourceId
    index encoded).sources := congrArg Core.sources hcore
  rw [hsources, Core.countAfter]
  split_ifs
  · change ((p.sources.set index _).get i).used = _ ∧ ((p.sources.set index _).get i).sourceId = _
    rw [KeyedTable.get_set]
    split_ifs with heq
    · rw [← heq]
      exact ⟨rfl, rfl⟩
    · exact ⟨rfl, rfl⟩
  · exact ⟨rfl, rfl⟩

/-- **The loop ends.** -/
lemma highWaterLoop_isSome {fuel : ℕ} (hfuel : remaining last p.sources < fuel) :
    ∃ p', p.highWaterLoop inputs fuel last = some p' := by
  induction fuel generalizing last p with
  | zero => exact absurd hfuel (Nat.not_lt_zero _)
  | succ fuel ih =>
    unfold highWaterLoop
    cases hselect : selectNext last p.sources with
    | none => exact ⟨p, rfl⟩
    | some index =>
      obtain ⟨next, hnext⟩ := highWater_isSome inputs index p
      dsimp only
      rw [hnext, Option.bind_eq_bind, Option.bind_some]
      by_cases herror : next.error = true
      · rw [if_pos herror]
        exact ⟨next, rfl⟩
      · rw [if_neg herror]
        apply ih
        rw [remaining_congr (sources_highWater hnext)]
        have := remaining_lt hselect
        omega

/-- A record of the system source that fits into the buffer of its encoder. -/
lemma emitSystem_isSome {eventTypeId : UInt32} {encode : UInt64 → UInt64 → Option Encoded}
    (hencode : ∀ seq sourceTime, ∃ encoded, encode seq sourceTime = some encoded) :
    ∃ p', p.emitSystem inputs eventTypeId encode = some p' := by
  obtain ⟨encoded, hencoded⟩ := hencode p.systemSeq (p.nextSourceTime inputs)
  unfold emitSystem
  dsimp only
  rw [hencoded, Option.bind_eq_bind, Option.bind_some]
  split_ifs <;> exact ⟨_, rfl⟩

/-- Operation 1 ends. -/
lemma beginTransition_isSome (inputs : Inputs) (p : Producer) :
    ∃ p', p.beginTransition inputs = some p' := by
  unfold beginTransition
  split_ifs with hopen
  · exact ⟨_, rfl⟩
  obtain ⟨q, hq⟩ : ∃ q, p.emitSystem inputs 0x0102 (encodeLoggerStopped p.runId) = some q :=
    emitSystem_isSome fun seq sourceTime =>
      (encodes_loggerStopped p.runId seq sourceTime).isSome_iff.mpr (by simp)
  rw [hq, Option.bind_eq_bind, Option.bind_some]
  obtain ⟨r, hr⟩ : ∃ r, q.highWaterLoop inputs 17 none = some r :=
    highWaterLoop_isSome (Nat.lt_succ_of_le (remaining_le _ _))
  dsimp only
  by_cases herror : q.error = true
  · rw [if_pos herror]
    exact ⟨_, if_pos herror⟩
  · rw [if_neg herror, hr]
    by_cases hfail : r.error = true
    · exact ⟨_, if_pos hfail⟩
    · exact ⟨_, if_neg hfail⟩

end OpenOT.St.Producer
