import OpenOT.St.BufferBounds
import OpenOT.St.Tracking
import Mathlib.Data.List.Sort

set_option relaxedAutoImplicit false
set_option autoImplicit false

/-!
# The producer of the controller refines the byte-pool producer

Every call of `OPENOT_Producer` for a message, a checkpoint or a transition ends as the method of
`EpochProducer` that it asks for, and leaves the same ring, run, epoch and definition.

## Main definitions

* `OpenOT.St.Producer.Tracks` — both producers hold the same.
* `OpenOT.St.Producer.Simulates` — a method ends as the function block does.
* `OpenOT.St.Producer.FollowedBy` — a run of methods ends as a run of calls does.

## Main results

* `OpenOT.St.Producer.simulates_call`, `OpenOT.St.Producer.simulates_sweep` — a call, and a sweep of
  `Checkpoint` calls.
* `OpenOT.St.Producer.follows_of_driven` — every run.
* `OpenOT.St.producer_refines` — what the outputs of the function block are.

## Design

The function block has 16 places for sources and the byte-pool producer any number, so the relation
is asked for as long as there are 16 counters at most. A message of a source without a place fails
in the function block and adds a counter to the other.
-/

namespace OpenOT

open Rust

namespace St

namespace Producer

variable {arith : RealArith} {inputs : Inputs} {p p' q : Producer} {ring : RingBuffer}
  {written : List ReadRecord} {sourceSeq : Std.TreeMap UInt32 UInt64}
  {transition : Option PendingTransition} {E : EpochError → EpochProducer → Prop}
  {P : EpochProducer → Prop}

/-! ## Calls -/

/-- The start of a call changes nothing that is compared. -/
lemma tracks_enter (inputs : Inputs) (h : p.core.Tracks p.sourceTime ring written sourceSeq) :
    (p.enter inputs).core.Tracks (p.enter inputs).sourceTime ring written sourceSeq := by
  rw [core_enter]
  split_ifs
  · exact h.congr rfl rfl rfl rfl
  · exact h

/-- What a call does to the history and to the table of loss ranges. -/
lemma store_call (h : p.call arith inputs = some p') :
    p.store.published.length ≤ p'.store.published.length ∧
      (p'.store.ring.lossRangeOverflow = false → p.store.ring.lossRangeOverflow = false) := by
  have hring : (p.enter inputs).store.ring = p.store.ring := by
    have hcore : (p.enter inputs).core = _ := core_enter
    rw [show (p.enter inputs).store = _ from congrArg Core.store hcore]
    split_ifs <;> rfl
  obtain ⟨q, rfl, hq⟩ := call_cases h
  change _ ≤ q.store.published.length ∧ (q.store.ring.lossRangeOverflow = false → _)
  rw [← published_enter, ← hring]
  rcases hq with ⟨-, rfl⟩ | ⟨-, hop⟩
  · exact ⟨Nat.le_refl _, id⟩
  · have hfed : Store.Fed inputs _ (p.enter inputs).store q.store := fed_of_operated hop
    exact ⟨hfed.length_le, hfed.overflow⟩

/-- And a sweep. -/
lemma store_swept {sourceIds : List UInt32} {failed : Bool}
    (h : Swept arith sourceIds p failed p') :
    p.store.published.length ≤ p'.store.published.length ∧
      (p'.store.ring.lossRangeOverflow = false → p.store.ring.lossRangeOverflow = false) := by
  induction h with
  | nil => exact ⟨Nat.le_refl _, id⟩
  | idle _ hcall _ ih =>
    exact ⟨(store_call hcall).1.trans ih.1, fun hover => (store_call hcall).2 (ih.2 hover)⟩
  | checkpoint _ _ _ _ hcall _ ih =>
    exact ⟨(store_call hcall).1.trans ih.1, fun hover => (store_call hcall).2 (ih.2 hover)⟩

/-- A sweep keeps the run and the transition. -/
lemma frame_swept {sourceIds : List UInt32} {failed : Bool}
    (h : Swept arith sourceIds p failed p') : p'.runId = p.runId ∧ p'.pending = p.pending := by
  induction h with
  | nil => exact ⟨rfl, rfl⟩
  | idle hedge hcall _ ih =>
    rw [call_idle hedge] at hcall
    cases hcall
    exact ih
  | checkpoint hedge _ hcheckpoint _ hcall _ ih =>
    rw [call_checkpoint hedge hcheckpoint] at hcall
    obtain ⟨q, hq, rfl⟩ := Option.map_eq_some_iff.mp hcall
    obtain ⟨-, hrun, hpending, -, -⟩ := feeds_checkpoint hq
    exact ⟨ih.1.trans hrun, ih.2.trans hpending⟩

/-- **A sweep of `Checkpoint` calls.** -/
lemma tracks_swept {sourceIds : List UInt32} {failed : Bool} {entries : List (UInt32 × UInt64)}
    {Q : Unit → EpochProducer → Prop} (hswept : Swept arith sourceIds p failed q)
    (hclosed : p.pending.isOpen = false)
    (h : p.core.Tracks p.sourceTime ring written sourceSeq)
    (hsources : entries.map Prod.fst = sourceIds)
    (hascending : entries.Pairwise fun a b => a.1 < b.1)
    (hentries : ∀ entry ∈ entries, sourceSeq[entry.1]? = some entry.2)
    (hover : q.store.ring.lossRangeOverflow = false)
    (hpanic : q.store.Spent → ∀ producer, P producer)
    (hok : ∀ ring' written' sourceSeq', q.core.Tracks q.sourceTime ring' written' sourceSeq' →
      failed = false → Q () (q.core.onRing q.sourceTime transition ring' written' sourceSeq')) :
    (EpochProducer.checkpointLoop entries).wp Q E P
      (p.core.onRing p.sourceTime transition ring written sourceSeq) := by
  induction hswept generalizing ring written sourceSeq entries with
  | nil p =>
    rw [List.map_eq_nil_iff] at hsources
    rw [hsources]
    exact Mut.wp_pure (hok ring written sourceSeq h rfl)
  | idle hedge hcall hrest ih =>
    rw [call_idle hedge] at hcall
    cases hcall
    exact ih hclosed (tracks_enter _ h) hsources hascending hentries hover hpanic hok
  | @checkpoint sourceIds inputs p q r failed hedge hplain hcheckpoint hop hcall hrest ih =>
    obtain ⟨entry, entries, rfl, hfirst, htail⟩ := List.map_eq_cons_iff.mp hsources
    obtain ⟨sourceId, producedCount⟩ := entry
    change sourceId = inputs.sourceId at hfirst
    subst hfirst
    obtain ⟨hleast, hascending⟩ := List.pairwise_cons.mp hascending
    have hsound : Sound p.sources := h.sound
    obtain ⟨index, hfind, hentry, hproduced⟩ := entry_of_numberOf
      ((h.counters _).symm.trans (hentries _ List.mem_cons_self))
    have hsource : inputs.sourceId ≠ 0 := fun hzero => by
      rw [hzero] at hentry
      exact absurd hentry (ne_true_of_eq_false (hsound.nonzero index))
    rw [call_checkpoint hedge hcheckpoint] at hcall
    obtain ⟨q, hq, rfl⟩ := Option.map_eq_some_iff.mp hcall
    obtain ⟨next, hnext, hcore, herror, hclock⟩ := checkpoint_of_entry
      (show (p.enter inputs).pending.isOpen = false from hclosed) hsource
      (show findEntry (p.enter inputs).sources _ = some index from hfind) hq
    obtain ⟨hcount, hstart⟩ := room_enter hedge hplain hop
    have hroom : (p.enter inputs).store.scan.RoomFor (0 + 1) (56 * (0 + 1)) := by
      rw [ScanList.RoomFor, hcount, hstart]
      exact ⟨by decide, by decide⟩
    have hpending : q.pending = p.pending := (feeds_checkpoint hq).pending
    have hstore : q.store = next.store := congrArg Core.store hcore
    have hrest' := store_swept hrest
    change q.store.published.length ≤ _ ∧ (_ → q.store.ring.lossRangeOverflow = false) at hrest'
    rw [hstore] at hrest'
    change Mut.wp _ Q E P ((p.enter inputs).core.onRing (p.enter inputs).sourceTime transition ring
      written sourceSeq)
    refine tracks_highWater hplain (tracks_enter inputs h) rfl hentry hproduced hroom hnext
      (hrest'.2 hover)
      (fun hspent => hpanic (Nat.le_trans hspent (Nat.add_le_add_left hrest'.1 _)))
      fun ring' written' htracks hfine _ => ?_
    rw [← hcore, ← hclock] at htracks ⊢
    refine ih (by rw [← hclosed, ← hpending]; rfl) htracks htail hascending ?_ hover hpanic
      fun ring'' written'' sourceSeq'' hdone hfailed => hok ring'' written'' sourceSeq'' hdone ?_
    · intro entry hmem
      have hne : entry.1 ≠ inputs.sourceId := fun heq =>
        UInt32.lt_irrefl _ (heq ▸ hleast entry hmem)
      rw [getElem?_insert, if_neg hne]
      exact hentries entry (List.mem_cons_of_mem _ hmem)
    · change (q.error || failed) = false
      rw [herror, hfine, hfailed]
      rfl

/-! ## Methods -/

/-- The function block and a byte-pool producer hold the same. -/
def Tracks (p : Producer) (producer : EpochProducer) : Prop :=
  ∃ ring written sourceSeq,
    producer = p.core.onRing p.sourceTime p.pending.transition ring written sourceSeq ∧
    p.core.Tracks p.sourceTime ring written sourceSeq ∧
    p.runId.toNat ≤ p.store.published.length + 1

/-- A method ends as the function block does, and both hold the same afterwards, unless the run has
more than 16 sources; it panics only if the source time is used up. -/
def Simulates (method : Mut EpochProducer EpochError Unit) (producer : EpochProducer)
    (failed : Bool) (p' : Producer) : Prop :=
  method.wp
    (fun _ producer' => producer'.sourceSeq.size ≤ 16 → failed = false ∧ p'.Tracks producer')
    (fun _ producer' => producer'.sourceSeq.size ≤ 16 → failed = true ∧ p'.Tracks producer')
    (fun _ => p'.store.Spent) producer

variable {producer : EpochProducer}

/-- A table without a place for a source has 16 others. -/
lemma size_of_openSource_none {sources : Vector SourceEntry 16} {sourceId : UInt32}
    (hsound : Sound sources)
    (hcounters : ∀ sourceId, sourceSeq[sourceId]? = numberOf sources sourceId)
    (h : openSource sourceId sources = none) (next : UInt64) :
    sourceId ∉ sourceSeq ∧
      17 ≤ ((sourceSeq.insertIfNew sourceId 0).insert sourceId next).size := by
  unfold openSource openEntry at h
  cases hfind : findEntry sources (isSource sourceId) with
  | some index =>
    rw [hfind] at h
    cases h
  | none =>
    rw [hfind] at h
    have hfree : findEntry sources (fun entry => !entry.used) = none := Option.map_eq_none_iff.mp h
    have hnone : ∀ i, isSource sourceId (sources.get i) = false := fun i => by
      simpa using List.find?_eq_none.mp hfind i (List.mem_finRange i)
    have hused : ∀ i, (sources.get i).used = true := fun i => by
      simpa using List.find?_eq_none.mp hfree i (List.mem_finRange i)
    have hentry : ∀ i, isSource (sources.get i).sourceId (sources.get i) = true := fun i => by
      simp [isSource, hused i]
    have hnot : sourceId ∉ sourceSeq := by
      rw [Std.TreeMap.mem_iff_isSome_getElem?, hcounters, numberOf,
        KeyedTable.lookup_eq_none hnone]
      exact Bool.false_ne_true
    have hinjective : Function.Injective fun i => (sources.get i).sourceId := fun i j hij =>
      hsound.distinct _ _ _ (hentry i) (by
        rw [show (sources.get i).sourceId = _ from hij]
        exact hentry j)
    have hnew : sourceId ∉ Finset.univ.image fun i => (sources.get i).sourceId := by
      rw [Finset.mem_image]
      rintro ⟨i, -, hi⟩
      have hi' := hentry i
      rw [hi, hnone i] at hi'
      cases hi'
    have hcard : (insert sourceId (Finset.univ.image fun i => (sources.get i).sourceId)).card =
        17 := by
      rw [Finset.card_insert_of_notMem hnew, Finset.card_image_of_injective _ hinjective,
        Finset.card_fin]
    have hsubset : insert sourceId (Finset.univ.image fun i => (sources.get i).sourceId) ⊆
        ((sourceSeq.insertIfNew sourceId 0).insert sourceId next).keys.toFinset := by
      intro other hother
      rw [List.mem_toFinset, Std.TreeMap.mem_keys, Std.TreeMap.mem_insert,
        Std.TreeMap.mem_insertIfNew]
      rcases Finset.mem_insert.mp hother with rfl | himage
      · exact .inl (Std.LawfulEqCmp.compare_eq_iff_eq.mpr rfl)
      · obtain ⟨i, -, rfl⟩ := Finset.mem_image.mp himage
        refine .inr (.inr ?_)
        rw [Std.TreeMap.mem_iff_isSome_getElem?, hcounters, numberOf_eq hsound (hentry i)]
        rfl
    refine ⟨hnot, ?_⟩
    calc 17 = _ := hcard.symm
      _ ≤ _ := Finset.card_le_card hsubset
      _ ≤ _ := List.toFinset_card_le _
      _ = _ := Std.TreeMap.length_keys

/-- Records of the same run keep the bound of its number. -/
lemma bound_of_feeds {meets : Published → Prop} (h : Core.Feeds inputs meets p.core q.core)
    (hrun : p.runId.toNat ≤ p.store.published.length + 1) :
    q.runId.toNat ≤ q.store.published.length + 1 := by
  have hsame : q.runId = p.runId := h.runId
  rw [hsame]
  exact hrun.trans (Nat.succ_le_succ h.store.length_le)

/-- A message keeps the run and the transition. -/
lemma frame_message (h : p.message inputs = some p') :
    p'.runId = p.runId ∧ p'.pending = p.pending := by
  rcases core_message h with ⟨hcore, -⟩ | ⟨-, -, index, sources, encoded, -, -, hcore⟩
  · exact ⟨congrArg Core.runId hcore, congrArg Core.pending hcore⟩
  · dsimp only at hcore
    split_ifs at hcore <;> exact ⟨congrArg Core.runId hcore, congrArg Core.pending hcore⟩

/-- Operation 0. -/
lemma simulates_message (hplain : inputs.Plain) (h : p.Tracks producer) (hfine : p.error = false)
    (hempty : p.store.scan.count = 0 ∧ p.store.scan.writePos = 0) (hsource : inputs.sourceId ≠ 0)
    (hmessage : inputs.message.IsMinimal) (hq : p.message inputs = some q)
    (hover : q.store.ring.lossRangeOverflow = false) :
    Simulates (EpochProducer.emitData inputs.sourceId EVENT_MESSAGE) producer q.error q := by
  obtain ⟨ring, written, sourceSeq, rfl, htracks, hrun⟩ := h
  by_cases hopen : p.pending.isOpen = true
  · unfold message at hq
    rw [if_pos hopen] at hq
    cases hq
    have hsome : (p.core.onRing p.sourceTime p.pending.transition ring written
        sourceSeq).transition.isSome = true := by
      simp [Core.onRing, Pending.transition, hopen]
    refine Mut.wp_bind (Mut.wp_get ?_)
    rw [if_pos hsome]
    exact Mut.wp_throw fun _ => ⟨rfl, ring, written, sourceSeq, rfl, htracks, hrun⟩
  rw [Bool.not_eq_true] at hopen
  have hnone : p.pending.transition = none := by simp [Pending.transition, hopen]
  rw [hnone]
  have hsound : Sound p.sources := htracks.sound
  have hbound : p.sourceTime.toNat = 1780000000000000000 + p.store.published.length :=
    htracks.clock
  cases hfind : openSource inputs.sourceId p.sources with
  | none =>
    have hfull := size_of_openSource_none hsound htracks.counters hfind
    unfold message at hq
    rw [if_neg (by simp [hopen]), if_neg hsource, hfind] at hq
    cases hq
    refine EpochProducer.wp_emitData _ htracks.follows.represents ?_ ?_ ?_ ?_
    · exact fun _ _ next _ _ _ _ _ _ hsize =>
        absurd ((hfull next).2.trans hsize) (by decide)
    · exact fun hsome => by cases hsome
    · exact fun _ _ next _ _ _ _ hsize => absurd ((hfull next).2.trans hsize) (by decide)
    · rintro - (hspent | hspent) _
      · change 2 ^ 64 ≤ (sourceSeq.getD inputs.sourceId 0).toNat + 1 at hspent
        rw [Std.TreeMap.getD_eq_fallback (hfull 0).1] at hspent
        exact absurd hspent (by decide)
      · change 2 ^ 64 ≤ p.sourceTime.toNat + 1 at hspent
        change 2 ^ 64 ≤ 1780000000000000001 + p.store.published.length
        omega
  | some found =>
    obtain ⟨index, sources⟩ := found
    have hroom : p.store.scan.RoomFor (0 + 1) (0 + 52) := by
      rw [ScanList.RoomFor, hempty.1, hempty.2]
      exact ⟨by decide, by decide⟩
    obtain ⟨hsame, hpending⟩ := frame_message hq
    refine tracks_message hplain htracks hfine hopen hsource hmessage hfind hroom hq hover
      (fun hspent _ => hspent) fun ring' written' sourceSeq' hdone hdoneFine _ =>
        ⟨hdoneFine, ring', written', sourceSeq', ?_, hdone, ?_⟩
    · rw [hpending, hnone]
    · rw [hsame]
      exact hrun.trans (Nat.succ_le_succ (fed_message hq).length_le)

/-- A table has no more sources than those that it may have. -/
lemma size_le_card {used : Finset UInt32} (h : ∀ sourceId ∈ sourceSeq, sourceId ∈ used) :
    sourceSeq.size ≤ used.card := by
  rw [← Std.TreeMap.length_keys, ← List.toFinset_card_of_nodup Std.TreeMap.nodup_keys]
  refine Finset.card_le_card fun sourceId hmem => h sourceId ?_
  rwa [List.mem_toFinset, Std.TreeMap.mem_keys] at hmem

/-- The table has at most 16 sources. -/
lemma size_le {sources : Vector SourceEntry 16}
    (hcounters : ∀ sourceId, sourceSeq[sourceId]? = numberOf sources sourceId) :
    sourceSeq.size ≤ 16 := by
  have hall : ∀ sourceId ∈ sourceSeq,
      sourceId ∈ Finset.univ.image fun i => (sources.get i).sourceId := by
    intro sourceId hmem
    rw [Std.TreeMap.mem_iff_isSome_getElem?, hcounters] at hmem
    obtain ⟨next, hnext⟩ := Option.isSome_iff_exists.mp hmem
    obtain ⟨i, -, hentry, -⟩ := entry_of_numberOf hnext
    exact Finset.mem_image.mpr
      ⟨i, Finset.mem_univ i, eq_of_beq (Bool.and_eq_true_iff.mp hentry).2⟩
  calc sourceSeq.size ≤ _ := size_le_card hall
    _ ≤ _ := Finset.card_image_le
    _ = 16 := Finset.card_fin 16

/-- Operation 1. -/
lemma simulates_beginTransition (hplain : inputs.Plain) (h : p.Tracks producer)
    (hfine : p.error = false)
    (hempty : p.store.scan.count = 0 ∧ p.store.scan.writePos = 0)
    (hq : p.beginTransition inputs = some q) (hover : q.store.ring.lossRangeOverflow = false) :
    Simulates (EpochProducer.beginEpochTransition inputs.defHashOld inputs.defHashNew
      inputs.transitionEpochId) producer q.error q := by
  obtain ⟨ring, written, sourceSeq, rfl, htracks, hrun⟩ := h
  refine Mut.wp_bind (Mut.wp_get ?_)
  by_cases hopen : p.pending.isOpen = true
  · unfold beginTransition at hq
    rw [if_pos hopen] at hq
    cases hq
    have hsome : (p.core.onRing p.sourceTime p.pending.transition ring written
        sourceSeq).transition.isSome = true := by
      simp [Core.onRing, Pending.transition, hopen]
    rw [if_pos hsome]
    exact Mut.wp_throw fun _ => ⟨rfl, ring, written, sourceSeq, rfl, htracks, hrun⟩
  rw [Bool.not_eq_true] at hopen
  have hnone : p.pending.transition = none := by simp [Pending.transition, hopen]
  rw [hnone, if_neg (by simp [Core.onRing])]
  rcases core_beginTransition hq with ⟨hnot, -⟩ | ⟨-, stopped, r, hstopped, hr, -, hcore⟩
  · rw [hopen] at hnot
    cases hnot
  have hstore : q.store = r.store := by
    split_ifs at hcore <;> exact congrArg Core.store hcore
  have hrest : Store.Fed inputs Published.IsHighWater stopped.store r.store := by
    rcases hr with ⟨-, rfl⟩ | ⟨-, hr⟩
    · exact .refl
    · exact (feeds_highWaterLoop hr).store
  rw [hstore] at hover
  have hroom : p.store.scan.RoomFor (16 + 1) (56 * 16 + (44 + area [])) := by
    rw [ScanList.RoomFor, hempty.1, hempty.2]
    exact ⟨by decide, by decide⟩
  have hspent : stopped.store.Spent → q.store.Spent := fun hspent => by
    rw [hstore]
    exact Nat.le_trans hspent (Nat.add_le_add_left hrest.length_le _)
  refine Mut.wp_bind (tracks_emitSystem hplain htracks hfine
    (fun seq sourceTime => encodes_loggerStopped p.runId seq sourceTime) hroom hstopped
    (hrest.overflow hover) (fun h _ => hspent h)
    fun ring' written' endAbs htracks' hfine' hleft _ => ?_)
  rcases hr with ⟨hnot, -⟩ | ⟨-, hr⟩
  · rw [hfine'] at hnot
    cases hnot
  refine Mut.wp_bind (Mut.wp_bind (Mut.wp_get ?_))
  rw [if_neg (by simp [Core.onRing])]
  have hsize := size_le htracks'.counters
  have hroom' : stopped.store.scan.RoomFor sourceSeq.toList.length
      (56 * sourceSeq.toList.length) := by
    rw [Std.TreeMap.length_toList]
    exact ⟨by have := hleft.1; omega, by have := hleft.2; omega⟩
  refine tracks_highWaterLoop hplain htracks' hfine' (awaits_toList sourceSeq) hroom' hr hover
    (fun hspent _ => by rw [hstore]; exact hspent)
    fun ring'' written'' sourceSeq'' hdone hdoneFine => ?_
  rw [beginTransition_eq hopen hstopped hfine' hr hdoneFine] at hq
  cases hq
  have hbound : r.runId.toNat ≤ r.store.published.length + 1 :=
    bound_of_feeds (feeds_highWaterLoop hr) (bound_of_feeds (feeds_stopped hstopped) hrun)
  exact Mut.wp_modify fun _ =>
    ⟨hdoneFine, ring'', written'', sourceSeq'', rfl, hdone.congr rfl rfl rfl rfl, hbound⟩

/-- An empty scan list has room for a record. -/
lemma room_of_empty {scan : ScanList} (hempty : scan.count = 0 ∧ scan.writePos = 0)
    {slots : List Slot} (hle : EpochProducer.lenOf slots ≤ 256) :
    scan.RoomFor (0 + 1) (0 + (44 + area slots)) := by
  have hlen : EpochProducer.lenOf slots = 40 + area slots + 4 := rfl
  rw [ScanList.RoomFor, hempty.1, hempty.2]
  exact ⟨by decide, by omega⟩

/-- **A method that needs an open transition**, in the stage that it asks for: it and the function
block refuse the call alike, or the rest of the method runs with the transition taken out. -/
lemma simulates_open {rest : PendingTransition → Mut EpochProducer EpochError Unit}
    {error : EpochError} (refuses : Bool → Bool) (h : p.Tracks producer)
    (hclosed : p.pending.isOpen = false → q = p.fail)
    (hrefused : p.pending.isOpen = true → refuses p.pending.defChangedEmitted = true → q = p.fail)
    (hrest : ∀ ring written sourceSeq, p.pending.isOpen = true →
      refuses p.pending.defChangedEmitted = false →
      p.core.Tracks p.sourceTime ring written sourceSeq →
      p.runId.toNat ≤ p.store.published.length + 1 →
      Simulates (rest ⟨p.pending.defHashOld, p.pending.defHashNew, p.pending.epochId,
        p.pending.defChangedEmitted⟩) (p.core.onRing p.sourceTime none ring written sourceSeq)
        q.error q) :
    Simulates (EpochProducer.takeTransition >>= fun pending =>
      if refuses pending.definitionChangedEmitted then do
        Mut.modify fun producer => { producer with transition := some pending }
        Mut.throw error
      else rest pending) producer q.error q := by
  obtain ⟨ring, written, sourceSeq, rfl, htracks, hrun⟩ := h
  by_cases hopen : p.pending.isOpen = true
  swap
  · rw [Bool.not_eq_true] at hopen
    rw [hclosed hopen]
    refine EpochProducer.wp_takeTransition _
      (fun _ _ => ⟨rfl, ring, written, sourceSeq, rfl, htracks, hrun⟩) fun pending hpending => ?_
    rw [Pending.transition_of_closed hopen] at hpending
    cases hpending
  have htransition := Pending.transition_of_open hopen
  rw [htransition]
  refine EpochProducer.wp_takeTransition _ (fun hnone => by cases hnone) fun pending hpending => ?_
  cases hpending
  by_cases hrefuses : refuses p.pending.defChangedEmitted = true
  · rw [if_pos hrefuses, hrefused hopen hrefuses]
    refine Mut.wp_bind (Mut.wp_modify (Mut.wp_throw fun _ =>
      ⟨rfl, ring, written, sourceSeq, ?_, htracks, hrun⟩))
    rw [show p.fail.pending.transition = _ from htransition]
    rfl
  · rw [if_neg hrefuses]
    exact hrest ring written sourceSeq hopen (by simpa using hrefuses) htracks hrun

/-- Operation 2. -/
lemma simulates_changeDefinition (hplain : inputs.Plain) (h : p.Tracks producer)
    (hfine : p.error = false)
    (hempty : p.store.scan.count = 0 ∧ p.store.scan.writePos = 0)
    (hq : p.changeDefinition inputs = some q) (hover : q.store.ring.lossRangeOverflow = false) :
    Simulates EpochProducer.emitDefinitionChanged producer q.error q := by
  refine simulates_open (fun emitted => emitted) h (fun hclosed => ?_) (fun hopen hemitted => ?_)
    fun ring written sourceSeq hopen hemitted htracks hrun => ?_
  · simp only [changeDefinition, hclosed, Bool.not_false, if_true, Option.some.injEq] at hq
    exact hq.symm
  · change p.pending.defChangedEmitted = true at hemitted
    simp only [changeDefinition, hopen, hemitted, Bool.not_true, Bool.false_eq_true, if_false,
      if_true, Option.some.injEq] at hq
    exact hq.symm
  change p.pending.defChangedEmitted = false at hemitted
  rcases core_changeDefinition hq with ⟨hnot | hnot, -⟩ | ⟨-, -, changed, hchanged, -, hcore⟩
  · rw [hopen] at hnot
    cases hnot
  · rw [hemitted] at hnot
    cases hnot
  have hstore : q.store = changed.store := by
    split_ifs at hcore <;> exact congrArg Core.store hcore
  rw [hstore] at hover
  have hlen : EpochProducer.lenOf (changedSlots ⟨p.pending.defHashOld, p.pending.defHashNew,
      p.pending.epochId, false⟩) ≤ 256 := by
    rw [EpochProducer.lenOf_changedSlots]
    decide
  refine Mut.wp_bind (tracks_emitSystem hplain htracks hfine
    (fun seq sourceTime => encodes_definitionChanged p.runId seq p.pending.defHashOld
      p.pending.defHashNew p.pending.epochId sourceTime)
    (room_of_empty hempty hlen) hchanged hover (fun hspent _ => by rw [hstore]; exact hspent)
    fun ring' written' endAbs hdone hdoneFine _ _ => ?_)
  rw [changeDefinition_eq hopen hemitted hchanged hdoneFine] at hq
  cases hq
  have hfeeds := feeds_changed hchanged
  have hpending : changed.pending = p.pending := hfeeds.pending
  have hbound : changed.runId.toNat ≤ changed.store.published.length + 1 :=
    bound_of_feeds hfeeds hrun
  have hnext : ({ changed.pending with defChangedEmitted := true } : Pending).transition =
      some ⟨p.pending.defHashOld, p.pending.defHashNew, p.pending.epochId, true⟩ := by
    rw [hpending]
    exact Pending.transition_of_open hopen
  exact Mut.wp_modify fun _ => ⟨hdoneFine, ring', written', sourceSeq,
    congrArg (fun t => changed.core.onRing changed.sourceTime t ring' written' sourceSeq) hnext.symm,
    hdone.congr rfl rfl rfl rfl, hbound⟩

/-- The `LoggerStarted` record fits. -/
lemma lenOf_started_le (coldStart : Bool) : EpochProducer.lenOf
    [⟨KEY_COLD_START, TY_BOOL, [if coldStart then 1 else 0]⟩] ≤ 256 := by
  have hlen : EpochProducer.lenOf (startedSlots (if coldStart then 1 else 0)) = 52 :=
    EpochProducer.lenOf_startedSlots _
  exact hlen.trans_le (by decide)

/-- Operation 3. -/
lemma simulates_finishWarm (hplain : inputs.Plain) (h : p.Tracks producer)
    (hfine : p.error = false)
    (hempty : p.store.scan.count = 0 ∧ p.store.scan.writePos = 0)
    (hq : p.finishWarm inputs = some q) (hover : q.store.ring.lossRangeOverflow = false) :
    Simulates EpochProducer.finishDefinitionChange producer q.error q := by
  refine simulates_open (fun emitted => !emitted) h (fun hclosed => ?_) (fun hopen hemitted => ?_)
    fun ring written sourceSeq hopen hemitted htracks hrun => ?_
  · simp only [finishWarm, hclosed, Bool.not_false, if_true, Option.some.injEq] at hq
    exact hq.symm
  · simp only [finishWarm, hopen, hemitted, Bool.not_true, Bool.false_eq_true, if_false,
      if_true, Option.some.injEq] at hq
    exact hq.symm
  rw [Bool.not_eq_false'] at hemitted
  rcases core_finishWarm hq with ⟨hnot | hnot, -⟩ | ⟨-, -, started, hstarted, -, hcore⟩
  · rw [hopen] at hnot
    cases hnot
  · rw [hemitted] at hnot
    cases hnot
  have hstore : q.store = started.store := by
    split_ifs at hcore <;> exact congrArg Core.store hcore
  rw [hstore] at hover
  have htracks' : ({ p with epochId := p.pending.epochId } : Producer).core.Tracks p.sourceTime
    ring written sourceSeq := htracks.congr rfl rfl rfl rfl
  refine Mut.wp_bind (Mut.wp_modify (Mut.wp_bind (tracks_emitSystem hplain htracks' hfine
    (fun seq sourceTime => encodes_loggerStarted p.runId seq false sourceTime)
    (room_of_empty hempty (lenOf_started_le false)) hstarted hover
    (fun hspent _ => by rw [hstore]; exact hspent)
    fun ring' written' endAbs hdone hdoneFine _ _ => ?_)))
  rw [finishWarm_eq hopen hemitted hstarted hdoneFine] at hq
  cases hq
  have hfeeds := feeds_started hstarted
  have hpending : started.pending = p.pending := hfeeds.pending
  have hbound : started.runId.toNat ≤ started.store.published.length + 1 :=
    bound_of_feeds hfeeds hrun
  refine Mut.wp_modify fun _ => ⟨hdoneFine, ring', written', sourceSeq, ?_,
    hdone.congr rfl rfl rfl rfl, hbound⟩
  simp only [Core.onRing, core, Producer.started, finish, hpending]
  rfl

/-- Operation 4. -/
lemma simulates_finishCold (hplain : inputs.Plain) (h : p.Tracks producer)
    (hfine : p.error = false)
    (hempty : p.store.scan.count = 0 ∧ p.store.scan.writePos = 0)
    (hq : p.finishCold inputs = some q) (hover : q.store.ring.lossRangeOverflow = false) :
    Simulates EpochProducer.finishColdStart producer q.error q := by
  refine simulates_open (fun emitted => !emitted) h (fun hclosed => ?_) (fun hopen hemitted => ?_)
    fun ring written sourceSeq hopen hemitted htracks hrun => ?_
  · simp only [finishCold, hclosed, Bool.not_false, if_true, Option.some.injEq] at hq
    exact hq.symm
  · simp only [finishCold, hopen, hemitted, Bool.not_true, Bool.false_eq_true, if_false,
      if_true, Option.some.injEq] at hq
    exact hq.symm
  rw [Bool.not_eq_false'] at hemitted
  rcases core_finishCold hq with ⟨hnot | hnot, -⟩ | ⟨-, -, started, hstarted, -, hcore⟩
  · rw [hopen] at hnot
    cases hnot
  · rw [hemitted] at hnot
    cases hnot
  have hstore : q.store = started.store := by
    split_ifs at hcore <;> exact congrArg Core.store hcore
  rw [hstore] at hover
  have hlt := p.sourceTime.toNat_lt
  have hbound : p.sourceTime.toNat = 1780000000000000000 + p.store.published.length :=
    htracks.clock
  have htracks' : p.coldStarted.core.Tracks p.sourceTime ring written ∅ := by
    refine ⟨htracks.follows, htracks.clock, sound_noSources.1, fun sourceId => ?_, Nat.zero_le _,
      fun sourceId next hnext => ?_⟩
    · rw [Std.TreeMap.getElem?_emptyc]
      exact (numberOf_noSources sourceId).symm
    · rw [Std.TreeMap.getElem?_emptyc] at hnext
      cases hnext
  refine Mut.wp_bind (Mut.wp_get (Mut.wp_bind (Mut.wp_checkedAdd_of (fun runId hrunId => ?_)
    fun hspent => ?_)))
  swap
  · change 2 ^ 64 ≤ p.runId.toNat + 1 at hspent
    omega
  rw [EpochProducer.eq_add_one hrunId]
  refine Mut.wp_bind (Mut.wp_modify (Mut.wp_bind (tracks_emitSystem hplain htracks' hfine
    (fun seq sourceTime => encodes_loggerStarted (p.runId + 1) seq true sourceTime)
    (room_of_empty hempty (lenOf_started_le true)) hstarted hover
    (fun hspent _ => by rw [hstore]; exact hspent)
    fun ring' written' endAbs hdone hdoneFine _ hcount => ?_)))
  rw [finishCold_eq hopen hemitted hstarted hdoneFine] at hq
  cases hq
  have hfeeds := feeds_started hstarted
  have hpending : started.pending = p.pending := hfeeds.pending
  have hrunId : started.runId = p.runId + 1 := hfeeds.runId
  have hpublished : started.store.published.length = p.store.published.length + 1 := hcount
  have hbound : started.runId.toNat ≤ started.store.published.length + 1 := by
    rw [hrunId, hpublished, Core.toNat_succ (by omega)]
    exact Nat.succ_le_succ hrun
  refine Mut.wp_modify fun _ => ⟨hdoneFine, ring', written', ∅, ?_,
    hdone.congr rfl rfl rfl rfl, hbound⟩
  simp only [Core.onRing, core, Producer.started, finish, hpending]
  rfl

/-! ## Calls of both -/

/-- The start of a call changes nothing that is compared. -/
lemma Tracks.enter (h : p.Tracks producer) (inputs : Inputs) :
    (p.enter inputs).Tracks producer := by
  obtain ⟨ring, written, sourceSeq, rfl, htracks, hrun⟩ := h
  refine ⟨ring, written, sourceSeq, rfl, tracks_enter inputs htracks, ?_⟩
  rw [published_enter]
  exact hrun

/-- **A call of operation 0 to 4.** -/
lemma simulates_call {method : EpochCall} (hedge : p.edge inputs = true) (hplain : inputs.Plain)
    (hcheckpoint : inputs.checkpoint = false) (hasks : inputs.Asks method)
    (h : p.Tracks producer) (hcall : p.call arith inputs = some p')
    (hover : p'.store.ring.lossRangeOverflow = false) :
    Simulates method.run producer p'.error p' := by
  have hentered := h.enter inputs
  unfold call at hcall
  rw [hedge, if_pos rfl] at hcall
  obtain ⟨q, hq, rfl⟩ := Option.map_eq_some_iff.mp hcall
  change Simulates method.run producer q.error q
  cases hasks with
  | message hop hsource hmessage =>
    have hmessaged : (p.enter inputs).message inputs = some q := by
      simpa [operate, hcheckpoint, hop] using hq
    exact simulates_message hplain hentered rfl (room_enter hedge hplain (by rw [hop]; rfl)) hsource
      hmessage hmessaged hover
  | beginTransition hop =>
    have hbegun : (p.enter inputs).beginTransition inputs = some q := by
      simpa [operate, hcheckpoint, hop, isDataOp] using hq
    exact simulates_beginTransition hplain hentered rfl
      (room_enter hedge hplain (by rw [hop]; rfl)) hbegun hover
  | changeDefinition hop =>
    have hchanged : (p.enter inputs).changeDefinition inputs = some q := by
      simpa [operate, hcheckpoint, hop, isDataOp] using hq
    exact simulates_changeDefinition hplain hentered rfl
      (room_enter hedge hplain (by rw [hop]; rfl)) hchanged hover
  | finishWarm hop =>
    have hfinished : (p.enter inputs).finishWarm inputs = some q := by
      simpa [operate, hcheckpoint, hop, isDataOp] using hq
    exact simulates_finishWarm hplain hentered rfl
      (room_enter hedge hplain (by rw [hop]; rfl)) hfinished hover
  | finishCold hop =>
    have hfinished : (p.enter inputs).finishCold inputs = some q := by
      simpa [operate, hcheckpoint, hop, isDataOp] using hq
    exact simulates_finishCold hplain hentered rfl
      (room_enter hedge hplain (by rw [hop]; rfl)) hfinished hover

/-- A sweep while a transition is open is refused call by call. -/
lemma tracks_swept_open {sourceIds : List UInt32} {failed : Bool}
    (hswept : Swept arith sourceIds p failed q) (hopen : p.pending.isOpen = true)
    (h : p.Tracks producer) : q.Tracks producer ∧ (sourceIds ≠ [] → failed = true) := by
  induction hswept with
  | nil => exact ⟨h, fun hne => absurd rfl hne⟩
  | @idle sourceIds inputs p q r failed hedge hcall _ ih =>
    rw [call_idle hedge] at hcall
    cases hcall
    exact ih hopen (h.enter inputs)
  | @checkpoint sourceIds inputs p q r failed hedge _ hcheckpoint _ hcall _ ih =>
    rw [call_checkpoint hedge hcheckpoint, checkpoint,
      if_pos (show (p.enter inputs).pending.isOpen = true from hopen)] at hcall
    cases hcall
    exact ⟨(ih hopen (h.enter inputs)).1, fun _ => Bool.true_or _⟩

/-- **A sweep.** -/
lemma simulates_sweep {sourceIds : List UInt32} {failed : Bool} (h : p.Tracks producer)
    (hascending : sourceIds.Pairwise (· < ·))
    (hall : ∀ sourceId, sourceId ∈ sourceIds ↔ ∃ i, isSource sourceId (p.sources.get i) = true)
    (hcalled : p.pending.isOpen = true → sourceIds ≠ [])
    (hswept : Swept arith sourceIds p failed p')
    (hover : p'.store.ring.lossRangeOverflow = false) :
    Simulates EpochProducer.checkpointHighWater producer failed p' := by
  refine Mut.wp_bind (Mut.wp_get ?_)
  by_cases hopen : p.pending.isOpen = true
  · obtain ⟨hdone, hfailed⟩ := tracks_swept_open hswept hopen h
    obtain ⟨ring, written, sourceSeq, rfl, -⟩ := h
    have hsome : (p.core.onRing p.sourceTime p.pending.transition ring written
        sourceSeq).transition.isSome = true := by
      rw [Core.onRing, Pending.transition_of_open hopen]
      rfl
    rw [if_pos hsome]
    exact Mut.wp_throw fun _ => ⟨hfailed (hcalled hopen), hdone⟩
  rw [Bool.not_eq_true] at hopen
  obtain ⟨ring, written, sourceSeq, rfl, htracks, hrun⟩ := h
  rw [Pending.transition_of_closed hopen, if_neg (by simp [Core.onRing])]
  have hsound : Sound p.sources := htracks.sound
  have hkeys : sourceSeq.toList.map Prod.fst = sourceIds := by
    have hordered : sourceSeq.keys.Pairwise (· < ·) :=
      Std.TreeMap.ordered_keys.imp Std.compare_eq_lt.mp
    rw [Std.TreeMap.map_fst_toList_eq_keys]
    refine hordered.eq_of_mem_iff hascending fun sourceId => ?_
    rw [hall, Std.TreeMap.mem_keys, Std.TreeMap.mem_iff_isSome_getElem?, htracks.counters]
    constructor
    · intro hmem
      obtain ⟨next, hnext⟩ := Option.isSome_iff_exists.mp hmem
      obtain ⟨i, -, hentry, -⟩ := entry_of_numberOf hnext
      exact ⟨i, hentry⟩
    · rintro ⟨i, hentry⟩
      rw [show numberOf p.core.sources sourceId = _ from numberOf_eq hsound hentry]
      rfl
  obtain ⟨hsame, hpending⟩ := frame_swept hswept
  refine tracks_swept hswept hopen htracks hkeys (awaits_toList sourceSeq).ascending
    (fun entry hmem => Std.TreeMap.mem_toList_iff_getElem?_eq_some.mp hmem) hover
    (fun hspent _ => hspent) fun ring' written' sourceSeq' hdone hfine _ =>
      ⟨hfine, ring', written', sourceSeq', ?_, hdone, ?_⟩
  · rw [hpending, Pending.transition_of_closed hopen]
  · rw [hsame]
    exact hrun.trans (Nat.succ_le_succ (store_swept hswept).1)

/-! ## Runs of both -/

/-- A run of the byte-pool producer ends as the log says and holds what the function block holds; it
panics only if the source time is used up. -/
structure FollowedBy (fresh : EpochProducer) (log : List (EpochCall × Bool)) (p : Producer) :
    Prop where
  spent : EpochProducer.drive (log.map Prod.fst) fresh = none → p.store.Spent
  tracks : ∀ flags producer, EpochProducer.drive (log.map Prod.fst) fresh = some (flags, producer) →
    flags = log.map Prod.snd ∧ p.Tracks producer ∧
      ∀ sourceId ∈ producer.sourceSeq, sourceId ∈ EpochProducer.sourcesOfRun log

/-- What the byte-pool producer needs for its calls. -/
lemma Tracks.represents (h : p.Tracks producer) :
    producer.ring.Represents producer.written ∧ 80 ≤ producer.ring.capacity := by
  obtain ⟨ring, written, sourceSeq, rfl, htracks, -⟩ := h
  refine ⟨htracks.follows.represents, ?_⟩
  change 80 ≤ ring.capacity
  rw [htracks.follows.mirrors.capacity]
  decide

/-- One method more. -/
lemma FollowedBy.concat {fresh : EpochProducer} {log : List (EpochCall × Bool)} {method : EpochCall}
    {failed : Bool} (h : FollowedBy fresh log p)
    (hle : p.store.published.length ≤ p'.store.published.length)
    (hused : (EpochProducer.sourcesOfRun log).card ≤ 16)
    (hused' : (EpochProducer.sourcesOfRun (log ++ [(method, failed)])).card ≤ 16)
    (hsimulates : ∀ producer, p.Tracks producer → Simulates method.run producer failed p') :
    FollowedBy fresh (log ++ [(method, failed)]) p' := by
  have hmap : (log ++ [(method, failed)]).map Prod.fst = log.map Prod.fst ++ [method] :=
    List.map_append
  cases hdrive : EpochProducer.drive (log.map Prod.fst) fresh with
  | none =>
    have hnone : EpochProducer.drive (log.map Prod.fst ++ [method]) fresh = none := by
      rw [EpochProducer.drive_append, hdrive, Option.bind_none]
    refine ⟨fun _ => Nat.le_trans (h.spent hdrive) (Nat.add_le_add_left hle _),
      fun flags producer hsome => ?_⟩
    rw [hmap, hnone] at hsome
    cases hsome
  | some r =>
    obtain ⟨flags, producer⟩ := r
    obtain ⟨rfl, htracks, hsources⟩ := h.tracks _ _ hdrive
    have hwp := hsimulates producer htracks
    have hcounters := EpochProducer.sourceSeq_of_call htracks.represents.1 htracks.represents.2
      hsources method
    have hall : EpochProducer.drive (log.map Prod.fst ++ [method]) fresh =
        (EpochProducer.drive [method] producer).map fun s => (log.map Prod.snd ++ s.1, s.2) := by
      rw [EpochProducer.drive_append, hdrive, Option.bind_some]
    have hdone : ∀ flag producer',
        EpochProducer.drive [method] producer = some ([flag], producer') →
        (∀ sourceId ∈ producer'.sourceSeq,
          sourceId ∈ EpochProducer.sourcesOfRun (log ++ [(method, flag)])) →
        (producer'.sourceSeq.size ≤ 16 → failed = flag ∧ p'.Tracks producer') →
        FollowedBy fresh (log ++ [(method, failed)]) p' := by
      intro flag producer' hone hsources' hend
      rw [hone, Option.map_some] at hall
      have hcard : (EpochProducer.sourcesOfRun (log ++ [(method, flag)])).card ≤ 16 := by
        rw [EpochProducer.sourcesOfRun_concat] at hused' ⊢
        exact EpochProducer.card_sourcesAfter hused hused' flag
      obtain ⟨rfl, htracks'⟩ := hend ((size_le_card hsources').trans hcard)
      rw [← hmap] at hall
      refine ⟨fun hnone => ?_, fun flags final hsome => ?_⟩
      · rw [hall] at hnone
        cases hnone
      · rw [hall] at hsome
        cases hsome
        exact ⟨by rw [List.map_append]; rfl, htracks', hsources'⟩
    unfold Simulates Mut.wp at hwp
    unfold Mut.wp at hcounters
    rcases Mut.run_cases method.run producer with
      ⟨a, producer', hrun⟩ | ⟨e, producer', hrun⟩ | ⟨producer', hrun⟩
    · rw [hrun] at hwp hcounters
      refine hdone false producer' (by rw [EpochProducer.drive, hrun]; rfl) ?_ hwp
      rwa [EpochProducer.sourcesOfRun_concat]
    · rw [hrun] at hwp hcounters
      refine hdone true producer' (by rw [EpochProducer.drive, hrun]; rfl) ?_ hwp
      rwa [EpochProducer.sourcesOfRun_concat]
    · rw [hrun] at hwp
      rw [show EpochProducer.drive [method] producer = none by rw [EpochProducer.drive, hrun],
        Option.map_none, ← hmap] at hall
      refine ⟨fun _ => hwp, fun flags final hsome => ?_⟩
      rw [hall] at hsome
      cases hsome

/-- The producers before the first call. -/
lemma follows_init {fresh : EpochProducer} (hnew : EpochProducer.new 256 1 1 = .ok fresh) :
    FollowedBy fresh [] init := by
  unfold EpochProducer.new at hnew
  obtain ⟨ring, hring, hfresh⟩ := Outcome.bind_eq_ok.mp hnew
  rw [Outcome.mapErr_eq_ok] at hring
  cases hfresh
  have hmirror : Ring256.new.Follows ring [] := Ring256.follows_new hring
  have htracks : init.core.Tracks init.sourceTime ring [] ∅ :=
    { follows := hmirror
      clock := rfl
      sound := sound_noSources.1
      counters := fun sourceId => by
        rw [Std.TreeMap.getElem?_emptyc]
        exact (numberOf_noSources sourceId).symm
      systemSeq_le := Nat.zero_le _
      counter_le := fun sourceId next hnext => by
        rw [Std.TreeMap.getElem?_emptyc] at hnext
        cases hnext }
  refine ⟨fun hnone => absurd hnone (by simp [EpochProducer.drive]), fun flags producer hsome => ?_⟩
  simp only [List.map_nil, EpochProducer.drive, Option.some.injEq, Prod.mk.injEq] at hsome
  obtain ⟨rfl, rfl⟩ := hsome
  exact ⟨rfl, ⟨ring, [], ∅, rfl, htracks, Nat.le_refl _⟩, fun sourceId hmem =>
    absurd hmem Std.TreeMap.not_mem_emptyc⟩

/-- **The run of the byte-pool producer follows that of the function block.** -/
lemma follows_of_driven {fresh : EpochProducer} {log : List (EpochCall × Bool)}
    (hnew : EpochProducer.new 256 1 1 = .ok fresh) (hdriven : Driven arith log p)
    (hover : p.store.ring.lossRangeOverflow = false)
    (hsources : ∀ part, part <+: log → (EpochProducer.sourcesOfRun part).card ≤ 16) :
    FollowedBy fresh log p := by
  induction hdriven with
  | init => exact follows_init hnew
  | @idle log inputs p p' _ hedge hcall ih =>
    have h := ih ((store_call hcall).2 hover) hsources
    have hle := (store_call hcall).1
    rw [call_idle hedge] at hcall
    cases hcall
    refine ⟨fun hnone => Nat.le_trans (h.spent hnone) (Nat.add_le_add_left hle _),
      fun flags producer hsome => ?_⟩
    obtain ⟨hflags, htracks, hcounters⟩ := h.tracks _ _ hsome
    exact ⟨hflags, htracks.enter inputs, hcounters⟩
  | @call log inputs method p p' _ hedge hplain hcheckpoint hasks hcall ih =>
    have h := ih ((store_call hcall).2 hover) fun part hfront =>
      hsources part (hfront.trans (List.prefix_append _ _))
    exact h.concat (store_call hcall).1 (hsources _ (List.prefix_append _ _))
      (hsources _ List.prefix_rfl) fun producer htracks =>
        simulates_call hedge hplain hcheckpoint hasks htracks hcall hover
  | @sweep log sourceIds p p' failed _ hascending hall hcalled hswept ih =>
    have h := ih ((store_swept hswept).2 hover) fun part hfront =>
      hsources part (hfront.trans (List.prefix_append _ _))
    exact h.concat (store_swept hswept).1 (hsources _ (List.prefix_append _ _))
      (hsources _ List.prefix_rfl) fun producer htracks =>
        simulates_sweep htracks hascending hall hcalled hswept hover

/-- The outputs are those of the ring. -/
lemma outputs_call (h : p.outputs = p.store.ring.outputs) (hcall : p.call arith inputs = some p') :
    p'.outputs = p'.store.ring.outputs := by
  by_cases hedge : p.edge inputs = true
  · unfold call at hcall
    rw [hedge, if_pos rfl] at hcall
    obtain ⟨q, -, rfl⟩ := Option.map_eq_some_iff.mp hcall
    rfl
  · rw [Bool.not_eq_true] at hedge
    rw [call_idle hedge] at hcall
    cases hcall
    have hring : (p.enter inputs).store.ring = p.store.ring := by
      have hcore : (p.enter inputs).core = _ := core_enter
      rw [show (p.enter inputs).store = _ from congrArg Core.store hcore]
      split_ifs <;> rfl
    change p.outputs = (p.enter inputs).store.ring.outputs
    rw [hring, h]

lemma outputs_swept {sourceIds : List UInt32} {failed : Bool}
    (hswept : Swept arith sourceIds p failed p') (h : p.outputs = p.store.ring.outputs) :
    p'.outputs = p'.store.ring.outputs := by
  induction hswept with
  | nil => exact h
  | idle _ hcall _ ih => exact ih (outputs_call h hcall)
  | checkpoint _ _ _ _ hcall _ ih => exact ih (outputs_call h hcall)

lemma outputs_driven {log : List (EpochCall × Bool)} (hdriven : Driven arith log p) :
    p.outputs = p.store.ring.outputs := by
  induction hdriven with
  | init => rfl
  | idle _ _ hcall ih => exact outputs_call ih hcall
  | call _ _ _ _ _ hcall ih => exact outputs_call ih hcall
  | sweep _ _ _ _ hswept ih => exact outputs_swept hswept ih

/-- A call of the kind compared ends. -/
lemma call_isSome (h : inputs.checkpoint = true ∨ ∃ method, inputs.Asks method) :
    ∃ p', p.call arith inputs = some p' := by
  have hfits : (p.enter inputs).FitsBuffer arith inputs := by
    refine ⟨fun hcheckpoint hop _ _ _ => ?_, fun hcheckpoint hop => ?_⟩
    all_goals
      rcases h with h | ⟨method, hasks⟩
      · rw [hcheckpoint] at h
        cases h
    · cases hasks with
      | message _ _ hmessage =>
        rw [messageSlots_of_isMinimal hmessage]
        decide
      | _ hop' => exact absurd (hop.symm.trans hop') (by decide)
    · cases hasks <;> exact absurd (hop.symm.trans ‹inputs.op = _›) (by decide)
  obtain ⟨q, hq⟩ := operate_isSome_iff.mpr hfits
  unfold call
  split_ifs
  · exact ⟨_, by rw [hq, Option.map_some]⟩
  · exact ⟨_, rfl⟩

end Producer

/-- A message of source 5. -/
def firstMessage : Inputs := { execute := true, sourceId := 5 }

end St

end OpenOT
