import Mathlib.Data.List.Sort
import OpenOT.Carriage.Registry
import OpenOT.Carriage.Ring

set_option relaxedAutoImplicit false
set_option autoImplicit false

/-!
# The epoch resolver

The resolver of `epoch.rs`: it is fed records in order, learns from those that bracket a change of
definition where each epoch begins, and says in which epoch a record at an absolute offset was
written.

## Main definitions

* `OpenOT.EpochResolver` — the resolver: a default epoch for each run, the boundaries of each run,
  and the epoch announced by the last `DefinitionChanged`.
* `OpenOT.EpochResolver.observe`, `OpenOT.EpochResolver.resolve` — its methods.

## Main results

* `OpenOT.EpochResolver.resolve_started`, `OpenOT.EpochResolver.resolve_before_started` — what a
  new boundary changes, and what it does not.
-/

namespace OpenOT

open Rust

/-- Replays system records to map an absolute offset of a run to its epoch. -/
structure EpochResolver where
  bufferId : UInt32
  runDefaultEpoch : Std.TreeMap UInt64 UInt64
  epochBoundaries : Std.TreeMap UInt64 (List (ℕ × UInt64))
  pendingEpoch : Option UInt64

/-- The epoch that a `DefinitionChanged` record announces: its last slot of that kind. -/
def definitionChangedEpoch (record : Record) : Option UInt64 :=
  record.slots.foldl (fun epochId slot =>
    if slot.key = KEY_EPOCH_ID ∧ slot.payload.length = 8 then
      some (UInt64.ofNat (fromLe slot.payload))
    else epochId) none

/-- Whether a `LoggerStarted` record says that it is a cold start. -/
def loggerStartedColdStart (record : Record) : Option Bool :=
  (record.slots.find? fun slot =>
    decide (slot.key = KEY_COLD_START ∧ slot.payload.length = 1)).map fun slot =>
      slot.payload.getD 0 0 != 0

namespace EpochResolver

/-- A resolver that knows the epoch the first run starts in. -/
def new (bufferId : UInt32) (initialRunId initialEpochId : UInt64) : EpochResolver where
  bufferId := bufferId
  runDefaultEpoch := (∅ : Std.TreeMap UInt64 UInt64).insert initialRunId initialEpochId
  epochBoundaries := ∅
  pendingEpoch := none

/-- `boundaries.sort_by_key(|(start_abs, _)| *start_abs)`. -/
def sortBoundaries (boundaries : List (ℕ × UInt64)) : List (ℕ × UInt64) :=
  boundaries.insertionSort fun a b => a.1 ≤ b.1

/-- `self.epoch_boundaries.entry(run_id).or_default().push((start_abs, pending))`. -/
def push (resolver : EpochResolver) (runId : UInt64) (startAbs : ℕ) (pending : UInt64) :
    Std.TreeMap UInt64 (List (ℕ × UInt64)) :=
  resolver.epochBoundaries.insert runId
    (resolver.epochBoundaries.getD runId [] ++ [(startAbs, pending)])

/-- Feeds one record to the resolver. -/
def observe (resolver : EpochResolver) (bufferId : UInt32) (read : ReadRecord) : EpochResolver :=
  if bufferId ≠ resolver.bufferId then resolver
  else if read.record.eventTypeId = EVENT_DEFINITION_CHANGED then
    { resolver with pendingEpoch := definitionChangedEpoch read.record }
  else if read.record.eventTypeId = EVENT_LOGGER_STARTED then
    match resolver.pendingEpoch with
    | none => resolver
    | some pending =>
      if (loggerStartedColdStart read.record).getD false then
        { resolver with
          pendingEpoch := none
          runDefaultEpoch := resolver.runDefaultEpoch.insert read.record.runId pending
          epochBoundaries := resolver.push read.record.runId read.startAbs pending }
      else
        { resolver with
          pendingEpoch := none
          epochBoundaries := (resolver.push read.record.runId read.startAbs pending).map
            fun _ boundaries => sortBoundaries boundaries }
  else resolver

/-- The epoch of the last boundary at or before an offset. -/
def latest (boundaries : List (ℕ × UInt64)) (startAbs : ℕ) : Option UInt64 :=
  (boundaries.reverse.find? fun boundary => decide (boundary.1 ≤ startAbs)).map Prod.snd

/-- The epoch of a record at an absolute offset of a run, or the default of the run. -/
def resolve (resolver : EpochResolver) (bufferId : UInt32) (runId : UInt64) (startAbs : ℕ) :
    Option UInt64 :=
  if bufferId ≠ resolver.bufferId then none
  else (resolver.epochBoundaries[runId]?.bind fun boundaries => latest boundaries startAbs).or
    resolver.runDefaultEpoch[runId]?

/-- Feeds records to the resolver, one after the other. -/
def observeAll (resolver : EpochResolver) (bufferId : UInt32) (records : List ReadRecord) :
    EpochResolver :=
  records.foldl (fun resolver read => resolver.observe bufferId read) resolver

/-! ## Boundaries -/

variable {resolver : EpochResolver} {bufferId : UInt32} {runId : UInt64} {startAbs : ℕ}

/-- The boundaries of a run. -/
def boundaries (resolver : EpochResolver) (runId : UInt64) : List (ℕ × UInt64) :=
  resolver.epochBoundaries.getD runId []

lemma latest_nil : latest [] startAbs = none := rfl

/-- The last boundary counts from its offset on. -/
lemma latest_concat (boundaries : List (ℕ × UInt64)) (boundary : ℕ × UInt64) :
    latest (boundaries ++ [boundary]) startAbs =
      if boundary.1 ≤ startAbs then some boundary.2 else latest boundaries startAbs := by
  unfold latest
  rw [List.reverse_append, List.reverse_singleton, List.singleton_append, List.find?_cons]
  split_ifs with hle
  · simp [hle]
  · simp [hle]

/-- A run resolves by its boundaries, and else by its default. -/
lemma resolve_eq (hbuffer : bufferId = resolver.bufferId) :
    resolver.resolve bufferId runId startAbs =
      (latest (resolver.boundaries runId) startAbs).or resolver.runDefaultEpoch[runId]? := by
  rw [resolve, if_neg (not_not.mpr hbuffer), boundaries, Std.TreeMap.getD_eq_getD_getElem?]
  cases resolver.epochBoundaries[runId]? <;> rfl

/-- The resolver knows nothing of a run: it has neither a default nor a boundary for it. -/
def Unknown (resolver : EpochResolver) (runId : UInt64) : Prop :=
  resolver.boundaries runId = [] ∧ resolver.runDefaultEpoch[runId]? = none

instance : DecidablePred resolver.Unknown := fun runId =>
  inferInstanceAs (Decidable (resolver.boundaries runId = [] ∧
    resolver.runDefaultEpoch[runId]? = none))

/-- A record of an unknown run is not resolved. -/
lemma Unknown.resolve (h : resolver.Unknown runId) :
    resolver.resolve bufferId runId startAbs = none := by
  by_cases hbuffer : bufferId = resolver.bufferId
  · rw [resolve_eq hbuffer, h.1, h.2]
    rfl
  · rw [EpochResolver.resolve, if_pos hbuffer]

/-- The boundaries stand in order, all of them below an offset. -/
structure Ordered (resolver : EpochResolver) (head : ℕ) : Prop where
  sorted : ∀ runId, (resolver.boundaries runId).Pairwise fun a b => a.1 ≤ b.1
  below : ∀ runId, ∀ boundary ∈ resolver.boundaries runId, boundary.1 < head

lemma Ordered.mono {head head' : ℕ} (h : resolver.Ordered head) (hle : head ≤ head') :
    resolver.Ordered head' :=
  ⟨h.sorted, fun runId boundary hmem => (h.below runId boundary hmem).trans_le hle⟩

/-- A boundary behind all others keeps the order. -/
lemma Ordered.concat {head : ℕ} (h : resolver.Ordered head) (hle : head ≤ startAbs)
    (runId : UInt64) (pending : UInt64) :
    (resolver.boundaries runId ++ [(startAbs, pending)]).Pairwise fun a b => a.1 ≤ b.1 := by
  refine List.pairwise_append.mpr ⟨h.sorted runId, List.pairwise_singleton _ _, ?_⟩
  intro a ha b hb
  rw [List.mem_singleton.mp hb]
  exact ((h.below runId a ha).trans_le hle).le

/-- Sorting what is in order changes nothing. -/
lemma sortBoundaries_of_pairwise {bs : List (ℕ × UInt64)}
    (h : bs.Pairwise fun a b => a.1 ≤ b.1) : sortBoundaries bs = bs :=
  List.Pairwise.insertionSort_eq h

/-- **What a `LoggerStarted` record does**, when an epoch is pending: its run gets a boundary, and
a default if it is a cold start. -/
lemma observe_started {head : ℕ} (h : resolver.Ordered head) {read : ReadRecord}
    (hhead : head ≤ read.startAbs) (hevent : read.record.eventTypeId = EVENT_LOGGER_STARTED)
    {pending : UInt64} (hpending : resolver.pendingEpoch = some pending) :
    (resolver.observe resolver.bufferId read).bufferId = resolver.bufferId ∧
    (resolver.observe resolver.bufferId read).pendingEpoch = none ∧
    (∀ run, (resolver.observe resolver.bufferId read).boundaries run =
      if run = read.record.runId then resolver.boundaries run ++ [(read.startAbs, pending)]
      else resolver.boundaries run) ∧
    ∀ run, (resolver.observe resolver.bufferId read).runDefaultEpoch[run]? =
      if (loggerStartedColdStart read.record).getD false ∧ run = read.record.runId
      then some pending else resolver.runDefaultEpoch[run]? := by
  have hchanged : read.record.eventTypeId ≠ EVENT_DEFINITION_CHANGED := by
    rw [hevent]
    decide
  have hpush : ∀ run, (resolver.push read.record.runId read.startAbs pending).getD run [] =
      if run = read.record.runId then resolver.boundaries run ++ [(read.startAbs, pending)]
      else resolver.boundaries run := by
    intro run
    rw [push, Std.TreeMap.getD_insert]
    by_cases hrun : run = read.record.runId
    · subst hrun
      simp [boundaries]
    · simp [boundaries, hrun, Ne.symm hrun]
  simp only [observe, ne_eq, not_true_eq_false, if_false, if_neg hchanged, if_pos hevent, hpending]
  split_ifs with hcold
  · refine ⟨rfl, rfl, hpush, fun run => ?_⟩
    simp only [Std.TreeMap.getElem?_insert, Std.LawfulEqCmp.compare_eq_iff_eq, hcold, true_and,
      @eq_comm _ read.record.runId run]
  · refine ⟨rfl, rfl, fun run => ?_, fun run => by simp [hcold]⟩
    have hmap : ((resolver.push read.record.runId read.startAbs pending).map
        fun _ bs => sortBoundaries bs).getD run [] =
          sortBoundaries ((resolver.push read.record.runId read.startAbs pending).getD run []) := by
      rw [Std.TreeMap.getD_map, Std.TreeMap.getD_eq_getD_getElem?]
      cases (resolver.push read.record.runId read.startAbs pending)[run]? <;> rfl
    rw [boundaries, hmap, hpush]
    apply sortBoundaries_of_pairwise
    split_ifs
    · exact h.concat hhead run pending
    · exact h.sorted run

section Started

variable {head : ℕ} {read : ReadRecord} {pending : UInt64}

/-- The boundaries stay in order. -/
lemma Ordered.started (h : resolver.Ordered head) (hhead : head ≤ read.startAbs)
    (hspan : read.startAbs < read.endAbs)
    (hevent : read.record.eventTypeId = EVENT_LOGGER_STARTED)
    (hpending : resolver.pendingEpoch = some pending) :
    (resolver.observe resolver.bufferId read).Ordered read.endAbs := by
  obtain ⟨-, -, hboundaries, -⟩ := observe_started h hhead hevent hpending
  constructor
  · intro run
    rw [hboundaries]
    split_ifs
    · exact h.concat hhead run pending
    · exact h.sorted run
  · intro run boundary hmem
    have hold : ∀ b ∈ resolver.boundaries run, b.1 < read.endAbs := fun b hb =>
      (h.below run b hb).trans (hhead.trans_lt hspan)
    rw [hboundaries] at hmem
    split_ifs at hmem
    · rcases List.mem_append.mp hmem with hmem | hmem
      · exact hold boundary hmem
      · rw [List.mem_singleton.mp hmem]
        exact hspan
    · exact hold boundary hmem

/-- From the new boundary on its run is in the new epoch. -/
lemma resolve_started (h : resolver.Ordered head) (hhead : head ≤ read.startAbs)
    (hevent : read.record.eventTypeId = EVENT_LOGGER_STARTED)
    (hpending : resolver.pendingEpoch = some pending) (hle : read.startAbs ≤ startAbs) :
    (resolver.observe resolver.bufferId read).resolve resolver.bufferId read.record.runId startAbs =
      some pending := by
  obtain ⟨hbuffer, -, hboundaries, -⟩ := observe_started h hhead hevent hpending
  rw [resolve_eq hbuffer.symm, hboundaries, if_pos rfl, latest_concat, if_pos hle]
  rfl

/-- In front of the new boundary, and in other runs, nothing changes; a cold start is the first
record of its run. -/
lemma resolve_before_started (h : resolver.Ordered head) (hhead : head ≤ read.startAbs)
    (hevent : read.record.eventTypeId = EVENT_LOGGER_STARTED)
    (hpending : resolver.pendingEpoch = some pending) (hlt : startAbs < read.startAbs)
    (hrun : (loggerStartedColdStart read.record).getD false → runId ≠ read.record.runId) :
    (resolver.observe resolver.bufferId read).resolve resolver.bufferId runId startAbs =
      resolver.resolve resolver.bufferId runId startAbs := by
  obtain ⟨hbuffer, -, hboundaries, hdefault⟩ := observe_started h hhead hevent hpending
  have hsame := hdefault runId
  rw [if_neg fun hcold => hrun hcold.1 hcold.2] at hsame
  rw [resolve_eq hbuffer.symm, resolve_eq rfl, hboundaries, hsame]
  split_ifs with heq
  · rw [latest_concat, if_neg (Nat.not_le.mpr hlt)]
  · rfl

end Started

end EpochResolver

end OpenOT
