import OpenOT.Carriage.EpochCalls
import OpenOT.St.Sources

set_option relaxedAutoImplicit false
set_option autoImplicit false

/-!
# Driving the two producers by the same calls

`OPENOT_Producer` and `EpochProducer` have the same methods, called in different ways: the function
block takes an edge of `Execute` for each, and one `Checkpoint` call for every source instead of one
for all. The calls of one are matched with those of the other here.

## Main definitions

* `OpenOT.EpochProducer.drive` — a run of calls of the byte-pool producer, with how each ends.
* `OpenOT.St.Inputs.Asks` — the method that the inputs of a call ask for.
* `OpenOT.St.Producer.Swept` — a sweep of `Checkpoint` calls.
* `OpenOT.St.Producer.Driven` — the states that such calls reach, with the methods called.

## Main results

* `OpenOT.EpochProducer.drive_append` — a run is driven in parts.
* `OpenOT.St.Producer.beginTransition_eq`, `OpenOT.St.Producer.finishCold_eq`, … — what an operation
  leaves when its records have been published.

## Design

Calls without an edge of `Execute` may come at any time, also within a sweep. The `Op` of a
`Checkpoint` call is not one of 6 to 16: with those, the function block would leave the scan list as
it is. A sweep is called for every source of the table, in ascending order; when there is none, no
call is made, and nothing is compared while a transition is open.
-/

namespace OpenOT

open Rust

/-! ## The byte-pool producer -/

namespace EpochProducer

/-- A run of calls, with whether each has returned an `Err`; there is none if a call panics. -/
def drive : List EpochCall → EpochProducer → Option (List Bool × EpochProducer)
  | [], producer => some ([], producer)
  | call :: calls, producer =>
    match call.run producer with
    | (.panic, _) => none
    | (outcome, producer') => (drive calls producer').map fun r => (outcome.isErr :: r.1, r.2)

/-- A run is driven in parts. -/
lemma drive_append {calls more : List EpochCall} {producer : EpochProducer} :
    drive (calls ++ more) producer =
      (drive calls producer).bind fun r => (drive more r.2).map fun s => (r.1 ++ s.1, s.2) := by
  induction calls generalizing producer with
  | nil => simp [drive]
  | cons call calls ih =>
    rw [List.cons_append, drive, drive]
    split
    · rfl
    · rw [ih, Option.map_bind, Option.bind_map]
      refine Option.bind_congr fun r _ => ?_
      rw [Function.comp_apply, Option.map_map]
      rfl

/-- The sources used in a run after one call more. A cold start begins the next run. -/
def sourcesAfter (used : Finset UInt32) (entry : EpochCall × Bool) : Finset UInt32 :=
  match entry with
  | (.emitData sourceId _, _) => insert sourceId used
  | (.finishColdStart, false) => ∅
  | _ => used

@[simp] lemma sourcesAfter_emitData {used : Finset UInt32} {sourceId eventTypeId : UInt32}
    {failed : Bool} : sourcesAfter used (.emitData sourceId eventTypeId, failed) =
      insert sourceId used := rfl

@[simp] lemma sourcesAfter_cold {used : Finset UInt32} {failed : Bool} :
    sourcesAfter used (.finishColdStart, failed) = if failed then used else ∅ := by
  cases failed <;> rfl

/-- The sources used since the last cold start, given the calls and whether they have failed. -/
def sourcesOfRun (log : List (EpochCall × Bool)) : Finset UInt32 := log.foldl sourcesAfter ∅

/-- The sources used in a run after one call more. -/
@[simp] lemma sourcesOfRun_concat {log : List (EpochCall × Bool)} {entry : EpochCall × Bool} :
    sourcesOfRun (log ++ [entry]) = sourcesAfter (sourcesOfRun log) entry := by
  rw [sourcesOfRun, List.foldl_concat, sourcesOfRun]

/-- Whatever way a call ends, it uses at most 16 sources if it does so when it ends as it has. -/
lemma card_sourcesAfter {used : Finset UInt32} {call : EpochCall} {failed : Bool}
    (hused : used.card ≤ 16) (h : (sourcesAfter used (call, failed)).card ≤ 16) (flag : Bool) :
    (sourcesAfter used (call, flag)).card ≤ 16 := by
  cases call with
  | finishColdStart => cases flag <;> simp [hused]
  | _ => exact h

/-- Checkpoints of every counter add no source. -/
lemma Marked.mem_sourceSeq {producer producer' : EpochProducer}
    (h : Marked producer producer.sourceSeq.toList producer')
    (hring : producer.ring.Represents producer.written) {sourceId : UInt32}
    (hmem : sourceId ∈ producer'.sourceSeq) : sourceId ∈ producer.sourceSeq := by
  obtain ⟨ring, time, sourceSeq, ws, rfl, -, -, -, hsources⟩ := h.spec hring
  rcases (hsources sourceId).mp hmem with hmem | hmem
  · exact hmem
  · rwa [Std.TreeMap.map_fst_toList_eq_keys, Std.TreeMap.mem_keys] at hmem

/-- **The counters belong to the sources used in the run.** In a ring with room for every record of
the producer, a call that fails changes nothing. -/
lemma sourceSeq_of_call {producer : EpochProducer} {used : Finset UInt32}
    (hring : producer.ring.Represents producer.written) (hroom : 80 ≤ producer.ring.capacity)
    (hused : ∀ sourceId ∈ producer.sourceSeq, sourceId ∈ used) (call : EpochCall) :
    call.run.wp
      (fun _ producer' => ∀ sourceId ∈ producer'.sourceSeq,
        sourceId ∈ sourcesAfter used (call, false))
      (fun _ producer' => ∀ sourceId ∈ producer'.sourceSeq,
        sourceId ∈ sourcesAfter used (call, true))
      (fun _ => True) producer := by
  refine Mut.wp_mono (call_spec hring call) ?_ ?_ fun _ _ => trivial
  · rintro - producer' hdid
    cases hdid with
    | emitData =>
      intro source hmem
      simp only [take, Std.TreeMap.mem_insert, Std.TreeMap.mem_insertIfNew,
        Std.LawfulEqCmp.compare_eq_iff_eq] at hmem
      have hsource := hused source
      rw [sourcesAfter_emitData, Finset.mem_insert]
      tauto
    | checkpoint _ hmarked =>
      exact fun source hmem => hused source (hmarked.mem_sourceSeq hring hmem)
    | began _ _ _ htook hmarked =>
      exact fun source hmem => hused source (hmarked.mem_sourceSeq htook.represents hmem)
    | cold => exact fun source hmem => absurd hmem Std.TreeMap.not_mem_emptyc
    | _ => exact hused
  · rintro - producer' (rfl | ⟨hlt, -⟩)
    · intro source hmem
      have hsource := hused source hmem
      cases call with
      | emitData => exact Finset.mem_insert_of_mem hsource
      | _ => exact hsource
    · exact absurd hlt (Nat.not_lt.mpr hroom)

end EpochProducer

namespace St

/-! ## The controller -/

/-- A message of template 0 without arguments and severity. -/
def MessageInputs.IsMinimal (message : MessageInputs) : Prop :=
  message.templateId = 0 ∧ message.argCount = 0 ∧ message.hasSeverity = false

/-- The method that the inputs of a call ask for. -/
inductive Inputs.Asks (inputs : Inputs) : EpochCall → Prop
  | message (hop : inputs.op = 0) (hsource : inputs.sourceId ≠ 0)
      (hmessage : inputs.message.IsMinimal) :
      Asks inputs (.emitData inputs.sourceId EVENT_MESSAGE)
  | beginTransition (hop : inputs.op = 1) : Asks inputs
      (.beginEpochTransition inputs.defHashOld inputs.defHashNew inputs.transitionEpochId)
  | changeDefinition (hop : inputs.op = 2) : Asks inputs .emitDefinitionChanged
  | finishWarm (hop : inputs.op = 3) : Asks inputs .finishDefinitionChange
  | finishCold (hop : inputs.op = 4) : Asks inputs .finishColdStart

/-- An edge that runs on the own clock and with an empty scan list. -/
structure Inputs.Plain (inputs : Inputs) : Prop where
  useSourceTimeInput : inputs.useSourceTimeInput = false
  accumulateScanRecords : inputs.accumulateScanRecords = false

namespace Producer

/-- A sweep: a `Checkpoint` call for each of some sources, and whether one has ended in `Error`. -/
inductive Swept (arith : RealArith) : List UInt32 → Producer → Bool → Producer → Prop
  | nil (p : Producer) : Swept arith [] p false p
  | idle {sourceIds : List UInt32} {inputs : Inputs} {p q r : Producer} {failed : Bool}
      (hedge : p.edge inputs = false) (hcall : p.call arith inputs = some q)
      (hrest : Swept arith sourceIds q failed r) : Swept arith sourceIds p failed r
  | checkpoint {sourceIds : List UInt32} {inputs : Inputs} {p q r : Producer} {failed : Bool}
      (hedge : p.edge inputs = true) (hplain : inputs.Plain)
      (hcheckpoint : inputs.checkpoint = true) (hop : isDataOp inputs.op = false)
      (hcall : p.call arith inputs = some q) (hrest : Swept arith sourceIds q failed r) :
      Swept arith (inputs.sourceId :: sourceIds) p (q.error || failed) r

/-- The states that the calls reach, with the methods that they stand for and whether they have
ended in `Error`. -/
inductive Driven (arith : RealArith) : List (EpochCall × Bool) → Producer → Prop
  | init : Driven arith [] init
  | idle {log : List (EpochCall × Bool)} {inputs : Inputs} {p p' : Producer}
      (h : Driven arith log p) (hedge : p.edge inputs = false)
      (hcall : p.call arith inputs = some p') : Driven arith log p'
  | call {log : List (EpochCall × Bool)} {inputs : Inputs} {method : EpochCall} {p p' : Producer}
      (h : Driven arith log p) (hedge : p.edge inputs = true) (hplain : inputs.Plain)
      (hcheckpoint : inputs.checkpoint = false) (hasks : inputs.Asks method)
      (hcall : p.call arith inputs = some p') : Driven arith (log ++ [(method, p'.error)]) p'
  | sweep {log : List (EpochCall × Bool)} {sourceIds : List UInt32} {p p' : Producer}
      {failed : Bool} (h : Driven arith log p) (hascending : sourceIds.Pairwise (· < ·))
      (hall : ∀ sourceId, sourceId ∈ sourceIds ↔ ∃ i, isSource sourceId (p.sources.get i) = true)
      (hcalled : p.pending.isOpen = true → sourceIds ≠ [])
      (hswept : Swept arith sourceIds p failed p') :
      Driven arith (log ++ [(.checkpointHighWater, failed)]) p'

variable {arith : RealArith} {inputs : Inputs} {p p' q r : Producer}

/-! ## The steps of the controller -/

/-- Every record of the system source moves the clock. -/
lemma sourceTime_emitSystem {eventTypeId : UInt32} {encode : UInt64 → UInt64 → Option Encoded}
    (h : p.emitSystem inputs eventTypeId encode = some p') :
    p'.sourceTime = (p.tick inputs).sourceTime := by
  unfold emitSystem at h
  obtain ⟨encoded, -, h⟩ := Option.bind_eq_some_iff.mp h
  dsimp only at h
  split_ifs at h <;> cases h <;> rfl

/-- Every high-water record moves the clock. -/
lemma sourceTime_highWater {index : Fin 16} (h : p.highWater inputs index = some p') :
    p'.sourceTime = (p.tick inputs).sourceTime := by
  unfold highWater at h
  obtain ⟨encoded, -, h⟩ := Option.bind_eq_some_iff.mp h
  dsimp only at h
  split_ifs at h <;> cases h <;> rfl

/-- The clock of a call on the own clock. -/
lemma sourceTime_tick (hplain : inputs.Plain) :
    (p.tick inputs).sourceTime = p.sourceTime + 1 ∧ p.nextSourceTime inputs = p.sourceTime := by
  simp [tick, nextSourceTime, hplain.useSourceTimeInput]

/-- A message of a source with an entry, when no transition is open. -/
lemma message_of_entry {index : Fin 16} {sources : Vector SourceEntry 16}
    (hopen : p.pending.isOpen = false) (hsource : inputs.sourceId ≠ 0)
    (hfind : openSource inputs.sourceId p.sources = some (index, sources))
    (h : p.message inputs = some p') :
    ∃ encoded, encodeMinimalMessage ⟨p.nextSourceTime inputs, p.runId,
        (sources.get index).nextSeq, inputs.sourceId⟩ inputs.message = some encoded ∧
      p'.sourceTime = (p.tick inputs).sourceTime ∧
      p'.error = (p.error || !p.store.takes encoded.length) ∧
      let counted := { p.core with sources := sources }.countBefore inputs 0x0003 inputs.sourceId
        index encoded
      p'.core = if p.store.takes encoded.length then
          counted.attest inputs inputs.sourceId (sources.get index).nextSeq
        else counted := by
  unfold message at h
  rw [if_neg (by simp [hopen]), if_neg hsource, hfind] at h
  obtain ⟨encoded, hencoded, h⟩ := Option.bind_eq_some_iff.mp h
  refine ⟨encoded, hencoded, ?_⟩
  dsimp only [publish, tick, advance, nextSeq] at h
  rw [Store.appendOk_publish] at h
  by_cases htakes : p.store.takes encoded.length = true
  · rw [if_pos htakes] at h
    cases h
    refine ⟨rfl, ?_, (if_pos htakes).symm⟩
    rw [htakes]
    exact (Bool.or_false _).symm
  · rw [if_neg htakes] at h
    cases h
    refine ⟨rfl, ?_, (if_neg htakes).symm⟩
    rw [Bool.not_eq_true] at htakes
    rw [htakes]
    exact (Bool.or_true _).symm

/-- A `Checkpoint` call of a source with an entry, when no transition is open. -/
lemma checkpoint_of_entry {index : Fin 16} (hopen : p.pending.isOpen = false)
    (hsource : inputs.sourceId ≠ 0)
    (hfind : findEntry p.sources (isSource inputs.sourceId) = some index)
    (h : p.checkpoint inputs = some p') : ∃ q, p.highWater inputs index = some q ∧
      p'.core = q.core ∧ p'.error = q.error ∧ p'.sourceTime = q.sourceTime := by
  unfold checkpoint at h
  rw [if_neg (by simp [hopen]), if_neg hsource, hfind] at h
  obtain ⟨q, hq, h⟩ := Option.bind_eq_some_iff.mp h
  refine ⟨q, hq, ?_⟩
  split_ifs at h <;> cases h <;> exact ⟨rfl, rfl, rfl⟩

/-- A `Checkpoint` call. -/
lemma call_checkpoint (hedge : p.edge inputs = true) (hcheckpoint : inputs.checkpoint = true) :
    p.call arith inputs = ((p.enter inputs).checkpoint inputs).map (leave inputs true) := by
  unfold call
  rw [hedge, if_pos rfl, operate, if_pos hcheckpoint]

/-- A call that is no edge of `Execute`. -/
lemma call_idle (hedge : p.edge inputs = false) :
    p.call arith inputs = some (leave inputs false (p.enter inputs)) := by
  unfold call
  rw [hedge]
  rfl

/-- At the start of a call of the kind compared, the scan list is empty. -/
lemma room_enter (hedge : p.edge inputs = true) (hplain : inputs.Plain)
    (hop : isDataOp inputs.op = false) :
    (p.enter inputs).store.scan.count = 0 ∧ (p.enter inputs).store.scan.writePos = 0 := by
  have hresets : p.resets inputs = true := by
    rw [resets, hedge, hplain.accumulateScanRecords, hop]
    simp
  have hstore : (p.enter inputs).store = p.store.reset := if_pos hresets
  rw [hstore]
  exact ⟨rfl, rfl⟩

/-- Operation 1, when its records have been published. -/
lemma beginTransition_eq (hopen : p.pending.isOpen = false)
    (hq : p.emitSystem inputs 0x0102 (encodeLoggerStopped p.runId) = some q)
    (hfine : q.error = false) (hr : q.highWaterLoop inputs 17 none = some r)
    (hdone : r.error = false) : p.beginTransition inputs = some { r.finish with pending :=
      ⟨inputs.defHashOld, inputs.defHashNew, inputs.transitionEpochId, true, false⟩ } := by
  simp [beginTransition, hopen, hq, hfine, hr, hdone]

/-- Operation 2, when its record has been published. -/
lemma changeDefinition_eq (hopen : p.pending.isOpen = true)
    (hemitted : p.pending.defChangedEmitted = false)
    (hq : p.emitSystem inputs 0x0106 (fun seq sourceTime => encodeDefinitionChanged p.runId seq
      p.pending.defHashOld p.pending.defHashNew p.pending.epochId sourceTime) = some q)
    (hfine : q.error = false) : p.changeDefinition inputs =
      some { q.finish with pending := { q.pending with defChangedEmitted := true } } := by
  simp [changeDefinition, hopen, hemitted, hq, hfine, finish]

/-- Operation 3, when its record has been published. -/
lemma finishWarm_eq (hopen : p.pending.isOpen = true)
    (hemitted : p.pending.defChangedEmitted = true)
    (hq : emitSystem inputs 0x0101 (fun seq => encodeLoggerStarted p.runId seq false)
      { p with epochId := p.pending.epochId } = some q) (hfine : q.error = false) :
    p.finishWarm inputs = some { q.started with attestableEvents := .blank } := by
  simp [finishWarm, hopen, hemitted, hq, hfine]

/-- Operation 4, when its record has been published. -/
lemma finishCold_eq (hopen : p.pending.isOpen = true)
    (hemitted : p.pending.defChangedEmitted = true)
    (hq : p.coldStarted.emitSystem inputs 0x0101
      (fun seq => encodeLoggerStarted (p.runId + 1) seq true) = some q) (hfine : q.error = false) :
    p.finishCold inputs = some q.started := by
  unfold coldStarted at hq
  simp [finishCold, hopen, hemitted, hq, hfine]

end Producer

end St

end OpenOT
