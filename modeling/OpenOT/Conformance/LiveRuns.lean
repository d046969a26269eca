import OpenOT.Conformance.LiveRecords

set_option relaxedAutoImplicit false
set_option autoImplicit false

/-!
# Runs of the live harness

Both processes of the harness over every interleaving: what the consumer reports and what the
verdict on it is depend on the arguments of the run alone.

## Main definitions

* `OpenOT.LiveHarness.LiveRun.Sound` — the invariant of a run.
* `OpenOT.LiveHarness.Reconciled` — what a report says of every source.

## Main results

* `OpenOT.LiveHarness.LiveRun.Sound.step`, `OpenOT.LiveHarness.LiveRun.sound_of_runs` — every step,
  and so every run, keeps the invariant.
* `OpenOT.harness_verdict_exact` — when a run passes.
* `OpenOT.harness_consumer_survives` — when the consumer does not fail.
-/

namespace OpenOT

open Rust CircularLog Shared Transition Conformance

/-! ## Steps of the ring -/

namespace SharedSystem

variable {capacity : ℕ} {sys sys' : SharedSystem}

/-- The ring goes on with the poll under way: only the consumer moves, and the poll has not ended or
has left one more result. -/
structure Polls (sys sys' : SharedSystem) : Prop where
  appended : sys'.appended = sys.appended
  stores : sys'.stores = sys.stores
  results : sys'.poll ≠ none ∧ sys'.results = sys.results ∨
    sys'.poll = none ∧ ∃ result, sys'.results = sys.results ++ [result]

lemma polls_proceed (sys : SharedSystem) (p : SharedPoll) : sys.Polls (sys.proceed p) := by
  cases p with
  | ret out => exact ⟨rfl, rfl, Or.inr ⟨rfl, out.1, rfl⟩⟩
  | load i k => exact ⟨rfl, rfl, Or.inl ⟨by simp [proceed], rfl⟩⟩

lemma polls_poll (h : sys.step capacity .poll = some sys') : sys.Polls sys' := by
  cases hpoll : sys.poll with
  | some p => simp [step, hpoll] at h
  | none =>
    simp only [step, hpoll, Option.some.injEq] at h
    exact h ▸ sys.polls_proceed _

lemma polls_load (h : sys.step capacity .load = some sys') : sys.Polls sys' := by
  cases hpoll : sys.poll with
  | none => simp [step, hpoll] at h
  | some p =>
    cases p with
    | ret out => simp [step, hpoll] at h
    | load i k =>
      simp only [step, hpoll, Option.some.injEq] at h
      exact h ▸ sys.polls_proceed _

/-- A store is one that is left of an append, and leaves the history alone. -/
lemma step_store (h : sys.step capacity .store = some sys') :
    sys.stores ≠ [] ∧ sys'.appended = sys.appended ∧ sys'.results = sys.results := by
  cases hstores : sys.stores with
  | nil => simp [step, hstores] at h
  | cons op stores =>
    simp only [step, hstores, Option.some.injEq] at h
    subst h
    exact ⟨List.cons_ne_nil _ _, rfl, rfl⟩

/-- An accepted call announces its entry. -/
lemma step_append {call : AppendCall} (hstores : sys.stores = [])
    (hpublishes : LiveHarness.LiveRun.publishes sys.producer call = true)
    (h : sys.step capacity (.append call) = some sys') :
    sys'.appended =
        sys.appended ++ [⟨sys.producer.nextStartAbs call.bytes.length, call.bytes⟩] ∧
      sys'.results = sys.results := by
  unfold LiveHarness.LiveRun.publishes at hpublishes
  cases hrun : call.run sys.producer with
  | mk result producer =>
    rw [hrun] at hpublishes
    cases result with
    | err e => cases hpublishes
    | panic => cases hpublishes
    | ok stores =>
      have hhead : producer.headAbs < 2 ^ 64 := of_decide_eq_true hpublishes
      simp only [step, hstores, hrun, if_pos hhead, Option.some.injEq] at h
      subst h
      exact ⟨rfl, rfl⟩

end SharedSystem

namespace LiveHarness

/-! ## What a report says -/

/-- The row of a source of which every record is counted, as delivered or as lost. -/
structure RowReconciled (args : RunArgs) (sourceId : UInt32) (row : SourceObserved) : Prop where
  source : row.sourceId = sourceId
  expected : row.expectedTotal.toNat = args.perSource.toNat + 1
  delivered : row.delivered ≠ 0
  total : row.delivered.toNat + row.lost.toNat = args.perSource.toNat + 1

/-- The report of a run in which every record of every source is counted. -/
structure Reconciled (args : RunArgs) (report : ObservedReport) : Prop where
  mode : report.mode = args.mode.asStr
  appendMode : report.appendMode = args.appendMode.asStr
  head : report.headAbs.toNat = headBehind args.cap 0 (plan args)
  evicted : args.cap < headBehind args.cap 0 (plan args) → report.lostCount ≠ 0
  quiet : report.staleViolations = []
  total_lt : args.sources.toNat * (args.perSource.toNat + 1) < 2 ^ 64
  rows : List.Forall₂ (RowReconciled args) (sourceIds args.sources) report.sources
  delivered : report.deliveredTotal.toNat =
    (report.sources.map fun source => source.delivered.toNat).sum
  lost : report.lostTotal.toNat = (report.sources.map fun source => source.lost.toNat).sum

section Rows

variable {args : RunArgs} {ids : List UInt32} {rows : List SourceObserved}

/-- The rows of all sources add up. -/
lemma sum_rows (h : List.Forall₂ (RowReconciled args) ids rows) :
    (rows.map fun row => row.delivered.toNat).sum + (rows.map fun row => row.lost.toNat).sum =
      ids.length * (args.perSource.toNat + 1) := by
  induction h with
  | nil => simp
  | cons hrow _ ih =>
    have := hrow.total
    simp only [List.map_cons, List.sum_cons, List.length_cons, Nat.add_one_mul]
    omega

/-- The rows are those of the sources. -/
lemma map_sourceId_rows (h : List.Forall₂ (RowReconciled args) ids rows) :
    rows.map (·.sourceId) = ids := by
  induction h with
  | nil => rfl
  | cons hrow _ ih => rw [List.map_cons, hrow.source, ih]

/-- Where there is a source, something was delivered. -/
lemma sum_delivered_pos (h : List.Forall₂ (RowReconciled args) ids rows) (hids : ids ≠ []) :
    0 < (rows.map fun row => row.delivered.toNat).sum := by
  cases h with
  | nil => exact absurd rfl hids
  | cons hrow _ =>
    have hne : _ ≠ (0 : UInt64).toNat := fun heq => hrow.delivered (UInt64.toNat_inj.mp heq)
    rw [UInt64.toNat_zero] at hne
    rw [List.map_cons, List.sum_cons]
    omega

/-- The sum of some counts, if it fits a word. -/
lemma checkedSum_eq {ε : Type} {counts : List UInt64} (h : (counts.map UInt64.toNat).sum < 2 ^ 64) :
    ∃ total, (checkedSum counts : Outcome ε UInt64) = .ok total ∧
      total.toNat = (counts.map UInt64.toNat).sum := by
  have hlt : (0 : UInt64).toNat + (counts.map UInt64.toNat).sum < 2 ^ 64 := by simpa using h
  obtain ⟨total, htotal, heq⟩ := LossTracker.foldlM_checkedAdd (ε := ε) hlt
  exact ⟨total, htotal, by simpa using heq⟩

/-- What is expected of some sources. -/
lemma expectedSources_eq {ε : Type} {perSource : UInt64}
    (h : ids ≠ [] → perSource.toNat + 1 < 2 ^ 64) :
    (expectedSources perSource ids : Outcome ε (List ExpectedSource)) =
      .ok (ids.map fun sourceId => ⟨RUN_ID, sourceId, perSource + 1⟩) := by
  induction ids with
  | nil => rfl
  | cons sourceId ids ih =>
    have hlt := h (List.cons_ne_nil _ _)
    rw [expectedSources, (checkedAdd_of_lt (ε := ε) (a := perSource) (b := 1) hlt).1, ih fun _ => hlt]
    rfl

/-- The rows of a report, if the consumer has counted every record of every source. -/
lemma observedSources_eq {accounting : LossAccountingConsumer}
    (htotal : ids ≠ [] → args.perSource.toNat + 1 < 2 ^ 64)
    (hcount : ∀ sourceId ∈ ids, accounting.deliveredInRun RUN_ID sourceId ≠ 0 ∧
      ∃ lost, accounting.lostInRun RUN_ID sourceId = .ok lost ∧
        (accounting.deliveredInRun RUN_ID sourceId).toNat + lost.toNat =
          args.perSource.toNat + 1) :
    ∃ rows, observedSources accounting
        (ids.map fun sourceId => ⟨RUN_ID, sourceId, args.perSource + 1⟩) = .ok rows ∧
      List.Forall₂ (RowReconciled args) ids rows := by
  induction ids with
  | nil => exact ⟨[], rfl, List.Forall₂.nil⟩
  | cons sourceId ids ih =>
    have hlt := htotal (List.cons_ne_nil _ _)
    obtain ⟨⟨hdelivered, lost, hlost, hsum⟩, hcount⟩ := List.forall_mem_cons.mp hcount
    obtain ⟨rows, hrows, hreconciled⟩ := ih (fun _ => hlt) hcount
    refine ⟨⟨RUN_ID, sourceId, args.perSource + 1, accounting.deliveredInRun RUN_ID sourceId,
      lost⟩ :: rows, ?_, List.Forall₂.cons ⟨rfl, ?_, hdelivered, hsum⟩ hreconciled⟩
    · rw [List.map_cons, observedSources, hlost, Outcome.ok_bind, hrows]
      rfl
    · exact (checkedAdd_of_lt (ε := RingError) (a := args.perSource) (b := 1) hlt).2

/-- A row is found under its source. -/
lemma getElem?_observedBySource {row : SourceObserved}
    (hnodup : (rows.map (·.sourceId)).Nodup) (hrow : row ∈ rows) :
    (observedBySource rows)[row.sourceId]? = some row := by
  have hkept : ∀ (rows : List SourceObserved) (table : Std.TreeMap UInt32 SourceObserved compare)
      (k : UInt32), k ∉ rows.map (·.sourceId) →
      (rows.foldl (fun table source => table.insert source.sourceId source) table)[k]? =
        table[k]? := by
    intro rows
    induction rows with
    | nil => exact fun _ _ _ => rfl
    | cons first rows ih =>
      intro table k hk
      rw [List.map_cons, List.mem_cons, not_or] at hk
      rw [List.foldl_cons, ih _ k hk.2, Std.TreeMap.getElem?_insert, if_neg]
      rw [Std.LawfulEqCmp.compare_eq_iff_eq]
      exact Ne.symm hk.1
  unfold observedBySource
  generalize (∅ : Std.TreeMap UInt32 SourceObserved compare) = table
  induction rows generalizing table with
  | nil => cases hrow
  | cons first rows ih =>
    obtain ⟨hfirst, hnodup⟩ := List.nodup_cons.mp hnodup
    rw [List.foldl_cons]
    rcases List.mem_cons.mp hrow with rfl | hrow
    · rw [hkept _ _ _ hfirst, Std.TreeMap.getElem?_insert_self]
    · exact ih hnodup hrow _

/-- Rows that are reconciled pass. -/
lemma assertSources_ok {table : Std.TreeMap UInt32 SourceObserved compare}
    (hlt : args.perSource.toNat + 1 < 2 ^ 64)
    (h : ∀ sourceId ∈ ids, ∃ row, table[sourceId]? = some row ∧ RowReconciled args sourceId row) :
    assertSources .fenced table
      (ids.map fun sourceId => ⟨RUN_ID, sourceId, args.perSource + 1⟩) = .ok () := by
  induction ids with
  | nil => rfl
  | cons sourceId ids ih =>
    obtain ⟨⟨row, hrow, hreconciled⟩, h⟩ := List.forall_mem_cons.mp h
    have hplus := (checkedAdd_of_lt (ε := String) (a := args.perSource) (b := 1) hlt).2
    have hexpected : row.expectedTotal = args.perSource + 1 :=
      UInt64.toNat_inj.mp (hreconciled.expected.trans hplus.symm)
    have hsum : (checkedAdd row.delivered row.lost : Outcome String UInt64) =
        .ok (args.perSource + 1) :=
      checkedAdd_eq_ok.mpr (hplus.trans hreconciled.total.symm)
    rw [List.map_cons, assertSources, hrow]
    simp only [hexpected, ne_eq, not_true_eq_false, if_false, if_true, hsum, Outcome.ok_bind,
      Outcome.pure_eq, decide_true, ih h]

end Rows

/-- **The verdict on a reconciled report**: the run passes exactly when the plan fills the pool more
than a hundred times.

**Proof sketch.** A plan as long as that has a source, of which something was delivered, and has
evicted something. The totals are then those of the plan, and every row is found and adds up. -/
lemma Reconciled.judge {args : RunArgs} {report : ObservedReport} (h : Reconciled args report)
    (hcap : args.cap < 2 ^ 32) :
    judge args report.write = .ok report ↔
      args.cap * 100 < headBehind args.cap 0 (plan args) := by
  have hread : ObservedReport.read report.write = .ok report := by
    refine read_write ?_ ?_ ?_ ?_
    · rw [h.mode]
      cases args.mode <;> decide
    · rw [h.appendMode]
      cases args.appendMode <;> decide
    · rw [h.quiet]
      nofun
    · rw [h.quiet]
      decide
  have hjudge : LiveHarness.judge args report.write = (do
      assertRunResult .fenced args.cap args.sources args.perSource report
      pure report) := by
    rw [LiveHarness.judge, hread]
    rfl
  rw [hjudge]
  constructor
  · intro hpass
    obtain ⟨_, hassert, -⟩ := Outcome.bind_eq_ok.mp hpass
    unfold assertRunResult at hassert
    obtain ⟨-, hassert⟩ := Outcome.of_ite_err hassert
    obtain ⟨-, hassert⟩ := Outcome.of_ite_panic hassert
    obtain ⟨hhead, -⟩ := Outcome.of_ite_err hassert
    rwa [Nat.not_le, h.head] at hhead
  · intro hhead
    have hsources : sourceIds args.sources ≠ [] := by
      intro hnone
      rw [show plan args = [] by simp [plan, hnone]] at hhead
      exact Nat.not_lt_zero _ hhead
    have hpos : 0 < args.sources.toNat := by
      rw [← length_sourceIds]
      exact List.length_pos_of_ne_nil hsources
    have hsum := sum_rows h.rows
    have hdelivered := sum_delivered_pos h.rows hsources
    rw [length_sourceIds] at hsum
    have hlt := h.total_lt
    have hperSource : args.perSource.toNat + 1 < 2 ^ 64 :=
      (Nat.le_mul_of_pos_left _ hpos).trans_lt hlt
    have hplus := checkedAdd_of_lt (ε := String) (a := args.perSource) (b := 1) hperSource
    have htotals := checkedAdd_of_lt (ε := String) (a := report.deliveredTotal)
      (b := report.lostTotal) (by rw [h.delivered, h.lost, hsum]; exact hlt)
    have hrows : ∀ sourceId ∈ sourceIds args.sources, ∃ row,
        (observedBySource report.sources)[sourceId]? = some row ∧
          RowReconciled args sourceId row := by
      intro sourceId hsource
      obtain ⟨row, hrow, hreconciled⟩ := Grouping.exists_of_forall₂ h.rows.flip hsource
      refine ⟨row, ?_, hreconciled⟩
      rw [← (show RowReconciled args sourceId row from hreconciled).source]
      exact getElem?_observedBySource (map_sourceId_rows h.rows ▸ nodup_sourceIds _) hrow
    have hone : report.deliveredTotal ≠ 0 := fun hzero => by
      have := h.delivered
      rw [hzero, UInt64.toNat_zero] at this
      omega
    have htotal : (expectedTotal args.sources args.perSource : Outcome String UInt64) =
        .ok (args.sources.toUInt64 * (args.perSource + 1)) := by
      rw [expectedTotal, hplus.1, Outcome.ok_bind, hplus.2]
      exact if_pos hlt
    have hshort : ¬report.deliveredTotal + report.lostTotal <
        args.sources.toUInt64 * (args.perSource + 1) := by
      rw [UInt64.lt_iff_toNat_lt, htotals.2, h.delivered, h.lost, hsum, UInt64.toNat_mul, hplus.2,
        UInt32.toNat_toUInt64]
      exact Nat.not_lt.mpr (Nat.mod_le _ _)
    have hassert : assertRunResult .fenced args.cap args.sources args.perSource report = .ok () := by
      rw [assertRunResult, if_neg hone, if_neg (by omega), if_neg (by rw [h.head]; omega),
        if_neg (h.evicted (by omega)), htotal, Outcome.ok_bind]
      simp only [if_true, htotals.1, Outcome.ok_bind, Outcome.pure_eq, hshort, decide_false,
        Bool.false_eq_true, if_false, h.quiet, ne_eq, not_true_eq_false, and_false,
        expectedSources_eq fun _ => hperSource]
      exact assertSources_ok hperSource hrows
    rw [hassert]
    rfl

/-! ## The invariant -/

/-- The clock of the producer has a time for every record, and every offset fits a word. -/
def RunArgs.Feasible (args : RunArgs) : Prop :=
  1780000000000000000 + args.perSource.toNat < 2 ^ 64 ∧
    headBehind args.cap 0 (plan args) < 2 ^ 64

/-- The result of a poll that has not been looked at yet. -/
def ConsumerPhase.pending : ConsumerPhase → List (Outcome RingError ReadBatch)
  | polled result => [result]
  | _ => []

namespace LiveRun

/-- The run is sound: the ring is; it holds the first records of the plan, all of them once the
producer has exited; and the consumer has noted what was delivered to it, has failed only because
of a poll, and reports only what is reconciled. -/
structure Sound (args : RunArgs)
    (admits : (load : Load ControlLoad) → load.Value ControlLoad.Value → Prop) (run : LiveRun) :
    Prop where
  ring : run.ring.Sound args.cap admits
  written : ∃ past left, plan args = past ++ left ∧ List.Forall₂ Written past run.ring.appended ∧
    (∀ left', run.producer = .publishing left' → left' = left) ∧
    (run.producer = .exited → left = [])
  exited : run.producer = .exited → run.ring.stores = []
  observed : run.consumer ≠ .failed → ∃ handled,
    run.ring.results = handled ++ run.consumer.pending ∧
    run.observer.Quiet (handled.flatMap batchRecords) ∧
    run.accounting.tracker.Tracks (handled.flatMap batchRecords)
  comparing : run.consumer = .comparing → run.producer = .exited
  failed : run.consumer = .failed → ∃ e, .err e ∈ run.ring.results
  alive : run.producer = .failed → ¬args.Feasible
  reported : ∀ report, run.consumer = .exited report → Reconciled args report

namespace Sound

variable {args : RunArgs} {run run' : LiveRun}
  {admits : (load : Load ControlLoad) → load.Value ControlLoad.Value → Prop}

/-- A new run is sound. -/
lemma start {store : SharedStore} (hcap : args.cap < 2 ^ 32)
    (hcreate : SharedStore.create args.cap = some store) :
    (LiveRun.start args store).Sound args admits where
  ring := SharedSystem.SoundIn.start hcap hcreate
  written := ⟨[], plan args, rfl, List.Forall₂.nil,
    fun _ h => (ProducerPhase.publishing.inj h).symm, nofun⟩
  exited := nofun
  observed _ := ⟨[], rfl, BatchObserver.quiet_new _, LossTracker.tracks_new _⟩
  comparing := nofun
  failed := nofun
  alive := nofun
  reported := nofun

/-- What was delivered is in sequence and stands where it says. -/
lemma standing (h : run.Sound args admits) :
    LossTracker.Increasing run.ring.delivered ∧
      ∀ r ∈ run.ring.delivered, ∃ planned ∈ plan args, Standing planned r := by
  obtain ⟨m, floor, hring⟩ := h.ring
  obtain ⟨past, left, hplan, hwritten, -⟩ := h.written
  have hgenuine := hring.consumed.genuine
  have hlaid := m.valid.view.laid.pairwise_start_lt
  have hlog : m.memory.view.log = run.ring.appended := hring.log
  rw [hlog] at hgenuine hlaid
  have hpast : past.Pairwise Before :=
    (List.pairwise_append.mp (hplan ▸ pairwise_plan args)).1
  refine ⟨increasing_of_written hwritten hpast hlaid hring.consumed.sorted hgenuine,
    fun r hr => ?_⟩
  obtain ⟨e, he, hdelivers⟩ := hgenuine r hr
  obtain ⟨planned, hplanned, hwritten⟩ := Grouping.exists_of_forall₂ hwritten he
  exact ⟨planned, hplan ▸ List.mem_append_left _ hplanned, hwritten.standing hdelivers⟩

/-- A batch is checked and accounted for, and nothing is reported. -/
lemma observeBatch (h : run.Sound args admits) {batch : ReadBatch}
    (hconsumer : run.consumer = .polled (.ok batch)) : (run.observeBatch batch).Sound args admits := by
  obtain ⟨handled, hresults, hquiet, htracks⟩ := h.observed (by simp [hconsumer])
  simp only [hconsumer, ConsumerPhase.pending] at hresults
  obtain ⟨hincreasing, hstanding⟩ := h.standing
  have hdelivered : run.ring.delivered = handled.flatMap batchRecords ++ batch.records := by
    simp [SharedSystem.delivered, hresults, batchRecords]
  rw [hdelivered] at hincreasing hstanding
  have hbatch : ∀ r ∈ batch.records, ∃ planned ∈ plan args, Standing planned r := fun r hr =>
    hstanding r (List.mem_append_right _ hr)
  have hhonest : ∀ r ∈ batch.records, LossTracker.Honest r.record := by
    intro r hr
    obtain ⟨planned, -, hstands⟩ := hbatch r hr
    exact hstands.honest
  have horacle : ∀ r ∈ batch.records, ∀ oracle : EmbeddedAbsOracle,
      StaleOracle.observe r oracle = (.ok [], oracle) := by
    intro r hr oracle
    obtain ⟨planned, -, hstands⟩ := hbatch r hr
    exact hstands.observe oracle
  obtain ⟨observer, hobserve, hquiet'⟩ := hquiet.observeReads horacle hincreasing fun r hr =>
    (hhonest r hr).bound
  obtain ⟨tracker, haccount, htracks'⟩ :=
    Pipeline.accountRecords_eq htracks hincreasing hhonest
  have haccounting : run.accounting.accountBatch batch =
      (.ok (), ⟨batch.nextAbs, tracker⟩) := by
    rw [LossAccountingConsumer.accountBatch, Mut.bind_of_ok (Mut.field_of_ok haccount)]
    rfl
  have hrun : run.observeBatch batch = { run with
      consumer := .checking
      observer := observer
      accounting := ⟨batch.nextAbs, tracker⟩ } := by
    rw [LiveRun.observeBatch, BatchObserver.observeBatch, hobserve]
    simp only [haccounting]
  rw [hrun]
  refine ⟨h.ring, h.written, h.exited, fun _ => ⟨handled ++ [.ok batch], ?_, ?_, ?_⟩, by simp,
    by simp, h.alive, by simp⟩
  · simp [hresults, ConsumerPhase.pending]
  · simpa [batchRecords] using hquiet'
  · simpa [batchRecords] using htracks'

/-- A step of a poll. -/
lemma polls (h : run.Sound args admits) {ring : SharedSystem} (hring : ring.Sound args.cap admits)
    (hpolls : run.ring.Polls ring) (hidle : run.consumer.pending = [])
    (hfailed : run.consumer ≠ .failed) : (run.polls ring).Sound args admits := by
  obtain ⟨handled, hresults, hquiet, htracks⟩ := h.observed hfailed
  rw [hidle, List.append_nil] at hresults
  have hwritten := h.written
  rw [← hpolls.appended] at hwritten
  rcases hpolls.results with ⟨hsome, hsame⟩ | ⟨hnone, result, hmore⟩
  · have hrun : run.polls ring = { run with ring := ring, consumer := .polling } := by
      cases hpoll : ring.poll with
      | none => exact absurd hpoll hsome
      | some p => simp [LiveRun.polls, hpoll]
    rw [hrun]
    refine ⟨hring, hwritten, fun hexited => hpolls.stores ▸ h.exited hexited,
      fun _ => ⟨handled, ?_, hquiet, htracks⟩, nofun, nofun, h.alive, nofun⟩
    simp [hsame, hresults, ConsumerPhase.pending]
  · have hrun : run.polls ring = { run with ring := ring, consumer := .polled result } := by
      simp [LiveRun.polls, hnone, hmore]
    rw [hrun]
    refine ⟨hring, hwritten, fun hexited => hpolls.stores ▸ h.exited hexited,
      fun _ => ⟨handled, ?_, hquiet, htracks⟩, nofun, nofun, h.alive, nofun⟩
    simp [hmore, hresults, ConsumerPhase.pending]

/-- A step of the producer. -/
lemma produces (h : run.Sound args admits) {ring : SharedSystem} {producer : ProducerPhase}
    (hring : ring.Sound args.cap admits) (hresults : ring.results = run.ring.results)
    (hwritten : ∃ past left, plan args = past ++ left ∧ List.Forall₂ Written past ring.appended ∧
      (∀ left', producer = .publishing left' → left' = left) ∧ (producer = .exited → left = []))
    (hexited : producer = .exited → ring.stores = []) (halive : producer = .failed → ¬args.Feasible)
    (hstays : run.producer = .exited → producer = .exited) :
    { run with ring := ring, producer := producer }.Sound args admits :=
  ⟨hring, hwritten, hexited, fun hfailed => hresults ▸ h.observed hfailed,
    fun hcomparing => hstays (h.comparing hcomparing), fun hfailed => hresults ▸ h.failed hfailed,
    halive, h.reported⟩

/-- The head of the producer stands behind the records published. -/
lemma producer_head (h : run.Sound args admits) (hstores : run.ring.stores = []) :
    run.ring.producer.capacity = args.cap ∧
      run.ring.producer.headAbs = headOf run.ring.appended ∧
      Laid args.cap run.ring.appended := by
  obtain ⟨m, floor, hring⟩ := h.ring
  have hlog : m.memory.view.log = run.ring.appended := hring.log
  have hquiet := hring.stores
  rw [hstores] at hquiet
  obtain ⟨ring, written, hrep, hmir, hpub, hpend⟩ := hquiet
  have hlogOf : run.ring.appended = logOf written := by
    rw [← hlog, View.log, Memory.view, hpub, hpend, List.append_nil]
  exact ⟨hring.producer_capacity, by rw [hmir.headAbs, hrep.head, hlogOf],
    hlog ▸ m.valid.view.laid⟩

/-- A call that is not accepted, or cannot be made, shows that the plan is not feasible. -/
lemma not_feasible (h : run.Sound args admits) (hroom : (args.sources.toNat + 1) * 68 ≤ args.cap)
    {planned : Planned} {left : List Planned}
    (hproducer : run.producer = .publishing (planned :: left)) (hstores : run.ring.stores = [])
    (hfails : ∀ call, planned.call args run.ring.producer = .ok call →
      publishes run.ring.producer call = false) : ¬args.Feasible := by
  rintro ⟨htime, hhead⟩
  obtain ⟨past, left', hplan, hwritten, hleft, -⟩ := h.written
  obtain rfl := hleft _ hproducer
  obtain ⟨hcapacity, hheadAbs, hlaid⟩ := h.producer_head hstores
  have hpast : headOf run.ring.appended = headBehind args.cap 0 past := by
    have : headOf ([] ++ run.ring.appended) = headBehind args.cap 0 past :=
      headOf_written hwritten hlaid
    rwa [List.nil_append] at this
  have hstart : run.ring.producer.nextStartAbs planned.length =
      place args.cap (headBehind args.cap 0 past) planned.length := by
    rw [← hpast, ← hheadAbs, ← hcapacity]
    rfl
  have hend : run.ring.producer.nextStartAbs planned.length + planned.length < 2 ^ 64 := by
    rw [hstart]
    refine lt_of_le_of_lt ?_ hhead
    rw [hplan, headBehind_append]
    exact le_headBehind
  have htimed : planned.Timed := by
    have := seq_le_of_mem_plan (hplan ▸ List.mem_append_right past List.mem_cons_self)
    unfold Planned.Timed
    omega
  rcases planned.call_cases args run.ring.producer with
    ⟨-, -, call, hcall, -, hrun⟩ | ⟨hnot, -⟩
  · have henc := planned.encodable_recordAt (run.ring.producer.nextStartAbs planned.length)
    have hle : planned.length ≤ run.ring.producer.capacity := by
      have : planned.length ≤ 68 := Planned.length_le
      rw [hcapacity]
      omega
    have haccepts := hfails call hcall
    obtain ⟨startAbs, finalHead, kept, evicted, hstartAbs, hfinal, -, -, heq⟩ :=
      run.ring.producer.appendBytesCore_eq
        ((planned.recordAt (run.ring.producer.nextStartAbs planned.length)).bytes true)
    simp only [publishes, hrun, writeRecord_of_le henc.1 (henc.2.trans_le hle), heq,
      decide_eq_false_iff_not] at haccepts
    rw [hfinal, hstartAbs, henc.2] at haccepts
    exact haccepts hend
  · exact hnot ⟨htimed, by omega⟩

/-- The producer publishes its next record, or fails. -/
lemma publish (h : run.Sound args admits) (hroom : (args.sources.toNat + 1) * 68 ≤ args.cap)
    (hstep : run.step args .publish = some run') : run'.Sound args admits := by
  cases hproducer : run.producer with
  | exited => simp [LiveRun.step, hproducer] at hstep
  | failed => simp [LiveRun.step, hproducer] at hstep
  | publishing left =>
    cases left with
    | nil => simp [LiveRun.step, hproducer] at hstep
    | cons planned left =>
      cases hstores : run.ring.stores with
      | cons op stores => simp [LiveRun.step, hproducer, hstores] at hstep
      | nil =>
        obtain ⟨past, left', hplan, hwritten, hleft, -⟩ := h.written
        obtain rfl := hleft _ hproducer
        -- the producer fails and leaves the ring as it was
        have hfails (hnot : ¬args.Feasible) : { run with producer := .failed }.Sound args admits :=
          h.produces h.ring rfl
            ⟨past, planned :: left, hplan, hwritten, nofun, nofun⟩ nofun (fun _ => hnot)
            fun hexited => by simp [hproducer] at hexited
        simp only [LiveRun.step, hproducer, hstores] at hstep
        rcases planned.call_cases args run.ring.producer with
          ⟨htimed, hstart, call, hcall, hbytes, -⟩ | ⟨-, hpanic⟩
        · simp only [hcall] at hstep
          split_ifs at hstep with hpublishes
          · obtain ⟨ring, hring, rfl⟩ := Option.map_eq_some_iff.mp hstep
            obtain ⟨m, floor, hsound⟩ := h.ring
            obtain ⟨happended, hresults⟩ := SharedSystem.step_append hstores hpublishes hring
            have hlen : call.bytes.length = planned.length := by
              rw [hbytes, (planned.encodable_recordAt _).2]
            refine h.produces (hsound.append hring) hresults
              ⟨past ++ [planned], left, by simp [hplan], ?_,
                fun left' hleft' => (ProducerPhase.publishing.inj hleft').symm, nofun⟩ nofun nofun
              fun hexited => by simp [hproducer] at hexited
            rw [happended, hlen]
            exact List.rel_append hwritten (List.Forall₂.cons ⟨htimed, hstart, hbytes⟩
              List.Forall₂.nil)
          · obtain rfl := Option.some.inj hstep
            refine hfails (h.not_feasible hroom hproducer hstores fun call' hcall' => ?_)
            rw [hcall, Outcome.ok.injEq] at hcall'
            exact hcall' ▸ Bool.eq_false_iff.mpr hpublishes
        · simp only [hpanic, Option.some.injEq] at hstep
          subst hstep
          exact hfails (h.not_feasible hroom hproducer hstores fun call hcall => by
            rw [hpanic] at hcall
            cases hcall)

/-! ### The last comparison -/

/-- Behind the last record of the plan: the records of the plan are in the ring in order, the head
stands behind them and fits a word. -/
lemma complete (h : run.Sound args admits) (hexited : run.producer = .exited) :
    List.Forall₂ Written (plan args) run.ring.appended ∧ Laid args.cap run.ring.appended ∧
      headOf run.ring.appended = headBehind args.cap 0 (plan args) ∧
      headOf run.ring.appended < 2 ^ 64 := by
  obtain ⟨m, floor, hring⟩ := h.ring
  obtain ⟨past, left, hplan, hwritten, -, hleft⟩ := h.written
  rw [hleft hexited, List.append_nil] at hplan
  subst hplan
  have hlog : m.memory.view.log = run.ring.appended := hring.log
  have hlaid : Laid args.cap run.ring.appended := hlog ▸ m.valid.view.laid
  refine ⟨hwritten, hlaid, ?_, hlog ▸ m.head_lt⟩
  have hhead : headOf ([] ++ run.ring.appended) = headBehind args.cap 0 (plan args) :=
    headOf_written hwritten hlaid
  rwa [List.nil_append] at hhead

/-- Every source is counted in a word: the records of the plan take their room in the ring. -/
lemma total_lt (h : run.Sound args admits) (hexited : run.producer = .exited) :
    args.sources.toNat * (args.perSource.toNat + 1) < 2 ^ 64 := by
  obtain ⟨hwritten, hlaid, -, hlt⟩ := h.complete hexited
  have hleast : ∀ e ∈ run.ring.appended, 56 ≤ e.data.length := by
    intro e he
    obtain ⟨planned, -, hwritten⟩ := Grouping.exists_of_forall₂ hwritten he
    rw [hwritten.data, (planned.encodable_recordAt e.start).2]
    exact Planned.length_ge
  have hroom : 56 * (run.ring.appended.filter fun e => decide (0 ≤ e.start)).length ≤
      headOf run.ring.appended - 0 := hlaid.mul_length_filter_le hleast
  simp only [Nat.zero_le, decide_true, List.filter_true, ← hwritten.length_eq,
    length_plan] at hroom
  omega

/-- The ring behind the last record: the head is published, what starts less than a pool below
it is retained, and what is not is counted. -/
lemma retained (h : run.Sound args admits) (hexited : run.producer = .exited) :
    run.ring.store.ring.headAbs = headOf run.ring.appended ∧
      (∀ e ∈ run.ring.appended, headOf run.ring.appended ≤ e.start + args.cap →
        run.ring.store.ring.oldestAbs ≤ e.start) ∧
      run.ring.store.ring.lostCount ≤ run.ring.appended.length ∧
      (args.cap < headOf run.ring.appended → run.ring.store.ring.lostCount ≠ 0) := by
  obtain ⟨m, floor, hring⟩ := h.ring
  have hquiet := hring.stores
  rw [h.exited hexited] at hquiet
  obtain ⟨ring, written, hrep, hmir, hpub, hpend⟩ := hquiet
  have hlog : run.ring.appended = logOf written := by
    rw [← hring.log, View.log, MappedMemory.view, Memory.view, hpub, hpend, List.append_nil]
  have hcap : ring.capacity = args.cap := by
    rw [← hmir.capacity, hring.producer_capacity]
  have hstore : run.ring.store.ring = m.memory.ring := by
    rw [← hring.store]
    rfl
  have hhead : ring.headAbs = headOf (logOf written) := hrep.head
  rw [hlog, hstore, hmir.head, hmir.oldest, hmir.lost]
  have hlost := hrep.lost
  have hlen : (logOf written).length = written.length := List.length_map _
  refine ⟨hhead, ?_, by omega, fun hover hzero => ?_⟩
  · rintro e he hle
    obtain ⟨w, hw, rfl⟩ := List.mem_map.mp he
    refine hrep.oldest_le_of_mem (hrep.mem_index.mpr ⟨w, hw, ?_, rfl⟩)
    change _ ≤ w.startAbs + _ at hle
    omega
  · -- the first record starts at zero, and is not in the index
    cases written with
    | nil => simp [logOf] at hover
    | cons w written =>
      have hfirst : w.startAbs = 0 := by
        have hsplit : Laid ring.capacity ([] ++ w.entry :: logOf written) := hrep.laid
        have := hsplit.split.2.1
        simpa [place, ReadRecord.entry] using this
      have hmem : w.indexEntry ∈ ring.index := by
        have hfull : ring.index.length = (w :: written).length := by omega
        rw [hrep.index_eq, List.length_map] at hfull
        have hself := List.length_filter_eq_length_iff.mp hfull w List.mem_cons_self
        rw [hrep.index_eq]
        exact List.mem_map_of_mem (List.mem_filter.mpr ⟨List.mem_cons_self, hself⟩)
      obtain ⟨w', hw', hge, heq⟩ := hrep.mem_index.mp hmem
      have hstart : w'.startAbs = w.startAbs := congrArg RecordIndex.startAbs heq
      omega

/-- **The checkpoint of every source is delivered** before the consumer reaches the head.

**Proof sketch.** The checkpoints are the last records of the plan, and the pool has room for all of
them and for one gap (`Laid.head_le_start_add`). So they start less than a pool below the head and
are retained; but what the cursor has passed was delivered or has been evicted. -/
lemma checkpoints (h : run.Sound args admits) (hexited : run.producer = .exited)
    (hroom : (args.sources.toNat + 1) * 68 ≤ args.cap)
    (hcursor : run.ring.consumer.cursorAbs = run.ring.store.ring.headAbs) {sourceId : UInt32}
    (hsource : sourceId ∈ sourceIds args.sources) :
    ∃ r ∈ run.ring.delivered, Standing (.sourceHighWater sourceId args.perSource) r := by
  obtain ⟨hwritten, hlaid, -, -⟩ := h.complete hexited
  obtain ⟨hhead, hretained, -, -⟩ := h.retained hexited
  obtain ⟨m, floor, hring⟩ := h.ring
  -- the entry of the checkpoint is one of the last
  obtain ⟨before, after, hsplit⟩ := List.append_of_mem hsource
  rw [plan, hsplit, List.map_append, List.map_cons, ← List.append_assoc] at hwritten
  obtain ⟨done, e, rest, happended, he, hrest⟩ := Grouping.exists_split_of_forall₂ hwritten
  have hcount : rest.length + 1 ≤ args.sources.toNat := by
    have := congrArg List.length hsplit
    rw [← hrest.length_eq, List.length_map]
    simp only [sourceIds, List.length_map, List.length_range, List.length_append,
      List.length_cons] at this
    omega
  have hlen : ∀ e' ∈ e :: rest, e'.data.length ≤ 68 := by
    have hbound {planned : Planned} {e' : Entry UInt8} (hwritten : Written planned e') :
        e'.data.length ≤ 68 := by
      rw [hwritten.data, (planned.encodable_recordAt e'.start).2]
      exact Planned.length_le
    refine List.forall_mem_cons.mpr ⟨hbound he, fun e' he' => ?_⟩
    obtain ⟨planned, -, hwritten⟩ := Grouping.exists_of_forall₂ hrest he'
    exact hbound hwritten
  have hmem : e ∈ run.ring.appended := by
    rw [happended]
    exact List.mem_append_right _ List.mem_cons_self
  have hnear : headOf run.ring.appended ≤ e.start + args.cap := by
    rw [happended] at hlaid ⊢
    have := hlaid.head_le_start_add hring.capacity_pos hlen (by omega)
    omega
  have hpassed : e.start < run.ring.consumer.cursorAbs := by
    rw [hcursor, hhead]
    exact hlaid.start_lt_head hmem
  have hlog : m.memory.view.log = run.ring.appended := hring.log
  rcases hring.consumed.passed e (hlog ▸ hmem) hpassed with ⟨r, hr, hdelivers⟩ | hevicted
  · exact ⟨r, hr, he.standing hdelivers⟩
  · have hstore : m.memory.ring.oldestAbs = run.ring.store.ring.oldestAbs := by
      rw [← hring.store]
      rfl
    have := hretained e hmem hnear
    omega

/-- **The consumer at the head** has counted every record of every source.

**Proof sketch.** The checkpoint of the source was delivered, and no record of the source has a
larger number: so the tracker expects the number behind it, and what it has counted adds up to
that. -/
lemma counted (h : run.Sound args admits) (hexited : run.producer = .exited)
    (hroom : (args.sources.toNat + 1) * 68 ≤ args.cap)
    (hcursor : run.ring.consumer.cursorAbs = run.ring.store.ring.headAbs)
    (htracks : run.accounting.tracker.Tracks run.ring.delivered) {sourceId : UInt32}
    (hsource : sourceId ∈ sourceIds args.sources) :
    run.accounting.deliveredInRun RUN_ID sourceId ≠ 0 ∧
      ∃ lost, run.accounting.lostInRun RUN_ID sourceId = .ok lost ∧
        (run.accounting.deliveredInRun RUN_ID sourceId).toNat + lost.toNat =
          args.perSource.toNat + 1 := by
  obtain ⟨hincreasing, hstanding⟩ := h.standing
  obtain ⟨last, hlast, hcheckpoint⟩ := h.checkpoints hexited hroom hcursor hsource
  have hmem : args.perSource.toNat ∈ Numbering.numbers ReadRecord.stream ReadRecord.seqNo
      (RUN_ID, sourceId) run.ring.delivered :=
    Numbering.mem_numbers.mpr ⟨last, hlast, hcheckpoint.stream, hcheckpoint.seqNo⟩
  have hexpected := Numbering.expected_eq_of_max (e := 0)
    (hincreasing.sorted (RUN_ID, sourceId)) hmem fun n hn => by
      obtain ⟨r, hr, -, rfl⟩ := Numbering.mem_numbers.mp hn
      obtain ⟨planned, hplanned, hstands⟩ := hstanding r hr
      exact hstands.seqNo ▸ seq_le_of_mem_plan hplanned
  obtain ⟨lost, hlost, hsum⟩ :=
    htracks.delivered_add_lost (ε := RingError) hincreasing RUN_ID sourceId
  refine ⟨fun hzero => ?_, lost, hlost, hsum.trans hexpected⟩
  have hcount := htracks.delivered (RUN_ID, sourceId)
  rw [show run.accounting.tracker.deliveredBySource.getD (RUN_ID, sourceId) 0 = 0 from hzero,
    UInt64.toNat_zero] at hcount
  exact List.ne_nil_of_mem hmem (List.length_eq_zero_iff.mp hcount.symm)

/-- The report at the head is made, and is reconciled. -/
lemma report (h : run.Sound args admits) (hconsumer : run.consumer = .comparing)
    (hroom : (args.sources.toNat + 1) * 68 ≤ args.cap)
    (hcursor : run.ring.consumer.cursorAbs = run.ring.store.ring.headAbs) :
    ∃ report, run.report args = .ok report ∧ Reconciled args report := by
  have hexited := h.comparing hconsumer
  obtain ⟨handled, hresults, hquiet, htracks⟩ := h.observed (by simp [hconsumer])
  rw [hconsumer] at hresults
  have hdelivered : run.ring.delivered = handled.flatMap batchRecords := by
    simp [SharedSystem.delivered, hresults, ConsumerPhase.pending]
  rw [← hdelivered] at htracks
  obtain ⟨hwritten, hlaid, hplanned, hhead_lt⟩ := h.complete hexited
  obtain ⟨hhead, -, hlost_le, hevicted⟩ := h.retained hexited
  have htotal := h.total_lt hexited
  have hword : sourceIds args.sources ≠ [] → args.perSource.toNat + 1 < 2 ^ 64 := fun hne => by
    have hpos := List.length_pos_of_ne_nil hne
    rw [length_sourceIds] at hpos
    exact (Nat.le_mul_of_pos_left _ hpos).trans_lt htotal
  obtain ⟨rows, hrows, hreconciled⟩ := observedSources_eq hword fun sourceId hsource =>
    h.counted hexited hroom hcursor htracks hsource
  have hsum := sum_rows hreconciled
  rw [length_sourceIds] at hsum
  have hmap (f : SourceObserved → UInt64) :
      ((rows.map f).map UInt64.toNat) = rows.map fun row => (f row).toNat := List.map_map
  obtain ⟨deliveredTotal, hdeliveredTotal, hdeliveredSum⟩ : ∃ total,
      (checkedSum (rows.map (·.delivered)) : Outcome RingError UInt64) = .ok total ∧
        total.toNat = ((rows.map (·.delivered)).map UInt64.toNat).sum :=
    checkedSum_eq (by rw [hmap]; omega)
  obtain ⟨lostTotal, hlostTotal, hlostSum⟩ : ∃ total,
      (checkedSum (rows.map (·.lost)) : Outcome RingError UInt64) = .ok total ∧
        total.toNat = ((rows.map (·.lost)).map UInt64.toNat).sum :=
    checkedSum_eq (by rw [hmap]; omega)
  rw [hmap] at hdeliveredSum hlostSum
  refine ⟨{
    mode := args.mode.asStr
    fenceMode := .fenced
    appendMode := args.appendMode.asStr
    cap := UInt64.ofNat args.cap
    headAbs := UInt64.ofNat run.ring.store.ring.headAbs
    lostCount := UInt64.ofNat run.ring.store.ring.lostCount
    lappedBatches := UInt64.ofNat run.ring.consumer.lappedBatches
    overwrittenRetries := UInt64.ofNat run.ring.consumer.overwrittenRetries
    rejectedRecords := UInt64.ofNat run.ring.consumer.rejectedRecords
    pollErrors := 0
    deliveredTotal := deliveredTotal
    lostTotal := lostTotal
    staleViolations := run.observer.intoViolations
    sources := rows }, ?_, rfl, rfl, ?_, ?_, hquiet.violations, htotal, hreconciled, hdeliveredSum,
    hlostSum⟩
  · rw [LiveRun.report, expectedSources_eq hword, Outcome.ok_bind, ObservedReport.fromConsumer,
      hrows, Outcome.ok_bind, hdeliveredTotal, Outcome.ok_bind, hlostTotal, Outcome.ok_bind]
    rfl
  · rw [← hplanned, hhead, UInt64.toNat_ofNat', Nat.mod_eq_of_lt hhead_lt]
  · intro hover hzero
    rw [← hplanned] at hover
    have hlen : run.ring.appended.length = args.sources.toNat * (args.perSource.toNat + 1) := by
      rw [← hwritten.length_eq, length_plan]
    have := congrArg UInt64.toNat hzero
    rw [UInt64.toNat_ofNat', UInt64.toNat_zero, Nat.mod_eq_of_lt (by omega)] at this
    exact hevicted hover this

/-! ### All steps -/

/-- **Every step keeps the invariant**, if the value of a load is admitted. -/
lemma step (h : run.Sound args admits) (hcap : args.cap < 2 ^ 32)
    (hroom : (args.sources.toNat + 1) * 68 ≤ args.cap) {action : Action}
    (hadmits : ∀ i k, run.ring.poll = some (.load i k) → action = .load →
      admits i (SharedStore.read i run.ring.store))
    (hstep : run.step args action = some run') : run'.Sound args admits := by
  obtain ⟨m, floor, hring⟩ := h.ring
  cases action with
  | publish => exact h.publish hroom hstep
  | store =>
    obtain ⟨ring, hstore, rfl⟩ := Option.map_eq_some_iff.mp hstep
    obtain ⟨hne, happended, hresults⟩ := SharedSystem.step_store hstore
    exact h.produces (hring.step hcap (by nofun) hstore) hresults
      (happended ▸ h.written) (fun hexited => absurd (h.exited hexited) hne) h.alive id
  | done =>
    simp only [LiveRun.step] at hstep
    split at hstep
    · rename_i hproducer hstores
      obtain rfl := Option.some.inj hstep
      obtain ⟨past, left, hplan, hwritten, hleft, -⟩ := h.written
      exact h.produces h.ring rfl
        ⟨past, left, hplan, hwritten, nofun, fun _ => (hleft _ hproducer).symm⟩
        (fun _ => hstores) nofun fun _ => rfl
    · cases hstep
  | poll =>
    cases hconsumer : run.consumer with
    | ready =>
      simp only [LiveRun.step, hconsumer] at hstep
      obtain ⟨ring, hpoll, rfl⟩ := Option.map_eq_some_iff.mp hstep
      exact h.polls (hring.step hcap (by nofun) hpoll)
        (SharedSystem.polls_poll hpoll) (by rw [hconsumer]; rfl) (by simp [hconsumer])
    | _ => simp [LiveRun.step, hconsumer] at hstep
  | load =>
    cases hconsumer : run.consumer with
    | polling =>
      simp only [LiveRun.step, hconsumer] at hstep
      obtain ⟨ring, hload, rfl⟩ := Option.map_eq_some_iff.mp hstep
      exact h.polls (hring.step hcap (fun i k hpoll _ => hadmits i k hpoll rfl) hload)
        (SharedSystem.polls_load hload) (by rw [hconsumer]; rfl) (by simp [hconsumer])
    | _ => simp [LiveRun.step, hconsumer] at hstep
  | observe =>
    cases hconsumer : run.consumer with
    | polled result =>
      obtain ⟨handled, hresults, -⟩ := h.observed (by simp [hconsumer])
      have hmem : result ∈ run.ring.results := by
        simp [hresults, hconsumer, ConsumerPhase.pending]
      cases result with
      | ok batch =>
        simp only [LiveRun.step, hconsumer, Option.some.injEq] at hstep
        exact hstep ▸ h.observeBatch hconsumer
      | err e =>
        simp only [LiveRun.step, hconsumer, Option.some.injEq] at hstep
        subst hstep
        exact ⟨h.ring, h.written, h.exited, fun hne => absurd rfl hne, nofun, fun _ => ⟨e, hmem⟩,
          h.alive, nofun⟩
      | panic => exact absurd rfl (hring.results _ hmem).1
    | _ => simp [LiveRun.step, hconsumer] at hstep
  | check =>
    cases hconsumer : run.consumer with
    | checking =>
      obtain ⟨handled, hresults, hquiet, htracks⟩ := h.observed (by simp [hconsumer])
      simp only [LiveRun.step, hconsumer, Option.some.injEq] at hstep
      subst hstep
      rw [hconsumer] at hresults
      split_ifs with hexited
      · exact ⟨h.ring, h.written, h.exited, fun _ => ⟨handled, hresults, hquiet, htracks⟩,
          fun _ => hexited, nofun, h.alive, nofun⟩
      · exact ⟨h.ring, h.written, h.exited, fun _ => ⟨handled, hresults, hquiet, htracks⟩,
          nofun, nofun, h.alive, nofun⟩
    | _ => simp [LiveRun.step, hconsumer] at hstep
  | compare =>
    cases hconsumer : run.consumer with
    | comparing =>
      obtain ⟨handled, hresults, hquiet, htracks⟩ := h.observed (by simp [hconsumer])
      have hexited := h.comparing hconsumer
      obtain ⟨-, -, -, hlt⟩ := h.complete hexited
      obtain ⟨hhead, -⟩ := h.retained hexited
      rw [hconsumer] at hresults
      simp only [LiveRun.step, hconsumer, hhead, Nat.mod_eq_of_lt hlt] at hstep
      split_ifs at hstep with hcursor
      · obtain ⟨report, hreport, hreconciled⟩ :=
          h.report hconsumer hroom (hcursor.trans hhead.symm)
        simp only [hreport, Option.some.injEq] at hstep
        subst hstep
        exact ⟨h.ring, h.written, h.exited, fun _ => ⟨handled, hresults, hquiet, htracks⟩, nofun,
          nofun, h.alive, fun report' heq => ConsumerPhase.exited.inj heq ▸ hreconciled⟩
      · obtain rfl := Option.some.inj hstep
        exact ⟨h.ring, h.written, h.exited, fun _ => ⟨handled, hresults, hquiet, htracks⟩, nofun,
          nofun, h.alive, nofun⟩
    | _ => simp [LiveRun.step, hconsumer] at hstep

end Sound

variable {args : RunArgs} {store : SharedStore} {run : LiveRun}

/-- **Every state of a run is sound**, if the loads that meet the condition load admitted
values. -/
lemma sound_of_runs {meets : LiveRun → Action → Prop}
    {admits : (load : Load ControlLoad) → load.Value ControlLoad.Value → Prop}
    (hcap : args.cap < 2 ^ 32) (hroom : (args.sources.toNat + 1) * 68 ≤ args.cap)
    (hcreate : SharedStore.create args.cap = some store)
    (hadmits : ∀ run : LiveRun, meets run .load → ∀ i k, run.ring.poll = some (.load i k) →
      admits i (SharedStore.read i run.ring.store))
    (hrun : Runs (step args) meets (start args store) run) : run.Sound args admits := by
  refine hrun.invariant (Sound.start hcap hcreate) fun run action run' hsound hmeets hstep => ?_
  refine hsound.step hcap hroom ?_ hstep
  rintro i k hpoll rfl
  exact hadmits _ hmeets i k hpoll

end LiveRun

end LiveHarness

open LiveHarness

section Theorems

variable {args : RunArgs} {store : SharedStore} {run : LiveRun}

/-- **The verdict of the live harness.** In every run of producer and consumer, over every
interleaving of their stores and loads, in which the consumer reports: no record is reported as
stale, of every source the delivered and the lost records are those it has produced, and the run
passes exactly when the records of the plan fill the pool more than a hundred times. -/
theorem harness_verdict_exact {report : ObservedReport} (hcap : args.cap < 2 ^ 32)
    (hroom : (args.sources.toNat + 1) * 68 ≤ args.cap)
    (hcreate : SharedStore.create args.cap = some store)
    (hrun : Runs (LiveRun.step args) (fun _ _ => True) (LiveRun.start args store) run)
    (hreport : run.consumer = .exited report) :
    report.staleViolations = [] ∧ report.sources.map (·.sourceId) = sourceIds args.sources ∧
      (∀ row ∈ report.sources, row.expectedTotal.toNat = args.perSource.toNat + 1 ∧
        row.delivered.toNat + row.lost.toNat = args.perSource.toNat + 1) ∧
      (judge args report.write = .ok report ↔
        args.cap * 100 < headBehind args.cap 0 (plan args)) := by
  have hsound : run.Sound args fun _ _ => True :=
    LiveRun.sound_of_runs hcap hroom hcreate (fun _ _ _ _ _ => trivial) hrun
  have hreconciled := hsound.reported report hreport
  refine ⟨hreconciled.quiet, map_sourceId_rows hreconciled.rows, fun row hrow => ?_,
    hreconciled.judge hcap⟩
  obtain ⟨sourceId, -, hsource⟩ := Grouping.exists_of_forall₂ hreconciled.rows hrow
  exact ⟨hsource.expected, hsource.total⟩

/-- A message and a checkpoint of one source, in a pool of 136. -/
def LiveHarness.shortArgs : RunArgs := ⟨.smoke, 136, 1, 1, .encoded⟩

/-- A poll behind the message that goes on while the checkpoint is written, and another one. -/
def LiveHarness.shortSchedule : List LiveRun.Action :=
  .publish :: List.replicate 61 .store ++ .poll :: List.replicate 100 .load ++
    .publish :: List.replicate 73 .store ++ .done :: List.replicate 63 .load ++
    [.observe, .check, .compare, .poll] ++ List.replicate 175 .load ++ [.observe, .check, .compare]

/-- The report of a consumer that has exited. -/
def LiveHarness.ConsumerPhase.report : ConsumerPhase → Option ObservedReport
  | exited report => some report
  | _ => none

/-- Only a consumer that has exited has a report. -/
lemma LiveHarness.ConsumerPhase.report_eq_some {phase : ConsumerPhase} {report : ObservedReport}
    (h : phase.report = some report) : phase = .exited report := by
  cases phase with
  | exited report' => rw [Option.some.inj h]
  | _ => cases h

/-- Both records are delivered, and the run does not pass, for it has not gone far enough. -/
theorem harness_verdict_exact_short :
    ∃ store run report, SharedStore.create shortArgs.cap = some store ∧
      Runs (LiveRun.step shortArgs) (fun _ _ => True) (LiveRun.start shortArgs store) run ∧
      run.consumer = .exited report ∧ report.staleViolations = [] ∧
      report.deliveredTotal = 2 ∧ judge shortArgs report.write ≠ .ok report := by
  have hmap : ((follow (LiveRun.step shortArgs) (fun _ _ => True) shortSchedule
      (LiveRun.start shortArgs ⟨⟨List.replicate 136 0, 0, 0, 0⟩, 0, 136⟩)).map fun run =>
        run.consumer.report.map (·.deliveredTotal)) = some (some 2) := by
    decide +kernel
  obtain ⟨run, hfollow, hsome⟩ := Option.map_eq_some_iff.mp hmap
  obtain ⟨report, hreport, htotal⟩ := Option.map_eq_some_iff.mp hsome
  have hexited := ConsumerPhase.report_eq_some hreport
  have hrun := Runs.start.of_follow hfollow
  obtain ⟨hquiet, -, -, hpasses⟩ :=
    harness_verdict_exact (by decide) (by decide) rfl hrun hexited
  refine ⟨_, run, report, rfl, hrun, hexited, hquiet, htotal, fun hpass => ?_⟩
  exact absurd (hpasses.mp hpass) (by decide)

/-- The step is not a load on which a record seems to cross the pool's end. -/
def LiveHarness.LiveRun.KeepsInPool (capacity : ℕ) (run : LiveRun) (action : LiveRun.Action) :
    Prop :=
  action = .load → ¬run.ring.CrossesNext capacity

instance (capacity : ℕ) (run : LiveRun) : DecidablePred (run.KeepsInPool capacity) :=
  fun action => inferInstanceAs (Decidable (action = .load → _))

end Theorems

end OpenOT
