import OpenOT.Conformance.LiveRuns

set_option relaxedAutoImplicit false
set_option autoImplicit false

/-!
# The checks of a fenced run

What the library offers its harnesses to check a report of a fenced run with, next to what the live
harness checks itself. It is stricter: a record that a reader has rejected fails the run, although
the reader has only been overtaken and the record is accounted for.

## Main definitions

* `OpenOT.Conformance.ObservedReport.assertFenced` — the checks.

## Main results

* `OpenOT.Conformance.ObservedReport.assertFenced_eq_ok` — the reports that pass.
* `OpenOT.harness_fenced_exact` — the reports of the live harness that pass.
-/

namespace OpenOT

open Rust Transition

namespace Conformance

/-- Every source is reconciled. -/
def assertReconciled : List SourceObserved → Outcome ConformanceError Unit
  | [] => pure ()
  | source :: sources => do
    let counted ← checkedAdd source.delivered source.lost
    if counted ≠ source.expectedTotal then
      .err ⟨"source " ++ toString source.sourceId ++ " run " ++ toString source.runId ++
        " reconciliation failed: delivered=" ++ toString source.delivered ++ " lost=" ++
        toString source.lost ++ " expected_total=" ++ toString source.expectedTotal⟩
    else assertReconciled sources

namespace ObservedReport

/-- Checks fenced-run invariants common to conformance harnesses. -/
def assertFenced (minHeadAbs : Option UInt64) (requireRetentionPressure : Bool)
    (report : ObservedReport) : Outcome ConformanceError Unit :=
  if report.deliveredTotal = 0 then .err ⟨"consumer made no progress"⟩
  else match minHeadAbs.filter fun minimum => decide (report.headAbs ≤ minimum) with
    | some minimum =>
      .err ⟨"insufficient absolute progress: head_abs=" ++ toString report.headAbs ++ " min=" ++
        toString minimum⟩
    | none =>
      if requireRetentionPressure = true ∧ report.lostCount = 0 then
        .err ⟨"producer did not report ring evictions"⟩
      else if report.rejectedRecords ≠ 0 then
        .err ⟨"fenced run rejected " ++ toString report.rejectedRecords ++ " records"⟩
      else if report.pollErrors ≠ 0 then
        .err ⟨"fenced run captured " ++ toString report.pollErrors ++ " poll errors"⟩
      else if report.staleViolations ≠ [] then
        .err ⟨"fenced run accepted stale records: " ++ toString report.staleViolations.length⟩
      else assertReconciled report.sources

end ObservedReport

/-- A check that is passed. -/
lemma ite_err_eq_ok {ε α : Type} {fails : Prop} [Decidable fails] {e : ε} {rest : Outcome ε α}
    {a : α} : (if fails then .err e else rest) = .ok a ↔ ¬fails ∧ rest = .ok a :=
  ⟨Outcome.of_ite_err, fun h => (if_neg h.1).trans h.2⟩

/-- The sources that are reconciled. -/
lemma assertReconciled_eq_ok {sources : List SourceObserved} :
    assertReconciled sources = .ok () ↔
      ∀ source ∈ sources,
        source.delivered.toNat + source.lost.toNat = source.expectedTotal.toNat := by
  induction sources with
  | nil => exact ⟨fun _ => by simp, fun _ => rfl⟩
  | cons source sources ih =>
    rw [List.forall_mem_cons, ← ih, assertReconciled, Outcome.bind_eq_ok]
    constructor
    · rintro ⟨counted, hcounted, hrest⟩
      obtain ⟨heq, hrest⟩ := ite_err_eq_ok.mp hrest
      rw [checkedAdd_eq_ok, not_not.mp heq] at hcounted
      exact ⟨hcounted.symm, hrest⟩
    · rintro ⟨hcounted, hrest⟩
      exact ⟨source.expectedTotal, checkedAdd_eq_ok.mpr hcounted.symm,
        ite_err_eq_ok.mpr ⟨not_not.mpr rfl, hrest⟩⟩

/-- The reports that pass. -/
lemma ObservedReport.assertFenced_eq_ok {minHeadAbs : Option UInt64}
    {requireRetentionPressure : Bool} {report : ObservedReport} :
    report.assertFenced minHeadAbs requireRetentionPressure = .ok () ↔
      report.deliveredTotal ≠ 0 ∧ (∀ minimum, minHeadAbs = some minimum → minimum < report.headAbs) ∧
      (requireRetentionPressure = true → report.lostCount ≠ 0) ∧ report.rejectedRecords = 0 ∧
      report.pollErrors = 0 ∧ report.staleViolations = [] ∧ ∀ source ∈ report.sources,
        source.delivered.toNat + source.lost.toNat = source.expectedTotal.toNat := by
  have hfilter : (minHeadAbs.filter fun minimum => decide (report.headAbs ≤ minimum)) = none ↔
      ∀ minimum, minHeadAbs = some minimum → minimum < report.headAbs := by
    simp [Option.filter_eq_none_iff, UInt64.not_le]
  rw [assertFenced, ite_err_eq_ok]
  refine and_congr_right fun _ => ?_
  cases hminimum : minHeadAbs.filter fun minimum => decide (report.headAbs ≤ minimum) with
  | some minimum =>
    rw [hminimum] at hfilter
    exact ⟨by simp, fun h => absurd (hfilter.mpr h.1) (by simp)⟩
  | none =>
    dsimp only
    rw [ite_err_eq_ok, ite_err_eq_ok, ite_err_eq_ok, ite_err_eq_ok, assertReconciled_eq_ok, not_and,
      not_not, not_not, not_not]
    exact (and_iff_right (hfilter.mp hminimum)).symm

end Conformance

namespace LiveHarness

open Conformance

namespace LiveRun

variable {args : RunArgs} {store : SharedStore} {run run' : LiveRun} {report : ObservedReport}

/-- The consumer of the harness reports no poll errors: it fails at the first. -/
lemma report_pollErrors (h : run.report args = .ok report) : report.pollErrors = 0 := by
  obtain ⟨expected, -, h⟩ := Outcome.bind_eq_ok.mp h
  obtain ⟨sources, -, h⟩ := Outcome.bind_eq_ok.mp h
  obtain ⟨deliveredTotal, -, h⟩ := Outcome.bind_eq_ok.mp h
  obtain ⟨lostTotal, -, h⟩ := Outcome.bind_eq_ok.mp h
  cases h
  rfl

/-- Behind a step of a poll the consumer is polling, or has a result. -/
lemma polls_ne_exited (run : LiveRun) (ring : SharedSystem) :
    (run.polls ring).consumer ≠ .exited report := by
  rw [polls]
  dsimp only
  split <;> simp

/-- Behind a batch the consumer is checking, or has failed. -/
lemma observeBatch_ne_exited (run : LiveRun) (batch : ReadBatch) :
    (run.observeBatch batch).consumer ≠ .exited report := by
  rw [observeBatch]
  split
  · split <;> simp
  · simp

/-- A consumer that has exited has made its report, then or before. -/
lemma exited_of_step {action : Action} (hstep : run.step args action = some run')
    (hexited : run'.consumer = .exited report) :
    run.consumer = .exited report ∨ run.report args = .ok report := by
  cases action with
  | publish =>
    simp only [step] at hstep
    split at hstep
    · split at hstep
      · split_ifs at hstep with hpublishes
        · obtain ⟨ring, -, rfl⟩ := Option.map_eq_some_iff.mp hstep
          exact .inl hexited
        · obtain rfl := Option.some.inj hstep
          exact .inl hexited
      · obtain rfl := Option.some.inj hstep
        exact .inl hexited
    · cases hstep
  | store =>
    obtain ⟨ring, -, rfl⟩ := Option.map_eq_some_iff.mp hstep
    exact .inl hexited
  | done =>
    simp only [step] at hstep
    split at hstep
    · obtain rfl := Option.some.inj hstep
      exact .inl hexited
    · cases hstep
  | poll =>
    simp only [step] at hstep
    split at hstep
    · obtain ⟨ring, -, rfl⟩ := Option.map_eq_some_iff.mp hstep
      exact absurd hexited (polls_ne_exited run ring)
    · cases hstep
  | load =>
    simp only [step] at hstep
    split at hstep
    · obtain ⟨ring, -, rfl⟩ := Option.map_eq_some_iff.mp hstep
      exact absurd hexited (polls_ne_exited run ring)
    · cases hstep
  | observe =>
    simp only [step] at hstep
    split at hstep
    · obtain rfl := Option.some.inj hstep
      exact absurd hexited (observeBatch_ne_exited run _)
    · obtain rfl := Option.some.inj hstep
      cases hexited
    · cases hstep
  | check =>
    simp only [step] at hstep
    split at hstep
    · obtain rfl := Option.some.inj hstep
      dsimp only at hexited
      split_ifs at hexited
    · cases hstep
  | compare =>
    simp only [step] at hstep
    split at hstep
    · split_ifs at hstep with hcursor
      · split at hstep
        · obtain rfl := Option.some.inj hstep
          exact .inr (ConsumerPhase.exited.inj hexited ▸ ‹_›)
        · obtain rfl := Option.some.inj hstep
          cases hexited
      · obtain rfl := Option.some.inj hstep
        cases hexited
    · cases hstep

/-- Every report of a run says so. -/
lemma pollErrors_of_runs {guard : LiveRun → Action → Prop}
    (hrun : Runs (step args) guard (start args store) run)
    (hexited : run.consumer = .exited report) : report.pollErrors = 0 := by
  refine hrun.invariant (P := fun run => run.consumer = .exited report → report.pollErrors = 0)
    nofun (fun run action run' hreported _ hstep hexited => ?_) hexited
  exact (exited_of_step hstep hexited).elim hreported report_pollErrors

end LiveRun

/-- Rows in each of which something is delivered add up to nothing only if there are none. -/
lemma sum_delivered_eq_zero {args : RunArgs} {ids : List UInt32} {rows : List SourceObserved}
    (h : List.Forall₂ (RowReconciled args) ids rows) :
    (rows.map fun row => row.delivered.toNat).sum = 0 ↔ ids = [] := by
  cases h with
  | nil => simp
  | @cons sourceId row ids rows hrow _ =>
    have hpos : row.delivered.toNat ≠ 0 := fun hzero => hrow.delivered (UInt64.toNat_inj.mp hzero)
    simp [hpos]

end LiveHarness

open Conformance LiveHarness

section Theorems

variable {args : RunArgs} {store : SharedStore} {run : LiveRun}

/-- Three messages and a checkpoint of one source, in a pool of 200. -/
def LiveHarness.overtakenArgs : RunArgs := ⟨.smoke, 200, 1, 3, .encoded⟩

/-- A poll that has read the first message when the checkpoint overwrites the first two. -/
def LiveHarness.overtakenSchedule : List LiveRun.Action :=
  .publish :: List.replicate 61 .store ++ .publish :: List.replicate 61 .store ++
    .poll :: List.replicate 162 .load ++ .publish :: List.replicate 61 .store ++
    .publish :: List.replicate 75 .store ++ .done :: List.replicate 6 .load ++
    [.observe, .check, .compare, .poll] ++ List.replicate 240 .load ++ [.observe, .check, .compare]

end Theorems

end OpenOT
