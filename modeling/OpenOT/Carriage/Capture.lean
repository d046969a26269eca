import OpenOT.Carriage.EpochResolver
import OpenOT.Carriage.SnapshotReads

set_option relaxedAutoImplicit false
set_option autoImplicit false

/-!
# Validating a capture

The validator of `capture.rs`. It regenerates the image that a producer leaves in a fixed scenario,
compares a captured image and its control fields with it, and then reads the captured bytes as a
consumer does and checks the records, the loss accounts and the epochs of the scenario.

## Main definitions

* `OpenOT.CapturedControlFields`, `OpenOT.CapturedImage` — an image and its control fields.
* `OpenOT.referenceCapture` — the image of a scenario.
* `OpenOT.readCapture` — a consumer and an epoch resolver over a captured image.
* `OpenOT.validateCapture` — the validator.
* `OpenOT.CaptureDiffers` — an error names the first difference between two images.

## Main results

* `OpenOT.compareRingBytes_cases`, `OpenOT.compareControl_cases` — the two comparisons.
* `OpenOT.validate_capture_exact` — the validator accepts one image and names the first difference
  of every other.
-/

namespace OpenOT

open Rust

/-- Capacity of the captured scenarios. -/
def S4A_CAPTURE_CAPACITY : ℕ := 256

/-- `oldhash1`. -/
def OLD_HASH : DefinitionHash := #v[0x6F, 0x6C, 0x64, 0x68, 0x61, 0x73, 0x68, 0x31]

/-- `newhash2`. -/
def NEW_HASH : DefinitionHash := #v[0x6E, 0x65, 0x77, 0x68, 0x61, 0x73, 0x68, 0x32]

/-- The epoch that the scenarios change to. -/
def TRANSITION_EPOCH : UInt64 := 2

/-- The fixed scenarios. -/
inductive CaptureScenario where
  | richWrap
  | lifecycleSurvival
  deriving DecidableEq

/-- The control fields that a producer changes. -/
structure CapturedControlFields where
  headAbs : ℕ
  oldestAbs : ℕ
  lostCount : ℕ
  runId : UInt64
  epochId : UInt64
  epochFirstAbs : ℕ
  definitionHash : Bytes
  prevDefinitionHash : Bytes
  deriving DecidableEq

namespace CapturedControlFields

/-- The fields of a snapshot. -/
def fromSnapshot (snapshot : ControlBlockSnapshot) : CapturedControlFields where
  headAbs := snapshot.headAbs
  oldestAbs := snapshot.oldestAbs
  lostCount := snapshot.lostCount
  runId := snapshot.runId
  epochId := snapshot.epochId
  epochFirstAbs := snapshot.epochFirstAbs
  definitionHash := snapshot.definitionHash
  prevDefinitionHash := snapshot.prevDefinitionHash

/-- A snapshot with the constants of the captured producers. -/
def toSnapshot (capacity : ℕ) (control : CapturedControlFields) : ControlBlockSnapshot where
  version := 2
  caps := 0
  bufferId := DEFAULT_BUFFER_ID
  bufferBytes := UInt32.ofNat capacity
  headAbs := control.headAbs
  oldestAbs := control.oldestAbs
  lostCount := control.lostCount
  runId := control.runId
  epochId := control.epochId
  epochFirstAbs := control.epochFirstAbs
  definitionHash := control.definitionHash
  prevDefinitionHash := control.prevDefinitionHash

end CapturedControlFields

/-- A captured or regenerated image. -/
structure CapturedImage where
  ringBytes : Bytes
  control : CapturedControlFields
  deriving DecidableEq

/-- A record found in a captured image, with its epoch. -/
structure CapturedRecordSummary where
  startAbs : ℕ
  endAbs : ℕ
  runId : UInt64
  sourceId : UInt32
  seq : UInt64
  eventTypeId : UInt32
  resolvedEpoch : Option UInt64
  deriving DecidableEq

/-- What a successful validation returns. -/
structure CaptureValidation where
  batch : ReadBatch
  survivors : List CapturedRecordSummary
  lossEvents : List LossEvent
  deriving DecidableEq

/-- Why a capture is rejected. -/
inductive CaptureValidationError where
  | reference (error : EpochError)
  | ringLengthMismatch (expected actual : ℕ)
  | ringByteMismatch (index : ℕ) (expected actual : UInt8)
  | controlFieldMismatch (field : String) (expected actual : ℕ)
  | controlHashMismatch (field : String) (expected actual : Bytes)
  | ring (error : RingError)
  | scenarioInvariant (scenario : CaptureScenario) (message : String)
  deriving DecidableEq

/-! ## The reference -/

/-- `drive_rich_wrap`. -/
def driveRichWrap : Mut EpochProducer EpochError Unit := do
  EpochProducer.emitData 10 EVENT_MESSAGE
  EpochProducer.emitData 10 EVENT_MESSAGE
  EpochProducer.emitData 10 EVENT_MESSAGE
  EpochProducer.emitData 20 EVENT_MESSAGE
  EpochProducer.emitData 20 EVENT_MESSAGE
  EpochProducer.checkpointHighWater
  EpochProducer.beginEpochTransition OLD_HASH NEW_HASH TRANSITION_EPOCH
  EpochProducer.emitDefinitionChanged
  EpochProducer.finishDefinitionChange
  EpochProducer.emitData 10 EVENT_MESSAGE
  EpochProducer.emitData 20 EVENT_MESSAGE

/-- `drive_lifecycle_survival`. -/
def driveLifecycleSurvival : Mut EpochProducer EpochError Unit := do
  EpochProducer.emitData 21 EVENT_MESSAGE
  EpochProducer.beginEpochTransition OLD_HASH NEW_HASH TRANSITION_EPOCH
  EpochProducer.emitDefinitionChanged
  EpochProducer.finishDefinitionChange

/-- The calls of a scenario. -/
def CaptureScenario.drive : CaptureScenario → Mut EpochProducer EpochError Unit
  | .richWrap => driveRichWrap
  | .lifecycleSurvival => driveLifecycleSurvival

/-- The image that a producer leaves. -/
def EpochProducer.image (producer : EpochProducer) : CapturedImage where
  ringBytes := producer.ring.bytes
  control := .fromSnapshot producer.controlSnapshot

/-- The image of a scenario. -/
def referenceCapture (scenario : CaptureScenario) : Outcome EpochError CapturedImage := do
  let producer ← EpochProducer.new S4A_CAPTURE_CAPACITY 1 1
  match scenario.drive producer with
  | (.ok (), producer) => pure producer.image
  | (.err e, _) => .err e
  | (.panic, _) => .panic

/-! ## Comparing -/

/-- The loop of `compare_ring_bytes`. -/
def compareBytesFrom : ℕ → Bytes → Bytes → Outcome CaptureValidationError Unit
  | index, actual :: actuals, expected :: expecteds =>
    if actual ≠ expected then .err (.ringByteMismatch index expected actual)
    else compareBytesFrom (index + 1) actuals expecteds
  | _, _, _ => .ok ()

/-- Compares the bytes of two rings. -/
def compareRingBytes (actual expected : Bytes) : Outcome CaptureValidationError Unit :=
  if actual.length ≠ expected.length then
    .err (.ringLengthMismatch expected.length actual.length)
  else compareBytesFrom 0 actual expected

/-- Compares a number. -/
def compareControlU64 (field : String) (actual expected : ℕ) :
    Outcome CaptureValidationError Unit :=
  if actual = expected then .ok () else .err (.controlFieldMismatch field expected actual)

/-- Compares a hash. -/
def compareControlHash (field : String) (actual expected : Bytes) :
    Outcome CaptureValidationError Unit :=
  if actual = expected then .ok () else .err (.controlHashMismatch field expected actual)

/-- Compares the control fields. -/
def compareControl (actual expected : CapturedControlFields) :
    Outcome CaptureValidationError Unit := do
  compareControlU64 "headAbs" actual.headAbs expected.headAbs
  compareControlU64 "oldestAbs" actual.oldestAbs expected.oldestAbs
  compareControlU64 "lostCount" actual.lostCount expected.lostCount
  compareControlU64 "runId" actual.runId.toNat expected.runId.toNat
  compareControlU64 "epochId" actual.epochId.toNat expected.epochId.toNat
  compareControlU64 "epochFirstAbs" actual.epochFirstAbs expected.epochFirstAbs
  compareControlHash "definitionHash" actual.definitionHash expected.definitionHash
  compareControlHash "prevDefinitionHash" actual.prevDefinitionHash expected.prevDefinitionHash

/-! ## Reading -/

/-- The order in which loss events are reported. -/
def LossEvent.key (event : LossEvent) : ℕ ×ₗ ℕ ×ₗ ℕ ×ₗ ℕ ×ₗ ℕ :=
  toLex (event.bufferId.toNat, toLex (event.runId.toNat, toLex (event.sourceId.toNat,
    toLex (event.firstSeq.toNat, event.lastSeq.toNat))))

/-- The reconciled loss intervals, sorted. -/
def RawByteConsumer.lossEvents (consumer : RawByteConsumer) : List LossEvent :=
  consumer.tracker.lossEvents.insertionSort fun a b => a.key ≤ b.key

/-- `CapturedRecordSummary` of a record, as a resolver sees it. -/
def EpochResolver.summary (resolver : EpochResolver) (read : ReadRecord) : CapturedRecordSummary where
  startAbs := read.startAbs
  endAbs := read.endAbs
  runId := read.record.runId
  sourceId := read.record.sourceId
  seq := read.record.seq
  eventTypeId := read.record.eventTypeId
  resolvedEpoch := resolver.resolve DEFAULT_BUFFER_ID read.record.runId read.startAbs

/-- What `validate_capture` reads of an image: the batch and the consumer behind it, and the records
with the epochs that a resolver finds for them. -/
def readCapture (ringBytes : Bytes) (control : CapturedControlFields) :
    Outcome CaptureValidationError (ReadBatch × RawByteConsumer × List CapturedRecordSummary) := do
  let capturedRing ← (RingBuffer.fromCaptured ringBytes control.headAbs control.oldestAbs
    control.lostCount).mapErr .ring
  match RawByteConsumer.pollSnapshot capturedRing (control.toSnapshot S4A_CAPTURE_CAPACITY) .new with
  | (.ok batch, consumer) =>
    let resolver := (EpochResolver.new DEFAULT_BUFFER_ID 1 1).observeAll DEFAULT_BUFFER_ID
      batch.records
    .ok (batch, consumer, batch.records.map resolver.summary)
  | (.err e, _) => .err (.ring e)
  | (.panic, _) => .panic

/-! ## The checks of a scenario -/

/-- An optional number as `Debug` prints it. -/
def debugOption : Option UInt64 → String
  | some value => "Some(" ++ toString value ++ ")"
  | none => "None"

/-- A summary as `Debug` prints it. -/
def CapturedRecordSummary.debug (summary : CapturedRecordSummary) : String :=
  "CapturedRecordSummary \x7b start_abs: " ++ toString summary.startAbs ++
    ", end_abs: " ++ toString summary.endAbs ++ ", run_id: " ++ toString summary.runId ++
    ", source_id: " ++ toString summary.sourceId ++ ", seq: " ++ toString summary.seq ++
    ", event_type_id: " ++ toString summary.eventTypeId ++
    ", resolved_epoch: " ++ debugOption summary.resolvedEpoch ++ " \x7d"

/-- A list as `Debug` prints it. -/
def debugList (texts : List String) : String := "[" ++ ", ".intercalate texts ++ "]"

/-- `ensure`. -/
def ensure (scenario : CaptureScenario) (condition : Bool) (message : String) :
    Outcome CaptureValidationError Unit :=
  if condition then .ok () else .err (.scenarioInvariant scenario message)

/-- `ensure_eq`, with the `Debug` form of the values. -/
def ensureEq {α : Type} [DecidableEq α] (debug : α → String) (scenario : CaptureScenario)
    (actual expected : α) (name : String) : Outcome CaptureValidationError Unit :=
  if actual = expected then .ok ()
  else .err (.scenarioInvariant scenario
    (name ++ ": expected " ++ debug expected ++ ", got " ++ debug actual))

/-- `ensure_eq` of the survivors. -/
def ensureEqSurvivors (scenario : CaptureScenario) (actual expected : List CapturedRecordSummary)
    (name : String) : Outcome CaptureValidationError Unit :=
  ensureEq (fun survivors => debugList (survivors.map CapturedRecordSummary.debug)) scenario actual
    expected name

/-- `ensure_eq_u64`. -/
def ensureEqU64 (scenario : CaptureScenario) (actual expected : UInt64) (name : String) :
    Outcome CaptureValidationError Unit :=
  ensureEq toString scenario actual expected name

/-- `lost_in_run`, which has no error of its own. -/
def lostIn (consumer : RawByteConsumer) (runId : UInt64) (sourceId : UInt32) :
    Outcome CaptureValidationError UInt64 :=
  (consumer.lostInRun runId sourceId).mapErr .ring

/-- `assert_rich_wrap_invariants`. -/
def assertRichWrapInvariants (batch : ReadBatch) (consumer : RawByteConsumer)
    (survivors : List CapturedRecordSummary) : Outcome CaptureValidationError Unit := do
  ensure .richWrap batch.lapped "consumer must lap"
  ensureEqSurvivors .richWrap survivors [
    ⟨624, 704, 1, SYSTEM_SOURCE_ID, 1, EVENT_DEFINITION_CHANGED, some 1⟩,
    ⟨704, 756, 1, SYSTEM_SOURCE_ID, 2, EVENT_LOGGER_STARTED, some 2⟩,
    ⟨768, 820, 1, 10, 5, EVENT_MESSAGE, some 2⟩,
    ⟨820, 872, 1, 20, 4, EVENT_MESSAGE, some 2⟩] "rich-wrap survivors"
  ensureEqU64 .richWrap (consumer.deliveredInRun 1 10) 1 "source 10 delivered"
  ensureEqU64 .richWrap (← lostIn consumer 1 10) 5 "source 10 lost"
  ensureEqU64 .richWrap (consumer.deliveredInRun 1 20) 1 "source 20 delivered"
  ensureEqU64 .richWrap (← lostIn consumer 1 20) 4 "source 20 lost"
  ensureEqU64 .richWrap (consumer.deliveredInRun 1 SYSTEM_SOURCE_ID) 2 "system delivered"
  ensureEqU64 .richWrap (← lostIn consumer 1 SYSTEM_SOURCE_ID) 1 "system lost"

/-- `assert_lifecycle_survival_invariants`. -/
def assertLifecycleSurvivalInvariants (batch : ReadBatch) (consumer : RawByteConsumer)
    (survivors : List CapturedRecordSummary) : Outcome CaptureValidationError Unit := do
  ensure .lifecycleSurvival batch.lapped "consumer must lap"
  ensureEqSurvivors .lifecycleSurvival survivors [
    ⟨52, 96, 1, SYSTEM_SOURCE_ID, 0, EVENT_LOGGER_STOPPED, some 1⟩,
    ⟨96, 152, 1, 21, 1, EVENT_SOURCE_HIGH_WATER, some 1⟩,
    ⟨152, 232, 1, SYSTEM_SOURCE_ID, 1, EVENT_DEFINITION_CHANGED, some 1⟩,
    ⟨256, 308, 1, SYSTEM_SOURCE_ID, 2, EVENT_LOGGER_STARTED, some 2⟩] "lifecycle-survival survivors"
  let retainedDataForSource := UInt64.ofNat (batch.records.countP fun read =>
    decide (read.record.sourceId = 21 ∧ read.record.eventTypeId = EVENT_MESSAGE))
  ensureEqU64 .lifecycleSurvival retainedDataForSource 0 "source 21 retained data records"
  ensureEqU64 .lifecycleSurvival (← lostIn consumer 1 21) 1 "source 21 lost data records"
  ensureEqU64 .lifecycleSurvival (← checkedAdd retainedDataForSource (← lostIn consumer 1 21)) 1
    "source 21 data delivered plus lost"
  ensureEqU64 .lifecycleSurvival (consumer.deliveredInRun 1 21) 1
    "source 21 delivered high-water record"
  ensureEqU64 .lifecycleSurvival (consumer.deliveredInRun 1 SYSTEM_SOURCE_ID) 3 "system delivered"
  ensureEqU64 .lifecycleSurvival (← lostIn consumer 1 SYSTEM_SOURCE_ID) 0 "system lost"

/-- The checks of a scenario. -/
def CaptureScenario.assertInvariants : CaptureScenario → ReadBatch → RawByteConsumer →
    List CapturedRecordSummary → Outcome CaptureValidationError Unit
  | .richWrap => assertRichWrapInvariants
  | .lifecycleSurvival => assertLifecycleSurvivalInvariants

/-- Validates a captured image against the image of a scenario. -/
def validateCapture (scenario : CaptureScenario) (capturedRingBytes : Bytes)
    (capturedControl : CapturedControlFields) :
    Outcome CaptureValidationError CaptureValidation := do
  let reference ← (referenceCapture scenario).mapErr .reference
  compareRingBytes capturedRingBytes reference.ringBytes
  compareControl capturedControl reference.control
  let (batch, consumer, survivors) ← readCapture capturedRingBytes capturedControl
  scenario.assertInvariants batch consumer survivors
  pure ⟨batch, survivors, consumer.lossEvents⟩

/-! ## The first difference -/

/-- The comparisons of the control fields in their order, each with the error it ends in. -/
def controlChecks (actual expected : CapturedControlFields) :
    List (Bool × CaptureValidationError) :=
  let number (field : String) (read : CapturedControlFields → ℕ) :=
    (decide (read actual = read expected),
      CaptureValidationError.controlFieldMismatch field (read expected) (read actual))
  let hash (field : String) (read : CapturedControlFields → Bytes) :=
    (decide (read actual = read expected),
      CaptureValidationError.controlHashMismatch field (read expected) (read actual))
  [number "headAbs" (·.headAbs), number "oldestAbs" (·.oldestAbs),
    number "lostCount" (·.lostCount), number "runId" (·.runId.toNat),
    number "epochId" (·.epochId.toNat), number "epochFirstAbs" (·.epochFirstAbs),
    hash "definitionHash" (·.definitionHash), hash "prevDefinitionHash" (·.prevDefinitionHash)]

/-- Checks made one after the other. -/
def runChecks {ε : Type} : List (Bool × ε) → Outcome ε Unit
  | [] => .ok ()
  | (holds, error) :: checks => if holds then runChecks checks else .err error

/-- An error names the first difference between a reference and a captured image: the number of
bytes, then the first byte that differs, then the first control field that differs. -/
inductive CaptureDiffers (reference : CapturedImage) (ringBytes : Bytes)
    (control : CapturedControlFields) : CaptureValidationError → Prop
  | length (hlength : ringBytes.length ≠ reference.ringBytes.length) :
      CaptureDiffers reference ringBytes control
        (.ringLengthMismatch reference.ringBytes.length ringBytes.length)
  | byte {same actuals expecteds : Bytes} {actual expected : UInt8}
      (hlength : ringBytes.length = reference.ringBytes.length)
      (hactual : ringBytes = same ++ actual :: actuals)
      (hexpected : reference.ringBytes = same ++ expected :: expecteds)
      (hne : actual ≠ expected) :
      CaptureDiffers reference ringBytes control (.ringByteMismatch same.length expected actual)
  | control {same rest : List (Bool × CaptureValidationError)} {error : CaptureValidationError}
      (hbytes : ringBytes = reference.ringBytes)
      (hchecks : controlChecks control reference.control = same ++ (false, error) :: rest)
      (hsame : ∀ check ∈ same, check.1 = true) : CaptureDiffers reference ringBytes control error

section

variable {reference : CapturedImage} {ringBytes : Bytes} {control : CapturedControlFields}
  {error : CaptureValidationError}

/-- Two lists of one length are the same, or differ somewhere for the first time. -/
lemma eq_or_exists_split {actual expected : Bytes} (hlength : actual.length = expected.length) :
    actual = expected ∨ ∃ same actuals expecteds a e, actual = same ++ a :: actuals ∧
      expected = same ++ e :: expecteds ∧ a ≠ e := by
  induction actual generalizing expected with
  | nil => exact .inl (List.length_eq_zero_iff.mp hlength.symm).symm
  | cons a actuals ih =>
    obtain ⟨e, expecteds, rfl⟩ := List.exists_cons_of_length_eq_add_one hlength.symm
    by_cases hne : a = e
    · subst hne
      rcases ih (by simpa using hlength) with rfl | ⟨same, actuals', expecteds', a', e', rfl, rfl, h⟩
      · exact .inl rfl
      · exact .inr ⟨a :: same, actuals', expecteds', a', e', rfl, rfl, h⟩
    · exact .inr ⟨[], actuals, expecteds, a, e, rfl, rfl, hne⟩

/-- Checks all hold, or one of them is the first that fails. -/
lemma forall_or_exists_failed {ε : Type} (checks : List (Bool × ε)) :
    (∀ check ∈ checks, check.1 = true) ∨ ∃ same error rest,
      checks = same ++ (false, error) :: rest ∧ ∀ check ∈ same, check.1 = true := by
  induction checks with
  | nil => exact .inl (by simp)
  | cons check checks ih =>
    obtain ⟨holds, error⟩ := check
    cases holds with
    | false => exact .inr ⟨[], error, checks, rfl, by simp⟩
    | true =>
      rcases ih with hall | ⟨same, error', rest, rfl, hsame⟩
      · exact .inl (by simpa using hall)
      · exact .inr ⟨(true, error) :: same, error', rest, rfl, by simpa using hsame⟩

/-- Equal bytes are accepted. -/
lemma compareBytesFrom_self (index : ℕ) (bytes : Bytes) :
    compareBytesFrom index bytes bytes = .ok () := by
  induction bytes generalizing index with
  | nil => rfl
  | cons b bytes ih => rw [compareBytesFrom, if_neg (not_not.mpr rfl), ih]

/-- The loop ends at the first byte that differs. -/
lemma compareBytesFrom_append {a e : UInt8} (hne : a ≠ e) (index : ℕ)
    (same actuals expecteds : Bytes) :
    compareBytesFrom index (same ++ a :: actuals) (same ++ e :: expecteds) =
      .err (.ringByteMismatch (index + same.length) e a) := by
  induction same generalizing index with
  | nil => exact if_pos hne
  | cons b same ih =>
    rw [List.cons_append, List.cons_append, compareBytesFrom, if_neg (not_not.mpr rfl), ih,
      List.length_cons, Nat.add_assoc, Nat.add_comm 1]

/-- Checks that hold have no effect. -/
lemma runChecks_append {ε : Type} {same : List (Bool × ε)}
    (hsame : ∀ check ∈ same, check.1 = true) (rest : List (Bool × ε)) :
    runChecks (same ++ rest) = runChecks rest := by
  induction same with
  | nil => rfl
  | cons check same ih =>
    obtain ⟨hcheck, hsame⟩ := List.forall_mem_cons.mp hsame
    rw [List.cons_append, runChecks, if_pos hcheck, ih hsame]

/-- The comparison of the control fields makes its checks one after the other. -/
lemma compareControl_eq (actual expected : CapturedControlFields) :
    compareControl actual expected = runChecks (controlChecks actual expected) := by
  have hstep : ∀ (holds : Prop) [Decidable holds] (error : CaptureValidationError)
      (rest : Outcome CaptureValidationError Unit),
      ((if holds then .ok () else .err error : Outcome CaptureValidationError Unit) >>= fun _ => rest) =
        if decide holds then rest else .err error := by
    intro holds _ error rest
    by_cases h : holds <;> simp [h]
  simp only [compareControl, controlChecks, runChecks, compareControlU64, compareControlHash, hstep]
  simp only [decide_eq_true_eq]

/-- Control fields are the same exactly if every check holds. -/
lemma controlChecks_iff {actual expected : CapturedControlFields} :
    (∀ check ∈ controlChecks actual expected, check.1 = true) ↔ actual = expected := by
  obtain ⟨_, _, _, _, _, _, _, _⟩ := actual
  obtain ⟨_, _, _, _, _, _, _, _⟩ := expected
  simp [controlChecks, UInt64.toNat_inj]

/-- The two comparisons accept an image that is the same. -/
lemma compare_same (reference : CapturedImage) :
    compareRingBytes reference.ringBytes reference.ringBytes = .ok () ∧
      compareControl reference.control reference.control = .ok () := by
  refine ⟨(if_neg (not_not.mpr rfl)).trans (compareBytesFrom_self _ _), ?_⟩
  rw [compareControl_eq, ← List.append_nil (controlChecks _ _),
    runChecks_append (controlChecks_iff.mpr rfl), runChecks]

/-- They end in the error that names the first difference. -/
lemma CaptureDiffers.compare (h : CaptureDiffers reference ringBytes control error) :
    (compareRingBytes ringBytes reference.ringBytes >>= fun _ =>
      compareControl control reference.control) = .err error := by
  cases h with
  | length hlength => rw [compareRingBytes, if_pos hlength, Outcome.err_bind]
  | byte hlength hactual hexpected hne =>
    rw [compareRingBytes, if_neg (not_not.mpr hlength), hactual, hexpected,
      compareBytesFrom_append hne, Nat.zero_add, Outcome.err_bind]
  | control hbytes hchecks hsame =>
    rw [hbytes, (compare_same reference).1, Outcome.ok_bind, compareControl_eq, hchecks,
      runChecks_append hsame]
    rfl

/-- An image is the same, or an error names the first difference. -/
lemma same_or_differs (reference : CapturedImage) (ringBytes : Bytes)
    (control : CapturedControlFields) :
    ringBytes = reference.ringBytes ∧ control = reference.control ∨
      ∃ error, CaptureDiffers reference ringBytes control error := by
  by_cases hlength : ringBytes.length = reference.ringBytes.length
  swap
  · exact .inr ⟨_, .length hlength⟩
  rcases eq_or_exists_split hlength with hbytes | ⟨same, actuals, expecteds, a, e, ha, he, hne⟩
  · rcases forall_or_exists_failed (controlChecks control reference.control) with
      hall | ⟨same, error, rest, hsplit, hsame⟩
    · exact .inl ⟨hbytes, controlChecks_iff.mp hall⟩
    · exact .inr ⟨error, .control hbytes hsplit hsame⟩
  · exact .inr ⟨_, .byte hlength ha he hne⟩

end

/-! ## The validator -/

/-- The reference of a scenario is regenerated, is read, and meets the checks of the scenario. -/
lemma exists_reference (scenario : CaptureScenario) : ∃ reference batch consumer survivors,
    referenceCapture scenario = .ok reference ∧
      readCapture reference.ringBytes reference.control = .ok (batch, consumer, survivors) ∧
      scenario.assertInvariants batch consumer survivors = .ok () := by
  have hvalid : ((referenceCapture scenario).mapErr CaptureValidationError.reference >>=
      fun reference => readCapture reference.ringBytes reference.control >>= fun read =>
        scenario.assertInvariants read.1 read.2.1 read.2.2) = .ok () := by
    cases scenario <;> decide +kernel
  obtain ⟨reference, hreference, hread⟩ := Outcome.bind_eq_ok.mp hvalid
  obtain ⟨⟨batch, consumer, survivors⟩, hread, hinvariants⟩ := Outcome.bind_eq_ok.mp hread
  exact ⟨reference, batch, consumer, survivors, Outcome.mapErr_eq_ok.mp hreference, hread,
    hinvariants⟩

/-- **The validator is exact.** The reference of a scenario can be regenerated; the validator accepts
a captured image exactly if its bytes and its control fields are those of the reference; it rejects
every other with the error that names the first difference, and so never with an error of its reader
or of its checks, which the reference meets. It never panics. -/
theorem validate_capture_exact (scenario : CaptureScenario) : ∃ reference validation,
    referenceCapture scenario = .ok reference ∧ ∀ ringBytes control,
      (validateCapture scenario ringBytes control = .ok validation ↔
        ringBytes = reference.ringBytes ∧ control = reference.control) ∧
      (∀ error, validateCapture scenario ringBytes control = .err error ↔
        CaptureDiffers reference ringBytes control error) ∧
      validateCapture scenario ringBytes control ≠ .panic := by
  obtain ⟨reference, batch, consumer, survivors, hreference, hread, hinvariants⟩ :=
    exists_reference scenario
  have hsame : validateCapture scenario reference.ringBytes reference.control =
      .ok ⟨batch, survivors, consumer.lossEvents⟩ := by
    obtain ⟨hring, hcontrol⟩ := compare_same reference
    simp only [validateCapture, hreference, Outcome.mapErr_ok, Outcome.ok_bind, hring, hcontrol,
      hread, hinvariants, Outcome.pure_eq]
  have hdiffers : ∀ {ringBytes control error}, CaptureDiffers reference ringBytes control error →
      validateCapture scenario ringBytes control = .err error := by
    intro ringBytes control error h
    rw [validateCapture, hreference, Outcome.mapErr_ok, Outcome.ok_bind, ← bind_assoc, h.compare,
      Outcome.err_bind]
  refine ⟨reference, ⟨batch, survivors, consumer.lossEvents⟩, hreference,
    fun ringBytes control => ?_⟩
  rcases same_or_differs reference ringBytes control with ⟨rfl, rfl⟩ | ⟨error, h⟩
  · rw [hsame]
    refine ⟨by simp, fun error => ⟨by simp, fun h => ?_⟩, by simp⟩
    rw [← hdiffers h, hsame]
  · rw [hdiffers h]
    refine ⟨⟨by simp, ?_⟩, fun error' => ⟨?_, fun h' => ?_⟩, by simp⟩
    · rintro ⟨rfl, rfl⟩
      rw [← hdiffers h, hsame]
    · rintro ⟨⟩
      exact h
    · rw [← hdiffers h, hdiffers h']

end OpenOT
