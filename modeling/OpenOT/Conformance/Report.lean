import OpenOT.Conformance.Observer
import OpenOT.Lib.Text

set_option relaxedAutoImplicit false
set_option autoImplicit false

/-!
# The observed report

The text report of a conformance run: what a consumer has delivered and lost of every source, its
counters, and the violations of the oracle. A harness writes it in one process and reads it in
another.

## Main definitions

* `OpenOT.Conformance.ObservedReport` — the report.
* `OpenOT.Conformance.ObservedReport.write` — the text of a report.
* `OpenOT.Conformance.ObservedReport.read` — the report of a text, or an error.

## Main results

* `OpenOT.Conformance.sound_of_read` — the labels of a report that is read are words.
* `OpenOT.report_round_trip` — the reports that are read back as they were written.
* `OpenOT.report_read_again` — a report that was read can be written and read again.

## Design

The text is the contents of the file; that it can be opened is outside the model. A line is written
as its words with single blanks between them. Offsets are natural numbers, as in the violations; the
reader accepts those below `2 ^ 64`.
-/

namespace OpenOT

/-- Whether the shared store uses the fences of the protocol. -/
inductive FenceMode where
  | fenced
  | unfenced
  deriving DecidableEq, Repr

namespace FenceMode

/-- Parses a command or report value. -/
def parse (value : String) : Rust.Outcome String FenceMode :=
  if value = "fenced" then .ok .fenced
  else if value = "unfenced" then .ok .unfenced
  else .err ("invalid fence mode " ++ value ++ "; expected fenced or unfenced")

/-- Stable lowercase label for command and report output. -/
def asStr : FenceMode → String
  | fenced => "fenced"
  | unfenced => "unfenced"

end FenceMode

namespace Conformance

open Rust Text

/-! ## Labels of violations -/

namespace ViolationKind

/-- Stable report token. -/
def asStr : ViolationKind → String
  | expectedAbsMismatch => "expected_abs_mismatch"
  | missingExpectedAbsSlot => "missing_expected_abs_slot"
  | invalidExpectedAbsSlot => "invalid_expected_abs_slot"
  | unexpectedRecord => "unexpected_record"
  | duplicateOrBackwardSeq => "duplicate_or_backward_seq"
  | eventOrderMismatch => "event_order_mismatch"

/-- The kind with a token. -/
def parse (value : String) : Outcome ConformanceError ViolationKind :=
  if value = "expected_abs_mismatch" then .ok expectedAbsMismatch
  else if value = "missing_expected_abs_slot" then .ok missingExpectedAbsSlot
  else if value = "invalid_expected_abs_slot" then .ok invalidExpectedAbsSlot
  else if value = "unexpected_record" then .ok unexpectedRecord
  else if value = "duplicate_or_backward_seq" then .ok duplicateOrBackwardSeq
  else if value = "event_order_mismatch" then .ok eventOrderMismatch
  else .err ⟨"invalid violation kind " ++ value⟩

end ViolationKind

/-! ## Reports -/

/-- Observed reconciliation for one source stream. -/
structure SourceObserved where
  runId : UInt64
  sourceId : UInt32
  expectedTotal : UInt64
  delivered : UInt64
  lost : UInt64
  deriving DecidableEq, Repr

/-- Observed conformance report. -/
structure ObservedReport where
  mode : String
  fenceMode : FenceMode
  appendMode : String
  cap : UInt64
  headAbs : UInt64
  lostCount : UInt64
  lappedBatches : UInt64
  overwrittenRetries : UInt64
  rejectedRecords : UInt64
  pollErrors : UInt64
  deliveredTotal : UInt64
  lostTotal : UInt64
  staleViolations : List StaleViolation
  sources : List SourceObserved
  deriving DecidableEq, Repr

/-- A number as it is written. -/
def display (n : ℕ) : String := String.ofList (decimal n)

/-- A flag as it is written. -/
def displayBool (b : Bool) : String := if b then "true" else "false"

/-- The words of the line of a violation. -/
def StaleViolation.line (stale : StaleViolation) : List String :=
  ["stale", stale.kind.asStr, display stale.sourceId.toNat, display stale.seq.toNat,
    display stale.expectedAbs, display stale.actualAbs, displayBool stale.crcPassed]

/-- The words of the line of a source. -/
def SourceObserved.line (source : SourceObserved) : List String :=
  ["source", display source.runId.toNat, display source.sourceId.toNat,
    display source.expectedTotal.toNat, display source.delivered.toNat, display source.lost.toNat]

namespace ObservedReport

/-- The lines of a report above its violations and its sources, each with its words. -/
def header (report : ObservedReport) : List (List String) :=
  [["report_version", "2"],
    ["mode", report.mode],
    ["fence", report.fenceMode.asStr],
    ["append_mode", report.appendMode],
    ["cap", display report.cap.toNat],
    ["head_abs", display report.headAbs.toNat],
    ["lost_count", display report.lostCount.toNat],
    ["lapped_batches", display report.lappedBatches.toNat],
    ["overwritten_retries", display report.overwrittenRetries.toNat],
    ["rejected_records", display report.rejectedRecords.toNat],
    ["poll_errors", display report.pollErrors.toNat],
    ["delivered_total", display report.deliveredTotal.toNat],
    ["lost_total", display report.lostTotal.toNat],
    ["stale_violations", display report.staleViolations.length]]

/-- The lines of a report, each with its words. -/
def reportLines (report : ObservedReport) : List (List String) :=
  report.header ++ report.staleViolations.map StaleViolation.line ++
    report.sources.map SourceObserved.line

/-- The text of a report. -/
def write (report : ObservedReport) : List Char :=
  unlines (report.reportLines.map fun line => joined (line.map String.toList))

end ObservedReport

/-! ## Reading a report -/

/-- An unsigned number below a bound; the field is named in the error. -/
def parseValue (bound : ℕ) (value field : String) : Outcome ConformanceError ℕ :=
  match parseUnsigned bound value.toList with
  | some n => .ok n
  | none => .err ⟨"invalid value for " ++ field ++ ": " ++ value⟩

/-- A `u64`. -/
def parseU64 (value field : String) : Outcome ConformanceError UInt64 := do
  let n ← parseValue (2 ^ 64) value field
  pure (UInt64.ofNat n)

/-- A `u32`. -/
def parseU32 (value field : String) : Outcome ConformanceError UInt32 := do
  let n ← parseValue (2 ^ 32) value field
  pure (UInt32.ofNat n)

/-- A `bool`. -/
def parseBool (value field : String) : Outcome ConformanceError Bool :=
  if value = "true" then .ok true
  else if value = "false" then .ok false
  else .err ⟨"invalid value for " ++ field ++ ": " ++ value⟩

/-- What has been read of a report. -/
structure ReportFields where
  mode : Option String
  fenceMode : Option FenceMode
  appendMode : Option String
  cap : Option UInt64
  headAbs : Option UInt64
  lostCount : Option UInt64
  lappedBatches : Option UInt64
  overwrittenRetries : Option UInt64
  rejectedRecords : Option UInt64
  pollErrors : Option UInt64
  deliveredTotal : Option UInt64
  lostTotal : Option UInt64
  staleCount : Option ℕ
  staleViolations : List StaleViolation
  sources : List SourceObserved
  deriving DecidableEq, Repr

namespace ReportFields

/-- Before the first line. -/
def empty : ReportFields :=
  ⟨none, none, none, none, none, none, none, none, none, some 0, none, none, none, [], []⟩

/-- A violation is read, in either form of its line. -/
def pushStale (fields : ReportFields) (kind : ViolationKind)
    (sourceId seq expectedAbs actualAbs crcPassed : String) :
    Outcome ConformanceError ReportFields := do
  let sourceId ← parseU32 sourceId "stale source_id"
  let seq ← parseU64 seq "stale seq"
  let expectedAbs ← parseValue (2 ^ 64) expectedAbs "stale expected_abs"
  let actualAbs ← parseValue (2 ^ 64) actualAbs "stale actual_abs"
  let crcPassed ← parseBool crcPassed "stale crc_passed"
  pure { fields with staleViolations :=
    fields.staleViolations ++ [⟨kind, sourceId, seq, expectedAbs, actualAbs, crcPassed⟩] }

/-- A source is read, in either form of its line. -/
def pushSource (fields : ReportFields) (runId : UInt64)
    (sourceId expectedTotal delivered lost : String) : Outcome ConformanceError ReportFields := do
  let sourceId ← parseU32 sourceId "source source_id"
  let expectedTotal ← parseU64 expectedTotal "source expected_total"
  let delivered ← parseU64 delivered "source delivered"
  let lost ← parseU64 lost "source lost"
  pure { fields with sources :=
    fields.sources ++ [⟨runId, sourceId, expectedTotal, delivered, lost⟩] }

/-- One line, given with its words. -/
def observe (line : List Char) (fields : ReportFields) :
    List String → Outcome ConformanceError ReportFields
  | ["report_version", "2"] => .ok fields
  | ["mode", value] => .ok { fields with mode := some value }
  | ["fence", value] => do
    let fenceMode ← (FenceMode.parse value).mapErr ConformanceError.mk
    pure { fields with fenceMode := some fenceMode }
  | ["append_mode", value] => .ok { fields with appendMode := some value }
  | ["cap", value] => do
    let cap ← parseU64 value "cap"
    pure { fields with cap := some cap }
  | ["head_abs", value] => do
    let headAbs ← parseU64 value "head_abs"
    pure { fields with headAbs := some headAbs }
  | ["lost_count", value] => do
    let lostCount ← parseU64 value "lost_count"
    pure { fields with lostCount := some lostCount }
  | ["lapped_batches", value] => do
    let lappedBatches ← parseU64 value "lapped_batches"
    pure { fields with lappedBatches := some lappedBatches }
  | ["overwritten_retries", value] => do
    let overwrittenRetries ← parseU64 value "overwritten_retries"
    pure { fields with overwrittenRetries := some overwrittenRetries }
  | ["rejected_records", value] => do
    let rejectedRecords ← parseU64 value "rejected_records"
    pure { fields with rejectedRecords := some rejectedRecords }
  | ["poll_errors", value] => do
    let pollErrors ← parseU64 value "poll_errors"
    pure { fields with pollErrors := some pollErrors }
  | ["delivered_total", value] => do
    let deliveredTotal ← parseU64 value "delivered_total"
    pure { fields with deliveredTotal := some deliveredTotal }
  | ["lost_total", value] => do
    let lostTotal ← parseU64 value "lost_total"
    pure { fields with lostTotal := some lostTotal }
  | ["stale_violations", value] => do
    let staleCount ← parseValue (2 ^ 64) value "stale_violations"
    pure { fields with staleCount := some staleCount }
  | ["stale", kind, sourceId, seq, expectedAbs, actualAbs, crcPassed] => do
    let kind ← ViolationKind.parse kind
    fields.pushStale kind sourceId seq expectedAbs actualAbs crcPassed
  | ["stale", sourceId, seq, expectedAbs, actualAbs, crcPassed] =>
    fields.pushStale .expectedAbsMismatch sourceId seq expectedAbs actualAbs crcPassed
  | ["source", runId, sourceId, expectedTotal, delivered, lost] => do
    let runId ← parseU64 runId "source run_id"
    fields.pushSource runId sourceId expectedTotal delivered lost
  | ["source", sourceId, expectedTotal, delivered, lost] =>
    fields.pushSource 0 sourceId expectedTotal delivered lost
  | _ => .err ⟨"invalid observed line: " ++ String.ofList line⟩

/-- The loop over the lines. -/
def observeLines : List (List Char) → ReportFields → Outcome ConformanceError ReportFields
  | [], fields => .ok fields
  | line :: rest, fields => do
    let fields ← fields.observe line ((words line).map String.ofList)
    observeLines rest fields

/-- A field that must be there. -/
def require {α : Type} (field : Option α) (name : String) : Outcome ConformanceError α :=
  match field with
  | some value => .ok value
  | none => .err ⟨"missing " ++ name⟩

/-- The report, once all lines have been read. -/
def finish (fields : ReportFields) : Outcome ConformanceError ObservedReport := do
  if fields.staleCount ≠ some fields.staleViolations.length then
    .err ⟨"stale_violations count mismatch"⟩
  else do
    let mode ← require fields.mode "mode"
    let fenceMode ← require fields.fenceMode "fence"
    let appendMode ← require fields.appendMode "append_mode"
    let cap ← require fields.cap "cap"
    let headAbs ← require fields.headAbs "head_abs"
    let lostCount ← require fields.lostCount "lost_count"
    let lappedBatches ← require fields.lappedBatches "lapped_batches"
    let overwrittenRetries ← require fields.overwrittenRetries "overwritten_retries"
    let rejectedRecords ← require fields.rejectedRecords "rejected_records"
    let pollErrors ← require fields.pollErrors "poll_errors"
    let deliveredTotal ← require fields.deliveredTotal "delivered_total"
    let lostTotal ← require fields.lostTotal "lost_total"
    pure ⟨mode, fenceMode, appendMode, cap, headAbs, lostCount, lappedBatches, overwrittenRetries,
      rejectedRecords, pollErrors, deliveredTotal, lostTotal, fields.staleViolations,
      fields.sources⟩

end ReportFields

/-- Reads a stable text report. -/
def ObservedReport.read (content : List Char) : Outcome ConformanceError ObservedReport := do
  let fields ← ReportFields.observeLines (lines content) .empty
  fields.finish

/-! ## Values that are written are read -/

lemma toList_display (n : ℕ) : (display n).toList = decimal n := String.toList_ofList

lemma isWord_display (n : ℕ) : IsWord (display n).toList := by
  rw [toList_display]
  exact isWord_decimal n

@[simp] lemma parseValue_display {bound n : ℕ} (h : n < bound) (field : String) :
    parseValue bound (display n) field = .ok n := by
  rw [parseValue, toList_display, parseUnsigned_decimal h]

@[simp] lemma parseU64_display (v : UInt64) (field : String) :
    parseU64 (display v.toNat) field = .ok v := by
  simp [parseU64, parseValue_display v.toNat_lt]

@[simp] lemma parseU32_display (v : UInt32) (field : String) :
    parseU32 (display v.toNat) field = .ok v := by
  simp [parseU32, parseValue_display v.toNat_lt]

@[simp] lemma parseBool_display (b : Bool) (field : String) :
    parseBool (displayBool b) field = .ok b := by
  cases b <;> rfl

@[simp] lemma parse_asStr (kind : ViolationKind) : ViolationKind.parse kind.asStr = .ok kind := by
  cases kind <;> rfl

@[simp] lemma parse_fenceMode (mode : FenceMode) : FenceMode.parse mode.asStr = .ok mode := by
  cases mode <;> rfl

/-- A value that is read is below the bound. -/
lemma lt_of_parseValue {bound n : ℕ} {value field : String}
    (h : parseValue bound value field = .ok n) : n < bound := by
  unfold parseValue at h
  split at h
  · rename_i m hparse
    obtain rfl := Outcome.ok.inj h
    exact lt_of_parseUnsigned hparse
  · cases h

/-! ## Lines that are written are read -/

namespace ReportFields

/-- A line as it is written. -/
abbrev written (line : List String) : List Char := joined (line.map String.toList)

/-- Reading a line that was written. -/
abbrev observeWritten (fields : ReportFields) (line : List String) :
    Outcome ConformanceError ReportFields :=
  fields.observe (written line) line

/-- Lines that are written are read with their words, one after the other. -/
lemma observeLines_written {ls : List (List String)} {rest : List (List Char)}
    {fields fields' : ReportFields} (hwords : ∀ line ∈ ls, ∀ word ∈ line, IsWord word.toList)
    (h : ls.foldlM observeWritten fields = .ok fields') :
    observeLines (ls.map written ++ rest) fields = observeLines rest fields' := by
  induction ls generalizing fields with
  | nil =>
    obtain rfl := Outcome.ok.inj h
    rfl
  | cons line ls ih =>
    obtain ⟨hline, hls⟩ := List.forall_mem_cons.mp hwords
    have hread : (words (written line)).map String.ofList = line := by
      rw [words_joined (by simpa using hline), List.map_map]
      simp [Function.comp_def]
    obtain ⟨next, hnext, hrest⟩ := Outcome.bind_eq_ok.mp h
    rw [List.map_cons, List.cons_append, observeLines, hread]
    change (observeWritten fields line >>= _) = _
    rw [hnext, Outcome.ok_bind]
    exact ih hls hrest

/-- The fields of a report above its violations and its sources. -/
def ofHeader (report : ObservedReport) : ReportFields :=
  ⟨some report.mode, some report.fenceMode, some report.appendMode, some report.cap,
    some report.headAbs, some report.lostCount, some report.lappedBatches,
    some report.overwrittenRetries, some report.rejectedRecords, some report.pollErrors,
    some report.deliveredTotal, some report.lostTotal, some report.staleViolations.length, [], []⟩

lemma isWord_header {report : ObservedReport} (hmode : IsWord report.mode.toList)
    (happend : IsWord report.appendMode.toList) :
    ∀ line ∈ report.header, ∀ word ∈ line, IsWord word.toList := by
  have hfence : IsWord report.fenceMode.asStr.toList := by cases report.fenceMode <;> decide
  have hlabel : ∀ label ∈ ["report_version", "2", "mode", "fence", "append_mode", "cap", "head_abs",
      "lost_count", "lapped_batches", "overwritten_retries", "rejected_records", "poll_errors",
      "delivered_total", "lost_total", "stale_violations"], IsWord label.toList := by decide
  simp only [ObservedReport.header, List.forall_mem_cons, List.not_mem_nil, IsEmpty.forall_iff,
    implies_true, and_true, isWord_display, hmode, happend, hfence] at hlabel ⊢
  simp only [hlabel, and_self]

/-- The lines above the violations give the fields above the violations. -/
lemma foldlM_header (report : ObservedReport) (hlength : report.staleViolations.length < 2 ^ 64) :
    report.header.foldlM observeWritten empty = .ok (ofHeader report) := by
  have hcount := parseValue_display hlength "stale_violations"
  simp only [ObservedReport.header, List.foldlM_cons, List.foldlM_nil, observeWritten, observe,
    parse_fenceMode, parseU64_display, hcount, Outcome.mapErr_ok, Outcome.ok_bind, Outcome.pure_eq]
  rfl

/-- The lines of the violations give the violations. -/
lemma foldlM_stale {violations : List StaleViolation}
    (hbound : ∀ stale ∈ violations, stale.expectedAbs < 2 ^ 64 ∧ stale.actualAbs < 2 ^ 64)
    (fields : ReportFields) :
    (violations.map StaleViolation.line).foldlM observeWritten fields =
      .ok { fields with staleViolations := fields.staleViolations ++ violations } := by
  induction violations generalizing fields with
  | nil => simp
  | cons stale violations ih =>
    obtain ⟨⟨hexpected, hactual⟩, hrest⟩ := List.forall_mem_cons.mp hbound
    have hstep : observeWritten fields stale.line =
        .ok { fields with staleViolations := fields.staleViolations ++ [stale] } := by
      simp only [StaleViolation.line, observeWritten, observe, pushStale, parse_asStr,
        parseU32_display, parseU64_display, parseValue_display hexpected,
        parseValue_display hactual, parseBool_display, Outcome.ok_bind, Outcome.pure_eq]
    rw [List.map_cons, List.foldlM_cons, hstep, Outcome.ok_bind, ih hrest, List.append_assoc]
    rfl

/-- The lines of the sources give the sources. -/
lemma foldlM_source (sources : List SourceObserved) (fields : ReportFields) :
    (sources.map SourceObserved.line).foldlM observeWritten fields =
      .ok { fields with sources := fields.sources ++ sources } := by
  induction sources generalizing fields with
  | nil => simp
  | cons source sources ih =>
    have hstep : observeWritten fields source.line =
        .ok { fields with sources := fields.sources ++ [source] } := by
      simp only [SourceObserved.line, observeWritten, observe, pushSource, parseU32_display,
        parseU64_display, Outcome.ok_bind, Outcome.pure_eq]
    rw [List.map_cons, List.foldlM_cons, hstep, Outcome.ok_bind, ih, List.append_assoc]
    rfl

/-- All lines of a report are lines of words. -/
lemma isWord_reportLines {report : ObservedReport} (hmode : IsWord report.mode.toList)
    (happend : IsWord report.appendMode.toList) :
    ∀ line ∈ report.reportLines, ∀ word ∈ line, IsWord word.toList := by
  have hkind (kind : ViolationKind) : IsWord kind.asStr.toList := by cases kind <;> decide
  have hbool (b : Bool) : IsWord (displayBool b).toList := by cases b <;> decide
  intro line hline
  rcases List.mem_append.mp hline with hline | hline
  · rcases List.mem_append.mp hline with hline | hline
    · exact isWord_header hmode happend line hline
    · obtain ⟨stale, -, rfl⟩ := List.mem_map.mp hline
      simp [StaleViolation.line, hkind, hbool, isWord_display]
      decide
  · obtain ⟨source, -, rfl⟩ := List.mem_map.mp hline
    simp [SourceObserved.line, isWord_display]
    decide

/-- The report of the fields that were read above it. -/
lemma finish_ofHeader (report : ObservedReport) :
    finish { ofHeader report with
      staleViolations := report.staleViolations, sources := report.sources } = .ok report := by
  simp [finish, ofHeader, require]

/-! ## What is read is written -/

/-- What the lines of a report leave behind: the labels are words and the offsets are bounded. -/
structure Sound (fields : ReportFields) : Prop where
  mode : ∀ label, fields.mode = some label → IsWord label.toList
  appendMode : ∀ label, fields.appendMode = some label → IsWord label.toList
  stale : ∀ stale ∈ fields.staleViolations, stale.expectedAbs < 2 ^ 64 ∧ stale.actualAbs < 2 ^ 64
  count : ∀ n, fields.staleCount = some n → n < 2 ^ 64

lemma sound_empty : Sound empty := by
  constructor <;> simp [empty]

/-- Reading a violation adds one whose offsets are bounded. -/
lemma sound_pushStale {fields fields' : ReportFields} {kind : ViolationKind}
    {sourceId seq expectedAbs actualAbs crcPassed : String} (hsound : fields.Sound)
    (h : fields.pushStale kind sourceId seq expectedAbs actualAbs crcPassed = .ok fields') :
    fields'.Sound := by
  obtain ⟨source, -, h⟩ := Outcome.bind_eq_ok.mp h
  obtain ⟨number, -, h⟩ := Outcome.bind_eq_ok.mp h
  obtain ⟨expected, hexpected, h⟩ := Outcome.bind_eq_ok.mp h
  obtain ⟨actual, hactual, h⟩ := Outcome.bind_eq_ok.mp h
  obtain ⟨passed, -, h⟩ := Outcome.bind_eq_ok.mp h
  obtain rfl := Outcome.ok.inj h
  refine ⟨hsound.mode, hsound.appendMode, fun stale hstale => ?_, hsound.count⟩
  rcases List.mem_append.mp hstale with hstale | hstale
  · exact hsound.stale stale hstale
  · obtain rfl := List.mem_singleton.mp hstale
    exact ⟨lt_of_parseValue hexpected, lt_of_parseValue hactual⟩

/-- Reading a source leaves the labels and the violations as they are. -/
lemma sound_pushSource {fields fields' : ReportFields} {runId : UInt64}
    {sourceId expectedTotal delivered lost : String} (hsound : fields.Sound)
    (h : fields.pushSource runId sourceId expectedTotal delivered lost = .ok fields') :
    fields'.Sound := by
  obtain ⟨source, -, h⟩ := Outcome.bind_eq_ok.mp h
  obtain ⟨expected, -, h⟩ := Outcome.bind_eq_ok.mp h
  obtain ⟨delivered, -, h⟩ := Outcome.bind_eq_ok.mp h
  obtain ⟨lost, -, h⟩ := Outcome.bind_eq_ok.mp h
  obtain rfl := Outcome.ok.inj h
  exact ⟨hsound.mode, hsound.appendMode, hsound.stale, hsound.count⟩

/-- **One line keeps the labels words and the offsets bounded.** -/
lemma sound_observe {fields fields' : ReportFields} {line : List Char} {parts : List String}
    (hparts : ∀ word ∈ parts, IsWord word.toList) (hsound : fields.Sound)
    (h : fields.observe line parts = .ok fields') : fields'.Sound := by
  unfold observe at h
  split at h
  case h_1 =>
    obtain rfl := Outcome.ok.inj h
    exact hsound
  case h_2 label =>
    obtain rfl := Outcome.ok.inj h
    refine ⟨fun word hword => ?_, hsound.appendMode, hsound.stale, hsound.count⟩
    obtain rfl := Option.some.inj hword
    exact hparts _ (by simp)
  case h_4 label =>
    obtain rfl := Outcome.ok.inj h
    refine ⟨hsound.mode, fun word hword => ?_, hsound.stale, hsound.count⟩
    obtain rfl := Option.some.inj hword
    exact hparts _ (by simp)
  case h_14 =>
    obtain ⟨count, hcount, h⟩ := Outcome.bind_eq_ok.mp h
    obtain rfl := Outcome.ok.inj h
    refine ⟨hsound.mode, hsound.appendMode, hsound.stale, fun n hn => ?_⟩
    obtain rfl := Option.some.inj hn
    exact lt_of_parseValue hcount
  case h_15 =>
    obtain ⟨kind, -, h⟩ := Outcome.bind_eq_ok.mp h
    exact sound_pushStale hsound h
  case h_16 => exact sound_pushStale hsound h
  case h_17 =>
    obtain ⟨runId, -, h⟩ := Outcome.bind_eq_ok.mp h
    exact sound_pushSource hsound h
  case h_18 => exact sound_pushSource hsound h
  case h_19 => cases h
  -- the other lines set a field that is neither a label nor a count
  all_goals
    obtain ⟨value, -, h⟩ := Outcome.bind_eq_ok.mp h
    obtain rfl := Outcome.ok.inj h
    exact ⟨hsound.mode, hsound.appendMode, hsound.stale, hsound.count⟩

/-- All lines keep the labels words and the offsets bounded. -/
lemma sound_observeLines {ls : List (List Char)} {fields fields' : ReportFields}
    (hsound : fields.Sound) (h : observeLines ls fields = .ok fields') : fields'.Sound := by
  induction ls generalizing fields with
  | nil =>
    obtain rfl := Outcome.ok.inj h
    exact hsound
  | cons line ls ih =>
    obtain ⟨next, hnext, hrest⟩ := Outcome.bind_eq_ok.mp h
    refine ih (sound_observe (fun word hword => ?_) hsound hnext) hrest
    obtain ⟨chars, hchars, rfl⟩ := List.mem_map.mp hword
    rw [String.toList_ofList]
    exact isWord_of_mem_words hchars

/-- What a report is made of. -/
lemma of_finish {fields : ReportFields} {report : ObservedReport} (h : fields.finish = .ok report) :
    fields.staleCount = some report.staleViolations.length ∧ fields.mode = some report.mode ∧
      fields.appendMode = some report.appendMode ∧
      fields.staleViolations = report.staleViolations := by
  have hrequire {α : Type} {field : Option α} {name : String} {value : α}
      (h : require field name = .ok value) : field = some value := by
    cases field with
    | none => cases h
    | some v => rw [Outcome.ok.inj h]
  obtain ⟨hcount, h⟩ := Outcome.of_ite_err h
  obtain ⟨mode, hmode, h⟩ := Outcome.bind_eq_ok.mp h
  obtain ⟨fenceMode, -, h⟩ := Outcome.bind_eq_ok.mp h
  obtain ⟨appendMode, happend, h⟩ := Outcome.bind_eq_ok.mp h
  obtain ⟨cap, -, h⟩ := Outcome.bind_eq_ok.mp h
  obtain ⟨headAbs, -, h⟩ := Outcome.bind_eq_ok.mp h
  obtain ⟨lostCount, -, h⟩ := Outcome.bind_eq_ok.mp h
  obtain ⟨lappedBatches, -, h⟩ := Outcome.bind_eq_ok.mp h
  obtain ⟨overwrittenRetries, -, h⟩ := Outcome.bind_eq_ok.mp h
  obtain ⟨rejectedRecords, -, h⟩ := Outcome.bind_eq_ok.mp h
  obtain ⟨pollErrors, -, h⟩ := Outcome.bind_eq_ok.mp h
  obtain ⟨deliveredTotal, -, h⟩ := Outcome.bind_eq_ok.mp h
  obtain ⟨lostTotal, -, h⟩ := Outcome.bind_eq_ok.mp h
  obtain rfl := Outcome.ok.inj h
  exact ⟨not_not.mp hcount, hrequire hmode, hrequire happend, rfl⟩

end ReportFields

/-- What a report that was read is made of: words for labels, bounded offsets. -/
lemma sound_of_read {content : List Char} {report : ObservedReport}
    (h : ObservedReport.read content = .ok report) :
    IsWord report.mode.toList ∧ IsWord report.appendMode.toList ∧
      (∀ stale ∈ report.staleViolations,
        stale.expectedAbs < 2 ^ 64 ∧ stale.actualAbs < 2 ^ 64) ∧
      report.staleViolations.length < 2 ^ 64 := by
  obtain ⟨fields, hlines, hfinish⟩ := Outcome.bind_eq_ok.mp h
  have hsound := ReportFields.sound_observeLines ReportFields.sound_empty hlines
  obtain ⟨hcount, hmode, happend, hstale⟩ := ReportFields.of_finish hfinish
  exact ⟨hsound.mode _ hmode, hsound.appendMode _ happend, hstale ▸ hsound.stale,
    hsound.count _ hcount⟩

/-- Reports whose labels are words are read back. -/
lemma read_write {report : ObservedReport} (hmode : IsWord report.mode.toList)
    (happend : IsWord report.appendMode.toList)
    (hstale : ∀ stale ∈ report.staleViolations,
      stale.expectedAbs < 2 ^ 64 ∧ stale.actualAbs < 2 ^ 64)
    (hlength : report.staleViolations.length < 2 ^ 64) :
    ObservedReport.read report.write = .ok report := by
  have hwords := ReportFields.isWord_reportLines hmode happend
  have hlines : lines report.write = report.reportLines.map ReportFields.written := by
    refine lines_unlines fun line hline => ?_
    obtain ⟨parts, hparts, rfl⟩ := List.mem_map.mp hline
    exact line_joined (by simpa using hwords parts hparts)
  have hfold : report.reportLines.foldlM ReportFields.observeWritten .empty =
      .ok { ReportFields.ofHeader report with
        staleViolations := report.staleViolations, sources := report.sources } := by
    rw [ObservedReport.reportLines, List.foldlM_append, List.foldlM_append,
      ReportFields.foldlM_header report hlength, Outcome.ok_bind, ReportFields.foldlM_stale hstale,
      Outcome.ok_bind, ReportFields.foldlM_source]
    rfl
  have hread : ReportFields.observeLines (report.reportLines.map ReportFields.written ++ []) .empty
      = _ := ReportFields.observeLines_written hwords hfold
  rw [List.append_nil] at hread
  rw [ObservedReport.read, hlines, hread]
  exact ReportFields.finish_ofHeader report

end Conformance

open Conformance Text

/-- **Reports that are read back as they were written.** Whatever the counters, the violations and
the sources are, a report is read back exactly when its two labels are words. -/
theorem report_round_trip (report : ObservedReport)
    (hstale : ∀ stale ∈ report.staleViolations,
      stale.expectedAbs < 2 ^ 64 ∧ stale.actualAbs < 2 ^ 64)
    (hlength : report.staleViolations.length < 2 ^ 64) :
    ObservedReport.read report.write = .ok report ↔
      IsWord report.mode.toList ∧ IsWord report.appendMode.toList := by
  constructor
  · intro h
    exact ⟨(sound_of_read h).1, (sound_of_read h).2.1⟩
  · rintro ⟨hmode, happend⟩
    exact read_write hmode happend hstale hlength

/-- A report with a violation and a source. -/
theorem report_round_trip_stale :
    ObservedReport.read (ObservedReport.write ⟨"consumer", .fenced, "bounded", 4096, 900, 0, 1, 0, 0,
      0, 7, 2, [⟨.unexpectedRecord, 1, 3, 64, 128, true⟩], [⟨5, 1, 9, 7, 2⟩]⟩) =
    .ok ⟨"consumer", .fenced, "bounded", 4096, 900, 0, 1, 0, 0, 0, 7, 2,
      [⟨.unexpectedRecord, 1, 3, 64, 128, true⟩], [⟨5, 1, 9, 7, 2⟩]⟩ :=
  (report_round_trip _ (by simp) (by simp)).mpr ⟨by decide, by decide⟩

/-- **A report that was read can be written and read again.** The text may be in the old form, with
shorter lines for violations and sources, or with its lines in another order. -/
theorem report_read_again (content : List Char) (report : ObservedReport)
    (h : ObservedReport.read content = .ok report) :
    ObservedReport.read report.write = .ok report := by
  obtain ⟨hmode, happend, hstale, hlength⟩ := sound_of_read h
  exact read_write hmode happend hstale hlength

/-- A text in the old form: no count of poll errors, and a source without its run. -/
theorem report_read_again_old :
    ObservedReport.read (ObservedReport.write ⟨"m", .unfenced, "a", 64, 2, 0, 0, 0, 0, 0, 1, 1, [],
      [⟨0, 7, 2, 1, 1⟩]⟩) =
    .ok ⟨"m", .unfenced, "a", 64, 2, 0, 0, 0, 0, 0, 1, 1, [], [⟨0, 7, 2, 1, 1⟩]⟩ :=
  report_read_again ("mode m\nfence unfenced\nappend_mode a\ncap 64\nhead_abs +2\n".toList ++
    "lost_count 0\nlapped_batches 0\noverwritten_retries 0\nrejected_records 0\n".toList ++
    "delivered_total 1\nlost_total 1\nsource 7 2 1 1\nstale_violations 0".toList) _
    (by decide +kernel)

end OpenOT
