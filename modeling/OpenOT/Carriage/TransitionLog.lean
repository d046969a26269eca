import OpenOT.Carriage.EpochCalls

set_option relaxedAutoImplicit false
set_option autoImplicit false

/-!
# The language of the producer's log

The records an epoch producer writes form a word of a language: stretches of data records and
checkpoints, with blocks between them. A block is a whole transition: `LoggerStopped`, a
checkpoint for each active source, `DefinitionChanged` and `LoggerStarted`.

## Main definitions

* `OpenOT.Plain` — a record that may stand between two blocks.
* `OpenOT.Block`, `OpenOT.Block.Follows` — a block, and that it may follow a log.
* `OpenOT.Word` — the language.
* `OpenOT.EpochProducer.Logged` — the invariant between calls.

## Main results

* `OpenOT.EpochProducer.Logged.call` — one call keeps the invariant.
* `OpenOT.transition_language` — after every run of calls the log is a prefix of a word.

## Design

A call that panics may leave a block begun, so the log is then a prefix of a word; between calls
the last block is either closed or as far as the open transition says.
-/

namespace OpenOT

open Rust Numbering

/-! ## Records of the language -/

/-- A record of the system source in a run. -/
structure IsSystem (runId : UInt64) (eventTypeId : UInt32) (slots : List Slot) (w : ReadRecord) :
    Prop where
  runId : w.record.runId = runId
  sourceId : w.record.sourceId = SYSTEM_SOURCE_ID
  eventTypeId : w.record.eventTypeId = eventTypeId
  slots : w.record.slots = slots

/-- A data record or a checkpoint of a source, in a run. -/
structure Plain (runId : UInt64) (w : ReadRecord) : Prop where
  runId : w.record.runId = runId
  sourceId : w.record.sourceId ≠ SYSTEM_SOURCE_ID
  shape : w.record.slots = dataSlots w.record.eventTypeId ∨
    w.record.eventTypeId = EVENT_SOURCE_HIGH_WATER ∧ w.record.slots = highWaterSlots w.record.seq

/-- The source is active in a run: it has a record of the run in the log. -/
def Active (runId : UInt64) (log : List ReadRecord) (source : UInt32) : Prop :=
  source ≠ SYSTEM_SOURCE_ID ∧ ∃ w ∈ log, w.record.runId = runId ∧ w.record.sourceId = source

/-- The beginning of a transition in a run: the logger stops, and every active source has one
checkpoint, in ascending order. -/
structure Begun (runId : UInt64) (log : List ReadRecord) (stopped : ReadRecord)
    (marks : List ReadRecord) : Prop where
  stopped : IsSystem runId EVENT_LOGGER_STOPPED [] stopped
  highWater : ∀ w ∈ marks, w.record.runId = runId ∧ w.record.eventTypeId = EVENT_SOURCE_HIGH_WATER ∧
    w.record.slots = highWaterSlots w.record.seq
  ascending : (marks.map fun w => w.record.sourceId).Pairwise (· < ·)
  active : ∀ source, source ∈ (marks.map fun w => w.record.sourceId) ↔ Active runId log source

/-- The records of a whole transition. -/
structure Block where
  stopped : ReadRecord
  marks : List ReadRecord
  changed : ReadRecord
  started : ReadRecord

/-- The records, in order. -/
def Block.records (block : Block) : List ReadRecord :=
  block.stopped :: (block.marks ++ [block.changed, block.started])

/-- The block may follow a log in run `runId`, and the records behind it are of run `runId'`: the
same run after a warm transition, the next run, which has no record yet, after a cold start. -/
structure Block.Follows (block : Block) (log : List ReadRecord) (runId runId' : UInt64) : Prop where
  begun : Begun runId log block.stopped block.marks
  changed : ∃ pending, IsSystem runId EVENT_DEFINITION_CHANGED (changedSlots pending) block.changed
  started :
    runId' = runId ∧ IsSystem runId EVENT_LOGGER_STARTED (startedSlots 0) block.started ∨
    runId'.toNat = runId.toNat + 1 ∧ (∀ w ∈ log, w.record.runId ≠ runId') ∧
      IsSystem runId' EVENT_LOGGER_STARTED (startedSlots 1) block.started

/-- The words of the language that start in run `runId`, with the run they end in and the
`LoggerStarted` record of their last block. -/
inductive Word (runId : UInt64) : List ReadRecord → UInt64 → Option ReadRecord → Prop
  | nil : Word runId [] runId none
  | plain {log : List ReadRecord} {run : UInt64} {started : Option ReadRecord} {w : ReadRecord}
      (hlog : Word runId log run started) (hw : Plain run w) :
      Word runId (log ++ [w]) run started
  | block {log : List ReadRecord} {run run' : UInt64} {started : Option ReadRecord} {block : Block}
      (hlog : Word runId log run started) (hblock : block.Follows log run run') :
      Word runId (log ++ block.records) run' (some block.started)

/-- No record of a word is of a later run than the one it ends in. -/
lemma Word.runId_le {runId run : UInt64} {log : List ReadRecord} {started : Option ReadRecord}
    (h : Word runId log run started) : ∀ w ∈ log, w.record.runId.toNat ≤ run.toNat := by
  induction h with
  | nil => simp
  | plain _ hw ih =>
    intro v hv
    rcases List.mem_append.mp hv with hv | hv
    · exact ih v hv
    · rw [List.mem_singleton.mp hv, hw.runId]
  | @block log run run' _ block _ hblock ih =>
    obtain ⟨hbegun, ⟨pending, hchanged⟩, hstarted⟩ := hblock
    have hle : run.toNat ≤ run'.toNat := by
      rcases hstarted with ⟨rfl, -⟩ | ⟨hnext, -⟩
      · exact le_rfl
      · omega
    have hlast : block.started.record.runId = run' := by
      rcases hstarted with ⟨rfl, hs⟩ | ⟨-, -, hs⟩ <;> exact hs.runId
    intro v hv
    simp only [Block.records, List.mem_append, List.mem_cons, List.not_mem_nil, or_false] at hv
    rcases hv with hv | rfl | hv | rfl | rfl
    · exact (ih v hv).trans hle
    · rw [hbegun.stopped.runId]
      exact hle
    · rw [(hbegun.highWater v hv).1]
      exact hle
    · rw [hchanged.runId]
      exact hle
    · rw [hlast]

/-- Plain records in a row. -/
lemma Word.plains {runId run : UInt64} {log ws : List ReadRecord} {started : Option ReadRecord}
    (h : Word runId log run started) (hws : ∀ w ∈ ws, Plain run w) :
    Word runId (log ++ ws) run started := by
  induction ws using List.reverseRecOn with
  | nil => simpa using h
  | append_singleton ws w ih =>
    rw [← List.append_assoc]
    exact (ih fun v hv => hws v (by simp [hv])).plain (hws w (by simp))

/-- A part of a block that is not the whole block: what a log ends in while a transition is
open. -/
def Unfinished (runId : UInt64) (log part : List ReadRecord) : Prop :=
  ∃ block : Block, ∃ runId', block.Follows log runId runId' ∧ part <+: block.records ∧
    part ≠ block.records

/-- A record of the system source, to complete a block with. -/
def systemRecord (runId : UInt64) (eventTypeId : UInt32) (slots : List Slot) : ReadRecord :=
  ⟨0, 0, { Record.new 0 runId 0 SYSTEM_SOURCE_ID eventTypeId with slots := slots }⟩

lemma isSystem_systemRecord (runId : UInt64) (eventTypeId : UInt32) (slots : List Slot) :
    IsSystem runId eventTypeId slots (systemRecord runId eventTypeId slots) :=
  ⟨rfl, rfl, rfl, rfl⟩

/-- A transition that has begun is a part of a block. -/
lemma Begun.unfinished {runId : UInt64} {log marks : List ReadRecord} {stopped : ReadRecord}
    (h : Begun runId log stopped marks) {part : List ReadRecord}
    (hpart : part <+: stopped :: marks) : Unfinished runId log part := by
  have hchanged := isSystem_systemRecord runId EVENT_DEFINITION_CHANGED
    (changedSlots ⟨.replicate 8 0, .replicate 8 0, 0, false⟩)
  have hstarted := isSystem_systemRecord runId EVENT_LOGGER_STARTED (startedSlots 0)
  refine ⟨⟨stopped, marks, _, _⟩, runId, ⟨h, ⟨_, hchanged⟩, Or.inl ⟨rfl, hstarted⟩⟩,
    hpart.trans (List.prefix_append (stopped :: marks) _), ?_⟩
  rintro rfl
  have := hpart.length_le
  simp [Block.records] at this

/-- So is one whose new definition has been announced. -/
lemma Begun.unfinished_changed {runId : UInt64} {log marks : List ReadRecord}
    {stopped changed : ReadRecord} (h : Begun runId log stopped marks) {pending : PendingTransition}
    (hchanged : IsSystem runId EVENT_DEFINITION_CHANGED (changedSlots pending) changed) :
    Unfinished runId log (stopped :: (marks ++ [changed])) := by
  have hstarted := isSystem_systemRecord runId EVENT_LOGGER_STARTED (startedSlots 0)
  refine ⟨⟨stopped, marks, changed, _⟩, runId, ⟨h, ⟨_, hchanged⟩, Or.inl ⟨rfl, hstarted⟩⟩, ?_, ?_⟩
  · exact ⟨[systemRecord runId EVENT_LOGGER_STARTED (startedSlots 0)],
      by simp [Block.records, systemRecord]⟩
  · simp [Block.records]

/-! ## Checkpoints -/

namespace EpochProducer

/-- A checkpoint of a source is a plain record. -/
lemma Marks.plain {runId : UInt64} {entry : UInt32 × UInt64} {w : ReadRecord}
    (h : Marks runId entry w) (hsource : entry.1 ≠ SYSTEM_SOURCE_ID) : Plain runId w := by
  refine ⟨h.runId, h.sourceId ▸ hsource, Or.inr ⟨h.eventTypeId, ?_⟩⟩
  rw [h.slots, h.seq]

/-- Checkpoints name their sources in order. -/
lemma sources_of_marks {runId : UInt64} {entries : List (UInt32 × UInt64)} {ws : List ReadRecord}
    (h : List.Forall₂ (Marks runId) entries ws) :
    ws.map (fun w => w.record.sourceId) = entries.map Prod.fst := by
  induction h with
  | nil => rfl
  | cons hw _ ih => rw [List.map_cons, List.map_cons, ih, hw.sourceId]

/-- The entries of the counters stand in ascending order of their sources. -/
lemma pairwise_sources (sourceSeq : Std.TreeMap UInt32 UInt64) :
    (sourceSeq.toList.map Prod.fst).Pairwise (· < ·) := by
  rw [List.pairwise_map]
  exact Std.TreeMap.ordered_keys_toList.imp fun h => Std.compare_eq_lt.mp h

/-- The entries of the counters name the sources that have one. -/
lemma mem_sources {sourceSeq : Std.TreeMap UInt32 UInt64} {source : UInt32} :
    source ∈ sourceSeq.toList.map Prod.fst ↔ source ∈ sourceSeq := by
  rw [Std.TreeMap.map_fst_toList_eq_keys, Std.TreeMap.mem_keys]

end EpochProducer

/-! ## Active sources -/

section Active

variable {runId runId' : UInt64} {log ws : List ReadRecord} {source : UInt32}

lemma active_append :
    Active runId (log ++ ws) source ↔ Active runId log source ∨ Active runId ws source := by
  simp only [Active, List.mem_append, or_and_right, exists_or, and_or_left]

/-- A record of the system source makes no source active. -/
lemma IsSystem.not_active {eventTypeId : UInt32} {slots : List Slot} {w : ReadRecord}
    (h : IsSystem runId eventTypeId slots w) : ¬Active runId' [w] source := by
  rintro ⟨hne, v, hv, -, hsource⟩
  rw [List.mem_singleton.mp hv, h.sourceId] at hsource
  exact hne hsource.symm

/-- A plain record makes its source active. -/
lemma Plain.active {w : ReadRecord} (h : Plain runId w) :
    Active runId [w] source ↔ source = w.record.sourceId := by
  constructor
  · rintro ⟨-, v, hv, -, rfl⟩
    rw [List.mem_singleton.mp hv]
  · rintro rfl
    exact ⟨h.sourceId, w, List.mem_singleton.mpr rfl, h.runId, rfl⟩

/-- The checkpoints of a beginning make no other source active. -/
lemma Begun.active_marks {stopped : ReadRecord} {marks : List ReadRecord}
    (h : Begun runId log stopped marks) (hactive : Active runId marks source) :
    Active runId log source := by
  obtain ⟨-, w, hw, -, hsource⟩ := hactive
  exact (h.active source).mp (List.mem_map.mpr ⟨w, hw, hsource⟩)

/-- Behind a warm block the same sources are active. -/
lemma Block.Follows.active_warm {block : Block} (h : block.Follows log runId runId') :
    Active runId (log ++ block.records) source ↔ Active runId log source := by
  obtain ⟨hbegun, ⟨pending, hchanged⟩, hstarted⟩ := h
  have hsystem : ¬Active runId [block.started] source := by
    rcases hstarted with ⟨-, hs⟩ | ⟨-, -, hs⟩ <;> exact hs.not_active
  have hrecords : block.records =
      [block.stopped] ++ (block.marks ++ ([block.changed] ++ [block.started])) := rfl
  rw [hrecords]
  simp only [active_append, hbegun.stopped.not_active, hchanged.not_active, hsystem, or_false,
    false_or]
  exact or_iff_left_of_imp hbegun.active_marks

/-- Behind a cold block no source is active. -/
lemma Block.Follows.active_cold {block : Block} (h : block.Follows log runId runId')
    (hne : runId' ≠ runId) : ¬Active runId' (log ++ block.records) source := by
  obtain ⟨hbegun, ⟨pending, hchanged⟩, hstarted⟩ := h
  rcases hstarted with ⟨heq, -⟩ | ⟨-, hfresh, hs⟩
  · exact absurd heq hne
  have hrecords : block.records =
      [block.stopped] ++ (block.marks ++ ([block.changed] ++ [block.started])) := rfl
  rw [hrecords]
  simp only [active_append, hbegun.stopped.not_active, hchanged.not_active, hs.not_active, or_false,
    false_or, not_or]
  constructor
  · rintro ⟨-, w, hw, hrun, -⟩
    exact hfresh w hw hrun
  · rintro ⟨-, w, hw, hrun, -⟩
    exact hne (hrun.symm.trans (hbegun.highWater w hw).1)

end Active

/-! ## The invariant -/

/-- What the log ends in behind its last word, as the open transition says. -/
inductive Opened (runId : UInt64) (log : List ReadRecord) :
    Option PendingTransition → List ReadRecord → Prop
  | closed : Opened runId log none []
  | begun {pending : PendingTransition} {stopped : ReadRecord} {marks : List ReadRecord}
      (hemitted : pending.definitionChangedEmitted = false)
      (hbegun : Begun runId log stopped marks) :
      Opened runId log (some pending) (stopped :: marks)
  | changed {pending : PendingTransition} {stopped changed : ReadRecord} {marks : List ReadRecord}
      (hemitted : pending.definitionChangedEmitted = true)
      (hbegun : Begun runId log stopped marks)
      (hchanged : ∃ announced,
        IsSystem runId EVENT_DEFINITION_CHANGED (changedSlots announced) changed) :
      Opened runId log (some pending) (stopped :: (marks ++ [changed]))

/-- It is nothing, or a part of a block. -/
lemma Opened.unfinished {runId : UInt64} {log part : List ReadRecord}
    {transition : Option PendingTransition} (h : Opened runId log transition part) :
    part = [] ∨ Unfinished runId log part := by
  cases h with
  | closed => exact Or.inl rfl
  | begun _ hbegun => exact Or.inr (hbegun.unfinished List.prefix_rfl)
  | changed _ hbegun hchanged =>
    obtain ⟨announced, hchanged⟩ := hchanged
    exact Or.inr (hbegun.unfinished_changed hchanged)

namespace EpochProducer

/-- The log of the producer is a word that starts in run `runId`, and what an open transition has
written behind it; the counters are those of the active sources. -/
structure Logged (runId : UInt64) (producer : EpochProducer) (log part : List ReadRecord)
    (started : Option ReadRecord) : Prop where
  ring : producer.ring.Represents producer.written
  capacity : 80 ≤ producer.ring.capacity
  written : producer.written = log ++ part
  word : Word runId log producer.runId started
  opened : Opened producer.runId log producer.transition part
  epochFirstAbs : producer.epochFirstAbs = started.elim 0 ReadRecord.startAbs
  active : ∀ source, source ∈ producer.sourceSeq ↔ Active producer.runId log source

/-- The log of the producer is a prefix of a word that starts in run `runId`. -/
def InLanguage (runId : UInt64) (producer : EpochProducer) : Prop :=
  ∃ log part run started, producer.written = log ++ part ∧ Word runId log run started ∧
    (part = [] ∨ Unfinished run log part) ∧
    producer.epochFirstAbs = started.elim 0 ReadRecord.startAbs

variable {runId : UInt64} {producer producer' : EpochProducer} {log part : List ReadRecord}
  {started : Option ReadRecord}

lemma Logged.inLanguage (h : Logged runId producer log part started) :
    producer.InLanguage runId :=
  ⟨log, part, _, started, h.written, h.word, h.opened.unfinished, h.epochFirstAbs⟩

/-- Without an open transition the log is a word. -/
lemma Logged.closed (h : Logged runId producer log part started)
    (hopen : producer.transition = none) :
    part = [] ∧ producer.written = log := by
  have hopened := h.opened
  rw [hopen] at hopened
  cases hopened
  exact ⟨rfl, by simpa using h.written⟩

/-- The system source has no counter among those of the sources. -/
lemma Logged.entry_ne (h : Logged runId producer log part started) {entry : UInt32 × UInt64}
    (hentry : entry ∈ producer.sourceSeq.toList) : entry.1 ≠ SYSTEM_SOURCE_ID :=
  ((h.active entry.1).mp (mem_sources.mp (List.mem_map_of_mem hentry))).1

/-- A checkpoint for some of the counters goes on with the word. -/
lemma Logged.plain_of_marks (h : Logged runId producer log part started) {ws : List ReadRecord}
    {k : ℕ} (hmarks : List.Forall₂ (Marks producer.runId) (producer.sourceSeq.toList.take k) ws) :
    ∀ w ∈ ws, Plain producer.runId w := by
  intro w hw
  obtain ⟨entry, hentry, hmark⟩ := exists_entry_of_marks hmarks hw
  exact hmark.plain (h.entry_ne (List.mem_of_mem_take hentry))

/-- `LoggerStopped` and a checkpoint for every counter begin a transition. -/
lemma Logged.begun (h : Logged runId producer log part started) {stopped : ReadRecord}
    (hstopped : IsSystem producer.runId EVENT_LOGGER_STOPPED [] stopped) {ws : List ReadRecord}
    (hmarks : List.Forall₂ (Marks producer.runId) producer.sourceSeq.toList ws) :
    Begun producer.runId log stopped ws := by
  refine ⟨hstopped, ?_, ?_, ?_⟩
  · intro w hw
    obtain ⟨entry, -, hmark⟩ := exists_entry_of_marks hmarks hw
    exact ⟨hmark.runId, hmark.eventTypeId, by rw [hmark.slots, hmark.seq]⟩
  · rw [sources_of_marks hmarks]
    exact pairwise_sources _
  · intro source
    rw [sources_of_marks hmarks, mem_sources, h.active]

/-! ## Calls -/

/-- A data record goes on with the word. -/
lemma Logged.emitData (h : Logged runId producer log part started) {sourceId eventTypeId : UInt32}
    (hsource : sourceId ≠ SYSTEM_SOURCE_ID)
    (hdid : Did producer (.emitData sourceId eventTypeId) producer') :
    Logged runId producer' producer'.written [] started := by
  cases hdid with
  | @emitData _ _ next time ring w hopen _ _ htook =>
    obtain ⟨rfl, rfl⟩ := h.closed hopen
    have hplain : Plain producer.runId w := by
      refine ⟨?_, ?_, Or.inl ?_⟩ <;> rw [htook.record_eq]
      · rfl
      · exact hsource
      · rfl
    have hw : w.record.sourceId = sourceId := by
      rw [htook.record_eq]
      rfl
    refine ⟨htook.represents, htook.capacity ▸ h.capacity, (List.append_nil _).symm,
      h.word.plain hplain, ?_, h.epochFirstAbs, ?_⟩
    · simp only [take, hopen]
      exact .closed
    · intro source
      simp only [take, active_append, ← h.active, hplain.active, hw,
        Std.TreeMap.mem_insert, Std.TreeMap.mem_insertIfNew, Std.LawfulEqCmp.compare_eq_iff_eq]
      tauto

/-- A checkpoint goes on with the word. -/
lemma Logged.checkpoint (h : Logged runId producer log part started)
    (hdid : Did producer .checkpointHighWater producer') :
    Logged runId producer' producer'.written [] started := by
  cases hdid with
  | checkpoint hopen hmarked =>
    obtain ⟨rfl, rfl⟩ := h.closed hopen
    obtain ⟨ring, time, sourceSeq, ws, rfl, hmarks, hrep, hcap, hmem⟩ := hmarked.spec h.ring
    have hplain : ∀ w ∈ ws, Plain producer.runId w := by
      refine h.plain_of_marks (k := producer.sourceSeq.toList.length) ?_
      rwa [List.take_length]
    refine ⟨hrep, hcap ▸ h.capacity, (List.append_nil _).symm, h.word.plains hplain, ?_,
      h.epochFirstAbs, ?_⟩
    · simp only [hopen]
      exact .closed
    · intro source
      have hactive : Active producer.runId ws source → source ∈ producer.sourceSeq := by
        rintro ⟨-, w, hw, -, rfl⟩
        rw [← mem_sources, ← sources_of_marks hmarks]
        exact List.mem_map_of_mem hw
      simp only [hmem, mem_sources, or_self, active_append, ← h.active]
      exact (or_iff_left_of_imp hactive).symm

/-- Opening a transition begins a block. -/
lemma Logged.began (h : Logged runId producer log part started)
    {defHashOld defHashNew : DefinitionHash} {epochId : UInt64}
    (hdid : Did producer (.beginEpochTransition defHashOld defHashNew epochId) producer') :
    ∃ part', Logged runId producer' log part' started := by
  cases hdid with
  | @began _ _ _ next time ring w marked hopen _ _ htook hmarked =>
    obtain ⟨rfl, rfl⟩ := h.closed hopen
    obtain ⟨ring', time', sourceSeq, ws, rfl, hmarks, hrep, hcap, hmem⟩ :=
      hmarked.spec htook.represents
    have hstopped : IsSystem producer.runId EVENT_LOGGER_STOPPED [] w := by
      constructor <;> rw [htook.record_eq] <;> rfl
    refine ⟨w :: ws, hrep, hcap ▸ htook.capacity ▸ h.capacity, ?_, h.word,
      .begun rfl (h.begun hstopped hmarks), h.epochFirstAbs, ?_⟩
    · simp [take]
    · intro source
      simp only [hmem, mem_sources, take, or_self, h.active]

/-- Announcing the new definition goes on with the block. -/
lemma Logged.changed (h : Logged runId producer log part started)
    (hdid : Did producer .emitDefinitionChanged producer') :
    ∃ part', Logged runId producer' log part' started := by
  cases hdid with
  | @changed pending next time ring w hopen hemitted _ _ htook =>
    have hopened := h.opened
    rw [hopen] at hopened
    cases hopened with
    | changed hdone => simp [hemitted] at hdone
    | @begun _ stopped marks _ hbegun =>
      have hchanged : IsSystem producer.runId EVENT_DEFINITION_CHANGED (changedSlots pending) w := by
        constructor <;> rw [htook.record_eq] <;> rfl
      refine ⟨stopped :: (marks ++ [w]), htook.represents, htook.capacity ▸ h.capacity, ?_, h.word,
        .changed rfl hbegun ⟨pending, hchanged⟩, h.epochFirstAbs, h.active⟩
      simp [take, h.written]

/-- A transition whose new definition has been announced lacks only its last record. -/
lemma Logged.closes (h : Logged runId producer log part started) {pending : PendingTransition}
    (hopen : producer.transition = some pending)
    (hemitted : pending.definitionChangedEmitted = true) :
    ∃ stopped marks changed, Begun producer.runId log stopped marks ∧
      (∃ announced, IsSystem producer.runId EVENT_DEFINITION_CHANGED (changedSlots announced)
        changed) ∧
      ∀ w, producer.written ++ [w] = log ++ Block.records ⟨stopped, marks, changed, w⟩ := by
  have hopened := h.opened
  have hwritten := h.written
  rw [hopen] at hopened
  cases hopened with
  | begun hopen => simp [hemitted] at hopen
  | @changed _ stopped changed marks _ hbegun hchanged =>
    refine ⟨stopped, marks, changed, hbegun, hchanged, fun w => ?_⟩
    simp [hwritten, Block.records]

/-- Closing a warm transition ends the block. -/
lemma Logged.warm (h : Logged runId producer log part started)
    (hdid : Did producer .finishDefinitionChange producer') :
    ∃ w, Logged runId producer' producer'.written [] (some w) := by
  cases hdid with
  | @warm pending next time ring w hopen hemitted _ _ htook =>
    obtain ⟨stopped, marks, changed, hbegun, hchanged, hrecords⟩ := h.closes hopen hemitted
    have hstarted : IsSystem producer.runId EVENT_LOGGER_STARTED (startedSlots 0) w := by
      constructor <;> rw [htook.record_eq] <;> rfl
    have hblock : Block.Follows ⟨stopped, marks, changed, w⟩ log producer.runId producer.runId :=
      ⟨hbegun, hchanged, Or.inl ⟨rfl, hstarted⟩⟩
    refine ⟨w, htook.represents, htook.capacity ▸ h.capacity, (List.append_nil _).symm, ?_,
      .closed, rfl, ?_⟩
    · simp only [take, hrecords]
      exact h.word.block hblock
    · intro source
      simp only [take, hrecords, hblock.active_warm, h.active]

/-- Closing a cold start ends the block; the next run has no record yet. -/
lemma Logged.cold (h : Logged runId producer log part started)
    (hdid : Did producer .finishColdStart producer') :
    ∃ w, Logged runId producer' producer'.written [] (some w) := by
  cases hdid with
  | @cold pending run' next time ring w hopen hemitted hrun' _ _ htook =>
    obtain ⟨stopped, marks, changed, hbegun, hchanged, hrecords⟩ := h.closes hopen hemitted
    have hstarted : IsSystem run' EVENT_LOGGER_STARTED (startedSlots 1) w := by
      constructor <;> rw [htook.record_eq] <;> rfl
    have hfresh : ∀ v ∈ log, v.record.runId ≠ run' := by
      rintro v hv rfl
      have := h.word.runId_le v hv
      omega
    have hne : run' ≠ producer.runId := by
      rintro rfl
      omega
    have hblock : Block.Follows ⟨stopped, marks, changed, w⟩ log producer.runId run' :=
      ⟨hbegun, hchanged, Or.inr ⟨hrun', hfresh, hstarted⟩⟩
    refine ⟨w, htook.represents, htook.capacity ▸ h.capacity, (List.append_nil _).symm, ?_,
      .closed, rfl, ?_⟩
    · simp only [take, hrecords]
      exact h.word.block hblock
    · intro source
      simp only [take, hrecords, hblock.active_cold hne, iff_false]
      simp

/-- The source of a data record is not the system source. -/
def NamesSource : EpochCall → Prop
  | .emitData sourceId _ => sourceId ≠ SYSTEM_SOURCE_ID
  | _ => True

/-- **An accepted call** leaves a word, or a word and the part of a block that the open transition
has written. -/
lemma Logged.did (h : Logged runId producer log part started) {call : EpochCall}
    (hsource : NamesSource call) (hdid : Did producer call producer') :
    ∃ log part started, Logged runId producer' log part started := by
  cases call with
  | emitData sourceId eventTypeId => exact ⟨_, _, _, h.emitData hsource hdid⟩
  | checkpointHighWater => exact ⟨_, _, _, h.checkpoint hdid⟩
  | beginEpochTransition defHashOld defHashNew epochId =>
    obtain ⟨part', h'⟩ := h.began hdid
    exact ⟨_, _, _, h'⟩
  | emitDefinitionChanged =>
    obtain ⟨part', h'⟩ := h.changed hdid
    exact ⟨_, _, _, h'⟩
  | finishDefinitionChange =>
    obtain ⟨w, h'⟩ := h.warm hdid
    exact ⟨_, _, _, h'⟩
  | finishColdStart =>
    obtain ⟨w, h'⟩ := h.cold hdid
    exact ⟨_, _, _, h'⟩

/-- A rejected call changes nothing. -/
lemma Logged.failed (h : Logged runId producer log part started)
    (hfailed : Failed producer producer') : Logged runId producer' log part started := by
  rcases hfailed with rfl | ⟨hlt, -⟩
  · exact h
  · exact absurd h.capacity (Nat.not_le.mpr hlt)

/-- The checkpoints for the counters that have none yet. -/
lemma exists_marks (run : UInt64) (entries : List (UInt32 × UInt64)) :
    ∃ ws, List.Forall₂ (Marks run) entries ws := by
  refine ⟨entries.map fun entry => ⟨0, 0, { Record.new 0 run entry.2 entry.1
    EVENT_SOURCE_HIGH_WATER with slots := highWaterSlots entry.2 }⟩, ?_⟩
  rw [List.forall₂_map_right_iff]
  exact List.forall₂_same.mpr fun entry _ => ⟨rfl, rfl, rfl, rfl, rfl⟩

/-- **A call that panics** leaves a prefix of a word. -/
lemma Logged.halted (h : Logged runId producer log part started)
    (hhalted : Halted producer producer') : producer'.InLanguage runId := by
  obtain ⟨stopped, ws, k, hwritten, hstopped, hmarks, hopen⟩ := hhalted.written
  have hfirst := hhalted.epochFirstAbs.trans h.epochFirstAbs
  by_cases hnil : stopped ++ ws = []
  · refine ⟨log, part, _, started, ?_, h.word, h.opened.unfinished, hfirst⟩
    rw [hwritten, hnil, List.append_nil, h.written]
  obtain ⟨rfl, rfl⟩ := h.closed (hopen hnil)
  rcases hstopped with rfl | ⟨w, rfl, hw⟩
  · refine ⟨_, [], _, started, ?_, h.word.plains (h.plain_of_marks hmarks), Or.inl rfl, hfirst⟩
    simpa using hwritten
  · -- the block is completed with the checkpoints that are missing
    obtain ⟨rest, hrest⟩ := exists_marks producer.runId (producer.sourceSeq.toList.drop k)
    have hall : List.Forall₂ (Marks producer.runId) producer.sourceSeq.toList (ws ++ rest) := by
      rw [← List.take_append_drop k producer.sourceSeq.toList]
      exact List.rel_append hmarks hrest
    have hsystem : IsSystem producer.runId EVENT_LOGGER_STOPPED [] w := by
      constructor <;> rw [hw] <;> rfl
    exact ⟨_, _, _, started, hwritten, h.word, Or.inr ((h.begun hsystem hall).unfinished
      (by simp)), hfirst⟩

/-! ## Runs -/

/-- A new producer has written the empty word. -/
lemma logged_new {capacity : ℕ} {epochId : UInt64} (hcap : 80 ≤ capacity)
    (hnew : EpochProducer.new capacity runId epochId = .ok producer) :
    Logged runId producer [] [] none := by
  have hcounted := counted_new hcap hnew
  obtain ⟨ring, hring, hproducer⟩ := Outcome.bind_eq_ok.mp hnew
  obtain rfl := Outcome.ok.inj hproducer
  refine ⟨hcounted.ring, hcounted.capacity, rfl, .nil, .closed, rfl, fun source => ?_⟩
  simp [Active]

/-- One call. -/
lemma Logged.call (h : Logged runId producer log part started) {call : EpochCall}
    (hsource : NamesSource call) :
    call.run.wp (fun _ producer' => ∃ log part started, Logged runId producer' log part started)
      (fun _ producer' => ∃ log part started, Logged runId producer' log part started)
      (InLanguage runId) producer :=
  Mut.wp_mono (call_spec h.ring call) (fun _ _ hdid => h.did hsource hdid)
    (fun _ _ hfailed => ⟨_, _, _, h.failed hfailed⟩) fun _ hhalted => h.halted hhalted

/-- Over a run the log stays in the language. -/
lemma Logged.runCalls (h : Logged runId producer log part started) {calls : List EpochCall}
    (hsources : ∀ call ∈ calls, NamesSource call) : (runCalls calls producer).InLanguage runId := by
  refine runCalls_of_call (I := fun producer => ∃ log part started,
    Logged runId producer log part started) ?_ ?_ hsources ⟨_, _, _, h⟩
  · rintro producer call hsource ⟨log, part, started, h⟩
    exact h.call hsource
  · rintro producer ⟨log, part, started, h⟩
    exact h.inLanguage

/-- Calls that name a source of their own keep the system source for the system records. -/
lemma keepsApart_of_namesSource {calls : List EpochCall} :
    ∀ {producer : EpochProducer}, SYSTEM_SOURCE_ID ∉ producer.sourceSeq →
      (∀ call ∈ calls, NamesSource call) → KeepsApart calls producer := by
  induction calls with
  | nil => exact fun _ _ => trivial
  | cons call calls ih =>
    intro producer hsystem hsources
    obtain ⟨hsource, hsources⟩ := List.forall_mem_cons.mp hsources
    have hne : ∀ sourceId eventTypeId, call = .emitData sourceId eventTypeId →
        sourceId ≠ SYSTEM_SOURCE_ID := by
      rintro sourceId eventTypeId rfl
      exact hsource
    have hextends := keeps_call hne producer hsystem
    refine ⟨?_, ?_⟩
    · cases call with
      | emitData sourceId eventTypeId => exact fun hmix => hsource hmix.2.1
      | beginEpochTransition _ _ _ => exact fun hmix => hsystem hmix.2
      | _ => exact id
    · rcases Mut.run_cases call.run producer with
        ⟨a, producer', hrun⟩ | ⟨e, producer', hrun⟩ | ⟨producer', hrun⟩
      · rw [hrun] at hextends ⊢
        exact ih hextends.2 hsources
      · rw [hrun] at hextends ⊢
        exact ih hextends.2 hsources
      · rw [hrun]
        trivial

end EpochProducer

/-- **The language of the log.** After every run of calls that name sources of their own on a new
producer, some of them rejected, the records written are a prefix of a word of data records,
checkpoints and whole transitions, and the first offset of the epoch is that of the
`LoggerStarted` record of the last transition. The records of each run and source are numbered
`0, 1, 2, …`: a warm transition, which keeps the run, goes on with every stream, and a cold start,
whose run has no record before it, starts every stream at zero. -/
theorem transition_language {capacity : ℕ} {runId epochId : UInt64} {producer : EpochProducer}
    (hcap : 80 ≤ capacity) (hnew : EpochProducer.new capacity runId epochId = .ok producer)
    (calls : List EpochCall) (hsources : ∀ call ∈ calls, EpochProducer.NamesSource call) :
    (∃ log part run started, (producer.runCalls calls).written = log ++ part ∧
      Word runId log run started ∧ (part = [] ∨ Unfinished run log part) ∧
      (producer.runCalls calls).epochFirstAbs = started.elim 0 ReadRecord.startAbs) ∧
    ∀ run source, ∃ n, ((producer.runCalls calls).written.filter fun w =>
        decide (w.record.runId = run ∧ w.record.sourceId = source)).map
      (fun w => w.record.seq.toNat) = List.range n := by
  have hlogged := EpochProducer.logged_new hcap hnew
  have hsystem : SYSTEM_SOURCE_ID ∉ producer.sourceSeq := by
    rw [hlogged.active]
    exact fun hactive => hactive.1 rfl
  refine ⟨hlogged.runCalls hsources, fun run source => ?_⟩
  obtain ⟨next, hnumbered⟩ := (EpochProducer.counted_new hcap hnew).runCalls
    (EpochProducer.keepsApart_of_namesSource hsystem hsources)
  refine ⟨next (run, source), ?_⟩
  rw [← hnumbered (run, source), numbers]
  simp only [ReadRecord.stream, Prod.mk.injEq]
  rfl

/-- A run with data of two sources, a rejected call, a warm transition and a cold start. -/
theorem transition_language_warm_cold :
    ∃ producer, EpochProducer.new 200 1 1 = .ok producer ∧
      ∃ log part run started, (producer.runCalls [.emitData 9 EVENT_MESSAGE, .emitData 7 1,
          .beginEpochTransition (.replicate 8 0) (.replicate 8 1) 2, .emitData 7 1,
          .emitDefinitionChanged, .finishDefinitionChange,
          .beginEpochTransition (.replicate 8 1) (.replicate 8 2) 3, .emitDefinitionChanged,
          .finishColdStart, .emitData 7 1]).written = log ++ part ∧ Word 1 log run started ∧
        (part = [] ∨ Unfinished run log part) := by
  refine ⟨_, rfl, ?_⟩
  obtain ⟨⟨log, part, run, started, hwritten, hword, hpart, -⟩, -⟩ :=
    transition_language (show 80 ≤ 200 by decide) rfl [.emitData 9 EVENT_MESSAGE, .emitData 7 1,
      .beginEpochTransition (.replicate 8 0) (.replicate 8 1) 2, .emitData 7 1,
      .emitDefinitionChanged, .finishDefinitionChange,
      .beginEpochTransition (.replicate 8 1) (.replicate 8 2) 3, .emitDefinitionChanged,
      .finishColdStart, .emitData 7 1] (by simp [EpochProducer.NamesSource, SYSTEM_SOURCE_ID])
  exact ⟨log, part, run, started, hwritten, hword, hpart⟩

end OpenOT
