import OpenOT.Carriage.EpochReplay
import OpenOT.Definition.ResolverTotal

set_option relaxedAutoImplicit false
set_option autoImplicit false

/-!
# Resolving the records of a run

The control block holds the hash of the definition in effect, the hash it replaced and the position
where the current epoch begins. The resolver has no more than that to tell under which definition
and in which epoch a record was written; the notes of a journal say what the answer is.

## Main definitions

* `OpenOT.Journal.Meets` — a transition names the hash in effect as the old one.
* `OpenOT.Journal.Dated` — what the control block says about the records written.
* `OpenOT.Journal.Classified` — the records that are resolved against the right definition.

## Main results

* `OpenOT.Journal.Dated.step` — every step keeps the invariant.
* `OpenOT.resolve_record_definition` — when the definition is the right one.
* `OpenOT.resolve_record_epoch` — when the epoch is.
-/

namespace OpenOT

open Rust Transition

/-! ## What a call does to the control block -/

namespace EpochProducer

variable {producer producer' : EpochProducer} {call : EpochCall}

/-- The call leaves the epoch and the hashes as they are. An open transition is the one there was,
or the one the call has begun. -/
structure Stays (producer : EpochProducer) (call : EpochCall) (producer' : EpochProducer) :
    Prop where
  closes : ¬call.Closes
  epochFirstAbs : producer'.epochFirstAbs = producer.epochFirstAbs
  definitionHash : producer'.definitionHash = producer.definitionHash
  prevDefinitionHash : producer'.prevDefinitionHash = producer.prevDefinitionHash
  epochId : producer'.epochId = producer.epochId
  transition : ∀ pending', producer'.transition = some pending' →
    (∃ defHashNew epochId, call = .beginEpochTransition pending'.defHashOld defHashNew epochId) ∨
    ∃ pending, producer.transition = some pending ∧ pending.defHashOld = pending'.defHashOld

/-- The call closes a transition with one record, from which the new epoch counts. -/
structure Opens (producer : EpochProducer) (call : EpochCall) (producer' : EpochProducer)
    (pending : PendingTransition) (w : ReadRecord) : Prop where
  closes : call.Closes
  opened : producer.transition = some pending
  written : producer'.written = producer.written ++ [w]
  epochFirstAbs : producer'.epochFirstAbs = w.startAbs
  definitionHash : producer'.definitionHash = pending.defHashNew
  prevDefinitionHash : producer'.prevDefinitionHash = pending.defHashOld
  transition : producer'.transition = none

/-- What a call does to the control block. -/
lemma Did.stays_or_opens (hring : producer.ring.Represents producer.written)
    (h : producer.Did call producer') :
    producer.Stays call producer' ∨ ∃ pending w, producer.Opens call producer' pending w := by
  cases h with
  | emitData hopen _ _ htook =>
    refine Or.inl ⟨by simp [EpochCall.Closes], rfl, rfl, rfl, rfl, fun pending' hpending => ?_⟩
    exact Or.inr ⟨pending', hpending, rfl⟩
  | checkpoint hopen hmarked =>
    obtain ⟨ring, time, sourceSeq, ws, rfl, -⟩ := hmarked.spec hring
    refine Or.inl ⟨by simp [EpochCall.Closes], rfl, rfl, rfl, rfl, fun pending' hpending => ?_⟩
    exact Or.inr ⟨pending', hpending, rfl⟩
  | began hopen _ _ htook hmarked =>
    obtain ⟨ring, time, sourceSeq, ws, rfl, -⟩ := hmarked.spec htook.represents
    refine Or.inl ⟨by simp [EpochCall.Closes], rfl, rfl, rfl, rfl, fun pending' hpending => ?_⟩
    obtain rfl := Option.some.inj hpending
    exact Or.inl ⟨_, _, rfl⟩
  | @changed pending _ _ _ _ hopen _ _ _ htook =>
    refine Or.inl ⟨by simp [EpochCall.Closes], rfl, rfl, rfl, rfl, fun pending' hpending => ?_⟩
    obtain rfl := Option.some.inj hpending
    exact Or.inr ⟨pending, hopen, rfl⟩
  | @warm pending _ _ _ w hopen =>
    exact Or.inr ⟨pending, w, Or.inl rfl, hopen, rfl, rfl, rfl, rfl, rfl⟩
  | @cold pending _ _ _ _ w hopen =>
    exact Or.inr ⟨pending, w, Or.inr rfl, hopen, rfl, rfl, rfl, rfl, rfl⟩

end EpochProducer

/-! ## What the control block says about the records -/

namespace Journal

/-- A transition names the hash in effect as the old one. -/
def Meets (journal : Journal) : EpochCall → Prop
  | .beginEpochTransition defHashOld _ _ => defHashOld = journal.definitionHash
  | _ => True

instance (journal : Journal) : DecidablePred journal.Meets
  | .emitData .. => isTrue trivial
  | .checkpointHighWater => isTrue trivial
  | .beginEpochTransition .. => inferInstanceAs (Decidable (_ = _))
  | .emitDefinitionChanged => isTrue trivial
  | .finishDefinitionChange => isTrue trivial
  | .finishColdStart => isTrue trivial

/-- Where the records lie: those from the boundary on are of the current epoch, those in front of
it are older, and those written before any transition was completed are of the first epoch. -/
structure Bounded (epochId : UInt64) (journal : Journal) : Prop where
  boundary : journal.producer.epochFirstAbs ≤ journal.producer.ring.headAbs
  initial : journal.completed = 0 →
    journal.producer.epochFirstAbs = 0 ∧ journal.producer.epochId = epochId
  current : ∀ note ∈ journal.notes, journal.producer.epochFirstAbs ≤ note.read.startAbs →
    note.completed = journal.completed ∧ note.definitionHash = journal.definitionHash ∧
      note.phase.epochId = journal.producer.epochId
  past : ∀ note ∈ journal.notes, note.read.startAbs < journal.producer.epochFirstAbs →
    note.completed < journal.completed
  first : ∀ note ∈ journal.notes, note.completed = 0 → note.phase.epochId = epochId

/-- The hashes of the control block: those of the last transition, if each transition has named the
hash in effect. -/
structure Hashed (journal : Journal) : Prop where
  pending : ∀ pending, journal.producer.transition = some pending →
    pending.defHashOld = journal.definitionHash
  initial : journal.completed = 0 → journal.producer.definitionHash = .replicate 8 0
  current : 0 < journal.completed → journal.producer.definitionHash = journal.definitionHash
  prior : ∀ note ∈ journal.notes, note.completed + 1 = journal.completed →
    note.definitionHash = journal.producer.prevDefinitionHash

variable {phase : Phase} {epochId : UInt64} {journal journal' : Journal}
  {producer : EpochProducer} {call : EpochCall} {ws : List ReadRecord}

/-- A note is an old one, or one on a record the call has written. -/
lemma mem_advance_notes (hwritten : producer.written = journal.producer.written ++ ws)
    {note : Note} (hnote : note ∈ (journal.advance call producer).notes) :
    note ∈ journal.notes ∨ note.read ∈ ws ∧ note.phase = producer.phase ∧
      note.definitionHash = (journal.advance call producer).definitionHash ∧
      note.completed = (journal.advance call producer).completed := by
  rcases List.mem_append.mp hnote with hold | hnew
  · exact Or.inl hold
  · rw [hwritten, List.drop_left] at hnew
    obtain ⟨w, hw, rfl⟩ := List.mem_map.mp hnew
    exact Or.inr ⟨hw, rfl, rfl, rfl⟩

/-- A call that leaves the epoch leaves the hash in effect and the number of transitions. -/
lemma advance_of_stays (h : journal.producer.Stays call producer) :
    (journal.advance call producer).definitionHash = journal.definitionHash ∧
      (journal.advance call producer).completed = journal.completed :=
  ⟨if_neg h.closes, if_neg h.closes⟩

/-- A call that closes a transition puts its new hash into effect. -/
lemma advance_of_opens {pending : PendingTransition} {w : ReadRecord}
    (h : journal.producer.Opens call producer pending w) :
    (journal.advance call producer).definitionHash = pending.defHashNew ∧
      (journal.advance call producer).completed = journal.completed + 1 := by
  refine ⟨(if_pos h.closes).trans ?_, if_pos h.closes⟩
  rw [h.opened]
  rfl

/-- The records noted lie in front of the head. -/
lemma Kept.startAbs_lt (h : Kept phase journal) {note : Note} (hnote : note ∈ journal.notes) :
    note.read.startAbs < journal.producer.ring.headAbs :=
  h.ring.startAbs_lt_head (h.reads ▸ List.mem_map_of_mem hnote)

/-- No note is of a transition to come. -/
lemma Bounded.completed_le (h : Bounded epochId journal) {note : Note}
    (hnote : note ∈ journal.notes) : note.completed ≤ journal.completed := by
  rcases Nat.lt_or_ge note.read.startAbs journal.producer.epochFirstAbs with hlt | hge
  · exact (h.past note hnote hlt).le
  · exact (h.current note hnote hge).1.le

/-- A new journal. -/
lemma bounded_start {capacity : ℕ} {runId : UInt64}
    (hnew : EpochProducer.new capacity runId epochId = .ok producer)
    (definitionHash : DefinitionHash) :
    Bounded epochId (start producer definitionHash) ∧ Hashed (start producer definitionHash) := by
  obtain ⟨ring, hring, hproducer⟩ := Outcome.bind_eq_ok.mp hnew
  obtain rfl := Outcome.ok.inj hproducer
  refine ⟨⟨Nat.zero_le _, fun _ => ⟨rfl, rfl⟩, ?_, ?_, ?_⟩, ⟨?_, fun _ => rfl, ?_, ?_⟩⟩
  · simp [start]
  · simp [start]
  · simp [start]
  · simp [start]
  · simp [start]
  · simp [start]

/-- **Every step keeps the records where they are said to be.**

**Proof sketch.** New records start behind the old head. A call that leaves the epoch writes them
behind the boundary; a call that closes a transition moves the boundary to the one record it
writes, and all older ones are in front of it. -/
lemma Bounded.step (h : Bounded epochId journal) (hkept : Kept phase journal)
    (hstep : journal.step call = some journal') : Bounded epochId journal' := by
  obtain ⟨producer, hdid, rfl⟩ := hkept.did hstep
  obtain ⟨ws, hwritten, hring, -⟩ := hdid.turns hkept.ring
  have hhead : journal.producer.ring.headAbs ≤ producer.ring.headAbs :=
    hkept.ring.headAbs_le (hwritten ▸ hring)
  rcases hdid.stays_or_opens hkept.ring with hstays | ⟨pending, w, hopens⟩
  · obtain ⟨hhash, hcompleted⟩ := advance_of_stays hstays
    have hphase : producer.phase.epochId = journal.producer.epochId := hstays.epochId
    have hfirst : (journal.advance call producer).producer.epochFirstAbs =
        journal.producer.epochFirstAbs := hstays.epochFirstAbs
    have hepoch : (journal.advance call producer).producer.epochId = journal.producer.epochId :=
      hstays.epochId
    have hnew : ∀ read ∈ ws, journal.producer.epochFirstAbs ≤ read.startAbs := fun read hread =>
      h.boundary.trans (hkept.ring.head_le_startAbs (hwritten ▸ hring) hread)
    constructor
    · rw [hfirst]
      exact h.boundary.trans hhead
    · rw [hfirst, hepoch, hcompleted]
      exact h.initial
    · intro note hnote hle
      rw [hfirst] at hle
      rw [hepoch, hcompleted, hhash]
      rcases mem_advance_notes hwritten hnote with hold | ⟨-, hnote, hnoteHash, hnoteCompleted⟩
      · exact h.current note hold hle
      · exact ⟨hnoteCompleted.trans hcompleted, hnoteHash.trans hhash, hnote ▸ hphase⟩
    · intro note hnote hlt
      rw [hfirst] at hlt
      rw [hcompleted]
      rcases mem_advance_notes hwritten hnote with hold | ⟨hread, -⟩
      · exact h.past note hold hlt
      · have := hnew note.read hread
        omega
    · intro note hnote hzero
      rcases mem_advance_notes hwritten hnote with hold | ⟨-, hnote, -, hnoteCompleted⟩
      · exact h.first note hold hzero
      · rw [hnote, hphase]
        exact (h.initial (hcompleted.symm.trans (hnoteCompleted.symm.trans hzero))).2
  · obtain ⟨hhash, hcompleted⟩ := advance_of_opens hopens
    have hfirst : (journal.advance call producer).producer.epochFirstAbs = w.startAbs :=
      hopens.epochFirstAbs
    have hold : ∀ note ∈ journal.notes, note.read.startAbs < w.startAbs := fun note hnote =>
      (hkept.startAbs_lt hnote).trans_le (hkept.ring.head_le_startAbs
        (hopens.written ▸ hring) List.mem_cons_self)
    constructor
    · rw [hfirst]
      have hw : w ∈ producer.written := by
        rw [hopens.written]
        simp
      exact (hring.startAbs_lt_head hw).le
    · intro hzero
      rw [hcompleted] at hzero
      omega
    · intro note hnote hle
      rw [hfirst] at hle
      rcases mem_advance_notes hopens.written hnote with hnote | ⟨-, hnote, hnoteHash, hcount⟩
      · have := hold note hnote
        omega
      · exact ⟨hcount, hnoteHash, by rw [hnote]; rfl⟩
    · intro note hnote hlt
      rw [hfirst] at hlt
      rw [hcompleted]
      rcases mem_advance_notes hopens.written hnote with hnote | ⟨hread, -⟩
      · exact Nat.lt_succ_of_le (h.completed_le hnote)
      · rw [List.mem_singleton.mp hread] at hlt
        omega
    · intro note hnote hzero
      rcases mem_advance_notes hopens.written hnote with hnote | ⟨-, -, -, hcount⟩
      · exact h.first note hnote hzero
      · rw [hcount, hcompleted] at hzero
        omega

/-- **Every step in which a transition names the hash in effect keeps the hashes.** -/
lemma Hashed.step (h : Hashed journal) (hbounded : Bounded epochId journal)
    (hkept : Kept phase journal) (hmeets : journal.Meets call)
    (hstep : journal.step call = some journal') : Hashed journal' := by
  obtain ⟨producer, hdid, rfl⟩ := hkept.did hstep
  obtain ⟨ws, hwritten, hring, -⟩ := hdid.turns hkept.ring
  rcases hdid.stays_or_opens hkept.ring with hstays | ⟨pending, w, hopens⟩
  · obtain ⟨hhash, hcompleted⟩ := advance_of_stays hstays
    have hdefinition : (journal.advance call producer).producer.definitionHash =
        journal.producer.definitionHash := hstays.definitionHash
    constructor
    · intro pending' hpending
      rw [hhash]
      rcases hstays.transition pending' hpending with ⟨_, _, rfl⟩ | ⟨pending, hopened, heq⟩
      · exact hmeets
      · rw [← heq]
        exact h.pending pending hopened
    · rw [hdefinition, hcompleted]
      exact h.initial
    · rw [hdefinition, hcompleted, hhash]
      exact h.current
    · intro note hnote hcount
      rw [hcompleted] at hcount
      rcases mem_advance_notes hwritten hnote with hold | ⟨-, -, -, hnew⟩
      · exact (h.prior note hold hcount).trans hstays.prevDefinitionHash.symm
      · rw [hnew, hcompleted] at hcount
        omega
  · obtain ⟨hhash, hcompleted⟩ := advance_of_opens hopens
    constructor
    · intro pending' hpending
      exact absurd (hpending.symm.trans hopens.transition) nofun
    · intro hzero
      rw [hcompleted] at hzero
      omega
    · intro _
      exact hopens.definitionHash.trans hhash.symm
    · intro note hnote hcount
      rw [hcompleted] at hcount
      rcases mem_advance_notes hopens.written hnote with hold | ⟨-, -, -, hnew⟩
      · -- the records of the epoch that ends now were written under the hash now replaced
        have hcurrent : journal.producer.epochFirstAbs ≤ note.read.startAbs := by
          by_contra hlt
          have := hbounded.past note hold (Nat.lt_of_not_le hlt)
          omega
        rw [(hbounded.current note hold hcurrent).2.1]
        exact (h.pending pending hopens.opened).symm.trans hopens.prevDefinitionHash.symm
      · rw [hnew, hcompleted] at hcount
        omega

/-! ### The definition selected -/

/-- The records that are resolved against the right definition. As long as no transition has been
completed, the control block says that the hash is zero. Then the records of the current epoch and
of the one before it are, and of older records those written under the hash that the last transition
has replaced. -/
def Classified (journal : Journal) (note : Note) : Prop :=
  if journal.completed = 0 then note.definitionHash = .replicate 8 0
  else journal.completed ≤ note.completed + 1 ∨
    note.definitionHash = journal.producer.prevDefinitionHash

instance (journal : Journal) (note : Note) : Decidable (journal.Classified note) :=
  inferInstanceAs (Decidable (if journal.completed = 0 then note.definitionHash = .replicate 8 0
    else journal.completed ≤ note.completed + 1 ∨
      note.definitionHash = journal.producer.prevDefinitionHash))

/-- The hash selected by the position of a record is the one it was written under exactly if the
record is classified. -/
lemma selectedHash_eq_iff (hbounded : Bounded epochId journal) (hhashed : Hashed journal)
    {note : Note} (hnote : note ∈ journal.notes) :
    selectedHash (resolvedEpoch note.read.startAbs journal.producer.controlSnapshot)
        journal.producer.controlSnapshot = note.definitionHash.toList ↔
      journal.Classified note := by
  rw [Classified]
  rcases Nat.lt_or_ge note.read.startAbs journal.producer.epochFirstAbs with hlt | hge
  · have hprior : resolvedEpoch note.read.startAbs journal.producer.controlSnapshot = .prior :=
      if_neg (Nat.not_le.mpr hlt)
    have hpast := hbounded.past note hnote hlt
    rw [hprior, if_neg (by omega)]
    constructor
    · intro heq
      exact Or.inr (Vector.toList_inj.mp heq).symm
    · rintro (hcount | heq)
      · have := hhashed.prior note hnote (by omega)
        rw [this]
        rfl
      · rw [heq]
        rfl
  · have hcurrent : resolvedEpoch note.read.startAbs journal.producer.controlSnapshot = .current :=
      if_pos hge
    obtain ⟨hcount, hhash, -⟩ := hbounded.current note hnote hge
    rw [hcurrent]
    split_ifs with hzero
    · have hinitial := hhashed.initial hzero
      constructor
      · intro heq
        rw [← Vector.toList_inj.mp heq, hinitial]
      · intro heq
        rw [heq, ← hinitial]
        rfl
    · refine iff_of_true ?_ (Or.inl (by omega))
      rw [hhash, ← hhashed.current (by omega)]
      rfl

end Journal

/-! ## Definitions -/

/-- The record resolved, if it is. -/
def resolvedOf : Outcome Empty Resolution → Option ResolvedRecord
  | .ok (.resolved resolved) => some resolved
  | _ => none

lemma resolvedOf_eq_some {x : Outcome Empty Resolution} {resolved : ResolvedRecord} :
    resolvedOf x = some resolved ↔ x = .ok (.resolved resolved) := by
  unfold resolvedOf
  split
  · simp
  · rename_i hne
    exact iff_of_false nofun fun h => hne resolved h

/-- A record written in a run, resolved at its position with the snapshot of the producer. -/
def Journal.resolve (journal : Journal) (hashing : Hashing) (definitions : DefinitionSet)
    (note : Note) : Outcome Empty Resolution :=
  resolveRecord hashing note.read.delivered.record note.read.startAbs
    journal.producer.controlSnapshot definitions

/-- **When a record is resolved against the right definition.** In every state of every run of
successful calls in which each transition names the hash in effect as the old one, each record
written is resolved or kept as a placeholder; and if it is resolved, the definition it is resolved
against has the hash in effect when the record was written exactly if the record is classified. -/
theorem resolve_record_definition {capacity : ℕ} {runId epochId : UInt64}
    {producer : EpochProducer} {definitionHash : DefinitionHash} {journal : Journal}
    (hnew : EpochProducer.new capacity runId epochId = .ok producer)
    (hrun : Runs Journal.step Journal.Meets (.start producer definitionHash) journal)
    (hashing : Hashing) (definitions : DefinitionSet) :
    journal.notes.map Note.read = journal.producer.written ∧
    ∀ note ∈ journal.notes, ∃ resolution,
      journal.resolve hashing definitions note = .ok resolution ∧
      ∀ resolved, resolution = .resolved resolved → ∃ definition hash,
        selectedDefinition resolved.epoch definitions = some definition ∧
        computeContentHash hashing definition = .ok hash ∧
        (hash.carriageHash = note.definitionHash ↔ journal.Classified note) := by
  obtain ⟨hkept, hbounded, hhashed⟩ : Journal.Kept ⟨runId, epochId, none⟩ journal ∧
      Journal.Bounded epochId journal ∧ Journal.Hashed journal := by
    refine hrun.invariant (P := fun journal => Journal.Kept ⟨runId, epochId, none⟩ journal ∧
      Journal.Bounded epochId journal ∧ Journal.Hashed journal)
      ⟨Journal.kept_start hnew definitionHash, Journal.bounded_start hnew definitionHash⟩ ?_
    rintro journal call journal' ⟨hkept, hbounded, hhashed⟩ hmeets hstep
    exact ⟨hkept.step hstep, hbounded.step hkept hstep,
      hhashed.step hbounded hkept hmeets hstep⟩
  refine ⟨hkept.reads, fun note hnote => ?_⟩
  obtain ⟨resolution, hresolve⟩ := exists_resolution hashing note.read.delivered.record
    note.read.startAbs journal.producer.controlSnapshot definitions
  refine ⟨resolution, hresolve, fun resolved hresolved => ?_⟩
  obtain ⟨-, hepoch, definition, hash, hselected, hhash, hcarriage⟩ :=
    resolveRecord_resolved (hresolved ▸ hresolve)
  refine ⟨definition, hash, hepoch ▸ hselected, hhash, ?_⟩
  rw [← Journal.selectedHash_eq_iff hbounded hhashed hnote, ← hcarriage, Vector.toList_inj]

/-! ### A definition and its hash -/

/-- A definition with one event. -/
def messageDefinition : DefinitionFile where
  header := {
    wireVersion := 2
    semanticVersion := "1.0.0"
    profiles := ["Core"]
    conformanceLevel := "Core"
    caps := ⟨true, true⟩
    constraints := ⟨256, 16, .overwriteOldest⟩
    epochStrategy := .retain
    contentHash := "" }
  eventTypes := [⟨EVENT_MESSAGE, "Message", "Core",
    [.slot KEY_MESSAGE_TEMPLATE_ID TY_UDINT 1 (.count 1) 1]⟩]
  sources := []
  stateMachines := []
  conditions := []
  messageTemplates := []
  values := []
  units := []
  enumSets := []
  recipeDefinitions := []
  batchDefinitions := []
  materialDefinitions := []
  operatorDefinitions := []
  eSignatureMeanings := []
  severityScale := ⟨"default", ⟨1, 332⟩, ⟨333, 666⟩, ⟨667, 1000⟩⟩

/-- Its canonical JSON. -/
def messageDefinitionJson : Bytes :=
  ("\x7b\"batchDefinitions\":[],\"conditions\":[],\"eSignatureMeanings\":[],\"enumSets\":[]," ++
    "\"eventTypes\":[\x7b\"id\":3,\"name\":\"Message\",\"profile\":\"Core\",\"slots\":[\x7b\"key\":20," ++
    "\"maxOccurs\":1,\"minOccurs\":1,\"orderClass\":1,\"type\":5\x7d]\x7d],\"header\":\x7b\"caps\":" ++
    "\x7b\"crc\":true,\"sourceHighWater\":true\x7d,\"conformanceLevel\":\"Core\",\"constraints\":" ++
    "\x7b\"maxRecordSize\":256,\"maxSlots\":16,\"overflowPolicy\":\"overwrite-oldest\"\x7d," ++
    "\"contentHash\":\"\",\"epochStrategy\":\"retain\",\"profiles\":[\"Core\"]," ++
    "\"semanticVersion\":\"1.0.0\",\"wireVersion\":2\x7d,\"materialDefinitions\":[]," ++
    "\"messageTemplates\":[],\"operatorDefinitions\":[],\"recipeDefinitions\":[],\"severityScale\":" ++
    "\x7b\"high\":\x7b\"max\":1000,\"min\":667\x7d,\"low\":\x7b\"max\":332,\"min\":1\x7d,\"medium\":" ++
    "\x7b\"max\":666,\"min\":333\x7d,\"name\":\"default\"\x7d,\"sources\":[],\"stateMachines\":[]," ++
    "\"units\":[],\"values\":[]\x7d").toUTF8.data.toList

/-- The SHA-256 digest of that. -/
def messageDefinitionDigest : Vector UInt8 32 :=
  #v[0xf8, 0x8f, 0xf6, 0xc4, 0x5a, 0x76, 0x6c, 0x89, 0xd3, 0x9c, 0x58, 0x4d, 0x29, 0x11, 0x92,
    0xb6, 0xa7, 0x06, 0x4d, 0x48, 0x01, 0x82, 0x34, 0xc0, 0xc4, 0x08, 0xab, 0x92, 0x23, 0x9e,
    0xb9, 0x1a]

/-- Canonical JSON and SHA-256, as far as this definition goes. -/
def messageHashing : Hashing where
  toVec definition :=
    if definition = messageDefinition then .ok messageDefinitionJson else .error "not tabulated"
  digest bytes :=
    if bytes = messageDefinitionJson then messageDefinitionDigest else .replicate 32 0

/-- The first eight bytes of the digest. -/
def messageDefinitionHash : DefinitionHash := #v[0xf8, 0x8f, 0xf6, 0xc4, 0x5a, 0x76, 0x6c, 0x89]

lemma computeContentHash_messageDefinition :
    ∃ contentHash, computeContentHash messageHashing messageDefinition =
      .ok ⟨contentHash, messageDefinitionHash⟩ := by
  refine ⟨lowerHex messageDefinitionDigest.toList, ?_⟩
  decide +kernel

/-- A message, a transition to the definition, a message, and a transition away from it. -/
def messageRun : List EpochCall :=
  [.emitData 7 EVENT_MESSAGE,
    .beginEpochTransition (.replicate 8 0) messageDefinitionHash 2, .emitDefinitionChanged,
    .finishDefinitionChange, .emitData 7 EVENT_MESSAGE,
    .beginEpochTransition messageDefinitionHash (.replicate 8 1) 3, .emitDefinitionChanged,
    .finishColdStart]

/-- A retained message, the hash in effect when it was written, and the epoch under which it is
resolved with the definition at hand as the prior one. -/
def Journal.ResolvedPrior (journal : Journal) (note : Note) (definitionHash : DefinitionHash) :
    Prop :=
  journal.producer.ring.oldestAbs ≤ note.read.startAbs ∧ note.definitionHash = definitionHash ∧
    (resolvedOf (journal.resolve messageHashing ⟨none, some messageDefinition⟩ note)).map
      ResolvedRecord.epoch = some .prior

instance (journal : Journal) (note : Note) (definitionHash : DefinitionHash) :
    Decidable (journal.ResolvedPrior note definitionHash) :=
  inferInstanceAs (Decidable (_ ∧ _ ∧ _))

/-- The second message is resolved against the definition it was written under. -/
theorem resolve_record_definition_message :
    ∃ producer journal, EpochProducer.new 1024 1 1 = .ok producer ∧
      Runs Journal.step Journal.Meets (.start producer (.replicate 8 0)) journal ∧
      ∃ note ∈ journal.notes, journal.Classified note ∧
        journal.ResolvedPrior note messageDefinitionHash ∧
        ∃ hash, computeContentHash messageHashing messageDefinition = .ok hash ∧
          hash.carriageHash = note.definitionHash := by
  obtain ⟨producer, hnew⟩ : ∃ producer, EpochProducer.new 1024 1 1 = .ok producer := ⟨_, rfl⟩
  have hmap : (follow Journal.step Journal.Meets messageRun
      (.start producer (.replicate 8 0))).map (fun journal => decide (∃ note ∈ journal.notes,
        journal.Classified note ∧ journal.ResolvedPrior note messageDefinitionHash)) =
      some true := by
    obtain rfl := Outcome.ok.inj hnew
    decide +kernel
  obtain ⟨journal, hfollow, hright⟩ := Option.map_eq_some_iff.mp hmap
  obtain ⟨note, hnote, hclassified, hprior⟩ := of_decide_eq_true hright
  have hrun := Runs.start.of_follow hfollow
  obtain ⟨resolved, hresolved, hepoch⟩ := Option.map_eq_some_iff.mp hprior.2.2
  obtain ⟨resolution, hresolve, hdefinition⟩ := (resolve_record_definition hnew hrun messageHashing
    ⟨none, some messageDefinition⟩).2 note hnote
  rw [resolvedOf_eq_some, hresolve] at hresolved
  obtain ⟨definition, hash, hselected, hhash, hright⟩ :=
    hdefinition resolved (Outcome.ok.inj hresolved)
  rw [hepoch] at hselected
  obtain rfl := Option.some.inj hselected
  exact ⟨producer, journal, hnew, hrun, note, hnote, hclassified, hprior, hash, hhash,
    hright.mpr hclassified⟩

/-- The first message was written before the definition was put into effect, and it is resolved
against it all the same. -/
theorem resolve_record_wrong_definition :
    ∃ producer journal, EpochProducer.new 1024 1 1 = .ok producer ∧
      Runs Journal.step Journal.Meets (.start producer (.replicate 8 0)) journal ∧
      ∃ note ∈ journal.notes, journal.ResolvedPrior note (.replicate 8 0) ∧
        ∃ hash, computeContentHash messageHashing messageDefinition = .ok hash ∧
          hash.carriageHash ≠ note.definitionHash := by
  obtain ⟨producer, hnew⟩ : ∃ producer, EpochProducer.new 1024 1 1 = .ok producer := ⟨_, rfl⟩
  have hmap : (follow Journal.step Journal.Meets messageRun
      (.start producer (.replicate 8 0))).map (fun journal => decide (∃ note ∈ journal.notes,
        journal.ResolvedPrior note (.replicate 8 0))) = some true := by
    obtain rfl := Outcome.ok.inj hnew
    decide +kernel
  obtain ⟨journal, hfollow, hwrong⟩ := Option.map_eq_some_iff.mp hmap
  obtain ⟨note, hnote, hprior⟩ := of_decide_eq_true hwrong
  obtain ⟨contentHash, hcontent⟩ := computeContentHash_messageDefinition
  refine ⟨producer, journal, hnew, Runs.start.of_follow hfollow, note, hnote, hprior, _, hcontent,
    ?_⟩
  rw [hprior.2.1]
  change messageDefinitionHash ≠ .replicate 8 0
  decide

/-! ## Epochs -/

/-- **When a record is labelled with the right epoch.** After every run of successful calls with at
most one transition completed, a resolver fed the whole log gives the epoch in effect when a record
was written; a record that is resolved is labelled with that epoch exactly if it lies behind the
boundary or the transition has kept the epoch. -/
theorem resolve_record_epoch {capacity : ℕ} {runId epochId : UInt64} {producer : EpochProducer}
    {definitionHash : DefinitionHash} {journal : Journal}
    (hnew : EpochProducer.new capacity runId epochId = .ok producer)
    (hrun : Runs Journal.step (fun _ _ => True) (.start producer definitionHash) journal)
    (hone : journal.completed ≤ 1) (hashing : Hashing) (definitions : DefinitionSet)
    (bufferId : UInt32) :
    journal.notes.map Note.read = journal.producer.written ∧
    ∀ note ∈ journal.notes,
      ((EpochResolver.new bufferId runId epochId).observeAll bufferId
        journal.producer.written).resolve bufferId note.read.record.runId note.read.startAbs =
          some note.phase.epochId ∧
      ∃ resolution, journal.resolve hashing definitions note = .ok resolution ∧
        ∀ resolved, resolution = .resolved resolved →
          (resolved.epochId = note.phase.epochId ↔
            journal.producer.epochFirstAbs ≤ note.read.startAbs ∨
              journal.producer.epochId = epochId) := by
  obtain ⟨hkept, hbounded⟩ : Journal.Kept ⟨runId, epochId, none⟩ journal ∧
      Journal.Bounded epochId journal := by
    refine hrun.invariant (P := fun journal => Journal.Kept ⟨runId, epochId, none⟩ journal ∧
      Journal.Bounded epochId journal)
      ⟨Journal.kept_start hnew definitionHash, (Journal.bounded_start hnew definitionHash).1⟩ ?_
    rintro journal call journal' ⟨hkept, hbounded⟩ _ hstep
    exact ⟨hkept.step hstep, hbounded.step hkept hstep⟩
  refine ⟨hkept.reads, fun note hnote => ⟨hkept.resolve_written bufferId hnote, ?_⟩⟩
  obtain ⟨resolution, hresolve⟩ := exists_resolution hashing note.read.delivered.record
    note.read.startAbs journal.producer.controlSnapshot definitions
  refine ⟨resolution, hresolve, fun resolved hresolved => ?_⟩
  obtain ⟨hlabel, -⟩ := resolveRecord_resolved (hresolved ▸ hresolve)
  have hlabel : resolved.epochId = journal.producer.epochId := hlabel
  rw [hlabel]
  rcases Nat.lt_or_ge note.read.startAbs journal.producer.epochFirstAbs with hlt | hge
  · have hpast := hbounded.past note hnote hlt
    rw [hbounded.first note hnote (by omega), or_iff_right (Nat.not_le.mpr hlt)]
  · exact iff_of_true (hbounded.current note hnote hge).2.2.symm (Or.inl hge)

/-- A message, a warm transition to epoch 2 that keeps the definition, and a message. -/
def epochRun : List EpochCall :=
  [.emitData 7 EVENT_MESSAGE,
    .beginEpochTransition messageDefinitionHash messageDefinitionHash 2, .emitDefinitionChanged,
    .finishDefinitionChange, .emitData 7 EVENT_MESSAGE]

/-- A retained message, the epoch in effect when it was written, and the epoch it is labelled with
when it is resolved. -/
def Journal.Labelled (journal : Journal) (note : Note) (epochId label : UInt64) : Prop :=
  note.read.record.sourceId = 7 ∧ journal.producer.ring.oldestAbs ≤ note.read.startAbs ∧
    note.phase.epochId = epochId ∧
    (resolvedOf (journal.resolve messageHashing ⟨some messageDefinition, some messageDefinition⟩
      note)).map ResolvedRecord.epochId = some label

instance (journal : Journal) (note : Note) (epochId label : UInt64) :
    Decidable (journal.Labelled note epochId label) :=
  inferInstanceAs (Decidable (_ ∧ _ ∧ _ ∧ _))

/-- The message behind the transition is labelled with epoch 2, as the replay has it. -/
theorem resolve_record_epoch_message :
    ∃ producer journal, EpochProducer.new 1024 1 1 = .ok producer ∧
      Runs Journal.step (fun _ _ => True) (.start producer messageDefinitionHash) journal ∧
      journal.completed = 1 ∧
      ∃ note ∈ journal.notes, journal.producer.epochFirstAbs ≤ note.read.startAbs ∧
        journal.Labelled note 2 2 ∧
        ((EpochResolver.new 0 1 1).observeAll 0 journal.producer.written).resolve 0
          note.read.record.runId note.read.startAbs = some note.phase.epochId ∧
        ∃ resolved, journal.resolve messageHashing
            ⟨some messageDefinition, some messageDefinition⟩ note = .ok (.resolved resolved) ∧
          resolved.epochId = note.phase.epochId := by
  obtain ⟨producer, hnew⟩ : ∃ producer, EpochProducer.new 1024 1 1 = .ok producer := ⟨_, rfl⟩
  have hmap : (follow Journal.step (fun _ _ => True) epochRun
      (.start producer messageDefinitionHash)).map (fun journal => decide (journal.completed = 1 ∧
        ∃ note ∈ journal.notes, journal.producer.epochFirstAbs ≤ note.read.startAbs ∧
          journal.Labelled note 2 2)) = some true := by
    obtain rfl := Outcome.ok.inj hnew
    decide +kernel
  obtain ⟨journal, hfollow, hright⟩ := Option.map_eq_some_iff.mp hmap
  obtain ⟨hone, note, hnote, hbehind, hlabelled⟩ := of_decide_eq_true hright
  have hrun := Runs.start.of_follow hfollow
  obtain ⟨hreplay, resolution, hresolve, hlabel⟩ := (resolve_record_epoch hnew hrun hone.le
    messageHashing ⟨some messageDefinition, some messageDefinition⟩ 0).2 note hnote
  obtain ⟨resolved, hresolved, -⟩ := Option.map_eq_some_iff.mp hlabelled.2.2.2
  rw [resolvedOf_eq_some, hresolve] at hresolved
  refine ⟨producer, journal, hnew, hrun, hone, note, hnote, hbehind, hlabelled, hreplay, resolved,
    ?_, (hlabel resolved (Outcome.ok.inj hresolved)).mpr (Or.inl hbehind)⟩
  rw [hresolve, hresolved]

/-- The message in front of the transition was written in epoch 1 and is labelled with epoch 2. -/
theorem resolve_record_wrong_epoch :
    ∃ producer journal, EpochProducer.new 1024 1 1 = .ok producer ∧
      Runs Journal.step (fun _ _ => True) (.start producer messageDefinitionHash) journal ∧
      journal.completed = 1 ∧ ∃ note ∈ journal.notes, journal.Labelled note 1 2 := by
  obtain ⟨producer, hnew⟩ : ∃ producer, EpochProducer.new 1024 1 1 = .ok producer := ⟨_, rfl⟩
  have hmap : (follow Journal.step (fun _ _ => True) epochRun
      (.start producer messageDefinitionHash)).map (fun journal => decide (journal.completed = 1 ∧
        ∃ note ∈ journal.notes, journal.Labelled note 1 2)) = some true := by
    obtain rfl := Outcome.ok.inj hnew
    decide +kernel
  obtain ⟨journal, hfollow, hwrong⟩ := Option.map_eq_some_iff.mp hmap
  obtain ⟨hone, note, hnote, hlabelled⟩ := of_decide_eq_true hwrong
  exact ⟨producer, journal, hnew, Runs.start.of_follow hfollow, hone, note, hnote, hlabelled⟩

end OpenOT
