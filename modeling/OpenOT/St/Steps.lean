import OpenOT.Lib.Runs
import OpenOT.St.Producer
import OpenOT.St.Records

set_option relaxedAutoImplicit false
set_option autoImplicit false

/-!
# What a call does

Each operation of `OPENOT_Producer` once: the variables that outlive a call, and what becomes of
them when a record is encoded, handed to the ring and listed. Everything that holds of all runs is
derived from these facts.

## Main definitions

* `OpenOT.St.Core` — the variables that outlive a call, the clock apart.
* `OpenOT.St.Store.takes` — whether the ring and the scan list take a record.
* `OpenOT.St.Core.countAfter`, `OpenOT.St.Core.countBefore`, `OpenOT.St.Core.system` — a record is
  emitted; its number is counted after or before it is published.
* `OpenOT.St.Producer.Operated` — the operation of a call.
* `OpenOT.St.Producer.Reachable` — the states that calls reach.

## Main results

* `OpenOT.St.Store.publish_eq` — publishing a record, from what is known before.
* `OpenOT.St.Producer.core_highWater`, `OpenOT.St.Producer.core_message`, … — what each operation
  does to the core.
* `OpenOT.St.Producer.call_cases` — a call runs one operation.
-/

namespace OpenOT.St

open Rust CircularLog Transition

/-! ## Encoded records -/

section

variable {o : Option Encoded} {encoded : Encoded} {record : Record}

/-- The buffer of an encoder that ends holds the record. -/
lemma Encodes.of_some (h : Encodes o record) (hsome : o = some encoded) :
    (record.bytes true).length ≤ 256 ∧ encoded.buffer.length = 256 ∧
      encoded.length.toNat = (record.bytes true).length ∧
      encoded.buffer.take encoded.length.toNat = record.bytes true := by
  rw [Encodes, hsome] at h
  split_ifs at h with hfits
  cases h
  have hlength : (UInt16.ofNat (record.bytes true).length).toNat = (record.bytes true).length :=
    toNat_ofNat_of_le hfits
  refine ⟨hfits, ?_, hlength, ?_⟩
  · rw [length_overwrite (by rw [length_blankBuffer]; omega), length_blankBuffer]
  · simp only [hlength]
    simp [overwrite]

/-- The length of a record. -/
lemma length_record (envelope : Envelope) (eventTypeId : UInt32) (slots : List Slot) :
    ((envelope.record eventTypeId slots).bytes true).length = 44 + area slots := by
  rw [length_bytes, Record.encodedLen]
  simp [Envelope.record, HEADER_LEN, CRC_LEN, area]
  omega

/-- An encoder ends exactly when its record fits. -/
lemma Encodes.isSome_iff {envelope : Envelope} {eventTypeId : UInt32} {slots : List Slot}
    (h : Encodes o (envelope.record eventTypeId slots)) :
    (∃ encoded, o = some encoded) ↔ 44 + area slots ≤ 256 := by
  rw [Encodes, length_record] at h
  rw [h]
  split_ifs with hfits <;> simp [hfits]

end

/-! ## Publishing -/

namespace Store

variable {store : Store} {inputs : Inputs} {eventTypeId : UInt32} {runId : UInt64}
  {sourceId : UInt32} {seq : UInt64} {encoded : Encoded}

/-- Whether both the ring and the scan list take a record of the given length. -/
def takes (length : UInt16) (store : Store) : Bool :=
  store.ring.accepts length && store.scan.hasRoom length

/-- The outputs of the ring say whether it has taken the record. -/
lemma accepted_write : (store.write runId sourceId seq encoded).accepted =
    store.ring.accepts encoded.length := by
  unfold accepted write
  dsimp only
  rw [Ring256.done_call, Ring256.error_call, Bool.not_not, Bool.and_self]

/-- **Publishing a record**, from what is known before. -/
lemma publish_eq : store.publish inputs eventTypeId runId sourceId seq encoded =
    if store.takes encoded.length then
      (store.write runId sourceId seq encoded).list ⟨inputs, eventTypeId, runId, sourceId, seq,
        encoded.buffer.take encoded.length.toNat⟩ encoded
    else { store.write runId sourceId seq encoded with appendOk := false } := by
  unfold publish takes
  dsimp only
  rw [accepted_write]
  rfl

@[simp] lemma appendOk_publish :
    (store.publish inputs eventTypeId runId sourceId seq encoded).appendOk =
      store.takes encoded.length := by
  rw [publish_eq]
  split_ifs with h
  · rw [h]
    rfl
  · rw [Bool.not_eq_true] at h
    rw [h]

@[simp] lemma ring_publish :
    (store.publish inputs eventTypeId runId sourceId seq encoded).ring =
      store.ring.call true encoded.buffer encoded.length runId sourceId seq := by
  rw [publish_eq]
  split_ifs <;> rfl

/-- The history of what has been published. -/
lemma published_publish :
    (store.publish inputs eventTypeId runId sourceId seq encoded).published =
      if store.takes encoded.length then store.published ++ [⟨inputs, eventTypeId, runId, sourceId,
        seq, encoded.buffer.take encoded.length.toNat⟩]
      else store.published := by
  rw [publish_eq]
  split_ifs <;> rfl

@[simp] lemma published_reset : store.reset.published = store.published := rfl

@[simp] lemma ring_reset : store.reset.ring = store.ring := rfl

end Store

/-- A store after the records of a call, each of which meets a condition. -/
inductive Store.Fed (inputs : Inputs) (meets : Published → Prop) (store : Store) : Store → Prop
  | refl : Fed inputs meets store store
  | publish {next : Store} {eventTypeId : UInt32} {runId : UInt64} {sourceId : UInt32}
      {seq : UInt64} {encoded : Encoded} (h : Fed inputs meets store next)
      (hlength : encoded.length.toNat ≤ encoded.buffer.length)
      (hmeets : meets ⟨inputs, eventTypeId, runId, sourceId, seq,
        encoded.buffer.take encoded.length.toNat⟩) :
      Fed inputs meets store (next.publish inputs eventTypeId runId sourceId seq encoded)

namespace Store.Fed

variable {inputs : Inputs} {meets meets' : Published → Prop} {store next last : Store}

lemma trans (h : Fed inputs meets store next) (h' : Fed inputs meets next last) :
    Fed inputs meets store last := by
  induction h' with
  | refl => exact h
  | publish _ hlength hmeets ih => exact ih.publish hlength hmeets

lemma mono (h : Fed inputs meets store next) (hle : ∀ entry, meets entry → meets' entry) :
    Fed inputs meets' store next := by
  induction h with
  | refl => exact .refl
  | publish _ hlength hmeets ih => exact ih.publish hlength (hle _ hmeets)

/-- What has been published meets the condition. -/
lemma published (h : Fed inputs meets store next) :
    ∃ new, next.published = store.published ++ new ∧
      ∀ entry ∈ new, meets entry ∧ entry.inputs = inputs := by
  induction h with
  | refl => exact ⟨[], by simp, by simp⟩
  | @publish next eventTypeId runId sourceId seq encoded _ _ hmeets ih =>
    obtain ⟨new, hnew, hall⟩ := ih
    rw [published_publish]
    split_ifs
    · refine ⟨new ++ [_], by rw [hnew, List.append_assoc], ?_⟩
      intro entry hentry
      rcases List.mem_append.mp hentry with hold | hlast
      · exact hall entry hold
      · rw [List.mem_singleton.mp hlast]
        exact ⟨hmeets, rfl⟩
    · exact ⟨new, hnew, hall⟩

/-- What the ring has taken meets the condition. -/
lemma written (h : Fed inputs meets store next) :
    ∃ new, next.ring.written = store.ring.written ++ new ∧ ∀ write ∈ new, ∃ entry, meets entry ∧
      write.runId = entry.runId ∧ write.sourceId = entry.sourceId ∧ write.seq = entry.seq := by
  induction h with
  | refl => exact ⟨[], by simp, by simp⟩
  | @publish next eventTypeId runId sourceId seq encoded _ _ hmeets ih =>
    obtain ⟨new, hnew, hall⟩ := ih
    rw [ring_publish, Ring256.written_call]
    split_ifs
    · refine ⟨new ++ [_], by rw [hnew, List.append_assoc], ?_⟩
      intro write hwrite
      rcases List.mem_append.mp hwrite with hold | hlast
      · exact hall write hold
      · rw [List.mem_singleton.mp hlast]
        exact ⟨_, hmeets, rfl, rfl, rfl⟩
    · exact ⟨new, hnew, hall⟩

end Store.Fed

/-! ## The core -/

/-- The variables of the producer that outlive a call, the clock and the outputs apart. -/
structure Core where
  runId : UInt64
  systemSeq : UInt64
  epochId : UInt64
  epochFirstAbs : ℕ
  definitionHash : Vector UInt8 8
  prevDefinitionHash : Vector UInt8 8
  pending : Pending
  sources : Vector SourceEntry 16
  store : Store
  memory : Memory
  attestableEvents : AttestableEventLog

/-- The core of a producer. -/
def Producer.core (p : Producer) : Core where
  runId := p.runId
  systemSeq := p.systemSeq
  epochId := p.epochId
  epochFirstAbs := p.epochFirstAbs
  definitionHash := p.definitionHash
  prevDefinitionHash := p.prevDefinitionHash
  pending := p.pending
  sources := p.sources
  store := p.store
  memory := p.memory
  attestableEvents := p.attestableEvents

namespace Core

/-- Publishes a record in the current run. -/
def publish (inputs : Inputs) (eventTypeId sourceId : UInt32) (seq : UInt64) (encoded : Encoded)
    (c : Core) : Core :=
  { c with store := c.store.publish inputs eventTypeId c.runId sourceId seq encoded }

/-- The next number of the source at an index. -/
def nextSeq (index : Fin 16) (c : Core) : UInt64 := (c.sources.get index).nextSeq

/-- Counts the next number of the source at an index. -/
def advance (index : Fin 16) (c : Core) : Core :=
  { c with
    sources := c.sources.set index { c.sources.get index with nextSeq := c.nextSeq index + 1 }
      (entry_lt index) }

/-- A record whose number is counted when it has been published. -/
def countAfter (inputs : Inputs) (eventTypeId sourceId : UInt32) (index : Fin 16)
    (encoded : Encoded) (c : Core) : Core :=
  let published := c.publish inputs eventTypeId sourceId (c.nextSeq index) encoded
  if c.store.takes encoded.length then published.advance index else published

/-- A record whose number is counted before it is published. -/
def countBefore (inputs : Inputs) (eventTypeId sourceId : UInt32) (index : Fin 16)
    (encoded : Encoded) (c : Core) : Core :=
  (c.advance index).publish inputs eventTypeId sourceId (c.nextSeq index) encoded

/-- A record of the system source. Its number is counted before it is published. -/
def system (inputs : Inputs) (eventTypeId : UInt32) (encoded : Encoded) (c : Core) : Core :=
  { c with systemSeq := c.systemSeq + 1 }.publish inputs eventTypeId 0 c.systemSeq encoded

/-- Records the attestable event of a call. -/
def attest (inputs : Inputs) (sourceId : UInt32) (seq : UInt64) (c : Core) : Core :=
  { c with
    attestableEvents := recordAttestableSeq inputs.attestableId sourceId seq c.attestableEvents }

/-- The record of a data operation. Its number is counted when it has been published. -/
def emit (inputs : Inputs) (emission : Emission) (index : Fin 16) (sourceTime : UInt64)
    (encoded : Encoded) (c : Core) : Core :=
  let drawn := { c with
    memory := { c.memory with conditions := emission.drawn c.memory.conditions } }
  let published := drawn.publish inputs emission.eventTypeId emission.sourceId (c.nextSeq index)
    encoded
  if c.store.takes encoded.length then
    let counted := published.advance index
    let attested := if emission.attestable then
        counted.attest inputs emission.sourceId (c.nextSeq index)
      else counted
    { attested with memory := { attested.memory with
      values := emission.keep sourceTime attested.memory.values
      conditions := emission.settle attested.memory.conditions } }
  else { published with
    memory := { published.memory with counters := emission.refused published.memory.counters } }

section

variable {inputs : Inputs} {eventTypeId sourceId : UInt32} {index : Fin 16} {encoded : Encoded}
  {emission : Emission} {sourceTime : UInt64} {c : Core}

@[simp] lemma store_countAfter : (c.countAfter inputs eventTypeId sourceId index encoded).store =
    c.store.publish inputs eventTypeId c.runId sourceId (c.nextSeq index) encoded := by
  unfold countAfter
  dsimp only
  split_ifs <;> rfl

lemma sources_countAfter : (c.countAfter inputs eventTypeId sourceId index encoded).sources =
    if c.store.takes encoded.length then (c.advance index).sources else c.sources := by
  unfold countAfter
  dsimp only
  split_ifs <;> rfl

@[simp] lemma runId_emit : (c.emit inputs emission index sourceTime encoded).runId = c.runId := by
  unfold emit
  dsimp only
  split_ifs <;> rfl

@[simp] lemma systemSeq_emit :
    (c.emit inputs emission index sourceTime encoded).systemSeq = c.systemSeq := by
  unfold emit
  dsimp only
  split_ifs <;> rfl

@[simp] lemma pending_emit :
    (c.emit inputs emission index sourceTime encoded).pending = c.pending := by
  unfold emit
  dsimp only
  split_ifs <;> rfl

@[simp] lemma store_emit : (c.emit inputs emission index sourceTime encoded).store =
    c.store.publish inputs emission.eventTypeId c.runId emission.sourceId (c.nextSeq index)
      encoded := by
  unfold emit
  dsimp only
  split_ifs <;> rfl

lemma sources_emit : (c.emit inputs emission index sourceTime encoded).sources =
    if c.store.takes encoded.length then (c.advance index).sources else c.sources := by
  unfold emit
  dsimp only
  split_ifs <;> rfl

lemma conditions_emit : (c.emit inputs emission index sourceTime encoded).memory.conditions =
    if c.store.takes encoded.length then emission.settle (emission.drawn c.memory.conditions)
    else emission.drawn c.memory.conditions := by
  unfold emit
  dsimp only
  split_ifs <;> rfl

lemma values_emit : (c.emit inputs emission index sourceTime encoded).memory.values =
    if c.store.takes encoded.length then emission.keep sourceTime c.memory.values
    else c.memory.values := by
  unfold emit
  dsimp only
  cases c.store.takes encoded.length <;> cases emission.attestable <;> rfl

lemma attestableEvents_emit :
    (c.emit inputs emission index sourceTime encoded).attestableEvents =
      if c.store.takes encoded.length && emission.attestable then
        recordAttestableSeq inputs.attestableId emission.sourceId (c.nextSeq index)
          c.attestableEvents
      else c.attestableEvents := by
  unfold emit
  dsimp only
  cases c.store.takes encoded.length <;> cases emission.attestable <;> rfl

end

end Core

namespace Producer

variable {arith : RealArith} {inputs : Inputs} {p p' : Producer}

/-! ## What each operation does -/

/-- A high-water record. -/
lemma core_highWater {index : Fin 16} (h : p.highWater inputs index = some p') :
    ∃ encoded, encodeSourceHighWater (p.sources.get index).sourceId p.runId (p.nextSeq index)
        (p.nextSourceTime inputs) = some encoded ∧
      p'.core = p.core.countAfter inputs 0x0108 (p.sources.get index).sourceId index encoded ∧
      p'.error = (p.error || !p.store.takes encoded.length) := by
  unfold highWater at h
  obtain ⟨encoded, hencoded, h⟩ := Option.bind_eq_some_iff.mp h
  refine ⟨encoded, hencoded, ?_⟩
  dsimp only [publish, tick] at h
  rw [Store.appendOk_publish] at h
  unfold Core.countAfter
  by_cases htakes : p.store.takes encoded.length = true
  · rw [if_pos htakes] at h
    cases h
    rw [if_pos (show p.core.store.takes encoded.length = true from htakes), htakes]
    exact ⟨rfl, (Bool.or_false _).symm⟩
  · rw [if_neg htakes] at h
    cases h
    rw [if_neg (show ¬p.core.store.takes encoded.length = true from htakes)]
    simp only [Bool.not_eq_true] at htakes
    rw [htakes]
    exact ⟨rfl, (Bool.or_true _).symm⟩

/-- The `Checkpoint` branch. -/
lemma core_checkpoint (h : p.checkpoint inputs = some p') :
    p'.core = p.core ∧ p'.error = true ∨
      p.pending.isOpen = false ∧ inputs.sourceId ≠ 0 ∧ ∃ index q,
        findEntry p.sources (isSource inputs.sourceId) = some index ∧
        p.highWater inputs index = some q ∧ p'.core = q.core ∧ p'.error = q.error := by
  unfold checkpoint at h
  by_cases hopen : p.pending.isOpen = true
  · rw [if_pos hopen] at h
    cases h
    exact .inl ⟨rfl, rfl⟩
  rw [if_neg hopen] at h
  by_cases hsource : inputs.sourceId = 0
  · rw [if_pos hsource] at h
    cases h
    exact .inl ⟨rfl, rfl⟩
  rw [if_neg hsource] at h
  cases hfind : findEntry p.sources (isSource inputs.sourceId) with
  | none =>
    rw [hfind] at h
    cases h
    exact .inl ⟨rfl, rfl⟩
  | some index =>
    rw [hfind] at h
    obtain ⟨q, hq, h⟩ := Option.bind_eq_some_iff.mp h
    refine .inr ⟨by simpa using hopen, hsource, index, q, rfl, hq, ?_⟩
    split_ifs at h <;> cases h <;> exact ⟨rfl, rfl⟩

/-- Operation 0. -/
lemma core_message (h : p.message inputs = some p') :
    p'.core = p.core ∧ p'.error = true ∨
      p.pending.isOpen = false ∧ inputs.sourceId ≠ 0 ∧ ∃ index sources encoded,
        openSource inputs.sourceId p.sources = some (index, sources) ∧
        encodeMinimalMessage ⟨p.nextSourceTime inputs, p.runId, (sources.get index).nextSeq,
          inputs.sourceId⟩ inputs.message = some encoded ∧
        let counted := { p.core with sources := sources }.countBefore inputs 0x0003 inputs.sourceId
          index encoded
        p'.core = if p.store.takes encoded.length then
            counted.attest inputs inputs.sourceId (sources.get index).nextSeq
          else counted := by
  unfold message at h
  by_cases hopen : p.pending.isOpen = true
  · rw [if_pos hopen] at h
    cases h
    exact .inl ⟨rfl, rfl⟩
  rw [if_neg hopen] at h
  by_cases hsource : inputs.sourceId = 0
  · rw [if_pos hsource] at h
    cases h
    exact .inl ⟨rfl, rfl⟩
  rw [if_neg hsource] at h
  cases hfind : openSource inputs.sourceId p.sources with
  | none =>
    rw [hfind] at h
    cases h
    exact .inl ⟨rfl, rfl⟩
  | some found =>
    obtain ⟨index, sources⟩ := found
    rw [hfind] at h
    obtain ⟨encoded, hencoded, h⟩ := Option.bind_eq_some_iff.mp h
    refine .inr ⟨by simpa using hopen, hsource, index, sources, encoded, rfl, hencoded, ?_⟩
    dsimp only [publish, tick, advance, nextSeq] at h
    rw [Store.appendOk_publish] at h
    split_ifs at h ⊢ <;> cases h <;> rfl

/-- Operation 5. -/
lemma core_stage (h : p.stage inputs = some p') :
    p'.core = p.core ∧ p'.error = true ∨
      p.pending.isOpen = false ∧ inputs.sourceId ≠ 0 ∧ inputs.stageLength ≠ 0 ∧
        inputs.stageLength ≤ 256 ∧ ∃ index sources,
        openSource inputs.sourceId p.sources = some (index, sources) ∧
        (inputs.stageSeq ≠ (sources.get index).nextSeq ∧
            p'.core = { p.core with sources := sources } ∧ p'.error = true ∨
          inputs.stageSeq = (sources.get index).nextSeq ∧
            p'.core = { p.core with sources := sources }.countAfter inputs inputs.stageEventTypeId
              inputs.sourceId index ⟨inputs.stageRecord.toList, inputs.stageLength⟩) := by
  unfold stage at h
  by_cases hopen : p.pending.isOpen = true
  · rw [if_pos hopen] at h
    cases h
    exact .inl ⟨rfl, rfl⟩
  rw [if_neg hopen] at h
  by_cases hsource : inputs.sourceId = 0
  · rw [if_pos hsource] at h
    cases h
    exact .inl ⟨rfl, rfl⟩
  rw [if_neg hsource] at h
  by_cases hlength : inputs.stageLength = 0 ∨ 256 < inputs.stageLength
  · rw [if_pos hlength] at h
    cases h
    exact .inl ⟨rfl, rfl⟩
  rw [if_neg hlength] at h
  rw [not_or, UInt16.not_lt] at hlength
  cases hfind : openSource inputs.sourceId p.sources with
  | none =>
    rw [hfind] at h
    cases h
    exact .inl ⟨rfl, rfl⟩
  | some found =>
    obtain ⟨index, sources⟩ := found
    rw [hfind] at h
    refine .inr ⟨by simpa using hopen, hsource, hlength.1, hlength.2, index, sources, rfl, ?_⟩
    dsimp only at h
    by_cases hseq : inputs.stageSeq ≠ nextSeq index { p with sources := sources }
    · rw [if_pos hseq] at h
      cases h
      exact .inl ⟨hseq, rfl, rfl⟩
    rw [if_neg hseq] at h
    rw [not_not] at hseq
    refine .inr ⟨hseq, ?_⟩
    change inputs.stageSeq = (sources.get index).nextSeq at hseq
    simp only [publish, advance, Store.appendOk_publish, hseq] at h
    unfold Core.countAfter
    by_cases htakes : p.store.takes inputs.stageLength = true
    · rw [if_pos htakes] at h
      cases h
      rw [if_pos (show p.core.store.takes inputs.stageLength = true from htakes)]
      rfl
    · rw [if_neg htakes] at h
      cases h
      rw [if_neg (show ¬p.core.store.takes inputs.stageLength = true from htakes)]
      rfl

/-- The record of a data operation. -/
lemma core_emit {emission : Emission} (h : p.emit inputs emission = some p') :
    openSource emission.sourceId p.sources = none ∧ p'.error = true ∧
        p'.core = { p.core with
          memory := { p.memory with
            counters := emission.sourceTableFull p.memory.counters } } ∨
      ∃ index sources encoded,
        openSource emission.sourceId p.sources = some (index, sources) ∧
        emission.encode ⟨p.nextSourceTime inputs, p.runId, (sources.get index).nextSeq,
          emission.sourceId⟩ = some encoded ∧
        p'.error = (p.error || !p.store.takes encoded.length) ∧
        p'.core = { p.core with sources := sources }.emit inputs emission index
          (p.nextSourceTime inputs) encoded := by
  unfold emit at h
  cases hfind : openSource emission.sourceId p.sources with
  | none =>
    rw [hfind] at h
    cases h
    exact .inl ⟨rfl, rfl, rfl⟩
  | some found =>
    obtain ⟨index, sources⟩ := found
    rw [hfind] at h
    obtain ⟨encoded, hencoded, h⟩ := Option.bind_eq_some_iff.mp h
    refine .inr ⟨index, sources, encoded, rfl, hencoded, ?_⟩
    simp only [publish, tick, Store.appendOk_publish] at h
    unfold Core.emit
    by_cases htakes : p.store.takes encoded.length = true
    · rw [if_pos htakes] at h
      cases h
      rw [if_pos (show p.core.store.takes encoded.length = true from htakes), htakes, Bool.not_true,
        Bool.or_false]
      by_cases hattestable : emission.attestable = true
      · simp only [if_pos hattestable]
        exact ⟨rfl, rfl⟩
      · simp only [if_neg hattestable]
        exact ⟨rfl, rfl⟩
    · rw [if_neg htakes] at h
      cases h
      rw [if_neg (show ¬p.core.store.takes encoded.length = true from htakes)]
      simp only [Bool.not_eq_true] at htakes
      rw [htakes]
      exact ⟨(Bool.or_true _).symm, rfl⟩

/-- The decision of a data operation. -/
def prepared (arith : RealArith) (inputs : Inputs) (p : Producer) : Prepared :=
  prepare arith inputs (p.nextSourceTime inputs) p.attestableEvents p.memory

/-- A data operation. -/
lemma core_dataOp (h : p.dataOp arith inputs = some p') :
    (p.prepared arith inputs).plan = .refuse ∧ p'.error = true ∧
        p'.core = { p.core with memory := (p.prepared arith inputs).memory } ∨
      (p.prepared arith inputs).plan = .finish ∧ p'.error = p.error ∧
        p'.core = { p.core with memory := (p.prepared arith inputs).memory } ∨
      ∃ emission, (p.prepared arith inputs).plan = .emit emission ∧
        emit inputs emission { p with memory := (p.prepared arith inputs).memory } = some p' := by
  unfold dataOp at h
  unfold prepared
  dsimp only at h
  split at h
  · rename_i hplan
    cases h
    exact .inl ⟨hplan, rfl, rfl⟩
  · rename_i hplan
    cases h
    exact .inr (.inl ⟨hplan, rfl, rfl⟩)
  · rename_i emission hplan
    exact .inr (.inr ⟨emission, hplan, h⟩)

/-- A data operation that is refused. -/
lemma dataOp_refuse (h : (p.prepared arith inputs).plan = .refuse) : p.dataOp arith inputs =
    some (fail { p with memory := (p.prepared arith inputs).memory }) := by
  unfold prepared at h ⊢
  unfold dataOp
  dsimp only
  rw [h]

/-- A data operation that has nothing to emit. -/
lemma dataOp_finish (h : (p.prepared arith inputs).plan = .finish) : p.dataOp arith inputs =
    some (finish { p with memory := (p.prepared arith inputs).memory }) := by
  unfold prepared at h ⊢
  unfold dataOp
  dsimp only
  rw [h]

/-- A data operation that emits a record. -/
lemma dataOp_emit {emission : Emission} (h : (p.prepared arith inputs).plan = .emit emission) :
    p.dataOp arith inputs =
      emit inputs emission { p with memory := (p.prepared arith inputs).memory } := by
  unfold prepared at h ⊢
  unfold dataOp
  dsimp only
  rw [h]

/-- A record of the system source. -/
lemma core_emitSystem {eventTypeId : UInt32} {encode : UInt64 → UInt64 → Option Encoded}
    (h : p.emitSystem inputs eventTypeId encode = some p') :
    ∃ encoded, encode p.systemSeq (p.nextSourceTime inputs) = some encoded ∧
      p'.core = p.core.system inputs eventTypeId encoded ∧
      p'.error = (p.error || !p.store.takes encoded.length) := by
  unfold emitSystem at h
  obtain ⟨encoded, hencoded, h⟩ := Option.bind_eq_some_iff.mp h
  refine ⟨encoded, hencoded, ?_⟩
  simp only [publish, tick, Store.appendOk_publish] at h
  by_cases htakes : p.store.takes encoded.length = true
  · rw [if_pos htakes] at h
    cases h
    rw [htakes]
    exact ⟨rfl, (Bool.or_false _).symm⟩
  · rw [if_neg htakes] at h
    cases h
    simp only [Bool.not_eq_true] at htakes
    rw [htakes]
    exact ⟨rfl, (Bool.or_true _).symm⟩

/-- **The rule of the loop of operation 1.** `P` holds whenever the loop looks for the next source,
and `Q` when it ends, either because there is none or because a record could not be published. -/
lemma highWaterLoop_rule {P : Option UInt32 → Producer → Prop} {Q : Producer → Prop}
    (hnone : ∀ last p, P last p → selectNext last p.sources = none → Q p)
    (herror : ∀ last p index p', P last p → selectNext last p.sources = some index →
      p.highWater inputs index = some p' → p'.error = true → Q p')
    (hnext : ∀ last p index p', P last p → selectNext last p.sources = some index →
      p.highWater inputs index = some p' → p'.error = false →
        P (some (p.sources.get index).sourceId) p')
    {fuel : ℕ} {last : Option UInt32} (hp : P last p)
    (h : p.highWaterLoop inputs fuel last = some p') : Q p' := by
  induction fuel generalizing last p with
  | zero => cases h
  | succ fuel ih =>
    unfold highWaterLoop at h
    cases hselect : selectNext last p.sources with
    | none =>
      rw [hselect] at h
      cases h
      exact hnone last _ hp hselect
    | some index =>
      rw [hselect] at h
      obtain ⟨next, hhigh, h⟩ := Option.bind_eq_some_iff.mp h
      by_cases hfail : next.error = true
      · rw [if_pos hfail] at h
        cases h
        exact herror last p index _ hp hselect hhigh hfail
      · rw [if_neg hfail] at h
        rw [Bool.not_eq_true] at hfail
        exact ih (hnext last p index next hp hselect hhigh hfail) h

/-- What every high-water record keeps holds when the loop ends. -/
lemma highWaterLoop_keeps {P : Producer → Prop}
    (hkeep : ∀ p index p', P p → p.highWater inputs index = some p' → P p') {fuel : ℕ}
    {last : Option UInt32} (hp : P p) (h : p.highWaterLoop inputs fuel last = some p') : P p' :=
  highWaterLoop_rule (P := fun _ => P) (fun _ _ hp _ => hp)
    (fun _ p index p' hp _ hhigh _ => hkeep p index p' hp hhigh)
    (fun _ p index p' hp _ hhigh _ => hkeep p index p' hp hhigh) hp h

/-- Operation 1. -/
lemma core_beginTransition (h : p.beginTransition inputs = some p') :
    p.pending.isOpen = true ∧ p'.core = p.core ∧ p'.error = true ∨
      p.pending.isOpen = false ∧ ∃ q r,
        p.emitSystem inputs 0x0102 (encodeLoggerStopped p.runId) = some q ∧
        (q.error = true ∧ r = q ∨ q.error = false ∧ q.highWaterLoop inputs 17 none = some r) ∧
        p'.error = r.error ∧ p'.core = if r.error then r.core else { r.core with
          pending := ⟨inputs.defHashOld, inputs.defHashNew, inputs.transitionEpochId, true,
            false⟩ } := by
  unfold beginTransition at h
  by_cases hopen : p.pending.isOpen = true
  · rw [if_pos hopen] at h
    cases h
    exact .inl ⟨hopen, rfl, rfl⟩
  rw [if_neg hopen] at h
  obtain ⟨q, hq, h⟩ := Option.bind_eq_some_iff.mp h
  refine .inr ⟨by simpa using hopen, q, ?_⟩
  dsimp only at h
  by_cases herror : q.error = true
  · rw [if_pos herror, Option.bind_eq_bind, Option.bind_some, if_pos herror] at h
    cases h
    exact ⟨p', hq, .inl ⟨herror, rfl⟩, rfl, (if_pos herror).symm⟩
  · rw [if_neg herror] at h
    obtain ⟨r, hr, h⟩ := Option.bind_eq_some_iff.mp h
    refine ⟨r, hq, .inr ⟨by simpa using herror, hr⟩, ?_⟩
    split_ifs at h ⊢ <;> cases h <;> exact ⟨rfl, rfl⟩

/-- Operation 2. -/
lemma core_changeDefinition (h : p.changeDefinition inputs = some p') :
    (p.pending.isOpen = false ∨ p.pending.defChangedEmitted = true) ∧ p'.core = p.core ∧
        p'.error = true ∨
      p.pending.isOpen = true ∧ p.pending.defChangedEmitted = false ∧ ∃ q,
        p.emitSystem inputs 0x0106 (fun seq sourceTime => encodeDefinitionChanged p.runId seq
          p.pending.defHashOld p.pending.defHashNew p.pending.epochId sourceTime) = some q ∧
        p'.error = q.error ∧ p'.core = if q.error then q.core else { q.core with
          pending := { q.pending with defChangedEmitted := true } } := by
  unfold changeDefinition at h
  by_cases hopen : (!p.pending.isOpen) = true
  · rw [if_pos hopen] at h
    cases h
    exact .inl ⟨.inl (by simpa using hopen), rfl, rfl⟩
  rw [if_neg hopen] at h
  by_cases hemitted : p.pending.defChangedEmitted = true
  · rw [if_pos hemitted] at h
    cases h
    exact .inl ⟨.inr hemitted, rfl, rfl⟩
  rw [if_neg hemitted] at h
  obtain ⟨q, hq, h⟩ := Option.bind_eq_some_iff.mp h
  refine .inr ⟨by simpa using hopen, by simpa using hemitted, q, hq, ?_⟩
  split_ifs at h ⊢ <;> cases h <;> exact ⟨rfl, rfl⟩

/-- Operation 3. -/
lemma core_finishWarm (h : p.finishWarm inputs = some p') :
    (p.pending.isOpen = false ∨ p.pending.defChangedEmitted = false) ∧ p'.core = p.core ∧
        p'.error = true ∨
      p.pending.isOpen = true ∧ p.pending.defChangedEmitted = true ∧ ∃ q,
        emitSystem inputs 0x0101 (fun seq => encodeLoggerStarted p.runId seq false)
          { p with epochId := p.pending.epochId } = some q ∧
        p'.error = q.error ∧ p'.core = if q.error then q.core else { q.started.core with
          attestableEvents := .blank } := by
  unfold finishWarm at h
  by_cases hopen : (!p.pending.isOpen) = true
  · rw [if_pos hopen] at h
    cases h
    exact .inl ⟨.inl (by simpa using hopen), rfl, rfl⟩
  rw [if_neg hopen] at h
  by_cases hemitted : (!p.pending.defChangedEmitted) = true
  · rw [if_pos hemitted] at h
    cases h
    exact .inl ⟨.inr (by simpa using hemitted), rfl, rfl⟩
  rw [if_neg hemitted] at h
  obtain ⟨q, hq, h⟩ := Option.bind_eq_some_iff.mp h
  refine .inr ⟨by simpa using hopen, by simpa using hemitted, q, hq, ?_⟩
  split_ifs at h ⊢ <;> cases h <;> exact ⟨rfl, rfl⟩

/-- What operation 4 changes before it emits its record. -/
def coldStarted (p : Producer) : Producer :=
  { p with
    runId := p.runId + 1
    epochId := p.pending.epochId
    systemSeq := 0
    sources := noSources
    attestableEvents := .blank }

/-- Operation 4. -/
lemma core_finishCold (h : p.finishCold inputs = some p') :
    (p.pending.isOpen = false ∨ p.pending.defChangedEmitted = false) ∧ p'.core = p.core ∧
        p'.error = true ∨
      p.pending.isOpen = true ∧ p.pending.defChangedEmitted = true ∧ ∃ q,
        p.coldStarted.emitSystem inputs 0x0101
          (fun seq => encodeLoggerStarted (p.runId + 1) seq true) = some q ∧
        p'.error = q.error ∧ p'.core = if q.error then q.core else q.started.core := by
  unfold finishCold at h
  by_cases hopen : (!p.pending.isOpen) = true
  · rw [if_pos hopen] at h
    cases h
    exact .inl ⟨.inl (by simpa using hopen), rfl, rfl⟩
  rw [if_neg hopen] at h
  by_cases hemitted : (!p.pending.defChangedEmitted) = true
  · rw [if_pos hemitted] at h
    cases h
    exact .inl ⟨.inr (by simpa using hemitted), rfl, rfl⟩
  rw [if_neg hemitted] at h
  obtain ⟨q, hq, h⟩ := Option.bind_eq_some_iff.mp h
  refine .inr ⟨by simpa using hopen, by simpa using hemitted, q, hq, ?_⟩
  split_ifs at h ⊢ <;> cases h <;> exact ⟨rfl, rfl⟩

/-! ## Calls -/

/-- The operation that a call runs. -/
inductive Operated (arith : RealArith) (inputs : Inputs) (p p' : Producer) : Prop
  | checkpoint (hcheckpoint : inputs.checkpoint = true) (h : p.checkpoint inputs = some p')
  | message (hcheckpoint : inputs.checkpoint = false) (hop : inputs.op = 0)
      (h : p.message inputs = some p')
  | stage (hcheckpoint : inputs.checkpoint = false) (hop : inputs.op = 5)
      (h : p.stage inputs = some p')
  | dataOp (hcheckpoint : inputs.checkpoint = false) (hop : isDataOp inputs.op = true)
      (h : p.dataOp arith inputs = some p')
  | beginTransition (hcheckpoint : inputs.checkpoint = false) (hop : inputs.op = 1)
      (h : p.beginTransition inputs = some p')
  | changeDefinition (hcheckpoint : inputs.checkpoint = false) (hop : inputs.op = 2)
      (h : p.changeDefinition inputs = some p')
  | finishWarm (hcheckpoint : inputs.checkpoint = false) (hop : inputs.op = 3)
      (h : p.finishWarm inputs = some p')
  | finishCold (hcheckpoint : inputs.checkpoint = false) (hop : inputs.op = 4)
      (h : p.finishCold inputs = some p')
  | unknown (hcheckpoint : inputs.checkpoint = false) (hop : 16 < inputs.op) (h : p' = p.fail)

/-- An edge of `Execute` runs one operation. -/
lemma operated_of_operate (h : p.operate arith inputs = some p') : Operated arith inputs p p' := by
  unfold operate at h
  by_cases hcheckpoint : inputs.checkpoint = true
  · rw [if_pos hcheckpoint] at h
    exact .checkpoint hcheckpoint h
  rw [if_neg hcheckpoint] at h
  rw [Bool.not_eq_true] at hcheckpoint
  by_cases h0 : inputs.op = 0
  · rw [if_pos h0] at h
    exact .message hcheckpoint h0 h
  rw [if_neg h0] at h
  by_cases h5 : inputs.op = 5
  · rw [if_pos h5] at h
    exact .stage hcheckpoint h5 h
  rw [if_neg h5] at h
  by_cases hdata : isDataOp inputs.op = true
  · rw [if_pos hdata] at h
    exact .dataOp hcheckpoint hdata h
  rw [if_neg hdata] at h
  by_cases h1 : inputs.op = 1
  · rw [if_pos h1] at h
    exact .beginTransition hcheckpoint h1 h
  rw [if_neg h1] at h
  by_cases h2 : inputs.op = 2
  · rw [if_pos h2] at h
    exact .changeDefinition hcheckpoint h2 h
  rw [if_neg h2] at h
  by_cases h3 : inputs.op = 3
  · rw [if_pos h3] at h
    exact .finishWarm hcheckpoint h3 h
  rw [if_neg h3] at h
  by_cases h4 : inputs.op = 4
  · rw [if_pos h4] at h
    exact .finishCold hcheckpoint h4 h
  rw [if_neg h4] at h
  refine .unknown hcheckpoint ?_ (Option.some.inj h).symm
  simp only [isDataOp, decide_eq_true_eq, UInt16.le_iff_toNat_le] at hdata
  simp only [← UInt16.toNat_inj] at h0 h1 h2 h3 h4 h5
  rw [UInt16.lt_iff_toNat_lt]
  simp at hdata h0 h1 h2 h3 h4 h5 ⊢
  omega

/-- **A call runs one operation**, after the outputs have been cleared; a call that is no edge of
`Execute` runs none. -/
lemma call_cases (h : p.call arith inputs = some p') :
    ∃ q, p' = leave inputs (p.edge inputs) q ∧
      (p.edge inputs = false ∧ q = p.enter inputs ∨
        p.edge inputs = true ∧ Operated arith inputs (p.enter inputs) q) := by
  unfold call at h
  obtain ⟨q, hq, rfl⟩ := Option.map_eq_some_iff.mp h
  refine ⟨q, rfl, ?_⟩
  by_cases hedge : p.edge inputs = true
  · rw [if_pos hedge] at hq
    exact .inr ⟨hedge, operated_of_operate hq⟩
  · rw [if_neg hedge] at hq
    exact .inl ⟨by simpa using hedge, (Option.some.inj hq).symm⟩

/-- An edge of `Execute` runs an operation. -/
lemma operated_of_call (hedge : p.edge inputs = true) (h : p.call arith inputs = some p') :
    ∃ q, p' = leave inputs (p.edge inputs) q ∧ Operated arith inputs (p.enter inputs) q := by
  obtain ⟨q, hleave, ⟨hnot, -⟩ | ⟨-, hoperated⟩⟩ := call_cases h
  · rw [hedge] at hnot
    cases hnot
  · exact ⟨q, hleave, hoperated⟩

/-- An edge of `Execute` with one of the operations 6 to 16. -/
lemma call_dataOp (hedge : p.edge inputs = true) (hcheckpoint : inputs.checkpoint = false)
    (hop : isDataOp inputs.op = true) : p.call arith inputs =
      ((p.enter inputs).dataOp arith inputs).map (leave inputs true) := by
  have hnot : inputs.op ≠ 0 ∧ inputs.op ≠ 5 := by
    constructor <;> intro heq <;> rw [heq] at hop <;> exact absurd hop (by decide)
  unfold call
  rw [hedge, if_pos rfl, operate, if_neg (by simp [hcheckpoint]), if_neg hnot.1, if_neg hnot.2,
    if_pos hop]

/-- The start of a call resets the scan list or leaves the core as it is. -/
lemma core_enter : (p.enter inputs).core =
    if p.resets inputs then { p.core with store := p.store.reset } else p.core := by
  unfold enter core
  dsimp only
  split_ifs <;> rfl

@[simp] lemma published_enter : (p.enter inputs).store.published = p.store.published := by
  unfold enter
  dsimp only
  split_ifs <;> rfl

@[simp] lemma core_leave (edge : Bool) : (leave inputs edge p).core = p.core := rfl

/-! ## Runs -/

/-- The calls as the steps of a transition system. -/
def step (arith : RealArith) (p : Producer) (inputs : Inputs) : Option Producer :=
  p.call arith inputs

/-- The states that calls with any inputs reach. -/
def Reachable (arith : RealArith) (p : Producer) : Prop :=
  Runs (step arith) (fun _ _ => True) init p

/-- What every call keeps holds in every state reached. -/
lemma Reachable.invariant {P : Producer → Prop} (h : Reachable arith p) (hinit : P init)
    (hkeep : ∀ p inputs p', P p → p.call arith inputs = some p' → P p') : P p :=
  Runs.invariant h hinit fun p inputs p' hp _ hstep => hkeep p inputs p' hp hstep

end Producer

/-! ## Schedules -/

/-- A call with an edge of `Execute` and the one that takes `Execute` back. -/
def pulse (inputs : Inputs) : List Inputs := [{ inputs with execute := true }, {}]

/-- An arithmetic for runs without `REAL` values. -/
def noReals : RealArith := ⟨fun a _ => a, fun a _ => a, fun _ _ => false, fun a b => a != b⟩

end OpenOT.St
