import OpenOT.Lib.History
import OpenOT.Lib.KeyedTable
import OpenOT.St.Decoding
import OpenOT.St.Feeding
import Mathlib.Data.Fintype.EquivFin

set_option relaxedAutoImplicit false
set_option autoImplicit false

/-!
# Signatures attest published records

The table of attestable events has at most one entry for each id, and the entry is the last record
that an attestable operation has published under the id, in the current run and with no
`LoggerStarted` record behind it. So operation 16 signs this record, or nothing.

## Main definitions

* `OpenOT.St.Inputs.attests` — the calls that record an event under an id.
* `OpenOT.St.Attested` — what a signature of an id refers to.
* `OpenOT.St.Recorded` — the table of attestable events holds the latest records.

## Main results

* `OpenOT.St.Recorded.attest`, `OpenOT.St.Recorded.append` — how the table follows what is
  published.
* `OpenOT.St.signatures_attest` — the signatures of all runs.

## Design

A `LoggerStarted` record is a record of the system source, for which the source id 0 is reserved;
records staged by operation 5 never have it.
-/

namespace OpenOT.St

open Rust History Transition

/-! ## What a signature refers to -/

/-- The operations that record their event under `AttestableId`. -/
def attestableOps : List UInt16 := [0, 6, 7, 8, 10, 11, 13, 14, 15]

/-- Whether a call records its event under an id. -/
def Inputs.attests (id : UInt32) (inputs : Inputs) : Bool :=
  !inputs.checkpoint && attestableOps.contains inputs.op && inputs.attestableId == id

/-- A `LoggerStarted` record. -/
def Published.isLoggerStarted (entry : Published) : Bool :=
  entry.sourceId == SYSTEM_SOURCE_ID && entry.eventTypeId == EVENT_LOGGER_STARTED

/-- A record of another event is no `LoggerStarted` record. -/
lemma Published.isLoggerStarted_eq_false {entry : Published} {eventTypeId : UInt32}
    (hevent : entry.eventTypeId = eventTypeId) (hne : eventTypeId ≠ EVENT_LOGGER_STARTED) :
    entry.isLoggerStarted = false := by
  simp [isLoggerStarted, hevent, hne]

/-- Nothing that a signature of an id would have to take into account. -/
def Published.quiet (id : UInt32) (entry : Published) : Prop :=
  entry.inputs.attests id = false ∧ entry.isLoggerStarted = false

/-- The last record published under an id by an attestable operation is of the given source, run and
number, and no `LoggerStarted` record stands behind it. -/
def Attested (id sourceId : UInt32) (runId seq : UInt64) (published : List Published) : Prop :=
  Latest (fun entry => entry.inputs.attests id = true ∧ entry.runId = runId ∧
    entry.sourceId = sourceId ∧ entry.seq = seq) (Published.quiet id) published

/-- The table of attestable events holds the latest records of the current run. -/
structure Recorded (runId : UInt64) (published : List Published) (events : AttestableEventLog) :
    Prop where
  attested : ∀ i, (events.get i).used = true → Attested (events.get i).attestableId
    (events.get i).sourceId runId (events.get i).lastSeq published
  range : ∀ i, (events.get i).used = true →
    0 < (events.get i).attestableId ∧ (events.get i).attestableId ≤ 32
  distinct : ∀ i j, (events.get i).used = true → (events.get j).used = true →
    (events.get i).attestableId = (events.get j).attestableId → i = j

/-! ## The table -/

section

variable {runId seq : UInt64} {published : List Published} {events : AttestableEventLog}
  {id sourceId : UInt32} {entry : Published} {i index : Fin 32}

/-- No entry of an empty table is used. -/
lemma used_blank (i : Fin 32) : (AttestableEventLog.blank.get i).used = false := by
  revert i
  decide

/-- The empty table. -/
lemma Recorded.blank : Recorded runId published .blank where
  attested i hused := absurd hused (by simp [used_blank])
  range i hused := absurd hused (by simp [used_blank])
  distinct i _ hused := absurd hused (by simp [used_blank])

/-- Quiet records do not change what the table holds. -/
lemma Recorded.append {new : List Published} (h : Recorded runId published events)
    (hquiet : ∀ entry ∈ new, ∀ id, entry.quiet id) : Recorded runId (published ++ new) events where
  attested i hused := (h.attested i hused).append fun entry hentry => hquiet entry hentry _
  range := h.range
  distinct := h.distinct

/-- There is an entry for every id: the one that has it, or one that is free. -/
lemma Recorded.exists_entry (h : Recorded runId published events) (hid : 0 < id ∧ id ≤ 32) :
    ∃ index, (findEntry events fun event => event.used && event.attestableId == id).or
      (findEntry events fun event => !event.used) = some index := by
  cases hfind : findEntry events fun event => event.used && event.attestableId == id with
  | some index => exact ⟨index, rfl⟩
  | none =>
    cases hfree : findEntry events fun event => !event.used with
    | some index => exact ⟨index, rfl⟩
    | none =>
      -- all 32 entries would be used, with different ids among the other 31
      exfalso
      rw [findEntry_eq_none] at hfind hfree
      have hused : ∀ i, (events.get i).used = true := fun i => by simpa using hfree i
      have hrange : ∀ i, (events.get i).attestableId.toNat - 1 < 32 := fun i => by
        obtain ⟨hpos, hle⟩ := h.range i (hused i)
        rw [UInt32.lt_iff_toNat_lt] at hpos
        rw [UInt32.le_iff_toNat_le] at hle
        simp at hpos hle
        omega
      have hinjective : Function.Injective fun i =>
          (⟨(events.get i).attestableId.toNat - 1, hrange i⟩ : Fin 32) := by
        intro i j heq
        refine h.distinct i j (hused i) (hused j) (UInt32.toNat_inj.mp ?_)
        have hval := congrArg Fin.val heq
        obtain ⟨hposi, -⟩ := h.range i (hused i)
        obtain ⟨hposj, -⟩ := h.range j (hused j)
        rw [UInt32.lt_iff_toNat_lt] at hposi hposj
        simp at hposi hposj hval
        omega
      have hid' : id.toNat - 1 < 32 := by
        obtain ⟨hpos, hle⟩ := hid
        rw [UInt32.lt_iff_toNat_lt] at hpos
        rw [UInt32.le_iff_toNat_le] at hle
        simp at hpos hle
        omega
      obtain ⟨i, hi⟩ := (Finite.injective_iff_surjective.mp hinjective) ⟨id.toNat - 1, hid'⟩
      have hval := congrArg Fin.val hi
      have hsame : (events.get i).attestableId = id := by
        refine UInt32.toNat_inj.mp ?_
        obtain ⟨hposi, -⟩ := h.range i (hused i)
        have hpos := hid.1
        rw [UInt32.lt_iff_toNat_lt] at hposi hpos
        simp at hposi hpos hval
        omega
      have hnot := hfind i
      simp [hused i, hsame] at hnot

/-- **A record published under an id** becomes the entry of the id. -/
lemma Recorded.attest (h : Recorded runId published events)
    (hattests : ∀ id', entry.inputs.attests id' = (entry.inputs.attestableId == id'))
    (hrun : entry.runId = runId) (hstarted : entry.isLoggerStarted = false) :
    Recorded runId (published ++ [entry])
      (recordAttestableSeq entry.inputs.attestableId entry.sourceId entry.seq events) := by
  set id := entry.inputs.attestableId with hid
  have hquiet : ∀ id', id ≠ id' → entry.quiet id' := fun id' hne =>
    ⟨by rw [hattests, beq_eq_false_iff_ne]; exact hne, hstarted⟩
  unfold recordAttestableSeq
  by_cases hrange : 0 < id ∧ id ≤ 32
  swap
  · rw [if_neg hrange]
    refine ⟨fun i hused => (h.attested i hused).concat (hquiet _ fun heq => ?_), h.range,
      h.distinct⟩
    rw [heq] at hrange
    exact hrange (h.range i hused)
  rw [if_pos hrange]
  obtain ⟨index, hindex⟩ := h.exists_entry hrange
  rw [hindex]
  dsimp only
  -- an entry with the id is the one that is written
  have hother : ∀ i, i ≠ index → (events.get i).used = true →
      (events.get i).attestableId ≠ id := by
    intro i hne hused hsame
    cases hfind : findEntry events fun event => event.used && event.attestableId == id with
    | some found =>
      have hentry := findEntry_some hfind
      rw [Bool.and_eq_true] at hentry
      rw [hfind, Option.some_or, Option.some.injEq] at hindex
      exact hne (hindex ▸ h.distinct i found hused hentry.1 (hsame.trans (eq_of_beq hentry.2).symm))
    | none =>
      have hnot := findEntry_eq_none.mp hfind i
      simp [hused, hsame] at hnot
  refine ⟨fun i hused => ?_, fun i hused => ?_, fun i j hused hused' hsame => ?_⟩
  · rw [KeyedTable.get_set] at hused ⊢
    split_ifs at hused ⊢ with heq
    · exact Latest.here ⟨by rw [hattests]; exact beq_self_eq_true id, hrun, rfl, rfl⟩
    · exact (h.attested i hused).concat
        (hquiet _ fun heq' => hother i (fun h => heq h.symm) hused heq'.symm)
  · rw [KeyedTable.get_set] at hused ⊢
    split_ifs at hused ⊢ with heq
    · exact hrange
    · exact h.range i hused
  · rw [KeyedTable.get_set] at hused hused' hsame
    rw [KeyedTable.get_set] at hsame
    by_cases hi : index = i
    · by_cases hj : index = j
      · exact hi.symm.trans hj
      · rw [if_neg hj] at hused' hsame
        rw [if_pos hi] at hsame
        exact absurd hsame.symm (hother j (fun h => hj h.symm) hused')
    · rw [if_neg hi] at hused hsame
      by_cases hj : index = j
      · rw [if_pos hj] at hsame
        exact absurd hsame (hother i (fun h => hi h.symm) hused)
      · rw [if_neg hj] at hused' hsame
        exact h.distinct i j hused hused' hsame

end

/-! ## What the operations publish -/

/-- A signature that operation 16 has published signs the record that its id stands for. -/
def SignedBy (before : List Published) (entry : Published) : Prop :=
  entry.inputs.checkpoint = false → entry.inputs.op = 16 →
    entry.eventTypeId = EVENT_ESIGNATURE ∧ ∃ seq : UInt64,
      entry.field KEY_SIGNED_EVENT_SEQ = some seq.toNat ∧
      Attested entry.inputs.signatureAttestsId entry.sourceId entry.runId seq before

/-- The table and the signatures published so far. -/
structure Core.Signed (c : Core) : Prop where
  recorded : Recorded c.runId c.store.published c.attestableEvents
  signed : Each SignedBy c.store.published

namespace Core.Signed

variable {inputs : Inputs} {c c' : Core}

/-- Records that neither attest nor sign anything. -/
lemma feeds {meets : Published → Prop} (h : c.Signed) (hfeeds : Core.Feeds inputs meets c c')
    (hnot : inputs.checkpoint = true ∨ ¬attestableOps.contains inputs.op ∧ inputs.op ≠ 16)
    (hmeets : ∀ entry, meets entry → entry.isLoggerStarted = false) : c'.Signed := by
  obtain ⟨new, hnew, hall⟩ := hfeeds.store.published
  constructor
  · rw [hfeeds.runId, hnew, hfeeds.attestableEvents]
    refine h.recorded.append fun entry hentry id => ⟨?_, hmeets entry (hall entry hentry).1⟩
    rw [(hall entry hentry).2, Inputs.attests]
    rcases hnot with hcheckpoint | ⟨hop, -⟩
    · rw [hcheckpoint]
      rfl
    · rw [Bool.not_eq_true] at hop
      rw [hop, Bool.and_false, Bool.false_and]
  · rw [hnew]
    refine h.signed.append fun entry hentry before hcheckpoint hop => ?_
    rw [(hall entry hentry).2] at hcheckpoint hop
    rcases hnot with hnot | ⟨-, hnot⟩
    · rw [hnot] at hcheckpoint
      cases hcheckpoint
    · exact absurd hop hnot

end Core.Signed

/-- The number in a signature. -/
lemma slotValue_signature (actionId : UInt32) (actor : String96) (meaning : UInt16) (seq : UInt64)
    (hasAuthResult : Bool) (authResult : UInt16) :
    slotValue KEY_SIGNED_EVENT_SEQ (signatureSlots actionId actor meaning seq hasAuthResult
      authResult) = some seq.toNat := by
  simp [slotValue, signatureSlots, udintField, stringField, uintField, longField,
    KEY_SIGNED_EVENT_SEQ, KEY_ACTION_ID, KEY_ACTOR, KEY_SIGNATURE_MEANING, fromLe_toLe]

section

variable {inputs : Inputs} {events : AttestableEventLog} {memory : Memory} {emission : Emission}

/-- The emissions of the attestable operations are attestable. -/
lemma Emitted.attestable (h : Emitted inputs events memory emission)
    (hcheckpoint : inputs.checkpoint = false) (id : UInt32) :
    inputs.attests id = (emission.attestable && inputs.attestableId == id) := by
  unfold Inputs.attests
  rw [hcheckpoint, Bool.not_false, Bool.true_and]
  congr 1
  cases h <;> rw [‹inputs.op = _›] <;> rfl

/-- Operation 16 emits signatures. -/
lemma Emitted.signs (h : Emitted inputs events memory emission) (hop : inputs.op = 16) :
    emission.eventTypeId = EVENT_ESIGNATURE ∧ ∃ index slots,
      (events.get index).used = true ∧
      (events.get index).attestableId = inputs.signatureAttestsId ∧
      (events.get index).sourceId = inputs.activeSourceId ∧ emission.Writes slots ∧
      slotValue KEY_SIGNED_EVENT_SEQ slots = some (events.get index).lastSeq.toNat := by
  cases h with
  | @signature index _ hfound =>
    have hentry := findEntry_some hfound
    simp only [Bool.and_eq_true, beq_iff_eq] at hentry
    exact ⟨rfl, index, _, hentry.1.1.1, hentry.1.1.2, hentry.2,
      fun envelope => encodes_eSignature .., slotValue_signature ..⟩
  | _ =>
    -- the other forms belong to other operations
    exact absurd (‹inputs.op = _›.symm.trans hop) (by decide)

end

/-- A record that is or is not published, and is or is not recorded as an attestable event. -/
lemma Core.Signed.published {c c' : Core} (h : c.Signed) (entry : Published)
    (taken attestable : Bool) (hrun : c'.runId = c.runId)
    (hpublished : c'.store.published =
      if taken then c.store.published ++ [entry] else c.store.published)
    (hevents : c'.attestableEvents = if taken && attestable then
        recordAttestableSeq entry.inputs.attestableId entry.sourceId entry.seq c.attestableEvents
      else c.attestableEvents)
    (hentry : entry.runId = c.runId)
    (hattests : ∀ id, entry.inputs.attests id = (attestable && entry.inputs.attestableId == id))
    (hstarted : entry.isLoggerStarted = false) (hsigned : SignedBy c.store.published entry) :
    c'.Signed := by
  cases taken with
  | false =>
    constructor
    · rw [hrun, hpublished, hevents]
      exact h.recorded
    · rw [hpublished]
      exact h.signed
  | true =>
    refine ⟨?_, by rw [hpublished]; exact h.signed.concat hsigned⟩
    rw [hrun, hpublished, hevents]
    cases attestable with
    | true => exact h.recorded.attest hattests hentry hstarted
    | false =>
      refine h.recorded.append fun other hother id => ?_
      rw [List.mem_singleton.mp hother]
      exact ⟨hattests id, hstarted⟩

namespace Producer

variable {arith : RealArith} {inputs : Inputs} {p p' : Producer}

/-- Operation 0. -/
lemma signed_message (h : p.core.Signed) (hcheckpoint : inputs.checkpoint = false)
    (hop : inputs.op = 0) (hcall : p.message inputs = some p') : p'.core.Signed := by
  rcases core_message hcall with
    ⟨hcore, -⟩ | ⟨-, hsource, index, sources, encoded, -, -, hcore⟩
  · rw [hcore]
    exact h
  have hattests : ∀ id, inputs.attests id = (true && inputs.attestableId == id) := by
    intro id
    rw [Inputs.attests, hcheckpoint, hop]
    rfl
  refine h.published ⟨inputs, 0x0003, p.runId, inputs.sourceId, (sources.get index).nextSeq,
    encoded.buffer.take encoded.length.toNat⟩ (p.store.takes encoded.length) true ?_ ?_ ?_ rfl
    hattests ?_ ?_
  · rw [hcore]
    split_ifs <;> rfl
  · rw [hcore]
    refine Eq.trans ?_ Store.published_publish
    split_ifs <;> rfl
  · rw [hcore, Bool.and_true]
    split_ifs <;> rfl
  · exact Bool.and_eq_false_iff.mpr (.inl (beq_eq_false_iff_ne.mpr hsource))
  · intro _ hsign
    rw [show inputs.op = 16 from hsign] at hop
    cases hop

/-- The record of a data operation. -/
lemma signed_emit {memory : Memory} {emission : Emission} (h : p.core.Signed)
    (hcheckpoint : inputs.checkpoint = false)
    (hemitted : Emitted inputs p.attestableEvents memory emission)
    (hcall : p.emit inputs emission = some p') : p'.core.Signed := by
  rcases core_emit hcall with ⟨-, -, hcore⟩ | ⟨index, sources, encoded, -, hencoded, -, hcore⟩
  · rw [hcore]
    exact ⟨h.recorded, h.signed⟩
  have hsource : emission.sourceId ≠ SYSTEM_SOURCE_ID := by
    rw [hemitted.sourceId]
    exact activeSourceId_ne_zero inputs
  refine h.published ⟨inputs, emission.eventTypeId, p.runId, emission.sourceId,
    (sources.get index).nextSeq, encoded.buffer.take encoded.length.toNat⟩
    (p.store.takes encoded.length) emission.attestable ?_ ?_ ?_ rfl
    (hemitted.attestable hcheckpoint) ?_ ?_
  · rw [hcore, Core.runId_emit]
  · rw [hcore, Core.store_emit]
    exact Store.published_publish
  · rw [hcore, Core.attestableEvents_emit]
    rfl
  · exact Bool.and_eq_false_iff.mpr (.inl (beq_eq_false_iff_ne.mpr hsource))
  · intro _ hsign
    obtain ⟨htype, i, slots, hused, hid, hsource', hwrites, hvalue⟩ := hemitted.signs hsign
    refine ⟨htype, (p.attestableEvents.get i).lastSeq, ?_, ?_⟩
    · obtain ⟨hfits, -, -, hbytes⟩ := (hwrites _).of_some hencoded
      rw [length_record] at hfits
      exact (Published.field_eq hbytes hfits _).trans hvalue
    · have hattested := h.recorded.attested i hused
      rw [show (p.core.attestableEvents.get i).attestableId = inputs.signatureAttestsId from hid,
        show (p.core.attestableEvents.get i).sourceId = inputs.activeSourceId from hsource']
        at hattested
      change Attested inputs.signatureAttestsId emission.sourceId p.runId _ _
      rw [hemitted.sourceId]
      exact hattested

/-- A record of the logger that starts it: the table is emptied when it has been published. -/
lemma signed_started {c : Core} {runId : UInt64} {coldStart : Bool} {q : Producer}
    (h : p.core.Signed) (hop : ¬attestableOps.contains inputs.op ∧ inputs.op ≠ 16)
    (hq : p.emitSystem inputs 0x0101 (fun seq => encodeLoggerStarted runId seq coldStart) = some q)
    (herror : p.error = false) (hfail : q.error = true → c = q.core)
    (hdone : q.error = false → c.attestableEvents = .blank ∧
      c.store.published = q.store.published) : c.Signed := by
  obtain ⟨encoded, -, hcore, hqerror⟩ := core_emitSystem hq
  have hpublished : q.store.published = if p.store.takes encoded.length then
      p.store.published ++ [⟨inputs, 0x0101, p.runId, 0, p.systemSeq,
        encoded.buffer.take encoded.length.toNat⟩]
      else p.store.published :=
    (congrArg (fun c => c.store.published) hcore).trans Store.published_publish
  have hsigned : Each SignedBy q.store.published := by
    rw [hpublished]
    split_ifs
    · exact h.signed.concat fun _ hsign => absurd hsign hop.2
    · exact h.signed
  rw [herror, Bool.false_or] at hqerror
  cases hfailed : q.error with
  | true =>
    rw [hfail hfailed]
    have hnot : p.store.takes encoded.length = false := by
      rw [hfailed] at hqerror
      simpa using hqerror.symm
    rw [hnot, if_neg Bool.false_ne_true] at hpublished
    refine ⟨?_, hsigned⟩
    rw [show q.core.runId = p.runId from congrArg Core.runId hcore,
      show q.core.store.published = p.store.published from hpublished,
      show q.core.attestableEvents = p.attestableEvents from congrArg Core.attestableEvents hcore]
    exact h.recorded
  | false =>
    obtain ⟨hblank, hsame⟩ := hdone hfailed
    refine ⟨?_, by rw [hsame]; exact hsigned⟩
    rw [hblank]
    exact .blank

/-- **Every operation keeps the table and the signatures.** -/
lemma signed_of_operated (h : p.core.Signed) (herror : p.error = false)
    (hop : Operated arith inputs p p') : p'.core.Signed := by
  cases hop with
  | checkpoint hcheckpoint hcall =>
    exact h.feeds (feeds_checkpoint hcall) (.inl hcheckpoint) fun entry hentry =>
      Published.isLoggerStarted_eq_false hentry.1 (by decide)
  | message hcheckpoint hop hcall => exact signed_message h hcheckpoint hop hcall
  | stage hcheckpoint hop hcall =>
    refine h.feeds (feeds_stage hcall) (.inr (by rw [hop]; decide)) fun entry hentry => ?_
    simp [Published.isLoggerStarted, hentry.1, hentry.2]
  | dataOp hcheckpoint hop hcall =>
    rcases core_dataOp hcall with ⟨-, -, hcore⟩ | ⟨-, -, hcore⟩ | ⟨emission, hplan, hemit⟩
    · rw [hcore]
      exact ⟨h.recorded, h.signed⟩
    · rw [hcore]
      exact ⟨h.recorded, h.signed⟩
    · exact signed_emit (p := { p with memory := (p.prepared arith inputs).memory })
        ⟨h.recorded, h.signed⟩ hcheckpoint (emitted_of_prepare hop hplan) hemit
  | beginTransition hcheckpoint hop hcall =>
    obtain ⟨c, hfeeds, hcore⟩ := feeds_beginTransition hcall
    have hc : c.Signed := by
      refine h.feeds hfeeds (.inr (by rw [hop]; decide)) fun entry hentry => ?_
      rcases hentry with ⟨-, hevent, -⟩ | ⟨hevent, -⟩
      · exact Published.isLoggerStarted_eq_false hevent (by decide)
      · exact Published.isLoggerStarted_eq_false hevent (by decide)
    rcases hcore with hcore | hcore <;> rw [hcore]
    · exact hc
    · exact ⟨hc.recorded, hc.signed⟩
  | changeDefinition hcheckpoint hop hcall =>
    obtain ⟨c, hfeeds, hcore⟩ := feeds_changeDefinition hcall
    have hc : c.Signed := by
      exact h.feeds hfeeds (.inr (by rw [hop]; decide)) fun entry hentry =>
        Published.isLoggerStarted_eq_false hentry.2.1 (by decide)
    rcases hcore with hcore | hcore <;> rw [hcore]
    · exact hc
    · exact ⟨hc.recorded, hc.signed⟩
  | finishWarm hcheckpoint hop hcall =>
    rcases core_finishWarm hcall with ⟨-, hcore, -⟩ | ⟨-, -, q, hq, -, hcore⟩
    · rw [hcore]
      exact h
    · refine signed_started (p := { p with epochId := p.pending.epochId }) ⟨h.recorded, h.signed⟩
        (by rw [hop]; decide) hq herror (fun hfail => ?_) fun hdone => ?_
      · rw [hcore, if_pos hfail]
      · rw [hcore, if_neg (by rw [hdone]; decide)]
        exact ⟨rfl, rfl⟩
  | finishCold hcheckpoint hop hcall =>
    rcases core_finishCold hcall with ⟨-, hcore, -⟩ | ⟨-, -, q, hq, -, hcore⟩
    · rw [hcore]
      exact h
    · have hblank : q.attestableEvents = .blank := by
        obtain ⟨encoded, -, hq, -⟩ := core_emitSystem hq
        exact congrArg Core.attestableEvents hq
      refine signed_started (p := p.coldStarted) ⟨.blank, h.signed⟩
        (by rw [hop]; decide) hq herror (fun hfail => ?_) fun hdone => ?_
      · rw [hcore, if_pos hfail]
      · rw [hcore, if_neg (by rw [hdone]; decide)]
        exact ⟨hblank, rfl⟩
  | unknown _ _ hfail =>
    rw [hfail]
    exact h

/-- A call keeps the table and the signatures. -/
lemma signed_call (h : p.core.Signed) (hcall : p.call arith inputs = some p') :
    p'.core.Signed := by
  have henter : (p.enter inputs).core.Signed := by
    rw [core_enter]
    split_ifs
    · exact ⟨h.recorded, h.signed⟩
    · exact h
  obtain ⟨q, rfl, hq⟩ := call_cases hcall
  rw [core_leave]
  rcases hq with ⟨-, rfl⟩ | ⟨-, hop⟩
  · exact henter
  · exact signed_of_operated henter rfl hop

/-- Operation 16 without an event to sign is an error. -/
lemma prepareSignature_refuse {events : AttestableEventLog} {memory : Memory}
    (hnone : ∀ i, (events.get i).used = true →
      (events.get i).attestableId = inputs.signatureAttestsId →
        (events.get i).sourceId ≠ inputs.activeSourceId) :
    (prepareSignature events inputs memory).plan = .refuse := by
  have hfind : (findEntry events fun event => event.used &&
      event.attestableId == inputs.signatureAttestsId && event.hasSeq &&
      event.sourceId == inputs.activeSourceId) = none := by
    refine findEntry_eq_none.mpr fun i => ?_
    cases hused : (events.get i).used with
    | false => rfl
    | true =>
      simp only [Bool.true_and, Bool.and_eq_false_iff, beq_eq_false_iff_ne]
      by_cases hid : (events.get i).attestableId = inputs.signatureAttestsId
      · exact .inr (hnone i hused hid)
      · exact .inl (.inl hid)
  unfold prepareSignature
  by_cases hid : inputs.signatureAttestsId = 0 ∨ 32 < inputs.signatureAttestsId
  · rw [if_pos hid]
    rfl
  · rw [if_neg hid, hfind]
    rfl

end Producer

end OpenOT.St
