import OpenOT.Carriage.LossAccounts
import OpenOT.Carriage.RingRaw

set_option relaxedAutoImplicit false
set_option autoImplicit false

/-!
# Polling a ring while it is written

The two consumers of `consumer.rs` between the writes of a producer. A poll reads from the head
that the poll before it left, which may by now stand in front of a gap or below the oldest offset;
whatever the schedule, it finds the records written since then that the ring still retains.

## Main definitions

* `OpenOT.LossAccountingConsumer.poll` — the consumer that reads through the index.
* `OpenOT.Polling.batches` — the batches that the polls of a schedule return.
* `OpenOT.Polling.survivors` — the records retained at the first poll behind their write.

## Main results

* `OpenOT.Polling.batches_cases` — a consumer delivers the survivors, or cannot account for them.
* `OpenOT.polling_delivers_survivors` — when both consumers deliver exactly the survivors.

## Design

A consumer is its poll function, and its state is a cursor and what it keeps of the records it has
seen. Both consumers keep a loss tracker; a reader that only moves its cursor keeps nothing.
-/

namespace OpenOT

open Rust CircularLog

/-! ## The index consumer -/

/-- Reads through the in-memory index while accounting for loss. -/
structure LossAccountingConsumer where
  cursorAbs : ℕ
  tracker : LossTracker

namespace LossAccountingConsumer

/-- A consumer that tags its loss with `bufferId`. -/
def withBufferId (bufferId : UInt32) : LossAccountingConsumer := ⟨0, LossTracker.new bufferId⟩

/-- A consumer for the default buffer. -/
def new : LossAccountingConsumer := withBufferId DEFAULT_BUFFER_ID

/-- Accounts for a batch and moves the cursor behind it. The loop is that of the raw consumer. -/
def accountBatch (batch : ReadBatch) : Mut LossAccountingConsumer RingError Unit := do
  Mut.field (·.tracker) (fun tracker consumer => { consumer with tracker := tracker }) id
    (RawByteConsumer.accountRecords batch.records)
  Mut.modify fun consumer => { consumer with cursorAbs := batch.nextAbs }

/-- Reads the new records of a ring and accounts for them. -/
def poll (ring : RingBuffer) : Mut LossAccountingConsumer RingError ReadBatch := do
  let consumer ← Mut.get
  let batch ← Mut.lift (ring.readFrom consumer.cursorAbs)
  accountBatch batch
  pure batch

end LossAccountingConsumer

/-- A raw consumer that tags its loss with `bufferId`. -/
def RawByteConsumer.withBufferId (bufferId : UInt32) : RawByteConsumer :=
  ⟨0, LossTracker.new bufferId⟩

/-- A reader that only keeps its cursor: it resumes where the batch before ended. -/
def cursorPoll (read : RingBuffer → ℕ → Outcome RingError ReadBatch) (ring : RingBuffer) :
    Mut ℕ RingError ReadBatch := do
  let cursorAbs ← Mut.get
  let batch ← Mut.lift (read ring cursorAbs)
  Mut.modify fun _ => batch.nextAbs
  pure batch

namespace Polling

/-! ## Schedules -/

/-- A step of a schedule: the producer writes a record, or the consumer polls. -/
inductive Act where
  | write (record : Record)
  | poll

/-- The records that a schedule offers to the ring. -/
def offered (acts : List Act) : List Record :=
  acts.filterMap fun
    | .write record => some record
    | .poll => none

/-- The records that the ring accepts in a schedule, with their spans. -/
def written (acts : List Act) (ring : RingBuffer) : List ReadRecord :=
  (ring.writeAll (offered acts)).2

/-- What awaits a poll after another record is offered: a rejected record is not written. -/
def await (record : Record) (ring : RingBuffer) (pending : List ReadRecord) : List ReadRecord :=
  match (RingBuffer.writeRecord record ring).1 with
  | .ok (startAbs, endAbs) => pending ++ [⟨startAbs, endAbs, record⟩]
  | _ => pending

/-- The batches that the polls of a schedule return; a poll that fails ends the run. -/
def batches {σ : Type} (poll : RingBuffer → Mut σ RingError ReadBatch) :
    List Act → RingBuffer → σ → Outcome RingError (List ReadBatch)
  | [], _, _ => .ok []
  | .write record :: acts, ring, consumer =>
    batches poll acts (RingBuffer.writeRecord record ring).2 consumer
  | .poll :: acts, ring, consumer =>
    match poll ring consumer with
    | (.ok batch, consumer) => do pure (batch :: (← batches poll acts ring consumer))
    | (.err e, _) => .err e
    | (.panic, _) => .panic

/-- The polls of a schedule: the ring each of them finds, and what was written since the poll
before it. -/
def polls : List Act → RingBuffer → List ReadRecord → List (RingBuffer × List ReadRecord)
  | [], _, _ => []
  | .write record :: acts, ring, pending =>
    polls acts (RingBuffer.writeRecord record ring).2 (await record ring pending)
  | .poll :: acts, ring, pending => (ring, pending) :: polls acts ring []

/-- Of some records, those that the ring still retains. -/
def alive (ring : RingBuffer) (pending : List ReadRecord) : List ReadRecord :=
  pending.filter fun w => decide (w.indexEntry ∈ ring.index)

/-- The records that were still retained at the first poll after their write, as a reader sees
them. -/
def survivors (acts : List Act) (ring : RingBuffer) (pending : List ReadRecord) :
    List ReadRecord :=
  (polls acts ring pending).flatMap fun (ring, pending) =>
    (alive ring pending).map ReadRecord.delivered

/-- No record is evicted before it is polled. -/
def KeepsUp (acts : List Act) (ring : RingBuffer) (pending : List ReadRecord) : Prop :=
  ∀ p ∈ polls acts ring pending, ∀ w ∈ p.2, w.indexEntry ∈ p.1.index

/-- Every poll of a consumer succeeds, and they deliver the survivors. -/
def Delivers {σ : Type} (poll : RingBuffer → Mut σ RingError ReadBatch) (consumer : σ)
    (acts : List Act) (ring : RingBuffer) : Prop :=
  ∃ bs, batches poll acts ring consumer = .ok bs ∧
    bs.flatMap (·.records) = survivors acts ring []

/-! ## What a poll reads -/

section Reading

variable {read : RingBuffer → ℕ → Outcome RingError ReadBatch} {ring : RingBuffer}
  {old pending : List ReadRecord}

/-- A reader that from any position of the log returns the retained records ahead, and resumes at
the head. -/
def ReadsAhead (read : RingBuffer → ℕ → Outcome RingError ReadBatch) : Prop :=
  ∀ {ring : RingBuffer} {written : List ReadRecord} {cursor : ℕ} {rest : List (Entry UInt8)},
    ring.Represents written → At (logOf written) cursor rest →
      ∃ lapped, read ring cursor =
        .ok ⟨((retained ring.headAbs ring.capacity written).filter fun w =>
          decide (cursor ≤ w.startAbs)).map ReadRecord.delivered, ring.headAbs, lapped⟩

/-- Reading through the index. -/
lemma readsAhead_readFrom : ReadsAhead RingBuffer.readFrom := fun h _ => ⟨_, h.readFrom _⟩

/-- Walking the raw bytes. -/
lemma readsAhead_readRawFrom : ReadsAhead RingBuffer.readRawFrom := fun h hat =>
  ⟨_, h.readRawFrom hat⟩

/-- What is retained from the head of a part of the history on is what is alive of the rest. -/
lemma retained_ahead (h : ring.Represents (old ++ pending)) :
    (retained ring.headAbs ring.capacity (old ++ pending)).filter
        (fun w => decide (headOf (logOf old) ≤ w.startAbs)) = alive ring pending := by
  have hlaid := h.laid
  rw [logOf, List.map_append] at hlaid
  have hold : (retained ring.headAbs ring.capacity old).filter
      (fun w => decide (headOf (logOf old) ≤ w.startAbs)) = [] := by
    rw [List.filter_eq_nil_iff]
    intro w hw
    have := hlaid.of_append.start_lt_head (List.mem_map_of_mem (List.mem_filter.mp hw).1)
    rw [decide_eq_true_eq, Nat.not_le]
    exact this
  unfold retained at hold ⊢
  rw [List.filter_append, List.filter_append, hold, List.nil_append, List.filter_filter]
  apply List.filter_congr
  intro w hw
  have hahead := hlaid.head_le_of_mem (List.mem_map_of_mem hw)
  rw [← Bool.decide_and, decide_eq_decide, h.mem_index]
  constructor
  · rintro ⟨-, hge⟩
    exact ⟨w, List.mem_append_right _ hw, hge, rfl⟩
  · rintro ⟨v, -, hge, hv⟩
    have hstart : v.startAbs = w.startAbs := congrArg RecordIndex.startAbs hv
    exact ⟨hahead, hstart ▸ hge⟩

/-- From the head that the poll before left, a reader returns what is alive of the rest. -/
lemma ReadsAhead.alive (hread : ReadsAhead read) (h : ring.Represents (old ++ pending)) :
    ∃ lapped, read ring (headOf (logOf old)) =
      .ok ⟨(alive ring pending).map ReadRecord.delivered, ring.headAbs, lapped⟩ := by
  have hat : At (logOf (old ++ pending)) (headOf (logOf old)) (logOf pending) := by
    rw [logOf, List.map_append]
    exact At.headOf_append _ _
  obtain ⟨lapped, hbatch⟩ := hread h hat
  rw [retained_ahead h] at hbatch
  exact ⟨lapped, hbatch⟩

/-- Offering a record keeps what the ring represents. -/
lemma represents_await (h : ring.Represents (old ++ pending)) (record : Record) :
    (RingBuffer.writeRecord record ring).2.Represents (old ++ await record ring pending) := by
  unfold await
  rcases h.writeRecord record with ⟨ring', startAbs, endAbs, hwrite, -, -, -, -, -, -, hnext⟩ |
    ⟨-, e, hwrite⟩
  · rw [hwrite]
    rwa [List.append_assoc] at hnext
  · rw [hwrite]
    exact h

end Reading

/-! ## Runs -/

section Consuming

variable {σ τ : Type} {poll : RingBuffer → Mut σ RingError ReadBatch} {state : ℕ → τ → σ}
  {read : RingBuffer → ℕ → Outcome RingError ReadBatch}
  {account : List ReadRecord → Mut τ RingError Unit} {ring : RingBuffer}
  {old pending : List ReadRecord}

/-- A consumer whose state is a cursor and what it keeps of the records: a poll reads from the
cursor, accounts for what it read, one record after the other, and moves the cursor behind it. -/
structure Consumes (poll : RingBuffer → Mut σ RingError ReadBatch) (state : ℕ → τ → σ)
    (read : RingBuffer → ℕ → Outcome RingError ReadBatch)
    (account : List ReadRecord → Mut τ RingError Unit) : Prop where
  reads : ReadsAhead read
  nil : ∀ t, account [] t = (.ok (), t)
  append : ∀ before after t,
    account (before ++ after) t = (account before >>= fun _ => account after) t
  ok : ∀ {ring cursor batch t t'}, read ring cursor = .ok batch →
    account batch.records t = (.ok (), t') →
      poll ring (state cursor t) = (.ok batch, state batch.nextAbs t')
  panic : ∀ {ring cursor batch t}, read ring cursor = .ok batch →
    (account batch.records t).1 = .panic → (poll ring (state cursor t)).1 = .panic

/-- **One consumer under any schedule.** If it can account for the survivors, every poll succeeds
and they deliver the survivors; if that panics, so does a poll.

**Proof sketch.** Induction on the schedule. The cursor is the head of the part `old` of the
history that was there at the last poll, and what was written since awaits the next one. A poll
returns what is alive of it, and the cursor becomes the head of the whole history. -/
lemma Consumes.batches_cases (h : Consumes poll state read account) (acts : List Act)
    (hring : ring.Represents (old ++ pending)) (t : τ) :
    (∀ t', account (survivors acts ring pending) t = (.ok (), t') →
      ∃ bs, batches poll acts ring (state (headOf (logOf old)) t) = .ok bs ∧
        bs.flatMap (·.records) = survivors acts ring pending) ∧
    ((account (survivors acts ring pending) t).1 = .panic →
      batches poll acts ring (state (headOf (logOf old)) t) = .panic) := by
  induction acts generalizing ring old pending t with
  | nil => exact ⟨fun t' _ => ⟨[], rfl, rfl⟩, fun hpanic => by
      rw [show survivors [] ring pending = [] from rfl, h.nil] at hpanic
      cases hpanic⟩
  | cons act acts ih =>
    cases act with
    | write record => exact ih (represents_await hring record) t
    | poll =>
      obtain ⟨lapped, hread⟩ := ReadsAhead.alive h.reads hring
      have hsurvivors : survivors (.poll :: acts) ring pending =
          (alive ring pending).map ReadRecord.delivered ++ survivors acts ring [] := rfl
      rw [hsurvivors, h.append]
      rcases Mut.run_cases (account ((alive ring pending).map ReadRecord.delivered)) t with
        ⟨_, t₁, haccount⟩ | ⟨e, t₁, haccount⟩ | ⟨t₁, haccount⟩
      · have hpoll := h.ok hread haccount
        have hnext := hring
        rw [← List.append_nil (old ++ pending)] at hnext
        obtain ⟨hok, hpanic⟩ := ih hnext t₁
        rw [← hring.head] at hok hpanic
        rw [Mut.bind_of_ok haccount]
        simp only [batches, hpoll]
        refine ⟨fun t' ht' => ?_, fun hp => ?_⟩
        · obtain ⟨bs, hbs, hrecords⟩ := hok t' ht'
          rw [hbs]
          exact ⟨_, rfl, by rw [List.flatMap_cons, hrecords]⟩
        · rw [hpanic hp]
          rfl
      · rw [Mut.bind_of_err haccount]
        exact ⟨fun t' ht' => (by cases ht'), fun hp => (by cases hp)⟩
      · have hpoll := h.panic hread (by rw [haccount])
        rw [Mut.bind_of_panic haccount]
        refine ⟨fun t' ht' => (by cases ht'), fun _ => ?_⟩
        simp only [batches]
        split <;> simp_all

/-- A run whose accounting cannot fail but by a panic: it delivers the survivors exactly if they
can be accounted for. -/
lemma Consumes.delivers_iff (h : Consumes poll state read account) (acts : List Act)
    (hring : ring.Represents []) (t : τ) {P : Prop}
    (haccount : (∃ t', account (survivors acts ring []) t = (.ok (), t')) ∧ P ∨
      (account (survivors acts ring []) t).1 = .panic ∧ ¬P) :
    Delivers poll (state 0 t) acts ring ↔ P := by
  have hring' : ring.Represents ([] ++ []) := hring
  obtain ⟨hok, hpanic⟩ := h.batches_cases acts hring' t
  rw [show headOf (logOf []) = 0 from rfl] at hok hpanic
  rcases haccount with ⟨⟨t', hrun⟩, hP⟩ | ⟨hrun, hP⟩
  · exact iff_of_true (hok t' hrun) hP
  · refine iff_of_false ?_ hP
    rintro ⟨bs, hbs, -⟩
    rw [hpanic hrun] at hbs
    cases hbs

end Consuming

/-! ## The consumers -/

/-- Accounting for the records of some reads. -/
def accountReads (reads : List ReadRecord) : Mut LossTracker RingError Unit :=
  LossTracker.accountAll (reads.map (·.record))

/-- The loop of the consumers. -/
lemma accountRecords_eq_accountReads (reads : List ReadRecord) :
    RawByteConsumer.accountRecords reads = accountReads reads := by
  induction reads with
  | nil => rfl
  | cons read reads ih =>
    rw [RawByteConsumer.accountRecords, ih]
    rfl

/-- Accounting for some reads and then for some more. -/
lemma accountReads_append (before after : List ReadRecord) :
    accountReads (before ++ after) = accountReads before >>= fun _ => accountReads after := by
  induction before with
  | nil => rfl
  | cons read before ih =>
    have hcons : ∀ reads, accountReads (read :: reads) =
        LossTracker.account read.record >>= fun _ => accountReads reads := fun _ => rfl
    rw [List.cons_append, hcons, hcons, ih, Mut.bind_assoc]

/-- Accounting for some reads from the start. -/
lemma accountReads_cases (bufferId : UInt32) (reads : List ReadRecord) :
    (∃ tracker, accountReads reads (LossTracker.new bufferId) = (.ok (), tracker)) ∧
      InRange bufferId (reads.map (·.record)) ∨
    (accountReads reads (LossTracker.new bufferId)).1 = .panic ∧
      ¬InRange bufferId (reads.map (·.record)) := by
  rcases LossTracker.accountAll_cases (ε := RingError) bufferId (reads.map (·.record)) with
    ⟨tracker, hrun, haccounts⟩ | hpanic
  · exact Or.inl ⟨⟨tracker, hrun⟩, haccounts.inRange⟩
  · exact Or.inr hpanic

/-- The index consumer. -/
lemma lossAccountingConsumer_consumes :
    Consumes LossAccountingConsumer.poll LossAccountingConsumer.mk RingBuffer.readFrom
      accountReads where
  reads := readsAhead_readFrom
  nil _ := rfl
  append before after _ := congrFun (accountReads_append before after) _
  ok {ring cursor batch t t'} hread haccount := by
    have hbatch : LossAccountingConsumer.accountBatch batch ⟨cursor, t⟩ =
        (.ok (), ⟨batch.nextAbs, t'⟩) := by
      rw [← accountRecords_eq_accountReads] at haccount
      exact Mut.bind_of_ok (Mut.field_of_ok haccount)
    simp only [LossAccountingConsumer.poll, Mut.get_bind, hread, Mut.lift_ok_bind]
    exact Mut.bind_of_ok hbatch
  panic {ring cursor batch t} hread haccount := by
    have hbatch : ∃ consumer, LossAccountingConsumer.accountBatch batch ⟨cursor, t⟩ =
        (.panic, consumer) := by
      rw [← accountRecords_eq_accountReads] at haccount
      exact ⟨_, Mut.bind_of_panic (Mut.field_of_panic (Prod.ext haccount rfl))⟩
    obtain ⟨consumer, hbatch⟩ := hbatch
    simp only [LossAccountingConsumer.poll, Mut.get_bind, hread, Mut.lift_ok_bind]
    rw [Mut.bind_of_panic hbatch]

/-- The raw consumer. -/
lemma rawByteConsumer_consumes :
    Consumes RawByteConsumer.poll RawByteConsumer.mk RingBuffer.readRawFrom accountReads where
  reads := readsAhead_readRawFrom
  nil _ := rfl
  append before after _ := congrFun (accountReads_append before after) _
  ok {ring cursor batch t t'} hread haccount := by
    have hbatch : RawByteConsumer.accountBatch batch ⟨cursor, t⟩ =
        (.ok (), ⟨batch.nextAbs, t'⟩) := by
      rw [← accountRecords_eq_accountReads] at haccount
      exact Mut.bind_of_ok (Mut.field_of_ok haccount)
    simp only [RawByteConsumer.poll, Mut.get_bind, hread, Mut.lift_ok_bind]
    exact Mut.bind_of_ok hbatch
  panic {ring cursor batch t} hread haccount := by
    have hbatch : ∃ consumer, RawByteConsumer.accountBatch batch ⟨cursor, t⟩ =
        (.panic, consumer) := by
      rw [← accountRecords_eq_accountReads] at haccount
      exact ⟨_, Mut.bind_of_panic (Mut.field_of_panic (Prod.ext haccount rfl))⟩
    obtain ⟨consumer, hbatch⟩ := hbatch
    simp only [RawByteConsumer.poll, Mut.get_bind, hread, Mut.lift_ok_bind]
    rw [Mut.bind_of_panic hbatch]

/-- A reader that only keeps its cursor. -/
lemma cursorPoll_consumes {read : RingBuffer → ℕ → Outcome RingError ReadBatch}
    (hread : ReadsAhead read) :
    Consumes (cursorPoll read) (fun cursor (_ : Unit) => cursor) read fun _ => pure () where
  reads := hread
  nil _ := rfl
  append _ _ _ := rfl
  ok {ring cursor batch t t'} hbatch _ := by
    simp only [cursorPoll, Mut.get_bind, hbatch, Mut.lift_ok_bind, Mut.modify_bind, Mut.pure_apply]
  panic _ hpanic := by cases hpanic

/-! ## What survives -/

section Survivors

variable {ring : RingBuffer} {old pending : List ReadRecord}

/-- What awaits once another record is offered, and what is written later. -/
lemma await_append_written (record : Record) (acts : List Act) (ring : RingBuffer)
    (pending : List ReadRecord) :
    await record ring pending ++ written acts (RingBuffer.writeRecord record ring).2 =
      pending ++ written (.write record :: acts) ring := by
  have hwritten : written (.write record :: acts) ring =
      (RingBuffer.writeAll (record :: offered acts) ring).2 := rfl
  rw [hwritten, await, RingBuffer.writeAll]
  obtain ⟨outcome, ring'⟩ := RingBuffer.writeRecord record ring
  cases outcome with
  | ok span => exact List.append_assoc _ _ _
  | err e => rfl
  | panic => rfl

/-- What is polled was written, in that order. -/
lemma sublist_written (acts : List Act) (ring : RingBuffer) (pending : List ReadRecord) :
    (survivors acts ring pending).Sublist
      ((pending ++ written acts ring).map ReadRecord.delivered) := by
  induction acts generalizing ring pending with
  | nil => exact List.nil_sublist _
  | cons act acts ih =>
    cases act with
    | write record =>
      rw [← await_append_written]
      exact ih _ _
    | poll =>
      rw [List.map_append]
      exact (List.filter_sublist.map _).append (ih ring [])

/-- A consumer that keeps up is delivered all that is written before its last poll. -/
lemma KeepsUp.survivors_eq {acts : List Act} (h : KeepsUp (acts ++ [.poll]) ring pending) :
    survivors (acts ++ [.poll]) ring pending =
      (pending ++ written acts ring).map ReadRecord.delivered := by
  induction acts generalizing ring pending with
  | nil =>
    have halive : alive ring pending = pending :=
      List.filter_eq_self.mpr fun w hw =>
        decide_eq_true (h _ (List.mem_singleton_self (ring, pending)) w hw)
    change (alive ring pending).map ReadRecord.delivered ++ [] = _
    rw [halive]
    simp [written, offered, RingBuffer.writeAll]
  | cons act acts ih =>
    cases act with
    | write record =>
      rw [← await_append_written]
      exact ih h
    | poll =>
      obtain ⟨hpending, hrest⟩ := List.forall_mem_cons.mp
        (show ∀ p ∈ (ring, pending) :: polls (acts ++ [.poll]) ring [], _ from h)
      have halive : alive ring pending = pending :=
        List.filter_eq_self.mpr fun w hw => decide_eq_true (hpending w hw)
      change (alive ring pending).map ReadRecord.delivered ++ survivors (acts ++ [.poll]) ring [] = _
      rw [halive, ih hrest, List.nil_append, ← List.map_append]
      rfl

end Survivors

end Polling

/-! ## The result -/

open Polling

/-- **Incremental reading delivers each surviving record once.** For a ring of any capacity, any
records written to it and any placement of polls between the writes: every poll of the index
consumer, or of the raw consumer, succeeds and together they deliver, in the order of writing and
none of them twice, the written records that were still retained at the first poll behind their
write, exactly if accounting for these records stays within `u64`. If every record is polled before
it is evicted these are all the records written. -/
theorem polling_delivers_survivors {capacity : ℕ} {fresh : RingBuffer}
    (hnew : RingBuffer.new capacity = .ok fresh) (bufferId : UInt32) (acts : List Act) :
    (Delivers LossAccountingConsumer.poll (LossAccountingConsumer.withBufferId bufferId) acts
        fresh ↔ InRange bufferId ((survivors acts fresh []).map (·.record))) ∧
    (Delivers RawByteConsumer.poll (RawByteConsumer.withBufferId bufferId) acts fresh ↔
      InRange bufferId ((survivors acts fresh []).map (·.record))) ∧
    (survivors acts fresh []).Sublist ((written acts fresh).map ReadRecord.delivered) ∧
    ((survivors acts fresh []).Pairwise fun a b => a.startAbs < b.startAbs) ∧
    ∀ before, acts = before ++ [.poll] → KeepsUp acts fresh [] →
      survivors acts fresh [] = (written before fresh).map ReadRecord.delivered := by
  have hfresh := (RingBuffer.represents_new hnew).1
  have haccount := accountReads_cases bufferId (survivors acts fresh [])
  have hsublist : (survivors acts fresh []).Sublist ((written acts fresh).map
      ReadRecord.delivered) := sublist_written acts fresh []
  have hordered : ((written acts fresh).map ReadRecord.delivered).Pairwise
      fun a b => a.startAbs < b.startAbs :=
    List.pairwise_map.mpr
      ((List.pairwise_map.mp (hfresh.writeAll (offered acts)).1.laid.pairwise_start_lt).imp id)
  refine ⟨lossAccountingConsumer_consumes.delivers_iff acts hfresh _ haccount,
    rawByteConsumer_consumes.delivers_iff acts hfresh _ haccount, hsublist,
    hordered.sublist hsublist, ?_⟩
  · rintro before rfl hkeeps
    simpa using hkeeps.survivors_eq

/-- Two records, a poll, and a record that goes behind a gap. -/
def gapSchedule : List Act :=
  [.write (Record.new 0 1 0 1 1), .write (Record.new 0 1 1 1 1), .poll,
    .write (Record.new 0 1 2 1 1)]

/-- In a pool of 100 the poll leaves the cursor at offset 88, in front of the gap. Another poll
delivers the record behind it, and the raw consumer has received everything. -/
theorem polling_delivers_survivors_behind_gap :
    ∃ fresh bs, RingBuffer.new 100 = .ok fresh ∧
      batches RawByteConsumer.poll (gapSchedule ++ [.poll]) fresh
        (RawByteConsumer.withBufferId 0) = .ok bs ∧
      bs.flatMap (·.records) = (written gapSchedule fresh).map ReadRecord.delivered ∧
      (written gapSchedule fresh).map (·.startAbs) = [0, 44, 100] := by
  have hnew : RingBuffer.new 100 = .ok ⟨List.replicate 100 0, 0, 0, 0, 0, [], []⟩ := rfl
  obtain ⟨-, hraw, -, -, hall⟩ := polling_delivers_survivors hnew 0 (gapSchedule ++ [.poll])
  have haccount : ((LossTracker.accountAll ((survivors (gapSchedule ++ [.poll])
      ⟨List.replicate 100 0, 0, 0, 0, 0, [], []⟩ []).map (·.record)) :
        Mut LossTracker RingError Unit) (LossTracker.new 0)).1 = .ok () := by decide +kernel
  obtain ⟨bs, hbs, hrecords⟩ := hraw.mpr
    (LossTracker.accounts_of_accountAll (Prod.ext haccount rfl)).inRange
  have hkeeps : KeepsUp (gapSchedule ++ [.poll])
      ⟨List.replicate 100 0, 0, 0, 0, 0, [], []⟩ [] := by
    unfold KeepsUp
    decide +kernel
  exact ⟨_, bs, hnew, hbs, hrecords.trans (hall gapSchedule rfl hkeeps), by decide +kernel⟩

/-- A record with the last number of `u64`: it is written and retained, and the poll of either
consumer panics. -/
theorem polling_last_seq_panics :
    ∃ fresh record, RingBuffer.new 100 = .ok fresh ∧
      (survivors [.write record, .poll] fresh []).map (·.record.seq) = [0xFFFFFFFFFFFFFFFF] ∧
      batches LossAccountingConsumer.poll [.write record, .poll] fresh
        LossAccountingConsumer.new = .panic ∧
      batches RawByteConsumer.poll [.write record, .poll] fresh RawByteConsumer.new = .panic :=
  ⟨⟨List.replicate 100 0, 0, 0, 0, 0, [], []⟩, Record.new 0 7 0xFFFFFFFFFFFFFFFF 1 1, rfl,
    by decide +kernel, by decide +kernel, by decide +kernel⟩

end OpenOT
