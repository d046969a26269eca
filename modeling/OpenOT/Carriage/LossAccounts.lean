import OpenOT.Carriage.LossIntervals

set_option relaxedAutoImplicit false
set_option autoImplicit false

/-!
# Accounting for any records

What the loss tracker does with any sequence of records, in any order and with any contents. Every
record inserts some ranges, given by what its stream has come to so far; as long as the arithmetic
stays within `u64` the tracker's events are the union of all of them, and the records for which it
does not are known.

## Main definitions

* `OpenOT.LossTracker.accountAll` — accounting for some records.
* `OpenOT.insertions` — the ranges that some records insert.
* `OpenOT.InRange` — the arithmetic of accounting for some records stays within `u64`.

## Main results

* `OpenOT.LossTracker.Accounts.account` — accounting for one more record.
* `OpenOT.loss_intervals_exact` — the events are an exact union, in any order of insertion.
* `OpenOT.loss_accounting_in_range` — when no addition or subtraction overflows.
-/

namespace OpenOT

open Rust LossTracker

/-- The stream of a record. -/
def Record.stream (record : Record) : UInt64 × UInt32 := (record.runId, record.sourceId)

/-! ## What records insert -/

/-- The number that a stream expects after some records: one more than the largest so far. -/
def expectedSeq (records : List Record) (k : UInt64 × UInt32) : ℕ :=
  ((records.filter fun r => decide (r.stream = k)).map fun r => r.seq.toNat + 1).foldl max 0

/-- The loss that a checkpoint attests. -/
def attestedLoss (bufferId : UInt32) (expected : ℕ) (record : Record) : List LossEvent :=
  if parseSourceHighWater record = some record.seq ∧ expected < record.seq.toNat then
    [skippedLoss bufferId (UInt64.ofNat expected) record false]
  else []

/-- The loss that a jump of the number shows. -/
def jumpedLoss (bufferId : UInt32) (expected : ℕ) (record : Record) : List LossEvent :=
  if expected < record.seq.toNat then
    [skippedLoss bufferId (UInt64.ofNat expected) record true]
  else []

/-- The ranges that some records insert, behind some others: what each attests, what it jumps over
and what it reports. -/
def insertionsFrom (bufferId : UInt32) : List Record → List Record → List LossEvent
  | _, [] => []
  | before, record :: records =>
    (attestedLoss bufferId (expectedSeq before record.stream) record ++
      jumpedLoss bufferId (expectedSeq before record.stream) record ++
        (reportedLoss bufferId record).toList) ++
      insertionsFrom bufferId (before ++ [record]) records

/-- The ranges that some records insert. -/
def insertions (bufferId : UInt32) (records : List Record) : List LossEvent :=
  insertionsFrom bufferId [] records

/-- The arithmetic of accounting for some records stays within `u64`: the number behind each of
them is in `u64`, no record reports the whole of `u64`, and what is inserted of a stream is not the
whole of it. -/
structure InRange (bufferId : UInt32) (records : List Record) : Prop where
  seq : ∀ r ∈ records, r.seq.toNat + 1 < 2 ^ 64
  reports : ∀ r ∈ records, ¬ReportsAll r
  lost : ∀ k, ¬∀ n < 2 ^ 64, Inserted (insertions bufferId records) k n

section Spec

variable {bufferId : UInt32} {records : List Record} {record : Record}

@[simp] lemma expectedSeq_nil (k : UInt64 × UInt32) : expectedSeq [] k = 0 := rfl

/-- The expected number after one more record. -/
lemma expectedSeq_concat (records : List Record) (record : Record) (k : UInt64 × UInt32) :
    expectedSeq (records ++ [record]) k =
      if record.stream = k then max (expectedSeq records k) (record.seq.toNat + 1)
      else expectedSeq records k := by
  unfold expectedSeq
  rw [List.filter_append]
  split_ifs with hk
  · rw [List.filter_cons_of_pos (by simpa using hk), List.filter_nil, List.map_append,
      List.foldl_append]
    rfl
  · rw [List.filter_cons_of_neg (by simpa using hk), List.filter_nil, List.append_nil]

/-- The ranges that one more record inserts. -/
lemma insertionsFrom_concat (before records : List Record) (record : Record) :
    insertionsFrom bufferId before (records ++ [record]) =
      insertionsFrom bufferId before records ++
        (attestedLoss bufferId (expectedSeq (before ++ records) record.stream) record ++
          jumpedLoss bufferId (expectedSeq (before ++ records) record.stream) record ++
            (reportedLoss bufferId record).toList) := by
  induction records generalizing before with
  | nil => simp [insertionsFrom]
  | cons first records ih =>
    rw [List.cons_append, insertionsFrom, insertionsFrom, ih, List.append_assoc before,
      List.singleton_append, ← List.append_assoc (_ ++ _)]

lemma insertions_concat (records : List Record) (record : Record) :
    insertions bufferId (records ++ [record]) = insertions bufferId records ++
      (attestedLoss bufferId (expectedSeq records record.stream) record ++
        jumpedLoss bufferId (expectedSeq records record.stream) record ++
          (reportedLoss bufferId record).toList) :=
  insertionsFrom_concat [] records record

/-- What stays in range has stayed so. -/
lemma InRange.of_concat (h : InRange bufferId (records ++ [record])) : InRange bufferId records := by
  refine ⟨fun r hr => h.seq r (List.mem_append_left _ hr),
    fun r hr => h.reports r (List.mem_append_left _ hr), fun k hall => h.lost k fun n hn => ?_⟩
  rw [insertions_concat]
  exact inserted_append.mpr (Or.inl (hall n hn))

lemma InRange.of_append {more : List Record} (h : InRange bufferId (records ++ more)) :
    InRange bufferId records := by
  induction more using List.reverseRecOn with
  | nil => rwa [List.append_nil] at h
  | append_singleton more record ih =>
    rw [← List.append_assoc] at h
    exact ih h.of_concat

/-- Accounting for nothing stays in range. -/
lemma inRange_nil (bufferId : UInt32) : InRange bufferId [] := by
  refine ⟨by simp, by simp, fun k hall => ?_⟩
  obtain ⟨i, hi, -⟩ := hall 0 (by decide)
  exact List.not_mem_nil hi

/-- Expected numbers are in `u64`. -/
lemma InRange.expected_lt (h : InRange bufferId records) (k : UInt64 × UInt32) :
    expectedSeq records k < 2 ^ 64 := by
  induction records using List.reverseRecOn with
  | nil => simp
  | append_singleton records record ih =>
    have hseq := h.seq record (by simp)
    have hold := ih h.of_concat
    rw [expectedSeq_concat]
    split_ifs <;> omega

end Spec

namespace LossTracker

variable {ε : Type} {tracker : LossTracker} {bufferId : UInt32} {records : List Record}
  {record : Record} {inserted added : List LossEvent}

/-! ## Accounting for one record -/

/-- A call adds some events to the union and changes nothing else, or it panics: then what is
inserted of some stream is all there is. -/
def Adds (m : Mut LossTracker ε Unit) (tracker : LossTracker) (inserted added : List LossEvent) :
    Prop :=
  (∃ events, m tracker = (.ok (), { tracker with lossEvents := events }) ∧
    Unites { tracker with lossEvents := events } (inserted ++ added)) ∨
  (m tracker).1 = .panic ∧ ∃ k, ∀ n < 2 ^ 64, Inserted (inserted ++ added) k n

/-- A call that adds nothing. -/
lemma Unites.adds_nil (h : tracker.Unites inserted) {m : Mut LossTracker ε Unit}
    (hm : m tracker = (.ok (), tracker)) : Adds m tracker inserted [] :=
  Or.inl ⟨tracker.lossEvents, hm, by simpa using h⟩

/-- Inserting an event. -/
lemma Unites.adds_insert (h : tracker.Unites inserted) {event : LossEvent} (hsized : event.Sized)
    (hbuffer : event.bufferId = tracker.bufferId) :
    Adds (ε := ε) (insertLossEvent event) tracker inserted [event] :=
  (h.insert hsized hbuffer).imp_right fun ⟨hpanic, hall⟩ => ⟨hpanic, _, hall⟩

/-- The loss a checkpoint attests is inserted. -/
lemma Unites.adds_highWater (h : tracker.Unites inserted) (record : Record) (expected : UInt64) :
    Adds (ε := ε) (accountHighWater record expected) tracker inserted
      (attestedLoss tracker.bufferId expected.toNat record) := by
  unfold attestedLoss
  split_ifs with hlt
  · have hadds := h.adds_insert (ε := ε) (skippedLoss_sized hlt.2 false).1
      (show (skippedLoss tracker.bufferId expected record false).bufferId = tracker.bufferId
        from rfl)
    rw [UInt64.ofNat_toNat]
    unfold Adds at hadds ⊢
    rwa [accountHighWater_inserts tracker hlt.1 hlt.2]
  · exact h.adds_nil (accountHighWater_quiet tracker hlt)

/-- The loss a jump of the number shows is inserted. -/
lemma Unites.adds_gap (h : tracker.Unites inserted) (record : Record) (expected : UInt64) :
    Adds (ε := ε) (accountGap record expected) tracker inserted
      (jumpedLoss tracker.bufferId expected.toNat record) := by
  unfold jumpedLoss
  split_ifs with hlt
  · have hadds := h.adds_insert (ε := ε) (skippedLoss_sized hlt true).1
      (show (skippedLoss tracker.bufferId expected record true).bufferId = tracker.bufferId
        from rfl)
    rw [UInt64.ofNat_toNat]
    unfold Adds at hadds ⊢
    rwa [accountGap_inserts tracker hlt]
  · exact h.adds_nil (accountGap_quiet tracker hlt)

/-- The union depends on the buffer and on the events only. -/
lemma Unites.of_eq {tracker' : LossTracker} (h : tracker.Unites inserted)
    (hbuffer : tracker'.bufferId = tracker.bufferId)
    (hevents : tracker'.lossEvents = tracker.lossEvents) : tracker'.Unites inserted := by
  have hranges : ∀ k, tracker'.ranges k = tracker.ranges k := by
    intro k
    rw [ranges, hevents]
    rfl
  refine ⟨⟨?_, ?_, ?_⟩, h.sized, ?_, ?_⟩
  · rw [hevents, hbuffer]
    exact h.tidy.buffer
  · rw [hevents]
    exact h.tidy.sized
  · intro k
    rw [hranges]
    exact h.tidy.apart k
  · intro k n
    rw [hranges]
    exact h.covers k n
  · rw [hevents]
    exact h.synthetic

/-- The delivery of a record that has no number behind it panics. -/
lemma accountDelivered_panic {expected : UInt64} (hle : expected ≤ record.seq)
    (hseq : ¬record.seq.toNat + 1 < 2 ^ 64) :
    ((accountDelivered record expected : Mut LossTracker ε Unit) tracker).1 = .panic := by
  have hnext : (checkedAdd record.seq 1 : Outcome ε UInt64) = .panic := if_neg hseq
  simp only [accountDelivered, if_pos hle, Mut.modify_bind, Mut.get_bind, hnext]
  generalize Std.TreeMap.getD _ _ _ = count
  by_cases hfits : count.toNat + (1 : UInt64).toNat < 2 ^ 64
  · rw [(checkedAdd_of_lt hfits).1]
    rfl
  · rw [checkedAdd, if_neg hfits]
    rfl

/-- Counting a record: its stream expects the number behind it or more, and has never counted more
records than it expects numbers. -/
lemma accountDelivered_cases (tracker : LossTracker) (record : Record) {expected : UInt64}
    (hexpected : tracker.nextSeqBySource.getD record.stream 0 = expected)
    (hcount : ∀ k, (tracker.deliveredBySource.getD k 0).toNat ≤
      (tracker.nextSeqBySource.getD k 0).toNat) :
    (∃ tracker', (accountDelivered record expected : Mut LossTracker ε Unit) tracker =
        (.ok (), tracker') ∧
      record.seq.toNat + 1 < 2 ^ 64 ∧ tracker'.bufferId = tracker.bufferId ∧
      tracker'.lossEvents = tracker.lossEvents ∧
      (∀ k, (tracker'.nextSeqBySource.getD k 0).toNat =
        if record.stream = k then max (tracker.nextSeqBySource.getD k 0).toNat (record.seq.toNat + 1)
        else (tracker.nextSeqBySource.getD k 0).toNat) ∧
      ∀ k, (tracker'.deliveredBySource.getD k 0).toNat ≤
        (tracker'.nextSeqBySource.getD k 0).toNat) ∨
    ¬record.seq.toNat + 1 < 2 ^ 64 ∧
      ((accountDelivered record expected : Mut LossTracker ε Unit) tracker).1 = .panic := by
  have hbound := expected.toNat_lt
  by_cases hle : expected ≤ record.seq
  swap
  · have hlt := UInt64.lt_iff_toNat_lt.mp (UInt64.not_le.mp hle)
    refine Or.inl ⟨tracker, ?_, by omega, rfl, rfl, fun k => ?_, hcount⟩
    · rw [accountDelivered, if_neg hle, Mut.pure_apply]
    · split_ifs with hk
      · rw [← hk, hexpected]
        omega
      · rfl
  have hle' := UInt64.le_iff_toNat_le.mp hle
  by_cases hseq : record.seq.toNat + 1 < 2 ^ 64
  swap
  · exact Or.inr ⟨hseq, accountDelivered_panic hle hseq⟩
  have hdelivered := hcount record.stream
  rw [hexpected] at hdelivered
  obtain ⟨tracker', hrun, hbuffer, hevents, hcounted, hnext⟩ := accountDelivered_of_le (ε := ε)
    tracker hle hseq (show _ + 1 < _ by
      change (tracker.deliveredBySource.getD record.stream 0).toNat + 1 < 2 ^ 64
      omega)
  have hkey : ∀ k, (k = (record.runId, record.sourceId)) = (record.stream = k) := fun k =>
    propext ⟨fun h => h.symm, fun h => h.symm⟩
  simp only [hkey] at hcounted hnext
  refine Or.inl ⟨tracker', hrun, hseq, hbuffer, hevents, fun k => ?_, fun k => ?_⟩
  · rw [hnext]
    split_ifs with hk
    · rw [← hk, hexpected]
      omega
    · rfl
  · have hold := hcount k
    rw [hcounted, hnext]
    split_ifs with hk
    · rw [← hk]
      omega
    · omega

/-! ## Accounting for records -/

/-- Accounting for some records, one after the other. -/
def accountAll : List Record → Mut LossTracker ε Unit
  | [] => pure ()
  | record :: records => do
    account record
    accountAll records

/-- The tracker has accounted for some records, and its arithmetic has stayed within `u64`. -/
structure Accounts (tracker : LossTracker) (bufferId : UInt32) (records : List Record) : Prop where
  buffer : tracker.bufferId = bufferId
  next : ∀ k, (tracker.nextSeqBySource.getD k 0).toNat = expectedSeq records k
  delivered : ∀ k, (tracker.deliveredBySource.getD k 0).toNat ≤
    (tracker.nextSeqBySource.getD k 0).toNat
  unites : tracker.Unites (insertions bufferId records)
  inRange : InRange bufferId records

/-- A new tracker has accounted for nothing. -/
lemma accounts_new (bufferId : UInt32) : (new bufferId).Accounts bufferId [] :=
  ⟨rfl, by simp [new], by simp [new], unites_new bufferId, inRange_nil bufferId⟩

/-- A tracker that has accounted for one more record. -/
lemma Accounts.concat {tracker' : LossTracker} (h : tracker.Accounts bufferId records)
    (hbuffer : tracker'.bufferId = tracker.bufferId)
    (hnext : ∀ k, (tracker'.nextSeqBySource.getD k 0).toNat =
      if record.stream = k then max (tracker.nextSeqBySource.getD k 0).toNat (record.seq.toNat + 1)
      else (tracker.nextSeqBySource.getD k 0).toNat)
    (hdelivered : ∀ k, (tracker'.deliveredBySource.getD k 0).toNat ≤
      (tracker'.nextSeqBySource.getD k 0).toNat)
    (hunites : tracker'.Unites (insertions bufferId (records ++ [record])))
    (hseq : record.seq.toNat + 1 < 2 ^ 64) (hreports : ¬ReportsAll record) :
    tracker'.Accounts bufferId (records ++ [record]) := by
  refine ⟨hbuffer.trans h.buffer, fun k => ?_, hdelivered, hunites, ⟨?_, ?_, hunites.not_all⟩⟩
  · rw [hnext, expectedSeq_concat, h.next]
  · simp only [List.mem_append, List.mem_singleton, or_imp, forall_and, forall_eq]
    exact ⟨h.inRange.seq, hseq⟩
  · simp only [List.mem_append, List.mem_singleton, or_imp, forall_and, forall_eq]
    exact ⟨h.inRange.reports, hreports⟩

/-- **Accounting for one more record.**

**Proof sketch.** The call goes through four stages: what the record attests, what it jumps over,
its delivery and what it reports. Each of them adds to the union or panics, and when it panics one
of the conditions for the records to stay in range is broken. -/
lemma Accounts.account (h : tracker.Accounts bufferId records) (record : Record) :
    (∃ tracker', (account record : Mut LossTracker ε Unit) tracker = (.ok (), tracker') ∧
      tracker'.Accounts bufferId (records ++ [record])) ∨
    ((account record : Mut LossTracker ε Unit) tracker).1 = .panic ∧
      ¬InRange bufferId (records ++ [record]) := by
  obtain rfl := h.buffer
  obtain ⟨expected, hexpected⟩ : ∃ expected,
      tracker.nextSeqBySource.getD record.stream 0 = expected := ⟨_, rfl⟩
  have hspec : expectedSeq records record.stream = expected.toNat := by
    rw [← hexpected, h.next]
  have hinsertions := @insertions_concat tracker.bufferId records record
  rw [hspec] at hinsertions
  have hpanics : ∀ {k added} more, insertions tracker.bufferId (records ++ [record]) =
      insertions tracker.bufferId records ++ added ++ more →
      (∀ n < 2 ^ 64, Inserted (insertions tracker.bufferId records ++ added) k n) →
      ¬InRange tracker.bufferId (records ++ [record]) := by
    intro k added more heq hall hrange
    refine hrange.lost k fun n hn => ?_
    rw [heq]
    exact inserted_append.mpr (Or.inl (hall n hn))
  simp only [LossTracker.account, Mut.get_bind,
    show tracker.nextSeqBySource.getD (record.runId, record.sourceId) 0 = expected from hexpected]
  -- what the record attests
  rcases h.unites.adds_highWater (ε := ε) record expected with
    ⟨attested, hwater, hunites⟩ | ⟨hpanic, k, hall⟩
  swap
  · have hstop : (accountHighWater record expected : Mut LossTracker ε Unit) tracker =
        (.panic, _) := Prod.ext hpanic rfl
    rw [Mut.bind_of_panic hstop]
    refine Or.inr ⟨rfl, hpanics (jumpedLoss tracker.bufferId expected.toNat record ++
      (reportedLoss tracker.bufferId record).toList) ?_ hall⟩
    simp only [hinsertions, List.append_assoc]
  rw [Mut.bind_of_ok hwater]
  -- what it jumps over
  rcases hunites.adds_gap (ε := ε) record expected with
    ⟨events, hgap, hunites⟩ | ⟨hpanic, k, hall⟩
  swap
  · have hstop : (accountGap record expected : Mut LossTracker ε Unit)
        { tracker with lossEvents := attested } = (.panic, _) := Prod.ext hpanic rfl
    rw [Mut.bind_of_panic hstop]
    rw [List.append_assoc] at hall
    refine Or.inr ⟨rfl, hpanics (reportedLoss tracker.bufferId record).toList ?_ hall⟩
    simp only [hinsertions, List.append_assoc]
  rw [Mut.bind_of_ok hgap]
  -- its delivery
  rcases accountDelivered_cases (ε := ε) { tracker with lossEvents := events } record hexpected
    h.delivered with
    ⟨counted, hcounted, hseq, hbuffer, hevents, hnext, hdelivered⟩ | ⟨hseq, hpanic⟩
  swap
  · have hstop : (accountDelivered record expected : Mut LossTracker ε Unit)
        { tracker with lossEvents := events } = (.panic, _) := Prod.ext hpanic rfl
    rw [Mut.bind_of_panic hstop]
    exact Or.inr ⟨rfl, fun hrange => hseq (hrange.seq record (by simp))⟩
  rw [Mut.bind_of_ok hcounted]
  have hunites' := hunites.of_eq hbuffer hevents
  -- what it reports
  rcases parseRecordsDropped_cases (ε := ε) tracker.bufferId record with
    ⟨hreports, hparse⟩ | ⟨hreports, hparse⟩
  swap
  · rw [hparse]
    exact Or.inr ⟨rfl, fun hrange => hrange.reports record (by simp) hreports⟩
  rw [hparse, Mut.lift_ok_bind]
  cases hloss : reportedLoss tracker.bufferId record with
  | none =>
    refine Or.inl ⟨counted, rfl, h.concat hbuffer hnext hdelivered ?_ hseq hreports⟩
    rw [hinsertions, hloss, Option.toList_none, List.append_nil, ← List.append_assoc]
    exact hunites'
  | some event =>
    obtain ⟨hsized, hebuffer, -⟩ := reportedLoss_spec hloss
    rw [hloss, Option.toList_some] at hinsertions
    rcases hunites'.adds_insert (ε := ε) hsized (hebuffer.trans hbuffer.symm) with
      ⟨reported, hinsert, hunites⟩ | ⟨hpanic, k, hall⟩
    · refine Or.inl ⟨_, hinsert, h.concat hbuffer hnext hdelivered ?_ hseq hreports⟩
      rw [hinsertions, ← List.append_assoc, ← List.append_assoc]
      exact hunites
    · rw [List.append_assoc, List.append_assoc] at hall
      refine Or.inr ⟨hpanic, hpanics [] ?_ hall⟩
      simp only [hinsertions, List.append_assoc, List.append_nil]

/-- Accounting for some records behind some others. -/
lemma Accounts.accountAll (h : tracker.Accounts bufferId records) (more : List Record) :
    (∃ tracker', (accountAll more : Mut LossTracker ε Unit) tracker = (.ok (), tracker') ∧
      tracker'.Accounts bufferId (records ++ more)) ∨
    ((LossTracker.accountAll more : Mut LossTracker ε Unit) tracker).1 = .panic ∧
      ¬InRange bufferId (records ++ more) := by
  induction more generalizing tracker records with
  | nil => exact Or.inl ⟨tracker, rfl, by rwa [List.append_nil]⟩
  | cons record more ih =>
    rw [List.append_cons]
    rcases h.account (ε := ε) record with ⟨next, hrun, hnext⟩ | ⟨hpanic, hout⟩
    · have hbind : (LossTracker.accountAll (record :: more) : Mut LossTracker ε Unit) tracker =
          LossTracker.accountAll more next := Mut.bind_of_ok hrun
      rw [hbind]
      exact ih hnext
    · have hrun : (LossTracker.account record : Mut LossTracker ε Unit) tracker = (.panic, _) :=
        Prod.ext hpanic rfl
      have hbind : (LossTracker.accountAll (record :: more) : Mut LossTracker ε Unit) tracker =
          (.panic, _) := Mut.bind_of_panic hrun
      rw [hbind]
      exact Or.inr ⟨rfl, fun hrange => hout hrange.of_append⟩

/-- The run over some records: it returns exactly if its arithmetic stays in range. -/
lemma accountAll_cases (bufferId : UInt32) (records : List Record) :
    (∃ tracker, (accountAll records : Mut LossTracker ε Unit) (LossTracker.new bufferId) =
        (.ok (), tracker) ∧ tracker.Accounts bufferId records) ∨
    ((accountAll records : Mut LossTracker ε Unit) (LossTracker.new bufferId)).1 = .panic ∧
      ¬InRange bufferId records :=
  (accounts_new bufferId).accountAll records

/-- A run that returns has stayed in range. -/
lemma accounts_of_accountAll
    (h : (accountAll records : Mut LossTracker ε Unit) (LossTracker.new bufferId) =
      (.ok (), tracker)) : tracker.Accounts bufferId records := by
  rcases accountAll_cases (ε := ε) bufferId records with ⟨tracker', hrun, haccounts⟩ | ⟨hpanic, -⟩
  · obtain rfl := (Prod.mk.inj (h.symm.trans hrun)).2
    exact haccounts
  · rw [h] at hpanic
    cases hpanic

/-! ## The order of insertion -/

/-- Inserting some events, one after the other. -/
def insertAll : List LossEvent → Mut LossTracker ε Unit
  | [] => pure ()
  | event :: events => do
    insertLossEvent event
    insertAll events

/-- Inserting some events, unless they are all there are of some stream. -/
lemma Unites.insertAll (h : tracker.Unites inserted) {events : List LossEvent}
    (hevents : ∀ e ∈ events, e.Sized ∧ e.bufferId = tracker.bufferId)
    (hlost : ∀ k, ¬∀ n < 2 ^ 64, Inserted (inserted ++ events) k n) :
    ∃ tracker', (insertAll events : Mut LossTracker ε Unit) tracker = (.ok (), tracker') ∧
      tracker'.bufferId = tracker.bufferId ∧ tracker'.Unites (inserted ++ events) := by
  induction events generalizing tracker inserted with
  | nil => exact ⟨tracker, rfl, rfl, by rwa [List.append_nil]⟩
  | cons event events ih =>
    obtain ⟨⟨hsized, hbuffer⟩, hevents⟩ := List.forall_mem_cons.mp hevents
    rw [List.append_cons] at hlost ⊢
    rcases h.insert (ε := ε) hsized hbuffer with ⟨stored, hrun, hunites⟩ | ⟨-, hall⟩
    · obtain ⟨tracker', hrest, hbuffer', hunites'⟩ := ih hunites hevents hlost
      have hbind : (LossTracker.insertAll (event :: events) : Mut LossTracker ε Unit) tracker =
          LossTracker.insertAll events { tracker with lossEvents := stored } :=
        Mut.bind_of_ok hrun
      exact ⟨tracker', hbind.trans hrest, hbuffer', hunites'⟩
    · exact absurd (fun n hn => inserted_append.mpr (Or.inl (hall n hn))) (hlost event.stream)

/-- What records insert belongs to the buffer. -/
lemma bufferId_of_mem_insertions {i : LossEvent} (hi : i ∈ insertions bufferId records) :
    i.bufferId = bufferId := by
  induction records using List.reverseRecOn with
  | nil => cases hi
  | append_singleton records record ih =>
    rw [insertions_concat] at hi
    simp only [List.mem_append, attestedLoss, jumpedLoss, Option.mem_toList] at hi
    rcases hi with hi | (hi | hi) | hi
    · exact ih hi
    · split_ifs at hi
      · rw [List.mem_singleton.mp hi]
        rfl
      · cases hi
    · split_ifs at hi
      · rw [List.mem_singleton.mp hi]
        rfl
      · cases hi
    · exact (reportedLoss_spec hi).2.1

end LossTracker

/-! ## The results -/

/-- **The loss intervals are an exact union.** After any records for which the arithmetic stays
within `u64`: the intervals of a stream never overlap and are never adjacent; each counts its
numbers; they cover the numbers that were inserted and no others, and the count of lost records is
how many these are; every inserted range lies within an interval, and an interval is synthetic when
all the ranges within it are; and inserting the same ranges in any other order stores the same
intervals. -/
theorem loss_intervals_exact {ε : Type} {bufferId : UInt32} {records : List Record}
    (h : InRange bufferId records) :
    ∃ tracker, (accountAll records : Mut LossTracker ε Unit) (LossTracker.new bufferId) =
        (.ok (), tracker) ∧
      (∀ k, (tracker.ranges k).Pairwise fun i j => ¬Intervals.Touch i j) ∧
      (∀ e ∈ tracker.lossEvents, e.bufferId = bufferId ∧ e.firstSeq ≤ e.lastSeq ∧
        e.count.toNat = e.lastSeq.toNat - e.firstSeq.toNat + 1) ∧
      (∀ k n, Intervals.Covers (tracker.ranges k) n ↔
        Inserted (insertions bufferId records) k n) ∧
      (∀ runId sourceId, ∃ lost,
        (tracker.lost runId sourceId : Outcome ε UInt64) = .ok lost ∧
          lost.toNat = {n | Inserted (insertions bufferId records) (runId, sourceId) n}.ncard) ∧
      (∀ i ∈ insertions bufferId records, ∃ e ∈ tracker.lossEvents, i.Within e) ∧
      (∀ e ∈ tracker.lossEvents, e.synthetic = true ↔
        ∀ i ∈ insertions bufferId records, i.Within e → i.synthetic = true) ∧
      ∀ inserted, inserted.Perm (insertions bufferId records) → ∃ tracker',
        (insertAll inserted : Mut LossTracker ε Unit) (LossTracker.new bufferId) =
          (.ok (), tracker') ∧ tracker'.lossEvents.Perm tracker.lossEvents := by
  rcases accountAll_cases (ε := ε) bufferId records with ⟨tracker, hrun, haccounts⟩ | ⟨-, hout⟩
  swap
  · exact absurd h hout
  have hunites := haccounts.unites
  have htidy := hunites.tidy
  refine ⟨tracker, hrun, fun k => (htidy.apart k).pairwise, fun e he => ?_, hunites.covers,
    hunites.lost, fun i hi => hunites.exists_within hi, hunites.synthetic, ?_⟩
  · have hsized := htidy.sized e he
    exact ⟨(htidy.buffer e he).trans haccounts.buffer, UInt64.le_iff_toNat_le.mpr hsized.le,
      hsized.count⟩
  · intro inserted hperm
    have hevents : ∀ e ∈ inserted, e.Sized ∧ e.bufferId = bufferId := by
      intro e he
      have hmem := hperm.mem_iff.mp he
      exact ⟨hunites.sized e hmem, bufferId_of_mem_insertions hmem⟩
    have hlost : ∀ k, ¬∀ n < 2 ^ 64, Inserted ([] ++ inserted) k n := by
      intro k hall
      refine hunites.not_all k fun n hn => ?_
      obtain ⟨i, hi, hin⟩ := hall n hn
      exact ⟨i, hperm.mem_iff.mp hi, hin⟩
    obtain ⟨tracker', hinsert, hbuffer, hunites'⟩ :=
      (unites_new bufferId).insertAll (ε := ε) hevents hlost
    rw [List.nil_append] at hunites'
    refine ⟨tracker', hinsert, ?_⟩
    refine (List.perm_ext_iff_of_nodup hunites'.tidy.nodup htidy.nodup).mpr ?_
    exact hunites'.mem_iff hunites (hbuffer.trans haccounts.buffer.symm) fun i => hperm.mem_iff

/-- A record, one that jumps over two numbers, and the report that these were dropped. -/
def reportedRecords : List Record :=
  [Record.new 0 7 0 1 1, Record.new 0 7 3 1 1,
    { Record.new 0 7 4 1 EVENT_RECORDS_DROPPED with slots := droppedSlots 2 ⟨7, 1, 1, 2⟩ }]

/-- The jump and the report are one interval, which is not synthetic. -/
theorem loss_intervals_exact_reported :
    ∃ tracker, (accountAll reportedRecords : Mut LossTracker RingError Unit)
        (LossTracker.new 0) = (.ok (), tracker) ∧
      tracker.lossEvents = [⟨0, 7, 1, 1, 2, 2, false⟩] ∧
      (insertions 0 reportedRecords).map (·.synthetic) = [true, false] ∧
      ∀ inserted, inserted.Perm (insertions 0 reportedRecords) → ∃ tracker',
        (insertAll inserted : Mut LossTracker RingError Unit) (LossTracker.new 0) =
          (.ok (), tracker') ∧ tracker'.lossEvents.Perm tracker.lossEvents := by
  have hrun : ((accountAll reportedRecords : Mut LossTracker RingError Unit)
      (LossTracker.new 0)).1 = .ok () := by decide +kernel
  have hevents : ((accountAll reportedRecords : Mut LossTracker RingError Unit)
      (LossTracker.new 0)).2.lossEvents = [⟨0, 7, 1, 1, 2, 2, false⟩] := by decide +kernel
  have hrange : InRange 0 reportedRecords :=
    (accounts_of_accountAll (ε := RingError) (Prod.ext hrun rfl)).inRange
  obtain ⟨tracker, htracker, -, -, -, -, -, -, horder⟩ :=
    loss_intervals_exact (ε := RingError) hrange
  rw [htracker] at hevents
  exact ⟨tracker, htracker, hevents, by decide +kernel, horder⟩

/-- **When loss accounting stays within `u64`**: no addition or subtraction overflows, neither in
accounting for the records nor in counting what is lost of a stream afterwards, exactly if every
record has a number behind it, none reports the whole of `u64`, and what is inserted of a stream is
never the whole of it. -/
theorem loss_accounting_in_range {ε : Type} (bufferId : UInt32) (records : List Record) :
    (∃ tracker, (accountAll records : Mut LossTracker ε Unit) (LossTracker.new bufferId) =
        (.ok (), tracker) ∧
      ∀ runId sourceId, ∃ lost, (tracker.lost runId sourceId : Outcome ε UInt64) = .ok lost) ↔
      InRange bufferId records := by
  rcases accountAll_cases (ε := ε) bufferId records with
    ⟨tracker, hrun, haccounts⟩ | ⟨hpanic, hout⟩
  · refine iff_of_true ⟨tracker, hrun, fun runId sourceId => ?_⟩ haccounts.inRange
    obtain ⟨lost, hlost, -⟩ := haccounts.unites.lost (ε := ε) runId sourceId
    exact ⟨lost, hlost⟩
  · refine iff_of_false ?_ hout
    rintro ⟨tracker, hrun, -⟩
    rw [hrun] at hpanic
    cases hpanic

/-- A record with the last number of `u64`, as it comes from the wire: there is no number behind
it to expect. -/
theorem loss_accounting_overflows : ∃ bytes record,
    decode bytes = .ok ⟨record, bytes.length⟩ ∧ record.seq = 0xFFFFFFFFFFFFFFFF ∧
      ((accountAll [record] : Mut LossTracker RingError Unit) (LossTracker.new 0)).1 = .panic :=
  ⟨(Record.new 0 7 0xFFFFFFFFFFFFFFFF 1 1).bytes true,
    (Record.new 0 7 0xFFFFFFFFFFFFFFFF 1 1).withCrcFlag true, by decide +kernel, rfl,
    by decide +kernel⟩

end OpenOT
