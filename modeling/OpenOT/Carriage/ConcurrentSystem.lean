import OpenOT.Carriage.ConcurrentMemory
import OpenOT.Lib.Runs

set_option relaxedAutoImplicit false
set_option autoImplicit false

/-!
# One producer and one consumer over the owned store

The whole protocol as a transition system. A step is a producer call (which only computes the
stores it will perform), one of these stores, the start of a poll, or one load of the poll under
way; steps of the two sides are interleaved in any order.

## Main definitions

* `OpenOT.System` — the store, both private states, what each side has still to do, and the
  history: the entries appended and the results of the polls.
* `OpenOT.System.step` — one step.
* `OpenOT.System.Sound` — the invariant.

## Main results

* `OpenOT.System.SoundIn.step`, `OpenOT.System.sound_of_runs` — every step, and so every run, keeps
  the invariant.
* `OpenOT.concurrent_ring_safety` — delivered records are genuine, in order, and nothing is
  skipped that the oldest offset has not passed.
* `OpenOT.poll_recovers_in_pool`, `OpenOT.poll_reports_overwritten_gap` — when a poll recovers,
  and a poll that does not.
-/

namespace OpenOT

open Rust CircularLog Shared Transition

/-! ## The transition system -/

/-- A poll under way: the loads it has still to do. -/
abbrev Poll : Type :=
  Reader (Load Empty) (Load.Value Empty.elim) (Outcome RingError ReadBatch × ConcurrentRawConsumer)

/-- The state of the protocol. -/
structure System where
  store : ConcurrentRing
  producer : ConcurrentProducer
  /-- the stores left of the append under way -/
  stores : List StoreOp
  consumer : ConcurrentRawConsumer
  /-- the poll under way -/
  poll : Option Poll
  /-- every entry appended, in order -/
  appended : List (Entry UInt8)
  /-- the results of the polls that have ended, in order -/
  results : List (Outcome RingError ReadBatch)

/-- The records a poll delivers: none unless it ends `Ok`. -/
def batchRecords : Outcome RingError ReadBatch → List ReadRecord
  | .ok batch => batch.records
  | .err _ => []
  | .panic => []

namespace System

/-- The records delivered by the polls so far, in order. -/
def delivered (sys : System) : List ReadRecord := sys.results.flatMap batchRecords

/-- A new producer and a new consumer over a new store. -/
def start (capacity : ℕ) (store : ConcurrentRing) : System :=
  ⟨store, .withStore capacity, [], .withStore, none, [], []⟩

/-- The poll goes on, or ends and returns its result. -/
def proceed (sys : System) : Poll → System
  | .ret (result, consumer) =>
    { sys with consumer := consumer, poll := none, results := sys.results ++ [result] }
  | .load i k => { sys with poll := some (.load i k) }

/-- What can happen next. -/
inductive Action where
  | append (call : AppendCall)
  | store
  | poll
  | load

/-- One step; `none` when the action is not possible. -/
def step (capacity : ℕ) (sys : System) : Action → Option System
  | .append call =>
    match sys.stores with
    | [] =>
      match call.run sys.producer with
      | (.ok stores, producer) => some { sys with
          producer := producer
          stores := stores
          appended := sys.appended ++
            [⟨sys.producer.nextStartAbs call.bytes.length, call.bytes⟩] }
      | (_, producer) => some { sys with producer := producer }
    | _ :: _ => none
  | .store =>
    match sys.stores with
    | [] => none
    | op :: stores => some { sys with store := sys.store.apply op, stores := stores }
  | .poll =>
    match sys.poll with
    | none => some (sys.proceed
        (sys.consumer.poll capacity (ConcurrentRing.readControlSnapshot capacity)))
    | some _ => none
  | .load =>
    match sys.poll with
    | some (.load i k) => some (sys.proceed (k (ConcurrentRing.read i sys.store)))
    | _ => none

end System

namespace System

/-- The next load of the poll under way is one on which a record seems to cross the pool's end. -/
def CrossesNext (capacity : ℕ) (sys : System) : Prop :=
  match sys.poll with
  | some (.load i _) => Crosses capacity i (ConcurrentRing.read i sys.store)
  | _ => False

instance (capacity : ℕ) (sys : System) : Decidable (sys.CrossesNext capacity) :=
  match hpoll : sys.poll with
  | some (.load i _) =>
    decidable_of_iff (Crosses capacity i (ConcurrentRing.read i sys.store))
      (by simp [CrossesNext, hpoll])
  | some (.ret _) => isFalse (by simp [CrossesNext, hpoll])
  | none => isFalse (by simp [CrossesNext, hpoll])

end System

/-! ## What the consumer has seen -/

/-- What is known of a consumer with the given cursor and deliveries. Below `floor`, which neither
the cursor nor the published head ever leaves behind, lies everything delivered; and what the
cursor has passed was delivered or has been passed by the oldest offset. -/
structure Consumed (cursor : ℕ) (delivered : List ReadRecord) (floor : ℕ) (m : Memory) : Prop where
  cursor_at : ∃ rest, At m.view.log cursor rest
  floor_le_cursor : floor ≤ cursor
  floor_le_head : floor ≤ headOf m.published
  below : ∀ r ∈ delivered, r.startAbs < floor
  sorted : delivered.Pairwise fun a b => a.startAbs < b.startAbs
  genuine : ∀ r ∈ delivered, ∃ e ∈ m.view.log, Delivers r e
  passed : ∀ e ∈ m.view.log, e.start < cursor →
    (∃ r ∈ delivered, Delivers r e) ∨ e.start < m.ring.oldestAbs

namespace Consumed

variable {cap cursor floor : ℕ} {delivered : List ReadRecord} {m m' : Memory}

/-- The memory may move on. -/
lemma later (h : Consumed cursor delivered floor m) (hm : m'.Valid cap)
    (hlater : m.view.Later m'.view) : Consumed cursor delivered floor m' := by
  have hlaid := hm.view.laid
  obtain ⟨more, hmore⟩ := hlater.log
  obtain ⟨rest, hat⟩ := h.cursor_at
  refine ⟨hlater.at hat, h.floor_le_cursor, ?_, h.below, h.sorted, ?_, ?_⟩
  · obtain ⟨new, hnew⟩ := hlater.published
    have hpub : Laid cap (m.published ++ new) := by
      have : m'.published = m.published ++ new := hnew.symm
      exact this ▸ hlaid.of_append
    exact h.floor_le_head.trans ((hpub.headOf_le).trans (congrArg headOf hnew).le)
  · intro r hr
    obtain ⟨e, he, hdel⟩ := h.genuine r hr
    exact ⟨e, hlater.log.subset he, hdel⟩
  · intro e he hlt
    rw [← hmore] at he hlaid
    rcases List.mem_append.mp he with hold | hnew
    · exact (h.passed e hold hlt).imp_right fun hpassed => hpassed.trans_le hlater.oldest
    · -- an entry begun later starts behind the cursor
      exfalso
      have hhead := hlaid.head_le_of_mem hnew
      have := hat.le_head hlaid.of_append
      omega

end Consumed

/-! ## The surroundings of a poll -/

/-- What a poll may assume: loads see the owned store, the memory stays valid and moves forward,
and the values loaded are admitted. -/
def ownedEnv (cap : ℕ) (admits : (load : Load Empty) → load.Value Empty.elim → Prop) :
    Env (Load Empty) (Load.Value Empty.elim) Memory where
  read load m := ConcurrentRing.read load m.ring
  rely m m' := m'.Valid cap ∧ m.view.Later m'.view
  admits := admits

section Owned

variable {cap : ℕ} {admits : (load : Load Empty) → load.Value Empty.elim → Prop} {m : Memory}

lemma observes_ownedEnv : Observes (ownedEnv cap admits) Memory.view cap :=
  ⟨fun _ => rfl, fun _ _ => rfl, fun _ _ _ => rfl, fun _ _ _ _ => rfl, fun h => ⟨h.1.view, h.2⟩⟩

/-- The three loads of the owned snapshot. -/
lemma wp_readControlSnapshot (hcap : cap < 2 ^ 32) :
    (ConcurrentRing.readControlSnapshot cap).wp (ownedEnv cap admits)
      (fun snapshot m' => ∃ P, SnapshotOf Memory.view cap m snapshot P m') (fun _ _ => True) m := by
  refine Attempt.wp_bind fun m₁ hrely₁ _ => ?_
  refine Attempt.wp_bind fun m₂ hrely₂ _ => ?_
  refine Attempt.wp_bind fun m₃ hrely₃ _ => ?_
  have hlater := (hrely₁.2.trans hrely₂.2).trans hrely₃.2
  refine Attempt.wp_pure ⟨m₁.published, ⟨hrely₃.1.view, hlater⟩, ?_, hrely₁.1.head,
    hrely₁.2.published, hrely₂.2.published.trans hrely₃.2.published, hrely₃.2.oldest, ?_⟩
  · rw [if_pos hcap, UInt32.toNat_ofNat', Nat.mod_eq_of_lt hcap]
  · obtain ⟨rest, hat⟩ := hrely₂.1.view.oldest_at
    exact hrely₃.2.at hat

/-- What a poll that ends leaves the consumer with. -/
lemma Consumed.finish {consumer consumer' : ConcurrentRawConsumer} {delivered : List ReadRecord}
    {floor : ℕ} {m₀ : Memory} {result : Outcome RingError ReadBatch}
    (h : Consumed consumer.cursorAbs delivered floor m) (hm : m.Valid cap)
    (hfloor : floor ≤ headOf m₀.published)
    (hends : PollEnds (ownedEnv cap admits) Memory.view cap consumer m₀ (result, consumer') m) :
    ∃ floor', Consumed consumer'.cursorAbs (delivered ++ batchRecords result) floor' m := by
  have hlaid := hm.view.laid
  cases hends with
  | delivered hbatch hcursor =>
    rename_i batch P first
    obtain ⟨more, hmore⟩ := hbatch.after.trans (List.prefix_append _ m.pending)
    have hlog : m.view.log = P ++ more := hmore.symm
    have hP : Laid cap (P ++ more) := hlog ▸ hlaid
    have hfirst := hbatch.cursor_le
    have hhead : headOf m₀.published ≤ headOf P := by
      obtain ⟨new, hnew⟩ := hbatch.before
      exact hnew ▸ (show Laid cap (m₀.published ++ new) from hnew ▸ hP.of_append).headOf_le
    obtain ⟨hleft, hright⟩ := exists_delivers hbatch.records
    have hnew : ∀ r ∈ batch.records, ∃ e ∈ P, first ≤ e.start ∧ Delivers r e := by
      intro r hr
      obtain ⟨e, he, hdel⟩ := hleft r hr
      obtain ⟨he, hge⟩ := List.mem_filter.mp he
      exact ⟨e, he, by simpa using hge, hdel⟩
    have hbelow : ∀ r ∈ delivered ++ batch.records, r.startAbs < headOf P := by
      intro r hr
      rcases List.mem_append.mp hr with hold | hin
      · have := h.below r hold
        omega
      · obtain ⟨e, he, -, hdel⟩ := hnew r hin
        rw [hdel.start]
        exact hP.of_append.start_lt_head he
    refine ⟨headOf P, ?_, hcursor.ge, ?_, hbelow, ?_, ?_, ?_⟩
    · rw [hcursor, hlog]
      exact ⟨more, At.headOf_append P more⟩
    · obtain ⟨new, hnew⟩ := hbatch.after
      have hpub : m.published = P ++ new := hnew.symm
      exact hpub ▸ (show Laid cap (P ++ new) from hpub ▸ hlaid.of_append).headOf_le
    · refine List.pairwise_append.mpr ⟨h.sorted, pairwise_delivers hbatch.records
        (hP.of_append.pairwise_start_lt.filter _), fun a ha b hb => ?_⟩
      obtain ⟨e, -, hge, hdel⟩ := hnew b hb
      have := h.below a ha
      have := h.floor_le_cursor
      rw [hdel.start]
      omega
    · intro r hr
      rcases List.mem_append.mp hr with hold | hin
      · exact h.genuine r hold
      · obtain ⟨e, he, -, hdel⟩ := hnew r hin
        exact ⟨e, hlog ▸ List.mem_append_left _ he, hdel⟩
    · intro e he hlt
      rw [hcursor] at hlt
      have heP : e ∈ P := by
        rw [hlog] at he
        rcases List.mem_append.mp he with hold | hmore
        · exact hold
        · have := hP.head_le_of_mem hmore
          omega
      by_cases hge : first ≤ e.start
      · obtain ⟨r, hr, hdel⟩ := hright e (List.mem_filter.mpr ⟨heP, by simpa using hge⟩)
        exact Or.inl ⟨r, List.mem_append_right _ hr, hdel⟩
      · rcases hbatch.first_le with heq | hold
        · obtain ⟨r, hr, hdel⟩ | hpassed := h.passed e he (by omega)
          · exact Or.inl ⟨r, List.mem_append_left _ hr, hdel⟩
          · exact Or.inr hpassed
        · exact Or.inr (show e.start < m.view.oldestAbs by omega)
  | lapped hrecords hlt hle hat =>
    have hfloor := h.floor_le_cursor
    rw [batchRecords, hrecords, List.append_nil]
    exact ⟨floor, hat, by omega, h.floor_le_head, h.below, h.sorted, h.genuine,
      fun e _ hlt' => Or.inr (show e.start < m.view.oldestAbs by omega)⟩
  | retried hrecords hcursor =>
    rw [batchRecords, hrecords, List.append_nil, hcursor]
    exact ⟨floor, h⟩
  | crossed hcross =>
    rw [batchRecords, List.append_nil]
    exact ⟨floor, h⟩

end Owned

/-! ## The invariant -/

/-- The system is sound in memory `m`: the stores left of the append keep the memory valid and
lead to a quiescent store, the consumer has seen what it should, the poll under way is going to
end well, and the polls that have ended did not panic and reported an error only after a load
that crosses the pool's end. -/
structure System.SoundIn (capacity : ℕ)
    (admits : (load : Load Empty) → load.Value Empty.elim → Prop) (sys : System) (m : Memory)
    (floor : ℕ) : Prop where
  capacity_pos : 0 < capacity
  ring : m.ring = sys.store
  valid : m.Valid capacity
  producer_capacity : sys.producer.capacity = capacity
  log : m.view.log = sys.appended
  stores : m.Follows capacity sys.stores (Quiescent sys.producer)
  consumed : Consumed sys.consumer.cursorAbs sys.delivered floor m
  poll : ∀ p, sys.poll = some p → ∃ i k m₀, p = .load i k ∧ floor ≤ headOf m₀.published ∧
    p.wp (ownedEnv capacity admits)
      (PollEnds (ownedEnv capacity admits) Memory.view capacity sys.consumer m₀) m
  results : ∀ result ∈ sys.results, result ≠ .panic ∧
    ∀ e, result = .err e → ∃ load v, admits load v ∧ Crosses capacity load v

/-- The system is sound. -/
def System.Sound (capacity : ℕ)
    (admits : (load : Load Empty) → load.Value Empty.elim → Prop) (sys : System) : Prop :=
  ∃ m floor, sys.SoundIn capacity admits m floor

namespace System.SoundIn

variable {capacity floor : ℕ} {admits : (load : Load Empty) → load.Value Empty.elim → Prop}
  {sys : System} {m m' : Memory}

/-- A new system is sound. -/
lemma start {store : ConcurrentRing} (h : ConcurrentRing.new capacity = .ok store) :
    (System.start capacity store).SoundIn capacity admits ⟨[], [], store⟩ 0 := by
  have hquiet := quiescent_new h
  refine ⟨hquiet.capacity_pos, rfl, hquiet.valid, rfl, rfl, hquiet, ?_, by simp [System.start],
    by simp [System.start]⟩
  exact ⟨⟨[], At.zero _⟩, le_rfl, le_rfl, by simp [System.start, delivered],
    by simp [System.start, delivered], by simp [System.start, delivered],
    by simp [Memory.view, View.log]⟩

/-- The poll under way can wait while the memory moves. -/
lemma poll_later (h : sys.SoundIn capacity admits m floor) (hm : m'.Valid capacity)
    (hlater : m.view.Later m'.view) :
    ∀ p, sys.poll = some p → ∃ i k m₀, p = .load i k ∧ floor ≤ headOf m₀.published ∧
      p.wp (ownedEnv capacity admits)
        (PollEnds (ownedEnv capacity admits) Memory.view capacity sys.consumer m₀) m' := by
  intro p hp
  obtain ⟨i, k, m₀, rfl, hfloor, hwp⟩ := h.poll p hp
  refine ⟨i, k, m₀, rfl, hfloor, Reader.wp_stable ?_ hwp ⟨hm, hlater⟩⟩
  rintro m₁ m₂ m₃ ⟨-, h₁₂⟩ ⟨hm₃, h₂₃⟩
  exact ⟨hm₃, h₁₂.trans h₂₃⟩

/-- A poll goes on, or ends and returns its result. -/
lemma proceed (h : sys.SoundIn capacity admits m floor) {m₀ : Memory}
    (hfloor : floor ≤ headOf m₀.published) {p : Poll}
    (hwp : p.wp (ownedEnv capacity admits)
      (PollEnds (ownedEnv capacity admits) Memory.view capacity sys.consumer m₀) m) :
    (sys.proceed p).Sound capacity admits := by
  cases p with
  | load i k =>
    refine ⟨m, floor, h.capacity_pos, h.ring, h.valid, h.producer_capacity, h.log, h.stores,
      h.consumed, ?_, h.results⟩
    intro p hp
    obtain rfl := Option.some.inj hp
    exact ⟨i, k, m₀, rfl, hfloor, hwp⟩
  | ret out =>
    obtain ⟨result, consumer'⟩ := out
    have hends : PollEnds (ownedEnv capacity admits) Memory.view capacity sys.consumer m₀
        (result, consumer') m := hwp
    obtain ⟨floor', hconsumed⟩ := h.consumed.finish h.valid hfloor hends
    refine ⟨m, floor', h.capacity_pos, h.ring, h.valid, h.producer_capacity, h.log, h.stores, ?_,
      ?_, ?_⟩
    · simpa [System.proceed, delivered] using hconsumed
    · intro p hp
      simp [System.proceed] at hp
    · intro r hr
      rcases List.mem_append.mp hr with hold | hlast
      · exact h.results r hold
      · rw [List.mem_singleton.mp hlast]
        cases hends with
        | crossed hcross => exact ⟨by simp, fun _ _ => hcross⟩
        | delivered _ _ => exact ⟨by simp, by simp⟩
        | lapped _ _ _ _ => exact ⟨by simp, by simp⟩
        | retried _ _ => exact ⟨by simp, by simp⟩

/-- A call of the producer: it announces its entry, or is rejected and changes nothing. -/
lemma append (h : sys.SoundIn capacity admits m floor) {call : AppendCall} {sys' : System}
    (hstep : sys.step capacity (.append call) = some sys') : sys'.Sound capacity admits := by
  cases hstores : sys.stores with
  | cons op stores => simp [System.step, hstores] at hstep
  | nil =>
    have hquiet : Quiescent sys.producer m := by
      have := h.stores
      rwa [hstores] at this
    rcases call.run_cases sys.producer with ⟨record, henc, hle, hbytes, hrun⟩ | ⟨e, hrun⟩
    · simp only [System.step, hstores, hrun, hbytes, Option.some.injEq] at hstep
      subst hstep
      obtain ⟨hvalid, hlater, hfollows⟩ := hquiet.follows_append henc hle rfl
      rw [h.producer_capacity] at hvalid hfollows
      refine ⟨⟨m.published,
          [⟨sys.producer.nextStartAbs (record.bytes true).length, record.bytes true⟩], m.ring⟩,
        floor, h.capacity_pos, h.ring, hvalid, ?_, ?_, hfollows,
        h.consumed.later hvalid hlater, h.poll_later hvalid hlater, h.results⟩
      · obtain ⟨startAbs, finalHead, kept, evicted, -, -, -, -, heq⟩ :=
          sys.producer.appendBytesCore_eq (record.bytes true)
        rw [heq]
        exact h.producer_capacity
      · obtain ⟨-, -, -, -, -, hpend⟩ := hquiet
        have hlog := h.log
        rw [View.log, Memory.view, hpend, List.append_nil] at hlog
        simp only [View.log, Memory.view, hlog]
    · simp only [System.step, hstores, hrun, Option.some.injEq] at hstep
      subst hstep
      refine ⟨m, floor, ?_⟩
      rw [← hstores]
      exact h

/-- **Every step keeps the invariant**, if the value of a load is admitted. -/
lemma step (h : sys.SoundIn capacity admits m floor) (hcap : capacity < 2 ^ 32)
    {action : Action} {sys' : System}
    (hadmits : ∀ i k, sys.poll = some (.load i k) → action = .load →
      admits i (ConcurrentRing.read i sys.store))
    (hstep : sys.step capacity action = some sys') : sys'.Sound capacity admits := by
  cases action with
  | append call => exact h.append hstep
  | store =>
    cases hstores : sys.stores with
    | nil => simp [System.step, hstores] at hstep
    | cons op stores =>
      simp only [System.step, hstores, Option.some.injEq] at hstep
      subst hstep
      have hfollows := h.stores
      rw [hstores] at hfollows
      obtain ⟨hvalid, hlater, hrest⟩ := hfollows
      refine ⟨m.apply op, floor, h.capacity_pos, ?_, hvalid, h.producer_capacity, ?_, hrest,
        h.consumed.later hvalid hlater, h.poll_later hvalid hlater, h.results⟩
      · rw [← h.ring]
        cases op <;> rfl
      · rw [← h.log]
        cases op <;> simp [Memory.apply, Memory.view, View.log]
  | poll =>
    cases hpoll : sys.poll with
    | some p => simp [System.step, hpoll] at hstep
    | none =>
      simp only [System.step, hpoll, Option.some.injEq] at hstep
      subst hstep
      exact h.proceed h.consumed.floor_le_head
        (wp_poll observes_ownedEnv h.capacity_pos (wp_readControlSnapshot hcap) h.consumed.cursor_at)
  | load =>
    cases hpoll : sys.poll with
    | none => simp [System.step, hpoll] at hstep
    | some p =>
      obtain ⟨i, k, m₀, rfl, hfloor, hwp⟩ := h.poll p hpoll
      simp only [System.step, hpoll, Option.some.injEq] at hstep
      subst hstep
      have hread : (ownedEnv capacity admits).read i m = ConcurrentRing.read i sys.store := by
        rw [← h.ring]
        rfl
      rw [← hread]
      refine h.proceed hfloor (hwp m ⟨h.valid, View.Later.refl _⟩ ?_)
      rw [hread]
      exact hadmits i k hpoll rfl

end System.SoundIn

/-! ## Runs -/

section Runs

variable {capacity : ℕ} {store : ConcurrentRing} {sys : System}

/-- **Every state of a run is sound**, if the loads that meet the condition load admitted
values. -/
lemma System.sound_of_runs {meets : System → System.Action → Prop}
    {admits : (load : Load Empty) → load.Value Empty.elim → Prop} (hcap : capacity < 2 ^ 32)
    (hnew : ConcurrentRing.new capacity = .ok store)
    (hadmits : ∀ sys : System, meets sys .load → ∀ i k, sys.poll = some (.load i k) →
      admits i (ConcurrentRing.read i sys.store))
    (hrun : Runs (System.step capacity) meets (System.start capacity store) sys) :
    sys.Sound capacity admits := by
  refine hrun.invariant ⟨_, _, System.SoundIn.start hnew⟩ ?_
  rintro sys action sys' ⟨m, floor, hsound⟩ hmeets hstep
  refine hsound.step hcap ?_ hstep
  rintro i k hpoll rfl
  exact hadmits _ hmeets i k hpoll

/-- **Safety of the concurrent ring.** In every state of every run of a producer and a consumer
over a new owned store: every delivered record is, with its span, the decoding of the bytes
appended at its start, of which there is one; the starts of the delivered records increase; and
of an appended record that the cursor has passed and that was not delivered, the oldest offset
has passed the start. -/
theorem concurrent_ring_safety (hcap : capacity < 2 ^ 32)
    (hnew : ConcurrentRing.new capacity = .ok store)
    (hrun : Runs (System.step capacity) (fun _ _ => True) (System.start capacity store) sys) :
    (sys.appended.Pairwise fun a b => a.start < b.start) ∧
      (∀ r ∈ sys.delivered, ∃ e ∈ sys.appended, r.startAbs = e.start ∧ r.endAbs = e.stop ∧
        decode e.data = .ok ⟨r.record, e.data.length⟩) ∧
      (sys.delivered.Pairwise fun a b => a.startAbs < b.startAbs) ∧
      ∀ e ∈ sys.appended, e.start < sys.consumer.cursorAbs →
        (∀ r ∈ sys.delivered, r.startAbs ≠ e.start) → e.start < sys.store.oldestAbs := by
  have hsound : sys.Sound capacity fun _ _ => True :=
    System.sound_of_runs hcap hnew (fun _ _ _ _ _ => trivial) hrun
  obtain ⟨m, floor, h⟩ := hsound
  rw [← h.log, ← h.ring]
  refine ⟨h.valid.view.laid.pairwise_start_lt, fun r hr => ?_, h.consumed.sorted,
    fun e he hlt hnone => ?_⟩
  · obtain ⟨e, he, hdel⟩ := h.consumed.genuine r hr
    exact ⟨e, he, hdel.start, hdel.stop, hdel.decodes⟩
  · rcases h.consumed.passed e he hlt with ⟨r, hr, hdel⟩ | hpassed
    · exact absurd hdel.start (hnone r hr)
    · exact hpassed

/-- The actions of a call that performs `stores` stores, with nothing in between. -/
def appendAlone (record : Record) (stores : ℕ) : List System.Action :=
  .append (.writeRecord record) :: List.replicate stores .store

/-- In a pool of 100, the third record evicts the first while a poll is reading it: the poll laps,
the next one delivers the other two, and the oldest offset has passed the first. -/
theorem concurrent_ring_safety_over_eviction :
    ∃ store sys, ConcurrentRing.new 100 = .ok store ∧
      Runs (System.step 100) (fun _ _ => True) (System.start 100 store) sys ∧
      sys.delivered.map (·.startAbs) = [44, 100] ∧ sys.consumer.cursorAbs = 144 ∧
      ∀ e ∈ sys.appended, e.start < sys.consumer.cursorAbs →
        (∀ r ∈ sys.delivered, r.startAbs ≠ e.start) → e.start < sys.store.oldestAbs := by
  have hmap : (follow (System.step 100) (fun _ _ => True)
      (appendAlone (Record.new 0 0 0 1 1) 49 ++ appendAlone (Record.new 0 0 0 1 1) 49 ++
        .poll :: List.replicate 10 .load ++ appendAlone (Record.new 0 0 0 1 1) 51 ++
        List.replicate 45 .load ++ .poll :: List.replicate 109 .load)
      (System.start 100 ⟨List.replicate 100 0, 0, 0, 0⟩)).map
      (fun sys => (sys.delivered.map (·.startAbs), sys.consumer.cursorAbs)) =
        some ([44, 100], 144) := by
    decide +kernel
  obtain ⟨sys, hfollow, heq⟩ := Option.map_eq_some_iff.mp hmap
  have hrun := Runs.start.of_follow hfollow
  obtain ⟨-, -, -, hpassed⟩ := concurrent_ring_safety (by decide) rfl hrun
  exact ⟨_, sys, rfl, hrun, congrArg Prod.fst heq, congrArg Prod.snd heq, hpassed⟩

/-- The step is not a load on which a record seems to cross the pool's end. -/
def KeepsInPool (capacity : ℕ) (sys : System) (action : System.Action) : Prop :=
  action = .load → ¬sys.CrossesNext capacity

instance (capacity : ℕ) (sys : System) : DecidablePred (KeepsInPool capacity sys)
  | .append _ => isTrue (by simp [KeepsInPool])
  | .store => isTrue (by simp [KeepsInPool])
  | .poll => isTrue (by simp [KeepsInPool])
  | .load => decidable_of_iff (¬sys.CrossesNext capacity) (by simp [KeepsInPool])

/-- **A poll recovers unless a record seems to cross the pool's end.** In every run in which no
load shows, in the middle of an overwrite, a record that reaches over the end of the pool, every
poll ends `Ok`. -/
theorem poll_recovers_in_pool (hcap : capacity < 2 ^ 32)
    (hnew : ConcurrentRing.new capacity = .ok store)
    (hrun : Runs (System.step capacity) (KeepsInPool capacity) (System.start capacity store) sys) :
    ∀ result ∈ sys.results, ∃ batch, result = .ok batch := by
  have hsound : sys.Sound capacity fun load v => ¬Crosses capacity load v := by
    refine System.sound_of_runs hcap hnew (fun sys hmeets i k hpoll => ?_) hrun
    have := hmeets rfl
    rwa [System.CrossesNext, hpoll] at this
  obtain ⟨m, floor, h⟩ := hsound
  intro result hresult
  obtain ⟨hpanic, herr⟩ := h.results result hresult
  cases result with
  | ok batch => exact ⟨batch, rfl⟩
  | err e =>
    obtain ⟨load, v, hnot, hcross⟩ := herr e rfl
    exact absurd hcross hnot
  | panic => exact absurd rfl hpanic

/-- A poll that laps over an eviction meets the condition: both polls end `Ok`. -/
theorem poll_recovers_in_pool_over_eviction :
    ∃ store sys, ConcurrentRing.new 100 = .ok store ∧
      Runs (System.step 100) (KeepsInPool 100) (System.start 100 store) sys ∧
      sys.results.length = 2 ∧
      ∀ result ∈ sys.results, ∃ batch, result = .ok batch := by
  have hmap : (follow (System.step 100) (KeepsInPool 100)
      (appendAlone (Record.new 0 0 0 1 1) 49 ++ appendAlone (Record.new 0 0 0 1 1) 49 ++
        .poll :: List.replicate 10 .load ++ appendAlone (Record.new 0 0 0 1 1) 51 ++
        List.replicate 45 .load ++ .poll :: List.replicate 109 .load)
      (System.start 100 ⟨List.replicate 100 0, 0, 0, 0⟩)).map
      (·.results.length) = some 2 := by
    decide +kernel
  obtain ⟨sys, hfollow, hlen⟩ := Option.map_eq_some_iff.mp hmap
  have hrun := Runs.start.of_follow hfollow
  exact ⟨_, sys, rfl, hrun, hlen, poll_recovers_in_pool (by decide) rfl hrun⟩

/-- A poll that fails: it has read the record at 44 of a pool of 100 and goes on to the gap at 88,
where a fourth record has meanwhile been written over the mark. The byte found there is not zero
and there is no room for a header behind it, so the poll reports a record that crosses the
boundary, although the oldest offset has moved past its cursor. -/
theorem poll_reports_overwritten_gap :
    ∃ store sys, ConcurrentRing.new 100 = .ok store ∧
      Runs (System.step 100) (fun _ _ => True) (System.start 100 store) sys ∧
      sys.results = [.err (.recordCrossesBoundary 88)] ∧
      sys.consumer.cursorAbs < sys.store.oldestAbs := by
  have hmap : (follow (System.step 100) (fun _ _ => True)
      (appendAlone (Record.new 0 0 0 1 1) 49 ++ appendAlone (Record.new 0 0 0 1 1) 49 ++
        appendAlone (Record.new 0 0 0 1 1) 51 ++ .poll :: List.replicate 55 .load ++
        appendAlone { Record.new 0 0 0 1 1 with slots := [⟨0, 0, List.replicate 8 1⟩] } 62 ++
        [.load]) (System.start 100 ⟨List.replicate 100 0, 0, 0, 0⟩)).map
      (fun sys => (sys.results, sys.consumer.cursorAbs, sys.store.oldestAbs)) =
        some ([.err (.recordCrossesBoundary 88)], 0, 100) := by
    decide +kernel
  obtain ⟨sys, hfollow, heq⟩ := Option.map_eq_some_iff.mp hmap
  obtain ⟨hresults, hcursor, holdest⟩ : sys.results = [.err (.recordCrossesBoundary 88)] ∧
      sys.consumer.cursorAbs = 0 ∧ sys.store.oldestAbs = 100 := by
    simpa using heq
  exact ⟨_, sys, rfl, Runs.start.of_follow hfollow, hresults, by omega⟩

end Runs

end OpenOT
