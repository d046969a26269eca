import OpenOT.Carriage.ConcurrentAppend
import OpenOT.Lib.Runs
import OpenOT.Lib.Seqlock
import OpenOT.Shm.Store

set_option relaxedAutoImplicit false
set_option autoImplicit false

/-!
# Consistency of the control snapshot

A producer that appends to a shared store while a reader takes control snapshots. A step is a
producer call (which only computes the stores it will perform), one of these stores, the start of
a snapshot, or one load of the snapshot under way.

## Main definitions

* `OpenOT.SnapshotSystem` — the store, the producer, what each side has still to do, and the
  history: the control words between two appends, and the snapshots returned.
* `OpenOT.SnapshotSystem.step` — one step.
* `OpenOT.SnapshotSystem.BelowWrap` — fewer than `2 ^ 31` appends complete during an attempt.
* `OpenOT.SnapshotSystem.Sound` — the invariant.

## Main results

* `OpenOT.SharedStore.wp_attemptSnapshot` — an attempt that succeeds saw the words between two appends.
* `OpenOT.SnapshotSystem.Sound.step` — every step keeps the invariant.
* `OpenOT.control_snapshot_consistent` — every snapshot returned is consistent.

## Design

The producer's stores bracket every change of a control word by the two increments of `SeqLock`;
`OpenOT.Bracketed` says so of the stores left of the append under way. With it the store follows
a `Seqlock` over the three words, and the reader relies on nothing else. The number of
appends completed when an attempt began is kept as a history variable, set by the first load of
`SeqLock`; the loads of an attempt do not touch it.
-/

namespace OpenOT

open Rust Shared Transition

/-- The three control words: head, oldest offset and lost count. -/
abbrev Words : Type := ℕ × ℕ × ℕ

/-- The words as loads return them. -/
def SharedStore.words (store : SharedStore) : Words :=
  (store.ring.headAbs % 2 ^ 64, store.ring.oldestAbs % 2 ^ 64, store.ring.lostCount % 2 ^ 64)

/-- The words of a snapshot. -/
def ControlBlockSnapshot.words (snapshot : ControlBlockSnapshot) : Words :=
  (snapshot.headAbs, snapshot.oldestAbs, snapshot.lostCount)

/-! ## The transition system -/

/-- A snapshot under way: the loads it has still to do. -/
abbrev Reading : Type :=
  Reader (Load ControlLoad) (Load.Value ControlLoad.Value)
    (Outcome ControlBlockError ControlBlockSnapshot)

/-- The load a reader performs next. -/
def nextLoad : Reading → Option (Load ControlLoad)
  | .ret _ => none
  | .load i _ => some i

/-- A producer and a reader of snapshots over a shared store. -/
structure SnapshotSystem where
  store : SharedStore
  producer : ConcurrentProducer
  /-- the stores left of the append under way -/
  stores : List StoreOp
  /-- the snapshot under way -/
  reading : Option Reading
  /-- the length of `settled` when the attempt under way began -/
  attemptStart : ℕ
  /-- the control words before the first append and after every append completed, in order -/
  settled : List Words
  /-- the results of the snapshots that have ended, in order -/
  results : List (Outcome ControlBlockError ControlBlockSnapshot)

namespace SnapshotSystem

/-- A new producer over a store. -/
def start (capacity : ℕ) (store : SharedStore) : SnapshotSystem :=
  ⟨store, .withStore capacity, [], none, 0, [store.words], []⟩

/-- The snapshot goes on, or ends and returns its result. -/
def proceed (sys : SnapshotSystem) : Reading → SnapshotSystem
  | .ret result => { sys with reading := none, results := sys.results ++ [result] }
  | .load i k => { sys with reading := some (.load i k) }

/-- A load is performed: the first load of `SeqLock` begins an attempt. -/
def mark (sys : SnapshotSystem) (load : Load ControlLoad) : SnapshotSystem :=
  { sys with attemptStart :=
      if load = .control .firstSeqLock then sys.settled.length else sys.attemptStart }

/-- What can happen next. -/
inductive Action where
  | append (call : AppendCall)
  | store
  | snapshot
  | load

/-- One step; `none` when the action is not possible. -/
def step (sys : SnapshotSystem) : Action → Option SnapshotSystem
  | .append call =>
    match sys.stores with
    | [] =>
      match call.run sys.producer with
      | (.ok stores, producer) => some { sys with producer := producer, stores := stores }
      | (_, producer) => some { sys with producer := producer }
    | _ :: _ => none
  | .store =>
    match sys.stores with
    | [] => none
    | op :: stores => some { sys with
        store := sys.store.apply op
        stores := stores
        settled := if op = .endControlUpdate then sys.settled ++ [(sys.store.apply op).words]
          else sys.settled }
  | .snapshot =>
    match sys.reading with
    | none => some (sys.proceed SharedStore.readControlSnapshot)
    | some _ => none
  | .load =>
    match sys.reading with
    | some (.load i k) => some ((sys.mark i).proceed (k (SharedStore.read i sys.store)))
    | _ => none

/-- The next load begins an attempt. -/
def BeginsAttempt (sys : SnapshotSystem) : Prop :=
  sys.reading.bind nextLoad = some (.control .firstSeqLock)

instance (sys : SnapshotSystem) : Decidable sys.BeginsAttempt :=
  inferInstanceAs (Decidable (_ = _))

/-- At a load of an attempt under way, fewer than `2 ^ 31` appends have been completed since the
attempt began. -/
def BelowWrap (sys : SnapshotSystem) (action : Action) : Prop :=
  action = .load → ¬sys.BeginsAttempt → sys.settled.length < sys.attemptStart + 2 ^ 31

instance (sys : SnapshotSystem) : DecidablePred sys.BelowWrap
  | .append _ => isTrue (by simp [BelowWrap])
  | .store => isTrue (by simp [BelowWrap])
  | .snapshot => isTrue (by simp [BelowWrap])
  | .load => decidable_of_iff (¬sys.BeginsAttempt → sys.settled.length < sys.attemptStart + 2 ^ 31)
      (by simp [BelowWrap])

end SnapshotSystem

/-! ## The stores of an append -/

/-- The stores left of the append under way: none between appends, and otherwise the rest of a
list that changes control words only between the two increments of `SeqLock`. -/
inductive Bracketed : List StoreOp → Bool → Prop
  | done : Bracketed [] false
  | opens {stores : List StoreOp} (h : Bracketed stores true) :
      Bracketed (.beginControlUpdate :: stores) false
  | inside {op : StoreOp} {stores : List StoreOp} (hbegin : op ≠ .beginControlUpdate)
      (hend : op ≠ .endControlUpdate) (h : Bracketed stores true) : Bracketed (op :: stores) true
  | closes : Bracketed [.endControlUpdate] true

/-- Stores that do not touch `SeqLock`, within the brackets. -/
lemma Bracketed.append {ops stores : List StoreOp} (h : Bracketed stores true)
    (hops : ∀ op ∈ ops, op ≠ .beginControlUpdate ∧ op ≠ .endControlUpdate) :
    Bracketed (ops ++ stores) true := by
  induction ops with
  | nil => exact h
  | cons op ops ih =>
    obtain ⟨hbegin, hend⟩ := hops op List.mem_cons_self
    exact .inside hbegin hend (ih fun op hop => hops op (List.mem_cons_of_mem _ hop))

/-- The stores of an append are bracketed. -/
lemma bracketed_appendBytesCore (producer : ConcurrentProducer) (bytes : Bytes) :
    Bracketed (producer.appendBytesCore bytes).1 false := by
  obtain ⟨startAbs, finalHead, kept, evicted, -, -, -, -, heq⟩ := producer.appendBytesCore_eq bytes
  rw [heq]
  refine .opens (Bracketed.append ?_ ?_)
  · refine .inside (by simp) (by simp) (.inside (by simp) (by simp) (Bracketed.append ?_ ?_))
    · exact .inside (by simp) (by simp) .closes
    · intro op hop
      rcases List.mem_append.mp hop with hmark | hbody
      · split_ifs at hmark
        · simp [List.mem_singleton.mp hmark]
        · simp at hmark
      · obtain ⟨i, hi, rfl⟩ := List.mem_mapIdx.mp hbody
        simp
  · intro op hop
    split_ifs at hop
    · simp [List.mem_singleton.mp hop]
    · simp at hop

/-! ## The store as a sequence lock -/

/-- The store follows a sequence lock over its three words. -/
structure FollowsLock (store : SharedStore) (lock : Seqlock Words) : Prop where
  valid : lock.Valid
  words : lock.current = store.words
  seqLock : (store.seqLock.toNat + 2) % 2 ^ 32 = lock.count % 2 ^ 32

namespace FollowsLock

variable {store : SharedStore} {lock : Seqlock Words}

/-- `SeqLock` is even exactly between appends. -/
lemma updating_of_even (h : FollowsLock store lock) (heven : store.seqLock % 2 = 0) :
    lock.updating = false := by
  have hlock := h.seqLock
  have heven' : store.seqLock.toNat % 2 = 0 := by
    simpa using congrArg UInt32.toNat heven
  rw [← Seqlock.count_even_iff]
  omega

/-- An increment of `SeqLock` is counted. -/
lemma seqLock_succ (h : FollowsLock store lock) :
    ((store.seqLock + 1).toNat + 2) % 2 ^ 32 = (lock.count + 1) % 2 ^ 32 := by
  have hlock := h.seqLock
  have hadd : (store.seqLock + 1).toNat = (store.seqLock.toNat + 1) % 2 ^ 32 := by
    simp [UInt32.toNat_add]
  omega

/-- **One store of an append**: the lock moves on, and an append completed is recorded with the
words it leaves. -/
lemma apply (h : FollowsLock store lock) {op : StoreOp} {stores : List StoreOp}
    (hstores : Bracketed (op :: stores) lock.updating) :
    ∃ lock', FollowsLock (store.apply op) lock' ∧ lock.Later lock' ∧
      Bracketed stores lock'.updating ∧
      lock'.committed = if op = .endControlUpdate then
        lock.committed ++ [(store.apply op).words] else lock.committed := by
  generalize hupd : lock.updating = updating at hstores
  cases hstores with
  | opens hrest =>
    refine ⟨lock.announce, ⟨(Seqlock.later_announce hupd).valid, h.words, ?_⟩,
      Seqlock.later_announce hupd, hrest, rfl⟩
    rw [Seqlock.count_announce hupd]
    exact h.seqLock_succ
  | inside hbegin hend hrest =>
    refine ⟨lock.write (store.apply op).words, ⟨(Seqlock.later_write hupd _).valid, rfl, ?_⟩,
      Seqlock.later_write hupd _, ?_, (if_neg hend).symm⟩
    · have hsame : (store.apply op).seqLock = store.seqLock := by
        cases op with
        | beginControlUpdate => exact absurd rfl hbegin
        | endControlUpdate => exact absurd rfl hend
        | _ => rfl
      rw [hsame]
      exact h.seqLock
    · change Bracketed stores lock.updating
      rw [hupd]
      exact hrest
  | closes =>
    refine ⟨lock.commit, ⟨(Seqlock.later_commit hupd).valid, h.words, ?_⟩,
      Seqlock.later_commit hupd, .done, ?_⟩
    · rw [Seqlock.count_commit hupd]
      exact h.seqLock_succ
    · rw [if_pos rfl, Seqlock.commit, h.words]
      rfl

end FollowsLock

/-! ## An attempt -/

namespace SharedStore

/-- The surroundings of a snapshot: loads see the shared store, which follows a sequence lock that
moves on. -/
def sharedEnv :
    Env (Load ControlLoad) (Load.Value ControlLoad.Value) (SharedStore × Seqlock Words) where
  read load m := read load m.1
  rely m m' := FollowsLock m'.1 m'.2 ∧ m.2.Later m'.2
  admits _ _ := True

section Attempt

variable {m m₁ m₂ m₃ : SharedStore × Seqlock Words}

lemma rely_refl (h : FollowsLock m.1 m.2) : sharedEnv.rely m m := ⟨h, Seqlock.Later.refl h.valid⟩

lemma rely_trans (h₁₂ : sharedEnv.rely m₁ m₂) (h₂₃ : sharedEnv.rely m₂ m₃) :
    sharedEnv.rely m₁ m₃ :=
  ⟨h₂₃.1, h₁₂.2.trans h₂₃.2⟩

section Rules

variable {α : Type} {Q : α → SharedStore × Seqlock Words → Prop}
  {E : ControlBlockError → SharedStore × Seqlock Words → Prop}

/-- A load in sequence, of a control block field. -/
lemma wp_loadControl {location : ControlLoad}
    {k : location.Value → SharedAttempt ControlBlockError α}
    (h : ∀ m', sharedEnv.rely m m' → (k (readControl location m'.1)).wp sharedEnv Q E m') :
    (loadControl location >>= k).wp sharedEnv Q E m :=
  Attempt.wp_bind fun m' hrely _ => h m' hrely

/-- The loads of the three words, in sequence. -/
lemma wp_loadHead {k : ℕ → SharedAttempt ControlBlockError α}
    (h : ∀ m', sharedEnv.rely m m' → (k m'.1.words.1).wp sharedEnv Q E m') :
    (loadHead >>= k).wp sharedEnv Q E m :=
  Attempt.wp_bind fun m' hrely _ => h m' hrely

@[inherit_doc wp_loadHead]
lemma wp_loadOldest {k : ℕ → SharedAttempt ControlBlockError α}
    (h : ∀ m', sharedEnv.rely m m' → (k m'.1.words.2.1).wp sharedEnv Q E m') :
    (loadOldest >>= k).wp sharedEnv Q E m :=
  Attempt.wp_bind fun m' hrely _ => h m' hrely

@[inherit_doc wp_loadHead]
lemma wp_loadLost {k : ℕ → SharedAttempt ControlBlockError α}
    (h : ∀ m', sharedEnv.rely m m' → (k m'.1.words.2.2).wp sharedEnv Q E m') :
    (loadLost >>= k).wp sharedEnv Q E m :=
  Attempt.wp_bind fun m' hrely _ => h m' hrely

/-- A patch in sequence: the slice is replaced and nothing else. -/
lemma wp_patch {bytes ys : Bytes} {offset : ℕ} {k : Bytes → SharedAttempt ControlBlockError α}
    (hle : offset + ys.length ≤ bytes.length)
    (h : ∀ zs : Bytes, zs.length = bytes.length → (zs.drop offset).take ys.length = ys →
      (∀ c n, c + n ≤ offset ∨ offset + ys.length ≤ c →
        (zs.drop c).take n = (bytes.drop c).take n) → (k zs).wp sharedEnv Q E m) :
    ((Attempt.lift (copyFromSlice bytes offset ys) : SharedAttempt ControlBlockError Bytes) >>=
      k).wp sharedEnv Q E m := by
  obtain ⟨zs, hzs, hlen, hfield, hframe⟩ := exists_copyFromSlice (ε := ControlBlockError) hle
  exact Attempt.wp_bind (Attempt.wp_lift_ok hzs (h zs hlen hfield hframe))

end Rules

/-- The single-byte loads fill the image. -/
lemma wp_loadControlBytes (h : FollowsLock m.1 m.2) (offset n : ℕ) :
    (loadControlBytes offset n).wp sharedEnv
      (fun bytes m' => bytes.length = n ∧ sharedEnv.rely m m')
      (fun (_ : ControlBlockError) _ => True) m := by
  induction n generalizing offset m with
  | zero => exact Attempt.wp_pure ⟨rfl, rely_refl h⟩
  | succ n ih =>
    refine wp_loadControl fun m₁ h₁ => ?_
    refine Attempt.wp_bind (Attempt.wp_mono (ih h₁.1 (offset + 1)) ?_ fun _ _ _ => trivial)
    rintro bytes m₂ ⟨hlen, h₂⟩
    exact Attempt.wp_pure ⟨congrArg (· + 1) hlen, rely_trans h₁ h₂⟩

/-- The copy of the block holds each of the three words as it was at some time during the copy. -/
lemma wp_readControlImage (h : FollowsLock m.1 m.2) (lock : UInt32) :
    (readControlImage lock).wp sharedEnv
      (fun bytes m' => bytes.length = CONTROL_BLOCK_LEN ∧ ∃ m₁ m₂ m₃, sharedEnv.rely m m₁ ∧
        sharedEnv.rely m₁ m₂ ∧ sharedEnv.rely m₂ m₃ ∧ sharedEnv.rely m₃ m' ∧
        controlField bytes OFF_HEAD_ABS 8 = toLe 8 m₁.1.words.1 ∧
        controlField bytes OFF_OLDEST_ABS 8 = toLe 8 m₂.1.words.2.1 ∧
        controlField bytes OFF_LOST_COUNT 8 = toLe 8 m₃.1.words.2.2)
      (fun _ _ => True) m := by
  unfold readControlImage
  have hload := wp_loadControlBytes h 0 CONTROL_BLOCK_LEN
  refine Attempt.wp_bind (Attempt.wp_mono hload ?_ fun _ _ _ => trivial)
  rintro b₀ m₀ ⟨hlen, h₀⟩
  rw [CONTROL_BLOCK_LEN] at hlen
  refine wp_patch (by simp [hlen, OFF_SEQ_LOCK]) fun b₁ hlen₁ _ _ => ?_
  refine wp_loadControl fun m₁ h₁ => wp_patch (by simp [hlen₁, hlen, OFF_BUFFER_ID])
    fun b₂ hlen₂ _ _ => ?_
  refine wp_loadControl fun m₂ h₂ => wp_patch (by simp [hlen₂, hlen₁, hlen, OFF_BUFFER_BYTES])
    fun b₃ hlen₃ _ _ => ?_
  rw [hlen₂, hlen₁, hlen] at hlen₃
  refine wp_loadHead fun mh hh => wp_patch (by simp [hlen₃, OFF_HEAD_ABS])
    fun b₄ hlen₄ hhead _ => ?_
  refine wp_loadOldest fun mo ho => wp_patch (by simp [hlen₄, hlen₃, OFF_OLDEST_ABS])
    fun b₅ hlen₅ holdest hframe₅ => ?_
  refine wp_loadLost fun ml hl => wp_patch (by simp [hlen₅, hlen₄, hlen₃, OFF_LOST_COUNT])
    fun b₆ hlen₆ hlost hframe₆ => ?_
  rw [hlen₅, hlen₄, hlen₃] at hlen₆
  refine wp_loadControl fun m₃ h₃ => wp_patch (by simp [hlen₆, OFF_RUN_ID])
    fun b₇ hlen₇ _ hframe₇ => ?_
  refine wp_loadControl fun m₄ h₄ => wp_patch (by simp [hlen₇, hlen₆, OFF_EPOCH_ID])
    fun b₈ hlen₈ _ hframe₈ => ?_
  refine wp_loadControl fun m₅ h₅ => ?_
  rw [hlen₇, hlen₆] at hlen₈
  obtain ⟨b₉, hb₉, hlen₉, -, hframe₉⟩ := exists_copyFromSlice (ε := ControlBlockError)
    (show OFF_EPOCH_FIRST_ABS + (toLe 8 (UInt64.toNat
      (readControl .epochFirstAbs m₅.1))).length ≤ b₈.length by
        simp [hlen₈, OFF_EPOCH_FIRST_ABS])
  simp only [length_toLe] at hhead holdest hlost hframe₅ hframe₆ hframe₇ hframe₈ hframe₉
  refine Attempt.wp_lift_ok hb₉
    ⟨by rw [hlen₉, hlen₈, CONTROL_BLOCK_LEN], mh, mo, ml, ?_, ho, hl, ?_, ?_, ?_, ?_⟩
  · exact rely_trans h₀ (rely_trans h₁ (rely_trans h₂ hh))
  · exact rely_trans h₃ (rely_trans h₄ h₅)
  · rw [controlField, hframe₉ _ _ (by decide), hframe₈ _ _ (by decide), hframe₇ _ _ (by decide),
      hframe₆ _ _ (by decide), hframe₅ _ _ (by decide)]
    exact hhead
  · rw [controlField, hframe₉ _ _ (by decide), hframe₈ _ _ (by decide), hframe₇ _ _ (by decide),
      hframe₆ _ _ (by decide)]
    exact holdest
  · rw [controlField, hframe₉ _ _ (by decide), hframe₈ _ _ (by decide), hframe₇ _ _ (by decide)]
    exact hlost

/-- A word is read back from its bytes. -/
lemma fromLe_toLe_word (n : ℕ) : fromLe (toLe 8 (n % 2 ^ 64)) = n % 2 ^ 64 := by
  rw [fromLe_toLe, show 256 ^ 8 = 2 ^ 64 by norm_num, Nat.mod_mod]

/-- **An attempt that succeeds** returns the words that an append completed has left, unless the
counter went all the way round.

**Proof sketch.** The two loads of `SeqLock` agree and the first is even, so the count has not
changed between them and there was no update under way; the three words, loaded at three times in
between, are all those there at the end. -/
lemma wp_attemptSnapshot (h : FollowsLock m.1 m.2) (heven : m.1.seqLock % 2 = 0) :
    (attemptSnapshot m.1.seqLock).wp sharedEnv
      (fun snapshot m' => m'.2.committed.length < m.2.committed.length + 2 ^ 31 →
        snapshot.words ∈ m'.2.committed)
      (fun _ _ => True) m := by
  unfold attemptSnapshot
  have himage := wp_readControlImage h m.1.seqLock
  refine Attempt.wp_bind (Attempt.wp_mono himage ?_ fun _ _ _ => trivial)
  rintro bytes m₀ ⟨hlen, m₁, m₂, m₃, h₁, h₂, h₃, h₀, hhead, holdest, hlost⟩
  refine wp_loadControl fun m' h' => ?_
  have hsecond : readControl .secondSeqLock m'.1 = m'.1.seqLock := rfl
  rcases decodeWithLocks_cases hlen m.1.seqLock m'.1.seqLock with
    ⟨e, herr⟩ | ⟨-, hsame, snapshot, hok, hsnap⟩
  · rw [hsecond, herr]
    exact Attempt.wp_throw trivial
  · rw [hsecond]
    refine Attempt.wp_lift_ok hok fun hfew => ?_
    have hquiet := h.updating_of_even heven
    have hlater := (rely_trans h₁ (rely_trans h₂ (rely_trans h₃ (rely_trans h₀ h')))).2
    have hcount : m.2.count = m'.2.count := by
      refine hlater.eq_of_mod hquiet ?_ hfew
      rw [show 2 * 2 ^ 31 = 2 ^ 32 by norm_num, ← h.seqLock, ← h'.1.seqLock, hsame]
    have hfrozen : ∀ mi, sharedEnv.rely m mi → sharedEnv.rely mi m' →
        mi.1.words = m'.2.current ∧ m'.2.committed.getLast? = some m'.2.current := by
      intro mi hmi hmi'
      obtain ⟨-, hcurrent, hlast⟩ := hmi.2.frozen hmi'.2 hquiet hcount
      exact ⟨hmi.1.words ▸ hcurrent, hlast⟩
    obtain ⟨hw₁, hlast⟩ := hfrozen m₁ h₁ (rely_trans h₂ (rely_trans h₃ (rely_trans h₀ h')))
    obtain ⟨hw₂, -⟩ := hfrozen m₂ (rely_trans h₁ h₂) (rely_trans h₃ (rely_trans h₀ h'))
    obtain ⟨hw₃, -⟩ := hfrozen m₃ (rely_trans h₁ (rely_trans h₂ h₃)) (rely_trans h₀ h')
    have hwords : snapshot.words = m'.2.current := by
      rw [hhead, holdest, hlost] at hsnap
      obtain ⟨hs₁, hs₂, hs₃⟩ := hsnap
      refine Prod.ext ?_ (Prod.ext ?_ ?_)
      · rw [← hw₁]
        exact hs₁.trans (fromLe_toLe_word _)
      · rw [← hw₂]
        exact hs₂.trans (fromLe_toLe_word _)
      · rw [← hw₃]
        exact hs₃.trans (fromLe_toLe_word _)
    rw [hwords]
    exact List.mem_of_getLast? hlast

end Attempt

/-! ## Where a snapshot stands -/

/-- The loads of an attempt do not begin another. -/
def WithinAttempt (load : Load ControlLoad) : Prop := load ≠ .control .firstSeqLock

lemma loads_loadControlBytes (offset n : ℕ) :
    Reader.Loads WithinAttempt
      (loadControlBytes offset n : SharedAttempt ControlBlockError Bytes) := by
  induction n generalizing offset with
  | zero => trivial
  | succ n ih =>
    refine Attempt.Loads.bind ⟨by simp [WithinAttempt], fun _ => trivial⟩ fun _ => ?_
    exact Attempt.Loads.bind (ih (offset + 1)) fun _ => trivial

lemma loads_attemptSnapshot (first : UInt32) :
    Reader.Loads WithinAttempt (attemptSnapshot first) := by
  refine Attempt.Loads.bind ?_ fun _ => ?_
  · refine Attempt.Loads.bind (loads_loadControlBytes 0 CONTROL_BLOCK_LEN) fun _ => ?_
    repeat' first
      | exact ⟨by simp [WithinAttempt], fun _ => trivial⟩
      | trivial
      | refine Attempt.Loads.bind ?_ fun _ => ?_
  · exact Attempt.Loads.bind ⟨by simp [WithinAttempt], fun _ => trivial⟩ fun _ => trivial

/-- A snapshot under way stands at the first load of an attempt, or within an attempt that is
going to end well. -/
inductive Stands (start : ℕ) (m : SharedStore × Seqlock Words) : Reading → Prop
  | retry (retries : ℕ) (lastError : ControlBlockError) :
      Stands start m (retrySnapshot (retries + 1) lastError)
  | attempt {i : Load ControlLoad} {k : i.Value ControlLoad.Value → Reading} (retries : ℕ)
      (hloads : (Reader.load i k).Loads WithinAttempt)
      (hwp : Attempt.wp sharedEnv (Reader.load i k)
        (fun snapshot m' => m'.2.committed.length < start + 2 ^ 31 →
          snapshot.words ∈ m'.2.committed) (fun _ _ => True) m) :
      Stands start m (Reader.bind (.load i k)
        (afterAttempt (retrySnapshot retries)))

/-- A snapshot that goes on, or ends with words that an append completed has left. -/
def Goes (start : ℕ) (m : SharedStore × Seqlock Words) (p : Reading) : Prop :=
  (∃ result, p = .ret result ∧
    ∀ snapshot, result = .ok snapshot → snapshot.words ∈ m.2.committed) ∨ Stands start m p

section Stands

variable {start : ℕ} {m m' : SharedStore × Seqlock Words}

lemma goes_retry (retries : ℕ) (lastError : ControlBlockError) :
    Goes start m (retrySnapshot retries lastError) := by
  cases retries with
  | zero => exact Or.inl ⟨_, rfl, by simp⟩
  | succ retries => exact Or.inr (.retry retries lastError)

/-- What is left of an attempt, and what follows it. -/
lemma goes_attempt {q : Reading} {retries : ℕ} (hloads : q.Loads WithinAttempt)
    (hwp : Attempt.wp sharedEnv q
      (fun snapshot m' => m'.2.committed.length < start + 2 ^ 31 →
        snapshot.words ∈ m'.2.committed) (fun _ _ => True) m)
    (hfew : m.2.committed.length < start + 2 ^ 31) :
    Goes start m
      (q.bind (afterAttempt (retrySnapshot retries))) := by
  cases q with
  | load i k => exact Or.inr (.attempt retries hloads hwp)
  | ret result =>
    cases result with
    | ok snapshot =>
      refine Or.inl ⟨.ok snapshot, rfl, ?_⟩
      rintro _ ⟨⟩
      exact hwp hfew
    | err e =>
      cases e with
      | updating seqLock => exact goes_retry retries _
      | staleSnapshot first second => exact goes_retry retries _
      | truncated needed available => exact Or.inl ⟨_, rfl, by simp⟩
      | wrongSync => exact Or.inl ⟨_, rfl, by simp⟩
      | reservedNonZero => exact Or.inl ⟨_, rfl, by simp⟩
    | panic => exact hwp.elim

/-- What follows the first load of an attempt. -/
lemma goes_firstSeqLock (hm : FollowsLock m.1 m.2) (retries : ℕ) :
    Goes m.2.committed.length m
      (if m.1.seqLock % 2 ≠ 0 then retrySnapshot retries (.updating m.1.seqLock)
      else Reader.bind (attemptSnapshot m.1.seqLock)
        (afterAttempt (retrySnapshot retries))) := by
  refine iteInduction (motive := Goes m.2.committed.length m) (fun _ => goes_retry retries _)
    fun heven => ?_
  exact goes_attempt (loads_attemptSnapshot _) (wp_attemptSnapshot hm (not_not.mp heven)) (by omega)

/-- A snapshot under way can wait while the producer moves on. -/
lemma Stands.later {p : Reading} (h : Stands start m p) (hrely : sharedEnv.rely m m') :
    Stands start m' p := by
  cases h with
  | retry retries lastError => exact .retry retries lastError
  | attempt retries hloads hwp =>
    exact .attempt retries hloads (Reader.wp_stable (fun _ _ _ => rely_trans) hwp hrely)

/-- **One load of a snapshot.** The first load of an attempt sets its start. -/
lemma Stands.load {i : Load ControlLoad} {k : i.Value ControlLoad.Value → Reading}
    (h : Stands start m (.load i k)) (hm : FollowsLock m.1 m.2)
    (hfew : i ≠ .control .firstSeqLock → m.2.committed.length < start + 2 ^ 31) :
    Goes (if i = .control .firstSeqLock then m.2.committed.length else start) m
      (k (read i m.1)) := by
  generalize hp : Reader.load i k = p at h
  cases h with
  | retry retries lastError =>
    obtain ⟨rfl, hk⟩ := Reader.load.inj hp
    obtain rfl := eq_of_heq hk
    rw [if_pos rfl]
    exact goes_firstSeqLock hm retries
  | attempt retries hloads hwp =>
    obtain ⟨rfl, hk⟩ := Reader.load.inj hp
    obtain rfl := eq_of_heq hk
    rw [if_neg hloads.1]
    exact goes_attempt (hloads.2 _) (hwp m (rely_refl hm) trivial) (hfew hloads.1)

end Stands

end SharedStore

/-! ## The invariant -/

/-- The system is sound along a sequence lock: the store follows the lock, the stores left of the
append are bracketed, the snapshot under way stands where it should, and the snapshots returned
have words that an append completed has left. -/
structure SnapshotSystem.SoundIn (sys : SnapshotSystem) (lock : Seqlock Words) : Prop where
  tracks : FollowsLock sys.store lock
  settled : lock.committed = sys.settled
  stores : Bracketed sys.stores lock.updating
  reading : ∀ p, sys.reading = some p → SharedStore.Stands sys.attemptStart (sys.store, lock) p
  results : ∀ snapshot, .ok snapshot ∈ sys.results → snapshot.words ∈ sys.settled

/-- The system is sound. -/
def SnapshotSystem.Sound (sys : SnapshotSystem) : Prop := ∃ lock, sys.SoundIn lock

namespace SnapshotSystem.SoundIn

variable {sys sys' : SnapshotSystem} {lock : Seqlock Words}

/-- A new system is sound. -/
lemma start {capacity : ℕ} {store : SharedStore} (h : SharedStore.create capacity = some store) :
    (SnapshotSystem.start capacity store).SoundIn ⟨[store.words], store.words, false⟩ := by
  unfold SharedStore.create at h
  rw [Option.ite_none_left_eq_some] at h
  obtain rfl := Option.some.inj h.2
  exact ⟨⟨fun _ => rfl, rfl, rfl⟩, rfl, .done, by simp [SnapshotSystem.start],
    by simp [SnapshotSystem.start]⟩

/-- A snapshot goes on, or ends and returns its result. -/
lemma proceed (h : sys.SoundIn lock) {attemptStart : ℕ} {p : Reading}
    (hgoes : SharedStore.Goes attemptStart (sys.store, lock) p) :
    ({ sys with attemptStart }.proceed p).Sound := by
  obtain ⟨result, rfl, hresult⟩ | hstands := hgoes
  · refine ⟨lock, h.tracks, h.settled, h.stores, by simp [SnapshotSystem.proceed], ?_⟩
    intro snapshot hmem
    rcases List.mem_append.mp hmem with hold | hnew
    · exact h.results snapshot hold
    · exact h.settled ▸ hresult snapshot (List.mem_singleton.mp hnew).symm
  · cases p with
    | ret result => cases hstands
    | load i k =>
      refine ⟨lock, h.tracks, h.settled, h.stores, ?_, h.results⟩
      rintro _ ⟨⟩
      exact hstands

/-- A load of the snapshot under way. -/
lemma load (h : sys.SoundIn lock) (hmeets : sys.BelowWrap .load)
    (hstep : sys.step .load = some sys') : sys'.Sound := by
  cases hreading : sys.reading with
  | none => simp [SnapshotSystem.step, hreading] at hstep
  | some p =>
    cases p with
    | ret result => simp [SnapshotSystem.step, hreading] at hstep
    | load i k =>
      simp only [SnapshotSystem.step, hreading, Option.some.injEq] at hstep
      subst hstep
      have hfew : i ≠ .control .firstSeqLock →
          lock.committed.length < sys.attemptStart + 2 ^ 31 := by
        intro hi
        rw [h.settled]
        exact hmeets rfl (by simpa [BeginsAttempt, hreading, nextLoad] using hi)
      have hgoes := (h.reading _ hreading).load h.tracks hfew
      rw [h.settled] at hgoes
      exact h.proceed hgoes

/-- A store of the append under way. -/
lemma store (h : sys.SoundIn lock) (hstep : sys.step .store = some sys') : sys'.Sound := by
  cases hstores : sys.stores with
  | nil => simp [SnapshotSystem.step, hstores] at hstep
  | cons op stores =>
    simp only [SnapshotSystem.step, hstores, Option.some.injEq] at hstep
    subst hstep
    have hbracketed := h.stores
    rw [hstores] at hbracketed
    obtain ⟨lock', htracks, hlater, hrest, hcommitted⟩ := h.tracks.apply hbracketed
    rw [h.settled] at hcommitted
    refine ⟨lock', htracks, hcommitted, hrest,
      fun p hp => (h.reading p hp).later ⟨htracks, hlater⟩, fun snapshot hmem => ?_⟩
    rw [← hcommitted]
    exact hlater.committed.subset (h.settled ▸ h.results snapshot hmem)

/-- A call of the producer. -/
lemma append (h : sys.SoundIn lock) {call : AppendCall}
    (hstep : sys.step (.append call) = some sys') : sys'.Sound := by
  cases hstores : sys.stores with
  | cons op stores => simp [SnapshotSystem.step, hstores] at hstep
  | nil =>
    have hdone := h.stores
    rw [hstores] at hdone
    rcases call.run_cases sys.producer with ⟨record, -, -, -, hrun⟩ | ⟨e, hrun⟩
    · simp only [SnapshotSystem.step, hstores, hrun, Option.some.injEq] at hstep
      subst hstep
      refine ⟨lock, h.tracks, h.settled, ?_, h.reading, h.results⟩
      generalize lock.updating = updating at hdone
      cases hdone
      exact bracketed_appendBytesCore _ _
    · simp only [SnapshotSystem.step, hstores, hrun, Option.some.injEq] at hstep
      subst hstep
      exact ⟨lock, h.tracks, h.settled, hstores ▸ h.stores, h.reading, h.results⟩

/-- **Every step keeps the invariant.** -/
lemma step (h : sys.SoundIn lock) {action : Action} (hmeets : sys.BelowWrap action)
    (hstep : sys.step action = some sys') : sys'.Sound := by
  cases action with
  | append call => exact h.append hstep
  | store => exact h.store hstep
  | load => exact h.load hmeets hstep
  | snapshot =>
    cases hreading : sys.reading with
    | some p => simp [SnapshotSystem.step, hreading] at hstep
    | none =>
      simp only [SnapshotSystem.step, hreading, Option.some.injEq] at hstep
      subst hstep
      exact h.proceed (SharedStore.goes_retry CONTROL_SNAPSHOT_RETRIES _)

end SnapshotSystem.SoundIn

/-! ## Runs -/

/-- **Control snapshots are consistent.** In every state of every run of a producer and a reader
over a new shared store in which fewer than `2 ^ 31` appends complete during an attempt: the head,
the oldest offset and the lost count of every snapshot returned are together the control words
before the first append or after some append completed. -/
theorem control_snapshot_consistent {capacity : ℕ} {store : SharedStore} {sys : SnapshotSystem}
    (hcreate : SharedStore.create capacity = some store)
    (hrun : Runs SnapshotSystem.step SnapshotSystem.BelowWrap
      (SnapshotSystem.start capacity store) sys) :
    ∀ snapshot, .ok snapshot ∈ sys.results →
      (snapshot.headAbs, snapshot.oldestAbs, snapshot.lostCount) ∈ sys.settled := by
  have hsound : sys.Sound := by
    refine hrun.invariant ⟨_, SnapshotSystem.SoundIn.start hcreate⟩ ?_
    rintro sys action sys' ⟨lock, h⟩ hmeets hstep
    exact h.step hmeets hstep
  obtain ⟨lock, h⟩ := hsound
  exact h.results

/-- The words of a snapshot that was returned. -/
def returnedWords : Outcome ControlBlockError ControlBlockSnapshot → Option Words
  | .ok snapshot => some snapshot.words
  | .err _ => none
  | .panic => none

/-- An append of 44 bytes completes in the middle of an attempt, which is retried: the snapshot
returned is the one after the append. -/
theorem control_snapshot_consistent_after_retry :
    ∃ store sys snapshot, SharedStore.create 100 = some store ∧
      Runs SnapshotSystem.step SnapshotSystem.BelowWrap (SnapshotSystem.start 100 store) sys ∧
      sys.results = [.ok snapshot] ∧ snapshot.words = (44, 0, 0) ∧
      (snapshot.headAbs, snapshot.oldestAbs, snapshot.lostCount) ∈ sys.settled := by
  have hmap : (follow SnapshotSystem.step SnapshotSystem.BelowWrap
      (.snapshot :: List.replicate 40 .load ++ .append (.writeRecord (Record.new 0 0 0 1 1)) ::
        List.replicate 49 .store ++ List.replicate 156 .load)
      (SnapshotSystem.start 100 ⟨⟨List.replicate 100 0, 0, 0, 0⟩, 0, 100⟩)).map
      (fun sys => sys.results.map returnedWords) = some [some (44, 0, 0)] := by
    decide +kernel
  obtain ⟨sys, hfollow, heq⟩ := Option.map_eq_some_iff.mp hmap
  have hrun := Runs.start.of_follow hfollow
  obtain ⟨result, hresults, hwords⟩ := List.map_eq_singleton_iff.mp heq
  cases result with
  | ok snapshot =>
    refine ⟨_, sys, snapshot, rfl, hrun, hresults, Option.some.inj hwords, ?_⟩
    exact control_snapshot_consistent rfl hrun snapshot (by simp [hresults])
  | err e => cases hwords
  | panic => cases hwords

end OpenOT
