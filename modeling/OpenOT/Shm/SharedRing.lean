import OpenOT.Carriage.ConcurrentSystem
import OpenOT.Carriage.ControlImage
import OpenOT.Shm.Store

set_option relaxedAutoImplicit false
set_option autoImplicit false

/-!
# One producer and one consumer over the mapped store

The protocol over a store in shared memory. A consumer takes its control snapshot by copying the
control block between two loads of `SeqLock`; everything else is as over the owned store.

## Main definitions

* `OpenOT.SharedSystem` — the mapped store, both private states, what each side has still to do,
  and the history.
* `OpenOT.SharedSystem.step` — one step.
* `OpenOT.MappedMemory` — the mapped store with what is in it.

## Main results

* `OpenOT.SharedStore.wp_retrySnapshot` — the words of a snapshot were loaded in turn.
* `OpenOT.SharedSystem.SoundIn.step`, `OpenOT.SharedSystem.sound_of_runs` — every step, and so
  every run, keeps the invariant.
* `OpenOT.shared_ring_safety` — what a consumer receives through shared memory.
* `OpenOT.shared_poll_recovers` — when its polls recover.

## Design

The snapshot of the mapped store need not be consistent for any of this: it is enough that its head
was loaded before its oldest offset. So nothing is assumed of `SeqLock`, which may even wrap.
-/

namespace OpenOT

open Rust CircularLog Shared Transition Layout

/-! ## The control snapshot -/

namespace SharedStore

section Snapshot

variable {σ : Type} {env : Env (Load ControlLoad) (Load.Value ControlLoad.Value) σ}
  {store : σ → SharedStore} {s : σ}

/-- The loads see a mapped store, which moves on. -/
structure Mapped (env : Env (Load ControlLoad) (Load.Value ControlLoad.Value) σ)
    (store : σ → SharedStore) : Prop where
  read : ∀ load s, env.read load s = SharedStore.read load (store s)
  refl : ∀ s, env.rely s s
  trans : ∀ {s₁ s₂ s₃}, env.rely s₁ s₂ → env.rely s₂ s₃ → env.rely s₁ s₃

/-- The words of a snapshot were loaded in turn. -/
def LoadedFrom (env : Env (Load ControlLoad) (Load.Value ControlLoad.Value) σ)
    (store : σ → SharedStore) (s : σ) (bufferBytes : UInt32) (headAbs oldestAbs : ℕ) (s' : σ) :
    Prop :=
  ∃ s₁ s₂ s₃, env.rely s s₁ ∧ env.rely s₁ s₂ ∧ env.rely s₂ s₃ ∧ env.rely s₃ s' ∧
    bufferBytes = (store s₁).bufferBytes ∧ headAbs = (store s₂).ring.headAbs % 2 ^ 64 ∧
    oldestAbs = (store s₃).ring.oldestAbs % 2 ^ 64

lemma LoadedFrom.earlier (hmap : Mapped env store) {s₀ s' : σ} {bufferBytes : UInt32}
    {headAbs oldestAbs : ℕ} (h₀ : env.rely s s₀)
    (h : LoadedFrom env store s₀ bufferBytes headAbs oldestAbs s') :
    LoadedFrom env store s bufferBytes headAbs oldestAbs s' := by
  obtain ⟨s₁, s₂, s₃, h₁, hrest⟩ := h
  exact ⟨s₁, s₂, s₃, hmap.trans h₀ h₁, hrest⟩

lemma LoadedFrom.rely (hmap : Mapped env store) {s' : σ} {bufferBytes : UInt32}
    {headAbs oldestAbs : ℕ} (h : LoadedFrom env store s bufferBytes headAbs oldestAbs s') :
    env.rely s s' := by
  obtain ⟨s₁, s₂, s₃, h₁, h₂, h₃, h₄, -⟩ := h
  exact hmap.trans h₁ (hmap.trans h₂ (hmap.trans h₃ h₄))

section Rules

variable {α : Type} {Q : α → σ → Prop} {E : ControlBlockError → σ → Prop}

/-- A patch of a field, in sequence. -/
lemma wp_patchField {fs : List Bytes} {ws : List ℕ} {new : Bytes} {a : ℕ}
    {k : Bytes → SharedAttempt ControlBlockError α} (i : ℕ) (hfs : fs.map List.length = ws)
    (ha : a = (ws.take i).sum) (hw : ws[i]? = some new.length)
    (h : (fs.set i new).map List.length = ws → (k (fs.set i new).flatten).wp env Q E s) :
    ((Attempt.lift (copyFromSlice fs.flatten a new) : SharedAttempt ControlBlockError Bytes) >>=
      k).wp env Q E s := by
  obtain ⟨hcopy, hset⟩ := copyFromSlice_widths (ε := ControlBlockError) i hfs ha hw
  exact Attempt.wp_bind (Attempt.wp_lift_ok hcopy (h hset))

/-- A load of the block, in sequence. -/
lemma wp_loadLocation (hmap : Mapped env store) {location : ControlLoad}
    {k : location.Value → SharedAttempt ControlBlockError α}
    (h : ∀ s', env.rely s s' → (k (readControl location (store s'))).wp env Q E s') :
    (loadControl location >>= k).wp env Q E s :=
  Attempt.wp_bind fun s' hrely _ => by
    rw [hmap.read]
    exact h s' hrely

/-- A load of one of the three words, in sequence. -/
lemma wp_loadHeadWord (hmap : Mapped env store) {k : ℕ → SharedAttempt ControlBlockError α}
    (h : ∀ s', env.rely s s' → (k ((store s').ring.headAbs % 2 ^ 64)).wp env Q E s') :
    (loadHead >>= k).wp env Q E s :=
  Attempt.wp_bind fun s' hrely _ => by
    rw [hmap.read]
    exact h s' hrely

@[inherit_doc wp_loadHeadWord]
lemma wp_loadOldestWord (hmap : Mapped env store) {k : ℕ → SharedAttempt ControlBlockError α}
    (h : ∀ s', env.rely s s' → (k ((store s').ring.oldestAbs % 2 ^ 64)).wp env Q E s') :
    (loadOldest >>= k).wp env Q E s :=
  Attempt.wp_bind fun s' hrely _ => by
    rw [hmap.read]
    exact h s' hrely

@[inherit_doc wp_loadHeadWord]
lemma wp_loadLostWord (hmap : Mapped env store) {k : ℕ → SharedAttempt ControlBlockError α}
    (h : ∀ s', env.rely s s' → (k ((store s').ring.lostCount % 2 ^ 64)).wp env Q E s') :
    (loadLost >>= k).wp env Q E s :=
  Attempt.wp_bind fun s' hrely _ => by
    rw [hmap.read]
    exact h s' hrely

/-- The byte loads of the copy. -/
lemma wp_loadBlock (hmap : Mapped env store) {Q : Bytes → σ → Prop} {n : ℕ} (offset : ℕ)
    (h : ∀ s' bytes, env.rely s s' → bytes.length = n → Q bytes s') :
    (loadControlBytes offset n : SharedAttempt ControlBlockError Bytes).wp env Q E s := by
  induction n generalizing offset s Q with
  | zero => exact Attempt.wp_pure (h s [] (hmap.refl s) rfl)
  | succ n ih =>
    refine wp_loadLocation hmap fun s₁ h₁ => ?_
    refine Attempt.wp_bind (ih (offset + 1) fun s₂ bytes h₂ hlen => ?_)
    exact Attempt.wp_pure (h s₂ _ (hmap.trans h₁ h₂) (congrArg (· + 1) hlen))

end Rules

/-- The fields of a block made of fields. -/
lemma controlField_flatten {fs : List Bytes}
    (hfs : fs.map List.length = ControlBlockSnapshot.widths) :
    fs[5]? = some (controlField fs.flatten OFF_BUFFER_BYTES 4) ∧
      fs[8]? = some (controlField fs.flatten OFF_HEAD_ABS 8) ∧
      fs[9]? = some (controlField fs.flatten OFF_OLDEST_ABS 8) := by
  have hcut := splitLengths_flatten fs
  rw [hfs, ControlBlockSnapshot.splitLengths_widths] at hcut
  exact ⟨congrArg (fun fs : List Bytes => fs[5]?) hcut.symm,
    congrArg (fun fs : List Bytes => fs[8]?) hcut.symm,
    congrArg (fun fs : List Bytes => fs[9]?) hcut.symm⟩

/-- **The copy of the block** holds the words as they were loaded. -/
lemma wp_copyBlock (hmap : Mapped env store) {E : ControlBlockError → σ → Prop} (lock : UInt32) :
    (readControlImage lock).wp env
      (fun bytes s' => bytes.length = CONTROL_BLOCK_LEN ∧ ∃ bufferBytes headAbs oldestAbs,
        LoadedFrom env store s bufferBytes headAbs oldestAbs s' ∧
        controlField bytes OFF_BUFFER_BYTES 4 = toLe 4 bufferBytes.toNat ∧
        controlField bytes OFF_HEAD_ABS 8 = toLe 8 headAbs ∧
        controlField bytes OFF_OLDEST_ABS 8 = toLe 8 oldestAbs) E s := by
  unfold readControlImage
  refine Attempt.wp_bind (wp_loadBlock hmap 0 fun s₀ bytes h₀ hlen => ?_)
  rw [CONTROL_BLOCK_LEN] at hlen
  obtain ⟨fs, hfs, rfl⟩ : ∃ fs : List Bytes,
      fs.map List.length = ControlBlockSnapshot.widths ∧ bytes = fs.flatten :=
    ⟨_, List.map_splitLengths_length bytes ControlBlockSnapshot.widths hlen.ge,
      (List.flatten_splitLengths bytes ControlBlockSnapshot.widths hlen.le).symm⟩
  have hcount : fs.length = 16 := by
    simpa using (congrArg List.length hfs).trans (show _ = 16 from rfl)
  refine wp_patchField 6 hfs rfl rfl fun hfs => ?_
  refine wp_loadLocation hmap fun sa ha => wp_patchField 4 hfs rfl rfl fun hfs => ?_
  refine wp_loadLocation hmap fun s₁ h₁ => wp_patchField 5 hfs rfl rfl fun hfs => ?_
  refine wp_loadHeadWord hmap fun s₂ h₂ => wp_patchField 8 hfs rfl rfl fun hfs => ?_
  refine wp_loadOldestWord hmap fun s₃ h₃ => wp_patchField 9 hfs rfl rfl fun hfs => ?_
  refine wp_loadLostWord hmap fun sl hl => wp_patchField 10 hfs rfl rfl fun hfs => ?_
  refine wp_loadLocation hmap fun sr hr => wp_patchField 11 hfs rfl rfl fun hfs => ?_
  refine wp_loadLocation hmap fun se he => wp_patchField 12 hfs rfl rfl fun hfs => ?_
  refine wp_loadLocation hmap fun sf hf => ?_
  obtain ⟨hcopy, hfs⟩ := copyFromSlice_widths (ε := ControlBlockError) 13 hfs
    (show OFF_EPOCH_FIRST_ABS = _ from rfl)
    (show _ = some (toLe 8 (UInt64.toNat (readControl .epochFirstAbs (store sf)))).length from rfl)
  obtain ⟨hbuffer, hhead, holdest⟩ := controlField_flatten hfs
  simp [hcount] at hbuffer hhead holdest
  refine Attempt.wp_lift_ok hcopy ⟨?_, _, _, _, ⟨s₁, s₂, s₃, hmap.trans h₀ (hmap.trans ha h₁), h₂,
    h₃, hmap.trans hl (hmap.trans hr (hmap.trans he hf)), rfl, rfl, rfl⟩, hbuffer.symm, hhead.symm,
    holdest.symm⟩
  rw [List.length_flatten, hfs, CONTROL_BLOCK_LEN]
  rfl

/-- **An attempt** returns words that were loaded in turn. -/
lemma wp_attempt (hmap : Mapped env store) (first : UInt32) :
    (attemptSnapshot first).wp env
      (fun snapshot s' => LoadedFrom env store s snapshot.bufferBytes snapshot.headAbs
        snapshot.oldestAbs s')
      (fun _ s' => env.rely s s') s := by
  unfold attemptSnapshot
  refine Attempt.wp_bind (Attempt.wp_mono (wp_copyBlock hmap first) ?_ fun _ _ h => h)
  rintro block s₀ ⟨hlen, bufferBytes, headAbs, oldestAbs, hloaded, hbuffer, hhead, holdest⟩
  refine wp_loadLocation hmap fun s' h' => ?_
  rcases decodeWithLocks_cases hlen first (readControl .secondSeqLock (store s')) with
    ⟨e, herr⟩ | ⟨-, -, snapshot, hok, hsnap⟩
  · rw [herr]
    exact Attempt.wp_throw (hmap.trans (hloaded.rely hmap) h')
  · refine Attempt.wp_lift_ok hok ?_
    obtain ⟨hfits, -, -, hblock⟩ := of_decodeWithLocks hlen hok
    obtain ⟨hfield, -, -⟩ := controlField_flatten (ControlBlockSnapshot.map_length_fields hfits first)
    rw [← hblock, hbuffer] at hfield
    obtain ⟨s₁, s₂, s₃, h₁, h₂, h₃, h₀, hb, hh, ho⟩ := hloaded
    refine ⟨s₁, s₂, s₃, h₁, h₂, h₃, hmap.trans h₀ h', ?_, ?_, ?_⟩
    · have hsame : toLe 4 snapshot.bufferBytes.toNat = toLe 4 bufferBytes.toNat :=
        Option.some.inj hfield
      rw [← hb, ← ofNat_fromLe_toLe_u32 snapshot.bufferBytes, hsame, ofNat_fromLe_toLe_u32]
    · rw [hsnap.1, hhead, hh, fromLe_toLe]
      exact Nat.mod_mod _ _
    · rw [hsnap.2.1, holdest, ho, fromLe_toLe]
      exact Nat.mod_mod _ _

/-- **A snapshot** returns words that were loaded in turn, after any number of retries. -/
lemma wp_retrySnapshot (hmap : Mapped env store) (retries : ℕ) (lastError : ControlBlockError) :
    (retrySnapshot retries lastError).wp env
      (fun snapshot s' => LoadedFrom env store s snapshot.bufferBytes snapshot.headAbs
        snapshot.oldestAbs s')
      (fun _ _ => True) s := by
  induction retries generalizing lastError s with
  | zero => exact Attempt.wp_throw trivial
  | succ retries ih =>
    have hretry : ∀ e s₀, env.rely s s₀ → (retrySnapshot retries e).wp env
        (fun snapshot s' => LoadedFrom env store s snapshot.bufferBytes snapshot.headAbs
          snapshot.oldestAbs s') (fun _ _ => True) s₀ :=
      fun e s₀ h₀ => Attempt.wp_mono (ih e) (fun _ _ h => LoadedFrom.earlier hmap h₀ h) fun _ _ h => h
    refine wp_loadLocation hmap fun s₁ h₁ => ?_
    generalize readControl .firstSeqLock (store s₁) = first
    refine iteInduction (motive := fun p => Attempt.wp env p _ _ s₁) (fun _ => hretry _ s₁ h₁)
      fun _ => ?_
    refine Reader.wp_bind.mpr (Reader.wp_mono (wp_attempt hmap _) ?_)
    rintro (snapshot | e | _) s₂ h
    · exact LoadedFrom.earlier hmap h₁ h
    · have h₂ := hmap.trans h₁ h
      cases e with
      | updating seqLock => exact hretry _ s₂ h₂
      | staleSnapshot first second => exact hretry _ s₂ h₂
      | truncated needed available => exact Attempt.wp_throw trivial
      | wrongSync => exact Attempt.wp_throw trivial
      | reservedNonZero => exact Attempt.wp_throw trivial
    · exact h.elim

end Snapshot

end SharedStore

/-! ## The mapped memory -/

/-- The mapped store with what is in it: it is valid, and every offset fits its word. -/
structure MappedMemory (cap : ℕ) where
  memory : Memory
  seqLock : UInt32
  valid : memory.Valid cap
  head_lt : headOf memory.view.log < 2 ^ 64

namespace MappedMemory

variable {cap : ℕ} {admits : (load : Load ControlLoad) → load.Value ControlLoad.Value → Prop}

/-- The store alone. -/
def store (m : MappedMemory cap) : SharedStore := ⟨m.memory.ring, m.seqLock, UInt32.ofNat cap⟩

/-- The view a consumer has. -/
abbrev view (m : MappedMemory cap) : View := m.memory.view

lemma oldestAbs_lt (m : MappedMemory cap) : m.memory.ring.oldestAbs < 2 ^ 64 := by
  obtain ⟨rest, hat⟩ := m.valid.view.oldest_at
  exact (hat.le_head m.valid.view.laid).trans_lt m.head_lt

lemma headAbs_lt (m : MappedMemory cap) : m.memory.ring.headAbs < 2 ^ 64 := by
  have hlaid : Laid cap (m.memory.published ++ m.memory.pending) := m.valid.view.laid
  rw [m.valid.head]
  exact hlaid.headOf_le.trans_lt m.head_lt

end MappedMemory

/-- What a poll may assume: loads see the mapped store, the memory stays valid and moves forward,
and the values loaded are admitted. -/
def mappedEnv (cap : ℕ) (admits : (load : Load ControlLoad) → load.Value ControlLoad.Value → Prop) :
    Env (Load ControlLoad) (Load.Value ControlLoad.Value) (MappedMemory cap) where
  read load m := SharedStore.read load m.store
  rely m m' := m.view.Later m'.view
  admits := admits

section Mapped

variable {cap : ℕ} {admits : (load : Load ControlLoad) → load.Value ControlLoad.Value → Prop}
  {m : MappedMemory cap}

lemma mapped_mappedEnv : SharedStore.Mapped (mappedEnv cap admits) MappedMemory.store :=
  ⟨fun _ _ => rfl, fun m => View.Later.refl m.view, View.Later.trans⟩

lemma observes_mappedEnv : Observes (mappedEnv cap admits) MappedMemory.view cap :=
  ⟨fun m => Nat.mod_eq_of_lt m.oldestAbs_lt, fun _ _ => rfl, fun _ _ _ => rfl, fun _ _ _ _ => rfl,
    fun {_ m'} h => ⟨m'.valid.view, h⟩⟩

/-- A snapshot of the mapped store: its head was published when it was loaded, and its oldest
offset was loaded later. -/
lemma wp_mappedSnapshot (hcap : cap < 2 ^ 32) :
    SharedStore.readControlSnapshot.wp (mappedEnv cap admits)
      (fun snapshot m' => ∃ P, SnapshotOf MappedMemory.view cap m snapshot P m')
      (fun _ _ => True) m := by
  refine Attempt.wp_mono (SharedStore.wp_retrySnapshot mapped_mappedEnv _ _) ?_ fun _ _ h => h
  rintro snapshot m' ⟨m₁, m₂, m₃, h₁, h₂, h₃, h', hbuffer, hhead, holdest⟩
  have hlater : m₂.view.Later m'.view := View.Later.trans h₃ h'
  refine ⟨m₂.memory.published, ⟨m'.valid.view, (View.Later.trans h₁ h₂).trans hlater⟩, ?_, ?_,
    (View.Later.trans h₁ h₂).published, hlater.published, ?_, ?_⟩
  · rw [hbuffer, MappedMemory.store, UInt32.toNat_ofNat', Nat.mod_eq_of_lt hcap]
  · rw [hhead, ← m₂.valid.head]
    exact Nat.mod_eq_of_lt m₂.headAbs_lt
  · rw [holdest]
    exact (Nat.mod_le _ _).trans h'.oldest
  · obtain ⟨rest, hat⟩ := m₃.valid.view.oldest_at
    rw [holdest, show m₃.store.ring.oldestAbs % 2 ^ 64 = m₃.view.oldestAbs from
      Nat.mod_eq_of_lt m₃.oldestAbs_lt]
    exact View.Later.at h' hat

/-- How a poll of the mapped store ends is how a poll of the owned store can end. -/
lemma PollEnds.owned {consumer : ConcurrentRawConsumer} {m₀ : MappedMemory cap}
    {out : Outcome RingError ReadBatch × ConcurrentRawConsumer}
    (h : PollEnds (mappedEnv cap admits) MappedMemory.view cap consumer m₀ out m) :
    PollEnds (ownedEnv cap fun _ _ => True) Memory.view cap consumer m₀.memory out m.memory := by
  cases h with
  | delivered hbatch hcursor => exact .delivered hbatch hcursor
  | lapped hrecords hlt hle hat => exact .lapped hrecords hlt hle hat
  | retried hrecords hcursor => exact .retried hrecords hcursor
  | crossed hcross =>
    obtain ⟨load, v, -, hcross⟩ := hcross
    refine .crossed ?_
    cases load with
    | firstByte abs phys => exact ⟨.firstByte abs phys, v, trivial, hcross⟩
    | lengthHigh abs phys low => exact ⟨.lengthHigh abs phys low, v, trivial, hcross⟩
    | head => exact hcross.elim
    | oldest => exact hcross.elim
    | lost => exact hcross.elim
    | byte phys => exact hcross.elim
    | control location => exact hcross.elim

end Mapped

/-! ## The transition system -/

/-- A poll under way: the loads it has still to do. -/
abbrev SharedPoll : Type :=
  Reader (Load ControlLoad) (Load.Value ControlLoad.Value)
    (Outcome RingError ReadBatch × ConcurrentRawConsumer)

/-- The state of the protocol over a mapped store. -/
structure SharedSystem where
  store : SharedStore
  producer : ConcurrentProducer
  /-- the stores left of the append under way -/
  stores : List StoreOp
  consumer : ConcurrentRawConsumer
  /-- the poll under way -/
  poll : Option SharedPoll
  /-- every entry appended, in order -/
  appended : List (Entry UInt8)
  /-- the results of the polls that have ended, in order -/
  results : List (Outcome RingError ReadBatch)

namespace SharedSystem

/-- The records delivered by the polls so far, in order. -/
def delivered (sys : SharedSystem) : List ReadRecord := sys.results.flatMap batchRecords

/-- A new producer and a new consumer over a new store. -/
def start (capacity : ℕ) (store : SharedStore) : SharedSystem :=
  ⟨store, .withStore capacity, [], .withStore, none, [], []⟩

/-- The poll goes on, or ends and returns its result. -/
def proceed (sys : SharedSystem) : SharedPoll → SharedSystem
  | .ret (result, consumer) =>
    { sys with consumer := consumer, poll := none, results := sys.results ++ [result] }
  | .load i k => { sys with poll := some (.load i k) }

/-- What can happen next. -/
inductive Action where
  | append (call : AppendCall)
  | store
  | poll
  | load
  deriving DecidableEq

/-- One step; `none` when the action is not possible. A call whose new head does not fit a word
panics before its first store. -/
def step (capacity : ℕ) (sys : SharedSystem) : Action → Option SharedSystem
  | .append call =>
    match sys.stores with
    | [] =>
      match call.run sys.producer with
      | (.ok stores, producer) =>
        if producer.headAbs < 2 ^ 64 then some { sys with
          producer := producer
          stores := stores
          appended := sys.appended ++
            [⟨sys.producer.nextStartAbs call.bytes.length, call.bytes⟩] }
        else some sys
      | (_, producer) => some { sys with producer := producer }
    | _ :: _ => none
  | .store =>
    match sys.stores with
    | [] => none
    | op :: stores => some { sys with store := sys.store.apply op, stores := stores }
  | .poll =>
    match sys.poll with
    | none => some (sys.proceed (sys.consumer.poll capacity SharedStore.readControlSnapshot))
    | some _ => none
  | .load =>
    match sys.poll with
    | some (.load i k) => some (sys.proceed (k (SharedStore.read i sys.store)))
    | _ => none

/-- The next load of the poll under way is one on which a record seems to cross the pool's end. -/
def CrossesNext (capacity : ℕ) (sys : SharedSystem) : Prop :=
  match sys.poll with
  | some (.load i _) => Crosses capacity i (SharedStore.read i sys.store)
  | _ => False

instance (capacity : ℕ) (sys : SharedSystem) : Decidable (sys.CrossesNext capacity) :=
  match hpoll : sys.poll with
  | some (.load i _) =>
    decidable_of_iff (Crosses capacity i (SharedStore.read i sys.store))
      (by simp [CrossesNext, hpoll])
  | some (.ret _) => isFalse (by simp [CrossesNext, hpoll])
  | none => isFalse (by simp [CrossesNext, hpoll])

/-! ## The invariant -/

/-- The system is sound in memory `m`: the stores left of the append keep the memory valid and
lead to a quiescent store, the consumer has seen what it should, the poll under way is going to
end well, and the polls that have ended did not panic and reported an error only after a load
that crosses the pool's end. -/
structure SoundIn (capacity : ℕ)
    (admits : (load : Load ControlLoad) → load.Value ControlLoad.Value → Prop) (sys : SharedSystem)
    (m : MappedMemory capacity) (floor : ℕ) : Prop where
  capacity_pos : 0 < capacity
  store : m.store = sys.store
  producer_capacity : sys.producer.capacity = capacity
  log : m.view.log = sys.appended
  stores : m.memory.Follows capacity sys.stores (Quiescent sys.producer)
  consumed : Consumed sys.consumer.cursorAbs sys.delivered floor m.memory
  poll : ∀ p, sys.poll = some p → ∃ i k m₀, p = .load i k ∧
    floor ≤ headOf m₀.memory.published ∧
    p.wp (mappedEnv capacity admits)
      (PollEnds (mappedEnv capacity admits) MappedMemory.view capacity sys.consumer m₀) m
  results : ∀ result ∈ sys.results, result ≠ .panic ∧
    ∀ e, result = .err e → ∃ load v, admits load v ∧ Crosses capacity load v

/-- The system is sound. -/
def Sound (capacity : ℕ)
    (admits : (load : Load ControlLoad) → load.Value ControlLoad.Value → Prop)
    (sys : SharedSystem) : Prop :=
  ∃ m floor, sys.SoundIn capacity admits m floor

namespace SoundIn

variable {capacity floor : ℕ}
  {admits : (load : Load ControlLoad) → load.Value ControlLoad.Value → Prop}
  {sys sys' : SharedSystem} {m m' : MappedMemory capacity}

/-- A new system is sound. -/
lemma start {store : SharedStore} (hcap : capacity < 2 ^ 32)
    (h : SharedStore.create capacity = some store) :
    (SharedSystem.start capacity store).Sound capacity admits := by
  unfold SharedStore.create at h
  rw [Option.ite_none_left_eq_some, if_pos hcap] at h
  obtain ⟨hpos, h⟩ := h
  obtain rfl := Option.some.inj h
  have hnew : ConcurrentRing.new capacity = .ok ⟨List.replicate capacity 0, 0, 0, 0⟩ := if_neg hpos
  have hquiet := quiescent_new hnew
  refine ⟨⟨⟨[], [], _⟩, 0, hquiet.valid, by simp [Memory.view, View.log, headOf_nil]⟩, 0,
    hquiet.capacity_pos, rfl, rfl, rfl, hquiet, ?_, by simp [SharedSystem.start],
    by simp [SharedSystem.start]⟩
  exact ⟨⟨[], At.zero _⟩, le_rfl, le_rfl, by simp [SharedSystem.start, delivered],
    by simp [SharedSystem.start, delivered], by simp [SharedSystem.start, delivered],
    by simp [Memory.view, View.log]⟩

/-- The memory moves, and the poll under way waits. -/
lemma moves (h : sys.SoundIn capacity admits m floor) (hlater : m.view.Later m'.view)
    (hstore : m'.store = sys'.store) (hcapacity : sys'.producer.capacity = capacity)
    (hlog : m'.view.log = sys'.appended)
    (hstores : m'.memory.Follows capacity sys'.stores (Quiescent sys'.producer))
    (hconsumer : sys'.consumer = sys.consumer) (hpoll : sys'.poll = sys.poll)
    (hresults : sys'.results = sys.results) : sys'.SoundIn capacity admits m' floor := by
  refine ⟨h.capacity_pos, hstore, hcapacity, hlog, hstores, ?_, ?_, hresults ▸ h.results⟩
  · rw [delivered, hresults, hconsumer]
    exact h.consumed.later m'.valid hlater
  · intro p hp
    obtain ⟨i, k, m₀, rfl, hfloor, hwp⟩ := h.poll p (hpoll ▸ hp)
    rw [hconsumer]
    exact ⟨i, k, m₀, rfl, hfloor,
      Reader.wp_stable (fun _ _ _ => mapped_mappedEnv.trans) hwp hlater⟩

/-- A poll goes on, or ends and returns its result. -/
lemma proceed (h : sys.SoundIn capacity admits m floor) {m₀ : MappedMemory capacity}
    (hfloor : floor ≤ headOf m₀.memory.published) {p : SharedPoll}
    (hwp : p.wp (mappedEnv capacity admits)
      (PollEnds (mappedEnv capacity admits) MappedMemory.view capacity sys.consumer m₀) m) :
    (sys.proceed p).Sound capacity admits := by
  cases p with
  | load i k =>
    refine ⟨m, floor, h.capacity_pos, h.store, h.producer_capacity, h.log, h.stores, h.consumed, ?_,
      h.results⟩
    intro p hp
    obtain rfl := Option.some.inj hp
    exact ⟨i, k, m₀, rfl, hfloor, hwp⟩
  | ret out =>
    obtain ⟨result, consumer'⟩ := out
    have hends : PollEnds (mappedEnv capacity admits) MappedMemory.view capacity sys.consumer m₀
        (result, consumer') m := hwp
    obtain ⟨floor', hconsumed⟩ := h.consumed.finish m.valid hfloor hends.owned
    refine ⟨m, floor', h.capacity_pos, h.store, h.producer_capacity, h.log, h.stores, ?_, ?_, ?_⟩
    · simpa [SharedSystem.proceed, delivered] using hconsumed
    · intro p hp
      simp [SharedSystem.proceed] at hp
    · intro r hr
      rcases List.mem_append.mp hr with hold | hlast
      · exact h.results r hold
      · rw [List.mem_singleton.mp hlast]
        cases hends with
        | crossed hcross => exact ⟨by simp, fun _ _ => hcross⟩
        | delivered _ _ => exact ⟨by simp, by simp⟩
        | lapped _ _ _ _ => exact ⟨by simp, by simp⟩
        | retried _ _ => exact ⟨by simp, by simp⟩

/-- A call of the producer: it announces its entry, or is rejected and changes nothing. -/
lemma append (h : sys.SoundIn capacity admits m floor) {call : AppendCall}
    (hstep : sys.step capacity (.append call) = some sys') : sys'.Sound capacity admits := by
  cases hstores : sys.stores with
  | cons op stores => simp [SharedSystem.step, hstores] at hstep
  | nil =>
    have hquiet : Quiescent sys.producer m.memory := by
      have := h.stores
      rwa [hstores] at this
    rcases call.run_cases sys.producer with ⟨record, henc, hle, hbytes, hrun⟩ | ⟨e, hrun⟩
    · simp only [SharedSystem.step, hstores, hrun, hbytes] at hstep
      split_ifs at hstep with hhead
      · obtain rfl := Option.some.inj hstep
        obtain ⟨hvalid, hlater, hfollows⟩ := hquiet.follows_append henc hle rfl
        rw [h.producer_capacity] at hvalid hfollows
        obtain ⟨startAbs, finalHead, kept, evicted, hstart, hfinal, -, -, heq⟩ :=
          sys.producer.appendBytesCore_eq (record.bytes true)
        obtain ⟨-, -, -, -, -, hpend⟩ := hquiet
        refine ⟨⟨⟨m.memory.published,
          [⟨sys.producer.nextStartAbs (record.bytes true).length, record.bytes true⟩],
          m.memory.ring⟩, m.seqLock, hvalid, ?_⟩, floor, h.moves hlater ?_ ?_ ?_ hfollows rfl rfl
          rfl⟩
        · rw [View.log, Memory.view, headOf_concat]
          rw [heq] at hhead
          have : finalHead = sys.producer.nextStartAbs (record.bytes true).length +
              (record.bytes true).length := by
            rw [hfinal, hstart]
            rfl
          rw [this] at hhead
          exact hhead
        · rw [← h.store]
          rfl
        · rw [heq]
          exact h.producer_capacity
        · have hlog := h.log
          rw [View.log, MappedMemory.view, Memory.view, hpend, List.append_nil] at hlog
          simp only [View.log, Memory.view, hlog]
      · obtain rfl := Option.some.inj hstep
        exact ⟨m, floor, h⟩
    · simp only [SharedSystem.step, hstores, hrun, Option.some.injEq] at hstep
      subst hstep
      refine ⟨m, floor, ?_⟩
      rw [← hstores]
      exact h

/-- **Every step keeps the invariant**, if the value of a load is admitted. -/
lemma step (h : sys.SoundIn capacity admits m floor) (hcap : capacity < 2 ^ 32) {action : Action}
    (hadmits : ∀ i k, sys.poll = some (.load i k) → action = .load →
      admits i (SharedStore.read i sys.store))
    (hstep : sys.step capacity action = some sys') : sys'.Sound capacity admits := by
  cases action with
  | append call => exact h.append hstep
  | store =>
    cases hstores : sys.stores with
    | nil => simp [SharedSystem.step, hstores] at hstep
    | cons op stores =>
      simp only [SharedSystem.step, hstores, Option.some.injEq] at hstep
      subst hstep
      have hfollows := h.stores
      rw [hstores] at hfollows
      obtain ⟨hvalid, hlater, hrest⟩ := hfollows
      have hlog : (m.memory.apply op).view.log = m.view.log := by
        cases op <;> simp [Memory.apply, Memory.view, View.log]
      refine ⟨⟨m.memory.apply op, (sys.store.apply op).seqLock, hvalid, hlog ▸ m.head_lt⟩, floor,
        h.moves hlater ?_ h.producer_capacity (hlog.trans h.log) hrest rfl rfl rfl⟩
      rw [← h.store]
      cases op <;> rfl
  | poll =>
    cases hpoll : sys.poll with
    | some p => simp [SharedSystem.step, hpoll] at hstep
    | none =>
      simp only [SharedSystem.step, hpoll, Option.some.injEq] at hstep
      subst hstep
      exact h.proceed h.consumed.floor_le_head (wp_poll observes_mappedEnv h.capacity_pos
        (wp_mappedSnapshot hcap) h.consumed.cursor_at)
  | load =>
    cases hpoll : sys.poll with
    | none => simp [SharedSystem.step, hpoll] at hstep
    | some p =>
      obtain ⟨i, k, m₀, rfl, hfloor, hwp⟩ := h.poll p hpoll
      simp only [SharedSystem.step, hpoll, Option.some.injEq] at hstep
      subst hstep
      have hread : (mappedEnv capacity admits).read i m = SharedStore.read i sys.store := by
        rw [← h.store]
        rfl
      rw [← hread]
      refine h.proceed hfloor (hwp m (View.Later.refl _) ?_)
      rw [hread]
      exact hadmits i k hpoll rfl

end SoundIn

end SharedSystem

/-! ## Runs -/

section Runs

variable {capacity : ℕ} {store : SharedStore} {sys : SharedSystem}

/-- **Every state of a run is sound**, if the loads that meet the condition load admitted
values. -/
lemma SharedSystem.sound_of_runs {meets : SharedSystem → SharedSystem.Action → Prop}
    {admits : (load : Load ControlLoad) → load.Value ControlLoad.Value → Prop}
    (hcap : capacity < 2 ^ 32) (hcreate : SharedStore.create capacity = some store)
    (hadmits : ∀ sys : SharedSystem, meets sys .load → ∀ i k, sys.poll = some (.load i k) →
      admits i (SharedStore.read i sys.store))
    (hrun : Runs (SharedSystem.step capacity) meets (SharedSystem.start capacity store) sys) :
    sys.Sound capacity admits := by
  refine hrun.invariant (SharedSystem.SoundIn.start hcap hcreate) ?_
  rintro sys action sys' ⟨m, floor, hsound⟩ hmeets hstep
  refine hsound.step hcap ?_ hstep
  rintro i k hpoll rfl
  exact hadmits _ hmeets i k hpoll

/-- **Safety of the shared ring.** In every state of every run of a producer and a consumer over a
new mapped store, whatever `SeqLock` does: every delivered record is, with its span, the decoding
of the bytes appended at its start, of which there is one; the starts of the delivered records
increase; and of an appended record that the cursor has passed and that was not delivered, the
oldest offset has passed the start. -/
theorem shared_ring_safety (hcap : capacity < 2 ^ 32)
    (hcreate : SharedStore.create capacity = some store)
    (hrun : Runs (SharedSystem.step capacity) (fun _ _ => True) (SharedSystem.start capacity store)
      sys) :
    (sys.appended.Pairwise fun a b => a.start < b.start) ∧
      (∀ r ∈ sys.delivered, ∃ e ∈ sys.appended, r.startAbs = e.start ∧ r.endAbs = e.stop ∧
        decode e.data = .ok ⟨r.record, e.data.length⟩) ∧
      (sys.delivered.Pairwise fun a b => a.startAbs < b.startAbs) ∧
      ∀ e ∈ sys.appended, e.start < sys.consumer.cursorAbs →
        (∀ r ∈ sys.delivered, r.startAbs ≠ e.start) → e.start < sys.store.ring.oldestAbs := by
  have hsound : sys.Sound capacity fun _ _ => True :=
    SharedSystem.sound_of_runs hcap hcreate (fun _ _ _ _ _ => trivial) hrun
  obtain ⟨m, floor, h⟩ := hsound
  rw [← h.log, ← h.store]
  refine ⟨m.valid.view.laid.pairwise_start_lt, fun r hr => ?_, h.consumed.sorted,
    fun e he hlt hnone => ?_⟩
  · obtain ⟨e, he, hdel⟩ := h.consumed.genuine r hr
    exact ⟨e, he, hdel.start, hdel.stop, hdel.decodes⟩
  · rcases h.consumed.passed e he hlt with ⟨r, hr, hdel⟩ | hpassed
    · exact absurd hdel.start (hnone r hr)
    · exact hpassed

/-- The actions of a call that performs `stores` stores, with nothing in between. -/
def SharedSystem.appendAlone (record : Record) (stores : ℕ) : List SharedSystem.Action :=
  .append (.writeRecord record) :: List.replicate stores .store

/-- Two records in a pool of 100, a poll that has begun to read the first, a third record that
evicts it, and another poll. -/
def SharedSystem.evictionSchedule : List SharedSystem.Action :=
  appendAlone (Record.new 0 0 0 1 1) 49 ++ appendAlone (Record.new 0 0 0 1 1) 49 ++
    .poll :: List.replicate 105 .load ++ appendAlone (Record.new 0 0 0 1 1) 51 ++
    List.replicate 45 .load ++ .poll :: List.replicate 204 .load

/-- The first poll laps, and the second one delivers the other two records. -/
theorem shared_ring_safety_over_eviction :
    ∃ store sys, SharedStore.create 100 = some store ∧
      Runs (SharedSystem.step 100) (fun _ _ => True) (SharedSystem.start 100 store) sys ∧
      sys.delivered.map (·.startAbs) = [44, 100] ∧ sys.consumer.cursorAbs = 144 ∧
      ∀ e ∈ sys.appended, e.start < sys.consumer.cursorAbs →
        (∀ r ∈ sys.delivered, r.startAbs ≠ e.start) → e.start < sys.store.ring.oldestAbs := by
  have hmap : (follow (SharedSystem.step 100) (fun _ _ => True) SharedSystem.evictionSchedule
      (SharedSystem.start 100 ⟨⟨List.replicate 100 0, 0, 0, 0⟩, 0, 100⟩)).map
      (fun sys => (sys.delivered.map (·.startAbs), sys.consumer.cursorAbs)) =
        some ([44, 100], 144) := by
    decide +kernel
  obtain ⟨sys, hfollow, heq⟩ := Option.map_eq_some_iff.mp hmap
  have hrun := Runs.start.of_follow hfollow
  obtain ⟨-, -, -, hpassed⟩ := shared_ring_safety (by decide) rfl hrun
  exact ⟨_, sys, rfl, hrun, congrArg Prod.fst heq, congrArg Prod.snd heq, hpassed⟩

/-- The step is not a load on which a record seems to cross the pool's end. -/
def SharedSystem.KeepsInPool (capacity : ℕ) (sys : SharedSystem) (action : SharedSystem.Action) :
    Prop :=
  action = .load → ¬sys.CrossesNext capacity

instance (capacity : ℕ) (sys : SharedSystem) : DecidablePred (sys.KeepsInPool capacity) :=
  fun action => inferInstanceAs (Decidable (action = .load → _))

end Runs

end OpenOT
