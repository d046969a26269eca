import OpenOT.St.Feeding

set_option relaxedAutoImplicit false
set_option autoImplicit false

/-!
# What guards a transition

While a transition is open, the operations 0 and 5 and the checkpoints are refused, and the
operations 6 to 16 are not. Of the operations 1 to 4, a call that its guard refuses changes nothing,
and a call that fails later has already counted its number or changed the run.

## Main definitions

* `OpenOT.St.Producer.closes` — the calls that close a transition.
* `OpenOT.St.Producer.emitsData` — the calls that write the record of a data operation.
* `OpenOT.St.TransitionState` — what the operations 1 to 4 change besides the store.
* `OpenOT.St.Producer.refusesTransition` — the guards of the operations 1 to 4.

## Main results

* `OpenOT.St.transition_without_data` — no data is written while a transition is open, apart from
  that of the operations 6 to 16.
* `OpenOT.St.failed_transition_unchanged_iff` — the failed calls that change nothing.
-/

namespace OpenOT.St

open Rust Transition

namespace Producer

/-! ## Data while a transition is open -/

/-- Whether a call closes the transition: operation 3 or 4, ending without an error. -/
def closes (arith : RealArith) (p : Producer) (inputs : Inputs) : Bool :=
  p.edge inputs && !inputs.checkpoint && (inputs.op == 3 || inputs.op == 4) &&
    (p.call arith inputs).any fun p' => !p'.error

/-- Whether a call opens a transition: operation 1, ending without an error. -/
def opens (arith : RealArith) (p : Producer) (inputs : Inputs) : Bool :=
  p.edge inputs && !inputs.checkpoint && inputs.op == 1 &&
    (p.call arith inputs).any fun p' => !p'.error

/-- Whether the ring takes the record of an emission, with its source in the source table. -/
def takesEmission (p : Producer) (inputs : Inputs) (emission : Emission) : Bool :=
  (openSource emission.sourceId p.sources).any fun opened =>
    (emission.encode ⟨p.nextSourceTime inputs, p.runId, (opened.2.get opened.1).nextSeq,
      emission.sourceId⟩).any fun encoded => p.store.ring.accepts encoded.length

/-- Whether a call writes the record of a data operation: one of the operations 6 to 16 has something
to emit, and the ring takes it. -/
def emitsData (arith : RealArith) (p : Producer) (inputs : Inputs) : Bool :=
  p.edge inputs && !inputs.checkpoint && isDataOp inputs.op &&
    match (p.prepared arith inputs).plan with
    | .emit emission => p.takesEmission inputs emission
    | _ => false

/-- What has been written since is of the system source. -/
def WritesSystem (p p' : Producer) : Prop :=
  ∃ new, p'.store.ring.written = p.store.ring.written ++ new ∧
    ∀ write ∈ new, write.sourceId = SYSTEM_SOURCE_ID

variable {arith : RealArith} {inputs : Inputs} {p p' p'' : Producer}

/-- A step that leaves what has been written as it is. -/
lemma WritesSystem.of_eq (h : p'.store.ring.written = p.store.ring.written) : p.WritesSystem p' :=
  ⟨[], by rw [h, List.append_nil], fun _ hwrite => by cases hwrite⟩

lemma WritesSystem.trans (h : p.WritesSystem p') (h' : p'.WritesSystem p'') :
    p.WritesSystem p'' := by
  obtain ⟨new, hnew, hsystem⟩ := h
  obtain ⟨more, hmore, hsystem'⟩ := h'
  refine ⟨new ++ more, by rw [hmore, hnew, List.append_assoc], fun write hwrite => ?_⟩
  rcases List.mem_append.mp hwrite with hold | hlast
  · exact hsystem write hold
  · exact hsystem' write hlast

/-- Records of the system source. -/
lemma WritesSystem.of_feeds {meets : Published → Prop} {c : Core}
    (h : Core.Feeds inputs meets p.core c)
    (hmeets : ∀ entry, meets entry → entry.sourceId = SYSTEM_SOURCE_ID)
    (hstore : p'.store = c.store) : p.WritesSystem p' := by
  obtain ⟨new, hnew, hall⟩ := h.store.written
  refine ⟨new, by rw [hstore]; exact hnew, fun write hwrite => ?_⟩
  obtain ⟨entry, hentry, -, hsource, -⟩ := hall write hwrite
  exact hsource.trans (hmeets entry hentry)

/-- The record of a data operation, unless the ring takes it. -/
lemma writesSystem_emit {emission : Emission} (h : p.emit inputs emission = some p')
    (hnot : p.takesEmission inputs emission = false) :
    p.WritesSystem p' ∧ p'.pending = p.pending := by
  rcases core_emit h with ⟨-, -, hcore⟩ | ⟨index, sources, encoded, hopen, hencoded, -, hcore⟩
  · exact ⟨.of_eq (congrArg (fun c => c.store.ring.written) hcore), congrArg Core.pending hcore⟩
  · refine ⟨.of_eq ?_, (congrArg Core.pending hcore).trans Core.pending_emit⟩
    have hrefused : p.store.ring.accepts encoded.length = false := by
      rw [takesEmission, hopen, Option.any_some, hencoded, Option.any_some] at hnot
      exact hnot
    rw [show p'.store = _ from (congrArg Core.store hcore).trans Core.store_emit,
      Store.ring_publish, Ring256.written_call]
    exact if_neg (ne_true_of_eq_false hrefused)

/-- **What a step does while a transition is open.** -/
lemma guarded_of_operated (hopen : p.pending.isOpen = true) (h : Operated arith inputs p p')
    (hnot : inputs.checkpoint = false → isDataOp inputs.op = true →
      ∀ emission, (p.prepared arith inputs).plan = .emit emission →
        takesEmission { p with memory := (p.prepared arith inputs).memory } inputs emission =
          false) :
    p.WritesSystem p' ∧ (p'.pending.isOpen = true ∨
      inputs.checkpoint = false ∧ (inputs.op = 3 ∨ inputs.op = 4) ∧ p'.error = false) := by
  have hsame : p'.core = p.core →
      p.WritesSystem p' ∧ (p'.pending.isOpen = true ∨
        inputs.checkpoint = false ∧ (inputs.op = 3 ∨ inputs.op = 4) ∧ p'.error = false) :=
    fun hcore => ⟨.of_eq (congrArg (fun c => c.store.ring.written) hcore),
      .inl ((congrArg (fun c => c.pending.isOpen) hcore).trans hopen)⟩
  cases h with
  | checkpoint _ h =>
    rcases core_checkpoint h with ⟨hcore, -⟩ | ⟨hclosed, -⟩
    · exact hsame hcore
    · rw [hopen] at hclosed
      cases hclosed
  | message _ _ h =>
    rcases core_message h with ⟨hcore, -⟩ | ⟨hclosed, -⟩
    · exact hsame hcore
    · rw [hopen] at hclosed
      cases hclosed
  | stage _ _ h =>
    rcases core_stage h with ⟨hcore, -⟩ | ⟨hclosed, -⟩
    · exact hsame hcore
    · rw [hopen] at hclosed
      cases hclosed
  | dataOp hcheckpoint hop h =>
    rcases core_dataOp h with ⟨-, -, hcore⟩ | ⟨-, -, hcore⟩ | ⟨emission, hplan, hemit⟩
    · exact ⟨.of_eq (congrArg (fun c => c.store.ring.written) hcore),
        .inl ((congrArg (fun c => c.pending.isOpen) hcore).trans hopen)⟩
    · exact ⟨.of_eq (congrArg (fun c => c.store.ring.written) hcore),
        .inl ((congrArg (fun c => c.pending.isOpen) hcore).trans hopen)⟩
    · obtain ⟨hwrites, hpending⟩ := writesSystem_emit hemit (hnot hcheckpoint hop emission hplan)
      exact ⟨hwrites, .inl ((congrArg Pending.isOpen hpending).trans hopen)⟩
  | beginTransition _ _ h =>
    rcases core_beginTransition h with ⟨-, hcore, -⟩ | ⟨hclosed, -⟩
    · exact hsame hcore
    · rw [hopen] at hclosed
      cases hclosed
  | changeDefinition _ _ h =>
    obtain ⟨c, hfeeds, hcore⟩ := feeds_changeDefinition h
    have hpending : c.pending.isOpen = true := (congrArg Pending.isOpen hfeeds.pending).trans hopen
    rcases hcore with hcore | hcore
    · exact ⟨.of_feeds hfeeds (fun _ h => h.1) (congrArg Core.store hcore),
        .inl ((congrArg (fun c => c.pending.isOpen) hcore).trans hpending)⟩
    · exact ⟨.of_feeds hfeeds (fun _ h => h.1) (congrArg Core.store hcore),
        .inl ((congrArg (fun c => c.pending.isOpen) hcore).trans hpending)⟩
  | finishWarm hcheckpoint hop h =>
    rcases core_finishWarm h with ⟨-, hcore, -⟩ | ⟨-, -, q, hq, herror, hcore⟩
    · exact hsame hcore
    · have hfeeds := feeds_started hq
      have hstore : p'.store = q.core.store := by
        split_ifs at hcore <;> exact congrArg Core.store hcore
      refine ⟨.of_feeds (p := { p with epochId := p.pending.epochId }) hfeeds (fun _ h => h.1)
        hstore, ?_⟩
      cases hfail : q.error with
      | true =>
        rw [if_pos hfail] at hcore
        exact .inl ((congrArg (fun c => c.pending.isOpen) hcore).trans
          ((congrArg Pending.isOpen hfeeds.pending).trans hopen))
      | false => exact .inr ⟨hcheckpoint, .inl hop, herror.trans hfail⟩
  | finishCold hcheckpoint hop h =>
    rcases core_finishCold h with ⟨-, hcore, -⟩ | ⟨-, -, q, hq, herror, hcore⟩
    · exact hsame hcore
    · have hfeeds := feeds_started hq
      have hstore : p'.store = q.core.store := by
        split_ifs at hcore <;> exact congrArg Core.store hcore
      refine ⟨.of_feeds (p := p.coldStarted) hfeeds (fun _ h => h.1) hstore, ?_⟩
      cases hfail : q.error with
      | true =>
        rw [if_pos hfail] at hcore
        exact .inl ((congrArg (fun c => c.pending.isOpen) hcore).trans
          ((congrArg Pending.isOpen hfeeds.pending).trans hopen))
      | false => exact .inr ⟨hcheckpoint, .inr hop, herror.trans hfail⟩
  | unknown _ _ h =>
    rw [h]
    exact ⟨.of_eq rfl, .inl hopen⟩

/-- A call while a transition is open: only the system source is written, and the transition stays
open unless the call closes it. -/
lemma guarded_call (hopen : p.pending.isOpen = true) (hcall : p.call arith inputs = some p')
    (hnot : p.emitsData arith inputs = false) :
    p.WritesSystem p' ∧ (p'.pending.isOpen = true ∨ p.closes arith inputs = true) := by
  obtain ⟨q, hq, hcases⟩ := call_cases hcall
  have henter : p.WritesSystem (p.enter inputs) := by
    refine .of_eq ?_
    unfold enter
    dsimp only
    split_ifs <;> rfl
  rcases hcases with ⟨-, rfl⟩ | ⟨hedge, hop⟩
  · rw [hq]
    exact ⟨henter, .inl hopen⟩
  · have hring : (p.enter inputs).store.ring = p.store.ring := by
      unfold enter
      dsimp only
      split_ifs <;> rfl
    obtain ⟨hwrites, hpending⟩ := guarded_of_operated (p := p.enter inputs) hopen hop
      fun hcheckpoint hdata emission hplan => by
        unfold emitsData at hnot
        rw [hedge, hcheckpoint, hdata, show (p.prepared arith inputs).plan = .emit emission from
          hplan] at hnot
        unfold takesEmission at hnot ⊢
        dsimp only at hnot ⊢
        rw [hring]
        exact hnot
    refine ⟨henter.trans ?_, ?_⟩
    · rw [hq]
      exact hwrites
    · rcases hpending with hopen' | ⟨hcheckpoint, hop', herror⟩
      · rw [hq]
        exact .inl hopen'
      · refine .inr ?_
        unfold closes
        rw [hedge, hcheckpoint, hcall, hq]
        rcases hop' with hop' | hop' <;> simp [hop', leave, herror]

/-- A call that opens a transition. -/
lemma isOpen_of_opens (hopens : p.opens arith inputs = true) (hcall : p.call arith inputs = some p') :
    p'.pending.isOpen = true := by
  simp only [opens, hcall, Bool.and_eq_true, Bool.not_eq_true', beq_iff_eq, Option.any_some]
    at hopens
  obtain ⟨⟨⟨hedge, hcheckpoint⟩, hop⟩, herror⟩ := hopens
  obtain ⟨q, rfl, hoperated⟩ := operated_of_call hedge hcall
  change q.error = false at herror
  cases hoperated with
  | checkpoint h =>
    rw [hcheckpoint] at h
    cases h
  | beginTransition _ _ h =>
    rcases core_beginTransition h with ⟨-, -, hfail⟩ | ⟨-, _, r, -, -, hr, hcore⟩
    · rw [herror] at hfail
      cases hfail
    · rw [if_neg (by rw [← hr, herror]; decide)] at hcore
      exact congrArg (fun c => c.pending.isOpen) hcore
  | dataOp _ h =>
    rw [hop] at h
    cases h
  | unknown _ h =>
    rw [hop] at h
    exact absurd h (by decide)
  | _ =>
    -- the other operations are not operation 1
    exact absurd (‹inputs.op = _›.symm.trans hop) (by decide)

/-- A call that emits data writes a record that is not of the system source. -/
lemma written_of_emitsData (hdata : p.emitsData arith inputs = true)
    (hcall : p.call arith inputs = some p') :
    ∃ write, p'.store.ring.written = p.store.ring.written ++ [write] ∧
      write.sourceId ≠ SYSTEM_SOURCE_ID := by
  simp only [emitsData, Bool.and_eq_true, Bool.not_eq_true'] at hdata
  obtain ⟨⟨⟨hedge, hcheckpoint⟩, hop⟩, hplan⟩ := hdata
  rw [call_dataOp hedge hcheckpoint hop] at hcall
  obtain ⟨q, hq, rfl⟩ := Option.map_eq_some_iff.mp hcall
  have hring : (p.enter inputs).store.ring = p.store.ring := by
    unfold enter
    dsimp only
    split_ifs <;> rfl
  rcases core_dataOp hq with ⟨hrefuse, -⟩ | ⟨hfinish, -⟩ | ⟨emission, hemits, hemit⟩
  · rw [show (p.prepared arith inputs).plan = .refuse from hrefuse] at hplan
    cases hplan
  · rw [show (p.prepared arith inputs).plan = .finish from hfinish] at hplan
    cases hplan
  rw [show (p.prepared arith inputs).plan = .emit emission from hemits] at hplan
  obtain ⟨opened, hopened, htakes⟩ := Option.any_eq_true _ _ |>.mp hplan
  obtain ⟨encoded, hencoded, haccepts⟩ := Option.any_eq_true _ _ |>.mp htakes
  rcases core_emit hemit with ⟨hnone, -⟩ | ⟨index, sources, encoded', hopen, hencoded', -, hcore⟩
  · rw [show openSource emission.sourceId p.sources = none from hnone] at hopened
    cases hopened
  rw [show openSource emission.sourceId p.sources = some (index, sources) from hopen] at hopened
  cases hopened
  have hsame : encoded' = encoded := Option.some.inj (hencoded'.symm.trans hencoded)
  subst hsame
  have hsource : emission.sourceId ≠ SYSTEM_SOURCE_ID := by
    rw [(emitted_of_prepare hop hemits).sourceId]
    exact activeSourceId_ne_zero inputs
  rw [← hring] at haccepts ⊢
  refine ⟨⟨(p.enter inputs).store.ring.recordStartAbs encoded'.length,
    encoded'.buffer.take encoded'.length.toNat, p.runId, emission.sourceId,
    (sources.get index).nextSeq⟩, ?_, hsource⟩
  change q.store.ring.written = _
  rw [show q.store = _ from (congrArg Core.store hcore).trans Core.store_emit, Store.ring_publish,
    Ring256.written_call]
  exact if_pos haccepts

end Producer

/-- **No data inside a transition**, apart from that of the operations 6 to 16. From the call that
opens a transition on, as long as no call closes it and none emits the record of a data operation,
only the system source is written, so that the counts of all other sources stay what the high-water
marks say; the same holds of the call that closes it. A call that emits the record of a data
operation writes it. -/
theorem transition_without_data {arith : RealArith} {p p₁ p₂ : Producer} {opening : Inputs}
    (hopens : p.opens arith opening = true) (hopening : p.call arith opening = some p₁)
    (hrun : Runs (Producer.step arith) (fun q inputs => q.closes arith inputs = false ∧
      q.emitsData arith inputs = false) p₁ p₂) :
    p₁.WritesSystem p₂ ∧
      (∀ runId sourceId, sourceId ≠ SYSTEM_SOURCE_ID →
        p₂.store.ring.written.countP (fun write => write.runId == runId &&
            write.sourceId == sourceId) =
          p₁.store.ring.written.countP fun write => write.runId == runId &&
            write.sourceId == sourceId) ∧
      ∀ inputs p₃, p₂.call arith inputs = some p₃ →
        (p₂.closes arith inputs = true → p₂.WritesSystem p₃) ∧
        (p₂.emitsData arith inputs = true → ∃ write,
          p₃.store.ring.written = p₂.store.ring.written ++ [write] ∧
            write.sourceId ≠ SYSTEM_SOURCE_ID) := by
  have hguarded : p₁.WritesSystem p₂ ∧ p₂.pending.isOpen = true := by
    refine hrun.invariant (P := fun q => p₁.WritesSystem q ∧ q.pending.isOpen = true)
      ⟨.of_eq rfl, Producer.isOpen_of_opens hopens hopening⟩ ?_
    rintro q inputs q' ⟨hwrites, hopen⟩ ⟨hcloses, hdata⟩ hstep
    obtain ⟨hstep, hopen'⟩ := Producer.guarded_call hopen hstep hdata
    rw [hcloses] at hopen'
    exact ⟨hwrites.trans hstep, by simpa using hopen'⟩
  obtain ⟨hwrites, hopen⟩ := hguarded
  refine ⟨hwrites, fun runId sourceId hsource => ?_, fun inputs p₃ hcall => ⟨fun hcloses => ?_,
    fun hdata => Producer.written_of_emitsData hdata hcall⟩⟩
  · obtain ⟨new, hnew, hsystem⟩ := hwrites
    rw [hnew, List.countP_append, Nat.add_eq_left, List.countP_eq_zero]
    intro write hwrite
    rw [hsystem write hwrite]
    simp [hsource.symm]
  · refine (Producer.guarded_call hopen hcall ?_).1
    simp only [Producer.closes, Bool.and_eq_true, Bool.or_eq_true, beq_iff_eq] at hcloses
    unfold Producer.emitsData
    rcases hcloses.1.2 with hop | hop <;> simp [hop, isDataOp]

/-- The first call of the producer opens a transition. -/
def openingCall : Inputs := { op := 1, execute := true }

/-- A transition is opened, and its definition is changed. -/
theorem transition_without_data_changed : ∃ p₁ p₂, Producer.init.opens noReals openingCall = true ∧
    Producer.init.call noReals openingCall = some p₁ ∧
    p₂.pending.defChangedEmitted = true ∧ p₁.WritesSystem p₂ := by
  have hopens : Producer.init.opens noReals openingCall = true := by decide +kernel
  have hmap : (Producer.init.call noReals openingCall).bind (fun p₁ =>
      (follow (Producer.step noReals) (fun q inputs => q.closes noReals inputs = false ∧
        q.emitsData noReals inputs = false) [{}, { op := 2, execute := true }] p₁).map
        fun p₂ => p₂.pending.defChangedEmitted) = some true := by
    decide +kernel
  obtain ⟨p₁, hopening, hrest⟩ := Option.bind_eq_some_iff.mp hmap
  obtain ⟨p₂, hfollow, hchanged⟩ := Option.map_eq_some_iff.mp hrest
  exact ⟨p₁, p₂, hopens, hopening, hchanged,
    (transition_without_data hopens hopening (Runs.start.of_follow hfollow)).1⟩

/-- A value that changes is written while the transition is open. -/
theorem transition_with_data : ∃ p₁ p₂, Producer.init.opens noReals openingCall = true ∧
    Producer.init.call noReals openingCall = some p₁ ∧
    Runs (Producer.step noReals) (fun q inputs => q.closes noReals inputs = false) p₁ p₂ ∧
    p₂.pending.isOpen = true ∧ ¬p₁.WritesSystem p₂ := by
  have hmap : (Producer.init.call noReals openingCall).bind (fun p₁ =>
      (follow (Producer.step noReals) (fun q inputs => q.closes noReals inputs = false)
        [{}, { op := 7, sourceId := 5, valueId := 3, valueInt := 1, execute := true }] p₁).map
        fun p₂ => (p₁.store.ring.written.map RingWrite.sourceId,
          p₂.store.ring.written.map RingWrite.sourceId, p₂.pending.isOpen)) =
      some ([0], [0, 5], true) := by
    decide +kernel
  obtain ⟨p₁, hopening, hrest⟩ := Option.bind_eq_some_iff.mp hmap
  obtain ⟨p₂, hfollow, hfields⟩ := Option.map_eq_some_iff.mp hrest
  simp only [Prod.mk.injEq] at hfields
  obtain ⟨hfirst, hsecond, hopen⟩ := hfields
  refine ⟨p₁, p₂, by decide +kernel, hopening, Runs.start.of_follow hfollow, hopen, ?_⟩
  rintro ⟨new, hnew, hsystem⟩
  rw [hnew, List.map_append, hfirst, List.singleton_append, List.cons.injEq] at hsecond
  obtain ⟨write, rest, hcons, hsource, -⟩ := List.map_eq_cons_iff.mp hsecond.2
  have hzero := hsystem write (by rw [hcons]; exact List.mem_cons_self)
  rw [hsource] at hzero
  exact absurd hzero (by decide)

/-! ## Failed calls -/

/-- What the operations 1 to 4 change besides the store. -/
structure TransitionState where
  runId : UInt64
  epochId : UInt64
  systemSeq : UInt64
  sources : Vector SourceEntry 16
  pending : Pending
  epochFirstAbs : ℕ
  definitionHash : Vector UInt8 8
  prevDefinitionHash : Vector UInt8 8

/-- That part of a core. -/
def Core.transitionState (c : Core) : TransitionState where
  runId := c.runId
  epochId := c.epochId
  systemSeq := c.systemSeq
  sources := c.sources
  pending := c.pending
  epochFirstAbs := c.epochFirstAbs
  definitionHash := c.definitionHash
  prevDefinitionHash := c.prevDefinitionHash

namespace Producer

/-- The guards of the operations 1 to 4. -/
def refusesTransition (p : Producer) (inputs : Inputs) : Bool :=
  if inputs.op = 1 then p.pending.isOpen
  else if inputs.op = 2 then !p.pending.isOpen || p.pending.defChangedEmitted
  else !p.pending.isOpen || !p.pending.defChangedEmitted

variable {arith : RealArith} {inputs : Inputs} {p p' : Producer}

lemma succ_ne_self (n : UInt64) : n + 1 ≠ n := by
  intro h
  have hval := congrArg UInt64.toNat h
  rw [UInt64.toNat_add] at hval
  have hlt := n.toNat_lt
  simp at hval
  omega

/-- The records of operation 1 count one number of the system source. -/
lemma systemSeq_highWaterLoop {fuel : ℕ} {last : Option UInt32}
    (h : p.highWaterLoop inputs fuel last = some p') : p'.systemSeq = p.systemSeq := by
  refine highWaterLoop_keeps (P := fun q => q.systemSeq = p.systemSeq) ?_ rfl h
  intro q index q' hq hhigh
  obtain ⟨encoded, -, hcore, -⟩ := core_highWater hhigh
  refine (congrArg Core.systemSeq hcore).trans ?_
  unfold Core.countAfter
  dsimp only
  split_ifs <;> exact hq

/-- A record of the system source counts its number. -/
lemma systemSeq_emitSystem {eventTypeId : UInt32} {encode : UInt64 → UInt64 → Option Encoded}
    (h : p.emitSystem inputs eventTypeId encode = some p') : p'.systemSeq = p.systemSeq + 1 := by
  obtain ⟨encoded, -, hcore, -⟩ := core_emitSystem h
  exact congrArg Core.systemSeq hcore

/-- **What a failed call of the operations 1 to 4 has changed**: nothing if its guard has refused
it, and its number or the run otherwise. -/
lemma failed_of_operated (hcheckpoint : inputs.checkpoint = false)
    (hop : inputs.op = 1 ∨ inputs.op = 2 ∨ inputs.op = 3 ∨ inputs.op = 4)
    (h : Operated arith inputs p p') (herror : p'.error = true) :
    p.refusesTransition inputs = true ∧ p'.core = p.core ∨
      p.refusesTransition inputs = false ∧
        (p'.systemSeq ≠ p.systemSeq ∨ p'.runId ≠ p.runId) := by
  unfold refusesTransition
  cases h with
  | checkpoint h =>
    rw [hcheckpoint] at h
    cases h
  | beginTransition _ h1 h =>
    rw [if_pos h1]
    rcases core_beginTransition h with ⟨hopen, hcore, -⟩ | ⟨hopen, q, r, hq, hr, hfail, hcore⟩
    · exact .inl ⟨hopen, hcore⟩
    · refine .inr ⟨hopen, .inl ?_⟩
      have hloop : r.systemSeq = q.systemSeq := by
        rcases hr with ⟨-, rfl⟩ | ⟨-, hr⟩
        · rfl
        · exact systemSeq_highWaterLoop hr
      rw [if_pos (hfail.symm.trans herror)] at hcore
      rw [show p'.systemSeq = r.systemSeq from congrArg Core.systemSeq hcore, hloop,
        systemSeq_emitSystem hq]
      exact succ_ne_self _
  | changeDefinition _ h2 h =>
    rw [if_neg (by rw [h2]; decide), if_pos h2]
    rcases core_changeDefinition h with ⟨hrefuse, hcore, -⟩ | ⟨hopen, hemitted, q, hq, hfail, hcore⟩
    · exact .inl ⟨by rcases hrefuse with hrefuse | hrefuse <;> simp [hrefuse], hcore⟩
    · refine .inr ⟨by simp [hopen, hemitted], .inl ?_⟩
      rw [if_pos (hfail.symm.trans herror)] at hcore
      rw [show p'.systemSeq = q.systemSeq from congrArg Core.systemSeq hcore,
        systemSeq_emitSystem hq]
      exact succ_ne_self _
  | finishWarm _ h3 h =>
    rw [if_neg (by rw [h3]; decide), if_neg (by rw [h3]; decide)]
    rcases core_finishWarm h with ⟨hrefuse, hcore, -⟩ | ⟨hopen, hemitted, q, hq, hfail, hcore⟩
    · exact .inl ⟨by rcases hrefuse with hrefuse | hrefuse <;> simp [hrefuse], hcore⟩
    · refine .inr ⟨by simp [hopen, hemitted], .inl ?_⟩
      rw [if_pos (hfail.symm.trans herror)] at hcore
      rw [show p'.systemSeq = q.systemSeq from congrArg Core.systemSeq hcore,
        systemSeq_emitSystem hq]
      exact succ_ne_self _
  | finishCold _ h4 h =>
    rw [if_neg (by rw [h4]; decide), if_neg (by rw [h4]; decide)]
    rcases core_finishCold h with ⟨hrefuse, hcore, -⟩ | ⟨hopen, hemitted, q, hq, hfail, hcore⟩
    · exact .inl ⟨by rcases hrefuse with hrefuse | hrefuse <;> simp [hrefuse], hcore⟩
    · refine .inr ⟨by simp [hopen, hemitted], .inr ?_⟩
      rw [if_pos (hfail.symm.trans herror)] at hcore
      rw [show p'.runId = q.runId from congrArg Core.runId hcore,
        show q.runId = p.runId + 1 from (feeds_started hq).runId]
      exact succ_ne_self _
  | dataOp _ hdata =>
    rcases hop with hop | hop | hop | hop <;> rw [hop] at hdata <;> cases hdata
  | unknown _ hlarge =>
    rcases hop with hop | hop | hop | hop <;> rw [hop] at hlarge <;> exact absurd hlarge (by decide)
  | message _ h0 => rw [h0] at hop; exact absurd hop (by decide)
  | stage _ h5 => rw [h5] at hop; exact absurd hop (by decide)

end Producer

/-- **Failed transition steps.** A call of the operations 1 to 4 that ends in an error leaves run,
epoch, numbers, sources, the open transition and the hashes as they were exactly when its guard has
refused it; then it has changed nothing but the scan list, which every such call may reset. -/
theorem failed_transition_unchanged_iff {arith : RealArith} {p p' : Producer} {inputs : Inputs}
    (hedge : p.edge inputs = true) (hcheckpoint : inputs.checkpoint = false)
    (hop : inputs.op = 1 ∨ inputs.op = 2 ∨ inputs.op = 3 ∨ inputs.op = 4)
    (hcall : p.call arith inputs = some p') (herror : p'.error = true) :
    (p'.core.transitionState = p.core.transitionState ↔ p.refusesTransition inputs = true) ∧
      (p.refusesTransition inputs = true → p'.core = (p.enter inputs).core) := by
  obtain ⟨q, rfl, hoperated⟩ := Producer.operated_of_call hedge hcall
  have henter : (p.enter inputs).core.transitionState = p.core.transitionState := by
    rw [Producer.core_enter]
    split_ifs <;> rfl
  rw [Producer.core_leave]
  rcases Producer.failed_of_operated hcheckpoint hop hoperated herror with
    ⟨hrefuse, hcore⟩ | ⟨hrefuse, hchanged⟩
  · refine ⟨⟨fun _ => hrefuse, fun _ => ?_⟩, fun _ => hcore⟩
    rw [hcore, henter]
  · have hfalse : p.refusesTransition inputs = false := hrefuse
    refine ⟨⟨fun hsame => ?_, fun htrue => ?_⟩, fun htrue => ?_⟩
    · rw [← henter] at hsame
      rcases hchanged with hseq | hrun
      · exact absurd (congrArg TransitionState.systemSeq hsame) hseq
      · exact absurd (congrArg TransitionState.runId hsame) hrun
    · rw [hfalse] at htrue
      cases htrue
    · rw [hfalse] at htrue
      cases htrue

/-- Operation 2 without a transition. -/
theorem failed_transition_unchanged_changeDefinition : ∃ p',
    Producer.init.call noReals { op := 2, execute := true } = some p' ∧ p'.error = true ∧
      p'.core.transitionState = Producer.init.core.transitionState := by
  have hmap : (Producer.init.call noReals { op := 2, execute := true }).map Producer.error =
      some true := by
    decide +kernel
  obtain ⟨p', hcall, herror⟩ := Option.map_eq_some_iff.mp hmap
  exact ⟨p', hcall, herror, (failed_transition_unchanged_iff (by decide) rfl (.inr (.inl rfl))
    hcall herror).1.mpr rfl⟩

/-- The calls that stage a record of 256 bytes. -/
def fullStage (seq : UInt64) : List Inputs :=
  pulse {
    op := 5
    sourceId := 5
    stageLength := 256
    stageSeq := seq
    accumulateScanRecords := true }

/-- Four staged records fill the scan list. -/
def fillingCalls : List Inputs := [0, 1, 2, 3].flatMap fullStage

/-- Operation 1 behind a full scan list ends in an error and has counted the number of its first
record. -/
theorem failed_transition_changed : ∃ p p', Producer.Reachable noReals p ∧
    p.call noReals { op := 1, execute := true, accumulateScanRecords := true } = some p' ∧
    p'.error = true ∧ p'.core.transitionState ≠ p.core.transitionState := by
  have hmap : (follow (Producer.step noReals) (fun _ _ => True) fillingCalls Producer.init).bind
      (fun p => (p.call noReals { op := 1, execute := true, accumulateScanRecords := true }).map
        fun p' => (p'.error, p.systemSeq, p'.systemSeq)) = some (true, 0, 1) := by
    decide +kernel
  obtain ⟨p, hfollow, hcall⟩ := Option.bind_eq_some_iff.mp hmap
  obtain ⟨p', hcall, hfields⟩ := Option.map_eq_some_iff.mp hcall
  simp only [Prod.mk.injEq] at hfields
  obtain ⟨herror, hbefore, hafter⟩ := hfields
  refine ⟨p, p', Runs.start.of_follow hfollow, hcall, herror, fun hsame => ?_⟩
  have hseq : p'.systemSeq = p.systemSeq := congrArg TransitionState.systemSeq hsame
  rw [hbefore, hafter] at hseq
  exact absurd hseq (by decide)

end OpenOT.St
