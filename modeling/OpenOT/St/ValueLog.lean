import OpenOT.St.Observations

set_option relaxedAutoImplicit false
set_option autoImplicit false

/-!
# The log of values

A reader of the published records who knows the kind of every value recovers the values that have
been observed, as long as each value is observed in one way and no parameter is commanded.

## Main definitions

* `OpenOT.St.valueChanges`, `OpenOT.St.loggedValue` — the changes that have been published, and the
  value that they lead to.
* `OpenOT.St.Inputs.Uses` — a `ValueId` is used with one operation and one payload length.
* `OpenOT.St.Logs` — the log and the tables of values agree.

## Main results

* `OpenOT.St.Logs.loggedValue` — what the log tells is what is stored.
* `OpenOT.St.logs_of_call` — a call keeps the agreement.
* `OpenOT.St.value_log_reconstructs` — the log in all runs.

## Design

The agreement relates two partial functions of the `ValueId`: what is stored, and what the last
change of it in the log has left. A reader is not told when a value could not be published, but then
nothing is stored either.
-/

namespace OpenOT.St

open Rust Transition

/-! ## The log -/

/-- The changes of values that have been published. -/
def valueChanges (published : List Published) : List (ChangeLog.Change UInt32 Bytes) :=
  published.filterMap (Published.change EVENT_VALUE_CHANGED)

/-- The value that the most recent change of a `ValueId` tells, to a reader who knows its kind. -/
def loggedValue (kind : Kind) (valueId : UInt32) (published : List Published) : Option Value :=
  (ChangeLog.last (valueChanges published) valueId).map kind.read

/-- A call uses its `ValueId` with the operation and the payload length that belong to it. -/
structure Inputs.Uses (ops width : UInt32 → UInt16) (inputs : Inputs) : Prop where
  not_staged : inputs.op ≠ 5
  not_commanded : inputs.op ≠ 15
  op : inputs.observed ≠ none → inputs.op = ops inputs.valueId
  width : inputs.op = 10 → inputs.valuePayloadLength = width inputs.valueId
  fits : inputs.op = 10 → inputs.valueBits.toNat < 2 ^ (8 * inputs.valuePayloadLength.toNat)

instance (ops width : UInt32 → UInt16) (inputs : Inputs) : Decidable (inputs.Uses ops width) :=
  decidable_of_iff (inputs.op ≠ 5 ∧ inputs.op ≠ 15 ∧
      (inputs.observed ≠ none → inputs.op = ops inputs.valueId) ∧
      (inputs.op = 10 → inputs.valuePayloadLength = width inputs.valueId) ∧
      (inputs.op = 10 → inputs.valueBits.toNat < 2 ^ (8 * inputs.valuePayloadLength.toNat)))
    ⟨fun ⟨hstaged, hcommanded, hop, hwidth, hfits⟩ => ⟨hstaged, hcommanded, hop, hwidth, hfits⟩,
      fun h => ⟨h.not_staged, h.not_commanded, h.op, h.width, h.fits⟩⟩

/-- The kind of the values that an operation observes. -/
def observedKind (op : UInt16) : Kind :=
  if op = 6 then .real else if op = 7 then .int else if op = 10 then .bits else .string

/-! ## Kinds and bytes -/

lemma kind_of_observed {inputs : Inputs} {value : Value} (h : inputs.observed = some value) :
    value.kind = observedKind inputs.op := by
  unfold Inputs.observed at h
  unfold observedKind
  split_ifs at h ⊢ <;> cases h <;> rfl

/-- A bit string is observed by operation 10. -/
lemma bits_of_observed {inputs : Inputs} {value : Value} (h : inputs.observed = some value)
    (hkind : value.kind = .bits) : inputs.op = 10 ∧ value = .bits inputs.valueBits := by
  unfold Inputs.observed at h
  split_ifs at h with h6 h7 h10 h11 <;> cases h <;> first | exact ⟨h10, rfl⟩ | cases hkind

/-- What is stored of a kind is of this kind. -/
lemma Values.kind_last {values : Values} {kind : Kind} {valueId : UInt32} {value : Value}
    (h : values.last kind valueId = some value) : value.kind = kind := by
  cases kind <;> obtain ⟨_, -, rfl⟩ := Option.map_eq_some_iff.mp h <;> rfl

/-- Only the bytes of a bit string depend on the payload length. -/
lemma Value.payload_eq {value : Value} {n m : ℕ} (h : value.kind = .bits → n = m) :
    value.payload n = value.payload m := by
  cases value with
  | bits => rw [h rfl]
  | _ => rfl

namespace Inputs.Uses

variable {ops width : UInt32 → UInt16} {inputs : Inputs} {value : Value}

lemma kind (h : inputs.Uses ops width) (hobserved : inputs.observed = some value) :
    value.kind = observedKind (ops inputs.valueId) := by
  rw [kind_of_observed hobserved, h.op (by rw [hobserved]; exact Option.some_ne_none _)]

/-- The bytes of a value of the kind observed. -/
lemma payload (h : inputs.Uses ops width) (hobserved : inputs.observed = some value) {other : Value}
    (hkind : other.kind = value.kind) :
    inputs.payload other = other.payload (writtenBytes (width inputs.valueId)) := by
  refine Value.payload_eq fun hbits => ?_
  rw [h.width (bits_of_observed hobserved (hkind ▸ hbits)).1]

end Inputs.Uses

/-! ## Agreement -/

/-- The log of values agrees with what is stored: the changes of every `ValueId` continue one
another, and the last has left the bytes of the value stored. -/
structure Logs (ops width : UInt32 → UInt16) (values : Values) (published : List Published) :
    Prop where
  sound : values.Sound
  decoded : ∀ entry ∈ published, entry.eventTypeId = EVENT_VALUE_CHANGED →
    entry.change EVENT_VALUE_CHANGED ≠ none
  chained : ChangeLog.Chained (valueChanges published)
  last : ∀ valueId, ChangeLog.last (valueChanges published) valueId =
    (values.last (observedKind (ops valueId)) valueId).map
      (Value.payload (writtenBytes (width valueId)))
  fits : ∀ valueId bits, values.last .bits valueId = some (.bits bits) →
    bits.toNat < 256 ^ writtenBytes (width valueId)

namespace Logs

variable {ops width : UInt32 → UInt16} {values values' : Values} {published : List Published}

/-- Nothing is stored and nothing is published before the first call. -/
lemma new : Logs ops width Memory.new.values [] where
  sound := sound_new.1
  decoded _ h := by cases h
  chained := ChangeLog.chained_nil
  last valueId := by
    rw [sound_new.2]
    rfl
  fits valueId bits h := by
    rw [sound_new.2] at h
    cases h

/-- What is stored is the same, and the records published are no changes of values. -/
lemma append (h : Logs ops width values published) (hsound : values'.Sound)
    (hlast : values'.last = values.last) {new : List Published}
    (hnew : ∀ entry ∈ new, entry.eventTypeId ≠ EVENT_VALUE_CHANGED ∧
      entry.change EVENT_VALUE_CHANGED = none) : Logs ops width values' (published ++ new) := by
  have hchanges : valueChanges (published ++ new) = valueChanges published := by
    rw [valueChanges, List.filterMap_append,
      List.filterMap_eq_nil_iff.mpr fun entry hentry => (hnew entry hentry).2, List.append_nil]
    rfl
  refine ⟨hsound, fun entry hentry hevent => ?_, ?_, fun valueId => ?_,
    fun valueId bits hbits => ?_⟩
  · rcases List.mem_append.mp hentry with hold | hnew'
    · exact h.decoded entry hold hevent
    · exact absurd hevent (hnew entry hnew').1
  · rw [hchanges]
    exact h.chained
  · rw [hchanges, hlast]
    exact h.last valueId
  · rw [hlast] at hbits
    exact h.fits valueId bits hbits

/-- **An observed value is published and stored.** -/
lemma logged (h : Logs ops width values published) {inputs : Inputs} {value : Value}
    (huses : inputs.Uses ops width) (hobserved : inputs.observed = some value)
    (hsound : values'.Sound)
    (hlast : values'.last = values.last.put value.kind inputs.valueId value) {entry : Published}
    {previous : Option Bytes} (hentry : entry.change EVENT_VALUE_CHANGED =
      some ⟨inputs.valueId, previous, inputs.payload value⟩)
    (hprevious : ∀ bytes, previous = some bytes →
      (values.last value.kind inputs.valueId).map inputs.payload = some bytes) :
    Logs ops width values' (published ++ [entry]) := by
  have hkind := huses.kind hobserved
  have hchanges : valueChanges (published ++ [entry]) =
      valueChanges published ++ [⟨inputs.valueId, previous, inputs.payload value⟩] := by
    rw [valueChanges, List.filterMap_append, List.filterMap_cons_some hentry]
    rfl
  refine ⟨hsound, fun entry' hentry' hevent => ?_, ?_, fun valueId => ?_,
    fun valueId bits hbits => ?_⟩
  · rcases List.mem_append.mp hentry' with hold | hnew
    · exact h.decoded entry' hold hevent
    · rw [List.mem_singleton.mp hnew, hentry]
      exact Option.some_ne_none _
  · rw [hchanges]
    refine h.chained.concat fun bytes hbytes => ?_
    obtain ⟨stored, hstored, hpayload⟩ := Option.map_eq_some_iff.mp (hprevious bytes hbytes)
    rw [h.last, ← hkind, hstored, Option.map_some, ← hpayload,
      huses.payload hobserved (Values.kind_last hstored)]
  · rw [hchanges, ChangeLog.last_concat, hlast, LastValues.put]
    by_cases hid : valueId = inputs.valueId
    · rw [if_pos hid, if_pos ⟨by rw [hid, hkind], hid⟩, Option.map_some, hid,
        huses.payload hobserved rfl]
    · rw [if_neg hid, if_neg fun h' => hid h'.2, h.last]
  · rw [hlast, LastValues.put] at hbits
    split_ifs at hbits with hself
    · obtain ⟨hbitsKind, rfl⟩ := hself
      obtain ⟨h10, hvalue⟩ := bits_of_observed hobserved hbitsKind.symm
      rw [hvalue] at hbits
      cases hbits
      rw [← huses.width h10]
      exact lt_pow_writtenBytes (huses.fits h10)
    · exact h.fits valueId bits hbits

/-- **What the log tells is what is stored.** -/
lemma loggedValue (h : Logs ops width values published) {kind : Kind} {valueId : UInt32}
    (hkind : kind = observedKind (ops valueId)) :
    St.loggedValue kind valueId published = values.last kind valueId := by
  rw [St.loggedValue, h.last, ← hkind]
  cases hstored : values.last kind valueId with
  | none => rfl
  | some value =>
    have hvalue := Values.kind_last hstored
    rw [Option.map_some, Option.map_some, ← hvalue, Kind.read_payload, Value.cut_eq]
    intro bits hbits
    rw [hbits] at hvalue hstored
    rw [← hvalue] at hstored
    exact h.fits valueId bits hstored

end Logs

/-! ## Calls -/

/-- The calls of a log of values: an edge of `Execute` uses its `ValueId` as it always does. -/
def LogCall (ops width : UInt32 → UInt16) (p : Producer) (inputs : Inputs) : Prop :=
  p.edge inputs = true → inputs.checkpoint = false → inputs.Uses ops width

instance (ops width : UInt32 → UInt16) (p : Producer) : DecidablePred (LogCall ops width p) :=
  fun inputs => inferInstanceAs
    (Decidable (p.edge inputs = true → inputs.checkpoint = false → inputs.Uses ops width))

section

variable {arith : RealArith} {ops width : UInt32 → UInt16} {inputs : Inputs} {p p' : Producer}

/-- **A call keeps the agreement.** -/
lemma logs_of_call (h : Logs ops width p.memory.values p.store.published)
    (hcall : LogCall ops width p inputs) (hstep : p.call arith inputs = some p') :
    Logs ops width p'.memory.values p'.store.published := by
  by_cases hobserves : p.edge inputs = true ∧ inputs.checkpoint = false ∧ inputs.observed ≠ none
  · obtain ⟨hedge, hcheckpoint, hobserved⟩ := hobserves
    obtain ⟨value, hobserved⟩ := Option.ne_none_iff_exists'.mp hobserved
    obtain ⟨hsound, hvalue⟩ :=
      Producer.observes_of_call hedge hcheckpoint hobserved h.sound hstep
    have hsame : p'.store.published = p.store.published →
        p'.memory.values.last = p.memory.values.last →
          Logs ops width p'.memory.values p'.store.published := fun hpublished hlast => by
      rw [hpublished, ← List.append_nil p.store.published]
      exact h.append hsound hlast fun _ hentry => absurd hentry List.not_mem_nil
    cases hvalue with
    | refused _ hpublished hlast => exact hsame hpublished hlast
    | same _ hpublished hlast => exact hsame hpublished hlast
    | logged _ hpublished hlast hentry hprevious =>
      rw [hpublished]
      exact h.logged (hcall hedge hcheckpoint) hobserved hsound hlast hentry hprevious
  · have hother : p.edge inputs = true → inputs.checkpoint = true ∨
        inputs.op ≠ 5 ∧ inputs.op ≠ 15 ∧ inputs.observed = none := by
      intro hedge
      rcases Bool.eq_false_or_eq_true inputs.checkpoint with hcheckpoint | hcheckpoint
      · exact .inl hcheckpoint
      · have huses := hcall hedge hcheckpoint
        have hnone : inputs.observed = none := by
          by_contra hsome
          exact hobserves ⟨hedge, hcheckpoint, hsome⟩
        exact .inr ⟨huses.not_staged, huses.not_commanded, hnone⟩
    have hstored := Producer.same_of_call hstep fun hedge =>
      (hother hedge).imp_right fun h => ⟨h.2.2, h.2.1⟩
    obtain ⟨new, hpublished, hnew⟩ := Producer.published_of_call hstep
    rw [hpublished]
    refine h.append (hstored.sound h.sound) hstored.last fun entry hentry => ?_
    obtain ⟨hedge, hof⟩ := hnew entry hentry
    exact hof.not_changed ((hother hedge).imp_right fun h => ⟨h.1, h.2.2⟩)

/-- The log of every state reached. -/
lemma logs_of_run (hrun : Runs (Producer.step arith) (LogCall ops width) .init p) :
    Logs ops width p.memory.values p.store.published :=
  hrun.invariant .new fun _ _ _ h hcall hstep => logs_of_call h hcall hstep

end

/-- **The log reconstructs the observed values.** In a run without operations 5 and 15 that observes
each value in one way, after every call of operation 7, 10 or 11 that ends in `Done`: the most
recent change of its `ValueId` tells the value observed, every change continues the one of its
`ValueId` before it, and unless the value is sampled periodically, a record is published exactly
when the value is not the one that the log told. -/
theorem value_log_reconstructs {arith : RealArith} {ops width : UInt32 → UInt16}
    {inputs : Inputs} {value : Value} {p p' : Producer}
    (hrun : Runs (Producer.step arith) (LogCall ops width) .init p)
    (hcall : LogCall ops width p inputs) (hedge : p.edge inputs = true)
    (hcheckpoint : inputs.checkpoint = false)
    (hop : inputs.op = 7 ∨ inputs.op = 10 ∨ inputs.op = 11)
    (hobserved : inputs.observed = some value) (hstep : p.call arith inputs = some p')
    (hdone : p'.done = true) :
    loggedValue value.kind inputs.valueId p'.store.published = some value ∧
      (∀ entry ∈ p'.store.published, entry.eventTypeId = EVENT_VALUE_CHANGED →
        entry.change EVENT_VALUE_CHANGED ≠ none) ∧
      ChangeLog.Chained (valueChanges p'.store.published) ∧
      (inputs.samplingMode ≠ 1 →
        if loggedValue value.kind inputs.valueId p.store.published = some value then
          p'.store.published = p.store.published
        else ∃ entry, p'.store.published = p.store.published ++ [entry]) := by
  have hbefore := logs_of_run hrun
  have hafter := logs_of_call hbefore hcall hstep
  have hkind := (hcall hedge hcheckpoint).kind hobserved
  have hne : value.kind ≠ .real := by
    rw [kind_of_observed hobserved, observedKind]
    rcases hop with h | h | h <;> rw [h] <;> decide
  obtain ⟨-, hvalue⟩ :=
    Producer.observes_of_call hedge hcheckpoint hobserved hbefore.sound hstep
  rw [hafter.loggedValue hkind, hbefore.loggedValue hkind]
  cases hvalue with
  | refused hnot =>
    rw [hdone] at hnot
    cases hnot
  | same _ hpublished hlast hsame =>
    refine ⟨hlast ▸ hsame hne, hafter.decoded, hafter.chained, fun _ => ?_⟩
    rw [if_pos (hsame hne)]
    exact hpublished
  | @logged entry _ _ hpublished hlast _ _ hnew =>
    refine ⟨hlast ▸ LastValues.put_self, hafter.decoded, hafter.chained, fun hmode => ?_⟩
    rw [if_neg (hnew hmode hne)]
    exact ⟨entry, hpublished⟩

/-- The calls that observe an integer and a bit string. -/
def observingCalls : List Inputs :=
  pulse { op := 7, valueId := 1, valueInt := 5 } ++
    pulse { op := 10, valueId := 2, valueBits := 0x1FF, valuePayloadLength := 2 }

/-- The call that observes the integer again. -/
def observedAgain : Inputs := { op := 7, valueId := 1, valueInt := -6, execute := true }

/-- An integer is observed, a bit string, and then the integer again. -/
theorem value_log_reconstructs_twice : ∃ p p',
    Runs (Producer.step noReals) (LogCall (fun valueId => if valueId = 1 then 7 else 10) fun _ => 2)
      .init p ∧ p.call noReals observedAgain = some p' ∧ p'.store.published.length = 3 ∧
      loggedValue .int 1 p'.store.published = some (.int (-6)) ∧
      ChangeLog.Chained (valueChanges p'.store.published) := by
  have hmap : (follow (Producer.step noReals)
      (LogCall (fun valueId => if valueId = 1 then 7 else 10) fun _ => 2) observingCalls
      Producer.init).bind (fun p => (p.call noReals observedAgain).map fun p' =>
        (p.previousExecute, p'.done, p'.store.published.length)) = some (false, true, 3) := by
    decide +kernel
  obtain ⟨p, hfollow, hmap⟩ := Option.bind_eq_some_iff.mp hmap
  obtain ⟨p', hstep, hfields⟩ := Option.map_eq_some_iff.mp hmap
  simp only [Prod.mk.injEq] at hfields
  obtain ⟨hprevious, hdone, hlength⟩ := hfields
  have hrun : Runs (Producer.step noReals)
      (LogCall (fun valueId => if valueId = 1 then 7 else 10) fun _ => 2) .init p :=
    Runs.start.of_follow hfollow
  have hedge : p.edge observedAgain = true := by
    rw [Producer.edge, hprevious]
    rfl
  obtain ⟨hlogged, -, hchained, -⟩ := value_log_reconstructs hrun (fun _ _ => by decide) hedge rfl
    (.inl rfl) rfl hstep hdone
  exact ⟨p, p', hrun, hstep, hlength, hlogged, hchained⟩

end OpenOT.St
