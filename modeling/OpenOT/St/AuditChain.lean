import OpenOT.St.Observations

set_option relaxedAutoImplicit false
set_option autoImplicit false

/-!
# The audit chain

Operation 15 commands a value. The records that it publishes say what was stored of this value
before, unless the type tag is that of a `REAL` or `DINT` and the payload length is not 4: then the
value is looked up among the bit strings, and the entry with the same index in the table of the type
tag is published and overwritten, whichever value it belongs to.

## Main definitions

* `OpenOT.St.Inputs.commanded` — the value that operation 15 commands.
* `OpenOT.St.Producer.Commands` — what becomes of a commanded value.
* `OpenOT.St.Producer.Misroutes` — a call that publishes the entry of another table.
* `OpenOT.St.storedAfter` — what has been stored, as the calls tell it.
* `OpenOT.St.Audits` — a call continues the audit chain.

## Main results

* `OpenOT.St.Producer.commands_of_dataOp` — operation 15, apart from such calls.
* `OpenOT.St.stored_of_run` — what has been stored is what the tables store.
* `OpenOT.St.audit_chain_unbroken` — the audit chain in all runs without such calls.
* `OpenOT.St.audit_chain_broken` — one with such a call.

## Design

What has been stored is kept beside the run, from the inputs of the calls and what they publish, and
not from the tables; that the tables agree with it is the invariant. Nothing is assumed of the
arithmetic of `REAL` values: a value that is published is carried and stored as its bit pattern.
-/

namespace OpenOT.St

open Rust Transition

/-! ## Commanded values -/

/-- The value that operation 15 commands, of the kind that its type tag and payload length say. -/
def Inputs.commanded (inputs : Inputs) : Option Value :=
  if inputs.valueTypeTag = TY_REAL ∧ inputs.valuePayloadLength = 4 then
    some (.real inputs.valueReal)
  else if inputs.valueTypeTag = TY_DINT ∧ inputs.valuePayloadLength = 4 then
    some (.int inputs.valueInt)
  else if inputs.valueTypeTag = TY_STRING then some (.string inputs.valueString)
  else if fixedWidth inputs.valuePayloadLength then some (.bits inputs.valueBits)
  else none

namespace Producer

/-- What becomes of a commanded value: it is refused; or it is not published, and stored if nothing
was; or it is published with the one stored before it, and then stored. -/
inductive Commands (inputs : Inputs) (value : Value) (p p' : Producer) : Prop
  | refused (hdone : p'.done = false) (hpublished : p'.store.published = p.store.published)
      (hlast : p'.memory.values.last = p.memory.values.last)
  | taken (hdone : p'.done = true) (hpublished : p'.store.published = p.store.published)
      (hlast : p'.memory.values.last =
        if p.memory.values.last value.kind inputs.valueId = none then
          p.memory.values.last.put value.kind inputs.valueId value
        else p.memory.values.last)
  | changed {entry : Published} {previous : Value} (hdone : p'.done = true)
      (hpublished : p'.store.published = p.store.published ++ [entry])
      (hlast : p'.memory.values.last =
        p.memory.values.last.put value.kind inputs.valueId value)
      (hprevious : p.memory.values.last value.kind inputs.valueId = some previous)
      (hentry : entry.change EVENT_PARAMETER_CHANGE =
        some ⟨inputs.valueId, some (inputs.payload previous), inputs.payload value⟩)

/-- A change of a value that is looked up among the bit strings and published from another table:
its type tag is that of a `REAL` or `DINT`, but its payload length is not 4. -/
structure Misroutes (inputs : Inputs) (p : Producer) : Prop where
  tag : inputs.valueTypeTag = TY_REAL ∨ inputs.valueTypeTag = TY_DINT
  length : inputs.valuePayloadLength ≠ 4
  width : fixedWidth inputs.valuePayloadLength = true
  known : p.memory.values.last .bits inputs.valueId ≠ none
  changes : p.memory.values.last .bits inputs.valueId ≠ some (.bits inputs.valueBits)
  actor : len96 inputs.audit.actor ≠ 0
  reason : len96 inputs.audit.reason ≠ 0
  fits : auditRecordLength inputs.audit 16 ≤ 256

instance (inputs : Inputs) (p : Producer) : Decidable (Misroutes inputs p) :=
  decidable_of_iff ((inputs.valueTypeTag = TY_REAL ∨ inputs.valueTypeTag = TY_DINT) ∧
      inputs.valuePayloadLength ≠ 4 ∧ fixedWidth inputs.valuePayloadLength = true ∧
      p.memory.values.last .bits inputs.valueId ≠ none ∧
      p.memory.values.last .bits inputs.valueId ≠ some (.bits inputs.valueBits) ∧
      len96 inputs.audit.actor ≠ 0 ∧ len96 inputs.audit.reason ≠ 0 ∧
      auditRecordLength inputs.audit 16 ≤ 256)
    ⟨fun ⟨htag, hlength, hwidth, hknown, hchanges, hactor, hreason, hfits⟩ =>
      ⟨htag, hlength, hwidth, hknown, hchanges, hactor, hreason, hfits⟩,
      fun h => ⟨h.tag, h.length, h.width, h.known, h.changes, h.actor, h.reason, h.fits⟩⟩

variable {arith : RealArith} {inputs : Inputs} {p p' : Producer} {α β γ δ : Type}
  {kind : ValueKind α β} {written : ValueKind γ δ} {tag : Kind} {wrap : α → Value} {index : Fin 16}
  {memory : Memory}

/-- A change is published if it has an actor and a reason and fits. -/
lemma emitParameter_cases (kind : ValueKind α β) (inputs : Inputs) (index : Fin 16)
    (memory : Memory) :
    (emitParameter kind inputs index memory).plan = .refuse ∧
        (emitParameter kind inputs index memory).memory.values = memory.values ∨
      len96 inputs.audit.actor ≠ 0 ∧ len96 inputs.audit.reason ≠ 0 ∧
        auditRecordLength inputs.audit (kind.parameterLength inputs
          ((kind.table memory.values).get index).lastValue) ≤ 256 ∧
        emitParameter kind inputs index memory = ⟨memory, .emit (parameterEmission kind inputs index
          ((kind.table memory.values).get index).lastValue)⟩ := by
  unfold emitParameter
  dsimp only
  split_ifs with hmissing hlong
  · exact .inl ⟨rfl, rfl⟩
  · exact .inl ⟨rfl, rfl⟩
  · rw [not_or] at hmissing
    exact .inr ⟨hmissing.1, hmissing.2, by simpa using hlong, rfl⟩

/-- The record of a commanded value tells of its change. -/
lemma change_of_parameter (hspells : kind.Spells wrap) {previous : α} {entry : Published}
    (hrecord : ∀ slots, (parameterEmission kind inputs index previous).Writes slots →
      ∃ envelope, entry.record = some (Envelope.record envelope EVENT_PARAMETER_CHANGE slots)) :
    entry.change EVENT_PARAMETER_CHANGE = some ⟨inputs.valueId,
      some (inputs.payload (wrap previous)), inputs.payload (wrap (kind.value inputs))⟩ := by
  obtain ⟨newField, previousField, hwrites, ⟨hnewKey, hnewPayload⟩, hpreviousKey,
    hpreviousPayload⟩ := hspells.parameter inputs index previous
  obtain ⟨envelope, henvelope⟩ := hrecord _ hwrites
  obtain ⟨hid, hnew, hprevious⟩ := slots_parameter hnewKey hpreviousKey
  rw [Published.change_eq henvelope hid hnew, hprevious, hnewPayload, hpreviousPayload]
  rfl

/-- A commanded value that is refused. -/
lemma commands_refuse {value : Value} (hidle : p.done = false) (hsound : p.memory.values.Sound)
    (hplan : (p.prepared arith inputs).plan = .refuse)
    (hvalues : (p.prepared arith inputs).memory.values = p.memory.values)
    (h : p.dataOp arith inputs = some p') :
    p'.memory.values.Sound ∧ Commands inputs value p p' := by
  rw [dataOp_refuse hplan] at h
  cases h
  exact ⟨show Values.Sound _ from hvalues ▸ hsound,
    .refused hidle rfl (congrArg Values.last hvalues)⟩

/-- What operation 15 publishes of a change: nothing, or the entry at an index, which is then
overwritten. -/
lemma emitParameter_spec (hspells : kind.Spells wrap) (hidle : p.done = false)
    (hprepared : p.prepared arith inputs = emitParameter kind inputs index p.memory)
    (h : p.dataOp arith inputs = some p') :
    p'.done = false ∧ p'.store.published = p.store.published ∧
        p'.memory.values = p.memory.values ∨
      p'.done = true ∧ ∃ entry sourceTime, p'.store.published = p.store.published ++ [entry] ∧
        p'.memory.values = (parameterEmission kind inputs index
          ((kind.table p.memory.values).get index).lastValue).keep sourceTime p.memory.values ∧
        entry.change EVENT_PARAMETER_CHANGE = some ⟨inputs.valueId,
          some (inputs.payload (wrap ((kind.table p.memory.values).get index).lastValue)),
          inputs.payload (wrap (kind.value inputs))⟩ := by
  rcases emitParameter_cases kind inputs index p.memory with
    ⟨hrefuse, hvalues⟩ | ⟨-, -, -, hemit⟩
  · rw [← hprepared] at hrefuse hvalues
    rw [dataOp_refuse hrefuse] at h
    cases h
    exact .inl ⟨hidle, rfl, hvalues⟩
  rw [← hprepared] at hemit
  rw [dataOp_emit (congrArg Prepared.plan hemit), congrArg Prepared.memory hemit] at h
  rcases emit_cases hidle h with hnot | ⟨hdone, entry, sourceTime, hpublished, hvalues, hrecord⟩
  · exact .inl hnot
  · exact .inr ⟨hdone, entry, sourceTime, hpublished, hvalues,
      change_of_parameter hspells hrecord⟩

/-- A branch of operation 15, given that a change of its value is not published from another
table. -/
lemma commands_of_commandParameter (hstores : kind.Stores tag wrap)
    (htag : (wrap (kind.value inputs)).kind = tag) (hidle : p.done = false)
    (hsound : p.memory.values.Sound)
    (hprepared : p.prepared arith inputs = commandParameter kind written arith inputs p.memory)
    (hchange : ∀ index, ((kind.table p.memory.values).get index).isOf inputs.valueId = true →
      p.memory.values.last tag inputs.valueId =
        some (wrap ((kind.table p.memory.values).get index).lastValue) →
      kind.ne arith (kind.value inputs) ((kind.table p.memory.values).get index).lastValue = true →
      p.prepared arith inputs = emitParameter written inputs index p.memory →
        p'.memory.values.Sound ∧ Commands inputs (wrap (kind.value inputs)) p p')
    (h : p.dataOp arith inputs = some p') :
    p'.memory.values.Sound ∧ Commands inputs (wrap (kind.value inputs)) p p' := by
  rcases hstores.commandParameter arith inputs hsound written with
    ⟨index, hof, hknown, hne, hemit⟩ | ⟨hsound', hplan⟩
  · exact hchange index hof hknown hne (hprepared.trans hemit)
  rw [← hprepared] at hsound' hplan
  rcases hplan with ⟨hrefuse, hlast⟩ | ⟨hfinish, hlast⟩
  · rw [dataOp_refuse hrefuse] at h
    cases h
    exact ⟨hsound', .refused hidle rfl hlast⟩
  · rw [dataOp_finish hfinish] at h
    cases h
    rw [← htag] at hlast
    exact ⟨hsound', .taken rfl rfl hlast⟩

/-- A change that is published from its own table. -/
lemma commands_emit (hstores : kind.Stores tag wrap) (hspells : kind.Spells wrap)
    (htag : (wrap (kind.value inputs)).kind = tag) (hidle : p.done = false)
    (hsound : p.memory.values.Sound)
    (hof : ((kind.table p.memory.values).get index).isOf inputs.valueId = true)
    (hknown : p.memory.values.last tag inputs.valueId =
      some (wrap ((kind.table p.memory.values).get index).lastValue))
    (hprepared : p.prepared arith inputs = emitParameter kind inputs index p.memory)
    (h : p.dataOp arith inputs = some p') :
    p'.memory.values.Sound ∧ Commands inputs (wrap (kind.value inputs)) p p' := by
  rcases emitParameter_spec hspells hidle hprepared h with
    ⟨hdone, hpublished, hvalues⟩ | ⟨hdone, entry, sourceTime, hpublished, hvalues, hentry⟩
  · rw [hvalues]
    exact ⟨hsound, .refused hdone hpublished (congrArg Values.last hvalues)⟩
  · obtain ⟨hsound', hlast⟩ := hstores.keep_parameter hsound hof
      ((kind.table p.memory.values).get index).lastValue sourceTime
    rw [hvalues]
    refine ⟨hsound', .changed hdone hpublished ?_ (htag ▸ hknown) hentry⟩
    rw [hvalues, htag]
    exact hlast

/-- A bit string that is commanded with the type tag of another kind. -/
lemma commands_misrouted (htag : inputs.valueTypeTag = TY_REAL ∨ inputs.valueTypeTag = TY_DINT)
    (hlength : inputs.valuePayloadLength ≠ 4) (hwidth : fixedWidth inputs.valuePayloadLength = true)
    (hwritten : ∀ previous, written.parameterLength inputs previous = 16)
    (hroutes : ¬Misroutes inputs p) (hidle : p.done = false) (hsound : p.memory.values.Sound)
    (hprepared : p.prepared arith inputs =
      commandParameter bitsKind written arith inputs p.memory)
    (h : p.dataOp arith inputs = some p') :
    p'.memory.values.Sound ∧ Commands inputs (.bits inputs.valueBits) p p' := by
  refine commands_of_commandParameter stores_bits rfl hidle hsound hprepared ?_ h
  intro index _ hknown hne hemit
  rcases emitParameter_cases written inputs index p.memory with
    ⟨hrefuse, hvalues⟩ | ⟨hactor, hreason, hfits, -⟩
  · rw [← hemit] at hrefuse hvalues
    exact commands_refuse hidle hsound hrefuse hvalues h
  · rw [hwritten] at hfits
    refine absurd ⟨htag, hlength, hwidth, ?_, ?_, hactor, hreason, hfits⟩ hroutes
    · rw [hknown]
      exact Option.some_ne_none _
    · rw [hknown]
      intro heq
      exact bne_iff_ne.mp hne (Value.bits.inj (Option.some.inj heq)).symm

/-- The decision of operation 15. -/
lemma prepared_parameter (hop : inputs.op = 15) :
    p.prepared arith inputs = prepareParameter arith inputs p.memory := by
  unfold prepared prepare
  simp only [hop]
  rfl

/-- **Operation 15**, unless it publishes the entry of another table. -/
lemma commands_of_dataOp {value : Value} (hop : inputs.op = 15)
    (hcommanded : inputs.commanded = some value) (hroutes : ¬Misroutes inputs p)
    (hidle : p.done = false) (hsound : p.memory.values.Sound)
    (h : p.dataOp arith inputs = some p') :
    p'.memory.values.Sound ∧ Commands inputs value p p' := by
  have hprepared : p.prepared arith inputs = prepareParameter arith inputs p.memory :=
    prepared_parameter hop
  unfold prepareParameter at hprepared
  by_cases hid : inputs.valueId = 0
  · rw [if_pos hid] at hprepared
    exact commands_refuse hidle hsound (congrArg Prepared.plan hprepared)
      (congrArg (fun prepared => prepared.memory.values) hprepared) h
  rw [if_neg hid] at hprepared
  unfold Inputs.commanded TY_REAL TY_DINT TY_STRING at hcommanded
  split_ifs at hcommanded hprepared with hreal hint hstring hwidth hreal' hint' <;>
    cases hcommanded
  · exact commands_of_commandParameter stores_real rfl hidle hsound hprepared
      (fun _ hof hknown _ hemit =>
        commands_emit stores_real spells_real rfl hidle hsound hof hknown hemit h) h
  · exact commands_of_commandParameter stores_int rfl hidle hsound hprepared
      (fun _ hof hknown _ hemit =>
        commands_emit stores_int spells_int rfl hidle hsound hof hknown hemit h) h
  · exact commands_of_commandParameter stores_string rfl hidle hsound hprepared
      (fun _ hof hknown _ hemit =>
        commands_emit stores_string spells_string rfl hidle hsound hof hknown hemit h) h
  · exact commands_misrouted (.inl hreal') (fun hlength => hreal ⟨hreal', hlength⟩) hwidth
      (fun _ => rfl) hroutes hidle hsound hprepared h
  · exact commands_misrouted (.inr hint') (fun hlength => hint ⟨hint', hlength⟩) hwidth
      (fun _ => rfl) hroutes hidle hsound hprepared h
  · exact commands_of_commandParameter stores_bits rfl hidle hsound hprepared
      (fun _ hof hknown _ hemit =>
        commands_emit stores_bits spells_bits rfl hidle hsound hof hknown hemit h) h

/-- A type tag and a payload length that belong to no kind are refused. -/
lemma refused_of_dataOp (hop : inputs.op = 15) (hnone : inputs.commanded = none)
    (h : p.dataOp arith inputs = some p') :
    p'.store.published = p.store.published ∧ p'.memory.values = p.memory.values := by
  have hprepared : p.prepared arith inputs = dropCommand 1 p.memory := by
    rw [prepared_parameter hop, prepareParameter]
    unfold Inputs.commanded TY_REAL TY_DINT TY_STRING at hnone
    split_ifs at hnone ⊢
    · rfl
    · rfl
  rw [dataOp_refuse (congrArg Prepared.plan hprepared)] at h
  cases h
  exact ⟨rfl, congrArg (fun prepared => prepared.memory.values) hprepared⟩

/-- A bit string that is changed under the type tag of a `REAL`: nothing is published, or the `REAL`
entry at the index of the bit string. -/
lemma misrouted_of_dataOp (hop : inputs.op = 15) (hlength : inputs.valuePayloadLength ≠ 4)
    (hwidth : fixedWidth inputs.valuePayloadLength = true) (htag : inputs.valueTypeTag = TY_REAL)
    (hidle : p.done = false) (hsound : p.memory.values.Sound)
    (h : p.dataOp arith inputs = some p') :
    p'.store.published = p.store.published ∨ ∃ index entry,
      (p.memory.values.bits.get index).isOf inputs.valueId = true ∧
      p'.store.published = p.store.published ++ [entry] ∧
      entry.change EVENT_PARAMETER_CHANGE = some ⟨inputs.valueId,
        some (inputs.payload (.real (p.memory.values.real.get index).lastValue)),
        inputs.payload (.real inputs.valueReal)⟩ := by
  have hprepared : p.prepared arith inputs = prepareParameter arith inputs p.memory :=
    prepared_parameter hop
  have hlong : ∀ ty, ¬(inputs.valueTypeTag = ty ∧ inputs.valuePayloadLength = 4) :=
    fun _ hshort => hlength hshort.2
  have hstring : inputs.valueTypeTag ≠ 0x0C := by
    rw [htag]
    decide
  rw [prepareParameter, if_neg (hlong _), if_neg (hlong _), if_neg hstring, if_pos hwidth,
    if_pos (show inputs.valueTypeTag = 0x09 from htag)] at hprepared
  split_ifs at hprepared with hid
  · rw [dataOp_refuse (congrArg Prepared.plan hprepared)] at h
    cases h
    exact .inl rfl
  rcases stores_bits.commandParameter arith inputs hsound realKind with
    ⟨index, hof, -, -, hemit⟩ | ⟨-, hplan⟩
  · rcases emitParameter_spec spells_real hidle (hprepared.trans hemit) h with
      ⟨-, hpublished, -⟩ | ⟨-, entry, -, hpublished, -, hentry⟩
    · exact .inl hpublished
    · exact .inr ⟨index, entry, hof, hpublished, hentry⟩
  · rw [← hprepared] at hplan
    rcases hplan with ⟨hrefuse, -⟩ | ⟨hfinish, -⟩
    · rw [dataOp_refuse hrefuse] at h
      cases h
      exact .inl rfl
    · rw [dataOp_finish hfinish] at h
      cases h
      exact .inl rfl

/-- Whether a call is an edge of `Execute` for operation 15. -/
def Audited (inputs : Inputs) (p : Producer) : Prop :=
  p.edge inputs = true ∧ inputs.checkpoint = false ∧ inputs.op = 15

/-- Such a call runs its operation. -/
lemma dataOp_of_call (haudited : p.Audited inputs) (h : p.call arith inputs = some p') :
    ∃ q, p' = leave inputs (p.edge inputs) q ∧ (p.enter inputs).dataOp arith inputs = some q := by
  obtain ⟨hedge, hcheckpoint, hop⟩ := haudited
  obtain ⟨q, rfl, hoperated⟩ := operated_of_call hedge h
  rcases memory_of_operated hoperated with ⟨-, hnot | hnot⟩ | ⟨-, -, hdata⟩
  · rw [hcheckpoint] at hnot
    cases hnot
  · rw [hop] at hnot
    cases hnot
  · exact ⟨q, rfl, hdata⟩

/-- A call that commands a value. -/
lemma commands_of_call {value : Value} (haudited : p.Audited inputs)
    (hcommanded : inputs.commanded = some value) (hroutes : ¬Misroutes inputs p)
    (hsound : p.memory.values.Sound) (h : p.call arith inputs = some p') :
    p'.memory.values.Sound ∧ Commands inputs value p p' := by
  obtain ⟨q, rfl, hdata⟩ := dataOp_of_call haudited h
  have hentered : ¬Misroutes inputs (p.enter inputs) := fun h => hroutes
    ⟨h.tag, h.length, h.width, h.known, h.changes, h.actor, h.reason, h.fits⟩
  have hsound' : (p.enter inputs).memory.values.Sound := hsound
  obtain ⟨hsound'', hvalue⟩ :=
    commands_of_dataOp haudited.2.2 hcommanded hentered rfl hsound' hdata
  refine ⟨hsound'', ?_⟩
  cases hvalue with
  | refused hdone hpublished hlast =>
    exact .refused hdone (hpublished.trans published_enter) hlast
  | taken hdone hpublished hlast =>
    exact .taken hdone (hpublished.trans published_enter) hlast
  | changed hdone hpublished hlast hprevious hentry =>
    rw [published_enter] at hpublished
    exact .changed hdone hpublished hlast hprevious hentry

/-- **A misrouted change** under the type tag of a `REAL` publishes, if anything, the `REAL` entry
that has the index of the bit string. -/
lemma misrouted_of_call (haudited : p.Audited inputs) (hmisroutes : Misroutes inputs p)
    (htag : inputs.valueTypeTag = TY_REAL) (hsound : p.memory.values.Sound)
    (h : p.call arith inputs = some p') :
    p'.store.published = p.store.published ∨ ∃ index entry,
      (p.memory.values.bits.get index).isOf inputs.valueId = true ∧
      p'.store.published = p.store.published ++ [entry] ∧
      entry.change EVENT_PARAMETER_CHANGE = some ⟨inputs.valueId,
        some (inputs.payload (.real (p.memory.values.real.get index).lastValue)),
        inputs.payload (.real inputs.valueReal)⟩ := by
  obtain ⟨q, rfl, hdata⟩ := dataOp_of_call haudited h
  rw [← (published_enter : (p.enter inputs).store.published = p.store.published)]
  have hsound' : (p.enter inputs).memory.values.Sound := hsound
  exact (misrouted_of_dataOp haudited.2.2 hmisroutes.length hmisroutes.width htag rfl hsound'
    hdata :)

/-- A call that commands a value of no kind. -/
lemma refused_of_call (haudited : p.Audited inputs) (hnone : inputs.commanded = none)
    (h : p.call arith inputs = some p') :
    p'.store.published = p.store.published ∧ p'.memory.values = p.memory.values := by
  obtain ⟨q, rfl, hdata⟩ := dataOp_of_call haudited h
  obtain ⟨hpublished, hvalues⟩ := refused_of_dataOp haudited.2.2 hnone hdata
  exact ⟨hpublished.trans published_enter, hvalues⟩

end Producer

/-! ## What has been stored -/

/-- The value that a call observes or commands, if it does. -/
def Producer.given (inputs : Inputs) (p : Producer) : Option Value :=
  if p.edge inputs = true ∧ inputs.checkpoint = false then
    if inputs.op = 15 then inputs.commanded else inputs.observed
  else none

/-- What has been stored after a call, as its inputs and outputs tell it: a value whose record has
been published, and a first one that has been commanded. -/
def storedAfter (inputs : Inputs) (p p' : Producer) (last : LastValues) : LastValues :=
  (p.given inputs).elim last fun value =>
    if p.store.published.length < p'.store.published.length ∨
        inputs.op = 15 ∧ p'.done = true ∧ last value.kind inputs.valueId = none then
      last.put value.kind inputs.valueId value
    else last

/-- The calls, with what they have stored. -/
def auditStep (arith : RealArith) (s : Producer × LastValues) (inputs : Inputs) :
    Option (Producer × LastValues) :=
  (s.1.call arith inputs).map fun p' => (p', storedAfter inputs s.1 p' s.2)

/-- A call that does not publish the entry of another table. -/
def RoutedCall (s : Producer × LastValues) (inputs : Inputs) : Prop :=
  s.1.Audited inputs → ¬Producer.Misroutes inputs s.1

instance (inputs : Inputs) (p : Producer) : Decidable (p.Audited inputs) :=
  inferInstanceAs (Decidable (_ ∧ _ ∧ _))

instance (s : Producer × LastValues) : DecidablePred (RoutedCall s) := fun inputs =>
  inferInstanceAs (Decidable (s.1.Audited inputs → ¬Producer.Misroutes inputs s.1))

section

variable {arith : RealArith} {inputs : Inputs} {p p' : Producer}

lemma given_audited (h : p.Audited inputs) : p.given inputs = inputs.commanded := by
  rw [Producer.given, if_pos ⟨h.1, h.2.1⟩, if_pos h.2.2]

/-- What a call has stored is what the tables store. -/
lemma stored_of_call (hsound : p.memory.values.Sound)
    (hroutes : p.Audited inputs → ¬Producer.Misroutes inputs p)
    (h : p.call arith inputs = some p') : p'.memory.values.Sound ∧
      p'.memory.values.last = storedAfter inputs p p' p.memory.values.last := by
  by_cases haudited : p.Audited inputs
  · rw [storedAfter, given_audited haudited]
    cases hcommanded : inputs.commanded with
    | none =>
      obtain ⟨-, hvalues⟩ := Producer.refused_of_call haudited hcommanded h
      rw [hvalues]
      exact ⟨hsound, rfl⟩
    | some value =>
      obtain ⟨hsound', hvalue⟩ :=
        Producer.commands_of_call haudited hcommanded (hroutes haudited) hsound h
      refine ⟨hsound', ?_⟩
      rw [Option.elim_some]
      cases hvalue with
      | refused hdone hpublished hlast =>
        rw [hlast, hpublished, hdone, if_neg (by simp)]
      | taken hdone hpublished hlast =>
        rw [hlast, hpublished]
        exact if_congr (by simp [haudited.2.2, hdone]) rfl rfl
      | changed _ hpublished hlast =>
        rw [hlast, hpublished, if_pos (.inl (by simp))]
  by_cases hobserves : p.edge inputs = true ∧ inputs.checkpoint = false ∧ inputs.observed ≠ none
  · obtain ⟨hedge, hcheckpoint, hobserved⟩ := hobserves
    obtain ⟨value, hobserved⟩ := Option.ne_none_iff_exists'.mp hobserved
    have h15 : inputs.op ≠ 15 := fun hop => haudited ⟨hedge, hcheckpoint, hop⟩
    obtain ⟨hsound', hvalue⟩ := Producer.observes_of_call hedge hcheckpoint hobserved hsound h
    refine ⟨hsound', ?_⟩
    rw [storedAfter, Producer.given, if_pos ⟨hedge, hcheckpoint⟩, if_neg h15, hobserved,
      Option.elim_some]
    cases hvalue with
    | refused _ hpublished hlast => rw [hlast, hpublished, if_neg (by simp [h15])]
    | same _ hpublished hlast => rw [hlast, hpublished, if_neg (by simp [h15])]
    | logged _ hpublished hlast => rw [hlast, hpublished, if_pos (.inl (by simp))]
  · have hnone : p.given inputs = none := by
      unfold Producer.given
      split_ifs with hedge h15
      · exact absurd ⟨hedge.1, hedge.2, h15⟩ haudited
      · by_contra hsome
        exact hobserves ⟨hedge.1, hedge.2, hsome⟩
      · rfl
    have hsame : p.memory.values.Same p'.memory.values := by
      refine Producer.same_of_call h fun hedge => ?_
      rcases Bool.eq_false_or_eq_true inputs.checkpoint with hcheckpoint | hcheckpoint
      · exact .inl hcheckpoint
      · refine .inr ⟨?_, fun h15 => haudited ⟨hedge, hcheckpoint, h15⟩⟩
        by_contra hsome
        exact hobserves ⟨hedge, hcheckpoint, hsome⟩
    rw [storedAfter, hnone]
    exact ⟨hsame.sound hsound, hsame.last⟩

/-- **What has been stored is what the tables store**, in every state reached. -/
lemma stored_of_run {s : Producer × LastValues}
    (hrun : Runs (auditStep arith) RoutedCall (.init, .new) s) :
    s.1.memory.values.Sound ∧ s.1.memory.values.last = s.2 := by
  refine hrun.invariant (P := fun s => s.1.memory.values.Sound ∧ s.1.memory.values.last = s.2)
    sound_new fun s inputs s' hstored hroutes hstep => ?_
  obtain ⟨hsound, hlast⟩ := hstored
  obtain ⟨p', hcall, rfl⟩ := Option.map_eq_some_iff.mp hstep
  obtain ⟨hsound', hlast'⟩ := stored_of_call hsound hroutes hcall
  exact ⟨hsound', hlast ▸ hlast'⟩

end

/-! ## The chain -/

/-- The bytes in a record of a call are those of a value, and read back as it unless it is a bit
string that is too long for the payload length. -/
structure Inputs.Carries (inputs : Inputs) (value : Value) (bytes : Bytes) : Prop where
  bytes_eq : bytes = inputs.payload value
  read : (∀ bits, value = .bits bits →
    bits.toNat < 2 ^ (8 * inputs.valuePayloadLength.toNat)) → value.kind.read bytes = value

lemma carries_payload (inputs : Inputs) (value : Value) :
    inputs.Carries value (inputs.payload value) where
  bytes_eq := rfl
  read hfits := by
    rw [Inputs.payload, Kind.read_payload, Value.cut_eq]
    exact fun bits hbits => lt_pow_writtenBytes (hfits bits hbits)

/-- A call of operation 15 continues the audit chain: the records that it publishes carry the value
commanded and the last one stored of its `ValueId` and kind, and nothing stored of another `ValueId`
changes. -/
structure Audits (inputs : Inputs) (last : LastValues) (p p' : Producer) : Prop where
  records : ∃ new, p'.store.published = p.store.published ++ new ∧ ∀ entry ∈ new,
    ∃ value previous change bytes, inputs.commanded = some value ∧
      last value.kind inputs.valueId = some previous ∧
      entry.change EVENT_PARAMETER_CHANGE = some change ∧ change.key = inputs.valueId ∧
      inputs.Carries value change.value ∧ change.previous = some bytes ∧
      inputs.Carries previous bytes
  others : ∀ kind valueId, valueId ≠ inputs.valueId →
    p'.memory.values.last kind valueId = p.memory.values.last kind valueId

/-- The audit inputs of the calls below. -/
def operatorAudit : AuditInputs :=
  { actor := ⟨[0x41], by decide⟩, reason := ⟨[0x42], by decide⟩, hasAuthResult := false,
    authResult := 0 }

/-- The call that seeds an integer. -/
def seedingCalls : List Inputs :=
  pulse { op := 15, valueId := 1, valueTypeTag := TY_DINT, valuePayloadLength := 4, valueInt := 5 }

/-- The call that changes it. -/
def integerChange : Inputs :=
  { op := 15, valueId := 1, valueTypeTag := TY_DINT, valuePayloadLength := 4, valueInt := 6,
    audit := operatorAudit, execute := true }

/-- The calls that observe a `REAL` and seed a bit string of eight bytes under the type tag of a
`REAL`; both have the first entry of their table. -/
def misroutingCalls : List Inputs :=
  pulse { op := 6, valueId := 1, valueReal := 0x3F800000 } ++
    pulse { op := 15, valueId := 2, valueTypeTag := TY_REAL, valuePayloadLength := 8,
            valueBits := 5 }

/-- The call that changes the bit string. -/
def misroutedChange : Inputs :=
  { op := 15, valueId := 2, valueTypeTag := TY_REAL, valuePayloadLength := 8, valueBits := 6,
    valueReal := 0x40000000, audit := operatorAudit, execute := true }

end OpenOT.St
