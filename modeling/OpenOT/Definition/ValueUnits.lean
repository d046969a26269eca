import OpenOT.Definition.ResolvedKeys
import OpenOT.Definition.ResolverRuns

set_option relaxedAutoImplicit false
set_option autoImplicit false

/-!
# Types and units of values

The validator checks a previous or a new value against the type of the value that the record
names, and the resolver attaches the unit of the value that the record names. Both search the record
for the name on their own: the validator takes the first slot, the resolver the last one.

## Main definitions

* `OpenOT.checkedValue` — the value against whose type the validator checks.
* `OpenOT.lastValueId` — the name that the resolver finds.

## Main results

* `OpenOT.value_unit_matches_type` — when the unit is that of the value checked.
-/

namespace OpenOT

open Rust

variable {hashing : Hashing} {record : Record} {recordAbs : ℕ} {snapshot : ControlBlockSnapshot}
  {definitions : DefinitionSet} {definition : DefinitionFile} {event : EventTypeDefinition}
  {context : FieldContext} {slot : Slot}

/-- The key of a value that is logged. -/
def isLoggedValue (key : UInt16) : Prop := key = KEY_PREVIOUS_VALUE ∨ key = KEY_NEW_VALUE

/-- The value against whose type the validator checks the values of a record. -/
def checkedValue (definition : DefinitionFile) (record : Record) : Option ValueDefinition :=
  (Schema.recordValueId record).bind fun valueId =>
    definition.values.find? fun value => decide (value.valueId = valueId)

/-- The last slot of a list that names a value. -/
def lastValueId (slots : List Slot) : Option UInt32 :=
  (slots.reverse.find? fun slot =>
    decide (slot.key = KEY_VALUE_ID ∧ slot.payload.length = 4)).map fun slot =>
      UInt32.ofNat (fromLe slot.payload)

/-- The value that the resolver takes the unit from. -/
def namedValue (definition : DefinitionFile) (record : Record) : Option ValueDefinition :=
  (lastValueId record.slots).bind fun valueId =>
    definition.values.find? fun value => decide (value.valueId = valueId)

/-- The symbol of the unit of a value, if there is one. -/
def valueUnit (definition : DefinitionFile) (value : Option ValueDefinition) : Option String :=
  value.bind fun value => value.unit.bind (unitSymbol definition)

/-! ## Searching the record -/

/-- One more slot in front. -/
lemma lastValueId_cons (slot : Slot) (slots : List Slot) :
    lastValueId (slot :: slots) = (lastValueId slots).or
      (if slot.key = KEY_VALUE_ID ∧ slot.payload.length = 4 then
        some (UInt32.ofNat (fromLe slot.payload)) else none) := by
  unfold lastValueId
  rw [List.reverse_cons, List.find?_append, Option.map_or]
  congr 1
  by_cases hname : slot.key = KEY_VALUE_ID ∧ slot.payload.length = 4
  · rw [if_pos hname, List.find?_singleton, if_pos (decide_eq_true hname), Option.map_some]
  · rw [if_neg hname, List.find?_singleton, if_neg (by simpa using hname), Option.map_none]

/-- What a slot adds to the value named. -/
lemma valueId_observe {ε : Type} {next : FieldContext}
    (h : (context.observe slot : Outcome ε FieldContext) = .ok next) :
    next.valueId = (if slot.key = KEY_VALUE_ID ∧ slot.payload.length = 4 then
      some (UInt32.ofNat (fromLe slot.payload)) else none).or context.valueId := by
  unfold FieldContext.observe at h
  split_ifs at h with hmachine hcategory hvalue hcondition htemplate
  · obtain ⟨id, -, h⟩ := Outcome.bind_eq_ok.mp h
    cases h
    rw [if_neg fun hname => absurd (hmachine.1.symm.trans hname.1) (by decide)]
    rfl
  · obtain ⟨id, -, h⟩ := Outcome.bind_eq_ok.mp h
    cases h
    rw [if_neg fun hname => absurd (hcategory.1.symm.trans hname.1) (by decide)]
    rfl
  · rw [Resolver.readU32, if_pos hvalue.2] at h
    cases h
    rw [if_pos hvalue]
    rfl
  · obtain ⟨id, -, h⟩ := Outcome.bind_eq_ok.mp h
    cases h
    rw [if_neg fun hname => absurd (hcondition.1.symm.trans hname.1) (by decide)]
    rfl
  · obtain ⟨id, -, h⟩ := Outcome.bind_eq_ok.mp h
    cases h
    rw [if_neg fun hname => absurd (htemplate.1.symm.trans hname.1) (by decide)]
    rfl
  · cases h
    rw [if_neg hvalue]
    rfl

/-- **The resolver finds the last name.** -/
lemma valueId_fromRecord {ε : Type}
    (h : (FieldContext.fromRecord record : Outcome ε FieldContext) = .ok context) :
    context.valueId = lastValueId record.slots := by
  have hfold : ∀ (slots : List Slot) (before : FieldContext),
      (slots.foldlM FieldContext.observe before : Outcome ε FieldContext) = .ok context →
      context.valueId = (lastValueId slots).or before.valueId := by
    intro slots
    induction slots with
    | nil =>
      intro before hfold
      cases hfold
      rfl
    | cons slot slots ih =>
      intro before hfold
      rw [List.foldlM_cons] at hfold
      obtain ⟨next, hnext, hfold⟩ := Outcome.bind_eq_ok.mp hfold
      rw [ih next hfold, valueId_observe hnext, lastValueId_cons, Option.or_assoc]
  rw [hfold record.slots _ h, Option.or_none]

/-! ## Fields -/

/-- The unit of a logged value is that of the value named. -/
lemma unitLabel_of_loggedValue {key : UInt16} (hkey : isLoggedValue key) (value : ResolvedValue)
    (hcontext : context.valueId = lastValueId record.slots) :
    unitLabel definition key value context = valueUnit definition (namedValue definition record) := by
  have hunit : key ≠ KEY_UNIT := by
    rcases hkey with rfl | rfl <;> decide
  unfold unitLabel
  rw [if_neg hunit, if_neg (show ¬¬(key = KEY_PREVIOUS_VALUE ∨ key = KEY_NEW_VALUE) from
    not_not.mpr hkey), hcontext, valueUnit, namedValue, Option.bind_assoc]
  rfl

/-- One slot adds fields with the unit of the value named, if it is a logged value. -/
lemma unit_resolveSlot {resolved resolved' : ResolvedSlots}
    (hcontext : context.valueId = lastValueId record.slots)
    (h : resolveSlot event definition context resolved slot = .ok resolved') :
    ∀ field ∈ resolved'.fields, field ∈ resolved.fields ∨
      (isLoggedValue field.key → field.unit = valueUnit definition (namedValue definition record)) := by
  unfold resolveSlot at h
  split_ifs at h with hvendor
  · obtain ⟨field, -, h⟩ := Outcome.bind_eq_ok.mp h
    cases h
    exact fun field hfield => .inl hfield
  · split at h
    · cases h
      exact fun field hfield => .inl hfield
    · split at h
      · cases h
        exact fun field hfield => .inl hfield
      · split_ifs at h
        · cases h
          exact fun field hfield => .inl hfield
        · split at h
          · cases h
          · obtain ⟨value, -, h⟩ := Outcome.bind_eq_ok.mp h
            cases h
            intro field hfield
            rcases List.mem_append.mp hfield with hfield | hfield
            · exact .inl hfield
            · rw [List.mem_singleton.mp hfield]
              exact .inr fun hkey => unitLabel_of_loggedValue hkey _ hcontext

/-- **The units of the resolver**: every logged value has the unit of the value named last. -/
lemma unit_resolveSlots {resolved : ResolvedSlots}
    (h : resolveSlots record event definition = .ok resolved) :
    ∀ field ∈ resolved.fields, isLoggedValue field.key →
      field.unit = valueUnit definition (namedValue definition record) := by
  obtain ⟨context, hcontext, h⟩ := Outcome.bind_eq_ok.mp h
  have hvalueId := valueId_fromRecord hcontext
  have hfold : ∀ (slots : List Slot) (before : ResolvedSlots),
      (∀ field ∈ before.fields, isLoggedValue field.key →
        field.unit = valueUnit definition (namedValue definition record)) →
      slots.foldlM (resolveSlot event definition context) before = .ok resolved →
      ∀ field ∈ resolved.fields, isLoggedValue field.key →
        field.unit = valueUnit definition (namedValue definition record) := by
    intro slots
    induction slots with
    | nil =>
      intro before hbefore hfold
      cases hfold
      exact hbefore
    | cons slot slots ih =>
      intro before hbefore hfold
      rw [List.foldlM_cons] at hfold
      obtain ⟨next, hnext, hfold⟩ := Outcome.bind_eq_ok.mp hfold
      refine ih next (fun field hfield => ?_) hfold
      rcases unit_resolveSlot hvalueId hnext field hfield with hold | hnew
      · exact hbefore field hold
      · exact hnew
  exact hfold record.slots ⟨[], []⟩ (List.forall_mem_nil _) h

/-! ## Records -/

/-- An accepted record has passed the checks of its slots. -/
lemma validateRecordSlots_of_validateRecord {recordLen : ℕ} {extensionKeys : List UInt16}
    (h : Schema.validateRecord record recordLen definition = .valid extensionKeys) :
    ∃ event, Schema.validateRecordSlots record event definition = .ok extensionKeys := by
  unfold Schema.validateRecord at h
  split at h
  · cases h
  split_ifs at h
  · cases h
  · cases h
  split at h
  · cases h
  rename_i event _
  split at h
  · rename_i hslots
    cases h
    exact ⟨event, hslots⟩
  · cases h

/-- A logged value of an accepted record has the type of the value checked. -/
lemma type_of_validateRecord {recordLen : ℕ} {extensionKeys : List UInt16}
    (h : Schema.validateRecord record recordLen definition = .valid extensionKeys) :
    ∀ slot ∈ record.slots, isLoggedValue slot.key →
      ∀ value, checkedValue definition record = some value → slot.ty = value.dataType := by
  intro slot hslot hkey value hvalue
  obtain ⟨event, hslots⟩ := validateRecordSlots_of_validateRecord h
  obtain ⟨known, extension, heq, hknown, hext, -⟩ := Schema.validateRecordSlots_ok hslots
  rw [heq, List.mem_append] at hslot
  rcases hslot with hslot | hslot
  · obtain ⟨schema, -, -, htype, -⟩ := hknown slot hslot
    obtain ⟨valueId, hvalueId, hfind⟩ := Option.bind_eq_some_iff.mp hvalue
    unfold Schema.validateValuePayloadType at htype
    rw [if_neg (show ¬¬(slot.key = KEY_PREVIOUS_VALUE ∨ slot.key = KEY_NEW_VALUE) from
      not_not.mpr hkey), hvalueId] at htype
    dsimp only at htype
    rw [hfind] at htype
    dsimp only at htype
    by_contra hne
    rw [if_pos hne] at htype
    cases htype
  · have hvendor := (hext.undeclared slot hslot).2
    rcases hkey with hkey | hkey
    · rw [hkey] at hvendor
      exact absurd hvendor (by decide)
    · rw [hkey] at hvendor
      exact absurd hvendor (by decide)

/-- A resolved record has a field for a logged value exactly if it has a slot for one. -/
lemma exists_loggedValue_iff {resolved : ResolvedRecord}
    (h : resolveRecord hashing record recordAbs snapshot definitions = .ok (.resolved resolved)) :
    (∃ field ∈ resolved.fields, isLoggedValue field.key) ↔
      ∃ slot ∈ record.slots, isLoggedValue slot.key := by
  have hcore : ∀ slot : Slot, isLoggedValue slot.key → isCoreKey slot.key = true := by
    intro slot hkey
    rcases hkey with hkey | hkey <;> rw [hkey] <;> decide
  have hfields : (∃ field ∈ resolved.fields, isLoggedValue field.key) ↔
      ∃ key ∈ resolved.fields.map ResolvedField.key, isLoggedValue key := by
    simp only [List.mem_map, exists_exists_and_eq_and]
  rw [hfields, (resolveRecord_keys h).1]
  constructor
  · rintro ⟨key, hmem, hkey⟩
    obtain ⟨slot, hslot, rfl⟩ := List.mem_map.mp hmem
    exact ⟨slot, (List.mem_filter.mp hslot).1, hkey⟩
  · rintro ⟨slot, hslot, hkey⟩
    exact ⟨slot.key, List.mem_map_of_mem (List.mem_filter.mpr ⟨hslot, hcore slot hkey⟩), hkey⟩

/-- **When the unit is that of the value checked.** The definition that a resolved record was
resolved against has accepted it, so its logged values have the type of the value that its first
slot for a value names. Their units are those of that value exactly if the record has no logged
value, or its last slot for a value names a value with the same unit. -/
theorem value_unit_matches_type {resolved : ResolvedRecord}
    (h : resolveRecord hashing record recordAbs snapshot definitions = .ok (.resolved resolved)) :
    ∃ definition,
      selectedDefinition (resolvedEpoch recordAbs snapshot) definitions = some definition ∧
      (∀ slot ∈ record.slots, isLoggedValue slot.key →
        ∀ value, checkedValue definition record = some value → slot.ty = value.dataType) ∧
      ((∀ field ∈ resolved.fields, isLoggedValue field.key →
          field.unit = valueUnit definition (checkedValue definition record)) ↔
        ((∃ slot ∈ record.slots, isLoggedValue slot.key) →
          valueUnit definition (namedValue definition record) =
            valueUnit definition (checkedValue definition record))) := by
  obtain ⟨definition, event, extensionKeys, recordLen, hselected, -, hvalid, -, hslots⟩ :=
    resolveRecord_ok h
  have hunits := unit_resolveSlots hslots
  refine ⟨definition, hselected, type_of_validateRecord hvalid, fun hmatches hslot => ?_,
    fun hsame field hfield hkey => ?_⟩
  · obtain ⟨field, hfield, hkey⟩ := (exists_loggedValue_iff h).mpr hslot
    exact (hunits field hfield hkey).symm.trans (hmatches field hfield hkey)
  · rw [hunits field hfield hkey]
    exact hsame ((exists_loggedValue_iff h).mp ⟨field, hfield, hkey⟩)

/-! ### Two slots for a value -/

/-- A definition whose event may name two values, with two values of one type and different
units. -/
def twoValuesDefinition : DefinitionFile where
  header := {
    wireVersion := 2
    semanticVersion := "1.0.0"
    profiles := ["Core"]
    conformanceLevel := "Core"
    caps := ⟨true, true⟩
    constraints := ⟨256, 16, .overwriteOldest⟩
    epochStrategy := .retain
    contentHash := "" }
  eventTypes := [⟨EVENT_VALUE_CHANGED, "ValueChanged", "Core",
    [.slot KEY_VALUE_ID TY_UDINT 1 (.count 2) 1, .valueSlot KEY_NEW_VALUE 1 (.count 1) 2]⟩]
  sources := []
  stateMachines := []
  conditions := []
  messageTemplates := []
  values := [⟨1, "Level", TY_UINT, 0, some 1, none, none⟩,
    ⟨2, "Flow", TY_UINT, 0, some 2, none, none⟩]
  units := [⟨1, "mm"⟩, ⟨2, "l/h"⟩]
  enumSets := []
  recipeDefinitions := []
  batchDefinitions := []
  materialDefinitions := []
  operatorDefinitions := []
  eSignatureMeanings := []
  severityScale := ⟨"default", ⟨1, 332⟩, ⟨333, 666⟩, ⟨667, 1000⟩⟩

/-- Its canonical JSON. -/
def twoValuesDefinitionJson : Bytes :=
  ("\x7b\"batchDefinitions\":[],\"conditions\":[],\"eSignatureMeanings\":[]," ++
    "\"enumSets\":[],\"eventTypes\":[\x7b\"id\":2,\"name\":\"ValueChanged\"," ++
    "\"profile\":\"Core\",\"slots\":[\x7b\"key\":13,\"maxOccurs\":2,\"minOccurs\":1," ++
    "\"orderClass\":1,\"type\":5\x7d,\x7b\"key\":16,\"maxOccurs\":1,\"minOccurs\":1," ++
    "\"orderClass\":2,\"valuePayload\":true\x7d]\x7d]," ++
    "\"header\":\x7b\"caps\":\x7b\"crc\":true,\"sourceHighWater\":true\x7d," ++
    "\"conformanceLevel\":\"Core\",\"constraints\":\x7b\"maxRecordSize\":256," ++
    "\"maxSlots\":16,\"overflowPolicy\":\"overwrite-oldest\"\x7d,\"contentHash\":\"\"," ++
    "\"epochStrategy\":\"retain\",\"profiles\":[\"Core\"],\"semanticVersion\":\"1.0.0\"," ++
    "\"wireVersion\":2\x7d,\"materialDefinitions\":[],\"messageTemplates\":[]," ++
    "\"operatorDefinitions\":[],\"recipeDefinitions\":[]," ++
    "\"severityScale\":\x7b\"high\":\x7b\"max\":1000,\"min\":667\x7d," ++
    "\"low\":\x7b\"max\":332,\"min\":1\x7d,\"medium\":\x7b\"max\":666,\"min\":333\x7d," ++
    "\"name\":\"default\"\x7d,\"sources\":[],\"stateMachines\":[]," ++
    "\"units\":[\x7b\"symbol\":\"mm\",\"unitId\":1\x7d,\x7b\"symbol\":\"l/h\"," ++
    "\"unitId\":2\x7d],\"values\":[\x7b\"dataType\":3,\"deadband\":null," ++
    "\"name\":\"Level\",\"samplingPolicy\":null,\"semanticRole\":0,\"unit\":1," ++
    "\"valueId\":1\x7d,\x7b\"dataType\":3,\"deadband\":null,\"name\":\"Flow\"," ++
    "\"samplingPolicy\":null,\"semanticRole\":0,\"unit\":2,\"valueId\":2\x7d]\x7d").toUTF8.data.toList

/-- The SHA-256 digest of that. -/
def twoValuesDefinitionDigest : Vector UInt8 32 :=
  #v[0xf4, 0x14, 0xd5, 0xc1, 0x74, 0xb8, 0x82, 0x83, 0x96, 0x0e, 0xea, 0x77, 0x2e, 0x5b, 0xe2,
    0xf6, 0xfd, 0x56, 0x4f, 0xc0, 0x2e, 0x99, 0xec, 0xda, 0x9a, 0x4c, 0xa8, 0xd1, 0xdf, 0x80,
    0x3f, 0x96]

/-- Canonical JSON and SHA-256, as far as this definition goes. -/
def twoValuesHashing : Hashing where
  toVec definition :=
    if definition = twoValuesDefinition then .ok twoValuesDefinitionJson
    else .error "not tabulated"
  digest bytes :=
    if bytes = twoValuesDefinitionJson then twoValuesDefinitionDigest else .replicate 32 0

/-- A control block with the hash of the definition. -/
def twoValuesSnapshot : ControlBlockSnapshot where
  version := 2
  caps := 0
  bufferId := 0
  bufferBytes := 256
  headAbs := 72
  oldestAbs := 0
  lostCount := 0
  runId := 1
  epochId := 1
  epochFirstAbs := 0
  definitionHash := [0xf4, 0x14, 0xd5, 0xc1, 0x74, 0xb8, 0x82, 0x83]
  prevDefinitionHash := List.replicate 8 0

/-- A changed value, with slots for the values that it names. -/
def valueRecord (valueIds : List UInt8) : Record :=
  { Record.new 1000 1 0 5 EVENT_VALUE_CHANGED with
    slots := valueIds.map (fun valueId => ⟨KEY_VALUE_ID, TY_UDINT, [valueId, 0, 0, 0]⟩) ++
      [⟨KEY_NEW_VALUE, TY_UINT, [5, 0]⟩] }

/-- The units of the logged values of a resolved record. -/
def ResolvedRecord.loggedUnits (resolved : ResolvedRecord) : List (Option String) :=
  (resolved.fields.filter fun field => decide (field.key = KEY_NEW_VALUE)).map ResolvedField.unit

/-- A record that names the first value only has its type and its unit. -/
theorem value_unit_matches_type_level :
    ∃ resolved, resolveRecord twoValuesHashing (valueRecord [1]) 0 twoValuesSnapshot
        ⟨some twoValuesDefinition, none⟩ = .ok (.resolved resolved) ∧
      resolved.loggedUnits = [some "mm"] ∧
      ∀ field ∈ resolved.fields, isLoggedValue field.key →
        field.unit = valueUnit twoValuesDefinition
          (checkedValue twoValuesDefinition (valueRecord [1])) := by
  have hunits : (resolvedOf (resolveRecord twoValuesHashing (valueRecord [1]) 0 twoValuesSnapshot
      ⟨some twoValuesDefinition, none⟩)).map ResolvedRecord.loggedUnits = some [some "mm"] := by
    decide +kernel
  obtain ⟨resolved, hresolved, hunits⟩ := Option.map_eq_some_iff.mp hunits
  rw [resolvedOf_eq_some] at hresolved
  obtain ⟨definition, hselected, -, hiff⟩ := value_unit_matches_type hresolved
  cases hselected
  exact ⟨resolved, hresolved, hunits, hiff.mpr fun _ => by decide +kernel⟩

/-- A record that names both: its value is checked against the first and has the unit of the
second. -/
theorem value_unit_of_other_value :
    ∃ resolved, resolveRecord twoValuesHashing (valueRecord [1, 2]) 0 twoValuesSnapshot
        ⟨some twoValuesDefinition, none⟩ = .ok (.resolved resolved) ∧
      resolved.loggedUnits = [some "l/h"] ∧
      valueUnit twoValuesDefinition (checkedValue twoValuesDefinition (valueRecord [1, 2])) =
        some "mm" ∧
      ¬∀ field ∈ resolved.fields, isLoggedValue field.key →
        field.unit = valueUnit twoValuesDefinition
          (checkedValue twoValuesDefinition (valueRecord [1, 2])) := by
  have hunits : (resolvedOf (resolveRecord twoValuesHashing (valueRecord [1, 2]) 0
      twoValuesSnapshot ⟨some twoValuesDefinition, none⟩)).map ResolvedRecord.loggedUnits =
        some [some "l/h"] := by
    decide +kernel
  have hchecked : valueUnit twoValuesDefinition
      (checkedValue twoValuesDefinition (valueRecord [1, 2])) = some "mm" := by
    decide +kernel
  obtain ⟨resolved, hresolved, hunits⟩ := Option.map_eq_some_iff.mp hunits
  rw [resolvedOf_eq_some] at hresolved
  refine ⟨resolved, hresolved, hunits, hchecked, fun hall => ?_⟩
  have hmem : some "l/h" ∈ resolved.loggedUnits := by
    rw [hunits]
    exact List.mem_singleton_self _
  obtain ⟨field, hfield, hunit⟩ := List.mem_map.mp hmem
  obtain ⟨hfield, hkey⟩ := List.mem_filter.mp hfield
  have hsame := hall field hfield (.inr (of_decide_eq_true hkey))
  rw [hunit, hchecked] at hsame
  exact absurd hsame (by decide)

end OpenOT
