import OpenOT.Definition.Grammar
import OpenOT.Definition.ResolverTotal

set_option relaxedAutoImplicit false
set_option autoImplicit false

/-!
# The fields of a resolved record

A record that is resolved has been accepted by the definition selected, and its slots have become
fields one by one, in order.

## Main definitions

* `OpenOT.Record.coreSlots`, `OpenOT.Record.vendorSlots` — the slots by their keys.
* `OpenOT.EventTypeDefinition.Declares` — a declared key has the type of its field.

## Main results

* `OpenOT.resolveSlots_keys` — which slots become fields.
* `OpenOT.resolveRecord_ok` — how a record came to be resolved.
* `OpenOT.resolveRecord_keys` — the keys of the fields of a resolved record.
-/

namespace OpenOT

open Rust

variable {record : Record} {recordAbs : ℕ} {snapshot : ControlBlockSnapshot}
  {definitions : DefinitionSet} {hashing : Hashing} {event : EventTypeDefinition}
  {definition : DefinitionFile} {context : FieldContext} {slot : Slot}

/-! ## Keys -/

/-- The slots with core keys, in order. -/
def Record.coreSlots (record : Record) : List Slot :=
  record.slots.filter fun slot => isCoreKey slot.key

/-- The slots with vendor keys, in order. -/
def Record.vendorSlots (record : Record) : List Slot :=
  record.slots.filter fun slot => isVendorKey slot.key

/-- A key is a core key, a vendor key, or `0x0000`. -/
lemma key_cases (key : UInt16) : key = 0 ∧ isCoreKey key = false ∧ isVendorKey key = false ∨
    key ≠ 0 ∧ isCoreKey key = true ∧ isVendorKey key = false ∨
    key ≠ 0 ∧ isCoreKey key = false ∧ isVendorKey key = true := by
  simp only [isCoreKey, isVendorKey, decide_eq_true_eq, decide_eq_false_iff_not,
    UInt16.le_iff_toNat_le, ← UInt16.toNat_inj, Ne]
  simp
  omega

/-! ## Slots -/

/-- A declared key has the type of its field. -/
def EventTypeDefinition.Declares (event : EventTypeDefinition) (key : UInt16) : Prop :=
  ∃ schema ∈ event.slots, schema.key = key ∧ schema.Typed

/-- **What becomes of one slot**: a core slot that is declared becomes a field, a vendor slot a field
of the private extension, and a slot with the key `0x0000` nothing. -/
lemma resolveSlot_keys {resolved resolved' : ResolvedSlots}
    (hdeclared : isCoreKey slot.key = true → event.Declares slot.key)
    (h : resolveSlot event definition context resolved slot = .ok resolved') :
    resolved'.fields.map ResolvedField.key = resolved.fields.map ResolvedField.key ++
        ([slot].filter fun slot => isCoreKey slot.key).map Slot.key ∧
      resolved'.extensionFields.map ResolvedExtensionField.key =
        resolved.extensionFields.map ResolvedExtensionField.key ++
          ([slot].filter fun slot => isVendorKey slot.key).map Slot.key := by
  unfold resolveSlot at h
  rcases key_cases slot.key with ⟨hzero, hcore, hvendor⟩ | ⟨hzero, hcore, hvendor⟩ |
    ⟨hzero, hcore, hvendor⟩
  · have hnone : fieldSpec slot.key = none := by
      rw [hzero]
      rfl
    have hbelow : ¬0x8000 ≤ slot.key := of_decide_eq_false hvendor
    rw [if_neg hbelow, hnone] at h
    have hresolved : resolved' = resolved := by
      split at h
      · exact (Outcome.ok.inj h).symm
      · exact (Outcome.ok.inj h).symm
    subst hresolved
    simp [hcore, hvendor]
  · have hbelow : ¬0x8000 ≤ slot.key := of_decide_eq_false hvendor
    obtain ⟨schema, hmem, hkey, htyped⟩ := hdeclared hcore
    rw [if_neg hbelow] at h
    cases hfind : event.slots.find? fun schema => decide (schema.key = slot.key) with
    | none =>
      have hnot := List.find?_eq_none.mp hfind schema hmem
      simp [hkey] at hnot
    | some schema' =>
      rw [hfind] at h
      dsimp only at h
      cases hfield : fieldSpec slot.key with
      | none =>
        have hnot := (htyped.own (hkey ▸ hfield)).1
        rw [hkey, hcore] at hnot
        cases hnot
      | some field =>
        rw [hfield] at h
        dsimp only at h
        rw [if_neg (htyped.field field (hkey ▸ hfield)).1] at h
        split at h
        · cases h
        · obtain ⟨value, -, h⟩ := Outcome.bind_eq_ok.mp h
          cases h
          simp [hcore, hvendor]
  · have habove : 0x8000 ≤ slot.key := of_decide_eq_true hvendor
    rw [if_pos habove] at h
    obtain ⟨field, hfield, h⟩ := Outcome.bind_eq_ok.mp h
    obtain ⟨value, -, hfield⟩ := Outcome.bind_eq_ok.mp hfield
    cases h
    cases hfield
    simp [hcore, hvendor]

/-- **Which slots become fields**: if the core slots are declared, all but those with the key
`0x0000`. -/
lemma resolveSlots_keys {resolved : ResolvedSlots}
    (hdeclared : ∀ slot ∈ record.slots, isCoreKey slot.key = true → event.Declares slot.key)
    (h : resolveSlots record event definition = .ok resolved) :
    resolved.fields.map ResolvedField.key = record.coreSlots.map Slot.key ∧
      resolved.extensionFields.map ResolvedExtensionField.key =
        record.vendorSlots.map Slot.key := by
  obtain ⟨context, -, h⟩ := Outcome.bind_eq_ok.mp h
  have hfold : ∀ (slots : List Slot) (resolved' : ResolvedSlots),
      (∀ slot ∈ slots, isCoreKey slot.key = true → event.Declares slot.key) →
      slots.foldlM (resolveSlot event definition context) resolved' = .ok resolved →
      resolved.fields.map ResolvedField.key = resolved'.fields.map ResolvedField.key ++
          (slots.filter fun slot => isCoreKey slot.key).map Slot.key ∧
        resolved.extensionFields.map ResolvedExtensionField.key =
          resolved'.extensionFields.map ResolvedExtensionField.key ++
            (slots.filter fun slot => isVendorKey slot.key).map Slot.key := by
    intro slots
    induction slots with
    | nil =>
      intro resolved' _ hfold
      cases hfold
      simp
    | cons slot slots ih =>
      intro resolved' hdeclared hfold
      rw [List.foldlM_cons] at hfold
      obtain ⟨next, hslot, hfold⟩ := Outcome.bind_eq_ok.mp hfold
      obtain ⟨hfields, hextension⟩ := resolveSlot_keys (hdeclared slot List.mem_cons_self) hslot
      obtain ⟨hfields', hextension'⟩ :=
        ih next (fun other hother => hdeclared other (List.mem_cons_of_mem _ hother)) hfold
      rw [hfields', hextension', hfields, hextension, List.append_assoc, List.append_assoc,
        ← List.map_append, ← List.map_append, ← List.filter_append, ← List.filter_append]
      exact ⟨rfl, rfl⟩
  simpa [Record.coreSlots, Record.vendorSlots] using hfold record.slots ⟨[], []⟩ hdeclared h

/-- The core slots of a record that is accepted are declared. -/
lemma declares_of_validateRecord {recordLen : ℕ} {extensionKeys : List UInt16}
    (h : Schema.validateRecord record recordLen definition = .valid extensionKeys)
    (hevent : Schema.eventOf definition record = some event) :
    ∀ slot ∈ record.slots, isCoreKey slot.key = true → event.Declares slot.key := by
  unfold Schema.validateRecord at h
  split at h
  · cases h
  · rename_i hdefinition
    obtain ⟨hwell, hids⟩ := Schema.wellFormed_of_validateDefinition hdefinition
    obtain ⟨hmem, -⟩ := (Schema.eventOf_eq_some hids).mp hevent
    split_ifs at h
    · cases h
    · cases h
    · rw [hevent] at h
      dsimp only at h
      split at h
      · rename_i hslots
        obtain ⟨known, extension, heq, hknown, hext, -⟩ := Schema.validateRecordSlots_ok hslots
        intro slot hslot hcore
        rw [heq, List.mem_append] at hslot
        rcases hslot with hslot | hslot
        · obtain ⟨schema, hschema, -⟩ := hknown slot hslot
          obtain ⟨hin, hkey⟩ := (Schema.schemaByKey_eq_some (hwell event hmem)).mp hschema
          exact ⟨schema, hin, hkey, (hwell event hmem).typed schema hin⟩
        · have hvendor := (hext.undeclared slot hslot).2
          rcases key_cases slot.key with ⟨-, hnot, -⟩ | ⟨-, -, hnot⟩ | ⟨-, hnot, -⟩
          · rw [hcore] at hnot
            cases hnot
          · rw [hvendor] at hnot
            cases hnot
          · rw [hcore] at hnot
            cases hnot
      · cases h

/-! ## Records -/

/-- **How a record came to be resolved**: the definition selected by its position accepts it, and
its slots were resolved against the schema of its event. -/
lemma resolveRecord_ok {resolved : ResolvedRecord}
    (h : resolveRecord hashing record recordAbs snapshot definitions = .ok (.resolved resolved)) :
    ∃ definition event extensionKeys recordLen,
      selectedDefinition (resolvedEpoch recordAbs snapshot) definitions = some definition ∧
      Schema.encodedRecordLen record = .ok recordLen ∧
      Schema.validateRecord record recordLen definition = .valid extensionKeys ∧
      Schema.eventOf definition record = some event ∧
      resolveSlots record event definition = .ok ⟨resolved.fields, resolved.extensionFields⟩ := by
  simp only [resolveRecord] at h
  split at h
  · cases h
  rename_i definition hselected
  split at h
  · cases h
  unfold resolveValidated at h
  split at h
  · cases h
  · cases h
  rename_i recordLen hlen
  split at h
  · cases h
  rename_i extensionKeys hvalid
  unfold resolveAgainst at h
  split at h
  · cases h
  rename_i event hevent
  split at h
  · rename_i slots hslots
    cases h
    exact ⟨definition, event, extensionKeys, recordLen, hselected, hlen, hvalid, hevent, hslots⟩
  · cases h
  · cases h

/-- The keys of the fields of a resolved record. -/
lemma resolveRecord_keys {resolved : ResolvedRecord}
    (h : resolveRecord hashing record recordAbs snapshot definitions = .ok (.resolved resolved)) :
    resolved.fields.map ResolvedField.key = record.coreSlots.map Slot.key ∧
      resolved.extensionFields.map ResolvedExtensionField.key =
        record.vendorSlots.map Slot.key := by
  obtain ⟨definition, event, extensionKeys, recordLen, -, -, hvalid, hevent, hslots⟩ :=
    resolveRecord_ok h
  exact resolveSlots_keys (declares_of_validateRecord hvalid hevent) hslots

end OpenOT
