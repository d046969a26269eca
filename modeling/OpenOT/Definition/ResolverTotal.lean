import OpenOT.Definition.Resolver
import OpenOT.Carriage.WireFormat

set_option relaxedAutoImplicit false
set_option autoImplicit false

/-!
# The resolver returns

Whatever the record, the snapshot and the definitions, the resolver reaches none of its panics: a
slot is decoded only after its length has been compared with the width of its type.

## Main definitions

* `OpenOT.Slot.Fits` — the payload has the width of the type.

## Main results

* `OpenOT.Schema.fits_of_walkSlots` — validation leaves no declared slot that does not fit.
* `OpenOT.exists_resolution` — the resolver returns.
* `OpenOT.resolve_record_never_panics` — so does every route to the value decoder.
-/

namespace OpenOT

open Rust

/-- The payload has the width of the type of the slot, if that is fixed. -/
def Slot.Fits (slot : Slot) : Prop :=
  ∀ width, (tlvTypeSpec slot.ty).bind TlvTypeSpec.fixedWidth = some width →
    slot.payload.length = width

/-! ## Values -/

/-- The only panic of the accessors is a payload of another length. -/
lemma readLe_ne_panic {ε : Type} {payload : Bytes} :
    (payload.length = 1 → (index payload 0 : Outcome ε UInt8) ≠ .panic) ∧
    (payload.length = 2 → (Resolver.readU16 payload : Outcome ε UInt16) ≠ .panic) ∧
    (payload.length = 4 → (Resolver.readU32 payload : Outcome ε UInt32) ≠ .panic) ∧
    (payload.length = 8 → (Resolver.readU64 payload : Outcome ε UInt64) ≠ .panic) := by
  refine ⟨fun h => ?_, fun h => ?_, fun h => ?_, fun h => ?_⟩
  · rw [index_of_lt (by omega)]
    exact nofun
  · simp [Resolver.readU16, h]
  · simp [Resolver.readU32, h]
  · simp [Resolver.readU64, h]

/-- A call whose result is only wrapped panics where the call does. -/
lemma wrap_ne_panic {ε α β : Type} {x : Outcome ε α} {f : α → β} (h : x ≠ .panic) :
    (do pure (f (← x)) : Outcome ε β) ≠ .panic := by
  rw [Ne, Outcome.bind_eq_panic]
  rintro (hpanic | ⟨a, -, hpanic⟩)
  · exact h hpanic
  · cases hpanic

/-- A slot that fits is decoded, or rejected. -/
lemma decodeValue_ne_panic {slot : Slot} (h : slot.Fits) : decodeValue slot ≠ .panic := by
  obtain ⟨h1, h2, h4, h8⟩ := @readLe_ne_panic ValueDecodeError slot.payload
  rw [decodeValue]
  refine Outcome.ite_ne_panic (fun hty => ?_) fun _ => ?_
  · exact wrap_ne_panic (h1 (h 1 (by rw [hty]; rfl)))
  refine Outcome.ite_ne_panic (fun hty => ?_) fun _ => ?_
  · exact wrap_ne_panic (h1 (h 1 (by rw [hty]; rfl)))
  refine Outcome.ite_ne_panic (fun hty => ?_) fun _ => ?_
  · exact wrap_ne_panic (h1 (h 1 (by rw [hty]; rfl)))
  refine Outcome.ite_ne_panic (fun hty => ?_) fun _ => ?_
  · exact wrap_ne_panic (h2 (h 2 (by rw [hty]; rfl)))
  refine Outcome.ite_ne_panic (fun hty => ?_) fun _ => ?_
  · exact wrap_ne_panic (h2 (h 2 (by rw [hty]; rfl)))
  refine Outcome.ite_ne_panic (fun hty => ?_) fun _ => ?_
  · exact wrap_ne_panic (h4 (h 4 (by rw [hty]; rfl)))
  refine Outcome.ite_ne_panic (fun hty => ?_) fun _ => ?_
  · exact wrap_ne_panic (h4 (h 4 (by rw [hty]; rfl)))
  refine Outcome.ite_ne_panic (fun hty => ?_) fun _ => ?_
  · exact wrap_ne_panic (h8 (h 8 (by rw [hty]; rfl)))
  refine Outcome.ite_ne_panic (fun hty => ?_) fun _ => ?_
  · exact wrap_ne_panic (h8 (h 8 (by rw [hty]; rfl)))
  refine Outcome.ite_ne_panic (fun hty => ?_) fun _ => ?_
  · exact wrap_ne_panic (h4 (h 4 (by rw [hty]; rfl)))
  refine Outcome.ite_ne_panic (fun hty => ?_) fun _ => ?_
  · exact wrap_ne_panic (h8 (h 8 (by rw [hty]; rfl)))
  refine Outcome.ite_ne_panic (fun hty => ?_) fun _ => ?_
  · exact wrap_ne_panic (h8 (h 8 (by rw [hty]; rfl)))
  refine Outcome.ite_ne_panic (fun _ => ?_) fun _ => ?_
  · split
    · exact nofun
    · exact nofun
  · exact Outcome.ite_ne_panic (fun _ => nofun) fun _ => nofun

/-- A slot of the private extension is decoded only if it fits. -/
lemma decodeExtensionValue_ne_panic {ε : Type} (slot : Slot) :
    (decodeExtensionValue slot : Outcome ε (Option ResolvedValue)) ≠ .panic := by
  unfold decodeExtensionValue
  split
  · exact nofun
  · rename_i spec hspec
    split_ifs with hwidth hempty
    · exact nofun
    · exact nofun
    · have hfits : slot.Fits := by
        intro width hfixed
        rw [hspec] at hfixed
        by_contra hne
        exact hwidth (by simp [show spec.fixedWidth = some width from hfixed, hne])
      have := decodeValue_ne_panic hfits
      split
      · exact nofun
      · exact nofun
      · contradiction

/-- A slot is read into the context only if it has the right length. -/
lemma exists_observe {ε : Type} (context : FieldContext) (slot : Slot) :
    ∃ next, (context.observe slot : Outcome ε FieldContext) = .ok next := by
  unfold FieldContext.observe
  split_ifs with hmachine hcategory hvalue hcondition htemplate
  · exact ⟨_, by rw [Resolver.readU32, if_pos hmachine.2]; rfl⟩
  · exact ⟨_, by rw [Resolver.readU16, if_pos hcategory.2]; rfl⟩
  · exact ⟨_, by rw [Resolver.readU32, if_pos hvalue.2]; rfl⟩
  · exact ⟨_, by rw [Resolver.readU32, if_pos hcondition.2]; rfl⟩
  · exact ⟨_, by rw [Resolver.readU32, if_pos htemplate.2]; rfl⟩
  · exact ⟨_, rfl⟩

/-- The context of a record is read. -/
lemma exists_fromRecord {ε : Type} (record : Record) :
    ∃ context, (FieldContext.fromRecord record : Outcome ε FieldContext) = .ok context := by
  unfold FieldContext.fromRecord
  generalize (⟨none, none, none, none, none⟩ : FieldContext) = context
  induction record.slots generalizing context with
  | nil => exact ⟨context, rfl⟩
  | cons slot slots ih =>
    obtain ⟨next, hnext⟩ := exists_observe (ε := ε) context slot
    rw [List.foldlM_cons, hnext]
    exact ih next

/-- A slot of the private extension is decoded, or passed over. -/
lemma exists_decodeExtensionValue {ε : Type} (slot : Slot) :
    ∃ value, (decodeExtensionValue slot : Outcome ε (Option ResolvedValue)) = .ok value := by
  have hne := decodeExtensionValue_ne_panic (ε := ε) slot
  unfold decodeExtensionValue at hne ⊢
  split at hne
  · exact ⟨none, rfl⟩
  · split_ifs at hne ⊢
    · exact ⟨none, rfl⟩
    · exact ⟨none, rfl⟩
    · split at hne
      · exact ⟨_, rfl⟩
      · exact ⟨none, rfl⟩
      · exact absurd rfl hne

/-! ## Validated slots -/

namespace Schema

/-- A payload of the width checked fits. -/
lemma fits_of_validatePayloadWidth {slot : Slot} (h : validatePayloadWidth slot = .ok ()) :
    slot.Fits := by
  intro width hfixed
  obtain ⟨spec, hspec, hwidth⟩ := Option.bind_eq_some_iff.mp hfixed
  by_contra hne
  simp [validatePayloadWidth, hspec, hwidth, hne] at h

/-- The walk over the slots of a record leaves no declared slot that does not fit. -/
lemma fits_of_walkSlots {record : Record} {event : EventTypeDefinition}
    {definition : DefinitionFile} {slots : List Slot} :
    ∀ {index : ℕ} {walk walk' : SlotWalk},
      walkSlots record event definition index slots walk = .ok walk' →
      ∀ slot ∈ slots, schemaByKey event slot.key ≠ none → slot.Fits := by
  induction slots with
  | nil => simp
  | cons first slots ih =>
    intro index walk walk' hwalk slot hslot hdeclared
    rw [walkSlots] at hwalk
    split at hwalk
    · split_ifs at hwalk with hvendor
      obtain ⟨_, -, hwalk⟩ := except_bind_eq_ok.mp hwalk
      obtain ⟨_, -, hwalk⟩ := except_bind_eq_ok.mp hwalk
      obtain ⟨_, hwidth, hwalk⟩ := except_bind_eq_ok.mp hwalk
      rcases List.mem_cons.mp hslot with rfl | hslot
      · exact fits_of_validatePayloadWidth hwidth
      · exact ih hwalk slot hslot hdeclared
    · rename_i hundeclared
      split_ifs at hwalk with hvendor
      split at hwalk
      · cases hwalk
      · rcases List.mem_cons.mp hslot with rfl | hslot
        · exact absurd hundeclared hdeclared
        · exact ih hwalk slot hslot hdeclared

/-- So does the validation of a record. -/
lemma fits_of_validateRecord {record : Record} {recordLen : ℕ} {definition : DefinitionFile}
    {extensionKeys : List UInt16}
    (h : validateRecord record recordLen definition = .valid extensionKeys) :
    ∃ event, eventOf definition record = some event ∧
      ∀ slot ∈ record.slots, schemaByKey event slot.key ≠ none → slot.Fits := by
  unfold validateRecord at h
  split at h
  · cases h
  · split_ifs at h with hlen hcount
    · cases h
    · cases h
    · split at h
      · cases h
      · rename_i event hevent
        split at h
        · rename_i hslots
          obtain ⟨walk, hwalk, -⟩ := except_bind_eq_ok.mp hslots
          exact ⟨event, hevent, fits_of_walkSlots hwalk⟩
        · cases h

/-- A key is declared for the validator exactly if it is for the resolver. -/
lemma schemaByKey_ne_none {event : EventTypeDefinition} {key : UInt16} {schema : SlotDefinition}
    (h : (event.slots.find? fun slot => decide (slot.key = key)) = some schema) :
    schemaByKey event key ≠ none := by
  rw [schemaByKey, Ne, List.find?_eq_none]
  intro hnone
  have hkey : decide (schema.key = key) = true := by
    have := List.find?_some h
    exact this
  exact hnone schema (List.mem_reverse.mpr (List.mem_of_find?_eq_some h)) hkey

end Schema

/-! ## Records -/

/-- The slots of a validated record are resolved, or rejected. -/
lemma resolveSlots_ne_panic {record : Record} {event : EventTypeDefinition}
    {definition : DefinitionFile}
    (h : ∀ slot ∈ record.slots, Schema.schemaByKey event slot.key ≠ none → slot.Fits) :
    resolveSlots record event definition ≠ .panic := by
  rw [resolveSlots, Ne, Outcome.bind_eq_panic]
  rintro (hpanic | ⟨context, -, hpanic⟩)
  · obtain ⟨context, hcontext⟩ := exists_fromRecord (ε := ResolvePlaceholderReason) record
    rw [hcontext] at hpanic
    cases hpanic
  · refine Outcome.foldlM_ne_panic (fun slot hslot resolved => ?_) _ hpanic
    unfold resolveSlot
    refine Outcome.ite_ne_panic (fun _ => ?_) fun _ => ?_
    · exact wrap_ne_panic (wrap_ne_panic (decodeExtensionValue_ne_panic slot))
    · split
      · exact nofun
      · rename_i schema hschema
        have hdecode := decodeValue_ne_panic (h slot hslot (Schema.schemaByKey_ne_none hschema))
        split
        · exact nofun
        · refine Outcome.ite_ne_panic (fun _ => nofun) fun _ => ?_
          split
          · exact nofun
          · rw [Ne, Outcome.bind_eq_panic]
            rintro (hpanic | ⟨value, -, hpanic⟩)
            · exact hdecode (Outcome.mapErr_eq_panic.mp hpanic)
            · cases hpanic

/-- The length of a record is computed, or the record is rejected. -/
lemma encodedRecordLen_ne_panic (record : Record) : Schema.encodedRecordLen record ≠ .panic := by
  rw [Schema.encodedRecordLen, Ne, Outcome.bind_eq_panic]
  rintro (hpanic | ⟨bytes, -, hpanic⟩)
  · by_cases h : record.Encodable (record.flags &&& FLAG_HAS_CRC != 0)
    · rw [encode_of_encodable h] at hpanic
      cases hpanic
    · obtain ⟨error, herror⟩ := encode_of_not_encodable h
      rw [herror] at hpanic
      cases hpanic
  · cases hpanic

/-- A validated record is resolved, or kept as a placeholder. -/
lemma resolveAgainst_ne_panic {record : Record} {recordLen : ℕ} {definition : DefinitionFile}
    {extensionKeys : List UInt16} (snapshot : ControlBlockSnapshot) (epoch : ResolvedEpoch)
    (h : Schema.validateRecord record recordLen definition = .valid extensionKeys) :
    resolveAgainst record snapshot epoch definition ≠ .panic := by
  obtain ⟨event, hevent, hfits⟩ := Schema.fits_of_validateRecord h
  rw [resolveAgainst, hevent]
  cases hslots : resolveSlots record event definition with
  | ok resolved => simp [hslots]
  | err reason => simp [hslots]
  | panic => exact absurd hslots (resolveSlots_ne_panic hfits)

/-- So is every record whose definition has the right hash. -/
lemma resolveValidated_ne_panic (record : Record) (snapshot : ControlBlockSnapshot)
    (epoch : ResolvedEpoch) (definition : DefinitionFile) :
    resolveValidated record snapshot epoch definition ≠ .panic := by
  rw [resolveValidated]
  cases hlen : Schema.encodedRecordLen record with
  | panic => exact absurd hlen (encodedRecordLen_ne_panic record)
  | err error => exact nofun
  | ok recordLen =>
    cases hvalid : Schema.validateRecord record recordLen definition with
    | placeholder failed => simp [hvalid]
    | valid extensionKeys =>
      simp only [hvalid]
      exact resolveAgainst_ne_panic snapshot epoch hvalid

/-- **The resolver returns** a resolved record or a placeholder, on every input. -/
lemma exists_resolution (hashing : Hashing) (record : Record) (recordAbs : ℕ)
    (snapshot : ControlBlockSnapshot) (definitions : DefinitionSet) :
    ∃ resolution, resolveRecord hashing record recordAbs snapshot definitions = .ok resolution := by
  have hne : resolveRecord hashing record recordAbs snapshot definitions ≠ .panic := by
    rw [resolveRecord]
    cases hselected : selectedDefinition (resolvedEpoch recordAbs snapshot) definitions with
    | none => simp
    | some definition =>
      cases hverify : verifyDefinitionHash hashing definition (resolvedEpoch recordAbs snapshot)
          (selectedHash (resolvedEpoch recordAbs snapshot) snapshot) with
      | error reason => simp [hverify]
      | ok accepted =>
        simp only [hverify]
        exact resolveValidated_ne_panic record snapshot _ definition
  cases hresolve : resolveRecord hashing record recordAbs snapshot definitions with
  | ok resolution => exact ⟨resolution, rfl⟩
  | err error => exact error.elim
  | panic => exact absurd hresolve hne

/-- **Resolution never panics.** Whatever the record, its position, the snapshot and the definitions,
accepted or not, the resolver returns. No route to the value decoder reaches its indexing or one of
its `expect`s: the context of a record is read, every slot of a private extension is decoded or
passed over, and against a definition that accepts the record every declared slot is decoded or
rejected. -/
theorem resolve_record_never_panics (hashing : Hashing) (record : Record) (recordAbs : ℕ)
    (snapshot : ControlBlockSnapshot) (definitions : DefinitionSet) :
    (∃ resolution,
      resolveRecord hashing record recordAbs snapshot definitions = .ok resolution) ∧
    (∃ context, (FieldContext.fromRecord record : Outcome ResolvePlaceholderReason FieldContext) =
      .ok context) ∧
    (∀ slot ∈ record.slots, ∃ value, (decodeExtensionValue slot :
      Outcome ResolvePlaceholderReason (Option ResolvedValue)) = .ok value) ∧
    ∀ recordLen definition extensionKeys,
      Schema.validateRecord record recordLen definition = .valid extensionKeys →
        ∃ event, Schema.eventOf definition record = some event ∧
          ∀ slot ∈ record.slots, (∃ schema ∈ event.slots, schema.key = slot.key) →
            decodeValue slot ≠ .panic := by
  refine ⟨exists_resolution hashing record recordAbs snapshot definitions, ?_, fun slot _ => ?_,
    fun recordLen definition extensionKeys hvalid => ?_⟩
  · exact exists_fromRecord record
  · exact exists_decodeExtensionValue slot
  · obtain ⟨event, hevent, hfits⟩ := Schema.fits_of_validateRecord hvalid
    refine ⟨event, hevent, fun slot hslot ⟨schema, hschema, hkey⟩ => ?_⟩
    refine decodeValue_ne_panic (hfits slot hslot fun hnone => ?_)
    have hnot := List.find?_eq_none.mp hnone schema (List.mem_reverse.mpr hschema)
    exact hnot (decide_eq_true hkey)

end OpenOT
