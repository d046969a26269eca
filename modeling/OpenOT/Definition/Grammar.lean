import OpenOT.Definition.Validated
import OpenOT.Lib.Grouping
import Mathlib.Data.List.Find
import Mathlib.Data.List.Nodup

set_option relaxedAutoImplicit false
set_option autoImplicit false

/-!
# The grammar of records

What an accepted definition says about the slots of a record, in one sentence: one group of slots
for each declared slot, in declared order, and then the private extension. The validator checks
order, positions, counts and types one after the other; together these checks are the grammar.

## Main definitions

* `OpenOT.EventTypeDefinition.Derives` — the grammar of the slots of an event.
* `OpenOT.Record.Conforms` — the grammar of a record.
* `OpenOT.Schema.Walked` — what the walk over the slots of a record has collected.

## Main results

* `OpenOT.Schema.walkSlots_ok`, `OpenOT.Schema.walkSlots_append` — what the walk accepts.
* `OpenOT.Schema.validateRecordSlots_ok`, `OpenOT.Schema.validateRecordSlots_of_derives` — the
  checks of the slots are the grammar.
* `OpenOT.validate_record_iff` — the validator accepts exactly the records of the grammar.
-/

namespace OpenOT

open Rust Grouping

/-! ## The grammar -/

/-- Whether a slot may occur so often. -/
def MaxOccurs.Admits : MaxOccurs → ℕ → Prop
  | .count max, n => n ≤ max.toNat
  | .unbounded _, _ => True

/-- The value that the first `valueId` slot names, if it is defined. -/
def DefinitionFile.namedValue (definition : DefinitionFile) (slots : List Slot) :
    Option ValueDefinition := do
  let named ← slots.find? fun slot => decide (slot.key = KEY_VALUE_ID)
  definition.values.find? fun value =>
    decide (value.valueId = UInt32.ofNat (fromLe named.payload))

/-- A previous or a new value has the type of the value that the record names. -/
def DefinitionFile.TypesValue (definition : DefinitionFile) (slots : List Slot) (slot : Slot) :
    Prop :=
  slot.key = KEY_PREVIOUS_VALUE ∨ slot.key = KEY_NEW_VALUE →
    ∀ value, definition.namedValue slots = some value → slot.ty = value.dataType

/-- **The grammar of the slots of an event**: a group of slots for each declared slot, in declared
order and as many as it admits, and then a private extension, whose keys ascend. -/
structure EventTypeDefinition.Derives (definition : DefinitionFile) (event : EventTypeDefinition)
    (slots : List Slot) (groups : List (List Slot)) (extension : List Slot) : Prop where
  eq : slots = groups.flatten ++ extension
  groups : List.Forall₂ (fun schema group => schema.minOccurs.toNat ≤ group.length ∧
    schema.maxOccurs.Admits group.length ∧
      ∀ slot ∈ group, schema.Takes slot ∧ definition.TypesValue slots slot) event.slots groups
  vendor : ∀ slot ∈ extension, isVendorKey slot.key = true ∧
    ∀ schema ∈ event.slots, schema.key ≠ slot.key
  ascending : (extension.map Slot.key).Pairwise (· < ·)

/-- **The grammar of a record** of a given length. -/
structure Record.Conforms (record : Record) (recordLen : ℕ) (definition : DefinitionFile) :
    Prop where
  size : recordLen ≤ definition.header.constraints.maxRecordSize.toNat
  slotCount : record.slots.length ≤ definition.header.constraints.maxSlots.toNat
  event : ∃ event ∈ definition.eventTypes, event.id = record.eventTypeId ∧
    ∃ groups extension, event.Derives definition record.slots groups extension

namespace Schema

variable {record : Record} {event : EventTypeDefinition} {definition : DefinitionFile}
  {slots known extension : List Slot} {slot : Slot} {walk walk' : SlotWalk} {index : ℕ}

/-! ## The walk -/

/-- The order class of a key. -/
def classOf (event : EventTypeDefinition) (key : UInt16) : UInt16 :=
  ((schemaByKey event key).map SlotDefinition.orderClass).getD 0

/-- A slot is declared, and its checks succeed. -/
def Checked (record : Record) (event : EventTypeDefinition) (definition : DefinitionFile)
    (slot : Slot) : Prop :=
  ∃ schema, schemaByKey event slot.key = some schema ∧
    validateRecordSlotType slot schema = .ok () ∧
    validateValuePayloadType slot record definition = .ok () ∧ validatePayloadWidth slot = .ok ()

/-- The slots of a private extension: undeclared, with vendor keys that ascend from the last one. -/
structure Extends (event : EventTypeDefinition) (previous : Option UInt16)
    (extension : List Slot) : Prop where
  undeclared : ∀ slot ∈ extension, schemaByKey event slot.key = none ∧ isVendorKey slot.key = true
  above : ∀ slot ∈ extension, ∀ last, previous = some last → last < slot.key
  ascending : (extension.map Slot.key).Pairwise (· < ·)

/-- What the walk over declared slots and a private extension has collected. -/
structure Walked (event : EventTypeDefinition) (index : ℕ) (walk : SlotWalk)
    (known extension : List Slot) (walk' : SlotWalk) : Prop where
  counts : ∀ key, walk'.counts.getD key 0 =
    walk.counts.getD key 0 + (group Slot.key known key).length
  positions : ∀ key, walk'.positions.getD key [] =
    walk.positions.getD key [] ++ positions Slot.key key index known
  knownOrder : walk'.knownOrder =
    walk.knownOrder ++ known.map fun slot => (classOf event slot.key, slot.key)
  extensionKeys : walk'.extensionKeys = walk.extensionKeys ++ extension.map Slot.key

/-- Nothing has been collected yet. -/
lemma Walked.nil : Walked event index walk [] [] walk :=
  ⟨fun _ => rfl, fun _ => by simp [Grouping.positions], by simp, by simp⟩

/-- A declared slot in front. -/
lemma Walked.declared {schema : SlotDefinition} (hschema : schemaByKey event slot.key = some schema)
    (h : Walked event (index + 1) (walk.known schema index slot) known extension walk') :
    Walked event index walk (slot :: known) extension walk' where
  counts := fun key => by
    rw [h.counts, SlotWalk.known, Std.TreeMap.getD_insert, group, group, List.filter_cons]
    by_cases hkey : slot.key = key
    · simp [hkey]
      omega
    · simp [hkey]
  positions := fun key => by
    rw [h.positions, SlotWalk.known, Std.TreeMap.getD_insert, Grouping.positions]
    by_cases hkey : slot.key = key
    · simp [hkey]
    · simp [hkey]
  knownOrder := by
    rw [h.knownOrder, SlotWalk.known, List.append_assoc, List.map_cons, classOf, hschema]
    rfl
  extensionKeys := h.extensionKeys

/-- A slot of the private extension in front. -/
lemma Walked.vendor (h : Walked event (index + 1) (walk.extension slot) [] extension walk') :
    Walked event index walk [] (slot :: extension) walk' where
  counts := h.counts
  positions := fun key => by
    rw [h.positions]
    rfl
  knownOrder := h.knownOrder
  extensionKeys := by
    rw [h.extensionKeys, SlotWalk.extension, List.append_assoc]
    rfl

/-- **What the walk accepts**: declared slots whose checks succeed, and then a private extension. -/
lemma walkSlots_ok (h : walkSlots record event definition index slots walk = .ok walk') :
    ∃ known extension, slots = known ++ extension ∧
      (walk.sawVendorExtension = true → known = []) ∧
      (∀ slot ∈ known, Checked record event definition slot) ∧
      Extends event walk.previousVendorKey extension ∧
      Walked event index walk known extension walk' := by
  induction slots generalizing index walk with
  | nil =>
    rw [walkSlots] at h
    cases h
    exact ⟨[], [], rfl, fun _ => rfl, List.forall_mem_nil _,
      ⟨List.forall_mem_nil _, List.forall_mem_nil _, .nil⟩, .nil⟩
  | cons slot slots ih =>
    rw [walkSlots] at h
    cases hschema : schemaByKey event slot.key with
    | some schema =>
      rw [hschema] at h
      dsimp only at h
      split_ifs at h with hsaw
      obtain ⟨_, htype, h⟩ := except_bind_eq_ok.mp h
      obtain ⟨_, hvalue, h⟩ := except_bind_eq_ok.mp h
      obtain ⟨_, hwidth, h⟩ := except_bind_eq_ok.mp h
      obtain ⟨known, extension, rfl, -, hknown, hext, hwalked⟩ := ih h
      refine ⟨slot :: known, extension, rfl, fun htrue => absurd htrue hsaw, fun other hother => ?_,
        hext, hwalked.declared hschema⟩
      rcases List.mem_cons.mp hother with rfl | hother
      · exact ⟨schema, hschema, htype, hvalue, hwidth⟩
      · exact hknown other hother
    | none =>
      rw [hschema] at h
      dsimp only at h
      split_ifs at h with hvendor
      split at h
      · cases h
      · rename_i hprevious
        obtain ⟨known, extension, rfl, hsaw, -, hext, hwalked⟩ := ih h
        cases hsaw rfl
        refine ⟨[], slot :: extension, rfl, fun _ => rfl, List.forall_mem_nil _, ⟨?_, ?_, ?_⟩,
          hwalked.vendor⟩
        · intro other hother
          rcases List.mem_cons.mp hother with rfl | hother
          · exact ⟨hschema, hvendor⟩
          · exact hext.undeclared other hother
        · intro other hother last hlast
          have hfirst : last < slot.key := by
            rw [hlast] at hprevious
            simpa [Option.filter] using hprevious
          rcases List.mem_cons.mp hother with rfl | hother
          · exact hfirst
          · exact UInt16.lt_trans hfirst (hext.above other hother _ rfl)
        · refine List.pairwise_cons.mpr ⟨fun key hkey => ?_, hext.ascending⟩
          obtain ⟨other, hother, rfl⟩ := List.mem_map.mp hkey
          exact hext.above other hother _ rfl

/-- The walk over a private extension. -/
lemma walkSlots_extension (hext : Extends event walk.previousVendorKey extension) :
    ∃ walk', walkSlots record event definition index extension walk = .ok walk' ∧
      Walked event index walk [] extension walk' := by
  induction extension generalizing index walk with
  | nil => exact ⟨walk, rfl, .nil⟩
  | cons slot extension ih =>
    obtain ⟨hundeclared, hvendor⟩ := hext.undeclared slot List.mem_cons_self
    have hascending := List.pairwise_cons.mp hext.ascending
    obtain ⟨walk', hwalk, hwalked⟩ : ∃ walk', walkSlots record event definition (index + 1)
        extension (walk.extension slot) = .ok walk' ∧
        Walked event (index + 1) (walk.extension slot) [] extension walk' := ih
      ⟨fun other hother => hext.undeclared other (List.mem_cons_of_mem _ hother),
        fun other hother last hlast => by
          cases hlast
          exact hascending.1 _ (List.mem_map_of_mem hother), hascending.2⟩
    refine ⟨walk', ?_, hwalked.vendor⟩
    have hprevious : (walk.previousVendorKey.filter fun previous =>
        decide (slot.key ≤ previous)) = none := by
      cases hlast : walk.previousVendorKey with
      | none => rfl
      | some last =>
        have := hext.above slot List.mem_cons_self last hlast
        simpa [Option.filter] using this
    rw [walkSlots, hundeclared]
    dsimp only
    rw [if_pos hvendor, hprevious]
    exact hwalk

/-- The walk over declared slots and a private extension. -/
lemma walkSlots_append (hknown : ∀ slot ∈ known, Checked record event definition slot)
    (hsaw : walk.sawVendorExtension = false)
    (hext : Extends event walk.previousVendorKey extension) :
    ∃ walk', walkSlots record event definition index (known ++ extension) walk = .ok walk' ∧
      Walked event index walk known extension walk' := by
  induction known generalizing index walk with
  | nil => exact walkSlots_extension hext
  | cons slot known ih =>
    obtain ⟨schema, hschema, htype, hvalue, hwidth⟩ := hknown slot List.mem_cons_self
    obtain ⟨walk', hwalk, hwalked⟩ : ∃ walk', walkSlots record event definition (index + 1)
        (known ++ extension) (walk.known schema index slot) = .ok walk' ∧
        Walked event (index + 1) (walk.known schema index slot) known extension walk' := ih
      (fun other hother => hknown other (List.mem_cons_of_mem _ hother)) hsaw hext
    refine ⟨walk', ?_, hwalked.declared hschema⟩
    rw [List.cons_append, walkSlots, hschema]
    dsimp only
    rw [hsaw, if_neg (by decide)]
    exact except_bind_eq_ok.mpr ⟨(), htype, except_bind_eq_ok.mpr ⟨(), hvalue,
      except_bind_eq_ok.mpr ⟨(), hwidth, hwalk⟩⟩⟩

/-! ## The other passes -/

/-- Positions one behind the other. -/
lemma isContiguous_range' (first count : ℕ) :
    isContiguous (List.range' first count) = true := by
  induction count generalizing first with
  | zero => rfl
  | succ count ih =>
    cases count with
    | zero => rfl
    | succ count =>
      rw [List.range'_succ, List.range'_succ, isContiguous, decide_eq_true rfl, Bool.true_and,
        ← List.range'_succ]
      exact ih (first + 1)

/-- The pass over the order classes. -/
lemma checkOrder_eq_ok {known : List (UInt16 × UInt16)} {previous : Option UInt16} :
    checkOrder known previous = .ok () ↔
      (∀ entry ∈ known, ∀ last, previous = some last → last.toNat ≤ entry.1.toNat) ∧
        known.Pairwise fun a b => a.1.toNat ≤ b.1.toNat := by
  induction known generalizing previous with
  | nil => simp [checkOrder]
  | cons entry known ih =>
    obtain ⟨orderClass, key⟩ := entry
    rw [checkOrder, List.pairwise_cons, List.forall_mem_cons]
    by_cases hlow : ∃ last, previous = some last ∧ orderClass < last
    · obtain ⟨last, rfl, hlow⟩ := hlow
      rw [show (some last).filter (fun previous => decide (orderClass < previous)) = some last by
        simp [Option.filter, hlow]]
      refine ⟨nofun, fun h => absurd (h.1.1 last rfl) ?_⟩
      rw [UInt16.lt_iff_toNat_lt] at hlow
      exact Nat.not_le.mpr hlow
    · have hhigh : ∀ last, previous = some last → last.toNat ≤ orderClass.toNat := by
        intro last hlast
        by_contra hnot
        exact hlow ⟨last, hlast, UInt16.lt_iff_toNat_lt.mpr (Nat.not_le.mp hnot)⟩
      have hnone : (previous.filter fun previous => decide (orderClass < previous)) = none := by
        rw [Option.filter_eq_none_iff]
        intro last hlast hlt
        exact hlow ⟨last, hlast, by simpa using hlt⟩
      rw [hnone]
      dsimp only
      rw [ih]
      constructor
      · rintro ⟨hfirst, hpairwise⟩
        exact ⟨⟨hhigh, fun entry hentry last hlast =>
          (hhigh last hlast).trans (hfirst entry hentry _ rfl)⟩,
          fun entry hentry => hfirst entry hentry _ rfl, hpairwise⟩
      · rintro ⟨-, hfirst, hpairwise⟩
        refine ⟨fun entry hentry last hlast => ?_, hpairwise⟩
        cases hlast
        exact hfirst entry hentry

/-- The upper bound of a slot. -/
lemma exceeded_eq_none {maxOccurs : MaxOccurs} {n : ℕ} :
    exceeded maxOccurs n = none ↔ maxOccurs.Admits n := by
  cases maxOccurs with
  | unbounded text => exact ⟨fun _ => trivial, fun _ => rfl⟩
  | count max =>
    rw [exceeded, MaxOccurs.Admits, ← Nat.not_lt]
    split_ifs with hover <;> simp [hover]

/-- The pass over the numbers of occurrences. -/
lemma checkOccurrences_eq_ok {counts : Std.TreeMap UInt16 ℕ} {schemas : List SlotDefinition} :
    checkOccurrences counts schemas = .ok () ↔ ∀ schema ∈ schemas,
      schema.minOccurs.toNat ≤ counts.getD schema.key 0 ∧
        schema.maxOccurs.Admits (counts.getD schema.key 0) := by
  induction schemas with
  | nil => simp [checkOccurrences]
  | cons schema schemas ih =>
    rw [checkOccurrences, List.forall_mem_cons, ← ih, ← exceeded_eq_none]
    by_cases hmin : counts.getD schema.key 0 < schema.minOccurs.toNat
    · rw [if_pos hmin]
      exact ⟨nofun, fun h => absurd h.1.1 (Nat.not_le.mpr hmin)⟩
    rw [if_neg hmin]
    cases exceeded schema.maxOccurs (counts.getD schema.key 0) with
    | none => exact ⟨fun h => ⟨⟨Nat.not_lt.mp hmin, rfl⟩, h⟩, fun h => h.2⟩
    | some max => exact ⟨nofun, fun h => absurd h.1.2 nofun⟩

/-- **What the checks of the slots accept**: besides what the walk accepts, order classes that do not
go down and numbers of occurrences within bounds. -/
lemma validateRecordSlots_ok {keys : List UInt16}
    (h : validateRecordSlots record event definition = .ok keys) :
    ∃ known extension, record.slots = known ++ extension ∧
      (∀ slot ∈ known, Checked record event definition slot) ∧ Extends event none extension ∧
      (known.Pairwise fun a b => (classOf event a.key).toNat ≤ (classOf event b.key).toNat) ∧
      (∀ schema ∈ event.slots,
        schema.minOccurs.toNat ≤ (group Slot.key known schema.key).length ∧
          schema.maxOccurs.Admits (group Slot.key known schema.key).length) ∧
      keys = extension.map Slot.key := by
  obtain ⟨walk, hwalk, h⟩ := except_bind_eq_ok.mp h
  obtain ⟨known, extension, hslots, -, hknown, hext, hwalked⟩ := walkSlots_ok hwalk
  split at h
  · cases h
  obtain ⟨_, horder, h⟩ := except_bind_eq_ok.mp h
  obtain ⟨_, hoccurs, h⟩ := except_bind_eq_ok.mp h
  refine ⟨known, extension, hslots, hknown, hext, ?_, fun schema hschema => ?_, ?_⟩
  · have hpairwise := (checkOrder_eq_ok.mp horder).2
    rw [hwalked.knownOrder] at hpairwise
    simpa [List.pairwise_map] using hpairwise
  · have hcounts := checkOccurrences_eq_ok.mp hoccurs schema hschema
    rw [hwalked.counts] at hcounts
    simpa using hcounts
  · have hkeys := hwalked.extensionKeys
    cases h
    simpa using hkeys

/-- The checks of the slots accept slots that stand one behind the other. -/
lemma validateRecordSlots_append (hslots : record.slots = known ++ extension)
    (hknown : ∀ slot ∈ known, Checked record event definition slot)
    (hext : Extends event none extension)
    (hcontiguous : ∀ key, isContiguous (positions Slot.key key 0 known) = true)
    (horder : known.Pairwise fun a b => (classOf event a.key).toNat ≤ (classOf event b.key).toNat)
    (hoccurs : ∀ schema ∈ event.slots,
      schema.minOccurs.toNat ≤ (group Slot.key known schema.key).length ∧
        schema.maxOccurs.Admits (group Slot.key known schema.key).length) :
    validateRecordSlots record event definition = .ok (extension.map Slot.key) := by
  obtain ⟨walk, hwalk, hwalked⟩ : ∃ walk', walkSlots record event definition 0
      (known ++ extension) ⟨∅, ∅, [], [], none, false⟩ = .ok walk' ∧
      Walked event 0 ⟨∅, ∅, [], [], none, false⟩ known extension walk' :=
    walkSlots_append hknown rfl hext
  have hpositions : (walk.positions.toList.find? fun entry => !isContiguous entry.2) = none := by
    rw [List.find?_eq_none]
    intro entry hentry
    have hget : walk.positions.getD entry.1 [] = entry.2 := by
      rw [Std.TreeMap.getD_eq_getD_getElem?, Std.TreeMap.mem_toList_iff_getElem?_eq_some.mp hentry,
        Option.getD_some]
    have hpositions : positions Slot.key entry.1 0 known = entry.2 := by
      simpa using (hwalked.positions entry.1).symm.trans hget
    rw [← hpositions, hcontiguous]
    decide
  have hsorted : checkOrder walk.knownOrder none = .ok () := by
    rw [checkOrder_eq_ok, hwalked.knownOrder]
    refine ⟨by simp, ?_⟩
    simpa [List.pairwise_map] using horder
  have hcounts : checkOccurrences walk.counts event.slots = .ok () := by
    rw [checkOccurrences_eq_ok]
    intro schema hschema
    rw [hwalked.counts]
    simpa using hoccurs schema hschema
  have hkeys : walk.extensionKeys = extension.map Slot.key := by
    simpa using hwalked.extensionKeys
  rw [validateRecordSlots, hslots]
  refine except_bind_eq_ok.mpr ⟨walk, hwalk, ?_⟩
  rw [hpositions]
  refine except_bind_eq_ok.mpr ⟨(), hsorted, except_bind_eq_ok.mpr ⟨(), hcounts, ?_⟩⟩
  rw [hkeys]
  rfl

/-! ## The checks are the grammar -/

/-- The definition of a key. -/
lemma schemaByKey_eq_some (hwell : event.WellFormed) {key : UInt16} {schema : SlotDefinition} :
    schemaByKey event key = some schema ↔ schema ∈ event.slots ∧ schema.key = key := by
  have hfound : ∀ schema', schemaByKey event key = some schema' →
      schema' ∈ event.slots ∧ schema'.key = key := by
    intro schema' h
    have hkey : decide (schema'.key = key) = true :=
      List.find?_some (p := fun slot : SlotDefinition => decide (slot.key = key)) h
    exact ⟨List.mem_reverse.mp (List.mem_of_find?_eq_some h), of_decide_eq_true hkey⟩
  refine ⟨hfound schema, fun ⟨hmem, hkey⟩ => ?_⟩
  cases hschema : schemaByKey event key with
  | none =>
    have hnone := List.find?_eq_none.mp hschema schema (List.mem_reverse.mpr hmem)
    simp [hkey] at hnone
  | some schema' =>
    obtain ⟨hmem', hkey'⟩ := hfound schema' hschema
    exact congrArg some (List.inj_on_of_nodup_map hwell.keys hmem' hmem (hkey'.trans hkey.symm))

/-- A key without a definition. -/
lemma schemaByKey_eq_none {key : UInt16} :
    schemaByKey event key = none ↔ ∀ schema ∈ event.slots, schema.key ≠ key := by
  simp [schemaByKey]

/-- The order classes of the declared keys ascend. -/
lemma pairwise_classOf (hwell : event.WellFormed) :
    (event.slots.map SlotDefinition.key).Pairwise fun k k' =>
      (classOf event k).toNat < (classOf event k').toNat := by
  have hclass : ∀ schema ∈ event.slots, classOf event schema.key = schema.orderClass := by
    intro schema hschema
    rw [classOf, (schemaByKey_eq_some hwell).mpr ⟨hschema, rfl⟩]
    rfl
  rw [List.pairwise_map]
  refine hwell.order.imp_of_mem fun {a b} ha hb hlt => ?_
  rw [hclass a ha, hclass b hb]
  exact UInt16.lt_iff_toNat_lt.mp hlt

/-- A `valueId` slot has four bytes. -/
lemma length_valueId {schema : SlotDefinition} (h : schema.Takes slot)
    (hkey : slot.key = KEY_VALUE_ID) : slot.payload.length = 4 := by
  have hdemanded : schema.demandedType = some TY_UDINT := by
    rw [SlotDefinition.demandedType, ← h.key, hkey]
    rfl
  refine h.width 4 ?_
  rw [h.type _ hdemanded]
  rfl

/-- The check of the type of a value, when the `valueId` slots have four bytes. -/
lemma validateValuePayloadType_eq_ok
    (hlength : ∀ slot ∈ record.slots, slot.key = KEY_VALUE_ID → slot.payload.length = 4) :
    validateValuePayloadType slot record definition = .ok () ↔
      definition.TypesValue record.slots slot := by
  have hfind : (record.slots.find? fun slot =>
      decide (slot.key = KEY_VALUE_ID ∧ slot.payload.length = 4)) =
        record.slots.find? fun slot => decide (slot.key = KEY_VALUE_ID) := by
    refine List.find?_congr fun slot hslot => ?_
    by_cases hkey : slot.key = KEY_VALUE_ID
    · simp [hkey, hlength slot hslot hkey]
    · simp [hkey]
  unfold validateValuePayloadType DefinitionFile.TypesValue recordValueId
  by_cases hkey : slot.key = KEY_PREVIOUS_VALUE ∨ slot.key = KEY_NEW_VALUE
  · rw [if_neg (not_not.mpr hkey), hfind, DefinitionFile.namedValue]
    cases record.slots.find? fun slot => decide (slot.key = KEY_VALUE_ID) with
    | none => simp [hkey]
    | some named =>
      rw [Option.map_some, Option.bind_eq_bind, Option.bind_some]
      dsimp only
      cases definition.values.find? fun value =>
        decide (value.valueId = UInt32.ofNat (fromLe named.payload)) with
      | none => simp [hkey]
      | some value =>
        by_cases htype : slot.ty = value.dataType
        · simp [htype]
        · simp [htype, hkey]
  · rw [if_pos hkey]
    exact ⟨fun _ h => absurd h hkey, fun _ => rfl⟩

/-- What is checked of a slot is what its definition takes. -/
lemma checked_iff (hwell : event.WellFormed)
    (hlength : ∀ slot ∈ record.slots, slot.key = KEY_VALUE_ID → slot.payload.length = 4) :
    Checked record event definition slot ↔ ∃ schema ∈ event.slots, schema.Takes slot ∧
      definition.TypesValue record.slots slot := by
  constructor
  · rintro ⟨schema, hschema, htype, hvalue, hwidth⟩
    obtain ⟨hmem, hkey⟩ := (schemaByKey_eq_some hwell).mp hschema
    exact ⟨schema, hmem, (takes_iff (hwell.typed schema hmem) hkey.symm).mpr ⟨htype, hwidth⟩,
      (validateValuePayloadType_eq_ok hlength).mp hvalue⟩
  · rintro ⟨schema, hmem, htakes, hvalue⟩
    obtain ⟨htype, hwidth⟩ := (takes_iff (hwell.typed schema hmem) htakes.key).mp htakes
    exact ⟨schema, (schemaByKey_eq_some hwell).mpr ⟨hmem, htakes.key.symm⟩, htype,
      (validateValuePayloadType_eq_ok hlength).mpr hvalue, hwidth⟩

/-- A vendor key is not that of a `valueId` slot. -/
lemma ne_valueId_of_vendor (h : isVendorKey slot.key = true) : slot.key ≠ KEY_VALUE_ID :=
  fun hkey => by
    rw [hkey] at h
    exact absurd h (by decide)

/-- What the checks accept derives from the grammar. -/
lemma derives_of_validateRecordSlots (hwell : event.WellFormed) {keys : List UInt16}
    (h : validateRecordSlots record event definition = .ok keys) :
    ∃ groups extension, event.Derives definition record.slots groups extension ∧
      keys = extension.map Slot.key := by
  obtain ⟨known, extension, hslots, hknown, hext, horder, hoccurs, hkeys⟩ :=
    validateRecordSlots_ok h
  have hlength : ∀ slot ∈ record.slots, slot.key = KEY_VALUE_ID → slot.payload.length = 4 := by
    intro slot hslot hkey
    rw [hslots, List.mem_append] at hslot
    rcases hslot with hslot | hslot
    · obtain ⟨schema, hschema, htype, -, hwidth⟩ := hknown slot hslot
      obtain ⟨hmem, hkey'⟩ := (schemaByKey_eq_some hwell).mp hschema
      exact length_valueId ((takes_iff (hwell.typed schema hmem) hkey'.symm).mpr ⟨htype, hwidth⟩)
        hkey
    · exact absurd hkey (ne_valueId_of_vendor (hext.undeclared slot hslot).2)
  have htakes : ∀ slot ∈ known, ∃ schema ∈ event.slots, schema.Takes slot ∧
      definition.TypesValue record.slots slot :=
    fun slot hslot => (checked_iff hwell hlength).mp (hknown slot hslot)
  have hflatten : ((event.slots.map SlotDefinition.key).map (group Slot.key known)).flatten =
      known :=
    flatten_group (pairwise_classOf hwell)
      (fun slot hslot => by
        obtain ⟨schema, hmem, htakes, -⟩ := htakes slot hslot
        exact List.mem_map.mpr ⟨schema, hmem, htakes.key.symm⟩) horder
  refine ⟨(event.slots.map SlotDefinition.key).map (group Slot.key known), extension,
    ⟨by rw [hflatten]; exact hslots, ?_, fun slot hslot => ?_, hext.ascending⟩, hkeys⟩
  · rw [List.map_map, List.forall₂_map_right_iff, List.forall₂_same]
    intro schema hschema
    obtain ⟨hmin, hmax⟩ := hoccurs schema hschema
    refine ⟨hmin, hmax, fun slot hslot => ?_⟩
    obtain ⟨hmem, hkey⟩ := mem_group.mp hslot
    obtain ⟨schema', hmem', htakes', hvalue⟩ := htakes slot hmem
    rw [List.inj_on_of_nodup_map hwell.keys hschema hmem' (hkey.symm.trans htakes'.key)]
    exact ⟨htakes', hvalue⟩
  · obtain ⟨hnone, hvendor⟩ := hext.undeclared slot hslot
    exact ⟨hvendor, schemaByKey_eq_none.mp hnone⟩

/-- What derives from the grammar is accepted. -/
lemma validateRecordSlots_of_derives (hwell : event.WellFormed) {groups : List (List Slot)}
    (h : event.Derives definition record.slots groups extension) :
    validateRecordSlots record event definition = .ok (extension.map Slot.key) := by
  have hgroups : Groups Slot.key (event.slots.map SlotDefinition.key) groups := by
    rw [Groups, List.forall₂_map_left_iff]
    exact h.groups.imp fun schema group hall slot hslot => (hall.2.2 slot hslot).1.key
  have htakes : ∀ slot ∈ groups.flatten, ∃ schema ∈ event.slots, schema.Takes slot ∧
      definition.TypesValue record.slots slot := by
    intro slot hslot
    obtain ⟨group, hgroup, hslot⟩ := List.mem_flatten.mp hslot
    obtain ⟨schema, hschema, -, -, hall⟩ := exists_of_forall₂ h.groups hgroup
    exact ⟨schema, hschema, hall slot hslot⟩
  have hlength : ∀ slot ∈ record.slots, slot.key = KEY_VALUE_ID → slot.payload.length = 4 := by
    intro slot hslot hkey
    rw [h.eq, List.mem_append] at hslot
    rcases hslot with hslot | hslot
    · obtain ⟨schema, -, htakes, -⟩ := htakes slot hslot
      exact length_valueId htakes hkey
    · exact absurd hkey (ne_valueId_of_vendor (h.vendor slot hslot).1)
  refine validateRecordSlots_append h.eq
    (fun slot hslot => (checked_iff hwell hlength).mpr (htakes slot hslot))
    ⟨fun slot hslot => ⟨schemaByKey_eq_none.mpr (h.vendor slot hslot).2, (h.vendor slot hslot).1⟩,
      fun _ _ _ hnone => absurd hnone.symm (Option.some_ne_none _), h.ascending⟩ (fun key => ?_)
    (hgroups.sorted (pairwise_classOf hwell)) fun schema hschema => ?_
  · obtain ⟨first, count, hpositions⟩ := hgroups.positions hwell.keys (k := key) 0
    rw [hpositions]
    exact isContiguous_range' first count
  · have hfilter := h.groups
    rw [hgroups.eq_group hwell.keys, List.map_map, List.forall₂_map_right_iff,
      List.forall₂_same] at hfilter
    obtain ⟨hmin, hmax, -⟩ := hfilter schema hschema
    exact ⟨hmin, hmax⟩

/-- The schema of the event of a record is the one with its id. -/
lemma eventOf_eq_some (hids : (definition.eventTypes.map EventTypeDefinition.id).Nodup) :
    eventOf definition record = some event ↔
      event ∈ definition.eventTypes ∧ event.id = record.eventTypeId := by
  have hfound : ∀ event', eventOf definition record = some event' →
      event' ∈ definition.eventTypes ∧ event'.id = record.eventTypeId := by
    intro event' h
    have hid : decide (event'.id = record.eventTypeId) = true :=
      List.find?_some (p := fun event : EventTypeDefinition => decide (event.id =
        record.eventTypeId)) h
    exact ⟨List.mem_of_find?_eq_some h, of_decide_eq_true hid⟩
  refine ⟨hfound event, fun ⟨hmem, hid⟩ => ?_⟩
  cases hevent : eventOf definition record with
  | none =>
    have hnone := List.find?_eq_none.mp hevent event hmem
    simp [hid] at hnone
  | some event' =>
    obtain ⟨hmem', hid'⟩ := hfound event' hevent
    exact congrArg some (List.inj_on_of_nodup_map hids hmem' hmem (hid'.trans hid.symm))

/-- What the validator returns for a record against an accepted definition. -/
lemma validateRecord_cases (hdefinition : validateDefinition definition = .ok ())
    (record : Record) (recordLen : ℕ) :
    record.Conforms recordLen definition ∧
        (∃ keys, validateRecord record recordLen definition = .valid keys) ∨
      ¬record.Conforms recordLen definition ∧
        ∃ reason, validateRecord record recordLen definition = schemaPlaceholder record reason := by
  obtain ⟨hwell, hids⟩ := wellFormed_of_validateDefinition hdefinition
  rw [validateRecord, hdefinition]
  dsimp only
  by_cases hsize : definition.header.constraints.maxRecordSize.toNat < recordLen
  · rw [if_pos hsize]
    exact .inr ⟨fun h => absurd h.size (Nat.not_le.mpr hsize), _, rfl⟩
  rw [if_neg hsize]
  by_cases hcount : definition.header.constraints.maxSlots.toNat < record.slots.length
  · rw [if_pos hcount]
    exact .inr ⟨fun h => absurd h.slotCount (Nat.not_le.mpr hcount), _, rfl⟩
  rw [if_neg hcount]
  cases hevent : eventOf definition record with
  | none =>
    refine .inr ⟨fun h => ?_, _, rfl⟩
    obtain ⟨event, hmem, hid, -⟩ := h.event
    rw [(eventOf_eq_some hids).mpr ⟨hmem, hid⟩] at hevent
    cases hevent
  | some event =>
    obtain ⟨hmem, hid⟩ := (eventOf_eq_some hids).mp hevent
    dsimp only
    cases hslots : validateRecordSlots record event definition with
    | ok keys =>
      obtain ⟨groups, extension, hderives, -⟩ :=
        derives_of_validateRecordSlots (hwell event hmem) hslots
      exact .inl ⟨⟨Nat.not_lt.mp hsize, Nat.not_lt.mp hcount, event, hmem, hid, groups, extension,
        hderives⟩, keys, rfl⟩
    | error reason =>
      refine .inr ⟨fun h => ?_, reason, rfl⟩
      obtain ⟨event', hmem', hid', groups, extension, hderives⟩ := h.event
      rw [List.inj_on_of_nodup_map hids hmem hmem' (hid.trans hid'.symm),
        validateRecordSlots_of_derives (hwell event' hmem') hderives] at hslots
      cases hslots

end Schema

/-- **The validator accepts its grammar.** Against a definition that is itself accepted, a record of
any length is valid exactly if it conforms to the grammar; otherwise a placeholder is returned that
carries the identity of the record and all its slots. -/
theorem validate_record_iff {definition : DefinitionFile}
    (hdefinition : Schema.validateDefinition definition = .ok ()) (record : Record)
    (recordLen : ℕ) :
    ((∃ extensionKeys, Schema.validateRecord record recordLen definition = .valid extensionKeys) ↔
      record.Conforms recordLen definition) ∧
    (¬record.Conforms recordLen definition →
      ∃ reason, Schema.validateRecord record recordLen definition =
        .placeholder ⟨record.sourceId, record.eventTypeId, record.runId, record.seq, record.slots,
          reason⟩) := by
  rcases Schema.validateRecord_cases hdefinition record recordLen with
    ⟨hconforms, hvalid⟩ | ⟨hnot, reason, hplaceholder⟩
  · exact ⟨⟨fun _ => hconforms, fun _ => hvalid⟩, fun hnot => absurd hconforms hnot⟩
  · refine ⟨⟨fun ⟨keys, hvalid⟩ => ?_, fun h => absurd h hnot⟩, fun _ => ⟨reason, hplaceholder⟩⟩
    rw [hplaceholder] at hvalid
    cases hvalid

/-- A definition with the event of a changed value, and one value. -/
def levelDefinition : DefinitionFile where
  header := {
    wireVersion := 2
    semanticVersion := "1.0.0"
    profiles := ["Core"]
    conformanceLevel := "Core"
    caps := ⟨true, true⟩
    constraints := ⟨256, 16, .overwriteOldest⟩
    epochStrategy := .retain
    contentHash := "" }
  eventTypes := (canonicalEventType EVENT_VALUE_CHANGED).toList
  sources := []
  stateMachines := []
  conditions := []
  messageTemplates := []
  values := [⟨7, "Level", TY_DINT, 0, none, none, none⟩]
  units := []
  enumSets := []
  recipeDefinitions := []
  batchDefinitions := []
  materialDefinitions := []
  operatorDefinitions := []
  eSignatureMeanings := []
  severityScale := ⟨"default", ⟨1, 332⟩, ⟨333, 666⟩, ⟨667, 1000⟩⟩

/-- A record with the value, its new level, and a private slot. -/
def levelRecord : Record :=
  { Record.new 1000 1 0 5 EVENT_VALUE_CHANGED with
    slots := [⟨KEY_VALUE_ID, TY_UDINT, [7, 0, 0, 0]⟩, ⟨KEY_NEW_VALUE, TY_DINT, [1, 2, 3, 4]⟩,
      ⟨0x8001, TY_STRING, []⟩] }

/-- The record conforms to the grammar, because the validator accepts it. -/
theorem validate_record_iff_level :
    Schema.validateRecord levelRecord 72 levelDefinition = .valid [0x8001] ∧
      levelRecord.Conforms 72 levelDefinition := by
  have hvalid : Schema.validateRecord levelRecord 72 levelDefinition = .valid [0x8001] := by
    decide +kernel
  have hdefinition : Schema.validateDefinition levelDefinition = .ok () := rfl
  exact ⟨hvalid, (validate_record_iff hdefinition levelRecord 72).1.mp ⟨_, hvalid⟩⟩

end OpenOT
