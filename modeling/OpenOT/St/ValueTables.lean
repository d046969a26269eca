import OpenOT.Lib.KeyedTable
import OpenOT.St.Emissions

set_option relaxedAutoImplicit false
set_option autoImplicit false

/-!
# What the tables of values store

The four tables of values are one partial function, from a kind and a `ValueId` to the last value.
An operation that looks up the entry of a value, or opens one, leaves this function as it is; what
is kept when a record has been published sets it at one point.

## Main definitions

* `OpenOT.St.Value`, `OpenOT.St.LastValues` — a value of some kind, and what is stored of all.
* `OpenOT.St.Values.last` — what the tables store.
* `OpenOT.St.ValueKind.Stores` — the operations on a kind work on its part of what is stored.

## Main results

* `OpenOT.St.ValueKind.Stores.openValue`, `OpenOT.St.ValueKind.Stores.put` — an entry is opened,
  and written.
* `OpenOT.St.ValueKind.Stores.prepareValue`, `OpenOT.St.ValueKind.Stores.commandParameter` — a value
  is observed, and commanded.
-/

namespace OpenOT.St

open Rust

/-! ## The abstract store -/

/-- The kinds of values. -/
inductive Kind where
  | real
  | int
  | bits
  | string
  deriving DecidableEq

/-- A value of some kind. -/
inductive Value where
  | real (value : UInt32)
  | int (value : Int32)
  | bits (value : UInt64)
  | string (value : String96)
  deriving DecidableEq

/-- What is stored of values: for each kind, a partial function of the `ValueId`. -/
abbrev LastValues : Type := Kind → UInt32 → Option Value

/-- What is stored before the first call. -/
def LastValues.new : LastValues := fun _ _ => none

/-- A value is stored. -/
def LastValues.put (kind : Kind) (valueId : UInt32) (value : Value) (last : LastValues) :
    LastValues :=
  fun kind' valueId' =>
    if kind' = kind ∧ valueId' = valueId then some value else last kind' valueId'

lemma LastValues.put_self {kind : Kind} {valueId : UInt32} {value : Value} {last : LastValues} :
    last.put kind valueId value kind valueId = some value := if_pos ⟨rfl, rfl⟩

lemma LastValues.put_of_ne {kind kind' : Kind} {valueId valueId' : UInt32} {value : Value}
    {last : LastValues} (h : valueId' ≠ valueId) :
    last.put kind valueId value kind' valueId' = last kind' valueId' := if_neg fun h' => h h'.2

/-! ## The tables -/

section

variable {α β : Type}

/-- Whether an entry is that of a value. -/
def ValueState.isOf (valueId : UInt32) (state : ValueState α β) : Bool :=
  state.used && state.valueId == valueId

/-- The last value of an entry. -/
def ValueState.last (state : ValueState α β) : Option α :=
  if state.hasLast then some state.lastValue else none

/-- An entry belongs to one value. -/
lemma ValueState.isOf_inj (valueId valueId' : UInt32) (state : ValueState α β)
    (h : state.isOf valueId = true) (h' : state.isOf valueId' = true) : valueId = valueId' := by
  obtain ⟨-, hid⟩ := Bool.and_eq_true_iff.mp h
  obtain ⟨-, hid'⟩ := Bool.and_eq_true_iff.mp h'
  exact (eq_of_beq hid).symm.trans (eq_of_beq hid')

/-- The last value that a table stores for a `ValueId`. -/
def ValueKind.stored (kind : ValueKind α β) (values : Values) (valueId : UInt32) : Option α :=
  KeyedTable.lookup ValueState.isOf ValueState.last (kind.table values) valueId

end

/-- What the tables store. -/
def Values.last (values : Values) : LastValues
  | .real, valueId => (realKind.stored values valueId).map .real
  | .int, valueId => (intKind.stored values valueId).map .int
  | .bits, valueId => (bitsKind.stored values valueId).map .bits
  | .string, valueId => (stringKind.stored values valueId).map .string

/-- In each table, a value has at most one entry. -/
structure Values.Sound (values : Values) : Prop where
  real : KeyedTable.Distinct ValueState.isOf values.real
  int : KeyedTable.Distinct ValueState.isOf values.int
  bits : KeyedTable.Distinct ValueState.isOf values.bits
  string : KeyedTable.Distinct ValueState.isOf values.string

/-- The operations on a kind work on its part of what is stored, and leave the others alone. -/
structure ValueKind.Stores {α β : Type} (kind : ValueKind α β) (tag : Kind) (wrap : α → Value) :
    Prop where
  table : ∀ table values, kind.table (kind.setTable table values) = table
  setTable : ∀ table table' values,
    kind.setTable table (kind.setTable table' values) = kind.setTable table values
  last : ∀ (values : Values) valueId,
    values.last tag valueId = (kind.stored values valueId).map wrap
  others : ∀ table values other, other ≠ tag →
    (kind.setTable table values).last other = values.last other
  distinct : ∀ {values : Values}, values.Sound →
    KeyedTable.Distinct ValueState.isOf (kind.table values)
  sound : ∀ {table} {values : Values}, values.Sound →
    KeyedTable.Distinct ValueState.isOf table → (kind.setTable table values).Sound

lemma stores_real : realKind.Stores .real .real where
  table _ _ := rfl
  setTable _ _ _ := rfl
  last _ _ := rfl
  others _ _ other h := by cases other <;> first | rfl | exact absurd rfl h
  distinct h := h.real
  sound h hdistinct := { h with real := hdistinct }

lemma stores_int : intKind.Stores .int .int where
  table _ _ := rfl
  setTable _ _ _ := rfl
  last _ _ := rfl
  others _ _ other h := by cases other <;> first | rfl | exact absurd rfl h
  distinct h := h.int
  sound h hdistinct := { h with int := hdistinct }

lemma stores_bits : bitsKind.Stores .bits .bits where
  table _ _ := rfl
  setTable _ _ _ := rfl
  last _ _ := rfl
  others _ _ other h := by cases other <;> first | rfl | exact absurd rfl h
  distinct h := h.bits
  sound h hdistinct := { h with bits := hdistinct }

lemma stores_string : stringKind.Stores .string .string where
  table _ _ := rfl
  setTable _ _ _ := rfl
  last _ _ := rfl
  others _ _ other h := by cases other <;> first | rfl | exact absurd rfl h
  distinct h := h.string
  sound h hdistinct := { h with string := hdistinct }

/-- A table without entries. -/
lemma lookup_unused {α β : Type} {table : Vector (ValueState α β) 16}
    (h : ∀ i, (table.get i).used = false) : KeyedTable.Distinct ValueState.isOf table ∧
      ∀ valueId, KeyedTable.lookup ValueState.isOf ValueState.last table valueId = none := by
  have hnot : ∀ valueId i, ValueState.isOf valueId (table.get i) = false := fun valueId i => by
    rw [ValueState.isOf, h i, Bool.false_and]
  refine ⟨fun valueId i j hi => ?_, fun valueId => KeyedTable.lookup_eq_none (hnot valueId)⟩
  rw [hnot] at hi
  cases hi

/-- The tables before the first call. -/
lemma sound_new : Memory.new.values.Sound ∧ Memory.new.values.last = .new := by
  obtain ⟨hreal, hreal'⟩ := lookup_unused
    (show ∀ i, (Memory.new.values.real.get i).used = false by decide)
  obtain ⟨hint, hint'⟩ := lookup_unused
    (show ∀ i, (Memory.new.values.int.get i).used = false by decide)
  obtain ⟨hbits, hbits'⟩ := lookup_unused
    (show ∀ i, (Memory.new.values.bits.get i).used = false by decide)
  obtain ⟨hstring, hstring'⟩ := lookup_unused
    (show ∀ i, (Memory.new.values.string.get i).used = false by decide)
  refine ⟨⟨hreal, hint, hbits, hstring⟩, ?_⟩
  funext kind valueId
  cases kind with
  | real => exact congrArg (Option.map .real) (hreal' valueId)
  | int => exact congrArg (Option.map .int) (hint' valueId)
  | bits => exact congrArg (Option.map .bits) (hbits' valueId)
  | string => exact congrArg (Option.map .string) (hstring' valueId)

namespace ValueKind.Stores

variable {α β : Type} {kind : ValueKind α β} {tag : Kind} {wrap : α → Value} {values : Values}
  {valueId : UInt32} {index : Fin 16} {table : Vector (ValueState α β) 16}

/-- What is stored when a table has been replaced. -/
lemma last_setTable (h : kind.Stores tag wrap) {last : LastValues}
    (htag : ∀ valueId, last tag valueId =
      (KeyedTable.lookup ValueState.isOf ValueState.last table valueId).map wrap)
    (hothers : ∀ other, other ≠ tag → last other = values.last other) :
    (kind.setTable table values).last = last := by
  funext other valueId
  by_cases hother : other = tag
  · rw [hother, h.last, ValueKind.stored, h.table, htag]
  · rw [h.others _ _ _ hother, hothers other hother]

/-- **An entry is written.** -/
lemma put (h : kind.Stores tag wrap) (hsound : values.Sound) {state : ValueState α β} {value : α}
    (hof : ((kind.table values).get index).isOf valueId = true)
    (hstate : state.isOf valueId = true) (hlast : state.last = some value) :
    (kind.setTable ((kind.table values).set index state (entry_lt index)) values).Sound ∧
      (kind.setTable ((kind.table values).set index state (entry_lt index)) values).last =
        values.last.put tag valueId (wrap value) := by
  have hother : ∀ i, i ≠ index → ValueState.isOf valueId ((kind.table values).get i) = false := by
    intro i hne
    by_contra hi
    rw [Bool.not_eq_false] at hi
    exact hne (h.distinct hsound valueId i index hi hof)
  obtain ⟨hdistinct, hlookup⟩ := KeyedTable.lookup_set ValueState.last ValueState.isOf_inj
    (h.distinct hsound) hstate hother (.inl hof)
  refine ⟨h.sound hsound hdistinct, h.last_setTable (fun valueId' => ?_) fun other hne => ?_⟩
  · rw [hlookup, LastValues.put]
    by_cases heq : valueId' = valueId
    · rw [if_pos ⟨rfl, heq⟩, if_pos heq, hlast, Option.map_some]
    · rw [if_neg fun h' => heq h'.2, if_neg heq, h.last]
      rfl
  · funext valueId'
    exact if_neg fun h' => hne h'.1

/-- **An entry is opened**: what is stored stays. -/
lemma openValue (h : kind.Stores tag wrap) (hsound : values.Sound)
    (hopen : kind.openValue valueId values = some (index, table)) :
    (kind.setTable table values).Sound ∧ (kind.setTable table values).last = values.last ∧
      (table.get index).isOf valueId = true ∧
      values.last tag valueId = (table.get index).last.map wrap := by
  rcases openEntry_some hopen with ⟨hentry, rfl⟩ | ⟨hnone, hfree, rfl⟩
  · refine ⟨h.sound hsound (h.distinct hsound), h.last_setTable (h.last values) fun _ _ => rfl,
      hentry, ?_⟩
    rw [h.last]
    exact congrArg (Option.map wrap) (KeyedTable.lookup_eq (h.distinct hsound) hentry)
  · rw [KeyedTable.get_set, if_pos rfl]
    have hunused : ((kind.table values).get index).used = false := by simpa using hfree
    have hfree' : ∀ valueId', ValueState.isOf valueId' ((kind.table values).get index) = false :=
      fun valueId' => by rw [ValueState.isOf, hunused, Bool.false_and]
    have hnew : ValueState.isOf valueId { (kind.table values).get index with
        used := true
        valueId := valueId
        hasLast := false
        hasLastEmitSourceTime := false
        band := kind.noBand ((kind.table values).get index).band } = true := by
      simp [ValueState.isOf]
    have hmissing : KeyedTable.lookup ValueState.isOf ValueState.last (kind.table values) valueId =
        none := KeyedTable.lookup_eq_none hnone
    obtain ⟨hdistinct, hlookup⟩ := KeyedTable.lookup_set ValueState.last ValueState.isOf_inj
      (h.distinct hsound) hnew (fun i _ => hnone i) (.inr hfree')
    refine ⟨h.sound hsound hdistinct, h.last_setTable (fun valueId' => ?_) fun _ _ => rfl, hnew, ?_⟩
    · rw [hlookup, h.last]
      by_cases heq : valueId' = valueId
      · rw [if_pos heq, heq, ValueKind.stored, hmissing]
        rfl
      · rw [if_neg heq]
        rfl
    · rw [h.last, ValueKind.stored, hmissing]
      rfl

/-- **A value is observed**: looking up its entry leaves what is stored as it is, and the decision
is made on the last value. -/
lemma prepareValue (h : kind.Stores tag wrap) (arith : RealArith) (inputs : Inputs)
    (policySourceTime : UInt64) {memory : Memory} (hsound : memory.values.Sound) (valid : Bool) :
    (St.prepareValue kind valid arith inputs policySourceTime memory).memory.values.Sound ∧
      (St.prepareValue kind valid arith inputs policySourceTime memory).memory.values.last =
        memory.values.last ∧
      ((St.prepareValue kind valid arith inputs policySourceTime memory).plan = .refuse ∨
        ∃ index state, (kind.table (St.prepareValue kind valid arith inputs policySourceTime
            memory).memory.values).get index = state ∧ state.isOf inputs.valueId = true ∧
          memory.values.last tag inputs.valueId = state.last.map wrap ∧
          ((St.prepareValue kind valid arith inputs policySourceTime memory).plan = .finish ∧
              kind.changed arith inputs state = false ∨
            (St.prepareValue kind valid arith inputs policySourceTime memory).plan =
                .emit (kind.change inputs index state) ∧
              (inputs.samplingMode ≠ 1 → kind.changed arith inputs state = true))) := by
  unfold St.prepareValue
  by_cases hvalid : (!valid) = true
  · rw [if_pos hvalid]
    exact ⟨hsound, rfl, .inl rfl⟩
  rw [if_neg hvalid]
  cases hopen : kind.openValue inputs.valueId memory.values with
  | none => exact ⟨hsound, rfl, .inl rfl⟩
  | some entry =>
    obtain ⟨index, table⟩ := entry
    obtain ⟨hsound', hlast, hof, hstate⟩ := h.openValue hsound hopen
    dsimp only
    split_ifs with hzero hemit
    · exact ⟨hsound', hlast, .inl rfl⟩
    · refine ⟨hsound', hlast, .inr ⟨index, table.get index, ?_, hof, hstate, .inr ⟨rfl, ?_⟩⟩⟩
      · exact congrArg (fun table => table.get index) (h.table _ _)
      · intro hmode
        simpa [hmode] using hemit
    · refine ⟨hsound', hlast, .inr ⟨index, table.get index, ?_, hof, hstate, .inl ⟨rfl, ?_⟩⟩⟩
      · exact congrArg (fun table => table.get index) (h.table _ _)
      · rw [Bool.not_eq_true, Bool.or_eq_false_iff] at hemit
        exact hemit.1

/-- An observed value that has been published is stored. -/
lemma keep_change (h : kind.Stores tag wrap) {inputs : Inputs} (hsound : values.Sound)
    (hof : ((kind.table values).get index).isOf inputs.valueId = true)
    (state : ValueState α β) (sourceTime : UInt64) :
    ((kind.change inputs index state).keep sourceTime values).Sound ∧
      ((kind.change inputs index state).keep sourceTime values).last =
        values.last.put tag inputs.valueId (wrap (kind.value inputs)) :=
  h.put hsound hof hof rfl

/-- A commanded value that has been published is stored. -/
lemma keep_parameter (h : kind.Stores tag wrap) {inputs : Inputs} (hsound : values.Sound)
    (hof : ((kind.table values).get index).isOf inputs.valueId = true)
    (previous : α) (sourceTime : UInt64) :
    ((parameterEmission kind inputs index previous).keep sourceTime values).Sound ∧
      ((parameterEmission kind inputs index previous).keep sourceTime values).last =
        values.last.put tag inputs.valueId (wrap (kind.value inputs)) :=
  h.put hsound hof hof rfl

/-- **A value is commanded**: one that is not known is stored, one that is known stays. What becomes
of a change is left to the record. -/
lemma commandParameter (h : kind.Stores tag wrap) (arith : RealArith) (inputs : Inputs)
    {memory : Memory} (hsound : memory.values.Sound) {γ δ : Type} (written : ValueKind γ δ) :
    (∃ index, ((kind.table memory.values).get index).isOf inputs.valueId = true ∧
        memory.values.last tag inputs.valueId =
          some (wrap ((kind.table memory.values).get index).lastValue) ∧
        kind.ne arith (kind.value inputs) ((kind.table memory.values).get index).lastValue = true ∧
        St.commandParameter kind written arith inputs memory =
          emitParameter written inputs index memory) ∨
      (St.commandParameter kind written arith inputs memory).memory.values.Sound ∧
        ((St.commandParameter kind written arith inputs memory).plan = .refuse ∧
            (St.commandParameter kind written arith inputs memory).memory.values.last =
              memory.values.last ∨
          (St.commandParameter kind written arith inputs memory).plan = .finish ∧
            (St.commandParameter kind written arith inputs memory).memory.values.last =
              if memory.values.last tag inputs.valueId = none then
                memory.values.last.put tag inputs.valueId (wrap (kind.value inputs))
              else memory.values.last) := by
  unfold St.commandParameter
  cases hopen : kind.openValue inputs.valueId memory.values with
  | none => exact .inr ⟨hsound, .inl ⟨rfl, rfl⟩⟩
  | some entry =>
    obtain ⟨index, table⟩ := entry
    obtain ⟨hsound', hlast, hof, hstate⟩ := h.openValue hsound hopen
    dsimp only
    by_cases hknown : (table.get index).hasLast = true
    · have hsome : memory.values.last tag inputs.valueId =
          some (wrap (table.get index).lastValue) := by
        rw [hstate, ValueState.last, if_pos hknown, Option.map_some]
      have hsame : table = kind.table memory.values := by
        rcases openEntry_some hopen with ⟨-, hsame⟩ | ⟨-, -, hnew⟩
        · exact hsame
        · rw [hnew, KeyedTable.get_set, if_pos rfl] at hknown
          cases hknown
      rw [if_pos hknown]
      by_cases hne : kind.ne arith (kind.value inputs) (table.get index).lastValue = true
      · rw [if_pos hne]
        exact .inl ⟨index, hsame ▸ hof, hsame ▸ hsome, hsame ▸ hne, rfl⟩
      · rw [if_neg hne]
        exact .inr ⟨hsound, .inr ⟨rfl, (if_neg (by rw [hsome]; exact Option.some_ne_none _)).symm⟩⟩
    · have hnone : memory.values.last tag inputs.valueId = none := by
        rw [hstate, ValueState.last, if_neg hknown, Option.map_none]
      rw [if_neg hknown, if_pos hnone]
      have hof' : ((kind.table (kind.setTable table memory.values)).get index).isOf
          inputs.valueId = true := by rw [h.table]; exact hof
      have hstored : ValueState.isOf inputs.valueId { table.get index with
          hasLast := true
          lastValue := kind.value inputs } = true := hof
      obtain ⟨hsound'', hlast''⟩ := h.put hsound' hof' hstored rfl
      rw [h.table, h.setTable] at hsound'' hlast''
      rw [hlast] at hlast''
      exact .inr ⟨hsound'', .inr ⟨rfl, hlast''⟩⟩

end ValueKind.Stores

end OpenOT.St
