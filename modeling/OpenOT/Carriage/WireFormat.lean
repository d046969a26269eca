import OpenOT.Carriage.Wire
import Mathlib.Tactic.IntervalCases
import Mathlib.Tactic.Tauto

set_option relaxedAutoImplicit false
set_option autoImplicit false

/-!
# The wire format is exact

The encoder's image and the decoder's accepted language are the same set of byte strings, with
one encoding per record: `decode` inverts `encode` in front of any suffix, and every accepted
prefix is the encoding of the record it decodes to.

## Main definitions

* `OpenOT.Slot.bytes`, `OpenOT.slotArea`, `OpenOT.Record.bytes` — the format, as a concatenation
  of fields.
* `OpenOT.Record.Encodable` — the two length limits of the format.
* `OpenOT.Decodes` — the byte strings that are exactly one accepted record.

## Main results

* `OpenOT.encode_eq_ok_iff` — the encoder writes `Record.bytes`, exactly on encodable records.
* `OpenOT.decode_bytes` — decoding an encoded record in front of any suffix.
* `OpenOT.decode_eq_ok` — what an accepted byte string looks like.
* `OpenOT.validateRecord_ne_panic`, `OpenOT.decode_ne_panic` — no access out of range.
* `OpenOT.wire_format_exact` — round trip, canonical encodings, and when encoding fails.
* `OpenOT.Decodes.header` — what a reader finds at the front of a record.
-/

namespace OpenOT

open Rust

/-! ## The format -/

/-- The bytes of a slot. -/
def Slot.bytes (slot : Slot) : Bytes :=
  toLe 2 slot.key.toNat ++ ([slot.ty, UInt8.ofNat slot.payload.length] ++
    (slot.payload ++ List.replicate (paddingLen slot.payload.length) 0))

/-- The bytes of a list of slots. -/
def slotArea : List Slot → Bytes
  | [] => []
  | slot :: slots => slot.bytes ++ slotArea slots

/-- The encoded length of a record. -/
def Record.encodedLen (record : Record) (withCrc : Bool) : ℕ :=
  HEADER_LEN + (slotArea record.slots).length + (if withCrc then CRC_LEN else 0)

/-- The forty header bytes. -/
def Record.header (record : Record) (totalLen : ℕ) (flags : UInt16) : Bytes :=
  SYNC ++ toLe 2 totalLen ++ toLe 2 flags.toNat ++ toLe 8 record.sourceTime.toNat ++
    toLe 8 record.runId.toNat ++ toLe 8 record.seq.toNat ++ toLe 4 record.sourceId.toNat ++
    toLe 4 record.eventTypeId.toNat

/-- Header and slots: the part the checksum covers. -/
def Record.body (record : Record) (withCrc : Bool) : Bytes :=
  record.header (record.encodedLen withCrc) (crcFlags record.flags withCrc) ++
    slotArea record.slots

/-- The bytes of a record. -/
def Record.bytes (record : Record) (withCrc : Bool) : Bytes :=
  record.body withCrc ++
    (if withCrc then toLe 4 (crc32c (record.body withCrc)).toNat else [])

/-- The limits of the format: one-byte payload lengths and a two-byte total length. -/
structure Record.Encodable (record : Record) (withCrc : Bool) : Prop where
  payload_le : ∀ slot ∈ record.slots, slot.payload.length ≤ 255
  total_le : record.encodedLen withCrc ≤ 65535

@[simp] lemma length_slot_bytes (slot : Slot) :
    slot.bytes.length = 4 + slot.payload.length + paddingLen slot.payload.length := by
  simp [Slot.bytes]
  omega

@[simp] lemma length_header (record : Record) (totalLen : ℕ) (flags : UInt16) :
    (record.header totalLen flags).length = HEADER_LEN := by
  simp [Record.header, SYNC, HEADER_LEN]

@[simp] lemma length_body (record : Record) (withCrc : Bool) :
    (record.body withCrc).length = HEADER_LEN + (slotArea record.slots).length := by
  simp [Record.body]

@[simp] lemma length_bytes (record : Record) (withCrc : Bool) :
    (record.bytes withCrc).length = record.encodedLen withCrc := by
  cases withCrc <;> simp [Record.bytes, Record.encodedLen, CRC_LEN]

/-- The bytes of slots behind slots. -/
lemma slotArea_append (slots more : List Slot) :
    slotArea (slots ++ more) = slotArea slots ++ slotArea more := by
  induction slots with
  | nil => rfl
  | cons slot slots ih => rw [List.cons_append, slotArea, slotArea, ih, List.append_assoc]

/-! ## The encoder writes the format -/

/-- The first loop returns the length of the slot area, or the first oversized slot. -/
lemma slotsLen_eq (slots : List Slot) (len : ℕ) :
    (∀ slot ∈ slots, slot.payload.length ≤ 255) ∧
        slotsLen slots len = .ok (len + (slotArea slots).length) ∨
      (∃ slot ∈ slots, 255 < slot.payload.length) ∧ ∃ e, slotsLen slots len = .err e := by
  induction slots generalizing len with
  | nil => left; simp [slotsLen, slotArea]
  | cons slot slots ih =>
    by_cases hs : 255 < slot.payload.length
    · right
      exact ⟨⟨slot, by simp, hs⟩, _, by simp only [slotsLen, Slot.encodedLen, if_pos hs]; rfl⟩
    · have hstep : slotsLen (slot :: slots) len = slotsLen slots (len + slot.bytes.length) := by
        simp [slotsLen, Slot.encodedLen, if_neg hs]
      rw [hstep]
      rcases ih (len + slot.bytes.length) with ⟨hall, hok⟩ | ⟨⟨bad, hmem, hbad⟩, herr⟩
      · left
        refine ⟨List.forall_mem_cons.mpr ⟨by omega, hall⟩, ?_⟩
        rw [hok, slotArea, List.length_append, Nat.add_assoc]
      · right
        exact ⟨⟨bad, List.mem_cons_of_mem _ hmem, hbad⟩, herr⟩

/-- The second loop appends the slot area. -/
lemma encodeSlots_eq {slots : List Slot} (h : ∀ slot ∈ slots, slot.payload.length ≤ 255)
    (out : Bytes) : encodeSlots slots out = .ok (out ++ slotArea slots) := by
  induction slots generalizing out with
  | nil => simp [encodeSlots, slotArea]
  | cons slot slots ih =>
    obtain ⟨hs, hslots⟩ := List.forall_mem_cons.mp h
    simp only [encodeSlots, Slot.encodeInto, if_neg (by omega : ¬255 < slot.payload.length),
      Outcome.ok_bind, ih hslots]
    simp [slotArea, Slot.bytes]

/-- The encoder returns the bytes of the format on an encodable record. -/
lemma encode_of_encodable {record : Record} {withCrc : Bool} (h : record.Encodable withCrc) :
    record.encode withCrc = .ok (record.bytes withCrc) := by
  rcases slotsLen_eq record.slots 0 with ⟨hall, hlen⟩ | ⟨⟨slot, hmem, hbad⟩, -⟩
  · have htotal : ¬65535 < HEADER_LEN + (0 + (slotArea record.slots).length) +
        (if withCrc then CRC_LEN else 0) := by
      have := h.total_le
      unfold Record.encodedLen at this
      omega
    simp only [Record.encode, hlen, Outcome.ok_bind, if_neg htotal, encodeSlots_eq hall,
      Outcome.pure_eq]
    cases withCrc <;> simp [Record.bytes, Record.body, Record.header, Record.encodedLen]
  · have := h.payload_le slot hmem
    omega

/-- The encoder returns an error on a record outside the limits. -/
lemma encode_of_not_encodable {record : Record} {withCrc : Bool} (h : ¬record.Encodable withCrc) :
    ∃ e, record.encode withCrc = .err e := by
  rcases slotsLen_eq record.slots 0 with ⟨hall, hlen⟩ | ⟨-, e, herr⟩
  · have htotal : 65535 < HEADER_LEN + (0 + (slotArea record.slots).length) +
        (if withCrc then CRC_LEN else 0) := by
      by_contra hle
      exact h ⟨hall, by unfold Record.encodedLen; omega⟩
    exact ⟨_, by simp only [Record.encode, hlen, Outcome.ok_bind, if_pos htotal]; rfl⟩
  · exact ⟨e, by simp only [Record.encode, herr, Outcome.err_bind]⟩

/-- **The encoder writes the format**: it returns exactly on encodable records, and there it
returns their bytes. -/
lemma encode_eq_ok_iff {record : Record} {withCrc : Bool} {bytes : Bytes} :
    record.encode withCrc = .ok bytes ↔ record.Encodable withCrc ∧ bytes = record.bytes withCrc := by
  constructor
  · intro h
    by_cases henc : record.Encodable withCrc
    · rw [encode_of_encodable henc, Outcome.ok.injEq] at h
      exact ⟨henc, h.symm⟩
    · obtain ⟨e, he⟩ := encode_of_not_encodable henc
      rw [he] at h
      cases h
  · rintro ⟨henc, rfl⟩
    exact encode_of_encodable henc

/-! ## The slot walk accepts exactly slot areas -/

/-- The padding brings a slot to a multiple of four bytes. -/
lemma paddingLen_spec (n : ℕ) : (n + paddingLen n) % 4 = 0 ∧ paddingLen n < 4 := by
  unfold paddingLen
  omega

/-- The four slot header bytes, seen behind a prefix. -/
lemma slot_header_getElem (pre rest : Bytes) (slot : Slot) :
    (pre ++ (slot.bytes ++ rest))[pre.length + 2]? = some slot.ty ∧
      (pre ++ (slot.bytes ++ rest))[pre.length + 3]? =
        some (UInt8.ofNat slot.payload.length) := by
  have htwo : (toLe 2 slot.key.toNat).length = 2 := length_toLe _ _
  constructor
  · rw [List.getElem?_append_right (by omega), Nat.add_sub_cancel_left, Slot.bytes,
      List.append_assoc, List.getElem?_append_right (by omega), htwo]
    rfl
  · rw [List.getElem?_append_right (by omega), Nat.add_sub_cancel_left, Slot.bytes,
      List.append_assoc, List.getElem?_append_right (by omega), htwo]
    rfl

/-- A payload length that fits one byte is read back from it. -/
lemma toNat_payload_len {slot : Slot} (h : slot.payload.length ≤ 255) :
    (UInt8.ofNat slot.payload.length).toNat = slot.payload.length := by
  rw [UInt8.toNat_ofNat', Nat.mod_eq_of_lt (by omega)]

/-- Key, payload and padding of a slot, seen behind a prefix. -/
lemma slot_fields (pre rest : Bytes) (slot : Slot) :
    ((pre ++ (slot.bytes ++ rest)).drop pre.length).take 2 = toLe 2 slot.key.toNat ∧
      ((pre ++ (slot.bytes ++ rest)).take (pre.length + 4 + slot.payload.length)).drop
          (pre.length + 4) = slot.payload ∧
      ((pre ++ (slot.bytes ++ rest)).take (pre.length + slot.bytes.length)).drop
          (pre.length + 4 + slot.payload.length) =
        List.replicate (paddingLen slot.payload.length) 0 := by
  refine ⟨?_, ?_, ?_⟩
  · rw [Slot.bytes, List.append_assoc]
    exact take_drop_append _ _ _ rfl (length_toLe _ _).symm
  · have h := take_drop_append (pre ++ (toLe 2 slot.key.toNat ++
      [slot.ty, UInt8.ofNat slot.payload.length])) slot.payload
      (List.replicate (paddingLen slot.payload.length) 0 ++ rest)
      (o := pre.length + 4) (w := slot.payload.length) (by simp) rfl
    rw [List.drop_take, Nat.add_sub_cancel_left]
    simpa [Slot.bytes] using h
  · have h := take_drop_append (pre ++ (toLe 2 slot.key.toNat ++
      ([slot.ty, UInt8.ofNat slot.payload.length] ++ slot.payload)))
      (List.replicate (paddingLen slot.payload.length) 0) rest
      (o := pre.length + 4 + slot.payload.length) (w := paddingLen slot.payload.length)
      (by simp; omega) (by simp)
    rw [List.drop_take, length_slot_bytes]
    rw [show pre.length + (4 + slot.payload.length + paddingLen slot.payload.length) -
      (pre.length + 4 + slot.payload.length) = paddingLen slot.payload.length by omega]
    simpa [Slot.bytes] using h

/-- The walk accepts a slot area, wherever it stands.

**Proof sketch.** Induction on the slots: the walk reads the length byte of the first slot
(`slot_header_getElem`), finds its padding zero (`slot_fields`) and goes on behind it, where
the prefix has grown by the slot. -/
lemma validateSlots_slotArea {slots : List Slot} (h : ∀ slot ∈ slots, slot.payload.length ≤ 255)
    (pre rest : Bytes) :
    validateSlots (pre ++ (slotArea slots ++ rest)) (pre.length + (slotArea slots).length)
      pre.length = .ok () := by
  induction slots generalizing pre with
  | nil => rw [validateSlots]; simp [slotArea]
  | cons slot slots ih =>
    obtain ⟨hs, hslots⟩ := List.forall_mem_cons.mp h
    have hpad := paddingLen_spec slot.payload.length
    have hassoc : pre ++ (slotArea (slot :: slots) ++ rest) =
        pre ++ (slot.bytes ++ (slotArea slots ++ rest)) := by
      rw [slotArea, List.append_assoc]
    have hlen : (slotArea (slot :: slots)).length = slot.bytes.length + (slotArea slots).length := by
      rw [slotArea, List.length_append]
    have hrec := ih hslots (pre ++ slot.bytes)
    rw [List.length_append, List.append_assoc] at hrec
    rw [hassoc, hlen, ← Nat.add_assoc]
    obtain ⟨-, -, hzero⟩ := slot_fields pre (slotArea slots ++ rest) slot
    have hslice : (slice (pre ++ (slot.bytes ++ (slotArea slots ++ rest)))
        (pre.length + 4 + slot.payload.length) (pre.length + slot.bytes.length) :
          Outcome WireError Bytes) =
        .ok (List.replicate (paddingLen slot.payload.length) 0) := by
      rw [slice_eq_ok, hzero]
      simp
      omega
    have hnext : pre.length + 4 + slot.payload.length + paddingLen slot.payload.length =
        pre.length + slot.bytes.length := by simp; omega
    have hindex : (index (pre ++ (slot.bytes ++ (slotArea slots ++ rest))) (pre.length + 3) :
        Outcome WireError UInt8) = .ok (UInt8.ofNat slot.payload.length) :=
      index_eq_ok.mpr (slot_header_getElem pre _ slot).2
    rw [validateSlots, if_pos (by simp; omega), if_neg (by simp; omega), hindex]
    simp only [Outcome.ok_bind, toNat_payload_len hs]
    rw [if_neg (by simp; omega), hnext, if_neg (by omega), hslice]
    simp only [Outcome.ok_bind]
    rw [show (List.replicate (paddingLen slot.payload.length) (0 : UInt8)).findIdx? (· != 0) =
      none by simp]
    exact hrec

/-- The slot loop of the decoder reads a slot area back. -/
lemma decodeSlots_slotArea {slots : List Slot} (h : ∀ slot ∈ slots, slot.payload.length ≤ 255)
    (pre rest : Bytes) :
    decodeSlots (pre ++ (slotArea slots ++ rest)) (pre.length + (slotArea slots).length)
      pre.length = .ok slots := by
  induction slots generalizing pre with
  | nil => rw [decodeSlots]; simp [slotArea]
  | cons slot slots ih =>
    obtain ⟨hs, hslots⟩ := List.forall_mem_cons.mp h
    have hassoc : pre ++ (slotArea (slot :: slots) ++ rest) =
        pre ++ (slot.bytes ++ (slotArea slots ++ rest)) := by
      rw [slotArea, List.append_assoc]
    have hlen : (slotArea (slot :: slots)).length = slot.bytes.length + (slotArea slots).length := by
      rw [slotArea, List.length_append]
    have hrec := ih hslots (pre ++ slot.bytes)
    rw [List.length_append, List.append_assoc] at hrec
    rw [hassoc, hlen, ← Nat.add_assoc]
    obtain ⟨hkey, hpayload, -⟩ := slot_fields pre (slotArea slots ++ rest) slot
    obtain ⟨hty, hlenByte⟩ := slot_header_getElem pre (slotArea slots ++ rest) slot
    have hnext : pre.length + 4 + slot.payload.length + paddingLen slot.payload.length =
        pre.length + slot.bytes.length := by simp; omega
    rw [decodeSlots, if_pos (by simp; omega), readU16_eq (by simp; omega), hkey,
      index_eq_ok.mpr hty, index_eq_ok.mpr hlenByte]
    simp only [Outcome.ok_bind, ofNat_fromLe_toLe_u16, toNat_payload_len hs]
    rw [slice_of_le (by omega) (by simp; omega), hpayload, hnext, hrec]
    rfl

/-- A turn of the walk that goes on: the length byte, the bounds and the zero padding. -/
lemma validateSlots_step {bytes : Bytes} {slotsEnd offset : ℕ} (hlt : offset < slotsEnd)
    (h : validateSlots bytes slotsEnd offset = .ok ()) :
    ∃ lenByte : UInt8, bytes[offset + 3]? = some lenByte ∧
      offset + 4 + lenByte.toNat + paddingLen lenByte.toNat ≤ slotsEnd ∧
      (∀ b ∈ (bytes.take (offset + 4 + lenByte.toNat + paddingLen lenByte.toNat)).drop
        (offset + 4 + lenByte.toNat), b = 0) ∧
      validateSlots bytes slotsEnd
        (offset + 4 + lenByte.toNat + paddingLen lenByte.toNat) = .ok () := by
  rw [validateSlots, if_pos hlt] at h
  split_ifs at h with hfour
  obtain ⟨lenByte, hidx, h⟩ := Outcome.bind_eq_ok.mp h
  simp only at h
  split_ifs at h with hpay hnext
  obtain ⟨pad, hpad, h⟩ := Outcome.bind_eq_ok.mp h
  obtain ⟨-, -, rfl⟩ := slice_eq_ok.mp hpad
  split at h
  · cases h
  · rename_i hzero
    refine ⟨lenByte, index_eq_ok.mp hidx, by omega, ?_, h⟩
    simpa [List.findIdx?_eq_none_iff] using hzero

/-- The bytes from `offset` on that a turn of the walk accepted are those of one slot. -/
lemma slot_of_fields {bytes : Bytes} {offset : ℕ} {lenByte : UInt8}
    (hidx : bytes[offset + 3]? = some lenByte)
    (hle : offset + 4 + lenByte.toNat + paddingLen lenByte.toNat ≤ bytes.length)
    (hzero : ∀ b ∈ (bytes.take (offset + 4 + lenByte.toNat + paddingLen lenByte.toNat)).drop
      (offset + 4 + lenByte.toNat), b = 0) :
    ∃ slot : Slot, slot.payload.length = lenByte.toNat ∧
      (bytes.take (offset + slot.bytes.length)).drop offset = slot.bytes := by
  set len := lenByte.toNat with hlen
  have hlt2 : offset + 2 < bytes.length := by omega
  have hlt3 : offset + 3 < bytes.length := by omega
  have hbyte3 : bytes[offset + 3] = lenByte := by
    rw [List.getElem?_eq_getElem hlt3, Option.some.injEq] at hidx
    exact hidx
  let slot : Slot := ⟨UInt16.ofNat (fromLe ((bytes.drop offset).take 2)), bytes[offset + 2],
    (bytes.drop (offset + 4)).take len⟩
  have hpay : slot.payload.length = len := by simp [slot]; omega
  refine ⟨slot, hpay, ?_⟩
  have hkey : toLe 2 slot.key.toNat = (bytes.drop offset).take 2 :=
    toLe_ofNat_fromLe_u16 (by simp; omega)
  have htwo : [slot.ty, UInt8.ofNat slot.payload.length] =
      (bytes.drop (offset + 2)).take 2 := by
    rw [List.drop_eq_getElem_cons hlt2, List.take_succ_cons, List.drop_eq_getElem_cons hlt3,
      List.take_succ_cons, List.take_zero, hpay, hlen, UInt8.ofNat_toNat, hbyte3]
  have hpadding : List.replicate (paddingLen slot.payload.length) (0 : UInt8) =
      (bytes.drop (offset + 4 + len)).take (paddingLen len) := by
    rw [hpay]
    refine (List.eq_replicate_iff.mpr ⟨by simp; omega, fun b hb => hzero b ?_⟩).symm
    rwa [List.drop_take, Nat.add_sub_cancel_left]
  rw [List.drop_take, Nat.add_sub_cancel_left, length_slot_bytes, hpay, Slot.bytes, hkey, htwo,
    hpadding]
  rw [show 4 + len + paddingLen len = 2 + (2 + (len + paddingLen len)) by omega, List.take_add,
    List.take_add, List.take_add, List.drop_drop, List.drop_drop, List.drop_drop]

/-- **What the walk accepts is a slot area.**

**Proof sketch.** Induction on the bytes that remain. A turn that goes on consumes the bytes of
one slot (`validateSlots_step`, `slot_of_fields`); at the end the walk stands exactly on
`slotsEnd`, because no turn passes it. -/
lemma exists_slotArea_of_validateSlots {bytes : Bytes} {slotsEnd : ℕ}
    (hend : slotsEnd ≤ bytes.length) :
    ∀ (n offset : ℕ), slotsEnd - offset ≤ n → offset ≤ slotsEnd →
      validateSlots bytes slotsEnd offset = .ok () →
      ∃ slots : List Slot, (∀ slot ∈ slots, slot.payload.length ≤ 255) ∧
        (bytes.take slotsEnd).drop offset = slotArea slots := by
  intro n
  induction n with
  | zero =>
    intro offset hn hle _
    refine ⟨[], by simp, ?_⟩
    rw [show offset = slotsEnd by omega]
    simp [slotArea]
  | succ n ih =>
    intro offset hn hle h
    rcases Nat.lt_or_ge offset slotsEnd with hlt | hge
    · obtain ⟨lenByte, hidx, hnext, hzero, hrest⟩ := validateSlots_step hlt h
      obtain ⟨slot, hpay, hslot⟩ := slot_of_fields hidx (by omega) hzero
      have hlen : offset + slot.bytes.length =
          offset + 4 + lenByte.toNat + paddingLen lenByte.toNat := by
        rw [length_slot_bytes, hpay]
        omega
      obtain ⟨slots, hslots, harea⟩ := ih _ (by omega) hnext hrest
      refine ⟨slot :: slots, List.forall_mem_cons.mpr ⟨?_, hslots⟩, ?_⟩
      · have := lenByte.toNat_lt
        omega
      · rw [slotArea, ← harea, ← hslot, hlen, List.drop_take, List.drop_take, List.drop_take,
          show slotsEnd - offset = (offset + 4 + lenByte.toNat + paddingLen lenByte.toNat -
            offset) + (slotsEnd - (offset + 4 + lenByte.toNat + paddingLen lenByte.toNat)) by omega,
          List.take_add, List.drop_drop]
        congr 3
        omega
    · refine ⟨[], by simp, ?_⟩
      rw [show offset = slotsEnd by omega]
      simp [slotArea]

/-- The walk stays inside the byte string as long as `slotsEnd` does. -/
lemma validateSlots_ne_panic {bytes : Bytes} {slotsEnd : ℕ} (hend : slotsEnd ≤ bytes.length) :
    ∀ (n offset : ℕ), slotsEnd - offset ≤ n →
      validateSlots bytes slotsEnd offset ≠ .panic := by
  intro n
  induction n with
  | zero =>
    intro offset hn
    rw [validateSlots, if_neg (by omega)]
    simp
  | succ n ih =>
    intro offset hn
    rw [validateSlots]
    split_ifs with hlt hfour
    · simp
    · rw [index_of_lt (by omega), Outcome.ok_bind]
      simp only
      split_ifs with hpay hnext
      · simp
      · simp
      · rw [slice_of_le (by omega) (by omega), Outcome.ok_bind]
        split
        · simp
        · exact ih _ (by omega)
    · simp

/-! ## The `HasCrc` flag -/

/-- `HasCrc` is bit 3. -/
lemma getLsbD_FLAG_HAS_CRC (i : ℕ) : FLAG_HAS_CRC.toBitVec.getLsbD i = decide (i = 3) := by
  change (8#16).getLsbD i = _
  by_cases h : i < 16
  · interval_cases i <;> rfl
  · rw [BitVec.getLsbD_of_ge _ _ (by omega)]
    simp
    omega

/-- The flag test of the source looks at bit 3. -/
lemma hasCrc_iff (flags : UInt16) :
    flags &&& FLAG_HAS_CRC ≠ 0 ↔ flags.toBitVec.getLsbD 3 = true := by
  rw [Ne, ← UInt16.toBitVec_inj]
  constructor
  · intro h
    by_contra hbit
    rw [Bool.not_eq_true] at hbit
    apply h
    apply BitVec.eq_of_getLsbD_eq
    intro i _
    simp only [UInt16.toBitVec_and, BitVec.getLsbD_and, getLsbD_FLAG_HAS_CRC,
      UInt16.toBitVec_zero, BitVec.getLsbD_zero]
    by_cases h3 : i = 3
    · rw [h3, hbit, Bool.false_and]
    · simp only [h3, decide_false, Bool.and_false]
  · intro hbit h
    have := congrArg (fun v => v.getLsbD 3) h
    simp only [UInt16.toBitVec_and, BitVec.getLsbD_and, getLsbD_FLAG_HAS_CRC, hbit, decide_true,
      Bool.true_and] at this
    exact absurd this (by decide)

/-- Writing the flag changes bit 3 only. -/
lemma getLsbD_crcFlags (flags : UInt16) (withCrc : Bool) {i : ℕ} (hi : i < 16) :
    (crcFlags flags withCrc).toBitVec.getLsbD i =
      if i = 3 then withCrc else flags.toBitVec.getLsbD i := by
  unfold crcFlags
  cases withCrc with
  | false =>
    simp only [Bool.false_eq_true, if_false, UInt16.toBitVec_and, UInt16.toBitVec_not,
      BitVec.getLsbD_and, BitVec.getLsbD_not, getLsbD_FLAG_HAS_CRC, hi, decide_true, Bool.true_and]
    by_cases h3 : i = 3 <;>
      simp only [h3, decide_true, decide_false, Bool.not_true, Bool.not_false, Bool.and_false,
        Bool.and_true, if_true, if_false]
  | true =>
    simp only [if_true, UInt16.toBitVec_or, BitVec.getLsbD_or, getLsbD_FLAG_HAS_CRC]
    by_cases h3 : i = 3 <;>
      simp only [h3, decide_true, decide_false, Bool.or_false, Bool.or_true, if_true, if_false]

/-- The flag read back says whether there is a trailer. -/
lemma hasCrc_crcFlags (flags : UInt16) (withCrc : Bool) :
    crcFlags flags withCrc &&& FLAG_HAS_CRC ≠ 0 ↔ withCrc = true := by
  rw [hasCrc_iff, getLsbD_crcFlags _ _ (by decide), if_pos rfl]

/-- Flags whose bit 3 already says whether there is a trailer are written unchanged. -/
lemma crcFlags_self (flags : UInt16) :
    crcFlags flags (decide (flags &&& FLAG_HAS_CRC ≠ 0)) = flags := by
  rw [← UInt16.toBitVec_inj]
  apply BitVec.eq_of_getLsbD_eq
  intro i hi
  rw [getLsbD_crcFlags _ _ hi]
  split_ifs with h3
  · subst h3
    simp only [hasCrc_iff]
    simp
  · rfl

/-! ## Header fields -/

section Header

variable (record : Record) (totalLen : ℕ) (flags : UInt16) (rest : Bytes)

/-- The sync bytes come first. -/
lemma header_sync : ((record.header totalLen flags ++ rest).take 4).drop 0 = SYNC := by
  simp [Record.header, SYNC]

/-- The fields of a header, each at its offset. -/
lemma header_fields :
    ((record.header totalLen flags ++ rest).drop 4).take 2 = toLe 2 totalLen ∧
    ((record.header totalLen flags ++ rest).drop 6).take 2 = toLe 2 flags.toNat ∧
    ((record.header totalLen flags ++ rest).drop 8).take 8 = toLe 8 record.sourceTime.toNat ∧
    ((record.header totalLen flags ++ rest).drop 16).take 8 = toLe 8 record.runId.toNat ∧
    ((record.header totalLen flags ++ rest).drop 24).take 8 = toLe 8 record.seq.toNat ∧
    ((record.header totalLen flags ++ rest).drop 32).take 4 = toLe 4 record.sourceId.toNat ∧
    ((record.header totalLen flags ++ rest).drop 36).take 4 = toLe 4 record.eventTypeId.toNat := by
  -- each field follows the ones before it, whose lengths add up to its offset
  simp only [Record.header, List.append_assoc]
  refine ⟨take_drop_append SYNC _ _ rfl (by simp),
    ?_, ?_, ?_, ?_, ?_, ?_⟩
  · simpa using take_drop_append (SYNC ++ toLe 2 totalLen) (toLe 2 flags.toNat) _
      (by simp [SYNC]) (by simp)
  · simpa using take_drop_append (SYNC ++ toLe 2 totalLen ++ toLe 2 flags.toNat)
      (toLe 8 record.sourceTime.toNat) _ (by simp [SYNC]) (by simp)
  · simpa using take_drop_append (SYNC ++ toLe 2 totalLen ++ toLe 2 flags.toNat ++
      toLe 8 record.sourceTime.toNat) (toLe 8 record.runId.toNat) _ (by simp [SYNC]) (by simp)
  · simpa using take_drop_append (SYNC ++ toLe 2 totalLen ++ toLe 2 flags.toNat ++
      toLe 8 record.sourceTime.toNat ++ toLe 8 record.runId.toNat) (toLe 8 record.seq.toNat) _
      (by simp [SYNC]) (by simp)
  · simpa using take_drop_append (SYNC ++ toLe 2 totalLen ++ toLe 2 flags.toNat ++
      toLe 8 record.sourceTime.toNat ++ toLe 8 record.runId.toNat ++ toLe 8 record.seq.toNat)
      (toLe 4 record.sourceId.toNat) _ (by simp [SYNC]) (by simp)
  · simpa using take_drop_append (SYNC ++ toLe 2 totalLen ++ toLe 2 flags.toNat ++
      toLe 8 record.sourceTime.toNat ++ toLe 8 record.runId.toNat ++ toLe 8 record.seq.toNat ++
      toLe 4 record.sourceId.toNat) (toLe 4 record.eventTypeId.toNat) _ (by simp [SYNC]) (by simp)

end Header

/-- Forty bytes that start with the sync marker are the header of the fields they hold. -/
lemma header_of_take {bytes : Bytes} (hlen : HEADER_LEN ≤ bytes.length)
    (hsync : bytes.take 4 = SYNC) :
    ∃ (record : Record) (totalLen flags : UInt16),
      record.flags = flags ∧ bytes.take HEADER_LEN = record.header totalLen.toNat flags := by
  unfold HEADER_LEN at hlen
  let field (o w : ℕ) : Bytes := (bytes.drop o).take w
  have hfield : ∀ o w, o + w ≤ 40 → (field o w).length = w := by
    intro o w h
    simp [field]
    omega
  refine ⟨⟨UInt16.ofNat (fromLe (field 6 2)), UInt64.ofNat (fromLe (field 8 8)),
    UInt64.ofNat (fromLe (field 16 8)), UInt64.ofNat (fromLe (field 24 8)),
    UInt32.ofNat (fromLe (field 32 4)), UInt32.ofNat (fromLe (field 36 4)), []⟩,
    UInt16.ofNat (fromLe (field 4 2)), UInt16.ofNat (fromLe (field 6 2)), rfl, ?_⟩
  simp only [Record.header]
  rw [toLe_ofNat_fromLe_u16 (hfield 4 2 (by omega)), toLe_ofNat_fromLe_u16 (hfield 6 2 (by omega)),
    toLe_ofNat_fromLe_u64 (hfield 8 8 (by omega)), toLe_ofNat_fromLe_u64 (hfield 16 8 (by omega)),
    toLe_ofNat_fromLe_u64 (hfield 24 8 (by omega)), toLe_ofNat_fromLe_u32 (hfield 32 4 (by omega)),
    toLe_ofNat_fromLe_u32 (hfield 36 4 (by omega)), ← hsync]
  have hsplit : bytes.take 40 = bytes.take (4 + (2 + (2 + (8 + (8 + (8 + (4 + 4))))))) := rfl
  rw [HEADER_LEN, hsplit]
  simp only [field, List.take_add, List.drop_drop, List.append_assoc]

/-! ## Records -/

/-- The record a decoder returns for `record`: its `HasCrc` flag says whether there was a
trailer, all else is unchanged. -/
def Record.withCrcFlag (record : Record) (withCrc : Bool) : Record :=
  { record with flags := crcFlags record.flags withCrc }

/-- An encodable record is accepted in front of any suffix.

**Proof sketch.** The header fields are read back at their offsets (`header_fields`), the
trailer holds the checksum of what stands before it, and the slot walk accepts the slot area
between the two (`validateSlots_slotArea`). -/
lemma validateRecord_bytes {record : Record} {withCrc : Bool} (h : record.Encodable withCrc)
    (rest : Bytes) :
    validateRecord (record.bytes withCrc ++ rest) = .ok (record.encodedLen withCrc) := by
  set total := record.encodedLen withCrc with htotal
  set flags := crcFlags record.flags withCrc with hflags
  obtain ⟨trailer, htrailer⟩ : ∃ trailer : Bytes, trailer =
      (if withCrc then toLe 4 (crc32c (record.body withCrc)).toNat else []) := ⟨_, rfl⟩
  have hshape : record.bytes withCrc ++ rest =
      record.header total flags ++ (slotArea record.slots ++ (trailer ++ rest)) := by
    simp [Record.bytes, Record.body, htrailer, total, flags]
  have hbody : record.header total flags ++ slotArea record.slots = record.body withCrc := rfl
  have htotal_le := h.total_le
  have hlen : (record.bytes withCrc ++ rest).length = total + rest.length := by
    rw [List.length_append, length_bytes]
  have hge : HEADER_LEN ≤ total := by
    rw [htotal, Record.encodedLen]
    omega
  unfold HEADER_LEN at hge
  obtain ⟨htl, hfl, -⟩ := header_fields record total flags
    (slotArea record.slots ++ (trailer ++ rest))
  have hwalk : validateSlots (record.bytes withCrc ++ rest)
      (HEADER_LEN + (slotArea record.slots).length) HEADER_LEN = .ok () := by
    have := validateSlots_slotArea h.payload_le (record.header total flags) (trailer ++ rest)
    rwa [length_header, ← hshape] at this
  have htl' : (UInt16.ofNat (fromLe (toLe 2 total))).toNat = total := by
    rw [fromLe_toLe, Nat.mod_eq_of_lt (by norm_num; omega), UInt16.toNat_ofNat',
      Nat.mod_eq_of_lt (by norm_num; omega)]
  rw [validateRecord, if_neg (by rw [hlen, HEADER_LEN]; omega),
    slice_of_le (by omega) (by omega), hshape, header_sync, Outcome.ok_bind,
    if_neg (by simp), readU16_eq (by rw [← hshape]; omega), htl, Outcome.ok_bind, htl',
    if_neg (by rw [HEADER_LEN]; omega), if_neg (by rw [← hshape]; omega),
    readU16_eq (by rw [← hshape]; omega), hfl, Outcome.ok_bind, ofNat_fromLe_toLe_u16]
  have hcrcLen : ¬(flags &&& FLAG_HAS_CRC ≠ 0 ∧ total < HEADER_LEN + CRC_LEN) := by
    rintro ⟨hcrc, hlt⟩
    rw [hflags, hasCrc_crcFlags] at hcrc
    subst hcrc
    simp [total, Record.encodedLen] at hlt
  have hslotsEnd : verifiedSlotsEnd (record.bytes withCrc ++ rest) total flags =
      .ok (HEADER_LEN + (slotArea record.slots).length) := by
    simp only [verifiedSlotsEnd, hflags, hasCrc_crcFlags]
    cases withCrc with
    | false => simp [total, Record.encodedLen]
    | true =>
      have hend : total - CRC_LEN = HEADER_LEN + (slotArea record.slots).length := by
        simp [total, Record.encodedLen]
      have hfour : 4 ≤ total := by omega
      have hexpected : ((record.bytes true ++ rest).drop (total - CRC_LEN)).take 4 =
          toLe 4 (crc32c (record.body true)).toNat := by
        rw [hshape, htrailer, ← List.append_assoc]
        exact take_drop_append _ _ _ (by rw [hbody, length_body, hend]) (length_toLe _ _).symm
      have hcovered : ((record.bytes true ++ rest).take (total - CRC_LEN)).drop 0 =
          record.body true := by
        rw [List.drop_zero, hshape, ← List.append_assoc, hbody]
        exact List.take_left' (by rw [length_body, hend])
      rw [if_pos rfl, readU32_eq (by rw [hlen, CRC_LEN]; omega), hexpected,
        slice_of_le (by omega) (by rw [hlen]; omega), hcovered]
      simp only [Outcome.ok_bind, ofNat_fromLe_toLe_u32, ne_eq, not_true_eq_false, if_false, hend]
  rw [if_neg hcrcLen, ← hshape, hslotsEnd, Outcome.ok_bind, hwalk]
  rfl

/-- **Decoding inverts encoding** in front of any suffix. -/
lemma decode_bytes {record : Record} {withCrc : Bool} (h : record.Encodable withCrc)
    (rest : Bytes) :
    decode (record.bytes withCrc ++ rest) =
      .ok ⟨record.withCrcFlag withCrc, record.encodedLen withCrc⟩ := by
  set total := record.encodedLen withCrc with htotal
  set flags := crcFlags record.flags withCrc with hflags
  obtain ⟨trailer, htrailer⟩ : ∃ trailer : Bytes, trailer =
      (if withCrc then toLe 4 (crc32c (record.body withCrc)).toNat else []) := ⟨_, rfl⟩
  have hshape : record.bytes withCrc ++ rest =
      record.header total flags ++ (slotArea record.slots ++ (trailer ++ rest)) := by
    simp [Record.bytes, Record.body, htrailer, total, flags]
  have hlen : 40 ≤ (record.bytes withCrc ++ rest).length := by
    rw [List.length_append, length_bytes, Record.encodedLen, HEADER_LEN]
    omega
  obtain ⟨-, hfl, htime, hrun, hseq, hsource, hevent⟩ := header_fields record total flags
    (slotArea record.slots ++ (trailer ++ rest))
  have hend : (if flags &&& FLAG_HAS_CRC ≠ 0 then total - CRC_LEN else total) =
      HEADER_LEN + (slotArea record.slots).length := by
    simp only [hflags, hasCrc_crcFlags]
    cases withCrc <;> simp [total, Record.encodedLen]
  have hslots : decodeSlots (record.bytes withCrc ++ rest)
      (HEADER_LEN + (slotArea record.slots).length) HEADER_LEN = .ok record.slots := by
    have := decodeSlots_slotArea h.payload_le (record.header total flags) (trailer ++ rest)
    rwa [length_header, ← hshape] at this
  rw [decode, validateRecord_bytes h, Outcome.ok_bind, readU16_eq (by omega), hshape, hfl,
    Outcome.ok_bind, ofNat_fromLe_toLe_u16, ← htotal]
  dsimp only
  rw [hend, ← hshape, hslots, Outcome.ok_bind,
    readU64_eq (by omega), readU64_eq (by omega), readU64_eq (by omega), readU32_eq (by omega),
    readU32_eq (by omega), hshape, htime, hrun, hseq, hsource, hevent]
  simp [Record.withCrcFlag, hflags]

/-- The checks of an accepting `validate_record`, in the order it makes them. -/
lemma validateRecord_checks {bytes : Bytes} {n : ℕ} (h : validateRecord bytes = .ok n) :
    HEADER_LEN ≤ bytes.length ∧ bytes.take 4 = SYNC ∧ HEADER_LEN ≤ n ∧ n ≤ bytes.length ∧
      ∃ (totalLen flags : UInt16) (slotsEnd : ℕ), totalLen.toNat = n ∧
        (readU16 bytes 4 : Outcome WireError UInt16) = .ok totalLen ∧
        (readU16 bytes 6 : Outcome WireError UInt16) = .ok flags ∧
        (flags &&& FLAG_HAS_CRC ≠ 0 → HEADER_LEN + CRC_LEN ≤ n) ∧
        verifiedSlotsEnd bytes n flags = .ok slotsEnd ∧
        validateSlots bytes slotsEnd HEADER_LEN = .ok () := by
  unfold validateRecord at h
  split_ifs at h with hheader
  obtain ⟨sync, hslice, h⟩ := Outcome.bind_eq_ok.mp h
  obtain ⟨-, -, hsync⟩ := slice_eq_ok.mp hslice
  split_ifs at h with hne
  rw [ne_eq, not_not] at hne
  obtain ⟨totalLen, htotal, h⟩ := Outcome.bind_eq_ok.mp h
  dsimp only at h
  split_ifs at h with hshort hlong
  obtain ⟨flags, hflags, h⟩ := Outcome.bind_eq_ok.mp h
  split_ifs at h with hcrcShort
  obtain ⟨slotsEnd, hend, h⟩ := Outcome.bind_eq_ok.mp h
  obtain ⟨⟨⟩, hwalk, h⟩ := Outcome.bind_eq_ok.mp h
  obtain rfl : totalLen.toNat = n := by simpa using h
  refine ⟨by omega, by rw [← hne, ← hsync, List.drop_zero], by omega, by omega, totalLen, flags,
    slotsEnd, rfl, htotal, hflags, fun hcrc => ?_, hend, hwalk⟩
  by_contra hlt
  exact hcrcShort ⟨hcrc, by omega⟩

/-- The slots of an accepted record end before its verified trailer, or with it. -/
lemma verifiedSlotsEnd_eq_ok {bytes : Bytes} {n : ℕ} {flags : UInt16} {slotsEnd : ℕ}
    (hn : n ≤ bytes.length) (hcrc : flags &&& FLAG_HAS_CRC ≠ 0 → HEADER_LEN + CRC_LEN ≤ n)
    (h : verifiedSlotsEnd bytes n flags = .ok slotsEnd) :
    slotsEnd + (if flags &&& FLAG_HAS_CRC ≠ 0 then CRC_LEN else 0) = n ∧
      (bytes.take n).drop slotsEnd =
        if flags &&& FLAG_HAS_CRC ≠ 0 then toLe 4 (crc32c (bytes.take slotsEnd)).toNat else [] := by
  unfold verifiedSlotsEnd at h
  split_ifs at h ⊢ with hflag
  · have hlong := hcrc hflag
    unfold CRC_LEN at hlong h ⊢
    obtain ⟨expected, hexpected, h⟩ := Outcome.bind_eq_ok.mp h
    obtain ⟨covered, hcovered, h⟩ := Outcome.bind_eq_ok.mp h
    obtain ⟨-, -, rfl⟩ := slice_eq_ok.mp hcovered
    dsimp only at h
    split_ifs at h with hmatch
    rw [ne_eq, not_not] at hmatch
    obtain rfl : n - 4 = slotsEnd := by simpa using h
    refine ⟨by omega, ?_⟩
    rw [readU32_eq (by omega), Outcome.ok.injEq] at hexpected
    rw [List.drop_zero] at hmatch
    rw [← hmatch, ← hexpected, toLe_ofNat_fromLe_u32 (by simp; omega), List.drop_take]
    congr 1
    omega
  · obtain rfl : n = slotsEnd := by simpa using h
    exact ⟨by omega, by simp⟩

/-- **What the validator accepts** is the encoding of a record, with the flag as written.

**Proof sketch.** The checks in front of the walk give the header (`header_of_take`) and, when
the flag is set, the trailer (`verifiedSlotsEnd_eq_ok`); the walk gives the slot area between
the two (`exists_slotArea_of_validateSlots`). The length read is the sum of the three. -/
lemma validateRecord_eq_ok {bytes : Bytes} {n : ℕ} (h : validateRecord bytes = .ok n) :
    ∃ (record : Record) (withCrc : Bool), record.Encodable withCrc ∧
      record.withCrcFlag withCrc = record ∧ n = record.encodedLen withCrc ∧ n ≤ bytes.length ∧
      bytes.take n = record.bytes withCrc := by
  obtain ⟨hheader, hsync, hnge, hnle, total, flags, slotsEnd, rfl, htotal, hflags, hcrc, hend,
    hwalk⟩ := validateRecord_checks h
  obtain ⟨hn, htrailer⟩ := verifiedSlotsEnd_eq_ok hnle hcrc hend
  obtain ⟨head, totalLen, headFlags, hheadFlags, htake⟩ := header_of_take hheader hsync
  have hbytes : bytes = head.header totalLen.toNat headFlags ++ bytes.drop HEADER_LEN := by
    rw [← htake, List.take_append_drop]
  obtain ⟨hftotal, hfflags, -⟩ := header_fields head totalLen.toNat headFlags
    (bytes.drop HEADER_LEN)
  rw [← hbytes] at hftotal hfflags
  have hforty : 40 ≤ bytes.length := hheader
  -- the fields read by the checks are those of the header
  obtain rfl : totalLen = total := by
    rwa [readU16_eq (by omega), hftotal, ofNat_fromLe_toLe_u16, Outcome.ok.injEq] at htotal
  obtain rfl : headFlags = flags := by
    rwa [readU16_eq (by omega), hfflags, ofNat_fromLe_toLe_u16, Outcome.ok.injEq] at hflags
  have hendGe : HEADER_LEN ≤ slotsEnd := by
    split_ifs at hn with hflag
    · have := hcrc hflag
      omega
    · omega
  obtain ⟨slots, hslots, harea⟩ := exists_slotArea_of_validateSlots (by omega) _ HEADER_LEN
    le_rfl hendGe hwalk
  have hareaLen : HEADER_LEN + (slotArea slots).length = slotsEnd := by
    rw [← harea]
    simp
    omega
  have hbody : bytes.take slotsEnd = head.header totalLen.toNat headFlags ++ slotArea slots := by
    rw [← harea, ← htake, List.drop_take, ← List.take_add]
    congr 1
    omega
  set withCrc := decide (headFlags &&& FLAG_HAS_CRC ≠ 0) with hwithCrc
  have hflagSelf : crcFlags headFlags withCrc = headFlags := crcFlags_self headFlags
  let record : Record := { head with slots := slots }
  have hrecordFlags : record.flags = headFlags := hheadFlags
  have hif : (if headFlags &&& FLAG_HAS_CRC ≠ 0 then CRC_LEN else 0) =
      if withCrc then CRC_LEN else 0 := by simp [hwithCrc]
  have hlen : totalLen.toNat = record.encodedLen withCrc := by
    rw [Record.encodedLen, ← hn, hif, ← hareaLen]
  have hrecordBody : record.body withCrc = bytes.take slotsEnd := by
    rw [hbody, Record.body, ← hlen, hrecordFlags, hflagSelf]
    rfl
  refine ⟨record, withCrc, ⟨hslots, ?_⟩, ?_, hlen, hnle, ?_⟩
  · rw [← hlen]
    have := totalLen.toNat_lt
    omega
  · rw [Record.withCrcFlag, hrecordFlags, hflagSelf, ← hrecordFlags]
  · rw [Record.bytes, hrecordBody, ← List.take_append_drop slotsEnd (bytes.take totalLen.toNat),
      htrailer, List.take_take, Nat.min_eq_left (by omega)]
    simp [hwithCrc]

/-- **What the decoder accepts** is the encoding of the record it returns. -/
lemma decode_eq_ok {bytes : Bytes} {record : Record} {n : ℕ} (h : decode bytes = .ok ⟨record, n⟩) :
    n ≤ bytes.length ∧ record.Encodable (decide (record.flags &&& FLAG_HAS_CRC ≠ 0)) ∧
      bytes.take n = record.bytes (decide (record.flags &&& FLAG_HAS_CRC ≠ 0)) := by
  obtain ⟨total, hvalid, -⟩ := Outcome.bind_eq_ok.mp h
  obtain ⟨record', withCrc, henc, hflag, rfl, hle, htake⟩ := validateRecord_eq_ok hvalid
  have hdecode := decode_bytes henc (bytes.drop (record'.encodedLen withCrc))
  rw [← htake, List.take_append_drop, h, hflag] at hdecode
  obtain ⟨rfl, rfl⟩ := DecodedRecord.mk.inj (Outcome.ok.inj hdecode)
  have hcrc : decide (record.flags &&& FLAG_HAS_CRC ≠ 0) = withCrc := by
    rw [← hflag]
    simp only [Record.withCrcFlag, hasCrc_crcFlags]
    simp
  rw [hcrc]
  exact ⟨hle, henc, htake⟩

/-- The validator never indexes outside its input. -/
lemma validateRecord_ne_panic (bytes : Bytes) : validateRecord bytes ≠ .panic := by
  unfold validateRecord
  split_ifs with hheader
  · simp
  · have hforty : 40 ≤ bytes.length := by
      unfold HEADER_LEN at hheader
      omega
    rw [slice_of_le (by omega) (by omega), Outcome.ok_bind]
    split_ifs with hsync
    · simp
    · rw [readU16_eq (by omega), Outcome.ok_bind]
      dsimp only
      split_ifs with hshort hlong
      · simp
      · simp
      · rw [readU16_eq (by omega), Outcome.ok_bind]
        split_ifs with hcrcShort
        · simp
        · set n := (UInt16.ofNat (fromLe ((bytes.drop 4).take 2))).toNat
          set flags := UInt16.ofNat (fromLe ((bytes.drop 6).take 2))
          have hcrc : flags &&& FLAG_HAS_CRC ≠ 0 → HEADER_LEN + CRC_LEN ≤ n := by
            intro hflag
            by_contra hlt
            exact hcrcShort ⟨hflag, by omega⟩
          intro hpanic
          rcases Outcome.bind_eq_panic.mp hpanic with hend | ⟨slotsEnd, hend, hpanic⟩
          · unfold verifiedSlotsEnd at hend
            split_ifs at hend with hflag
            have := hcrc hflag
            unfold CRC_LEN at this hend
            dsimp only at hend
            rw [readU32_eq (by omega), slice_of_le (by omega) (by omega)] at hend
            simp only [Outcome.ok_bind] at hend
            split_ifs at hend
          · rcases Outcome.bind_eq_panic.mp hpanic with hwalk | ⟨-, -, hpanic⟩
            · have hn := (verifiedSlotsEnd_eq_ok (by omega) hcrc hend).1
              exact validateSlots_ne_panic (by omega) _ _ le_rfl hwalk
            · simp at hpanic

/-- The decoder never indexes outside its input: past the validator, it reads only what the
validator has walked. -/
lemma decode_ne_panic (bytes : Bytes) : decode bytes ≠ .panic := by
  cases hvalid : validateRecord bytes with
  | panic => exact absurd hvalid (validateRecord_ne_panic bytes)
  | err e => simp [decode, hvalid]
  | ok n =>
    obtain ⟨record, withCrc, henc, -, rfl, -, htake⟩ := validateRecord_eq_ok hvalid
    have hdecode := decode_bytes henc (bytes.drop (record.encodedLen withCrc))
    rw [← htake, List.take_append_drop] at hdecode
    simp [hdecode]

/-- **The wire format is exact.** Decoding inverts encoding in front of any suffix; what is
accepted is the encoding of the record returned; no byte string makes the validator or the
decoder read outside it; and encoding fails exactly on an oversized payload or record.

**Proof sketch.** The encoder writes `Record.bytes` on encodable records (`encode_eq_ok_iff`),
which `decode_bytes` reads back; `decode_eq_ok` is the converse. -/
theorem wire_format_exact :
    (∀ (record : Record) (hasCrc : Bool) (bytes rest : Bytes),
      record.encode hasCrc = .ok bytes →
        decode (bytes ++ rest) = .ok ⟨record.withCrcFlag hasCrc, bytes.length⟩) ∧
    (∀ (bytes : Bytes) (record : Record) (n : ℕ), decode bytes = .ok ⟨record, n⟩ →
      n ≤ bytes.length ∧
        record.encode (decide (record.flags &&& FLAG_HAS_CRC ≠ 0)) = .ok (bytes.take n)) ∧
    (∀ bytes : Bytes, validateRecord bytes ≠ .panic ∧ decode bytes ≠ .panic) ∧
    (∀ (record : Record) (hasCrc : Bool),
      (∃ e, record.encode hasCrc = .err e) ↔
        (∃ slot ∈ record.slots, 255 < slot.payload.length) ∨
          65535 < record.encodedLen hasCrc) := by
  refine ⟨?_, ?_, fun bytes => ⟨validateRecord_ne_panic bytes, decode_ne_panic bytes⟩, ?_⟩
  · intro record hasCrc bytes rest h
    obtain ⟨henc, rfl⟩ := encode_eq_ok_iff.mp h
    rw [decode_bytes henc, length_bytes]
  · intro bytes record n h
    obtain ⟨hle, henc, htake⟩ := decode_eq_ok h
    exact ⟨hle, encode_eq_ok_iff.mpr ⟨henc, htake⟩⟩
  · intro record hasCrc
    constructor
    · rintro ⟨e, he⟩
      by_contra hfit
      push Not at hfit
      rw [encode_of_encodable ⟨hfit.1, hfit.2⟩] at he
      cases he
    · intro hbad
      apply encode_of_not_encodable
      rintro ⟨hpayload, htotal⟩
      rcases hbad with ⟨slot, hmem, hlong⟩ | hlong
      · have := hpayload slot hmem
        omega
      · omega

/-- The format at work: a message with one slot survives its round trip in front of a stray
byte, and the accepted bytes are its encoding. -/
theorem wire_format_exact_message :
    ∃ bytes, ({ Record.new 10 11 12 13 14 with slots := [⟨1, 7, [1, 2, 3, 4, 5]⟩] }).encode true =
        .ok bytes ∧
      decode (bytes ++ [0xA5]) = .ok ⟨{ Record.new 10 11 12 13 14 with
        flags := 8, slots := [⟨1, 7, [1, 2, 3, 4, 5]⟩] }, 56⟩ := by
  obtain ⟨bytes, hbytes, hlen⟩ : ∃ bytes, ({ Record.new 10 11 12 13 14 with
      slots := [⟨1, 7, [1, 2, 3, 4, 5]⟩] }).encode true = .ok bytes ∧ bytes.length = 56 :=
    ⟨_, encode_of_encodable ⟨by decide, by decide⟩, by decide⟩
  refine ⟨bytes, hbytes, ?_⟩
  rw [wire_format_exact.1 _ _ _ _ hbytes, hlen]
  rfl

/-! ## Records as a reader meets them -/

/-- `bytes` is exactly one accepted record. -/
def Decodes (bytes : Bytes) (record : Record) : Prop :=
  decode bytes = .ok ⟨record, bytes.length⟩

/-- An encoded record decodes to itself, up to the flag. -/
lemma Decodes.of_encode {record : Record} {withCrc : Bool} {bytes : Bytes}
    (h : record.encode withCrc = .ok bytes) : Decodes bytes (record.withCrcFlag withCrc) := by
  obtain ⟨henc, rfl⟩ := encode_eq_ok_iff.mp h
  have := decode_bytes henc []
  rwa [List.append_nil, ← length_bytes] at this

/-- Bytes that the validator accepts in full are exactly one record. -/
lemma exists_decodes_of_validateRecord {bytes : Bytes}
    (h : validateRecord bytes = .ok bytes.length) : ∃ record, Decodes bytes record := by
  obtain ⟨record, withCrc, henc, -, hn, -, htake⟩ := validateRecord_eq_ok h
  rw [List.take_length] at htake
  have := decode_bytes henc []
  rw [List.append_nil, ← htake, ← hn] at this
  exact ⟨_, this⟩

/-- The front of a record: the sync bytes and its own length. -/
lemma Decodes.header {bytes : Bytes} {record : Record} (h : Decodes bytes record) :
    HEADER_LEN ≤ bytes.length ∧ bytes.take 4 = SYNC ∧
      fromLe ((bytes.drop 4).take 2) = bytes.length := by
  obtain ⟨n, hvalid, -⟩ := Outcome.bind_eq_ok.mp h
  obtain ⟨hheader, hsync, -, -, totalLen, -, -, rfl, htotal, -⟩ := validateRecord_checks hvalid
  obtain ⟨record', withCrc, henc, -, hn, -, htake⟩ := validateRecord_eq_ok hvalid
  have hforty : 40 ≤ bytes.length := hheader
  have hlt : fromLe ((bytes.drop 4).take 2) < 2 ^ 16 := by
    have := fromLe_lt ((bytes.drop 4).take 2)
    rwa [show ((bytes.drop 4).take 2).length = 2 by simp; omega] at this
  rw [readU16_eq (by omega), Outcome.ok.injEq] at htotal
  have hdecode := decode_bytes henc (bytes.drop totalLen.toNat)
  rw [← htake, List.take_append_drop, h, ← hn] at hdecode
  refine ⟨hheader, hsync, ?_⟩
  rw [(DecodedRecord.mk.inj (Outcome.ok.inj hdecode)).2, ← htotal, UInt16.toNat_ofNat',
    Nat.mod_eq_of_lt hlt]

/-- The first byte of a record is not the wrap marker. -/
lemma Decodes.head_ne_zero {bytes : Bytes} {record : Record} (h : Decodes bytes record) :
    bytes[0]? = some 0x4F := by
  have hsync := h.header.2.1
  rw [show (bytes[0]? : Option UInt8) = (bytes.take 4)[0]? by simp, hsync]
  rfl

/-- A byte string is one record in at most one way. -/
lemma Decodes.unique {bytes : Bytes} {record record' : Record} (h : Decodes bytes record)
    (h' : Decodes bytes record') : record = record' := by
  rw [Decodes, h, Outcome.ok.injEq] at h'
  exact (DecodedRecord.mk.inj h').1

end OpenOT
