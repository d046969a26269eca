import OpenOT.Carriage.Registry
import OpenOT.Lib.CircularLog
import OpenOT.St.Buffer

set_option relaxedAutoImplicit false
set_option autoImplicit false

/-!
# What the writers write

Each writer as the bytes it puts behind its offset. A writer of slots is correct at offsets that
are multiples of four: the padding is counted from the start of the buffer.

## Main definitions

* `OpenOT.St.EmitsAt` — a writer started at an offset writes certain bytes, or stops because they
  do not fit.
* `OpenOT.St.EmitsSlots` — a writer writes certain slots.
* `OpenOT.St.Encodes` — an encoder writes a record, or stops because it does not fit.

## Main results

* `OpenOT.St.encodes_encodeRecord` — an encoder writes the record whose slots its body writes, if
  it has computed the length right.
-/

namespace OpenOT.St

open Rust CircularLog

/-! ## Bytes -/

/-- Started at offset `n` the writer writes `bs`, or stops because they do not fit. -/
def EmitsAt (n : ℕ) (w : UInt16 → Writes UInt16) (bs : Bytes) : Prop :=
  ∀ buffer : Bytes, buffer.length = 256 → n ≤ 256 → w (UInt16.ofNat n) buffer =
    if n + bs.length ≤ 256 then some (UInt16.ofNat (n + bs.length), overwrite buffer n bs) else none

/-- One writer behind the other. -/
lemma bind_apply {α β : Type} (x : Writes α) (f : α → Writes β) (buffer : Bytes) :
    (x >>= f) buffer = (x buffer).bind fun r => f r.1 r.2 := rfl

/-- Copying two lists one behind the other. -/
lemma overwrite_overwrite {buffer as bs : Bytes} {n : ℕ}
    (h : n + as.length + bs.length ≤ buffer.length) :
    overwrite (overwrite buffer n as) (n + as.length) bs = overwrite buffer n (as ++ bs) := by
  have hfront : (buffer.take n ++ as).length = n + as.length := by
    rw [List.length_append, List.length_take]
    omega
  have htake : (overwrite buffer n as).take (n + as.length) = buffer.take n ++ as := by
    rw [overwrite, List.take_left' hfront]
  have hdrop : (overwrite buffer n as).drop (n + as.length + bs.length) =
      buffer.drop (n + as.length + bs.length) := by
    rw [overwrite, ← List.drop_drop, List.drop_left' hfront, List.drop_drop]
  rw [overwrite, htake, hdrop, overwrite, List.append_assoc _ as, List.length_append,
    Nat.add_assoc]

lemma toNat_ofNat_of_le {n : ℕ} (h : n ≤ 256) : (UInt16.ofNat n).toNat = n := by
  rw [UInt16.toNat_ofNat', Nat.mod_eq_of_lt (by omega)]

/-- A writer that writes nothing. -/
lemma emitsAt_pure (n : ℕ) : EmitsAt n pure [] := by
  intro buffer _ hn
  rw [if_pos (by simpa using hn)]
  simp [overwrite]
  rfl

/-- One writer behind the other. -/
lemma EmitsAt.bind {n : ℕ} {w₁ w₂ : UInt16 → Writes UInt16} {as bs : Bytes}
    (h₁ : EmitsAt n w₁ as) (h₂ : EmitsAt (n + as.length) w₂ bs) :
    EmitsAt n (fun pos => w₁ pos >>= w₂) (as ++ bs) := by
  intro buffer hlen hn
  change (w₁ (UInt16.ofNat n) >>= w₂) buffer = _
  rw [bind_apply, h₁ buffer hlen hn, List.length_append]
  by_cases hfit : n + as.length ≤ 256
  · rw [if_pos hfit, Option.bind_some]
    have hlen' : (overwrite buffer n as).length = 256 := by
      rw [length_overwrite (hlen ▸ hfit), hlen]
    rw [h₂ _ hlen' hfit, Nat.add_assoc]
    by_cases hall : n + (as.length + bs.length) ≤ 256
    · rw [if_pos hall, if_pos hall, overwrite_overwrite (by omega)]
    · rw [if_neg hall, if_neg hall]
  · rw [if_neg hfit, if_neg (by omega)]
    rfl

/-- A byte. -/
lemma emitsAt_writeByte (n : ℕ) (value : UInt8) :
    EmitsAt n (fun pos => writeByte pos value) [value] := by
  intro buffer hlen hn
  change (if (UInt16.ofNat n).toNat < buffer.length then
    some (UInt16.ofNat n + 1, buffer.set (UInt16.ofNat n).toNat value) else none) = _
  rw [toNat_ofNat_of_le hn, hlen, List.length_singleton]
  refine ite_congr (propext Nat.lt_iff_add_one_le) (fun hfit => ?_) fun _ => rfl
  have hset : buffer.set n value = overwrite buffer n [value] := by
    rw [overwrite, List.set_eq_take_append_cons_drop, if_pos (by omega)]
    simp
  rw [hset, UInt16.ofNat_add]
  rfl

/-- A loop over bytes. -/
lemma emitsAt_writeBytes (n : ℕ) (values : Bytes) :
    EmitsAt n (fun pos => writeBytes values pos) values := by
  induction values generalizing n with
  | nil => exact emitsAt_pure n
  | cons value values ih =>
    simp only [writeBytes]
    exact (emitsAt_writeByte n value).bind (ih _)

/-- The loop of the little-endian writers. -/
lemma emitsAt_writeLE (n rounds value : ℕ) :
    EmitsAt n (fun pos => writeLE rounds value pos) (toLe rounds value) := by
  induction rounds generalizing n value with
  | zero => exact emitsAt_pure n
  | succ rounds ih =>
    have hbyte : UInt8.ofNat (value % 256) = UInt8.ofNat value := by
      rw [← UInt8.toNat_inj]
      simp
    simp only [writeLE, toLe, hbyte]
    exact (emitsAt_writeByte n _).bind (ih _ _)

/-- The loop of the writer of double words. -/
lemma emitsAt_writeDWordLoop (n rounds : ℕ) (value : UInt32) :
    EmitsAt n (fun pos => writeDWordLoop rounds value pos) (toLe rounds value.toNat) := by
  induction rounds generalizing n value with
  | zero => exact emitsAt_pure n
  | succ rounds ih =>
    have hbyte : (value &&& 0x000000FF).toUInt8 = UInt8.ofNat value.toNat := by
      rw [← UInt8.toNat_inj]
      simp only [UInt32.toNat_toUInt8, UInt32.toNat_and, UInt8.toNat_ofNat']
      rw [show (0x000000FF : UInt32).toNat = 2 ^ 8 - 1 by decide, Nat.and_two_pow_sub_one_eq_mod,
        Nat.mod_mod]
    have hrest : value.toNat / 256 = (value >>> 8).toNat := by
      simp [UInt32.toNat_shiftRight, Nat.shiftRight_eq_div_pow]
    simp only [writeDWordLoop, toLe, hbyte, hrest]
    exact (emitsAt_writeByte n _).bind (ih _ _)

/-- `OPENOT_WriteU16LE`. -/
lemma emitsAt_writeU16LE (n : ℕ) (value : UInt16) :
    EmitsAt n (fun pos => writeU16LE pos value) (toLe 2 value.toNat) :=
  emitsAt_writeLE n 2 value.toNat

/-- `OPENOT_WriteU32LE`. -/
lemma emitsAt_writeU32LE (n : ℕ) (value : UInt32) :
    EmitsAt n (fun pos => writeU32LE pos value) (toLe 4 value.toNat) :=
  emitsAt_writeLE n 4 value.toNat

/-- `OPENOT_WriteU64LE`. -/
lemma emitsAt_writeU64LE (n : ℕ) (value : UInt64) :
    EmitsAt n (fun pos => writeU64LE pos value) (toLe 8 value.toNat) :=
  emitsAt_writeLE n 8 value.toNat

/-- `OPENOT_WriteDWordLE`. -/
lemma emitsAt_writeDWordLE (n : ℕ) (value : UInt32) :
    EmitsAt n (fun pos => writeDWordLE pos value) (toLe 4 value.toNat) :=
  emitsAt_writeDWordLoop n 4 value

/-- The loop that writes zeros up to a multiple of four. -/
lemma emitsAt_writePadding {n rounds : ℕ} (h : (4 - n % 4) % 4 ≤ rounds) :
    EmitsAt n (fun pos => writePadding rounds pos) (List.replicate ((4 - n % 4) % 4) 0) := by
  induction rounds generalizing n with
  | zero =>
    rw [Nat.le_zero.mp h]
    exact emitsAt_pure n
  | succ rounds ih =>
    intro buffer hlen hn
    have hmod : (UInt16.ofNat n % 4 ≠ 0) ↔ n % 4 ≠ 0 := by
      rw [Ne, ← UInt16.toNat_inj, UInt16.toNat_mod, toNat_ofNat_of_le hn]
      rfl
    change writePadding (rounds + 1) (UInt16.ofNat n) buffer = _
    rw [writePadding]
    by_cases hz : n % 4 ≠ 0
    · have hcount : (4 - n % 4) % 4 = (4 - (n + 1) % 4) % 4 + 1 := by omega
      have hrest : EmitsAt (n + [(0 : UInt8)].length) (fun pos => writePadding rounds pos)
          (List.replicate ((4 - (n + 1) % 4) % 4) 0) := ih (by simp; omega)
      rw [if_pos (hmod.mpr hz), hcount, List.replicate_succ]
      exact (emitsAt_writeByte n 0).bind hrest buffer hlen hn
    · have hcount : (4 - n % 4) % 4 = 0 := by omega
      rw [if_neg (mt hmod.mp hz), hcount]
      exact emitsAt_pure n buffer hlen hn

/-! ## Slots -/

/-- Started at a multiple of four the writer writes the slots, or stops because they do not
fit. -/
def EmitsSlots (w : UInt16 → Writes UInt16) (slots : List Slot) : Prop :=
  ∀ n, n % 4 = 0 → EmitsAt n w (slotArea slots)

/-- Slots end at multiples of four. -/
lemma length_slotArea_mod (slots : List Slot) : (slotArea slots).length % 4 = 0 := by
  induction slots with
  | nil => rfl
  | cons slot slots ih =>
    have := paddingLen_spec slot.payload.length
    rw [slotArea, List.length_append, length_slot_bytes]
    omega

/-- A writer of no slots. -/
lemma emitsSlots_pure : EmitsSlots pure [] := fun n _ => emitsAt_pure n

/-- Slots behind slots. -/
lemma EmitsSlots.bind {w₁ w₂ : UInt16 → Writes UInt16} {as bs : List Slot}
    (h₁ : EmitsSlots w₁ as) (h₂ : EmitsSlots w₂ bs) :
    EmitsSlots (fun pos => w₁ pos >>= w₂) (as ++ bs) := by
  intro n hn
  rw [slotArea_append]
  have := length_slotArea_mod as
  exact (h₁ n hn).bind (h₂ _ (by omega))

/-- Slots behind an `IF`. -/
lemma EmitsSlots.optional {w : UInt16 → Writes UInt16} {slots : List Slot} (h : EmitsSlots w slots)
    (present : Bool) : EmitsSlots (St.optional present w) (if present then slots else []) := by
  cases present with
  | true => exact h
  | false => exact emitsSlots_pure

/-- A writer that branches. -/
lemma EmitsSlots.ite {c : Prop} [Decidable c] {w₁ w₂ : UInt16 → Writes UInt16}
    {slots : List Slot} (h₁ : c → EmitsSlots w₁ slots) (h₂ : ¬c → EmitsSlots w₂ slots) :
    EmitsSlots (fun pos => if c then w₁ pos else w₂ pos) slots := by
  by_cases hc : c
  · simp only [if_pos hc]
    exact h₁ hc
  · simp only [if_neg hc]
    exact h₂ hc

lemma EmitsSlots.of_eq {w : UInt16 → Writes UInt16} {as bs : List Slot} (h : EmitsSlots w as)
    (heq : as = bs) : EmitsSlots w bs := heq ▸ h

/-- A slot: its header, and a writer of its payload with the padding. -/
lemma emitsSlots_of_payload {key : UInt16} {ty length : UInt8} {payload : Bytes}
    {w : UInt16 → Writes UInt16} (hlength : length = UInt8.ofNat payload.length)
    (h : ∀ n, n % 4 = 0 →
      EmitsAt n w (payload ++ List.replicate (paddingLen payload.length) 0)) :
    EmitsSlots (fun pos => writeSlotHeader pos key ty length >>= w) [⟨key, ty, payload⟩] := by
  intro n hn
  have hheader : EmitsAt n (fun pos => writeSlotHeader pos key ty length)
      (toLe 2 key.toNat ++ ([ty] ++ [length])) :=
    (emitsAt_writeU16LE n key).bind ((emitsAt_writeByte _ ty).bind (emitsAt_writeByte _ length))
  have hslot : slotArea [⟨key, ty, payload⟩] = toLe 2 key.toNat ++ ([ty] ++ [length]) ++
      (payload ++ List.replicate (paddingLen payload.length) 0) := by
    simp [slotArea, Slot.bytes, hlength]
  rw [hslot]
  refine hheader.bind (h _ ?_)
  simp
  omega

/-- A slot whose payload needs no padding. -/
lemma emitsSlots_of_aligned {key : UInt16} {ty length : UInt8} {payload : Bytes}
    {w : UInt16 → Writes UInt16} (hlength : length = UInt8.ofNat payload.length)
    (hmod : payload.length % 4 = 0) (h : ∀ n, EmitsAt n w payload) :
    EmitsSlots (fun pos => writeSlotHeader pos key ty length >>= w) [⟨key, ty, payload⟩] := by
  refine emitsSlots_of_payload hlength fun n _ => ?_
  have hpad : paddingLen payload.length = 0 := by
    unfold paddingLen
    omega
  rw [hpad, List.replicate_zero, List.append_nil]
  exact h n

lemma emitsSlots_udintSlot (key : UInt16) (value : UInt32) :
    EmitsSlots (udintSlot key value) [⟨key, TY_UDINT, toLe 4 value.toNat⟩] :=
  emitsSlots_of_aligned rfl (by simp) fun n => emitsAt_writeU32LE n value

lemma emitsSlots_uintSlot (key : UInt16) (value : UInt16) :
    EmitsSlots (uintSlot key value) [⟨key, TY_UINT, toLe 2 value.toNat⟩] :=
  emitsSlots_of_payload rfl fun n _ =>
    (emitsAt_writeU16LE n value).bind ((emitsAt_writeByte _ 0).bind (emitsAt_writeByte _ 0))

lemma emitsSlots_u64Slot (key : UInt16) (ty : UInt8) (value : UInt64) :
    EmitsSlots (u64Slot key ty value) [⟨key, ty, toLe 8 value.toNat⟩] :=
  emitsSlots_of_aligned rfl (by simp) fun n => emitsAt_writeU64LE n value

lemma emitsSlots_dwordSlot (key : UInt16) (ty : UInt8) (value : UInt32) :
    EmitsSlots (dwordSlot key ty value) [⟨key, ty, toLe 4 value.toNat⟩] :=
  emitsSlots_of_aligned rfl (by simp) fun n => emitsAt_writeDWordLE n value

lemma emitsSlots_boolSlot (key : UInt16) (value : UInt8) :
    EmitsSlots (boolSlot key value) [⟨key, TY_BOOL, [value]⟩] :=
  emitsSlots_of_payload rfl fun n _ => (emitsAt_writeByte n value).bind
    ((emitsAt_writeByte _ 0).bind ((emitsAt_writeByte _ 0).bind (emitsAt_writeByte _ 0)))

lemma emitsSlots_hashSlot (key : UInt16) (value : Vector UInt8 8) :
    EmitsSlots (hashSlot key value) [⟨key, TY_BYTES, value.toList⟩] :=
  emitsSlots_of_aligned (by simp) (by simp) fun n => emitsAt_writeBytes n value.toList

/-- The characters of a string, by index. -/
lemma map_getD_chars (value : String96) :
    (List.range value.chars.length).map (fun index => value.chars.getD index 0) = value.chars := by
  apply List.ext_getElem
  · simp
  · intro i h₁ h₂
    simp [h₂]

/-- A payload with the padding behind it. -/
lemma emitsAt_padded {w : UInt16 → Writes UInt16} {payload : Bytes} {n : ℕ} (hn : n % 4 = 0)
    (h : EmitsAt n w payload) : EmitsAt n (fun pos => w pos >>= writePadding 3)
      (payload ++ List.replicate (paddingLen payload.length) 0) := by
  have hpad : paddingLen payload.length = (4 - (n + payload.length) % 4) % 4 := by
    unfold paddingLen
    omega
  rw [hpad]
  exact h.bind (emitsAt_writePadding (by omega))

lemma toNat_len (value : String96) : (len value).toNat = value.chars.length :=
  toNat_ofNat_of_le (value.length_le.trans (by decide))

/-- No string is cut. -/
@[simp] lemma len96_eq (value : String96) : len96 value = len value := by
  have hle : ¬96 < len value := by
    rw [UInt16.lt_iff_toNat_lt, toNat_len]
    exact Nat.not_lt.mpr value.length_le
  rw [len96, if_neg hle]

lemma emitsSlots_stringSlot (key : UInt16) (value : String96) :
    EmitsSlots (stringSlot key value (len value)) [⟨key, TY_STRING, value.chars⟩] := by
  have hlength : (len value).toUInt8 = UInt8.ofNat value.chars.length := by
    rw [← UInt8.toNat_inj, UInt16.toNat_toUInt8, toNat_len, UInt8.toNat_ofNat']
  refine emitsSlots_of_payload hlength fun n hn => ?_
  have hchars := emitsAt_writeBytes n ((List.range (len value).toNat).map fun index =>
    value.chars.getD index 0)
  rw [toNat_len, map_getD_chars] at hchars
  have hpadded := emitsAt_padded hn hchars
  intro buffer
  have hwrite : (fun pos => writeStringPayload pos value (len value)) =
      fun pos => writeBytes value.chars pos >>= writePadding 3 := by
    funext pos
    rw [writeStringPayload, toNat_len, map_getD_chars]
  rw [hwrite]
  exact hpadded buffer

/-- How many bytes the loop over a bit string writes: for a length of zero it runs to the end of
the range of its counter. -/
def writtenBytes (payloadLength : UInt16) : ℕ := (payloadLength - 1).toNat + 1

/-- For a length that is not zero the loop writes that many bytes. -/
lemma writtenBytes_eq {payloadLength : UInt16} (h : payloadLength ≠ 0) :
    writtenBytes payloadLength = payloadLength.toNat := by
  have hne : payloadLength.toNat ≠ 0 := fun hzero => h (UInt16.toNat_inj.mp hzero)
  have hle : (1 : UInt16) ≤ payloadLength := by
    rw [UInt16.le_iff_toNat_le]
    exact Nat.one_le_iff_ne_zero.mpr hne
  rw [writtenBytes, UInt16.toNat_sub_of_le _ _ hle]
  exact Nat.sub_add_cancel (Nat.one_le_iff_ne_zero.mpr hne)

lemma writtenBytes_zero : writtenBytes 0 = 65536 := by decide

/-- The bytes of a bit string. -/
lemma emitsSlots_bitsSlot (key : UInt16) (ty : UInt8) (value : UInt64) (payloadLength : UInt16) :
    EmitsSlots (bitsSlot key ty value payloadLength)
      [⟨key, ty, toLe (writtenBytes payloadLength) value.toNat⟩] := by
  have hlength : payloadLength.toUInt8 =
      UInt8.ofNat (toLe (writtenBytes payloadLength) value.toNat).length := by
    rw [length_toLe, ← UInt8.toNat_inj, UInt16.toNat_toUInt8, UInt8.toNat_ofNat']
    by_cases hzero : payloadLength = 0
    · rw [hzero, writtenBytes_zero]
      rfl
    · rw [writtenBytes_eq hzero]
  exact emitsSlots_of_payload hlength fun n hn => emitsAt_padded hn (emitsAt_writeLE n _ _)

/-! ## The checksum -/

/-- A branch on the low bit is a mask with it. -/
lemma crcBit_eq : crcBit = OpenOT.crcBit := by
  funext crc
  rw [crcBit, OpenOT.crcBit, and_one_eq]
  cases crc.toBitVec.getLsbD 0 with
  | false => simp
  | true =>
    rw [if_pos rfl, if_pos (by decide), show (0 - 1 : UInt32) = 0xFFFFFFFF by decide,
      REFLECTED_POLY]
    rfl

/-- Both checksums agree. -/
lemma crc32c_eq {data : Bytes} {length : UInt16} (h : length.toNat ≤ data.length) :
    crc32c data length = some (OpenOT.crc32c (data.take length.toNat)) := by
  have hbyte : crcByte = OpenOT.crcByte := by
    funext crc byte
    rw [crcByte, OpenOT.crcByte, crcBit_eq]
  rw [crc32c, if_pos h, OpenOT.crc32c, hbyte]

/-! ## Records -/

/-- The record with an envelope, an event and slots. -/
def Envelope.record (envelope : Envelope) (eventTypeId : UInt32) (slots : List Slot) : Record where
  flags := FLAG_HAS_CRC
  sourceTime := envelope.sourceTime
  runId := envelope.runId
  seq := envelope.seq
  sourceId := envelope.sourceId
  eventTypeId := eventTypeId
  slots := slots

lemma length_blankBuffer : blankBuffer.length = 256 := List.length_replicate

/-- The encoder writes the record at the front of its buffer, or stops because it does not
fit. -/
def Encodes (encoded : Option Encoded) (record : Record) : Prop :=
  encoded = if (record.bytes true).length ≤ 256 then
      some ⟨overwrite blankBuffer 0 (record.bytes true),
        UInt16.ofNat (record.bytes true).length⟩
    else none

/-- The header. -/
lemma emitsAt_writeHeader (totalLength flags : UInt16) (envelope : Envelope) (eventTypeId : UInt32)
    (slots : List Slot) :
    EmitsAt 0 (fun _ => writeHeader totalLength flags envelope eventTypeId)
      ((envelope.record eventTypeId slots).header totalLength.toNat flags) := by
  have hbytes : EmitsAt 0 (fun pos => do
      let pos ← writeByte pos 0x4F
      let pos ← writeByte pos 0x4F
      let pos ← writeByte pos 0x54
      let pos ← writeByte pos 0x32
      let pos ← writeU16LE pos totalLength
      let pos ← writeU16LE pos flags
      let pos ← writeU64LE pos envelope.sourceTime
      let pos ← writeU64LE pos envelope.runId
      let pos ← writeU64LE pos envelope.seq
      let pos ← writeU32LE pos envelope.sourceId
      writeU32LE pos eventTypeId) _ :=
    (emitsAt_writeByte _ _).bind <| (emitsAt_writeByte _ _).bind <|
      (emitsAt_writeByte _ _).bind <| (emitsAt_writeByte _ _).bind <|
      (emitsAt_writeU16LE _ _).bind <| (emitsAt_writeU16LE _ _).bind <|
      (emitsAt_writeU64LE _ _).bind <| (emitsAt_writeU64LE _ _).bind <|
      (emitsAt_writeU64LE _ _).bind <| (emitsAt_writeU32LE _ _).bind (emitsAt_writeU32LE _ _)
  intro buffer hlen hn
  have h := hbytes buffer hlen hn
  simp only [Envelope.record, Record.header, SYNC] at h ⊢
  simp only [List.append_assoc, List.cons_append, List.nil_append] at h ⊢
  exact h

/-- **An encoder writes its record**, if its body writes the slots and it has computed the length
of a record that fits. -/
lemma encodes_encodeRecord {totalLength : UInt16} {envelope : Envelope} {eventTypeId : UInt32}
    {body : UInt16 → Writes UInt16} {slots : List Slot} (hbody : EmitsSlots body slots)
    (htotal : 44 + (slotArea slots).length ≤ 256 →
      totalLength.toNat = 44 + (slotArea slots).length) :
    Encodes (encodeRecord totalLength envelope eventTypeId body)
      (envelope.record eventTypeId slots) := by
  set record := envelope.record eventTypeId slots with hrecord
  have hbytes : (record.bytes true).length = 44 + (slotArea slots).length := by
    rw [length_bytes, Record.encodedLen]
    simp [hrecord, Envelope.record, HEADER_LEN, CRC_LEN]
    omega
  have hheader := emitsAt_writeHeader totalLength 0x0008 envelope eventTypeId slots
  have hheaderLen : (record.header totalLength.toNat 0x0008).length = 40 := length_header ..
  have harea := (hheader.bind (hbody _ (by rw [← hrecord, hheaderLen])))
    blankBuffer length_blankBuffer (by omega)
  rw [← hrecord, List.length_append, hheaderLen, Nat.zero_add] at harea
  rw [Encodes, hbytes]
  change ((((writeHeader totalLength 0x0008 envelope eventTypeId) >>= body) blankBuffer).bind
    fun r => (crc32c r.2 r.1).bind fun crc => (writeDWordLE r.1 crc r.2).bind
      fun r => some (Encoded.mk r.2 r.1)) = _
  rw [show ((writeHeader totalLength 0x0008 envelope eventTypeId) >>= body) blankBuffer =
    _ from harea]
  by_cases hslots : 40 + (slotArea slots).length ≤ 256
  swap
  · rw [if_neg hslots, if_neg (by omega)]
    rfl
  set front := record.header totalLength.toNat 0x0008 ++ slotArea slots with hfront
  have hfrontLen : front.length = 40 + (slotArea slots).length := by
    rw [hfront, List.length_append, hheaderLen]
  have hblank : (overwrite blankBuffer 0 front).length = 256 := by
    rw [length_overwrite (by rw [length_blankBuffer]; omega), length_blankBuffer]
  have htake : (overwrite blankBuffer 0 front).take front.length = front := by
    simp [overwrite]
  have hcrc : crc32c (overwrite blankBuffer 0 front)
      (UInt16.ofNat (40 + (slotArea slots).length)) = some (OpenOT.crc32c front) := by
    rw [crc32c_eq (by rw [toNat_ofNat_of_le hslots, hblank]; exact hslots),
      toNat_ofNat_of_le hslots, ← hfrontLen, htake]
  rw [if_pos hslots, Option.bind_some, hcrc, Option.bind_some]
  have hdword := emitsAt_writeDWordLE (40 + (slotArea slots).length) (OpenOT.crc32c front)
    _ hblank hslots
  rw [show writeDWordLE (UInt16.ofNat (40 + (slotArea slots).length)) (OpenOT.crc32c front)
    (overwrite blankBuffer 0 front) = _ from hdword, length_toLe]
  by_cases hfit : 44 + (slotArea slots).length ≤ 256
  swap
  · rw [if_neg hfit, if_neg (by omega)]
    rfl
  rw [if_pos hfit, if_pos (by omega), Option.bind_some, ← hfrontLen]
  have hbody : front = record.body true := by
    have hlen : record.encodedLen true = 44 + (slotArea slots).length := by
      rw [← length_bytes, hbytes]
    have hflags : crcFlags record.flags true = 0x0008 := by
      change crcFlags FLAG_HAS_CRC true = 0x0008
      decide
    rw [hfront, Record.body, hlen, hflags, htotal hfit]
    rfl
  have hall : overwrite (overwrite blankBuffer 0 front) front.length
      (toLe 4 (OpenOT.crc32c front).toNat) =
        overwrite blankBuffer 0 (record.bytes true) := by
    have h : overwrite (overwrite blankBuffer 0 front) (0 + front.length)
        (toLe 4 (OpenOT.crc32c front).toNat) = _ :=
      overwrite_overwrite (by rw [length_toLe, length_blankBuffer]; omega)
    rw [Nat.zero_add] at h
    rw [h, Record.bytes, if_pos rfl, ← hbody]
  have hend : front.length + 4 = 44 + (slotArea slots).length := by omega
  rw [hall, hend]

end OpenOT.St
