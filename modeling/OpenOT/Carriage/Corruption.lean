import OpenOT.Carriage.WireFormat
import OpenOT.Lib.Checksum

set_option relaxedAutoImplicit false
set_option autoImplicit false

/-!
# A flipped bit

What the decoder makes of an encoded record in which one bit has been flipped. The checksum detects
an error in one byte wherever it is consulted; whether it is consulted is said by a bit of the
record itself.

## Main definitions

* `OpenOT.flipBit` — a byte string with one bit flipped.

## Main results

* `OpenOT.detecting_crcByte` — CRC-32C detects an error in one byte.
* `OpenOT.decode_flipBit` — when a flipped bit is detected.
* `OpenOT.decode_flipBit_undetected` — a flipped `HasCrc` flag that is not.
-/

namespace OpenOT

open Rust Function

/-! ## The checksum -/

/-- The high bit of an inner turn is the low bit before it: the polynomial has it set. -/
lemma getLsbD_crcBit_high (crc : UInt32) :
    (crcBit crc).toBitVec.getLsbD 31 = crc.toBitVec.getLsbD 0 := by
  have hpoly : REFLECTED_POLY.toBitVec.getLsbD 31 = true := by decide
  rw [toBitVec_crcBit]
  cases hbit : crc.toBitVec.getLsbD 0 with
  | false => simp
  | true =>
    rw [if_pos rfl, BitVec.getLsbD_xor, hpoly]
    simp

/-- An inner turn can be undone. -/
lemma injective_crcBit : Injective crcBit := by
  intro a b h
  have hlow : a.toBitVec.getLsbD 0 = b.toBitVec.getLsbD 0 := by
    rw [← getLsbD_crcBit_high, ← getLsbD_crcBit_high, h]
  have hshift : a.toBitVec >>> 1 = b.toBitVec >>> 1 := by
    have hvec := congrArg UInt32.toBitVec h
    rw [toBitVec_crcBit, toBitVec_crcBit, hlow] at hvec
    split at hvec
    · exact (BitVec.xor_left_inj _).mp hvec
    · exact hvec
  rw [← UInt32.toBitVec_inj]
  apply BitVec.eq_of_getLsbD_eq
  intro i _
  cases i with
  | zero => exact hlow
  | succ i =>
    have := congrArg (fun v => v.getLsbD i) hshift
    simpa [Nat.add_comm] using this

/-- An outer turn can be undone, and takes different bytes to different values. -/
lemma detecting_crcByte : Checksum.Detecting crcByte := by
  have hturns : Injective (Nat.repeat crcBit 8) := by
    have hiterate : Nat.repeat crcBit 8 = crcBit^[8] := rfl
    rw [hiterate]
    exact injective_crcBit.iterate 8
  refine ⟨fun byte a b h => ?_, fun crc a b h => ?_⟩
  · have hcancel := congrArg (· ^^^ byte.toUInt32) (hturns h)
    simpa [UInt32.xor_assoc] using hcancel
  · have hcancel := congrArg (crc ^^^ ·) (hturns h)
    rw [← UInt32.xor_assoc, ← UInt32.xor_assoc, UInt32.xor_self, UInt32.zero_xor,
      UInt32.zero_xor] at hcancel
    exact UInt8.toUInt32_inj.mp hcancel

/-- A byte changed in place changes the checksum. -/
lemma crc32c_modify_ne {bytes : Bytes} {k : ℕ} (hk : k < bytes.length) {f : UInt8 → UInt8}
    (hne : f bytes[k] ≠ bytes[k]) : crc32c (bytes.modify k f) ≠ crc32c bytes := by
  intro h
  exact detecting_crcByte.foldl_modify_ne hk hne _ (UInt32.not_inj.mp h)

/-! ## One flipped bit -/

/-- The bytes with bit `j` of byte `k` flipped. -/
def flipBit (bytes : Bytes) (k j : ℕ) : Bytes :=
  bytes.modify k fun byte => byte ^^^ (1 <<< UInt8.ofNat j)

@[simp] lemma length_flipBit (bytes : Bytes) (k j : ℕ) :
    (flipBit bytes k j).length = bytes.length := List.length_modify ..

/-- The bits of a byte with one bit flipped. -/
lemma getLsbD_flip (byte : UInt8) {i j : ℕ} (hj : j < 8) (hi : i < 8) :
    (byte ^^^ (1 <<< UInt8.ofNat j)).toBitVec.getLsbD i =
      (byte.toBitVec.getLsbD i ^^ decide (i = j)) := by
  have hmask : ((1 : UInt8) <<< UInt8.ofNat j).toBitVec.getLsbD i = decide (i = j) := by
    interval_cases j <;> interval_cases i <;> rfl
  rw [UInt8.toBitVec_xor, BitVec.getLsbD_xor, hmask]

/-- A flipped bit changes the byte. -/
lemma flip_ne (byte : UInt8) {j : ℕ} (hj : j < 8) : byte ^^^ (1 <<< UInt8.ofNat j) ≠ byte := by
  intro h
  have hbit := getLsbD_flip byte hj hj
  rw [h] at hbit
  simp at hbit

/-- Bytes other than the one changed. -/
lemma getElem?_flipBit_ne (bytes : Bytes) {k i : ℕ} (j : ℕ) (hne : k ≠ i) :
    (flipBit bytes k j)[i]? = bytes[i]? := List.getElem?_modify_ne _ _ hne

/-- A range that does not hold the byte changed. -/
lemma range_flipBit (bytes : Bytes) {k : ℕ} (j : ℕ) {o w : ℕ} (h : k < o ∨ o + w ≤ k) :
    ((flipBit bytes k j).drop o).take w = (bytes.drop o).take w := by
  apply List.ext_getElem?
  intro i
  rw [List.getElem?_take, List.getElem?_take]
  split_ifs with hi
  · rw [List.getElem?_drop, List.getElem?_drop, getElem?_flipBit_ne bytes j (by omega)]
  · rfl

/-- A prefix. -/
lemma take_flipBit (bytes : Bytes) (k j n : ℕ) :
    (flipBit bytes k j).take n = flipBit (bytes.take n) k j := by
  apply List.ext_getElem?
  intro i
  rw [flipBit, flipBit, List.getElem?_take, List.getElem?_modify, List.getElem?_modify,
    List.getElem?_take]
  split_ifs <;> rfl

/-- The bytes have changed. -/
lemma flipBit_ne {bytes : Bytes} {k j : ℕ} (hk : k < bytes.length) (hj : j < 8) :
    flipBit bytes k j ≠ bytes := by
  intro h
  have hbyte : (flipBit bytes k j)[k]? = some (bytes[k] ^^^ (1 <<< UInt8.ofNat j)) := by
    rw [flipBit, List.getElem?_modify_eq, List.getElem?_eq_getElem hk]
    rfl
  rw [h, List.getElem?_eq_getElem hk] at hbyte
  exact flip_ne _ hj (Option.some.inj hbyte).symm

/-! ## The decoder on the flipped bytes -/

/-- The trailer of a record, if it has one. -/
def Record.trailer (record : Record) (withCrc : Bool) : Bytes :=
  if withCrc then toLe 4 (crc32c (record.body withCrc)).toNat else []

lemma bytes_eq (record : Record) (withCrc : Bool) : record.bytes withCrc =
    record.header (record.encodedLen withCrc) (crcFlags record.flags withCrc) ++
      (slotArea record.slots ++ record.trailer withCrc) := by
  rw [Record.bytes, Record.body, List.append_assoc]
  rfl

/-- The two length bytes and the two flag bytes of a record. -/
lemma length_and_flags (record : Record) (withCrc : Bool) :
    ((record.bytes withCrc).drop 4).take 2 = toLe 2 (record.encodedLen withCrc) ∧
      ((record.bytes withCrc).drop 6).take 2 =
        toLe 2 (crcFlags record.flags withCrc).toNat := by
  rw [bytes_eq]
  obtain ⟨hlen, hflags, -⟩ := header_fields record (record.encodedLen withCrc)
    (crcFlags record.flags withCrc) (slotArea record.slots ++ record.trailer withCrc)
  exact ⟨hlen, hflags⟩

/-- The low byte of a number has its low bits. -/
lemma getLsbD_low (v : UInt16) {i : ℕ} (hi : i < 8) :
    (UInt8.ofNat v.toNat).toBitVec.getLsbD i = v.toBitVec.getLsbD i := by
  have hlow : (UInt8.ofNat v.toNat).toBitVec.getLsbD i = (v.toNat % 2 ^ 8).testBit i := by
    rw [BitVec.getLsbD, ← UInt8.toNat_ofNat']
    rfl
  rw [hlow, Nat.testBit_mod_two_pow, decide_eq_true hi, Bool.true_and]
  rfl

/-- The first flag byte says in bit 3 whether there is a trailer. -/
lemma exists_flag_byte (record : Record) (withCrc : Bool) :
    ∃ byte : UInt8, (record.bytes withCrc)[6]? = some byte ∧
      byte.toBitVec.getLsbD 3 = withCrc := by
  refine ⟨UInt8.ofNat (crcFlags record.flags withCrc).toNat, ?_, ?_⟩
  · have htwo := congrArg (fun bytes => bytes[0]?) (length_and_flags record withCrc).2
    simpa [List.getElem?_take, toLe] using htwo
  · rw [getLsbD_low _ (by decide), getLsbD_crcFlags _ _ (by decide), if_pos rfl]

/-- Two-byte numbers with the same bytes are equal. -/
lemma eq_of_toLe_two {m n : ℕ} (hm : m ≤ 65535) (hn : n ≤ 65535) (h : toLe 2 m = toLe 2 n) :
    m = n := by
  have hnat := congrArg fromLe h
  rw [fromLe_toLe, fromLe_toLe, Nat.mod_eq_of_lt (by norm_num; omega),
    Nat.mod_eq_of_lt (by norm_num; omega)] at hnat
  exact hnat

variable {record : Record} {k j : ℕ}

/-- If the length bytes are left alone, what the decoder accepts is the encoding of a record as long
as the original. -/
lemma exists_of_decode_flipBit (henc : record.Encodable true) (hlen : k ≠ 4 ∧ k ≠ 5)
    {decoded : DecodedRecord} (h : decode (flipBit (record.bytes true) k j) = .ok decoded) :
    ∃ (record' : Record) (withCrc : Bool), record'.Encodable withCrc ∧
      flipBit (record.bytes true) k j = record'.bytes withCrc := by
  obtain ⟨record', n⟩ := decoded
  obtain ⟨hle, henc', htake⟩ := decode_eq_ok h
  set withCrc := decide (record'.flags &&& FLAG_HAS_CRC ≠ 0)
  refine ⟨record', withCrc, henc', ?_⟩
  have hn : n = record'.encodedLen withCrc := by
    have := congrArg List.length htake
    rwa [List.length_take, Nat.min_eq_left hle, length_bytes] at this
  have hsix : 40 ≤ n := by
    rw [hn, Record.encodedLen, HEADER_LEN]
    omega
  have htotal : record'.encodedLen withCrc = record.encodedLen true := by
    refine eq_of_toLe_two henc'.total_le henc.total_le ?_
    rw [← (length_and_flags record' withCrc).1, ← (length_and_flags record true).1, ← htake,
      List.drop_take, List.take_take, Nat.min_eq_left (by omega), range_flipBit _ _ (by omega)]
  rw [← htake, hn, htotal, ← length_bytes, List.take_of_length_le (by simp)]

/-- A flipped bit that leaves the `HasCrc` flag alone is detected: by the checksum, if nothing else
has detected it.

**Proof sketch.** Otherwise the flipped bytes are the encoding of a record of the same length. If
that has a trailer, the trailer is the checksum of what is in front of it; so the two strings in
front of the trailers differ in one byte and have the same checksum, or they are equal and so are
the trailers. If it has none, its flag bytes differ from the original ones in the `HasCrc` bit. -/
lemma decode_flipBit_of_flag (henc : record.Encodable true) (hk : k < (record.bytes true).length)
    (hj : j < 8) (hlen : k ≠ 4 ∧ k ≠ 5) (hflag : ¬(k = 6 ∧ j = 3)) (decoded : DecodedRecord) :
    decode (flipBit (record.bytes true) k j) ≠ .ok decoded := by
  intro h
  obtain ⟨record', withCrc, henc', hbytes⟩ := exists_of_decode_flipBit henc hlen h
  have hlength : record'.encodedLen withCrc = record.encodedLen true := by
    rw [← length_bytes, ← length_bytes, ← hbytes, length_flipBit]
  cases withCrc with
  | true =>
    set m := HEADER_LEN + (slotArea record.slots).length with hm
    have harea : HEADER_LEN + (slotArea record'.slots).length = m := by
      simp only [Record.encodedLen, if_true] at hlength
      omega
    have hbody : (record.bytes true).take m = record.body true := by
      rw [Record.bytes, List.take_left' (by simp [hm])]
    have hbody' : flipBit (record.body true) k j = record'.body true := by
      rw [← hbody, ← take_flipBit, hbytes, Record.bytes, List.take_left' (by simp [harea])]
    have htrailer : ∀ r : Record, HEADER_LEN + (slotArea r.slots).length = m →
        (r.bytes true).drop m = toLe 4 (crc32c (r.body true)).toNat := fun r hr => by
      rw [Record.bytes, List.drop_left' (by simp [hr]), if_pos rfl]
    have hm' : m + 4 = (record.bytes true).length := by
      rw [length_bytes, Record.encodedLen, if_pos rfl, CRC_LEN]
    rcases Nat.lt_or_ge k m with hlt | hge
    · -- the trailers are the same, and the checksum would be that of two different bodies
      have hcrc : crc32c (record'.body true) = crc32c (record.body true) := by
        rw [← UInt32.toNat_inj]
        have heq : toLe 4 (crc32c (record'.body true)).toNat =
            toLe 4 (crc32c (record.body true)).toNat := by
          rw [← htrailer record' harea, ← htrailer record rfl, ← hbytes]
          have := range_flipBit (record.bytes true) j (o := m) (w := 4) (Or.inl hlt)
          rwa [List.take_of_length_le (by rw [List.length_drop, length_flipBit]; omega),
            List.take_of_length_le (by rw [List.length_drop]; omega)] at this
        have hnat := congrArg fromLe heq
        have hsmall : ∀ crc : UInt32, crc.toNat % 256 ^ 4 = crc.toNat := fun crc =>
          Nat.mod_eq_of_lt (by simpa using crc.toNat_lt)
        rwa [fromLe_toLe, fromLe_toLe, hsmall, hsmall] at hnat
      rw [← hbody'] at hcrc
      exact crc32c_modify_ne (by simpa using hlt) (flip_ne _ hj) hcrc
    · -- the bodies are the same, and so are the trailers
      have hsame : record'.body true = record.body true := by
        rw [← hbody', ← hbody, ← take_flipBit]
        have := range_flipBit (record.bytes true) (k := k) j (o := 0) (w := m)
          (Or.inr (by omega))
        simpa using this
      apply flipBit_ne hk hj
      rw [hbytes, Record.bytes, Record.bytes, hsame]
  | false =>
    obtain ⟨byte, hbyte, hset⟩ := exists_flag_byte record true
    obtain ⟨byte', hbyte', hclear⟩ := exists_flag_byte record' false
    rw [← hbytes] at hbyte'
    by_cases hsix : k = 6
    · subst hsix
      rw [flipBit, List.getElem?_modify_eq, hbyte] at hbyte'
      obtain rfl := Option.some.inj hbyte'
      rw [getLsbD_flip byte hj (by decide), hset] at hclear
      have hthree : 3 = j := by simpa using hclear
      exact hflag ⟨rfl, hthree.symm⟩
    · rw [getElem?_flipBit_ne _ _ hsix, hbyte] at hbyte'
      obtain rfl := Option.some.inj hbyte'
      rw [hset] at hclear
      cases hclear

/-! ## The `HasCrc` flag -/

/-- The high byte of a number has its high bits. -/
lemma getLsbD_high (v : UInt16) {i : ℕ} (hi : i < 8) :
    (UInt8.ofNat (v.toNat / 256)).toBitVec.getLsbD i = v.toBitVec.getLsbD (i + 8) := by
  have hlow : (UInt8.ofNat (v.toNat / 256)).toBitVec.getLsbD i =
      (v.toNat / 2 ^ 8 % 2 ^ 8).testBit i := by
    rw [BitVec.getLsbD, ← UInt8.toNat_ofNat']
    rfl
  rw [hlow, Nat.testBit_mod_two_pow, decide_eq_true hi, Bool.true_and, Nat.testBit_div_two_pow]
  rfl

/-- A byte behind a prefix is flipped. -/
lemma flipBit_append (pre post : Bytes) (byte : UInt8) (j : ℕ) :
    flipBit (pre ++ byte :: post) pre.length j =
      pre ++ (byte ^^^ (1 <<< UInt8.ofNat j)) :: post := by
  induction pre with
  | nil => rfl
  | cons b pre ih => exact congrArg (b :: ·) ih

/-- Flipping bit 3 of the first flag byte clears `HasCrc`. -/
lemma flipBit_flag (record : Record) :
    flipBit (record.bytes true) 6 3 =
      record.header (record.encodedLen true) (crcFlags record.flags false) ++
        (slotArea record.slots ++ record.trailer true) := by
  have hlow : UInt8.ofNat (crcFlags record.flags true).toNat ^^^ (1 <<< UInt8.ofNat 3) =
      UInt8.ofNat (crcFlags record.flags false).toNat := by
    rw [← UInt8.toBitVec_inj]
    apply BitVec.eq_of_getLsbD_eq
    intro i hi
    rw [getLsbD_flip _ (by decide) hi, getLsbD_low _ hi, getLsbD_low _ hi,
      getLsbD_crcFlags _ _ (by omega), getLsbD_crcFlags _ _ (by omega)]
    by_cases h : i = 3 <;> simp [h]
  have hhigh : UInt8.ofNat ((crcFlags record.flags true).toNat / 256) =
      UInt8.ofNat ((crcFlags record.flags false).toNat / 256) := by
    rw [← UInt8.toBitVec_inj]
    apply BitVec.eq_of_getLsbD_eq
    intro i hi
    rw [getLsbD_high _ hi, getLsbD_high _ hi, getLsbD_crcFlags _ _ (by omega),
      getLsbD_crcFlags _ _ (by omega), if_neg (by omega), if_neg (by omega)]
  have hpre : (SYNC ++ toLe 2 (record.encodedLen true)).length = 6 := by simp [SYNC]
  have htwo : ∀ n : ℕ, toLe 2 n = [UInt8.ofNat n, UInt8.ofNat (n / 256)] := fun _ => rfl
  have hflip := flipBit_append (SYNC ++ toLe 2 (record.encodedLen true))
    (UInt8.ofNat ((crcFlags record.flags true).toNat / 256) ::
      (toLe 8 record.sourceTime.toNat ++ toLe 8 record.runId.toNat ++ toLe 8 record.seq.toNat ++
        toLe 4 record.sourceId.toNat ++ toLe 4 record.eventTypeId.toNat ++
        (slotArea record.slots ++ record.trailer true)))
    (UInt8.ofNat (crcFlags record.flags true).toNat) 3
  rw [hpre, hlow] at hflip
  rw [bytes_eq, Record.header, Record.header, htwo (crcFlags _ true).toNat,
    htwo (crcFlags _ false).toNat, ← hhigh]
  simpa using hflip

/-- The four bytes of a number. -/
lemma toLe_four (n : ℕ) : toLe 4 n = [UInt8.ofNat n, UInt8.ofNat (n / 256),
    UInt8.ofNat (n / 256 / 256), UInt8.ofNat (n / 256 / 256 / 256)] := rfl

/-- What is left when some slots are taken off the front of a slot area is a slot area. -/
lemma exists_slotArea_tail {slots : List Slot} (h : ∀ slot ∈ slots, slot.payload.length ≤ 255) :
    ∀ {slots' : List Slot} {tail : Bytes}, (∀ slot ∈ slots', slot.payload.length ≤ 255) →
      slotArea slots' = slotArea slots ++ tail → ∃ more : List Slot, slotArea more = tail := by
  induction slots with
  | nil => exact fun {slots' tail} _ heq => ⟨slots', heq⟩
  | cons slot slots ih =>
    intro slots' tail hslots' heq
    obtain ⟨hslot, hslots⟩ := List.forall_mem_cons.mp h
    cases slots' with
    | nil =>
      have := congrArg List.length heq
      simp [slotArea] at this
      omega
    | cons slot' slots' =>
      obtain ⟨hslot', hslots'⟩ := List.forall_mem_cons.mp hslots'
      rw [slotArea, slotArea, List.append_assoc] at heq
      -- the length bytes agree, and with them the lengths of the two slots
      have hfour := (slot_header_getElem [] (slotArea slots ++ tail) slot).2
      have hfour' := (slot_header_getElem [] (slotArea slots') slot').2
      rw [List.nil_append] at hfour hfour'
      rw [heq, hfour, Option.some.injEq] at hfour'
      have hpayload : slot.payload.length = slot'.payload.length := by
        rw [← toNat_payload_len hslot, ← toNat_payload_len hslot', hfour']
      have hlength : slot'.bytes.length = slot.bytes.length := by simp [hpayload]
      exact ih hslots hslots' (List.append_inj heq hlength).2

/-- A slot area of four bytes ends with a zero: it is one slot without a payload. -/
lemma last_of_slotArea {slots : List Slot} {a b c d : UInt8} (h : slotArea slots = [a, b, c, d]) :
    d = 0 := by
  cases slots with
  | nil => cases h
  | cons slot slots =>
    have hlength := congrArg List.length h
    rw [slotArea, List.length_append, length_slot_bytes] at hlength
    simp only [List.length_cons, List.length_nil] at hlength
    have hfour : (slotArea (slot :: slots))[3]? = some (UInt8.ofNat slot.payload.length) :=
      (slot_header_getElem [] (slotArea slots) slot).2
    rw [h, show slot.payload.length = 0 by omega] at hfour
    exact Option.some.inj hfour

/-- Four bytes of which the last is zero are a slot without a payload. -/
lemma slot_of_last_zero {n : ℕ} (h : UInt8.ofNat (n / 256 / 256 / 256) = 0) :
    Slot.bytes ⟨UInt16.ofNat n, UInt8.ofNat (n / 256 / 256), []⟩ = toLe 4 n := by
  have hlow : UInt8.ofNat (UInt16.ofNat n).toNat = UInt8.ofNat n := by
    rw [← UInt8.toNat_inj, UInt8.toNat_ofNat', UInt8.toNat_ofNat', UInt16.toNat_ofNat']
    omega
  have hhigh : UInt8.ofNat ((UInt16.ofNat n).toNat / 256) = UInt8.ofNat (n / 256) := by
    rw [← UInt8.toNat_inj, UInt8.toNat_ofNat', UInt8.toNat_ofNat', UInt16.toNat_ofNat']
    omega
  have hnone : paddingLen 0 = 0 := rfl
  rw [toLe_four, h, ← hlow, ← hhigh]
  simp [Slot.bytes, hnone, toLe]

/-- **When a flipped `HasCrc` flag goes undetected.** The checksum is then read as the header of a
slot, whose payload must be empty. -/
lemma decode_flipBit_flag (henc : record.Encodable true) :
    (∃ decoded, decode (flipBit (record.bytes true) 6 3) = .ok decoded) ↔
      (record.trailer true).getLast? = some 0 := by
  have hbytes := flipBit_flag record
  obtain ⟨n, hn⟩ : ∃ n, (crc32c (record.body true)).toNat = n := ⟨_, rfl⟩
  have htrailer : record.trailer true = [UInt8.ofNat n, UInt8.ofNat (n / 256),
      UInt8.ofNat (n / 256 / 256), UInt8.ofNat (n / 256 / 256 / 256)] := by
    rw [Record.trailer, if_pos rfl, hn, toLe_four]
  constructor
  · rintro ⟨decoded, hdecode⟩
    obtain ⟨record', withCrc, henc', hbytes'⟩ := exists_of_decode_flipBit henc (by decide) hdecode
    have hclear : withCrc = false := by
      obtain ⟨byte, hbyte, hset⟩ := exists_flag_byte record true
      obtain ⟨byte', hbyte', hset'⟩ := exists_flag_byte record' withCrc
      rw [← hbytes', flipBit, List.getElem?_modify_eq, hbyte] at hbyte'
      obtain rfl := Option.some.inj hbyte'
      rw [getLsbD_flip byte (by decide) (by decide), hset] at hset'
      exact hset'.symm
    subst hclear
    have hareas : slotArea record'.slots = slotArea record.slots ++ record.trailer true := by
      have hdrop := congrArg (List.drop HEADER_LEN) (hbytes.symm.trans hbytes')
      rw [bytes_eq, List.drop_left' (length_header ..), List.drop_left' (length_header ..)] at hdrop
      simpa [Record.trailer] using hdrop.symm
    obtain ⟨more, hmore⟩ := exists_slotArea_tail henc.payload_le henc'.payload_le hareas
    rw [htrailer] at hmore ⊢
    rw [last_of_slotArea hmore]
    rfl
  · intro hlast
    -- the checksum as a slot
    let slot : Slot := ⟨UInt16.ofNat n, UInt8.ofNat (n / 256 / 256), []⟩
    have hslot : slotArea [slot] = record.trailer true := by
      rw [htrailer] at hlast
      rw [slotArea, slotArea, List.append_nil, Record.trailer, if_pos rfl, hn,
        slot_of_last_zero (Option.some.inj hlast)]
    let record' : Record := { record with slots := record.slots ++ [slot] }
    have harea : slotArea record'.slots = slotArea record.slots ++ record.trailer true := by
      rw [← hslot, ← slotArea_append]
    have hlength : record'.encodedLen false = record.encodedLen true := by
      rw [Record.encodedLen, Record.encodedLen, harea, htrailer]
      simp [CRC_LEN, Nat.add_assoc]
    have henc' : record'.Encodable false := by
      refine ⟨fun s hs => ?_, hlength ▸ henc.total_le⟩
      rcases List.mem_append.mp hs with hs | hs
      · exact henc.payload_le s hs
      · obtain rfl := List.mem_singleton.mp hs
        exact Nat.zero_le _
    have hflipped : flipBit (record.bytes true) 6 3 = record'.bytes false := by
      have hnone : record'.trailer false = [] := rfl
      rw [hbytes, bytes_eq record', hlength, harea, hnone, List.append_nil]
      rfl
    have hdecode := decode_bytes henc' []
    rw [List.append_nil, ← hflipped] at hdecode
    exact ⟨_, hdecode⟩

/-- **When a flipped bit is detected.** Of the encoding of a record with a checksum, let one bit
outside the two length bytes be flipped. The decoder then returns an error, unless the bit is the
`HasCrc` flag and the encoding ends with a zero byte. -/
theorem decode_flipBit {record : Record} {bytes : Bytes} (hencode : record.encode true = .ok bytes)
    {k j : ℕ} (hk : k < bytes.length) (hj : j < 8) (hlen : k ≠ 4 ∧ k ≠ 5) :
    (∃ error, decode (flipBit bytes k j) = .err error) ↔
      ¬((k = 6 ∧ j = 3) ∧ bytes.getLast? = some 0) := by
  obtain ⟨henc, rfl⟩ := encode_eq_ok_iff.mp hencode
  have herr : (∃ error, decode (flipBit (record.bytes true) k j) = .err error) ↔
      ¬∃ decoded, decode (flipBit (record.bytes true) k j) = .ok decoded := by
    cases hdecode : decode (flipBit (record.bytes true) k j) with
    | ok decoded => simp
    | err error => simp
    | panic => exact absurd hdecode (decode_ne_panic _)
  rw [herr, not_iff_not]
  by_cases hflag : k = 6 ∧ j = 3
  · obtain ⟨rfl, rfl⟩ := hflag
    have hlast : (record.bytes true).getLast? = (record.trailer true).getLast? := by
      rw [bytes_eq, Record.trailer, if_pos rfl, toLe_four]
      simp
    rw [decode_flipBit_flag henc, hlast, and_iff_right ⟨rfl, rfl⟩]
  · refine iff_of_false ?_ fun h => hflag h.1
    rintro ⟨decoded, hdecode⟩
    exact decode_flipBit_of_flag henc hk hj hlen hflag decoded hdecode

/-- A flipped bit of the sequence number of a record is detected. -/
theorem decode_flipBit_seq :
    ∃ bytes, (Record.new 1780000000000000000 1 142 7 2).encode true = .ok bytes ∧
      24 < bytes.length ∧ ∃ error, decode (flipBit bytes 24 0) = .err error := by
  obtain ⟨bytes, hbytes, hlong⟩ : ∃ bytes, (Record.new 1780000000000000000 1 142 7 2).encode true =
      .ok bytes ∧ 24 < bytes.length := ⟨_, encode_of_encodable ⟨by decide, by decide⟩, by decide⟩
  refine ⟨bytes, hbytes, hlong, (decode_flipBit hbytes hlong (by decide) (by decide)).mpr ?_⟩
  rintro ⟨⟨hk, -⟩, -⟩
  exact absurd hk (by decide)

/-- The encoding of this record ends with a zero byte. With its `HasCrc` flag flipped it decodes to
a record with a slot that was never written. -/
theorem decode_flipBit_undetected :
    ∃ bytes, (Record.new 1780000000000000000 1 142 7 2).encode true = .ok bytes ∧
      decode (flipBit bytes 6 3) =
        .ok ⟨⟨0, 1780000000000000000, 1, 142, 7, 2, [⟨0x420E, 0x9D, []⟩]⟩, 44⟩ :=
  ⟨[0x4F, 0x4F, 0x54, 0x32, 44, 0, 8, 0, 0, 0, 50, 180, 145, 212, 179, 24, 1, 0, 0, 0, 0, 0, 0, 0,
    142, 0, 0, 0, 0, 0, 0, 0, 7, 0, 0, 0, 2, 0, 0, 0, 14, 66, 157, 0],
    by decide +kernel, by decide +kernel⟩

end OpenOT
