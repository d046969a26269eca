import OpenOT.Carriage.Corruption
import OpenOT.Lib.CyclicCode
import OpenOT.St.Checksum

set_option relaxedAutoImplicit false
set_option autoImplicit false

/-!
# Error detection

What the decoder makes of an encoded record of which any number of bits have been flipped. A record
with its trailer is, up to a polynomial that depends on its length only, a multiple of the
Castagnoli polynomial; so the flipped bits of an error that is not detected are themselves a
multiple, if the error leaves the length and the `HasCrc` flag alone.

## Main definitions

* `OpenOT.corrupt` — a byte string with the bits of a mask flipped.
* `OpenOT.SparesFraming` — a mask that leaves the length and the `HasCrc` flag alone.

## Main results

* `OpenOT.castagnoli_dvd_of_decode` — the mask of an error that is not detected.
* `OpenOT.decode_rejects_burst` — bursts of up to 32 bits are detected.
* `OpenOT.decode_rejects_few` — errors of two bits, or of an odd number, are detected.
-/

namespace OpenOT

open Rust Polynomial BitDivision

/-! ## Corrupted bytes -/

/-- The bytes with the bits of a mask flipped. -/
def corrupt (bytes mask : Bytes) : Bytes := List.zipWith (· ^^^ ·) bytes mask

/-- The mask leaves the two length bytes and the `HasCrc` flag alone. -/
def SparesFraming (mask : Bytes) : Prop :=
  mask[4]? = some 0 ∧ mask[5]? = some 0 ∧ (mask.getD 6 0).toBitVec.getLsbD 3 = false

instance (mask : Bytes) : Decidable (SparesFraming mask) :=
  inferInstanceAs (Decidable (_ ∧ _ ∧ _))

section Corrupt

variable {bytes mask : Bytes}

lemma length_corrupt (h : mask.length = bytes.length) :
    (corrupt bytes mask).length = bytes.length := by
  simp [corrupt, h]

/-- Both at once: the bits of the mask are added. -/
lemma ofBits_corrupt (h : mask.length = bytes.length) :
    ofBits (messageBits (corrupt bytes mask)) =
      ofBits (messageBits bytes) + ofBits (messageBits mask) := by
  induction bytes generalizing mask with
  | nil => simp [corrupt, messageBits, ofBits, List.length_eq_zero_iff.mp h]
  | cons byte bytes ih =>
    obtain _ | ⟨flips, mask⟩ := mask
    · cases h
    have hlength : mask.length = bytes.length := Nat.succ.inj h
    have hbits : ∀ bytes : Bytes, (messageBits bytes).length = 8 * bytes.length := fun bytes => by
      simp [messageBits, List.length_flatMap, Nat.mul_comm]
    have ih := ih hlength
    have hrest := length_corrupt hlength
    unfold corrupt messageBits at ih
    unfold corrupt messageBits
    rw [List.zipWith_cons_cons, List.flatMap_cons, List.flatMap_cons, List.flatMap_cons,
      ofBits_append, ofBits_append, ofBits_append, ih, UInt8.toBitVec_xor]
    have hxor := ofRegister_xor byte.toBitVec flips.toBitVec
    unfold ofRegister at hxor
    have hlen₁ := hbits (List.zipWith (· ^^^ ·) bytes mask)
    have hlen₂ := hbits bytes
    have hlen₃ := hbits mask
    unfold messageBits at hlen₁ hlen₂ hlen₃
    unfold corrupt at hrest
    rw [hxor, hlen₁, hlen₂, hlen₃, hrest, hlength]
    ring

/-- A byte that the mask leaves alone. -/
lemma getElem?_corrupt {i : ℕ} (h : mask[i]? = some 0) : (corrupt bytes mask)[i]? = bytes[i]? := by
  rw [corrupt, List.getElem?_zipWith, h]
  cases bytes[i]? <;> simp

end Corrupt

/-! ## Code words -/

/-- The complement adds all ones. -/
lemma ofRegister_not (v : UInt32) :
    ofRegister (~~~ v).toBitVec = ofRegister v.toBitVec + ofRegister 0xFFFFFFFF#32 := by
  have hxor : (~~~ v).toBitVec = v.toBitVec ^^^ 0xFFFFFFFF#32 := by
    rw [UInt32.toBitVec_not, ← BitVec.xor_allOnes]
    rfl
  rw [hxor, ofRegister_xor]

/-- The bits of a register, counted. -/
lemma bitsOf_eq_map {w : ℕ} (r : BitVec w) : bitsOf r = (List.range w).map r.getLsbD := by
  refine List.ext_getElem (by simp) fun i hi _ => ?_
  simp

/-- The bits of a number written in bytes are its bits. -/
lemma messageBits_toLe (w n : ℕ) : messageBits (toLe w n) = (List.range (8 * w)).map n.testBit := by
  induction w generalizing n with
  | zero => rfl
  | succ w ih =>
    have hlow : bitsOf (UInt8.ofNat n).toBitVec = (List.range 8).map n.testBit := by
      rw [bitsOf_eq_map]
      refine List.map_congr_left fun i hi => ?_
      have hbit : (UInt8.ofNat n).toBitVec.getLsbD i = (n % 2 ^ 8).testBit i := by
        rw [BitVec.getLsbD, ← UInt8.toNat_ofNat']
        rfl
      rw [hbit, Nat.testBit_mod_two_pow, decide_eq_true (List.mem_range.mp hi), Bool.true_and]
    have hhigh : messageBits (toLe w (n / 256)) =
        (List.range (8 * w)).map fun i => n.testBit (8 + i) := by
      rw [ih]
      refine List.map_congr_left fun i _ => ?_
      rw [show 256 = 2 ^ 8 from rfl, Nat.testBit_div_two_pow, Nat.add_comm]
    unfold messageBits at hhigh ⊢
    rw [toLe, List.flatMap_cons, hlow, hhigh, Nat.mul_succ, Nat.add_comm, List.range_add,
      List.map_append, List.map_map]
    rfl

/-- The bits of the trailer are those of the register. -/
lemma messageBits_trailer (v : UInt32) : messageBits (toLe 4 v.toNat) = bitsOf v.toBitVec := by
  rw [messageBits_toLe, bitsOf_eq_map]
  rfl

/-- What is left of a record and its trailer in the division: a polynomial of the length. -/
noncomputable def residue (length : ℕ) : (ZMod 2)[X] :=
  X ^ (8 * length) * ofRegister 0xFFFFFFFF#32 + ofRegister 0xFFFFFFFF#32

/-- **A record with its trailer is a code word**, up to the residue. -/
lemma castagnoli_dvd_body (body : Bytes) : castagnoli ∣
    ofBits (messageBits (body ++ toLe 4 (crc32c body).toNat)) + residue body.length := by
  have htrailer : ofBits (messageBits (toLe 4 (crc32c body).toNat)) =
      remainder body + ofRegister 0xFFFFFFFF#32 := by
    rw [messageBits_trailer, ← crc32c_remainder, ← ofRegister_not, UInt32.not_not]
    rfl
  have hbits : messageBits (body ++ toLe 4 (crc32c body).toNat) =
      messageBits body ++ messageBits (toLe 4 (crc32c body).toNat) := List.flatMap_append
  have hlength : (messageBits (toLe 4 (crc32c body).toNat)).length = 32 := by
    rw [messageBits_trailer, length_bitsOf]
  have hsum : ofBits (messageBits (body ++ toLe 4 (crc32c body).toNat)) + residue body.length =
      remainder body + (X ^ (8 * body.length) * ofRegister 0xFFFFFFFF#32 +
        X ^ 32 * ofBits (messageBits body)) +
        (ofRegister 0xFFFFFFFF#32 + ofRegister 0xFFFFFFFF#32) := by
    rw [hbits, ofBits_append, htrailer, hlength, residue]
    ring
  rw [hsum, CharTwo.add_self_eq_zero, add_zero, ← CharTwo.sub_eq_add]
  exact dvd_modByMonic_sub _ _

/-! ## Errors that are not detected -/

variable {record : Record} {mask : Bytes}

/-- If the length bytes are left alone, what the decoder accepts is the encoding of a record as long
as the original. -/
lemma exists_of_decode (henc : record.Encodable true) {bytes : Bytes}
    (hlength : bytes.length = (record.bytes true).length)
    (htotal : (bytes.drop 4).take 2 = ((record.bytes true).drop 4).take 2)
    {decoded : DecodedRecord} (h : decode bytes = .ok decoded) :
    ∃ (record' : Record) (withCrc : Bool), record'.Encodable withCrc ∧
      bytes = record'.bytes withCrc := by
  obtain ⟨record', n⟩ := decoded
  obtain ⟨hle, henc', htake⟩ := decode_eq_ok h
  set withCrc := decide (record'.flags &&& FLAG_HAS_CRC ≠ 0)
  refine ⟨record', withCrc, henc', ?_⟩
  have hn : n = record'.encodedLen withCrc := by
    have := congrArg List.length htake
    rwa [List.length_take, Nat.min_eq_left hle, length_bytes] at this
  have hsix : 40 ≤ n := by
    rw [hn, Record.encodedLen, HEADER_LEN]
    omega
  have hsame : record'.encodedLen withCrc = record.encodedLen true := by
    refine eq_of_toLe_two henc'.total_le henc.total_le ?_
    rw [← (length_and_flags record' withCrc).1, ← (length_and_flags record true).1, ← htake,
      List.drop_take, List.take_take, Nat.min_eq_left (by omega), htotal]
  rw [← htake, hn, hsame, ← length_bytes, ← hlength, List.take_length]

/-- Two bytes that are left alone. -/
lemma take_drop_corrupt (bytes : Bytes) {o : ℕ} (h : mask[o]? = some 0)
    (h' : mask[o + 1]? = some 0) :
    ((corrupt bytes mask).drop o).take 2 = (bytes.drop o).take 2 := by
  refine List.ext_getElem? fun i => ?_
  rw [List.getElem?_take, List.getElem?_take]
  split_ifs with hi
  · rw [List.getElem?_drop, List.getElem?_drop]
    obtain rfl | rfl : i = 0 ∨ i = 1 := by omega
    · exact getElem?_corrupt h
    · exact getElem?_corrupt h'
  · rfl

/-- The `HasCrc` flag of corrupted bytes. -/
lemma flag_corrupt {bytes : Bytes} {byte : UInt8} (hlength : mask.length = bytes.length)
    (hbyte : bytes[6]? = some byte) (hspares : SparesFraming mask) :
    ∃ byte', (corrupt bytes mask)[6]? = some byte' ∧
      byte'.toBitVec.getLsbD 3 = byte.toBitVec.getLsbD 3 := by
  obtain ⟨hlt, -⟩ := List.getElem?_eq_some_iff.mp hbyte
  have hmask : mask[6]? = some (mask.getD 6 0) := by
    rw [List.getD_eq_getElem?_getD, List.getElem?_eq_getElem (hlength ▸ hlt), Option.getD_some]
  refine ⟨byte ^^^ mask.getD 6 0, ?_, ?_⟩
  · rw [corrupt, List.getElem?_zipWith, hbyte, hmask]
  · rw [UInt8.toBitVec_xor, BitVec.getLsbD_xor, hspares.2.2, Bool.xor_false]

/-- **An error that is not detected is a code word**, if it leaves the length and the `HasCrc` flag
alone.

**Proof sketch.** The corrupted bytes are the encoding of a record of the same length, which has a
trailer since the flag is still set. So both strings are code words up to the same residue, and the
mask, which is their sum, is one. -/
theorem castagnoli_dvd_of_decode (henc : record.Encodable true)
    (hlength : mask.length = (record.bytes true).length) (hspares : SparesFraming mask)
    {decoded : DecodedRecord} (h : decode (corrupt (record.bytes true) mask) = .ok decoded) :
    castagnoli ∣ ofBits (messageBits mask) := by
  have hcorrupt := length_corrupt hlength
  obtain ⟨record', withCrc, henc', hbytes⟩ := exists_of_decode henc hcorrupt
    (take_drop_corrupt _ hspares.1 hspares.2.1) h
  obtain rfl : withCrc = true := by
    obtain ⟨byte, hbyte, hset⟩ := exists_flag_byte record true
    obtain ⟨byte', hbyte', hsame⟩ := flag_corrupt hlength hbyte hspares
    obtain ⟨byte'', hbyte'', hflag⟩ := exists_flag_byte record' withCrc
    rw [hbytes, hbyte''] at hbyte'
    obtain rfl := Option.some.inj hbyte'
    rw [← hflag, hsame, hset]
  have hbody : (record'.body true).length = (record.body true).length := by
    have hlen := congrArg List.length hbytes
    rw [hcorrupt, Record.bytes, Record.bytes, List.length_append, List.length_append, if_pos rfl,
      if_pos rfl, length_toLe, length_toLe] at hlen
    omega
  have hcode : ∀ r : Record, castagnoli ∣
      ofBits (messageBits (r.bytes true)) + residue (r.body true).length := fun r => by
    have hbytes : r.bytes true = r.body true ++ toLe 4 (crc32c (r.body true)).toNat := rfl
    rw [hbytes]
    exact castagnoli_dvd_body _
  have hsum := dvd_add (hcode record) (hbody ▸ hcode record')
  rw [← hbytes, ofBits_corrupt hlength] at hsum
  generalize ofBits (messageBits (record.bytes true)) = word at hsum
  generalize residue (record.body true).length = rest at hsum
  have hmask : word + rest + (word + ofBits (messageBits mask) + rest) =
      ofBits (messageBits mask) + (word + word) + (rest + rest) := by
    ring
  rwa [hmask, CharTwo.add_self_eq_zero, CharTwo.add_self_eq_zero, add_zero, add_zero] at hsum

/-- An error of which the mask is no code word is detected. -/
lemma decode_rejects {bytes : Bytes} (hencode : record.encode true = .ok bytes)
    (hlength : mask.length = bytes.length) (hspares : SparesFraming mask)
    (hnot : ¬castagnoli ∣ ofBits (messageBits mask)) :
    ∃ error, decode (corrupt bytes mask) = .err error := by
  obtain ⟨henc, rfl⟩ := encode_eq_ok_iff.mp hencode
  cases h : decode (corrupt (record.bytes true) mask) with
  | ok decoded => exact absurd (castagnoli_dvd_of_decode henc hlength hspares h) hnot
  | err error => exact ⟨error, rfl⟩
  | panic => exact absurd h (decode_ne_panic _)

/-! ## The Castagnoli polynomial -/

lemma natDegree_castagnoli : castagnoli.natDegree = 32 := by
  rw [← divisor_reflectedPoly, natDegree_divisor]

lemma coeff_castagnoli : castagnoli.coeff 0 ≠ 0 := by
  simp [castagnoli, coeff_X_pow]

/-- The number of terms is even. -/
lemma eval_castagnoli : castagnoli.eval 1 = 0 := by
  simp only [castagnoli, eval_add, eval_pow, eval_X, one_pow, eval_one]
  decide

/-- The register of `X` is back after 31 squarings. -/
lemma cycle_castagnoli :
    (fun s => mul REFLECTED_POLY.toBitVec s s)^[31] 0x40000000#32 = 0x40000000#32 := by
  set_option maxRecDepth 100000 in decide +kernel

lemma ofRegister_X : ofRegister 0x40000000#32 = X := by
  have hbits : bitsOf 0x40000000#32 = List.replicate 30 false ++ [true, false] := by
    decide +kernel
  rw [ofRegister, hbits, ofBits_replicate_append]
  simp [ofBits]

/-- **The order of `X`** modulo the Castagnoli polynomial is the prime `2 ^ 31 - 1`. -/
lemma not_castagnoli_dvd {k : ℕ} (hpos : 0 < k) (hlt : k < 2 ^ 31 - 1) : ¬castagnoli ∣ X ^ k + 1 := by
  have hprime : (2 ^ 31 - 1).Prime := lucas_lehmer_sufficiency 31 (by norm_num) (by norm_num)
  have hconst := coeff_castagnoli
  rw [← divisor_reflectedPoly] at hconst ⊢
  refine not_dvd_X_pow_add_one hprime (dvd_X_pow_add_one hconst ofRegister_X cycle_castagnoli)
    ?_ hpos hlt
  intro hdvd
  have hdegree := natDegree_le_of_dvd hdvd (X_add_C_ne_zero 1)
  rw [natDegree_divisor, ← C_1, natDegree_X_add_C] at hdegree
  omega

/-! ## What is detected -/

variable {bytes : Bytes}

/-- **Bursts are detected.** Of the encoding of a record with a checksum, let any bits be flipped
that lie within 32 bits of each other, and neither in the two length bytes nor the `HasCrc` flag. The
decoder then returns an error. -/
theorem decode_rejects_burst (hencode : record.encode true = .ok bytes)
    (hlength : mask.length = bytes.length) (hspares : SparesFraming mask) {front back : ℕ}
    {burst : List Bool} (hbits : messageBits mask =
      List.replicate front false ++ burst ++ List.replicate back false)
    (hburst : burst.length ≤ 32) (hset : true ∈ burst) :
    ∃ error, decode (corrupt bytes mask) = .err error := by
  refine decode_rejects hencode hlength hspares ?_
  rw [hbits]
  exact not_dvd_of_burst coeff_castagnoli (natDegree_castagnoli ▸ hburst) hset

/-- All bits of the low half of the sequence number are flipped. -/
def seqMask : Bytes := List.replicate 24 0 ++ List.replicate 4 0xFF ++ List.replicate 16 0

/-- A burst of 32 bits in the sequence number is detected. -/
theorem decode_rejects_burst_seq :
    ∃ bytes, (Record.new 1780000000000000000 1 142 7 2).encode true = .ok bytes ∧
      ∃ error, decode (corrupt bytes seqMask) = .err error := by
  obtain ⟨bytes, hbytes, hlong⟩ : ∃ bytes, (Record.new 1780000000000000000 1 142 7 2).encode true =
      .ok bytes ∧ bytes.length = 44 := ⟨_, encode_of_encodable ⟨by decide, by decide⟩, by decide⟩
  have hbits : messageBits seqMask =
      List.replicate 192 false ++ List.replicate 32 true ++ List.replicate 128 false := by
    decide +kernel
  exact ⟨bytes, hbytes, decode_rejects_burst hbytes (hlong ▸ rfl) (by decide) hbits (by decide)
    (by decide)⟩

/-- **Few flipped bits are detected**, wherever they are: of the encoding of a record with a
checksum, let two bits be flipped, or three or any other odd number, but neither in the two length
bytes nor the `HasCrc` flag. The decoder then returns an error. -/
theorem decode_rejects_few (hencode : record.encode true = .ok bytes)
    (hlength : mask.length = bytes.length) (hspares : SparesFraming mask)
    (hfew : (messageBits mask).count true = 2 ∨ Odd ((messageBits mask).count true)) :
    ∃ error, decode (corrupt bytes mask) = .err error := by
  refine decode_rejects hencode hlength hspares ?_
  rcases hfew with hpair | hodd
  · refine not_dvd_of_pair coeff_castagnoli (fun k hpos hlt => not_castagnoli_dvd hpos ?_) hpair
    -- a record has at most 65535 bytes
    obtain ⟨henc, rfl⟩ := encode_eq_ok_iff.mp hencode
    have htotal := henc.total_le
    rw [length_bytes] at hlength
    have hmask : (messageBits mask).length = 8 * mask.length := by
      simp [messageBits, List.length_flatMap, Nat.mul_comm]
    omega
  · exact not_dvd_of_odd eval_castagnoli hodd

/-- Two bits are flipped, one in the source time and one in the trailer. -/
def farMask : Bytes := List.replicate 8 0 ++ [1] ++ List.replicate 34 0 ++ [0x80]

/-- Two flipped bits far apart are detected. -/
theorem decode_rejects_few_far :
    ∃ bytes, (Record.new 1780000000000000000 1 142 7 2).encode true = .ok bytes ∧
      ∃ error, decode (corrupt bytes farMask) = .err error := by
  obtain ⟨bytes, hbytes, hlong⟩ : ∃ bytes, (Record.new 1780000000000000000 1 142 7 2).encode true =
      .ok bytes ∧ bytes.length = 44 := ⟨_, encode_of_encodable ⟨by decide, by decide⟩, by decide⟩
  have hpair : (messageBits farMask).count true = 2 := by decide +kernel
  exact ⟨bytes, hbytes, decode_rejects_few hbytes (hlong ▸ rfl) (by decide) (.inl hpair)⟩

end OpenOT
