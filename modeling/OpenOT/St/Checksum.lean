import OpenOT.Lib.BitDivision
import OpenOT.St.Writers

set_option relaxedAutoImplicit false
set_option autoImplicit false

/-!
# The checksum as a remainder

Both implementations of the checksum shift a register of 32 bits, one with a branch on the low bit,
one with a mask. What is left in it is the remainder of the message in the division by the
Castagnoli polynomial, in the reflected convention: the low bit of a byte comes first, and the low
bit of the register is the coefficient of the highest power.

## Main definitions

* `OpenOT.castagnoli` — the divisor.
* `OpenOT.remainder` — the remainder of the bytes behind the initial value, with 32 zeros appended.

## Main results

* `OpenOT.crc32c_remainder` — the complement of the checksum is the remainder.
* `OpenOT.St.crc32c_agree` — the two implementations agree, with each other and with the division.

## Design

A message of `n` bytes is a polynomial of degree below `8 * n`. The initial value of the register
stands 32 places higher than the bits that are shifted in behind it, so it enters with the power
`8 * n`, where the bits of the message enter with `32`.
-/

namespace OpenOT

open Rust Polynomial BitDivision

/-! ## The division -/

/-- The Castagnoli polynomial, `0x1EDC6F41` with its leading term. -/
noncomputable def castagnoli : (ZMod 2)[X] :=
  X ^ 32 + X ^ 28 + X ^ 27 + X ^ 26 + X ^ 25 + X ^ 23 + X ^ 22 + X ^ 20 + X ^ 19 + X ^ 18 + X ^ 14 +
    X ^ 13 + X ^ 11 + X ^ 10 + X ^ 9 + X ^ 8 + X ^ 6 + 1

/-- The bits of bytes in the order in which they are transmitted: of each byte, the low bit
first. -/
def messageBits (bytes : Bytes) : List Bool := bytes.flatMap fun byte => bitsOf byte.toBitVec

/-- The remainder of bytes behind the initial value `0xFFFFFFFF`. -/
noncomputable def remainder (bytes : Bytes) : (ZMod 2)[X] :=
  (X ^ (8 * bytes.length) * ofRegister 0xFFFFFFFF#32 + X ^ 32 * ofBits (messageBits bytes)) %ₘ
    castagnoli

/-- The constant of the implementations holds the lower terms, reflected. -/
lemma divisor_reflectedPoly : divisor REFLECTED_POLY.toBitVec = castagnoli := by
  have hbits : bitsOf REFLECTED_POLY.toBitVec =
      [false, false, false, true, true, true, true, false, true, true, false, true, true, true,
        false, false, false, true, true, false, true, true, true, true, false, true, false, false,
        false, false, false, true] := by
    decide +kernel
  rw [divisor, ofRegister, hbits, castagnoli]
  simp only [ofBits, List.length_cons, List.length_nil, Bool.false_eq_true, if_false, if_true]
  ring

/-! ## The implementation -/

/-- The rounds of a byte. -/
lemma toBitVec_crcByte (crc : UInt32) (byte : UInt8) :
    (crcByte crc byte).toBitVec = update REFLECTED_POLY.toBitVec crc.toBitVec byte.toBitVec := by
  have hrounds : ∀ (k : ℕ) (crc : UInt32),
      (crcBit^[k] crc).toBitVec = (shift REFLECTED_POLY.toBitVec)^[k] crc.toBitVec := by
    intro k
    induction k with
    | zero => exact fun _ => rfl
    | succ k ih =>
      intro crc
      rw [Function.iterate_succ_apply, ih, Function.iterate_succ_apply, toBitVec_crcBit]
      rfl
  exact hrounds 8 (crc ^^^ byte.toUInt32)

/-- The loop over the bytes. -/
lemma toBitVec_foldl_crcByte (bytes : Bytes) (crc : UInt32) :
    (bytes.foldl crcByte crc).toBitVec =
      (bytes.map UInt8.toBitVec).foldl (update REFLECTED_POLY.toBitVec) crc.toBitVec := by
  induction bytes generalizing crc with
  | nil => rfl
  | cons byte bytes ih =>
    rw [List.foldl_cons, ih, toBitVec_crcByte, List.map_cons, List.foldl_cons]

/-- **The complement of the checksum is the remainder.** -/
lemma crc32c_remainder (bytes : Bytes) :
    ofRegister (~~~ crc32c bytes).toBitVec = remainder bytes := by
  rw [crc32c, UInt32.not_not, toBitVec_foldl_crcByte,
    ofRegister_foldl _ _ _ (by decide), divisor_reflectedPoly, List.length_map, List.flatMap_map]
  rfl

end OpenOT

namespace OpenOT.St

open Rust BitDivision

/-- **The two implementations of the checksum agree.** Over the front of every buffer, the branch of
the controller and the mask of the byte-pool give one checksum, and that is the only double word
whose complement is the remainder in the division by the Castagnoli polynomial. -/
theorem crc32c_agree {data : Bytes} {length : UInt16} (hdata : data.length = 256)
    (hlength : length.toNat ≤ 256) : ∃ crc, crc32c data length = some crc ∧
      crc = OpenOT.crc32c (data.take length.toNat) ∧
      ∀ other : UInt32,
        ofRegister (~~~ other).toBitVec = remainder (data.take length.toNat) ↔ other = crc := by
  refine ⟨_, crc32c_eq (hdata ▸ hlength), rfl, fun other => ⟨fun h => ?_, fun h => ?_⟩⟩
  · rw [← crc32c_remainder] at h
    have hnot : ~~~ other = ~~~ OpenOT.crc32c (data.take length.toNat) :=
      UInt32.toBitVec_inj.mp (ofRegister_injective h)
    rw [← UInt32.not_not (a := other), hnot, UInt32.not_not]
  · rw [h, crc32c_remainder]

/-- The bytes of `123456789`. -/
def digits : Bytes := [0x31, 0x32, 0x33, 0x34, 0x35, 0x36, 0x37, 0x38, 0x39]

/-- The known answer, at the front of a buffer. -/
theorem crc32c_agree_digits :
    crc32c (digits ++ List.replicate 247 0) 9 = some 0xE3069283 ∧
      ofRegister (~~~ 0xE3069283 : UInt32).toBitVec = remainder digits := by
  have hvalue : crc32c (digits ++ List.replicate 247 0) 9 = some 0xE3069283 := by decide +kernel
  have hfront : (digits ++ List.replicate 247 0).take (9 : UInt16).toNat = digits := by
    decide +kernel
  have hdata : (digits ++ List.replicate 247 0).length = 256 := by decide +kernel
  have hlength : (9 : UInt16).toNat ≤ 256 := by decide
  obtain ⟨crc, hcrc, -, honly⟩ := crc32c_agree hdata hlength
  rw [hfront] at honly
  exact ⟨hvalue, (honly _).mpr (Option.some.inj (hvalue.symm.trans hcrc))⟩

end OpenOT.St
