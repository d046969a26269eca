import OpenOT.Lib.LittleEndian

set_option relaxedAutoImplicit false
set_option autoImplicit false

/-!
# CRC-32C

The bitwise, table-free checksum of the record trailer (`crc.rs`): reflected polynomial
`0x82F63B78`, initial value and final complement `0xFFFFFFFF`.

## Main definitions

* `OpenOT.crc32c` — the checksum of a byte string.

## Main results

* `OpenOT.toBitVec_crcBit` — a turn of the inner loop, by the low bit.
-/

namespace OpenOT

open Rust

/-- The reflected Castagnoli polynomial. -/
def REFLECTED_POLY : UInt32 := 0x82F63B78

/-- One turn of the inner loop: `mask` is all ones exactly when the low bit is set. -/
def crcBit (crc : UInt32) : UInt32 :=
  let mask := 0 - (crc &&& 1)
  (crc >>> 1) ^^^ (REFLECTED_POLY &&& mask)

/-- The low bit of a register. -/
lemma and_one_eq (crc : UInt32) :
    crc &&& 1 = if crc.toBitVec.getLsbD 0 then 1 else 0 := by
  have hlow : (crc &&& 1).toBitVec =
      BitVec.setWidth 32 (BitVec.ofBool (crc.toBitVec.getLsbD 0)) := by
    rw [UInt32.toBitVec_and]
    exact BitVec.and_one_eq_setWidth_ofBool_getLsbD
  rw [← UInt32.toBitVec_inj, hlow]
  cases crc.toBitVec.getLsbD 0 <;> rfl

/-- The mask of an inner turn is all ones or all zeros. -/
lemma toBitVec_crcBit (crc : UInt32) :
    (crcBit crc).toBitVec = if crc.toBitVec.getLsbD 0 then
      (crc.toBitVec >>> 1) ^^^ REFLECTED_POLY.toBitVec else crc.toBitVec >>> 1 := by
  rw [crcBit, and_one_eq]
  split_ifs
  · rfl
  · simp

/-- One turn of the outer loop: mix in a byte, then eight inner turns. -/
def crcByte (crc : UInt32) (byte : UInt8) : UInt32 :=
  Nat.repeat crcBit 8 (crc ^^^ byte.toUInt32)

/-- The CRC-32C (Castagnoli) checksum of `bytes`. -/
def crc32c (bytes : Bytes) : UInt32 :=
  ~~~ (bytes.foldl crcByte 0xFFFFFFFF)

-- the known answer of `crc32c("123456789")`
example : crc32c [0x31, 0x32, 0x33, 0x34, 0x35, 0x36, 0x37, 0x38, 0x39] = 0xE3069283 := by
  decide +kernel

end OpenOT
