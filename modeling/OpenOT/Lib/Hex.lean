import OpenOT.Lib.KeyedTable

set_option relaxedAutoImplicit false
set_option autoImplicit false

/-!
# Hexadecimal digits

Bytes as pairs of digits, over any alphabet of 16 characters. What has been written can be read
back if no character occurs twice in the alphabet.

## Main definitions

* `Hex.write`, `Hex.read` — bytes to digits, and back.

## Main results

* `Hex.read_write` — what has been written is read back.
-/

namespace Hex

variable {digits : Vector Char 16}

/-- Two digits for each byte, the high one first. -/
def write (digits : Vector Char 16) (bytes : List UInt8) : List Char :=
  bytes.flatMap fun byte : UInt8 =>
    [digits.get (Fin.ofNat 16 (byte >>> 4).toNat), digits.get (Fin.ofNat 16 (byte &&& 0x0F).toNat)]

/-- Whether a digit is a character. -/
def isDigit (c digit : Char) : Bool := digit == c

/-- The bytes of pairs of digits; `none` if the digits are not pairs of characters of the
alphabet. -/
def read (digits : Vector Char 16) : List Char → Option (List UInt8)
  | [] => some []
  | [_] => none
  | high :: low :: rest => do
    let i ← KeyedTable.find isDigit digits high
    let j ← KeyedTable.find isDigit digits low
    let bytes ← read digits rest
    pure (UInt8.ofNat (16 * i.val + j.val) :: bytes)

/-- The two halves of a byte. -/
lemma halves (byte : UInt8) :
    UInt8.ofNat (16 * (Fin.ofNat 16 (byte >>> 4).toNat).val +
      (Fin.ofNat 16 (byte &&& 0x0F).toNat).val) = byte := by
  have hlt := byte.toNat_lt
  have hhigh : (byte >>> 4).toNat = byte.toNat / 16 := by
    rw [UInt8.toNat_shiftRight, Nat.shiftRight_eq_div_pow]
    rfl
  have hlow : (byte &&& 0x0F).toNat = byte.toNat % 16 := by
    rw [UInt8.toNat_and]
    exact Nat.and_two_pow_sub_one_eq_mod byte.toNat 4
  rw [← UInt8.toNat_inj, UInt8.toNat_ofNat']
  simp only [Fin.val_ofNat, hhigh, hlow]
  omega

/-- **What has been written is read back.** -/
lemma read_write (hdistinct : ∀ i j, digits.get i = digits.get j → i = j) (bytes : List UInt8) :
    read digits (write digits bytes) = some bytes := by
  have hfind : ∀ i, KeyedTable.find isDigit digits (digits.get i) = some i := by
    intro i
    refine KeyedTable.find_eq (fun c i j hi hj => hdistinct i j ?_) (beq_self_eq_true _)
    exact (eq_of_beq hi).trans (eq_of_beq hj).symm
  induction bytes with
  | nil => rfl
  | cons byte bytes ih =>
    rw [write, List.flatMap_cons, List.cons_append, List.cons_append, List.nil_append, read,
      hfind, hfind]
    change (do
      let rest ← read digits (write digits bytes)
      pure (UInt8.ofNat _ :: rest)) = _
    rw [ih, halves]
    rfl

end Hex
