import OpenOT.Lib.Outcome

set_option relaxedAutoImplicit false
set_option autoImplicit false

/-!
# Little-endian integers in byte strings

Fixed-width little-endian fields: the bytes of a number, the number of some bytes, and the
checked read of such a field at an offset of a slice.

## Main definitions

* `Rust.toLe`, `Rust.fromLe` — `to_le_bytes` at a given width, and `from_le_bytes`.
* `Rust.readBytes` — reading consecutive bytes of a slice by index.
* `Rust.readU16`, `Rust.readU32`, `Rust.readU64` — a field of a slice.

## Main results

* `Rust.fromLe_toLe`, `Rust.toLe_fromLe` — the two conversions are inverse to each other.
* `Rust.readBytes_eq` — what a read in range returns.
-/

namespace Rust

/-- A byte string. -/
abbrev Bytes : Type := List UInt8

/-- The `w` little-endian bytes of `n`. -/
def toLe : ℕ → ℕ → Bytes
  | 0, _ => []
  | w + 1, n => UInt8.ofNat n :: toLe w (n / 256)

/-- The number with the given little-endian bytes. -/
def fromLe : Bytes → ℕ
  | [] => 0
  | b :: bs => b.toNat + 256 * fromLe bs

@[simp] lemma length_toLe (w n : ℕ) : (toLe w n).length = w := by
  induction w generalizing n with
  | zero => rfl
  | succ w ih => simp [toLe, ih]

/-- Reading back the bytes of `n` gives `n` up to the width. -/
lemma fromLe_toLe (w n : ℕ) : fromLe (toLe w n) = n % 256 ^ w := by
  induction w generalizing n with
  | zero => simp [toLe, fromLe, Nat.mod_one]
  | succ w ih =>
    simp only [toLe, fromLe, ih, UInt8.toNat_ofNat']
    rw [Nat.pow_succ' (n := w), Nat.mod_mul]

/-- The bytes of the number read from `bs` are `bs`: there is one encoding of each width. -/
lemma toLe_fromLe (bs : Bytes) : toLe bs.length (fromLe bs) = bs := by
  induction bs with
  | nil => rfl
  | cons b bs ih =>
    have hb := b.toNat_lt
    have hlow : UInt8.ofNat (b.toNat + 256 * fromLe bs) = b := by
      rw [← UInt8.toNat_inj, UInt8.toNat_ofNat']
      omega
    have hhigh : (b.toNat + 256 * fromLe bs) / 256 = fromLe bs := by omega
    simp only [List.length_cons, fromLe, toLe, hlow, hhigh, ih]

/-- A number of `w` bytes is below `256 ^ w`. -/
lemma fromLe_lt (bs : Bytes) : fromLe bs < 256 ^ bs.length := by
  induction bs with
  | nil => simp [fromLe]
  | cons b bs ih =>
    have hb := b.toNat_lt
    simp only [fromLe, List.length_cons, Nat.pow_succ]
    omega

/-! ## Fields of a slice -/

variable {ε : Type}

/-- The `w` bytes of a slice from `offset` on, each read by its index. -/
def readBytes (bytes : Bytes) (offset : ℕ) : ℕ → Outcome ε Bytes
  | 0 => .ok []
  | w + 1 => do
    let b ← index bytes offset
    let bs ← readBytes bytes (offset + 1) w
    pure (b :: bs)

/-- `u16::from_le_bytes` of the two bytes at `offset`. -/
def readU16 (bytes : Bytes) (offset : ℕ) : Outcome ε UInt16 := do
  let bs ← readBytes bytes offset 2
  pure (UInt16.ofNat (fromLe bs))

/-- `u32::from_le_bytes` of the four bytes at `offset`. -/
def readU32 (bytes : Bytes) (offset : ℕ) : Outcome ε UInt32 := do
  let bs ← readBytes bytes offset 4
  pure (UInt32.ofNat (fromLe bs))

/-- `u64::from_le_bytes` of the eight bytes at `offset`. -/
def readU64 (bytes : Bytes) (offset : ℕ) : Outcome ε UInt64 := do
  let bs ← readBytes bytes offset 8
  pure (UInt64.ofNat (fromLe bs))

/-- A read in range returns the bytes at the offset. -/
lemma readBytes_eq {bytes : Bytes} {offset w : ℕ} (h : offset + w ≤ bytes.length) :
    (readBytes bytes offset w : Outcome ε Bytes) = .ok ((bytes.drop offset).take w) := by
  induction w generalizing offset with
  | zero => simp [readBytes]
  | succ w ih =>
    have hlt : offset < bytes.length := by omega
    simp only [readBytes, index_of_lt hlt, ih (by omega : offset + 1 + w ≤ bytes.length),
      Outcome.ok_bind, Outcome.pure_eq]
    rw [List.drop_eq_getElem_cons hlt, List.take_succ_cons]

lemma readU16_eq {bytes : Bytes} {offset : ℕ} (h : offset + 2 ≤ bytes.length) :
    (readU16 bytes offset : Outcome ε UInt16) =
      .ok (UInt16.ofNat (fromLe ((bytes.drop offset).take 2))) := by
  simp [readU16, readBytes_eq h]

lemma readU32_eq {bytes : Bytes} {offset : ℕ} (h : offset + 4 ≤ bytes.length) :
    (readU32 bytes offset : Outcome ε UInt32) =
      .ok (UInt32.ofNat (fromLe ((bytes.drop offset).take 4))) := by
  simp [readU32, readBytes_eq h]

lemma readU64_eq {bytes : Bytes} {offset : ℕ} (h : offset + 8 ≤ bytes.length) :
    (readU64 bytes offset : Outcome ε UInt64) =
      .ok (UInt64.ofNat (fromLe ((bytes.drop offset).take 8))) := by
  simp [readU64, readBytes_eq h]

/-- A field of `w` bytes behind the prefix `pre` is found at offset `pre.length`. -/
lemma take_drop_append {α : Type} (pre mid post : List α) {o w : ℕ} (ho : o = pre.length)
    (hw : w = mid.length) : ((pre ++ (mid ++ post)).drop o).take w = mid := by
  subst ho hw
  rw [List.drop_left, List.take_left]

/-! ## The three integer types -/

@[simp] lemma ofNat_fromLe_toLe_u16 (v : UInt16) : UInt16.ofNat (fromLe (toLe 2 v.toNat)) = v := by
  rw [fromLe_toLe, Nat.mod_eq_of_lt (by simpa using v.toNat_lt), UInt16.ofNat_toNat]

@[simp] lemma ofNat_fromLe_toLe_u32 (v : UInt32) : UInt32.ofNat (fromLe (toLe 4 v.toNat)) = v := by
  rw [fromLe_toLe, Nat.mod_eq_of_lt (by simpa using v.toNat_lt), UInt32.ofNat_toNat]

@[simp] lemma ofNat_fromLe_toLe_u64 (v : UInt64) : UInt64.ofNat (fromLe (toLe 8 v.toNat)) = v := by
  rw [fromLe_toLe, Nat.mod_eq_of_lt (by simpa using v.toNat_lt), UInt64.ofNat_toNat]

/-- The bytes of a two-byte field are those of the number it holds. -/
lemma toLe_ofNat_fromLe_u16 {bs : Bytes} (h : bs.length = 2) :
    toLe 2 (UInt16.ofNat (fromLe bs)).toNat = bs := by
  have hlt : fromLe bs < 2 ^ 16 := by simpa [h] using fromLe_lt bs
  rw [UInt16.toNat_ofNat', Nat.mod_eq_of_lt hlt, ← h, toLe_fromLe]

/-- The bytes of a four-byte field are those of the number it holds. -/
lemma toLe_ofNat_fromLe_u32 {bs : Bytes} (h : bs.length = 4) :
    toLe 4 (UInt32.ofNat (fromLe bs)).toNat = bs := by
  have hlt : fromLe bs < 2 ^ 32 := by simpa [h] using fromLe_lt bs
  rw [UInt32.toNat_ofNat', Nat.mod_eq_of_lt hlt, ← h, toLe_fromLe]

/-- The bytes of an eight-byte field are those of the number it holds. -/
lemma toLe_ofNat_fromLe_u64 {bs : Bytes} (h : bs.length = 8) :
    toLe 8 (UInt64.ofNat (fromLe bs)).toNat = bs := by
  have hlt : fromLe bs < 2 ^ 64 := by simpa [h] using fromLe_lt bs
  rw [UInt64.toNat_ofNat', Nat.mod_eq_of_lt hlt, ← h, toLe_fromLe]

end Rust
