import Mathlib.Algebra.CharP.Two
import Mathlib.Algebra.Polynomial.RingDivision
import Mathlib.Algebra.Field.ZMod
import Mathlib.Data.List.OfFn

set_option relaxedAutoImplicit false
set_option autoImplicit false

/-!
# Long division by a shift register

Bits are the coefficients of a polynomial over the field with two elements, the first bit the one
of the highest power. A shift register of `w` bits, read from its lowest bit, is then a polynomial
of degree below `w`; shifting it down by one place and adding the lower terms of a divisor of degree
`w` whenever a one falls out is multiplication by `X` modulo the divisor. So a register that takes
in symbols, low bit first, holds the remainder of a long division.

## Main definitions

* `BitDivision.ofBits`, `BitDivision.ofRegister` — the polynomial of some bits, and of a register.
* `BitDivision.divisor` — the divisor whose lower terms are in a register.
* `BitDivision.shift`, `BitDivision.update` — a round of the register, and the rounds of a symbol.

## Main results

* `BitDivision.ofRegister_injective` — a register is determined by its polynomial.
* `BitDivision.ofRegister_shift` — a round multiplies by `X`, modulo the divisor.
* `BitDivision.ofRegister_foldl` — a register that takes in symbols holds a remainder.
-/

namespace BitDivision

open Polynomial

/-! ## Bits and polynomials -/

/-- The polynomial of some bits. The first bit belongs to the highest power. -/
noncomputable def ofBits : List Bool → (ZMod 2)[X]
  | [] => 0
  | bit :: bits => (if bit then X ^ bits.length else 0) + ofBits bits

/-- Bits behind others. -/
lemma ofBits_append (front back : List Bool) :
    ofBits (front ++ back) = X ^ back.length * ofBits front + ofBits back := by
  induction front with
  | nil => simp [ofBits]
  | cons bit bits ih =>
    rw [List.cons_append, ofBits, ofBits, ih, List.length_append, pow_add]
    split_ifs <;> ring

/-- Zeros. -/
lemma ofBits_replicate (n : ℕ) : ofBits (List.replicate n false) = 0 := by
  induction n with
  | zero => rfl
  | succ n ih => rw [List.replicate_succ, ofBits, ih]; simp

/-- The degree is below the number of bits. -/
lemma degree_ofBits_lt (bits : List Bool) : (ofBits bits).degree < bits.length := by
  induction bits with
  | nil => simp [ofBits]
  | cons bit bits ih =>
    have hpow : (if bit then (X ^ bits.length : (ZMod 2)[X]) else 0).degree ≤ bits.length := by
      split_ifs
      · exact degree_X_pow_le _
      · exact degree_zero.trans_le bot_le
    rw [ofBits, List.length_cons]
    refine (degree_add_le _ _).trans_lt ((max_le hpow ih.le).trans_lt ?_)
    exact_mod_cast Nat.lt_succ_self _

/-- The bits are the coefficients. -/
lemma coeff_ofBits {bits : List Bool} {i : ℕ} (hi : i < bits.length) :
    (ofBits bits).coeff (bits.length - 1 - i) = if bits[i] then 1 else 0 := by
  induction bits generalizing i with
  | nil => cases hi
  | cons bit bits ih =>
    rw [ofBits, coeff_add, List.length_cons]
    cases i with
    | zero =>
      have hzero : (ofBits bits).coeff bits.length = 0 :=
        coeff_eq_zero_of_degree_lt (degree_ofBits_lt bits)
      have hpow : (if bit then (X ^ bits.length : (ZMod 2)[X]) else 0).coeff bits.length =
          if bit then 1 else 0 := by
        split_ifs <;> simp
      simpa [hzero] using hpow
    | succ i =>
      have hlt : i < bits.length := Nat.lt_of_succ_lt_succ hi
      have hzero : (if bit then (X ^ bits.length : (ZMod 2)[X]) else 0).coeff
          (bits.length - 1 - i) = 0 := by
        split_ifs
        · rw [coeff_X_pow, if_neg (by omega)]
        · rfl
      rw [show bits.length + 1 - 1 - (i + 1) = bits.length - 1 - i by omega, hzero, zero_add,
        ih hlt]
      rfl

/-! ## Registers -/

variable {w m : ℕ}

/-- The bits of a register, the lowest first. -/
def bitsOf (r : BitVec w) : List Bool := List.ofFn fun i : Fin w => r.getLsbD i

@[simp] lemma length_bitsOf (r : BitVec w) : (bitsOf r).length = w := List.length_ofFn

@[simp] lemma getElem_bitsOf (r : BitVec w) {i : ℕ} (hi : i < (bitsOf r).length) :
    (bitsOf r)[i] = r.getLsbD i := List.getElem_ofFn hi

/-- The polynomial of a register. -/
noncomputable def ofRegister (r : BitVec w) : (ZMod 2)[X] := ofBits (bitsOf r)

/-- A register is determined by its polynomial. -/
lemma ofRegister_injective : Function.Injective (ofRegister (w := w)) := by
  intro r s h
  refine BitVec.eq_of_getLsbD_eq fun i hi => ?_
  have hr := coeff_ofBits (show i < (bitsOf r).length by rwa [length_bitsOf])
  have hs := coeff_ofBits (show i < (bitsOf s).length by rwa [length_bitsOf])
  simp only [length_bitsOf, getElem_bitsOf] at hr hs
  have heq : (if r.getLsbD i then (1 : ZMod 2) else 0) = if s.getLsbD i then 1 else 0 :=
    hr.symm.trans ((congrArg (fun p : (ZMod 2)[X] => p.coeff (w - 1 - i)) h).trans hs)
  revert heq
  cases r.getLsbD i <;> cases s.getLsbD i <;> decide

/-- The sum of bits. -/
lemma ofBits_zipWith {as bs : List Bool} (h : as.length = bs.length) :
    ofBits (List.zipWith xor as bs) = ofBits as + ofBits bs := by
  induction as generalizing bs with
  | nil => simp [ofBits, List.length_eq_zero_iff.mp h.symm]
  | cons a as ih =>
    obtain _ | ⟨b, bs⟩ := bs
    · cases h
    have hlength : as.length = bs.length := Nat.succ.inj h
    rw [List.zipWith_cons_cons, ofBits, ofBits, ofBits, ih hlength, List.length_zipWith, hlength,
      Nat.min_self]
    cases a <;> cases b
    · simp
    · simp only [Bool.false_eq_true, if_false, if_true, Bool.false_xor]
      ring
    · simp only [Bool.false_eq_true, if_false, if_true, Bool.xor_false]
      ring
    · simp only [Bool.true_xor, Bool.not_true, Bool.false_eq_true, if_false, if_true]
      calc 0 + (ofBits as + ofBits bs) =
          (X ^ bs.length + X ^ bs.length) + (ofBits as + ofBits bs) := by
            rw [CharTwo.add_self_eq_zero]
        _ = _ := by ring

/-- The sum of two registers. -/
lemma ofRegister_xor (r s : BitVec w) : ofRegister (r ^^^ s) = ofRegister r + ofRegister s := by
  have hbits : bitsOf (r ^^^ s) = List.zipWith xor (bitsOf r) (bitsOf s) := by
    refine List.ext_getElem (by simp) fun i hi _ => ?_
    rw [List.getElem_zipWith]
    simp
  rw [ofRegister, hbits, ofBits_zipWith (by simp), ofRegister, ofRegister]

/-- A register shifted down: what falls out at the end is the coefficient of the highest power. -/
lemma ofRegister_ushiftRight (r : BitVec w) :
    X * ofRegister r = (if r.getLsbD 0 then X ^ w else 0) + ofRegister (r >>> 1) := by
  obtain _ | w := w
  · simp [ofRegister, bitsOf, ofBits]
  have hhead : bitsOf r = r.getLsbD 0 :: (bitsOf r).tail := by
    refine List.ext_getElem (by simp) fun i hi _ => ?_
    cases i <;> simp
  have htail : bitsOf (r >>> 1) = (bitsOf r).tail ++ [false] := by
    refine List.ext_getElem (by simp) fun i hi hi' => ?_
    rw [List.getElem_append]
    split_ifs with hlt
    · simp [Nat.add_comm]
    · rw [List.length_tail, length_bitsOf, Nat.add_sub_cancel, Nat.not_lt] at hlt
      simp [BitVec.getLsbD_of_ge r (1 + i) (by omega)]
  rw [ofRegister, hhead, ofBits, ofRegister, htail, ofBits_append]
  simp only [List.length_tail, length_bitsOf, Nat.add_sub_cancel, List.length_singleton, ofBits,
    Bool.false_eq_true, if_false, add_zero, mul_add, pow_succ']
  split_ifs <;> simp

/-- A symbol in the low bits of a register. -/
lemma ofRegister_setWidth (symbol : BitVec m) (h : m ≤ w) :
    ofRegister (symbol.setWidth w) = X ^ (w - m) * ofRegister symbol := by
  have hbits : bitsOf (symbol.setWidth w) = bitsOf symbol ++ List.replicate (w - m) false := by
    refine List.ext_getElem (by simp [Nat.add_sub_cancel' h]) fun i hi hi' => ?_
    rw [List.getElem_append]
    rw [length_bitsOf] at hi
    split_ifs with hlt
    · simp [hi]
    · rw [length_bitsOf, Nat.not_lt] at hlt
      simp [hi, BitVec.getLsbD_of_ge symbol i hlt]
  rw [ofRegister, hbits, ofBits_append, ofBits_replicate, List.length_replicate, add_zero,
    ofRegister]

/-! ## Division -/

/-- The divisor of degree `w` whose lower terms are those of a register. -/
noncomputable def divisor (poly : BitVec w) : (ZMod 2)[X] := X ^ w + ofRegister poly

/-- A register has a degree below its width. -/
lemma degree_ofRegister_lt (r : BitVec w) : (ofRegister r).degree < w := by
  have h := degree_ofBits_lt (bitsOf r)
  rwa [length_bitsOf] at h

lemma monic_divisor (poly : BitVec w) : (divisor poly).Monic :=
  monic_X_pow_add (degree_ofRegister_lt poly)

/-- A register is a remainder of the division. -/
lemma ofRegister_modByMonic (poly r : BitVec w) : ofRegister r %ₘ divisor poly = ofRegister r := by
  have hdegree : (ofRegister poly).degree < (X ^ w : (ZMod 2)[X]).degree := by
    rw [degree_X_pow]
    exact degree_ofRegister_lt poly
  rw [modByMonic_eq_self_iff (monic_divisor poly), divisor,
    degree_add_eq_left_of_degree_lt hdegree, degree_X_pow]
  exact degree_ofRegister_lt r

/-- A factor may be reduced first. -/
lemma mul_modByMonic_reduced {d : (ZMod 2)[X]} (hd : d.Monic) (p q : (ZMod 2)[X]) :
    (p * (q %ₘ d)) %ₘ d = (p * q) %ₘ d := by
  refine modByMonic_eq_of_dvd_sub hd ?_
  rw [← mul_sub]
  exact (dvd_modByMonic_sub q d).mul_left p

/-- A round: the register moves down by one place, and the lower terms of the divisor are added if a
one falls out. -/
def shift (poly r : BitVec w) : BitVec w :=
  if r.getLsbD 0 then (r >>> 1) ^^^ poly else r >>> 1

/-- **A round multiplies by `X`**, modulo the divisor. -/
lemma ofRegister_shift (poly r : BitVec w) :
    ofRegister (shift poly r) = (X * ofRegister r) %ₘ divisor poly := by
  rw [← ofRegister_modByMonic poly (shift poly r)]
  refine modByMonic_eq_of_dvd_sub (monic_divisor poly) ?_
  rw [ofRegister_ushiftRight, shift]
  split_ifs
  · rw [ofRegister_xor]
    have hsum : ofRegister (r >>> 1) + ofRegister poly - (X ^ w + ofRegister (r >>> 1)) =
        ofRegister poly + ofRegister poly - divisor poly := by
      rw [divisor]
      ring
    rw [hsum, CharTwo.add_self_eq_zero, zero_sub]
    exact (dvd_refl _).neg_right
  · rw [zero_add, sub_self]
    exact dvd_zero _

/-- Rounds multiply by a power of `X`, modulo the divisor. -/
lemma ofRegister_iterate_shift (poly r : BitVec w) (k : ℕ) :
    ofRegister ((shift poly)^[k] r) = (X ^ k * ofRegister r) %ₘ divisor poly := by
  induction k with
  | zero => rw [Function.iterate_zero_apply, pow_zero, one_mul, ofRegister_modByMonic]
  | succ k ih =>
    rw [Function.iterate_succ_apply', ofRegister_shift, ih,
      mul_modByMonic_reduced (monic_divisor poly), ← mul_assoc, ← pow_succ']

/-- The rounds of a symbol, which is added to the low bits of the register first. -/
def update (poly r : BitVec w) (symbol : BitVec m) : BitVec w :=
  (shift poly)^[m] (r ^^^ symbol.setWidth w)

/-- A symbol is taken in. -/
lemma ofRegister_update (poly r : BitVec w) {symbol : BitVec m} (h : m ≤ w) :
    ofRegister (update poly r symbol) =
      (X ^ m * ofRegister r + X ^ w * ofRegister symbol) %ₘ divisor poly := by
  rw [update, ofRegister_iterate_shift, ofRegister_xor, ofRegister_setWidth symbol h, mul_add,
    ← mul_assoc, ← pow_add, Nat.add_sub_cancel' h]

/-- **A register that takes in symbols holds a remainder**: that of the symbols behind its first
value, with as many zeros behind them as the divisor has lower terms. -/
theorem ofRegister_foldl (poly r : BitVec w) (symbols : List (BitVec m)) (h : m ≤ w) :
    ofRegister (symbols.foldl (update poly) r) =
      (X ^ (m * symbols.length) * ofRegister r + X ^ w * ofBits (symbols.flatMap bitsOf)) %ₘ
        divisor poly := by
  induction symbols generalizing r with
  | nil => simp [ofBits, ofRegister_modByMonic]
  | cons symbol symbols ih =>
    have hlength : (symbols.flatMap bitsOf).length = m * symbols.length := by
      rw [List.length_flatMap]
      simp [Nat.mul_comm]
    rw [List.foldl_cons, ih, ofRegister_update poly r h, add_modByMonic,
      mul_modByMonic_reduced (monic_divisor poly), ← add_modByMonic, List.flatMap_cons,
      ofBits_append, hlength, List.length_cons, Nat.mul_succ]
    congr 1
    rw [show ofBits (bitsOf symbol) = ofRegister symbol from rfl]
    ring

end BitDivision
