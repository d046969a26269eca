import OpenOT.Lib.BitDivision
import Mathlib.GroupTheory.OrderOfElement
import Mathlib.NumberTheory.LucasLehmer
import Mathlib.RingTheory.Ideal.Quotient.Operations
import Mathlib.RingTheory.Polynomial.Quotient

set_option relaxedAutoImplicit false
set_option autoImplicit false

/-!
# What a cyclic code detects

The code words are the multiples of a divisor. An error turns a code word into another one exactly if
the polynomial of the flipped bits is itself a multiple, so a code is as good as its divisor divides
few polynomials: none of low degree, none with an odd number of terms if `X + 1` is a factor, and
none with two terms that are closer together than the order of `X`.

## Main definitions

* `BitDivision.mul` — the product of two registers, modulo the divisor.

## Main results

* `BitDivision.not_dvd_of_burst` — bits that are set close together.
* `BitDivision.not_dvd_of_odd` — an odd number of bits.
* `BitDivision.not_dvd_of_pair` — two bits that are closer together than the order of `X`.
* `BitDivision.not_dvd_X_pow_add_one` — the order of `X`, if it is known to divide a prime.
-/

namespace BitDivision

open Polynomial

/-- The degree of a divisor is the width of the register. -/
lemma natDegree_divisor {w : ℕ} (poly : BitVec w) : (divisor poly).natDegree = w := by
  have hlt : (ofRegister poly).degree < (X ^ w : (ZMod 2)[X]).degree := by
    rw [degree_X_pow]
    exact degree_ofRegister_lt poly
  refine natDegree_eq_of_degree_eq_some ?_
  rw [divisor, degree_add_eq_left_of_degree_lt hlt, degree_X_pow]

/-! ## Bursts -/

/-- Bits that are not all zero have a polynomial that is not zero. -/
lemma ofBits_ne_zero {bits : List Bool} (h : true ∈ bits) : ofBits bits ≠ 0 := by
  obtain ⟨i, hi, hbit⟩ := List.getElem_of_mem h
  intro hzero
  have hcoeff := coeff_ofBits hi
  rw [hzero, hbit] at hcoeff
  simp at hcoeff

/-- Zeros in front. -/
lemma ofBits_replicate_append (n : ℕ) (bits : List Bool) :
    ofBits (List.replicate n false ++ bits) = ofBits bits := by
  rw [ofBits_append, ofBits_replicate, mul_zero, zero_add]

/-- A divisor with a constant term has no factor in common with a power of `X`. -/
lemma isCoprime_X_pow {d : (ZMod 2)[X]} (h : d.coeff 0 ≠ 0) (n : ℕ) : IsCoprime d (X ^ n) := by
  refine IsCoprime.pow_right ?_
  rw [isCoprime_comm, (irreducible_X).coprime_iff_not_dvd, X_dvd_iff]
  exact h

/-- **A burst is no multiple of the divisor**: bits of which only some that fit into a register are
set. -/
lemma not_dvd_of_burst {d : (ZMod 2)[X]} (hconst : d.coeff 0 ≠ 0) {front back : ℕ}
    {burst : List Bool} (hlen : burst.length ≤ d.natDegree) (hset : true ∈ burst) :
    ¬d ∣ ofBits (List.replicate front false ++ burst ++ List.replicate back false) := by
  rw [List.append_assoc, ofBits_replicate_append, ofBits_append, ofBits_replicate, add_zero,
    List.length_replicate]
  intro hdvd
  have hburst : d ∣ ofBits burst := (isCoprime_X_pow hconst back).dvd_of_dvd_mul_left hdvd
  have hne : ofBits burst ≠ 0 := ofBits_ne_zero hset
  have hle : d.degree ≤ (ofBits burst).degree := degree_le_of_dvd hburst hne
  have hd : d ≠ 0 := by
    rintro rfl
    exact hconst rfl
  rw [degree_eq_natDegree hd] at hle
  have hlt := hle.trans_lt (degree_ofBits_lt burst)
  rw [Nat.cast_lt] at hlt
  omega

/-! ## Odd numbers of bits -/

/-- The value at one counts the bits. -/
lemma eval_one_ofBits (bits : List Bool) :
    (ofBits bits).eval 1 = ((bits.count true : ℕ) : ZMod 2) := by
  induction bits with
  | nil => simp [ofBits]
  | cons bit bits ih =>
    rw [ofBits, eval_add, ih, List.count_cons]
    cases bit
    · simp
    · simp [add_comm]

/-- **An odd number of bits is no multiple of a divisor** of which `X + 1` is a factor. -/
lemma not_dvd_of_odd {d : (ZMod 2)[X]} (hroot : d.eval 1 = 0) {bits : List Bool}
    (hodd : Odd (bits.count true)) : ¬d ∣ ofBits bits := by
  rintro ⟨q, hq⟩
  have heval := congrArg (eval 1) hq
  rw [eval_one_ofBits, eval_mul, hroot, zero_mul, ZMod.natCast_eq_zero_iff_even] at heval
  exact (Nat.not_even_iff_odd.mpr hodd) heval

/-! ## Two bits -/

/-- Bits none of which is set. -/
lemma eq_replicate_of_count {bits : List Bool} (h : bits.count true = 0) :
    bits = List.replicate bits.length false := by
  refine List.eq_replicate_iff.mpr ⟨rfl, fun bit hbit => ?_⟩
  rw [List.count_eq_zero] at h
  cases bit
  · rfl
  · exact absurd hbit h

/-- The first bit that is set. -/
lemma exists_first {bits : List Bool} {n : ℕ} (h : bits.count true = n + 1) :
    ∃ front back, bits = List.replicate front false ++ true :: back ∧ back.count true = n := by
  induction bits with
  | nil => cases h
  | cons bit bits ih =>
    cases bit with
    | true => exact ⟨0, bits, rfl, by simpa using h⟩
    | false =>
      obtain ⟨front, back, rfl, hback⟩ := ih (by simpa using h)
      exact ⟨front + 1, back, rfl, hback⟩

/-- Two bits are a power of `X` and one more than another, up to a power of `X`. -/
lemma ofBits_pair {bits : List Bool} (h : bits.count true = 2) :
    ∃ n k, 0 < k ∧ k < bits.length ∧ ofBits bits = X ^ n * (X ^ k + 1) := by
  obtain ⟨front, back, rfl, hback⟩ := exists_first h
  obtain ⟨gap, rest, rfl, hrest⟩ := exists_first hback
  refine ⟨rest.length, gap + 1, by omega, by simp; omega, ?_⟩
  rw [ofBits_replicate_append, ofBits, ofBits_replicate_append, ofBits, eq_replicate_of_count hrest,
    ofBits_replicate]
  simp only [if_true, List.length_append, List.length_replicate, List.length_cons]
  ring

/-- **Two bits are no multiple of the divisor** if they are closer together than the order of `X`. -/
lemma not_dvd_of_pair {d : (ZMod 2)[X]} (hconst : d.coeff 0 ≠ 0) {bits : List Bool}
    (horder : ∀ k, 0 < k → k < bits.length → ¬d ∣ X ^ k + 1) (hpair : bits.count true = 2) :
    ¬d ∣ ofBits bits := by
  obtain ⟨n, k, hpos, hlt, heq⟩ := ofBits_pair hpair
  rw [heq]
  intro hdvd
  exact horder k hpos hlt ((isCoprime_X_pow hconst n).dvd_of_dvd_mul_left hdvd)

/-- **The order of `X`.** If a prime power of `X` is one modulo the divisor and `X` is not, then no
lower power is. -/
lemma not_dvd_X_pow_add_one {d : (ZMod 2)[X]} {p k : ℕ} (hp : p.Prime) (hperiod : d ∣ X ^ p + 1)
    (hone : ¬d ∣ X + 1) (hpos : 0 < k) (hlt : k < p) : ¬d ∣ X ^ k + 1 := by
  have hmk : ∀ n : ℕ, d ∣ X ^ n + 1 ↔ (Ideal.Quotient.mk (Ideal.span {d}) X) ^ n = 1 := by
    intro n
    rw [← map_pow, ← map_one (Ideal.Quotient.mk (Ideal.span {d})), Ideal.Quotient.eq,
      Ideal.mem_span_singleton, CharTwo.sub_eq_add]
  rw [hmk] at hperiod ⊢
  intro hk
  have hdvd : orderOf (Ideal.Quotient.mk (Ideal.span {d}) X) ∣ p := orderOf_dvd_of_pow_eq_one hperiod
  rcases (Nat.dvd_prime hp).mp hdvd with h1 | horder
  · apply hone
    rw [← pow_one X, hmk, pow_one]
    exact orderOf_eq_one_iff.mp h1
  · have hle := Nat.le_of_dvd hpos (orderOf_dvd_of_pow_eq_one hk)
    omega

/-! ## Products of registers -/

variable {w : ℕ}

/-- The product of a polynomial, given by its bits, with a register. -/
def mulBits (poly s : BitVec w) (bits : List Bool) : BitVec w :=
  bits.foldl (fun acc bit => shift poly acc ^^^ (if bit then s else 0)) 0

/-- The product of two registers. -/
def mul (poly r s : BitVec w) : BitVec w := mulBits poly s (bitsOf r)

@[simp] lemma ofRegister_zero : ofRegister 0#w = 0 := by
  have hbits : bitsOf 0#w = List.replicate w false := by
    refine List.ext_getElem (by simp) fun i hi _ => ?_
    simp
  rw [ofRegister, hbits, ofBits_replicate]

/-- The product with some bits is a product modulo the divisor. -/
lemma ofRegister_mulBits (poly s : BitVec w) (bits : List Bool) :
    ofRegister (mulBits poly s bits) = (ofBits bits * ofRegister s) %ₘ divisor poly := by
  induction bits using List.reverseRecOn with
  | nil => simp [mulBits, ofBits]
  | append_singleton bits bit ih =>
    have hstep : mulBits poly s (bits ++ [bit]) =
        shift poly (mulBits poly s bits) ^^^ (if bit then s else 0) := by
      rw [mulBits, List.foldl_concat]
      rfl
    have hbit : ofRegister (if bit then s else 0) =
        (ofBits [bit] * ofRegister s) %ₘ divisor poly := by
      cases bit
      · simp [ofBits]
      · simp [ofBits, ofRegister_modByMonic]
    rw [hstep, ofRegister_xor, ofRegister_shift, ih, mul_modByMonic_reduced (monic_divisor poly),
      hbit, ← add_modByMonic, ofBits_append, List.length_singleton, pow_one]
    congr 1
    ring

/-- **A product of registers** is a product modulo the divisor. -/
lemma ofRegister_mul (poly r s : BitVec w) :
    ofRegister (mul poly r s) = (ofRegister r * ofRegister s) %ₘ divisor poly :=
  ofRegister_mulBits poly s (bitsOf r)

/-- Squares of squares. -/
lemma ofRegister_iterate_mul_self (poly r : BitVec w) (n : ℕ) :
    ofRegister ((fun s => mul poly s s)^[n] r) = (ofRegister r ^ 2 ^ n) %ₘ divisor poly := by
  induction n with
  | zero => rw [Function.iterate_zero_apply, pow_zero, pow_one, ofRegister_modByMonic]
  | succ n ih =>
    rw [Function.iterate_succ_apply', ofRegister_mul, ih,
      mul_modByMonic_reduced (monic_divisor poly), mul_comm,
      mul_modByMonic_reduced (monic_divisor poly), ← pow_two, ← pow_mul, pow_succ]

/-- If squaring takes the register of `X` back to itself after `n` turns, then `X ^ (2 ^ n - 1)` is
one modulo the divisor. -/
lemma dvd_X_pow_add_one {poly r : BitVec w} {n : ℕ} (hconst : (divisor poly).coeff 0 ≠ 0)
    (hr : ofRegister r = X) (hcycle : (fun s => mul poly s s)^[n] r = r) :
    divisor poly ∣ X ^ (2 ^ n - 1) + 1 := by
  have hmod := ofRegister_iterate_mul_self poly r n
  rw [hcycle, hr] at hmod
  have hX : (X : (ZMod 2)[X]) %ₘ divisor poly = X := hr ▸ ofRegister_modByMonic poly r
  have hdvd : divisor poly ∣ X ^ 2 ^ n - X := by
    rw [← modByMonic_eq_zero_iff_dvd (monic_divisor poly), sub_modByMonic, ← hmod, hX, sub_self]
  have hsplit : (X ^ 2 ^ n - X : (ZMod 2)[X]) = X ^ 1 * (X ^ (2 ^ n - 1) + 1) := by
    rw [mul_add, ← pow_add, Nat.add_sub_cancel' Nat.one_le_two_pow, mul_one, pow_one,
      CharTwo.sub_eq_add]
  rw [hsplit] at hdvd
  exact (isCoprime_X_pow hconst 1).dvd_of_dvd_mul_left hdvd

end BitDivision
