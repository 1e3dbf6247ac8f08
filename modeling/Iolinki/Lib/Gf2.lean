import Mathlib
import Iolinki.Lib.Burst

/-!
# Shift registers and remainders over GF(2)

A number stands for the polynomial over `ZMod 2` whose coefficients are its bits
(`natPoly`); exclusive or is addition, a shift is multiplication by `X`. A byte string
stands for the polynomial of its bits, the first one on top (`messagePoly`).

A shift register of `w` bits with the feedback `g` multiplies by `X` modulo
`X ^ w + natPoly g` (`dvd_shiftRegister`): the bit that is shifted out is the multiple
of the modulus that is taken away.

* `dvd_foldl_feed`: what the register holds after a sequence of words of `w` bits.
* `messagePoly_eq`: the polynomial of a byte string, word by word.
-/

namespace Iolinki.Lib

open Polynomial

/-! ## Numbers as polynomials -/

/-- The polynomial whose coefficients are the bits of `n`. -/
noncomputable def natPoly (n : ℕ) : (ZMod 2)[X] :=
  ∑ i ∈ Finset.range n.size, if n.testBit i then X ^ i else 0

theorem natPoly_eq_sum {n w : ℕ} (h : n < 2 ^ w) :
    natPoly n = ∑ i ∈ Finset.range w, if n.testBit i then X ^ i else 0 := by
  refine Finset.sum_subset (Finset.range_subset_range.mpr (Nat.size_le.mpr h)) fun i _ hi => ?_
  have hlt : n < 2 ^ i := Nat.size_le.mp (Nat.not_lt.mp fun hlt => hi (Finset.mem_range.mpr hlt))
  simp [Nat.testBit_lt_two_pow hlt]

theorem coeff_natPoly (n i : ℕ) : (natPoly n).coeff i = if n.testBit i then 1 else 0 := by
  have hlt : n < 2 ^ (n + i + 1) :=
    Nat.lt_two_pow_self.trans_le (Nat.pow_le_pow_right Nat.two_pos (by omega))
  rw [natPoly_eq_sum hlt, finsetSum_coeff]
  have hterm : ∀ j, (if n.testBit j then (X : (ZMod 2)[X]) ^ j else 0).coeff i =
      if i = j then (if n.testBit j then 1 else 0) else 0 := by
    intro j
    split_ifs <;> simp_all [coeff_X_pow]
  rw [Finset.sum_congr rfl fun j _ => hterm j, Finset.sum_ite_eq, if_pos]
  exact Finset.mem_range.mpr (by omega)

theorem degree_natPoly_lt {n w : ℕ} (h : n < 2 ^ w) : (natPoly n).degree < w := by
  rw [degree_lt_iff_coeff_zero]
  intro i hi
  have hlt : n < 2 ^ i := h.trans_le (Nat.pow_le_pow_right Nat.two_pos hi)
  rw [coeff_natPoly, Nat.testBit_lt_two_pow hlt]
  rfl

@[simp] theorem natPoly_zero : natPoly 0 = 0 := by
  ext i
  simp [coeff_natPoly]

@[simp] theorem natPoly_one : natPoly 1 = 1 := by
  rw [natPoly_eq_sum (w := 1) (by decide)]
  simp

theorem natPoly_xor (a b : ℕ) : natPoly (a ^^^ b) = natPoly a + natPoly b := by
  ext i
  rw [coeff_add, coeff_natPoly, coeff_natPoly, coeff_natPoly, Nat.testBit_xor]
  cases a.testBit i <;> cases b.testBit i <;> decide

/-- Two numbers, one above the other. -/
theorem natPoly_two_pow_mul_add (a : ℕ) {b w : ℕ} (hb : b < 2 ^ w) :
    natPoly (2 ^ w * a + b) = X ^ w * natPoly a + natPoly b := by
  ext i
  rw [coeff_add, coeff_X_pow_mul', coeff_natPoly, coeff_natPoly, coeff_natPoly,
    Nat.testBit_two_pow_mul_add a hb]
  by_cases hi : i < w
  · rw [if_pos hi, if_neg (Nat.not_le.mpr hi), zero_add]
  · rw [Nat.not_lt] at hi
    have hlt : b < 2 ^ i := hb.trans_le (Nat.pow_le_pow_right Nat.two_pos hi)
    rw [if_neg (Nat.not_lt.mpr hi), if_pos hi, Nat.testBit_lt_two_pow hlt]
    simp

theorem natPoly_two_pow_mul (w a : ℕ) : natPoly (2 ^ w * a) = X ^ w * natPoly a := by
  have h := natPoly_two_pow_mul_add a (Nat.two_pow_pos w)
  rwa [Nat.add_zero, natPoly_zero, add_zero] at h

/-! ## Shift registers -/

/-- One step of a shift register of `w` bits: the bit that is shifted out decides
    whether the feedback `g` is applied. -/
def shiftRegister (w g r : ℕ) : ℕ :=
  if r.testBit (w - 1) then (2 * r) % 2 ^ w ^^^ g else (2 * r) % 2 ^ w

/-- A word of `w` bits is added to the register, which is then shifted `w` times. -/
def feed (w g r b : ℕ) : ℕ := (shiftRegister w g)^[w] (r ^^^ b)

variable {w g : ℕ}

theorem shiftRegister_lt (hg : g < 2 ^ w) (r : ℕ) : shiftRegister w g r < 2 ^ w := by
  have hmod := Nat.mod_lt (2 * r) (Nat.two_pow_pos w)
  unfold shiftRegister
  split_ifs
  · exact Nat.xor_lt_two_pow hmod hg
  · exact hmod

/-- **A step multiplies by `X` modulo the polynomial of the register.** -/
theorem dvd_shiftRegister (hw : 0 < w) {r : ℕ} (hr : r < 2 ^ w) :
    X ^ w + natPoly g ∣ natPoly (shiftRegister w g r) - X * natPoly r := by
  have hpow : 2 ^ w = 2 * 2 ^ (w - 1) := by rw [← pow_succ', Nat.sub_add_cancel hw]
  have hshift : natPoly (2 * r) = X * natPoly r := by simpa using natPoly_two_pow_mul 1 r
  have hmod := Nat.mod_lt (2 * r) (Nat.two_pow_pos w)
  -- the bit on top is the quotient of the shifted register
  have htop : r.testBit (w - 1) = decide (2 * r / 2 ^ w = 1) := by
    rw [Nat.testBit_eq_decide_div_mod_eq, hpow, Nat.mul_div_mul_left _ _ Nat.two_pos]
    have hlt : r / 2 ^ (w - 1) < 2 := Nat.div_lt_of_lt_mul (by omega)
    rw [Nat.mod_eq_of_lt hlt]
  have hquot : 2 * r / 2 ^ w < 2 := Nat.div_lt_of_lt_mul (by omega)
  have hsplit := natPoly_two_pow_mul_add (2 * r / 2 ^ w) hmod
  rw [Nat.div_add_mod, hshift] at hsplit
  unfold shiftRegister
  rw [htop]
  by_cases hone : 2 * r / 2 ^ w = 1
  · rw [hone, natPoly_one, mul_one] at hsplit
    rw [if_pos (by simp [hone]), natPoly_xor, hsplit]
    refine ⟨1, ?_⟩
    linear_combination (-1 : (ZMod 2)[X]) * CharTwo.two_eq_zero (R := (ZMod 2)[X]) * X ^ w
  · have hzero := Nat.lt_one_iff.mp (lt_of_le_of_ne (Nat.lt_succ_iff.mp hquot) hone)
    rw [hzero, natPoly_zero, mul_zero, zero_add] at hsplit
    rw [if_neg (by simp [hone]), hsplit, sub_self]
    exact dvd_zero _

theorem dvd_shiftRegister_iterate (hw : 0 < w) (hg : g < 2 ^ w) {r : ℕ} (hr : r < 2 ^ w) (n : ℕ) :
    (shiftRegister w g)^[n] r < 2 ^ w ∧
      X ^ w + natPoly g ∣ natPoly ((shiftRegister w g)^[n] r) - X ^ n * natPoly r := by
  induction n with
  | zero => exact ⟨hr, by simp⟩
  | succ n ih =>
    obtain ⟨hlt, hdvd⟩ := ih
    rw [Function.iterate_succ_apply']
    refine ⟨shiftRegister_lt hg _, ?_⟩
    have hsum := dvd_add (dvd_shiftRegister (g := g) hw hlt) (hdvd.mul_left X)
    rwa [mul_sub, sub_add_sub_cancel, ← mul_assoc, ← pow_succ'] at hsum

/-- The polynomial of a sequence of words of `w` bits, the first one on top. -/
noncomputable def wordsPoly (w : ℕ) (l : List ℕ) : (ZMod 2)[X] :=
  l.foldl (fun p b => X ^ w * p + natPoly b) 0

theorem wordsPoly_concat (l : List ℕ) (b : ℕ) :
    wordsPoly w (l ++ [b]) = X ^ w * wordsPoly w l + natPoly b := by
  rw [wordsPoly, List.foldl_append]
  rfl

/-- **What the register holds**: `X ^ w` times the polynomial of the words, modulo the
    polynomial of the register. -/
theorem dvd_foldl_feed (hw : 0 < w) (hg : g < 2 ^ w) {l : List ℕ} (hl : ∀ b ∈ l, b < 2 ^ w) :
    l.foldl (feed w g) 0 < 2 ^ w ∧
      X ^ w + natPoly g ∣ natPoly (l.foldl (feed w g) 0) - X ^ w * wordsPoly w l := by
  induction l using List.reverseRecOn with
  | nil => exact ⟨Nat.two_pow_pos w, by simp [wordsPoly]⟩
  | append_singleton l b ih =>
    obtain ⟨hlt, hdvd⟩ := ih fun x hx => hl x (List.mem_append_left _ hx)
    have hb : b < 2 ^ w := hl b (by simp)
    obtain ⟨hlt', hdvd'⟩ := dvd_shiftRegister_iterate hw hg (Nat.xor_lt_two_pow hlt hb) w
    rw [List.foldl_append, List.foldl_cons, List.foldl_nil]
    refine ⟨hlt', ?_⟩
    have hsum := dvd_add hdvd' (hdvd.mul_left (X ^ w))
    rw [natPoly_xor] at hsum
    rw [wordsPoly_concat]
    convert hsum using 1
    unfold feed
    ring

/-! ## Byte strings -/

/-- The polynomial of the bits of `f`, the most significant bit of the first byte on
    top. -/
noncomputable def messagePoly (f : List UInt8) : (ZMod 2)[X] :=
  ∑ k ∈ Finset.range (8 * f.length), if bitAt f k then X ^ (8 * f.length - 1 - k) else 0

theorem bitAt_append_left (f f' : List UInt8) {k : ℕ} (h : k < 8 * f.length) :
    bitAt (f ++ f') k = bitAt f k := by
  unfold bitAt
  rw [List.getD_append _ _ _ _ (by omega)]

theorem bitAt_append_right (f f' : List UInt8) (k : ℕ) :
    bitAt (f ++ f') (8 * f.length + k) = bitAt f' k := by
  unfold bitAt
  rw [List.getD_append_right _ _ _ _ (by omega), Nat.mul_add_mod,
    Nat.mul_add_div (by decide), Nat.add_sub_cancel_left]

theorem messagePoly_concat (f : List UInt8) (b : UInt8) :
    messagePoly (f ++ [b]) = X ^ 8 * messagePoly f + natPoly b.toNat := by
  rw [messagePoly, List.length_append, List.length_singleton, Nat.mul_add, Finset.sum_range_add]
  congr 1
  · rw [messagePoly, Finset.mul_sum]
    refine Finset.sum_congr rfl fun k hk => ?_
    have hlt := Finset.mem_range.mp hk
    rw [bitAt_append_left f [b] hlt, mul_ite, mul_zero, ← pow_add,
      show 8 + (8 * f.length - 1 - k) = 8 * f.length + 8 * 1 - 1 - k by omega]
  · -- the bits of the last byte, from the top down
    rw [natPoly_eq_sum (w := 8) b.toNat_lt, ← Finset.sum_range_reflect]
    refine Finset.sum_congr rfl fun k hk => ?_
    have hlt := Finset.mem_range.mp hk
    have hbit := bitAt_byte [b] 0 hlt
    rw [Nat.mul_zero, Nat.zero_add] at hbit
    rw [bitAt_append_right, show 8 * 1 - 1 - k = 7 - k by omega, hbit,
      show 8 * f.length + 8 * 1 - 1 - (8 * f.length + (7 - k)) = k by omega]
    rfl

/-- The bytes of a string are its words. -/
theorem messagePoly_eq (f : List UInt8) : messagePoly f = wordsPoly 8 (f.map UInt8.toNat) := by
  induction f using List.reverseRecOn with
  | nil => rfl
  | append_singleton f b ih =>
    rw [messagePoly_concat, ih, List.map_append, List.map_singleton, wordsPoly_concat]

end Iolinki.Lib
