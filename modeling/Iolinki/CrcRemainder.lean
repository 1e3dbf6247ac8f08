import Iolinki.CrcBurst
import Iolinki.Lib.Gf2

/-!
# The frame checksum is a polynomial remainder

The register of `iolink_crc6` has eight bits, the checksum has six. The feedback
`0x74` is the polynomial of the checksum, shifted by two, so the register works modulo
`X ^ 2` times that polynomial and its two lowest bits are clear after every byte.
The seed is not shifted; it is added to the first byte.

* `dvd_crc6`: what the checksum is congruent to.
* `crc6_is_remainder`: the checksum as a remainder, for every byte string.
-/

namespace Iolinki

open Iolinki.Lib Polynomial

/-- `x^6 + x^4 + x^3 + x^2 + 1` -/
noncomputable def crcPoly : (ZMod 2)[X] := X ^ 6 + X ^ 4 + X ^ 3 + X ^ 2 + 1

theorem monic_crcPoly : crcPoly.Monic := by
  unfold crcPoly
  monicity!

theorem degree_crcPoly : crcPoly.degree = 6 := by
  unfold crcPoly
  compute_degree!

/-! ## The register -/

theorem crcShift_toNat (crc : UInt8) : (crcShift crc).toNat = shiftRegister 8 0x74 crc.toNat := by
  revert crc; decide +kernel

theorem crcShift_iterate_toNat (n : ℕ) (crc : UInt8) :
    (crcShift^[n] crc).toNat = (shiftRegister 8 0x74)^[n] crc.toNat := by
  induction n generalizing crc with
  | zero => rfl
  | succ n ih =>
    rw [Function.iterate_succ_apply, ih, crcShift_toNat, Function.iterate_succ_apply]

theorem crcByte_toNat (crc byte : UInt8) :
    (crcByte crc byte).toNat = feed 8 0x74 crc.toNat byte.toNat := by
  rw [crcByte, crcShift_iterate_toNat, UInt8.toNat_xor, feed]

theorem foldl_crcByte_toNat (crc : UInt8) (data : List UInt8) :
    (data.foldl crcByte crc).toNat = (data.map UInt8.toNat).foldl (feed 8 0x74) crc.toNat := by
  induction data generalizing crc with
  | nil => rfl
  | cons b data ih =>
    rw [List.foldl_cons, ih, crcByte_toNat, List.map_cons, List.foldl_cons]

/-- The polynomial of the register. -/
theorem natPoly_feedback : X ^ 8 + natPoly 0x74 = X ^ 2 * crcPoly := by
  have hsum := natPoly_eq_sum (n := 0x74) (w := 8) (by decide)
  rw [hsum]
  simp [Finset.sum_range_succ, crcPoly, Nat.testBit]
  ring

/-- The register after a byte is the checksum, shifted by two. -/
theorem toNat_of_low {crc : UInt8} (h : crc &&& 3 = 0) :
    crc.toNat = 2 ^ 2 * (crcOut crc).toNat := by
  revert crc; decide +kernel

/-- The seed is added to the first byte. -/
theorem foldl_crcByte_seed (seed b : UInt8) (data : List UInt8) :
    (b :: data).foldl crcByte seed = ((seed ^^^ b) :: data).foldl crcByte 0 := by
  rw [List.foldl_cons, List.foldl_cons, crcByte, crcByte, UInt8.zero_xor]

/-! ## The checksum -/

/-- **The checksum modulo its polynomial.** -/
theorem dvd_crc6 (b : UInt8) (data : List UInt8) :
    crcPoly ∣ natPoly (crc6 (b :: data)).toNat - X ^ 6 * messagePoly ((0x15 ^^^ b) :: data) := by
  set words := ((0x15 ^^^ b) :: data).map UInt8.toNat with hwords
  have hlt : ∀ x ∈ words, x < 2 ^ 8 := by
    intro x hx
    obtain ⟨y, -, rfl⟩ := List.mem_map.mp hx
    exact y.toNat_lt
  obtain ⟨-, hdvd⟩ := dvd_foldl_feed (w := 8) (g := 0x74) (by decide) (by decide) hlt
  -- the register as a number is the checksum, shifted by two
  have hreg : words.foldl (feed 8 0x74) 0 = 2 ^ 2 * (crc6 (b :: data)).toNat := by
    have hfold := foldl_crcByte_toNat 0 ((0x15 ^^^ b) :: data)
    rw [UInt8.toNat_zero] at hfold
    rw [hwords, ← hfold, ← foldl_crcByte_seed, crc6_eq]
    exact toNat_of_low (foldl_crcByte_low (crcByte_low 0x15 b) data)
  rw [hreg, natPoly_two_pow_mul, natPoly_feedback, ← messagePoly_eq,
    show (X : (ZMod 2)[X]) ^ 8 = X ^ 2 * X ^ 6 by ring, mul_assoc, ← mul_sub] at hdvd
  exact (mul_dvd_mul_iff_left (pow_ne_zero 2 X_ne_zero)).mp hdvd

theorem crc6_lt (data : List UInt8) : (crc6 data).toNat < 2 ^ 6 := by
  have h : ∀ x : UInt8, (crcOut x).toNat < 2 ^ 6 := by decide +kernel
  exact h _

/-- The register is linear along byte strings of one length. -/
theorem foldl_crcByte_xor (c c' : UInt8) {d d' : List UInt8} (h : d.length = d'.length) :
    d.foldl crcByte c ^^^ d'.foldl crcByte c' =
      (List.zipWith (· ^^^ ·) d d').foldl crcByte (c ^^^ c') := by
  induction d generalizing c c' d' with
  | nil =>
    obtain rfl := List.length_eq_zero_iff.mp h.symm
    rfl
  | cons b d ih =>
    cases d' with
    | nil => cases h
    | cons b' d' =>
      rw [List.foldl_cons, List.foldl_cons, List.zipWith_cons_cons, List.foldl_cons, ← crcByte_xor]
      exact ih _ _ (Nat.succ.inj h)

/-- The checksum is affine. -/
theorem crc6_xor {d e f : List UInt8} (he : e.length = d.length) (hf : f.length = d.length) :
    crc6 d ^^^ crc6 e ^^^ crc6 f =
      crc6 (List.zipWith (· ^^^ ·) (List.zipWith (· ^^^ ·) d e) f) := by
  have hlen : (List.zipWith (· ^^^ ·) d e).length = f.length := by
    rw [List.length_zipWith, he, hf, Nat.min_self]
  simp only [crc6_eq]
  rw [crcOut_xor, crcOut_xor, foldl_crcByte_xor _ _ he.symm, foldl_crcByte_xor _ _ hlen]
  rfl

/-- **The frame checksum is the remainder** of `X ^ 6` times the bytes, the seed added to
    the first one, modulo its polynomial. It is affine, and the master computes the same. -/
theorem crc6_is_remainder {d : List UInt8} (hne : d ≠ []) :
    natPoly (crc6 d).toNat = (X ^ 6 * messagePoly (d.modifyHead (0x15 ^^^ ·))) %ₘ crcPoly ∧
      (∀ e f : List UInt8, e.length = d.length → f.length = d.length →
        crc6 d ^^^ crc6 e ^^^ crc6 f =
          crc6 (List.zipWith (· ^^^ ·) (List.zipWith (· ^^^ ·) d e) f)) ∧
      calculateCrc6 d = (crc6 d).toNat := by
  refine ⟨?_, fun e f he hf => crc6_xor he hf, calculateCrc6_eq d⟩
  cases d with
  | nil => exact absurd rfl hne
  | cons b data =>
    have hdeg : (natPoly (crc6 (b :: data)).toNat).degree < crcPoly.degree := by
      rw [degree_crcPoly]
      exact degree_natPoly_lt (crc6_lt _)
    rw [List.modifyHead_cons, ← modByMonic_eq_of_dvd_sub monic_crcPoly (dvd_crc6 b data)]
    exact ((modByMonic_eq_self_iff monic_crcPoly).mpr hdeg).symm

/-- The two bytes of a Type 0 frame with the MC byte `0xA2`. -/
theorem crc6_is_remainder_type0 :
    natPoly (crc6 [0xA2, 0x00]).toNat = (X ^ 6 * messagePoly [0xB7, 0x00]) %ₘ crcPoly ∧
      calculateCrc6 [0xA2, 0x00] = (crc6 [0xA2, 0x00]).toNat :=
  have h := crc6_is_remainder (d := [0xA2, 0x00]) (by decide)
  ⟨h.1, h.2.2⟩

end Iolinki
