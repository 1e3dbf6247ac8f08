import Mathlib.Data.List.GetD
import Iolinki.DataStorage
import Iolinki.Lib.Fletcher

/-!
# The parameter checksum

`iolink_ds_calc_checksum` is Fletcher's checksum modulo 255. Both sums stay below
255, so nothing is lost in a `uint16_t` (`foldl_dsChecksumStep`).

The checksum 0 is the mark for a master without data in `iolink_ds_check`. It is
also the checksum of some blocks, of those whose two sums are both divisible by 255.

* `checksum_is_fletcher`: the value of the checksum, and the edits that it detects.
* `stored_data_recognised_iff`: exactly when a stored block is told from no data.
-/

namespace Iolinki

open Iolinki.Lib

/-! ## The loop -/

/-- The values that are computed for one byte, before they are cast to `uint16_t`. -/
def byteValues (s : UInt16 × UInt16) (byte : UInt8) : List ℕ :=
  let sum1 := s.1.toNat + byte.toNat
  let sum2 := s.2.toNat + (dsChecksumStep s byte).1.toNat
  [sum1, sum1 % 255, sum2, sum2 % 255]

/-- The values that `iolink_ds_calc_checksum` computes from `sum1` and `sum2` on, before
    they are cast to `uint16_t`. -/
def checksumValues : UInt16 × UInt16 → List UInt8 → List ℕ
  | s, [] => [s.2.toNat <<< 8, (s.2.toNat <<< 8) ||| s.1.toNat]
  | s, byte :: data => byteValues s byte ++ checksumValues (dsChecksumStep s byte) data

/-- The sums between two bytes. -/
def SumsBelow (s : UInt16 × UInt16) : Prop := s.1.toNat < 255 ∧ s.2.toNat < 255

theorem toNat_ofNat_mod (n : ℕ) : (UInt16.ofNat (n % 255)).toNat = n % 255 := by
  rw [UInt16.toNat_ofNat']
  omega

/-- The loop on numbers is Fletcher's. -/
theorem dsChecksumStep_toNat (s : UInt16 × UInt16) (byte : UInt8) :
    Prod.map UInt16.toNat UInt16.toNat (dsChecksumStep s byte) =
      fletcherStep 255 (s.1.toNat, s.2.toNat) byte.toNat := by
  simp only [dsChecksumStep, Prod.map_apply, toNat_ofNat_mod, fletcherStep]

theorem sumsBelow_dsChecksumStep (s : UInt16 × UInt16) (byte : UInt8) :
    SumsBelow (dsChecksumStep s byte) := by
  simp only [SumsBelow, dsChecksumStep, toNat_ofNat_mod]
  omega

theorem foldl_dsChecksumStep_toNat (s : UInt16 × UInt16) (data : List UInt8) :
    Prod.map UInt16.toNat UInt16.toNat (data.foldl dsChecksumStep s) =
      (data.map UInt8.toNat).foldl (fletcherStep 255) (s.1.toNat, s.2.toNat) := by
  induction data generalizing s with
  | nil => rfl
  | cons byte data ih =>
    rw [List.foldl_cons, ih, List.map_cons, List.foldl_cons, ← dsChecksumStep_toNat]
    rfl

/-- The two sums after the loop. -/
theorem foldl_dsChecksumStep (data : List UInt8) :
    ((data.foldl dsChecksumStep (0, 0)).1.toNat, (data.foldl dsChecksumStep (0, 0)).2.toNat) =
      ((data.map UInt8.toNat).sum % 255, weightedSum (data.map UInt8.toNat) % 255) := by
  rw [← foldl_fletcherStep]
  exact foldl_dsChecksumStep_toNat (0, 0) data

/-- The two bytes that the sums are put into do not overlap. -/
theorem shiftLeft_or_eq {a b : ℕ} (hb : b < 255) : (a <<< 8) ||| b = 256 * a + b := by
  rw [Nat.shiftLeft_eq, Nat.mul_comm, ← Nat.two_pow_add_eq_or_of_lt (i := 8) (by omega)]

/-- **No value exceeds 16 bits.** -/
theorem checksumValues_le {s : UInt16 × UInt16} (hs : SumsBelow s) (data : List UInt8) :
    ∀ v ∈ checksumValues s data, v ≤ 65535 := by
  induction data generalizing s with
  | nil =>
    obtain ⟨h1, h2⟩ := hs
    rw [checksumValues, List.forall_mem_cons, List.forall_mem_cons, shiftLeft_or_eq h1,
      Nat.shiftLeft_eq]
    refine ⟨by omega, by omega, List.forall_mem_nil _⟩
  | cons byte data ih =>
    obtain ⟨h1, h2⟩ := hs
    have hbyte := byte.toNat_lt
    have hstep := sumsBelow_dsChecksumStep s byte
    rw [checksumValues, List.forall_mem_append]
    refine ⟨?_, ih hstep⟩
    have hsum1 := hstep.1
    simp only [byteValues, List.forall_mem_cons]
    refine ⟨by omega, by omega, by omega, by omega, List.forall_mem_nil _⟩

/-- The checksum as a number. -/
theorem dsCalcChecksum_toNat (data : List UInt8) :
    (dsCalcChecksum data).toNat =
      256 * (weightedSum (data.map UInt8.toNat) % 255) + (data.map UInt8.toNat).sum % 255 := by
  obtain ⟨h1, h2⟩ := Prod.mk.inj (foldl_dsChecksumStep data)
  rw [dsCalcChecksum, h1, h2, shiftLeft_or_eq (by omega), UInt16.toNat_ofNat']
  omega

/-- Two blocks with the same checksum have the same sums. -/
theorem dsCalcChecksum_inj {data data' : List UInt8}
    (h : dsCalcChecksum data = dsCalcChecksum data') :
    (data.map UInt8.toNat).sum ≡ (data'.map UInt8.toNat).sum [MOD 255] ∧
      weightedSum (data.map UInt8.toNat) ≡ weightedSum (data'.map UInt8.toNat) [MOD 255] := by
  have hnat := congrArg UInt16.toNat h
  rw [dsCalcChecksum_toNat, dsCalcChecksum_toNat] at hnat
  unfold Nat.ModEq
  omega

/-- The second sum of a block, written out. -/
theorem weightedSum_bytes (data : List UInt8) :
    weightedSum (data.map UInt8.toNat) =
      ∑ i ∈ Finset.range data.length, (data.length - i) * (data.getD i 0).toNat := by
  rw [weightedSum_eq_sum, List.length_map]
  refine Finset.sum_congr rfl fun i _ => ?_
  exact congrArg ((data.length - i) * ·) (List.getD_map data 0 UInt8.toNat)

/-- **The parameter checksum is Fletcher's.** Its two bytes are the sums of the block
    modulo 255, no value on the way exceeds 16 bits, and a byte replaced by one of another
    residue or two neighbours of different residues exchanged change it. -/
theorem checksum_is_fletcher (data : List UInt8) :
    (dsCalcChecksum data).toNat =
        256 * ((∑ i ∈ Finset.range data.length, (data.length - i) * (data.getD i 0).toNat) % 255) +
          (data.map UInt8.toNat).sum % 255 ∧
      (∀ v ∈ checksumValues (0, 0) data, v ≤ 65535) ∧
      (∀ (pre : List UInt8) (x y : UInt8) (post : List UInt8), data = pre ++ x :: post →
        x.toNat % 255 ≠ y.toNat % 255 →
        dsCalcChecksum (pre ++ y :: post) ≠ dsCalcChecksum data) ∧
      ∀ (pre : List UInt8) (x y : UInt8) (post : List UInt8), data = pre ++ x :: y :: post →
        x.toNat % 255 ≠ y.toNat % 255 →
        dsCalcChecksum (pre ++ y :: x :: post) ≠ dsCalcChecksum data := by
  refine ⟨?_, checksumValues_le ⟨by decide, by decide⟩ data, ?_, ?_⟩
  · rw [dsCalcChecksum_toNat, weightedSum_bytes]
  · rintro pre x y post rfl hne heq
    have hsum := (dsCalcChecksum_inj heq).1
    simp only [List.map_append, List.map_cons] at hsum
    exact sum_ne_of_replace _ _ hne hsum.symm
  · rintro pre x y post rfl hne heq
    have hsum := (dsCalcChecksum_inj heq).2
    simp only [List.map_append, List.map_cons] at hsum
    exact weightedSum_ne_of_swap _ _ hne hsum.symm

/-- A first byte that is replaced in the block `01 02 03 04`. -/
theorem checksum_is_fletcher_four : dsCalcChecksum [0xAA, 2, 3, 4] ≠ dsCalcChecksum [1, 2, 3, 4] :=
  (checksum_is_fletcher [1, 2, 3, 4]).2.2.1 [] 1 0xAA [2, 3, 4] rfl (by decide)

/-! ## The checksum of a master without data -/

/-- The blocks that have the checksum 0. -/
theorem dsCalcChecksum_eq_zero_iff (data : List UInt8) :
    dsCalcChecksum data = 0 ↔
      255 ∣ (data.map UInt8.toNat).sum ∧ 255 ∣ weightedSum (data.map UInt8.toNat) := by
  rw [← UInt16.toNat_inj, dsCalcChecksum_toNat, UInt16.toNat_zero]
  omega

/-- What `iolink_ds_check` decides in IDLE. -/
theorem state_dsCheck {c : DsCtx} (hidle : c.state = .idle) (masterChecksum : UInt16) :
    (dsCheck c masterChecksum).state =
      if masterChecksum = 0 then .uploadReq
      else if masterChecksum ≠ c.currentChecksum then .downloadReq else .idle := by
  unfold dsCheck
  rw [if_neg (not_not.mpr hidle)]
  split_ifs
  · rfl
  · rfl
  · exact hidle

/-- **A stored block is told from no data**, and causes a download exactly if the device has
    another checksum, unless both of its sums are divisible by 255. -/
theorem stored_data_recognised_iff {c : DsCtx} (hidle : c.state = .idle) (data : List UInt8) :
    ((dsCheck c (dsCalcChecksum data)).state ≠ .uploadReq ∧
        ((dsCheck c (dsCalcChecksum data)).state = .downloadReq ↔
          c.currentChecksum ≠ dsCalcChecksum data)) ↔
      ¬(255 ∣ (data.map UInt8.toNat).sum ∧
        255 ∣ ∑ i ∈ Finset.range data.length, (data.length - i) * (data.getD i 0).toNat) := by
  rw [← weightedSum_bytes, ← dsCalcChecksum_eq_zero_iff, state_dsCheck hidle]
  by_cases hzero : dsCalcChecksum data = 0
  · simp [hzero]
  · rw [if_neg hzero]
    refine iff_of_true ?_ hzero
    by_cases hsame : dsCalcChecksum data ≠ c.currentChecksum
    · simp [hsame, hsame.symm]
    · rw [not_not] at hsame
      simp [hsame]

/-- The block `01 02 03 04` for a device without a checksum. -/
theorem stored_data_recognised_four :
    (dsCheck dsInit (dsCalcChecksum [1, 2, 3, 4])).state = .downloadReq :=
  ((stored_data_recognised_iff (c := dsInit) rfl [1, 2, 3, 4]).mpr (by decide)).2.mpr (by decide)

/-- A block of one zero byte is taken for no data. -/
theorem zero_block_uploaded :
    dsCalcChecksum [0x00] = 0 ∧ (dsCheck dsInit (dsCalcChecksum [0x00])).state = .uploadReq := by
  decide

end Iolinki
