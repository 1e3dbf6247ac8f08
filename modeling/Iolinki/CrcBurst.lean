import Iolinki.Crc
import Iolinki.Lib.Burst

/-!
# The frame checksum detects short bursts

The register of `iolink_crc6` is linear in exclusive or (`crcByte_xor`), and
the register left by a byte has its two lowest bits clear, where the shift
loses nothing (`crcByte_inj`). The errors of a burst therefore reach the
checksum in the same way for every frame, and stay there over the bytes that
follow; what is left is a table of the patterns of six bits.

* `checksum_detects_burst`: a burst of at most 6 bits is detected in frames of
  every length and in the two-byte frames of Type 0.
-/

namespace Iolinki

open Iolinki.Lib

/-! ## The register is linear -/

theorem xor_xor_xor_comm (a b c d : UInt8) :
    (a ^^^ b) ^^^ (c ^^^ d) = (a ^^^ c) ^^^ (b ^^^ d) := by
  ac_rfl

theorem xor_and_right (a b m : UInt8) : (a ^^^ b) &&& m = (a &&& m) ^^^ (b &&& m) := by
  apply UInt8.toNat_inj.mp
  simp only [UInt8.toNat_and, UInt8.toNat_xor]
  exact Nat.and_xor_distrib_right ..

theorem crcShift_eq (c : UInt8) :
    crcShift c = (c <<< 1) ^^^ (if c.toNat.testBit 7 then 0x74 else 0) := by
  revert c; decide +kernel

theorem crcShift_xor (a b : UInt8) : crcShift (a ^^^ b) = crcShift a ^^^ crcShift b := by
  have hshift : (a ^^^ b) <<< 1 = (a <<< 1) ^^^ (b <<< 1) := UInt8.shiftLeft_xor
  rw [crcShift_eq, crcShift_eq a, crcShift_eq b, hshift, UInt8.toNat_xor, Nat.testBit_xor,
    xor_xor_xor_comm]
  congr 1
  cases a.toNat.testBit 7 <;> cases b.toNat.testBit 7 <;> rfl

theorem crcShift_iterate_xor (n : ℕ) (a b : UInt8) :
    crcShift^[n] (a ^^^ b) = crcShift^[n] a ^^^ crcShift^[n] b := by
  induction n generalizing a b with
  | zero => rfl
  | succ n ih =>
    rw [Function.iterate_succ_apply, crcShift_xor, ih, Function.iterate_succ_apply,
      Function.iterate_succ_apply]

theorem crcByte_xor (c c' b b' : UInt8) :
    crcByte c b ^^^ crcByte c' b' = crcByte (c ^^^ c') (b ^^^ b') := by
  unfold crcByte
  rw [← crcShift_iterate_xor]
  rw [xor_xor_xor_comm]

/-- Two bytes after the same data. -/
theorem crcByte_xor_self_left (c b b' : UInt8) :
    crcByte c b ^^^ crcByte c b' = crcByte 0 (b ^^^ b') := by
  rw [crcByte_xor, UInt8.xor_self]

/-- The register left by a byte is a multiple of 4. -/
theorem crcByte_low (c b : UInt8) : crcByte c b &&& 3 = 0 := by
  have h : ∀ x : UInt8, crcShift^[8] x &&& 3 = 0 := by decide +kernel
  exact h _

/-- On such registers a byte loses nothing. -/
theorem crcByte_inj {c c' b : UInt8} (hc : c &&& 3 = 0) (hc' : c' &&& 3 = 0)
    (h : crcByte c b = crcByte c' b) : c = c' := by
  have hker : ∀ x : UInt8, x &&& 3 = 0 → crcByte x 0 = 0 → x = 0 := by decide +kernel
  have hlow : (c ^^^ c') &&& 3 = 0 := by rw [xor_and_right, hc, hc']; rfl
  have hzero : crcByte (c ^^^ c') (b ^^^ b) = 0 := by rw [← crcByte_xor, h, UInt8.xor_self]
  rw [UInt8.xor_self] at hzero
  exact UInt8.xor_eq_zero_iff.mp (hker _ hlow hzero)

theorem foldl_crcByte_low {c : UInt8} (hc : c &&& 3 = 0) (data : List UInt8) :
    data.foldl crcByte c &&& 3 = 0 := by
  induction data generalizing c with
  | nil => exact hc
  | cons b data ih => exact ih (crcByte_low c b)

theorem foldl_crcByte_inj {c c' : UInt8} (hc : c &&& 3 = 0) (hc' : c' &&& 3 = 0)
    {data : List UInt8} (h : data.foldl crcByte c = data.foldl crcByte c') : c = c' := by
  induction data generalizing c c' with
  | nil => exact h
  | cons b data ih => exact crcByte_inj hc hc' (ih (crcByte_low c b) (crcByte_low c' b) h)

/-- The six bits of the register that make up the checksum. -/
def crcOut (crc : UInt8) : UInt8 := (crc >>> 2) &&& 0x3F

theorem crc6_eq (data : List UInt8) : crc6 data = crcOut (data.foldl crcByte 0x15) := rfl

theorem crcOut_xor (a b : UInt8) : crcOut a ^^^ crcOut b = crcOut (a ^^^ b) := by
  unfold crcOut
  rw [UInt8.shiftRight_xor, xor_and_right]

theorem crcOut_inj {a b : UInt8} (ha : a &&& 3 = 0) (hb : b &&& 3 = 0)
    (h : crcOut a = crcOut b) : a = b := by
  have hker : ∀ x : UInt8, x &&& 3 = 0 → crcOut x = 0 → x = 0 := by decide +kernel
  have hlow : (a ^^^ b) &&& 3 = 0 := by rw [xor_and_right, ha, hb]; rfl
  have hzero : crcOut (a ^^^ b) = 0 := by rw [← crcOut_xor, h, UInt8.xor_self]
  exact UInt8.xor_eq_zero_iff.mp (hker _ hlow hzero)

/-! ## The patterns of six bits -/

/-- The registers and checksums of all patterns, as numbers. -/
theorem pattern_table : ∀ w < 8, ∀ p < 2 ^ 6, p ≠ 0 →
    let a := 2 ^ (10 - w) * p / 2 ^ 8
    let b := 2 ^ (10 - w) * p % 2 ^ 8
    let r := pyCrcShift^[8] a
    pyCrcShift^[8] (r ^^^ b) ≠ 0 ∧ (r >>> 2) &&& 0x3F ≠ b ∧
      (pyCrcShift^[8] r >>> 2) &&& 0x3F ≠ b := by
  decide +kernel

theorem toNat_crcOut (crc : UInt8) : (crcOut crc).toNat = (crc.toNat >>> 2) &&& 0x3F := by
  rw [crcOut, UInt8.toNat_and, UInt8.toNat_shiftRight]
  rfl

theorem toNat_crcByte_zero (crc : UInt8) : (crcByte crc 0).toNat = pyCrcShift^[8] crc.toNat := by
  rw [← pyCrcByte_toNat, pyCrcByte, UInt8.toNat_zero, Nat.xor_zero]

theorem toNat_zero_crcByte (b : UInt8) : (crcByte 0 b).toNat = pyCrcShift^[8] b.toNat := by
  rw [← pyCrcByte_toNat, pyCrcByte, UInt8.toNat_zero, Nat.zero_xor]

/-- No pattern of at most six bits in two bytes `a` and `b` cancels out: not in
    the register, and not against the checksum when `b` is an error in the
    checksum itself (with or without the zero byte of a two-byte frame). -/
theorem pattern_detected {a b : UInt8} {w p : ℕ} (hw : w < 8) (hp : p < 2 ^ 6)
    (h : pairNat a b = 2 ^ (16 - 6 - w) * p) (hne : a ≠ 0 ∨ b ≠ 0) :
    crcByte (crcByte 0 a) b ≠ 0 ∧ crcOut (crcByte 0 a) ≠ b ∧
      crcOut (crcByte (crcByte 0 a) 0) ≠ b := by
  have hb := b.toNat_lt
  have hp0 : p ≠ 0 := by
    rintro rfl
    rw [Nat.mul_zero, pairNat] at h
    have ha0 : a = 0 := UInt8.toNat_inj.mp (by rw [UInt8.toNat_zero]; omega)
    have hb0 : b = 0 := UInt8.toNat_inj.mp (by rw [UInt8.toNat_zero]; omega)
    rcases hne with hne | hne
    · exact hne ha0
    · exact hne hb0
  have hdiv : pairNat a b / 2 ^ 8 = a.toNat := by unfold pairNat; omega
  have hmod : pairNat a b % 2 ^ 8 = b.toNat := by unfold pairNat; omega
  rw [show 16 - 6 - w = 10 - w by omega] at h
  obtain ⟨hinner, houter, hpair⟩ := pattern_table w hw p hp hp0
  rw [← h, hdiv, ← toNat_zero_crcByte] at hinner houter hpair
  rw [hmod] at hinner houter hpair
  refine ⟨fun hc => hinner ?_, fun hc => houter ?_, fun hc => hpair ?_⟩
  · exact (pyCrcByte_toNat _ b).trans (congrArg UInt8.toNat hc)
  · rw [← toNat_crcOut, hc]
  · rw [← toNat_crcByte_zero, ← toNat_crcOut, hc]

/-! ## Frames -/

/-- Errors in the last data byte and the checksum. -/
theorem crc6_ne_of_last {data : List UInt8} {x x' y' : UInt8}
    (h : crcOut (crcByte 0 (x ^^^ x')) ≠ crc6 (data ++ [x]) ^^^ y') :
    crc6 (data ++ [x']) ≠ y' := by
  rintro rfl
  refine h ?_
  simp only [crc6_eq, List.foldl_append, List.foldl_cons, List.foldl_nil]
  rw [crcOut_xor, crcByte_xor_self_left]

/-- Errors in two data bytes. -/
theorem crc6_ne_of_inner {pre post : List UInt8} {x y x' y' : UInt8}
    (h : crcByte (crcByte 0 (x ^^^ x')) (y ^^^ y') ≠ 0) :
    crc6 (pre ++ x' :: y' :: post) ≠ crc6 (pre ++ x :: y :: post) := by
  intro heq
  simp only [crc6_eq, List.foldl_append, List.foldl_cons] at heq
  have hlow := fun c b => foldl_crcByte_low (crcByte_low c b) post
  have hreg := foldl_crcByte_inj (crcByte_low _ _) (crcByte_low _ _)
    (crcOut_inj (hlow _ _) (hlow _ _) heq)
  refine h ?_
  rw [← crcByte_xor_self_left (pre.foldl crcByte 0x15), ← crcByte_xor, hreg, UInt8.xor_self]

/-- Two bytes that differ, as errors. -/
theorem xor_ne_zero_of_append_ne {pre post : List UInt8} {x y x' y' : UInt8}
    (h : pre ++ x' :: y' :: post ≠ pre ++ x :: y :: post) : x ^^^ x' ≠ 0 ∨ y ^^^ y' ≠ 0 := by
  by_contra hcon
  obtain ⟨hx, hy⟩ := not_or.mp hcon
  rw [not_not, UInt8.xor_eq_zero_iff] at hx hy
  rw [hx, hy] at h
  exact h rfl

/-- A frame of any length with its checksum behind it. -/
theorem crc6_ne_of_burst {data data' : List UInt8} {ck : UInt8}
    (h : Burst 6 (data ++ [crc6 data]) (data' ++ [ck])) : crc6 data' ≠ ck := by
  rcases h.cases (by decide) with hlast | ⟨pre, x, y, x', y', post, w, p, hf, hg, hw, hp, heq⟩
  · -- only the checksum was hit
    rw [List.dropLast_concat, List.dropLast_concat] at hlast
    subst hlast
    rintro rfl
    exact h.ne rfl
  · obtain ⟨hinner, houter, -⟩ :=
      pattern_detected hw hp heq (xor_ne_zero_of_append_ne (by rw [← hf, ← hg]; exact h.ne))
    rcases List.eq_nil_or_concat post with rfl | ⟨post, last, rfl⟩
    · rw [List.append_cons pre x] at hf
      rw [List.append_cons pre x'] at hg
      obtain ⟨rfl, hy⟩ := List.append_inj' hf rfl
      obtain ⟨rfl, hy'⟩ := List.append_inj' hg rfl
      obtain ⟨rfl⟩ := List.singleton_inj.mp hy
      obtain ⟨rfl⟩ := List.singleton_inj.mp hy'
      exact crc6_ne_of_last houter
    · -- the checksum is intact, and its bytes are those of the frame without errors
      rw [List.concat_eq_append, ← List.cons_append, ← List.cons_append, ← List.append_assoc]
        at hf hg
      obtain ⟨rfl, hlast⟩ := List.append_inj' hf rfl
      obtain ⟨rfl, hlast'⟩ := List.append_inj' hg rfl
      rw [List.singleton_inj.mp hlast', ← List.singleton_inj.mp hlast]
      exact crc6_ne_of_inner hinner

/-- A two-byte frame: the checksum is that of the first byte and a zero byte
    that is not sent. -/
theorem checksumCk_ne_of_burst {mc mc' ck : UInt8} (h : Burst 6 [mc, checksumCk mc 0] [mc', ck]) :
    checksumCk mc' 0 ≠ ck := by
  rcases h.cases (by decide) with hlast | ⟨pre, x, y, x', y', post, w, p, hf, hg, hw, hp, heq⟩
  · obtain rfl : mc = mc' := by simpa using hlast
    rintro rfl
    exact h.ne rfl
  · have hlen := congrArg List.length hf
    simp only [List.length_append, List.length_cons, List.length_nil] at hlen
    obtain rfl : pre = [] := List.length_eq_zero_iff.mp (by omega)
    obtain rfl : post = [] := List.length_eq_zero_iff.mp (by omega)
    obtain ⟨rfl, rfl⟩ : mc = x ∧ checksumCk mc 0 = y := by simpa using hf
    obtain ⟨rfl, rfl⟩ : mc' = x' ∧ ck = y' := by simpa using hg
    have hne : [] ++ mc' :: ck :: [] ≠ [] ++ mc :: checksumCk mc 0 :: [] := h.ne
    obtain ⟨-, -, hpair⟩ := pattern_detected hw hp heq (xor_ne_zero_of_append_ne hne)
    rintro rfl
    refine hpair ?_
    simp only [checksumCk, crc6_eq, List.foldl_cons, List.foldl_nil]
    rw [crcOut_xor, crcByte_xor, crcByte_xor_self_left, UInt8.xor_self]

/-- A frame `data` with its checksum behind it, or a two-byte frame with its
    checksum, that was hit by a burst of at most six bits is not accepted. -/
theorem checksum_detects_burst :
    (∀ data frame : List UInt8, Burst 6 (data ++ [crc6 data]) frame →
      crc6 (frame.take data.length) ≠ frame.getD data.length 0) ∧
    ∀ (mc : UInt8) (frame : List UInt8), Burst 6 [mc, checksumCk mc 0] frame →
      checksumCk (frame.getD 0 0) 0 ≠ frame.getD 1 0 := by
  constructor
  · intro data frame h
    have hlen : frame.length = data.length + 1 := by rw [h.length_eq]; simp
    rcases List.eq_nil_or_concat frame with rfl | ⟨data', ck, rfl⟩
    · simp at hlen
    rw [List.concat_eq_append] at h ⊢
    have hdata : data.length = data'.length := by simpa using hlen.symm
    rw [hdata, List.take_left', List.getD_append_right _ _ _ _ le_rfl, Nat.sub_self]
    · exact crc6_ne_of_burst h
    · rfl
  · intro mc frame h
    obtain ⟨mc', ck, rfl⟩ : ∃ mc' ck, frame = [mc', ck] := List.length_eq_two.mp h.length_eq
    exact checksumCk_ne_of_burst h

/-- Six bits across the first two bytes of a short frame. -/
theorem checksum_detects_burst_short :
    crc6 ([0xA3, 0xF8, crc6 [0xA2, 0x00]].take 2) ≠ [0xA3, 0xF8, crc6 [0xA2, 0x00]].getD 2 0 := by
  refine checksum_detects_burst.1 [0xA2, 0x00] _ ⟨rfl, by decide, 7, ?_⟩
  have hbits : ∀ k < 24, k < 7 ∨ 7 + 6 ≤ k → bitAt [0xA3, 0xF8, crc6 [0xA2, 0x00]] k =
      bitAt ([0xA2, 0x00] ++ [crc6 [0xA2, 0x00]]) k := by decide +kernel
  intro k hk
  by_cases hlt : k < 24
  · exact hbits k hlt hk
  · rw [bitAt_of_le (by simp; omega), bitAt_of_le (by simp; omega)]

end Iolinki
