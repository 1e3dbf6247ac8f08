import Mathlib.Data.List.Basic
import Mathlib.Data.Nat.Bitwise

/-!
# Burst errors

The bits of a byte string are numbered byte by byte, the most significant bit
of each byte first (`bitAt`). `Burst n f g` says that `g` is `f` with some
errors, all of them inside `n` consecutive bits.

* `Burst.cases`: a burst of at most 9 bits hits the last byte only or two bytes
  next to each other, and in the latter case the errors are a number below
  `2 ^ n`, shifted.
-/

namespace Iolinki.Lib

/-- The bit `k` of the bytes `f`. -/
def bitAt (f : List UInt8) (k : ℕ) : Bool := (f.getD (k / 8) 0).toNat.testBit (7 - k % 8)

/-- `g` has the length of `f`, is not `f`, and differs from it only in `n`
    consecutive bits. -/
structure Burst (n : ℕ) (f g : List UInt8) : Prop where
  length_eq : g.length = f.length
  ne : g ≠ f
  confined : ∃ pos, ∀ k, k < pos ∨ pos + n ≤ k → bitAt g k = bitAt f k

theorem bitAt_byte (f : List UInt8) (i : ℕ) {j : ℕ} (hj : j < 8) :
    bitAt f (8 * i + (7 - j)) = (f.getD i 0).toNat.testBit j := by
  unfold bitAt
  rw [show (8 * i + (7 - j)) / 8 = i by omega, show 7 - (8 * i + (7 - j)) % 8 = j by omega]

/-- Behind the last byte there are no ones. -/
theorem bitAt_of_le {f : List UInt8} {k : ℕ} (h : 8 * f.length ≤ k) : bitAt f k = false := by
  unfold bitAt
  rw [List.getD_eq_default _ _ (by omega)]
  exact Nat.zero_testBit _

/-- A byte has eight bits. -/
theorem testBit_toNat_of_le (b : UInt8) {j : ℕ} (hj : 8 ≤ j) : b.toNat.testBit j = false := by
  have hpow : 2 ^ 8 ≤ 2 ^ j := Nat.pow_le_pow_right Nat.two_pos hj
  exact Nat.testBit_lt_two_pow (lt_of_lt_of_le b.toNat_lt hpow)

/-- Bytes with the same bits are the same. -/
theorem getD_eq_of_bitAt {f g : List UInt8} {i : ℕ}
    (h : ∀ j < 8, bitAt g (8 * i + j) = bitAt f (8 * i + j)) : g.getD i 0 = f.getD i 0 := by
  apply UInt8.toNat_inj.mp
  apply Nat.eq_of_testBit_eq
  intro j
  by_cases hj : j < 8
  · rw [← bitAt_byte g i hj, ← bitAt_byte f i hj]
    exact h (7 - j) (by omega)
  · rw [testBit_toNat_of_le _ (by omega), testBit_toNat_of_le _ (by omega)]

theorem getD_eq_of_lt_or_le {n pos : ℕ} {f g : List UInt8}
    (h : ∀ k, k < pos ∨ pos + n ≤ k → bitAt g k = bitAt f k) {i : ℕ}
    (hi : 8 * i + 8 ≤ pos ∨ pos + n ≤ 8 * i) : g.getD i 0 = f.getD i 0 :=
  getD_eq_of_bitAt fun j hj => h _ (by omega)

/-- Two bytes as one number, the first byte on top. -/
def pairNat (a b : UInt8) : ℕ := 2 ^ 8 * a.toNat + b.toNat

theorem testBit_pairNat (a b : UInt8) (j : ℕ) :
    (pairNat a b).testBit j = if j < 8 then b.toNat.testBit j else a.toNat.testBit (j - 8) :=
  Nat.testBit_two_pow_mul_add _ b.toNat_lt _

/-- A number whose bits all lie in `n` places from `s` on is a number below
    `2 ^ n`, shifted by `s`. -/
theorem eq_shift_of_testBit {e s n : ℕ} (hlow : ∀ j < s, e.testBit j = false)
    (hhigh : ∀ j, s + n ≤ j → e.testBit j = false) : ∃ p < 2 ^ n, e = 2 ^ s * p := by
  have hmod : e % 2 ^ s = 0 := by
    apply Nat.eq_of_testBit_eq
    intro j
    rw [Nat.testBit_mod_two_pow, Nat.zero_testBit]
    by_cases hj : j < s
    · rw [hlow j hj, Bool.and_false]
    · simp [hj]
  have hlt : e < 2 ^ (s + n) := Nat.lt_pow_two_of_testBit e hhigh
  refine ⟨e / 2 ^ s, ?_, (Nat.mul_div_cancel' (Nat.dvd_of_mod_eq_zero hmod)).symm⟩
  rw [Nat.div_lt_iff_lt_mul (Nat.two_pow_pos s), ← pow_add, Nat.add_comm]
  exact hlt

/-- The errors in two bytes: bits are numbered from the top, so the window of
    `n` bits that starts at bit `w` ends `16 - n - w` places above the bottom. -/
theorem pairNat_xor_eq {n w i : ℕ} {f g : List UInt8} (hw : w + n ≤ 16)
    (h : ∀ k, k < 8 * i + w ∨ 8 * i + w + n ≤ k → bitAt g k = bitAt f k) :
    ∃ p < 2 ^ n, pairNat (f.getD i 0 ^^^ g.getD i 0) (f.getD (i + 1) 0 ^^^ g.getD (i + 1) 0) =
      2 ^ (16 - n - w) * p := by
  have hbit : ∀ m j, j < 8 → bitAt g (8 * m + (7 - j)) = bitAt f (8 * m + (7 - j)) →
      (f.getD m 0 ^^^ g.getD m 0).toNat.testBit j = false := by
    intro m j hj heq
    rw [UInt8.toNat_xor, Nat.testBit_xor, ← bitAt_byte f m hj, ← bitAt_byte g m hj, heq,
      Bool.xor_self]
  apply eq_shift_of_testBit
  · intro j hj
    rw [testBit_pairNat]
    split_ifs with h8
    · exact hbit (i + 1) j h8 (h _ (by omega))
    · exact hbit i (j - 8) (by omega) (h _ (by omega))
  · intro j hj
    rw [testBit_pairNat]
    split_ifs with h8
    · exact hbit (i + 1) j h8 (h _ (by omega))
    · by_cases h16 : j - 8 < 8
      · exact hbit i (j - 8) h16 (h _ (by omega))
      · exact testBit_toNat_of_le _ (by omega)

/-! ## Where a short burst lies -/

theorem take_eq_of_getD {f g : List UInt8} (hlen : g.length = f.length) {m : ℕ}
    (h : ∀ i < m, g.getD i 0 = f.getD i 0) : g.take m = f.take m := by
  apply List.ext_getElem (by simp [hlen])
  intro i hi _
  have hg : i < g.length := by rw [List.length_take] at hi; omega
  have hf : i < f.length := by omega
  have := h i (by rw [List.length_take] at hi; omega)
  rw [List.getElem_take, List.getElem_take]
  rwa [List.getD_eq_getElem _ _ hg, List.getD_eq_getElem _ _ hf] at this

theorem drop_eq_of_getD {f g : List UInt8} (hlen : g.length = f.length) {m : ℕ}
    (h : ∀ i, m ≤ i → g.getD i 0 = f.getD i 0) : g.drop m = f.drop m := by
  apply List.ext_getElem (by simp [hlen])
  intro i hi _
  have hg : m + i < g.length := by rw [List.length_drop] at hi; omega
  have hf : m + i < f.length := by omega
  have := h (m + i) (by omega)
  rw [List.getElem_drop, List.getElem_drop]
  rwa [List.getD_eq_getElem _ _ hg, List.getD_eq_getElem _ _ hf] at this

theorem eq_take_cons_drop {f : List UInt8} {i : ℕ} (h : i + 1 < f.length) :
    f = f.take i ++ f.getD i 0 :: f.getD (i + 1) 0 :: f.drop (i + 2) := by
  rw [List.getD_eq_getElem _ _ h, List.getD_eq_getElem _ _ (show i < f.length by omega),
    ← List.drop_eq_getElem_cons h, ← List.drop_eq_getElem_cons, List.take_append_drop]

/-- A burst of at most 9 bits changes the last byte only, or two bytes next to
    each other. -/
theorem Burst.cases {n : ℕ} (hn : n ≤ 9) {f g : List UInt8} (h : Burst n f g) :
    f.dropLast = g.dropLast ∨
      ∃ pre x y x' y' post w p, f = pre ++ x :: y :: post ∧ g = pre ++ x' :: y' :: post ∧
        w < 8 ∧ p < 2 ^ n ∧ pairNat (x ^^^ x') (y ^^^ y') = 2 ^ (16 - n - w) * p := by
  obtain ⟨pos, hpos⟩ := h.confined
  by_cases hi : pos / 8 + 1 < f.length
  · -- the burst starts in byte `pos / 8` and ends before byte `pos / 8 + 2`
    obtain ⟨p, hp, heq⟩ := pairNat_xor_eq (n := n) (w := pos % 8) (i := pos / 8) (f := f) (g := g)
      (by omega) (by rw [Nat.div_add_mod]; exact hpos)
    refine .inr ⟨f.take (pos / 8), _, _, _, _, f.drop (pos / 8 + 2), pos % 8, p,
      eq_take_cons_drop hi, ?_, by omega, hp, heq⟩
    rw [← take_eq_of_getD h.length_eq fun i hlt => getD_eq_of_lt_or_le hpos (by omega),
      ← drop_eq_of_getD h.length_eq fun i hle => getD_eq_of_lt_or_le hpos (by omega)]
    exact eq_take_cons_drop (by rw [h.length_eq]; exact hi)
  · refine .inl ?_
    rw [List.dropLast_eq_take, List.dropLast_eq_take, h.length_eq]
    exact (take_eq_of_getD h.length_eq fun i hlt => getD_eq_of_lt_or_le hpos (by omega)).symm

end Iolinki.Lib
