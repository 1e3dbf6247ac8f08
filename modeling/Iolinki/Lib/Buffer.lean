import Mathlib.Logic.Function.Basic
import Mathlib.Data.List.GetD
import Mathlib.Data.List.Range
import Mathlib.Data.List.TakeDrop
import Mathlib.Tactic.Ring

/-!
# Arrays as functions of the index

A C array of elements `α` is modelled as a function `ℕ → α`. Reads and writes
are then total, and whether an index is inside the declared size of the array
is a statement about the index. `slice` is the content of a range of cells and
`blit` is `memcpy` into a range of cells. `blits` is a sequence of such copies to the
start of the array; `slice_blits_iff` says when only the last of them is seen.
-/

namespace Iolinki.Lib

variable {α : Type*}

/-- The `n` cells of `f` from `off` on. -/
def slice (f : ℕ → α) (off n : ℕ) : List α := (List.range n).map fun i => f (off + i)

@[simp] theorem length_slice (f : ℕ → α) (off n : ℕ) : (slice f off n).length = n := by
  simp [slice]

@[simp] theorem slice_zero (f : ℕ → α) (off : ℕ) : slice f off 0 = [] := rfl

theorem slice_succ (f : ℕ → α) (off n : ℕ) :
    slice f off (n + 1) = slice f off n ++ [f (off + n)] := by
  simp [slice, List.range_succ]

theorem slice_succ_left (f : ℕ → α) (off n : ℕ) :
    slice f off (n + 1) = f off :: slice f (off + 1) n := by
  simp only [slice, List.range_succ_eq_map, List.map_cons, List.map_map, Nat.add_zero]
  congr 1
  apply List.map_congr_left
  intro i _
  simp only [Function.comp_apply]
  congr 1; omega

theorem getElem?_slice (f : ℕ → α) (off n i : ℕ) :
    (slice f off n)[i]? = if i < n then some (f (off + i)) else none := by
  by_cases h : i < n
  · simp [slice, h]
  · simp [slice, h]

theorem getD_slice (f : ℕ → α) (off : ℕ) {n i : ℕ} (h : i < n) (x : α) :
    (slice f off n).getD i x = f (off + i) := by
  rw [List.getD_eq_getElem?_getD, getElem?_slice, if_pos h, Option.getD_some]

theorem slice_congr {f g : ℕ → α} {off n : ℕ} (h : ∀ i < n, f (off + i) = g (off + i)) :
    slice f off n = slice g off n :=
  List.map_congr_left fun i hi => h i (List.mem_range.mp hi)

/-- Storing at an index outside a range leaves the range alone. -/
theorem slice_update_of_le (f : ℕ → α) (off n k : ℕ) (x : α) (h : off + n ≤ k) :
    slice (Function.update f k x) off n = slice f off n :=
  slice_congr fun i hi => Function.update_of_ne (by omega) _ _

/-- Appending one element to a range that has been written so far. -/
theorem slice_update_end (f : ℕ → α) (n : ℕ) (x : α) :
    slice (Function.update f n x) 0 (n + 1) = slice f 0 n ++ [x] := by
  rw [slice_succ, slice_update_of_le _ _ _ _ _ (by omega)]
  simp

/-- `memcpy(&f[off], l, |l|)`. -/
def blit (f : ℕ → α) (off : ℕ) (l : List α) : ℕ → α := fun i =>
  if off ≤ i then (l[i - off]?).getD (f i) else f i

theorem blit_nil (f : ℕ → α) (off : ℕ) : blit f off [] = f := by
  funext i
  simp [blit]

theorem slice_blit (f : ℕ → α) (off : ℕ) (l : List α) : slice (blit f off l) off l.length = l := by
  apply List.ext_getElem?
  intro i
  rw [getElem?_slice]
  by_cases h : i < l.length
  · rw [if_pos h]; simp [blit, h]
  · rw [if_neg h, List.getElem?_eq_none (by omega)]

/-- Storing one element behind a range that has been copied. -/
theorem update_blit_length (f : ℕ → α) (l : List α) (x : α) :
    Function.update (blit f 0 l) l.length x = blit f 0 (l ++ [x]) := by
  funext i
  unfold blit
  simp only [Nat.zero_le, if_true, Nat.sub_zero]
  by_cases h : i = l.length
  · subst h
    simp
  · rw [Function.update_of_ne h]
    congr 1
    rcases Nat.lt_or_gt_of_ne h with hlt | hgt
    · rw [List.getElem?_append_left hlt]
    · rw [List.getElem?_eq_none (by omega), List.getElem?_eq_none (by simp; omega)]

theorem slice_blit_of_le (f : ℕ → α) (l : List α) {off n : ℕ} (h : off + n ≤ l.length) :
    slice (blit f 0 l) off n = (l.drop off).take n := by
  apply List.ext_getElem?
  intro i
  rw [getElem?_slice, List.getElem?_take, List.getElem?_drop]
  split_ifs with hi
  · simp [blit, show off + i < l.length by omega]
  · rfl

/-- A copy that does not fill the range leaves the cells behind it. -/
theorem slice_blit_append (f : ℕ → α) {l : List α} {n : ℕ} (h : l.length ≤ n) :
    slice (blit f 0 l) 0 n = l ++ slice f l.length (n - l.length) := by
  apply List.ext_getElem?
  intro i
  rw [getElem?_slice, List.getElem?_append]
  by_cases hi : i < l.length
  · rw [if_pos (by omega), if_pos hi]
    simp [blit, hi]
  · rw [if_neg hi, getElem?_slice]
    by_cases hn : i < n
    · rw [if_pos hn, if_pos (by omega)]
      simp [blit, show l.length ≤ i by omega]
    · rw [if_neg hn, if_neg (by omega)]

theorem take_slice (f : ℕ → α) (off n k : ℕ) : (slice f off n).take k = slice f off (min k n) := by
  apply List.ext_getElem?
  intro i
  rw [List.getElem?_take, getElem?_slice, getElem?_slice]
  split_ifs <;> first | rfl | omega

theorem drop_slice (f : ℕ → α) (off n k : ℕ) :
    (slice f off n).drop k = slice f (off + k) (n - k) := by
  apply List.ext_getElem?
  intro i
  rw [List.getElem?_drop, getElem?_slice, getElem?_slice, Nat.add_assoc]
  split_ifs <;> first | rfl | omega

/-- What a range shows after a copy to the start of the array. -/
theorem slice_blit_zero (f : ℕ → α) (l : List α) (n : ℕ) :
    slice (blit f 0 l) 0 n = l.take n ++ (slice f 0 n).drop l.length := by
  rw [drop_slice, Nat.zero_add]
  by_cases h : l.length ≤ n
  · rw [slice_blit_append f h, List.take_of_length_le h]
  · rw [slice_blit_of_le f l (by omega), Nat.sub_eq_zero_of_le (by omega), slice_zero,
      List.append_nil, List.drop_zero]

/-! ## Copies to the start of an array -/

theorem blit_of_lt {f : ℕ → α} {l : List α} {i : ℕ} (h : i < l.length) (x : α) :
    blit f 0 l i = l.getD i x := by
  simp [blit, h]

theorem blit_of_le {f : ℕ → α} {l : List α} {i : ℕ} (h : l.length ≤ i) : blit f 0 l i = f i := by
  simp [blit, h]

/-- The array after the copies `ls`, one after the other. -/
def blits (f : ℕ → α) (ls : List (List α)) : ℕ → α := ls.foldl (fun f l => blit f 0 l) f

theorem blits_concat (f : ℕ → α) (ls : List (List α)) (l : List α) :
    blits f (ls ++ [l]) = blit (blits f ls) 0 l := by
  simp [blits]

/-- Behind the ends of all later copies, every copy has only `z` in the first `n`
    cells. -/
def NothingLeft (z : α) (n : ℕ) : List (List α) → Prop
  | [] => True
  | l :: ls =>
    (ls ≠ [] → ∀ i < n, (∀ l' ∈ ls, l'.length ≤ i) → l.getD i z = z) ∧ NothingLeft z n ls

instance decidableNothingLeft [DecidableEq α] (z : α) (n : ℕ) :
    ∀ ls, Decidable (NothingLeft z n ls)
  | [] => isTrue trivial
  | _ :: ls =>
    have := decidableNothingLeft z n ls
    instDecidableAnd

theorem nothingLeft_cons {z : α} {n : ℕ} {l : List α} {ls : List (List α)} (hne : ls ≠ []) :
    NothingLeft z n (l :: ls) ↔
      (∀ i < n, (∀ l' ∈ ls, l'.length ≤ i) → l.getD i z = z) ∧ NothingLeft z n ls := by
  rw [NothingLeft]
  exact and_congr_left fun _ => ⟨fun h => h hne, fun h _ => h⟩

theorem slice_eq_takeD_iff (f : ℕ → α) (l : List α) (n : ℕ) (z : α) :
    slice f 0 n = l.takeD n z ↔ ∀ i < n, f i = l.getD i z := by
  induction n generalizing f l with
  | zero => simp
  | succ n ih =>
    have hshift : slice f (0 + 1) n = slice (fun i => f (i + 1)) 0 n := by
      simp only [slice, Nat.zero_add, Nat.add_comm 1]
    have htail : ∀ i, l.tail.getD i z = l.getD (i + 1) z := by
      intro i
      cases l <;> rfl
    have hhead : l.headD z = l.getD 0 z := by
      cases l <;> rfl
    rw [slice_succ_left, hshift, List.takeD, List.cons.injEq, ih, hhead]
    constructor
    · rintro ⟨h0, hs⟩ i hi
      cases i with
      | zero => exact h0
      | succ i => exact (hs i (by omega)).trans (htail i)
    · intro h
      exact ⟨h 0 (by omega), fun i hi => (h (i + 1) (by omega)).trans (htail i).symm⟩

/-- The cells with `P` hold `z` after a copy exactly if the copy has `z` there and,
    behind its end, the cells held `z` before. -/
theorem blit_behind_iff (f : ℕ → α) (l : List α) (n : ℕ) (z : α) (P : ℕ → Prop) :
    (∀ i < n, P i → blit f 0 l i = z) ↔
      (∀ i < n, l.length ≤ i ∧ P i → f i = z) ∧ ∀ i < n, P i → l.getD i z = z := by
  constructor
  · refine fun h => ⟨fun i hi hp => ?_, fun i hi hp => ?_⟩
    · rw [← h i hi hp.2, blit_of_le hp.1]
    · rcases Nat.lt_or_ge i l.length with hlt | hle
      · exact (blit_of_lt hlt z).symm.trans (h i hi hp)
      · exact List.getD_eq_default _ _ hle
  · rintro ⟨hf, hl⟩ i hi hp
    rcases Nat.lt_or_ge i l.length with hlt | hle
    · rw [blit_of_lt hlt z]
      exact hl i hi hp
    · rw [blit_of_le hle]
      exact hf i hi ⟨hle, hp⟩

/-- The first `n` cells show the last copy only, filled up with `z`, exactly if
    neither the cells before the copies nor an earlier copy shows behind its end. -/
theorem slice_blits_iff_of_ne_nil (f : ℕ → α) {ls : List (List α)} (hne : ls ≠ []) (n : ℕ) (z : α) :
    slice (blits f ls) 0 n = (ls.getLast?.getD []).takeD n z ↔
      (∀ i < n, (∀ l ∈ ls, l.length ≤ i) → f i = z) ∧ NothingLeft z n ls := by
  induction ls generalizing f with
  | nil => exact absurd rfl hne
  | cons l ls ih =>
    cases ls with
    | nil =>
      rw [slice_eq_takeD_iff]
      simp only [NothingLeft, ne_eq, not_true_eq_false, false_imp_iff, and_self, and_true,
        List.mem_singleton, forall_eq]
      show (∀ i < n, blit f 0 l i = l.getD i z) ↔ _
      constructor
      · intro h i hi hle
        have hcell := h i hi
        rw [blit_of_le hle] at hcell
        exact hcell.trans (List.getD_eq_default _ _ hle)
      · intro h i hi
        rcases Nat.lt_or_ge i l.length with hlt | hle
        · exact blit_of_lt hlt z
        · rw [blit_of_le hle, h i hi hle]
          exact (List.getD_eq_default _ _ hle).symm
    | cons l' ls =>
      have hrest := List.cons_ne_nil l' ls
      rw [List.getLast?_cons_cons]
      refine (ih (blit f 0 l) hrest).trans ?_
      rw [blit_behind_iff, and_assoc, nothingLeft_cons hrest]
      simp only [List.forall_mem_cons (l := l' :: ls)]

/-- **After copies to an array of `z`, the first `n` cells show the last copy only,
    filled up with `z`, exactly if nothing of an earlier one is left.** -/
theorem slice_blits_iff (ls : List (List α)) (n : ℕ) (z : α) :
    slice (blits (fun _ => z) ls) 0 n = (ls.getLast?.getD []).takeD n z ↔ NothingLeft z n ls := by
  by_cases hne : ls = []
  · subst hne
    rw [slice_eq_takeD_iff]
    exact iff_of_true (fun i _ => rfl) trivial
  · rw [slice_blits_iff_of_ne_nil _ hne]
    exact and_iff_right fun _ _ _ => rfl

end Iolinki.Lib
