import Mathlib.Algebra.BigOperators.Group.Finset.Basic
import Mathlib.Algebra.BigOperators.Intervals
import Mathlib.Data.Nat.ModEq
import Mathlib.Tactic.Ring

/-!
# Fletcher sums

Fletcher's checksum keeps two sums modulo `m`: that of the blocks, and that of the
values the first sum takes on the way. The second one weighs every block with the
number of blocks from it to the end (`weightedSum`), so it depends on their order.

* `foldl_fletcherStep`: the two sums of the loop.
* `sum_ne_of_replace`, `weightedSum_ne_of_swap`: a block that is replaced by one of
  another residue changes the first sum, two neighbours of different residues that
  are exchanged change the second one.
-/

namespace Iolinki.Lib

/-- One block is added to both sums. -/
def fletcherStep (m : ℕ) (s : ℕ × ℕ) (b : ℕ) : ℕ × ℕ :=
  ((s.1 + b) % m, (s.2 + (s.1 + b) % m) % m)

/-- The sum of the blocks, each of them as often as there are blocks from it to the
    end. -/
def weightedSum : List ℕ → ℕ
  | [] => 0
  | b :: l => (l.length + 1) * b + weightedSum l

theorem weightedSum_append (l l' : List ℕ) :
    weightedSum (l ++ l') = weightedSum l + l'.length * l.sum + weightedSum l' := by
  induction l with
  | nil => simp [weightedSum]
  | cons b l ih =>
    rw [List.cons_append, weightedSum, weightedSum, ih, List.length_append, List.sum_cons]
    ring

/-- Another block adds its own value and the sum of those before it. -/
theorem weightedSum_concat (l : List ℕ) (b : ℕ) :
    weightedSum (l ++ [b]) = weightedSum l + (l ++ [b]).sum := by
  rw [weightedSum_append, List.sum_append, List.sum_singleton]
  simp only [weightedSum, List.length_singleton, List.length_nil]
  ring

theorem weightedSum_eq_sum (l : List ℕ) :
    weightedSum l = ∑ i ∈ Finset.range l.length, (l.length - i) * l.getD i 0 := by
  induction l with
  | nil => rfl
  | cons b l ih =>
    rw [weightedSum, ih, List.length_cons, Finset.sum_range_succ']
    simp only [Nat.add_sub_add_right, List.getD_cons_succ, List.getD_cons_zero, Nat.sub_zero]
    rw [Nat.add_comm]

/-- **The loop computes both sums.** -/
theorem foldl_fletcherStep (m : ℕ) (l : List ℕ) :
    l.foldl (fletcherStep m) (0, 0) = (l.sum % m, weightedSum l % m) := by
  induction l using List.reverseRecOn with
  | nil => simp [weightedSum]
  | append_singleton l b ih =>
    have hsum : (l.sum % m + b) % m = (l ++ [b]).sum % m := by
      rw [List.sum_append, List.sum_singleton, Nat.mod_add_mod]
    rw [List.foldl_append, ih, List.foldl_cons, List.foldl_nil, fletcherStep, hsum,
      weightedSum_concat, Nat.add_mod (weightedSum l)]

/-! ## What the sums detect -/

variable {m x y : ℕ}

theorem sum_ne_of_replace (pre post : List ℕ) (h : ¬x ≡ y [MOD m]) :
    ¬(pre ++ x :: post).sum ≡ (pre ++ y :: post).sum [MOD m] := by
  intro heq
  simp only [List.sum_append, List.sum_cons] at heq
  exact h (Nat.ModEq.add_right_cancel' _ (Nat.ModEq.add_left_cancel' _ heq))

theorem weightedSum_ne_of_swap (pre post : List ℕ) (h : ¬x ≡ y [MOD m]) :
    ¬weightedSum (pre ++ x :: y :: post) ≡ weightedSum (pre ++ y :: x :: post) [MOD m] := by
  intro heq
  -- what both orders have in common
  have hsplit : ∀ a b, weightedSum (pre ++ a :: b :: post) =
      weightedSum pre + (post.length + 2) * pre.sum + (post.length + 1) * (a + b) +
        weightedSum post + a := by
    intro a b
    rw [weightedSum_append, weightedSum, weightedSum]
    simp only [List.length_cons]
    ring
  rw [hsplit, hsplit, Nat.add_comm y x] at heq
  exact h (Nat.ModEq.add_left_cancel' _ heq)

end Iolinki.Lib
