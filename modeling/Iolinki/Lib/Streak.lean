import Mathlib.Data.List.Basic
import Mathlib.Data.List.Infix

/-!
# Streaks at the end of a list

`EndsIn P n l` says that the last `n` entries of `l` all have `P`. A counter of
consecutive entries with `P` is correct if the list ends in a streak of that
length; `EndsIn.concat` and `endsIn_zero` are its two steps.

`forall_concat_nil` and `forall_concat_cons` are the steps of an induction over a
property of every entry of a list and of the entries before it.
-/

namespace Iolinki.Lib

variable {α : Type*} {P : α → Prop} {n : ℕ} {l : List α} {x : α}

/-- The last `n` entries of `l` have `P`. -/
def EndsIn (P : α → Prop) (n : ℕ) (l : List α) : Prop :=
  ∃ front streak, l = front ++ streak ∧ streak.length = n ∧ ∀ y ∈ streak, P y

theorem endsIn_zero (P : α → Prop) (l : List α) : EndsIn P 0 l :=
  ⟨l, [], by simp, rfl, by simp⟩

/-- A further entry with `P`. -/
theorem EndsIn.concat (h : EndsIn P n l) (hx : P x) : EndsIn P (n + 1) (l ++ [x]) := by
  obtain ⟨front, streak, rfl, rfl, hP⟩ := h
  refine ⟨front, streak ++ [x], by rw [List.append_assoc], by rw [List.length_append]; rfl, ?_⟩
  intro y hy
  rcases List.mem_append.mp hy with hy | hy
  · exact hP y hy
  · rw [List.mem_singleton.mp hy]
    exact hx

theorem EndsIn.of_le {m : ℕ} (h : EndsIn P n l) (hle : m ≤ n) : EndsIn P m l := by
  obtain ⟨front, streak, rfl, rfl, hP⟩ := h
  refine ⟨front ++ streak.take (streak.length - m), streak.drop (streak.length - m), ?_, ?_, ?_⟩
  · rw [List.append_assoc, List.take_append_drop]
  · rw [List.length_drop]
    omega
  · intro y hy
    exact hP y (List.mem_of_mem_drop hy)

theorem endsIn_iff_drop : EndsIn P n l ↔ n ≤ l.length ∧ ∀ y ∈ l.drop (l.length - n), P y := by
  constructor
  · rintro ⟨front, streak, rfl, rfl, hP⟩
    refine ⟨by rw [List.length_append]; omega, ?_⟩
    rw [List.length_append, Nat.add_sub_cancel, List.drop_left]
    exact hP
  · rintro ⟨hle, hP⟩
    refine ⟨l.take (l.length - n), l.drop (l.length - n), (List.take_append_drop _ _).symm, ?_, hP⟩
    rw [List.length_drop]
    omega

instance [DecidablePred P] : Decidable (EndsIn P n l) := decidable_of_iff _ endsIn_iff_drop.symm

/-- A streak at the end is a piece of every longer list. -/
theorem EndsIn.exists_row (h : EndsIn P n l) (rest : List α) :
    ∃ streak, streak <:+: l ++ rest ∧ streak.length = n ∧ ∀ y ∈ streak, P y := by
  obtain ⟨front, streak, rfl, hn, hP⟩ := h
  exact ⟨streak, ⟨front, rest, rfl⟩, hn, hP⟩

/-! ## Every entry and what is before it -/

section Places

variable {Q : List α → α → Prop}

theorem forall_concat_nil : ∀ pre y, pre ++ [y] <+: [] → Q pre y := by
  intro pre y hpre
  cases pre <;> cases List.prefix_nil.mp hpre

theorem forall_concat_cons (hx : Q [] x) (hl : ∀ pre y, pre ++ [y] <+: l → Q (x :: pre) y) :
    ∀ pre y, pre ++ [y] <+: x :: l → Q pre y := by
  intro pre y hpre
  cases pre with
  | nil =>
    obtain rfl : y = x := (List.cons_prefix_cons.mp hpre).1
    exact hx
  | cons z pre =>
    obtain ⟨rfl, hrest⟩ := List.cons_prefix_cons.mp hpre
    exact hl pre y hrest

end Places

end Iolinki.Lib
