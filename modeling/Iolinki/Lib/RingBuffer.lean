import Mathlib.Data.List.Range
import Mathlib.Logic.Function.Basic
import Mathlib.Data.Nat.ModEq

/-!
# Bounded FIFO queues and circular buffers

`Fifo α n` is a queue of at most `n` elements: a list that carries its bound.
`push` appends an element and drops the oldest one when the queue would get too
long, `pop` removes the oldest one.

`RingBuffer α` is the circular buffer with the indices `head` and `tail` and the
number `count` of elements in it; the number `n` of its cells is a parameter of
the operations. `RingBuffer.Valid` is its invariant and `RingBuffer.toList` the elements in
it, oldest first.

* `RingBuffer.push_represents`, `RingBuffer.pop_represents`: each operation of the circular
  buffer is the operation of the queue, and keeps the invariant.
-/

namespace Iolinki.Lib

variable {α : Type*}

/-! ## The queue -/

/-- A queue of at most `n` elements, oldest first. -/
structure Fifo (α : Type*) (n : ℕ) where
  items : List α
  length_le : items.length ≤ n

namespace Fifo

variable {n : ℕ}

/-- The queue without elements. -/
def empty : Fifo α n := ⟨[], Nat.zero_le n⟩

/-- Append an element; drop the oldest if there are more than `n` then. -/
def push (q : Fifo α n) (a : α) : Fifo α n where
  items := if (q.items ++ [a]).length > n then (q.items ++ [a]).tail else q.items ++ [a]
  length_le := by
    have := q.length_le
    split_ifs with h
    · rw [List.length_tail, List.length_append, List.length_singleton]
      omega
    · omega

/-- The oldest element, and the queue without it. -/
def pop (q : Fifo α n) : Option α × Fifo α n :=
  (q.items.head?, ⟨q.items.tail, by rw [List.length_tail]; have := q.length_le; omega⟩)

@[simp] theorem pop_fst (q : Fifo α n) : q.pop.1 = q.items.head? := rfl

@[simp] theorem items_pop (q : Fifo α n) : q.pop.2.items = q.items.tail := rfl

end Fifo

/-! ## The circular buffer -/

/-- A circular buffer: the next element goes to `cells tail`, the oldest of the
    `count` elements is `cells head`. -/
structure RingBuffer (α : Type*) where
  cells : ℕ → α
  head : ℕ
  tail : ℕ
  count : ℕ

namespace RingBuffer

/-- The elements, oldest first. -/
def toList (n : ℕ) (r : RingBuffer α) : List α :=
  (List.range r.count).map fun i => r.cells ((r.head + i) % n)

/-- Forget the oldest element. -/
def drop (n : ℕ) (r : RingBuffer α) : RingBuffer α :=
  { r with head := (r.head + 1) % n, count := r.count - 1 }

/-- Store an element in a buffer that has a free cell. -/
def store (n : ℕ) (r : RingBuffer α) (a : α) : RingBuffer α :=
  { r with
    cells := Function.update r.cells r.tail a, tail := (r.tail + 1) % n, count := r.count + 1 }

/-- Store an element; a full buffer forgets the oldest one first. -/
def push (n : ℕ) (r : RingBuffer α) (a : α) : RingBuffer α :=
  store n (if r.count ≥ n then drop n r else r) a

/-- Take the oldest element out. -/
def pop (n : ℕ) (r : RingBuffer α) : Option α × RingBuffer α :=
  if r.count > 0 then (some (r.cells r.head), drop n r) else (none, r)

/-- The indices are those of a buffer of `n` cells. -/
structure Valid (n : ℕ) (r : RingBuffer α) : Prop where
  count_le : r.count ≤ n
  head_lt : r.head < n
  tail_eq : r.tail = (r.head + r.count) % n

variable {n : ℕ} {r : RingBuffer α}

@[simp] theorem length_toList (n : ℕ) (r : RingBuffer α) : (toList n r).length = r.count := by
  simp [toList]

theorem Valid.pos (h : Valid n r) : 0 < n := by
  have := h.head_lt
  omega

theorem Valid.tail_lt (h : Valid n r) : r.tail < n := by
  rw [h.tail_eq]
  exact Nat.mod_lt _ h.pos

/-- Two elements of the buffer are never in the same cell. -/
theorem add_mod_ne {h i k n : ℕ} (hik : i < k) (hk : k < n) : (h + i) % n ≠ (h + k) % n := by
  intro heq
  have hmod : i ≡ k [MOD n] := Nat.ModEq.add_left_cancel' h heq
  have := hmod.eq_of_lt_of_lt (by omega) hk
  omega

/-! ## Each operation -/

theorem drop_valid (h : Valid n r) (hc : 0 < r.count) : Valid n (drop n r) where
  count_le := by
    have := h.count_le
    simp only [drop]
    omega
  head_lt := Nat.mod_lt _ h.pos
  tail_eq := by
    have hsum : r.head + 1 + (r.count - 1) = r.head + r.count := by omega
    simp only [drop]
    rw [Nat.mod_add_mod, hsum]
    exact h.tail_eq

/-- Forgetting the oldest element is the tail of the list. -/
theorem toList_drop (n : ℕ) (r : RingBuffer α) : toList n (drop n r) = (toList n r).tail := by
  rcases hc : r.count with _ | k
  · simp [toList, drop, hc]
  · simp only [toList, drop, hc, Nat.add_sub_cancel, List.range_succ_eq_map, List.map_cons,
      List.tail_cons, List.map_map]
    apply List.map_congr_left
    intro i _
    simp only [Function.comp_apply]
    rw [Nat.mod_add_mod, Nat.succ_eq_add_one, Nat.add_assoc, Nat.add_comm 1 i]

theorem head?_toList (h : Valid n r) (hc : 0 < r.count) :
    (toList n r).head? = some (r.cells r.head) := by
  obtain ⟨k, hk⟩ : ∃ k, r.count = k + 1 := ⟨r.count - 1, by omega⟩
  simp [toList, hk, List.range_succ_eq_map, Nat.mod_eq_of_lt h.head_lt]

theorem toList_eq_nil_iff (n : ℕ) (r : RingBuffer α) : toList n r = [] ↔ r.count = 0 := by
  rw [← List.length_eq_zero_iff, length_toList]

theorem store_valid (h : Valid n r) (hc : r.count < n) (a : α) : Valid n (store n r a) where
  count_le := hc
  head_lt := h.head_lt
  tail_eq := by
    simp only [store]
    rw [h.tail_eq, Nat.mod_add_mod, Nat.add_assoc]

/-- The free cell is not one of the elements, so they stay as they are. -/
theorem toList_store (h : Valid n r) (hc : r.count < n) (a : α) :
    toList n (store n r a) = toList n r ++ [a] := by
  simp only [toList, store, List.range_succ, List.map_append, List.map_cons, List.map_nil]
  congr 1
  · apply List.map_congr_left
    intro i hi
    rw [Function.update_of_ne]
    rw [h.tail_eq]
    exact add_mod_ne (List.mem_range.mp hi) hc
  · rw [← h.tail_eq, Function.update_self]

/-! ## The buffer represents the queue -/

/-- The circular buffer `r` of `n` cells holds the elements of the queue `q`. -/
structure Represents (r : RingBuffer α) (q : Fifo α n) : Prop where
  valid : Valid n r
  toList_eq : toList n r = q.items

variable {q : Fifo α n}

theorem Represents.count_eq (h : Represents r q) : r.count = q.items.length := by
  rw [← h.toList_eq, length_toList]

theorem push_represents (h : Represents r q) (a : α) : Represents (push n r a) (q.push a) := by
  have hcount := h.count_eq
  have hle := h.valid.count_le
  have hpos := h.valid.pos
  unfold push
  by_cases hfull : r.count ≥ n
  · rw [if_pos hfull]
    have hc : (drop n r).count < n := by simp only [drop]; omega
    have hv := drop_valid h.valid (by omega)
    refine ⟨store_valid hv hc a, ?_⟩
    have hlong : (q.items ++ [a]).length > n := by
      rw [List.length_append, List.length_singleton]
      omega
    have hne : q.items ≠ [] := List.ne_nil_of_length_pos (by omega)
    simp only [Fifo.push, if_pos hlong]
    rw [toList_store hv hc, toList_drop, h.toList_eq, List.tail_append_of_ne_nil hne]
  · rw [if_neg hfull]
    refine ⟨store_valid h.valid (by omega) a, ?_⟩
    have hshort : ¬(q.items ++ [a]).length > n := by
      rw [List.length_append, List.length_singleton]
      omega
    simp only [Fifo.push, if_neg hshort]
    rw [toList_store h.valid (by omega), h.toList_eq]

theorem pop_represents (h : Represents r q) :
    (pop n r).1 = q.pop.1 ∧ Represents (pop n r).2 q.pop.2 := by
  unfold pop
  by_cases hc : r.count > 0
  · rw [if_pos hc]
    refine ⟨?_, drop_valid h.valid hc, ?_⟩
    · rw [Fifo.pop_fst, ← h.toList_eq, head?_toList h.valid hc]
    · rw [Fifo.items_pop, toList_drop, h.toList_eq]
  · rw [if_neg hc]
    have hnil : q.items = [] := by
      rw [← h.toList_eq, toList_eq_nil_iff]
      omega
    refine ⟨by rw [Fifo.pop_fst, hnil, List.head?_nil], h.valid, ?_⟩
    rw [Fifo.items_pop, h.toList_eq, hnil, List.tail_nil]

end RingBuffer

end Iolinki.Lib
