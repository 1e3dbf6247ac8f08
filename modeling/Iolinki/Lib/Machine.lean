import Mathlib.Data.List.Basic
import Mathlib.Data.List.Induction

/-!
# Deterministic machines and their runs

A `Machine` consumes one input per step and produces one output. `final` is
the state a run ends in and `outputs` the list of outputs along it. The
invariant rules (`final_invariant`, `final_of_steps`, `final_rel`) are the only
inductions over runs that the proofs about a particular machine need. `rank_final` is the
rule for runs that come to rest.

`withHistory` pairs a machine with a value computed from the states and inputs
seen so far. The history never influences the machine
(`final_withHistory_fst`), so a statement about the history of a run is a
statement about the run of the machine itself.

`collect` lists what an observer notes at each step. `collect_induct` is the
rule for a statement about everything that is noted along a run.
-/

namespace Iolinki.Lib

/-- A deterministic machine with states `σ`, inputs `ι` and outputs `ο`. -/
structure Machine (σ ι ο : Type*) where
  step : σ → ι → σ × ο

/-- An entry of a log, with what stands before it, after a further entry. -/
theorem concat_prefix_concat_iff {α : Type*} {pre l : List α} {x a : α} :
    pre ++ [x] <+: l ++ [a] ↔ (pre = l ∧ x = a) ∨ pre ++ [x] <+: l := by
  rw [List.prefix_concat_iff]
  refine or_congr_left ⟨fun h => ?_, ?_⟩
  · obtain ⟨hpre, hlast⟩ := List.append_inj' h rfl
    exact ⟨hpre, List.singleton_inj.mp hlast⟩
  · rintro ⟨rfl, rfl⟩
    rfl

/-- A property of all beginnings of a log, from what each entry has to satisfy. -/
theorem forall_prefix_iff {α : Type*} {P : List α → Prop} {Q : List α → α → Prop} (hnil : P [])
    (hstep : ∀ pre x, P pre → (P (pre ++ [x]) ↔ Q pre x)) (l : List α) :
    (∀ pre, pre <+: l → P pre) ↔ ∀ pre x, pre ++ [x] <+: l → Q pre x := by
  constructor
  · intro h pre x hpre
    exact (hstep pre x (h pre ((List.prefix_append pre [x]).trans hpre))).mp (h _ hpre)
  · intro h pre hpre
    induction pre using List.reverseRecOn with
    | nil => exact hnil
    | append_singleton pre x ih =>
      exact (hstep pre x (ih ((List.prefix_append pre [x]).trans hpre))).mpr (h pre x hpre)

namespace Machine

variable {σ ι ο γ : Type*} (M : Machine σ ι ο)

/-- The state after the inputs `is`. -/
def final : σ → List ι → σ
  | s, [] => s
  | s, i :: is => final (M.step s i).1 is

/-- The outputs produced along the inputs `is`. -/
def outputs : σ → List ι → List ο
  | _, [] => []
  | s, i :: is => (M.step s i).2 :: outputs (M.step s i).1 is

@[simp] theorem final_nil (s : σ) : M.final s [] = s := rfl

@[simp] theorem final_cons (s : σ) (i : ι) (is : List ι) :
    M.final s (i :: is) = M.final (M.step s i).1 is := rfl

@[simp] theorem outputs_nil (s : σ) : M.outputs s [] = [] := rfl

@[simp] theorem outputs_cons (s : σ) (i : ι) (is : List ι) :
    M.outputs s (i :: is) = (M.step s i).2 :: M.outputs (M.step s i).1 is := rfl

@[simp] theorem length_outputs (s : σ) (is : List ι) : (M.outputs s is).length = is.length := by
  induction is generalizing s with
  | nil => rfl
  | cons i is ih => simp [ih]

theorem final_append (s : σ) (is js : List ι) :
    M.final s (is ++ js) = M.final (M.final s is) js := by
  induction is generalizing s with
  | nil => rfl
  | cons i is ih => exact ih _

theorem outputs_append (s : σ) (is js : List ι) :
    M.outputs s (is ++ js) = M.outputs s is ++ M.outputs (M.final s is) js := by
  induction is generalizing s with
  | nil => rfl
  | cons i is ih => simp [ih]

/-- What every step preserves under the inputs `Q`, a run of such inputs
    preserves. -/
theorem final_induct {P : σ → Prop} {Q : ι → Prop}
    (hstep : ∀ s i, P s → Q i → P (M.step s i).1) {s : σ} (hs : P s) {is : List ι}
    (his : ∀ i ∈ is, Q i) : P (M.final s is) := by
  induction is generalizing s with
  | nil => exact hs
  | cons i is ih =>
    exact ih (hstep s i hs (his i (by simp))) fun j hj => his j (by simp [hj])

/-- What every step preserves, every run preserves. -/
theorem final_invariant {P : σ → Prop} (hstep : ∀ s i, P s → P (M.step s i).1) {s : σ} (hs : P s)
    (is : List ι) : P (M.final s is) :=
  M.final_induct (Q := fun _ => True) (fun s i h _ => hstep s i h) hs fun _ _ => trivial

/-- A rank that every step lowers until it is zero. -/
theorem rank_final {P : σ → Prop} (hkeep : ∀ s i, P s → P (M.step s i).1) {rank : σ → ℕ}
    (hstep : ∀ s i, P s → rank (M.step s i).1 ≤ rank s - 1) {s : σ} (hs : P s) (is : List ι) :
    rank (M.final s is) ≤ rank s - is.length := by
  induction is generalizing s with
  | nil => exact Nat.le_refl _
  | cons i is ih =>
    have hnow := hstep s i hs
    have hrest := ih (hkeep s i hs)
    rw [final_cons, List.length_cons]
    omega

/-- A step that meets `Q` keeps `P`; so does a run whose steps all meet `Q`. -/
theorem final_of_steps {P : σ → Prop} {Q : σ → ι → Prop}
    (hstep : ∀ s i, P s → Q s i → P (M.step s i).1) {s : σ} (hs : P s) {is : List ι}
    (h : ∀ pre i, pre ++ [i] <+: is → Q (M.final s pre) i) : P (M.final s is) := by
  induction is generalizing s with
  | nil => exact hs
  | cons i is ih =>
    refine ih (hstep s i hs (h [] i ⟨is, rfl⟩)) ?_
    intro pre j hpre
    exact h (i :: pre) j (List.cons_prefix_cons.mpr ⟨rfl, hpre⟩)

/-- A reflexive and transitive relation that holds across every step holds
    across every run. -/
theorem final_rel {R : σ → σ → Prop} (hrefl : ∀ s, R s s)
    (htrans : ∀ {a b c}, R a b → R b c → R a c) (hstep : ∀ s i, R s (M.step s i).1)
    (s : σ) (is : List ι) : R s (M.final s is) := by
  induction is generalizing s with
  | nil => exact hrefl s
  | cons i is ih => exact htrans (hstep s i) (ih _)

/-- What the observer `f` notes along the inputs `is`: it sees the state before
    the step and the input. -/
def collect (f : σ → ι → List γ) : σ → List ι → List γ
  | _, [] => []
  | s, i :: is => f s i ++ collect f (M.step s i).1 is

@[simp] theorem collect_nil (f : σ → ι → List γ) (s : σ) : M.collect f s [] = [] := rfl

@[simp] theorem collect_cons (f : σ → ι → List γ) (s : σ) (i : ι) (is : List ι) :
    M.collect f s (i :: is) = f s i ++ M.collect f (M.step s i).1 is := rfl

theorem collect_append (f : σ → ι → List γ) (s : σ) (is js : List ι) :
    M.collect f s (is ++ js) = M.collect f s is ++ M.collect f (M.final s is) js := by
  induction is generalizing s with
  | nil => rfl
  | cons i is ih => simp [ih]

/-- If `P` is kept by every step and everything noted in a state with `P` has
    `R`, then everything noted along a run has `R`. -/
theorem collect_induct {f : σ → ι → List γ} {P : σ → Prop} {R : γ → Prop}
    (hstep : ∀ s i, P s → P (M.step s i).1) (hnote : ∀ s i, P s → ∀ x ∈ f s i, R x)
    {s : σ} (hs : P s) (is : List ι) : ∀ x ∈ M.collect f s is, R x := by
  induction is generalizing s with
  | nil => intro x hx; simp at hx
  | cons i is ih =>
    intro x hx
    rcases List.mem_append.mp hx with hx | hx
    · exact hnote s i hs x hx
    · exact ih (hstep s i hs) x hx

/-- If `P` is kept by every step and in a state with `P` all notes of `f` have `R` exactly
    when all notes of `g` have `R'`, then so along a run. -/
theorem collect_forall_iff {δ : Type*} {f : σ → ι → List γ} {g : σ → ι → List δ} {P : σ → Prop}
    {R : γ → Prop} {R' : δ → Prop} (hstep : ∀ s i, P s → P (M.step s i).1)
    (h : ∀ s i, P s → ((∀ x ∈ f s i, R x) ↔ ∀ y ∈ g s i, R' y)) {s : σ} (hs : P s) (is : List ι) :
    (∀ x ∈ M.collect f s is, R x) ↔ ∀ y ∈ M.collect g s is, R' y := by
  induction is generalizing s with
  | nil => simp
  | cons i is ih =>
    rw [collect_cons, collect_cons, List.forall_mem_append, List.forall_mem_append, h s i hs,
      ih (hstep s i hs)]

/-- What an observer keeps of its notes is what is kept at every step. -/
theorem filterMap_collect {δ : Type*} (g : γ → Option δ) (f : σ → ι → List γ) (s : σ)
    (is : List ι) :
    (M.collect f s is).filterMap g = M.collect (fun s i => (f s i).filterMap g) s is := by
  induction is generalizing s with
  | nil => rfl
  | cons i is ih => rw [collect_cons, collect_cons, List.filterMap_append, ih]

/-- An observer that notes less at every step notes less along a run. -/
theorem collect_mono {f g : σ → ι → List γ} (h : ∀ s i, f s i ⊆ g s i) (s : σ) (is : List ι) :
    M.collect f s is ⊆ M.collect g s is := by
  induction is generalizing s with
  | nil => exact List.Subset.refl _
  | cons i is ih =>
    exact List.append_subset.mpr ⟨List.subset_append_of_subset_left _ (h s i),
      List.subset_append_of_subset_right _ (ih _)⟩

/-- The invariant rule for a state and what has been noted so far, in runs whose
    steps all meet `Q`. -/
theorem final_collect_of_steps {f : σ → ι → List γ} {P : σ → List γ → Prop} {Q : σ → ι → Prop}
    (hstep : ∀ s i log, P s log → Q s i → P (M.step s i).1 (log ++ f s i)) {s : σ} {log : List γ}
    (hs : P s log) {is : List ι} (h : ∀ pre i, pre ++ [i] <+: is → Q (M.final s pre) i) :
    P (M.final s is) (log ++ M.collect f s is) := by
  induction is generalizing s log with
  | nil =>
    rw [collect_nil, List.append_nil]
    exact hs
  | cons i is ih =>
    rw [collect_cons, ← List.append_assoc]
    refine ih (hstep s i log hs (h [] i ⟨is, rfl⟩)) ?_
    intro pre j hpre
    exact h (i :: pre) j (List.cons_prefix_cons.mpr ⟨rfl, hpre⟩)

/-- The invariant rule for a state and what has been noted so far. -/
theorem final_collect_induct {f : σ → ι → List γ} {P : σ → List γ → Prop}
    (hstep : ∀ s i log, P s log → P (M.step s i).1 (log ++ f s i)) {s : σ} {log : List γ}
    (hs : P s log) (is : List ι) : P (M.final s is) (log ++ M.collect f s is) :=
  M.final_collect_of_steps (Q := fun _ _ => True) (fun s i log h _ => hstep s i log h) hs
    fun _ _ _ => trivial

/-- The invariant rule for two runs over the same inputs and what has been noted
    in each of them. -/
theorem final_collect_rel {f : σ → ι → List γ} {P : σ → σ → List γ → List γ → Prop}
    (hstep : ∀ s s' i log log', P s s' log log' →
      P (M.step s i).1 (M.step s' i).1 (log ++ f s i) (log' ++ f s' i))
    {s s' : σ} {log log' : List γ} (hs : P s s' log log') (is : List ι) :
    P (M.final s is) (M.final s' is) (log ++ M.collect f s is) (log' ++ M.collect f s' is) := by
  induction is generalizing s s' log log' with
  | nil =>
    rw [collect_nil, collect_nil, List.append_nil, List.append_nil]
    exact hs
  | cons i is ih =>
    rw [collect_cons, collect_cons, ← List.append_assoc, ← List.append_assoc]
    exact ih (hstep s s' i log log' hs)

/-- A step keeps `P` if everything noted in it has `R`; then so does a run. -/
theorem final_of_collect {f : σ → ι → List γ} {P : σ → Prop} {R : γ → Prop}
    (hstep : ∀ s i, P s → (∀ x ∈ f s i, R x) → P (M.step s i).1) {s : σ} (hs : P s) {is : List ι}
    (h : ∀ x ∈ M.collect f s is, R x) : P (M.final s is) := by
  induction is generalizing s with
  | nil => exact hs
  | cons i is ih =>
    obtain ⟨hi, his⟩ := List.forall_mem_append.mp h
    exact ih (hstep s i hs hi) his

/-- The machine together with a history value: `g` sees the state before the
    step and the input. -/
def withHistory (g : γ → σ → ι → γ) : Machine (σ × γ) ι ο where
  step s i := (((M.step s.1 i).1, g s.2 s.1 i), (M.step s.1 i).2)

theorem final_withHistory_fst (g : γ → σ → ι → γ) (s : σ) (h : γ) (is : List ι) :
    ((M.withHistory g).final (s, h) is).1 = M.final s is := by
  induction is generalizing s h with
  | nil => rfl
  | cons i is ih => exact ih _ _

end Machine

end Iolinki.Lib
