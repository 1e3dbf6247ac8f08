import Iolinki.Lib.Machine

/-!
# Simulations between machines

A relation between the states of two machines that every pair of related steps
keeps is kept by runs, and the outputs of the runs correspond (`run_rel`). A map
of states and inputs that commutes with the steps is the case in which the related
state is a function of the other one (`run_map`).
-/

namespace Iolinki.Lib.Machine

variable {σ ι ο σ' ι' ο' : Type*} (M : Machine σ ι ο) (N : Machine σ' ι' ο')

/-- Related steps make up related runs. -/
theorem run_rel {R : σ → σ' → Prop} {Q : ι → ι' → Prop} {S : ο → ο' → Prop}
    (hstep : ∀ s s' i i', R s s' → Q i i' →
      R (M.step s i).1 (N.step s' i').1 ∧ S (M.step s i).2 (N.step s' i').2)
    {s : σ} {s' : σ'} (hs : R s s') {is : List ι} {js : List ι'} (his : List.Forall₂ Q is js) :
    R (M.final s is) (N.final s' js) ∧ List.Forall₂ S (M.outputs s is) (N.outputs s' js) := by
  induction his generalizing s s' with
  | nil => exact ⟨hs, .nil⟩
  | cons hi _ ih =>
    obtain ⟨hnext, hout⟩ := hstep s s' _ _ hs hi
    obtain ⟨hfinal, houts⟩ := ih hnext
    exact ⟨hfinal, .cons hout houts⟩

/-- A map that commutes with the steps from the states of an invariant commutes
    with the runs. -/
theorem run_map {f : σ → σ'} {g : ι → ι'} {h : ο → ο'} {P : σ → Prop} {Q : ι → Prop}
    (hkeep : ∀ s i, P s → Q i → P (M.step s i).1)
    (hstep : ∀ s i, P s → Q i → N.step (f s) (g i) = (f (M.step s i).1, h (M.step s i).2))
    {s : σ} (hs : P s) {is : List ι} (his : ∀ i ∈ is, Q i) :
    N.final (f s) (is.map g) = f (M.final s is) ∧
      N.outputs (f s) (is.map g) = (M.outputs s is).map h := by
  induction is generalizing s with
  | nil => exact ⟨rfl, rfl⟩
  | cons i is ih =>
    have hi := his i List.mem_cons_self
    obtain ⟨hfinal, houts⟩ := ih (hkeep s i hs hi) fun j hj => his j (List.mem_cons_of_mem i hj)
    rw [List.map_cons, final_cons, outputs_cons, hstep s i hs hi]
    refine ⟨hfinal, ?_⟩
    rw [houts]
    rfl

end Iolinki.Lib.Machine
