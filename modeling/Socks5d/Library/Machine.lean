import Mathlib.Logic.Relation

/-
  Labelled transition systems and their invariants.

  Main declarations:
    * `Machine`
    * `Machine.Reachable`
    * `Machine.Reachable.invariant`
    * `Machine.Reachable.strengthen`
-/

/- Initial states and labelled steps. -/
structure Machine (σ ι : Type) where
  init : σ → Prop
  step : σ → ι → σ → Prop

namespace Machine

variable {σ ι : Type}
variable {M : Machine σ ι}

/- States reached by some run. -/
inductive Reachable (M : Machine σ ι) : σ → Prop where
  | init {s : σ} (h : M.init s) : Reachable M s
  | step {s t : σ} {l : ι} (h : Reachable M s)
      (hStep : M.step s l t) : Reachable M t

namespace Reachable

/-
  A property of the initial states that every step keeps
  holds in every reachable state.
-/
theorem invariant
    {P : σ → Prop}
    (hInit : ∀ s, M.init s → P s)
    (hStep : ∀ s l t, P s → M.step s l t → P t)
    {s : σ}
    (h : M.Reachable s) : P s := by
  induction h with
  | init h => exact hInit _ h
  | step _ hNext ih => exact hStep _ _ _ ih hNext

/-
  The step may also rely on an invariant that is already
  established.
-/
theorem strengthen
    {P Q : σ → Prop}
    (hQ : ∀ s, M.Reachable s → Q s)
    (hInit : ∀ s, M.init s → P s)
    (hStep : ∀ s l t,
      Q s → P s → M.step s l t → P t)
    {s : σ}
    (h : M.Reachable s) : P s := by
  induction h with
  | init h => exact hInit _ h
  | step hPrior hNext ih =>
      exact hStep _ _ _ (hQ _ hPrior) ih hNext

end Reachable

end Machine
