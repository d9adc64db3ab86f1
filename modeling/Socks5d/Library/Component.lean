import Mathlib.Logic.Function.Basic

/-
  Components that answer operations, and what it means that
  one of them refines another.

  An operation without an answer is one that must not be made:
  an access outside an array, or a failed assertion.

  Main declarations:
    * `Component`, `Component.run`, `Component.run_total`
    * `Component.Keeps.run`
    * `Component.Refines`, `Component.Refines.run`
    * `Component.Realizes`, `Component.Realizes.run`
-/

/- States, operations and their answers. -/
structure Component (σ ω ρ : Type) where
  step : σ → ω → Option (σ × ρ)

namespace Component

variable {σ τ ω ρ : Type}
variable {C : Component σ ω ρ}
variable {A : Component τ ω ρ}
variable {P : σ → Prop}
variable {R : σ → τ → Prop}
variable {s s' : σ}
variable {t : τ}
variable {op : ω}
variable {ops : List ω}
variable {out : ρ}
variable {outs : List ρ}

/- The answers to operations that follow each other. -/
def run (C : Component σ ω ρ) :
    List ω → σ → Option (σ × List ρ)
| [], s => some (s, [])
| op :: rest, s =>
    (C.step s op).bind fun r =>
      (C.run rest r.1).map fun u => (u.1, r.2 :: u.2)

theorem run_cons_eq_some
    {u : σ × List ρ} :
    C.run (op :: ops) s = some u ↔
      ∃ s' out outs, C.step s op = some (s', out) ∧
        C.run ops s' = some (u.1, outs) ∧ u.2 = out :: outs := by
  rcases u with ⟨last, all⟩
  simp only [run, Option.bind_eq_some_iff,
    Option.map_eq_some_iff, Prod.mk.injEq, Prod.exists]
  constructor
  · rintro ⟨s', out, hStep, _, outs, hRest, rfl, rfl⟩
    exact ⟨s', out, outs, hStep, hRest, rfl⟩
  · rintro ⟨s', out, outs, hStep, hRest, rfl⟩
    exact ⟨s', out, hStep, last, outs, hRest, rfl, rfl⟩

/- Where every operation has an answer, so has every run. -/
theorem run_total
    (h : ∀ s op, ∃ r, C.step s op = some r)
    (ops : List ω)
    (s : σ) : ∃ r, C.run ops s = some r := by
  induction ops generalizing s with
  | nil => exact ⟨(s, []), rfl⟩
  | cons op rest ih =>
      rcases h s op with ⟨⟨mid, out⟩, hStep⟩
      rcases ih mid with ⟨⟨last, outs⟩, hRest⟩
      exact ⟨(last, out :: outs), run_cons_eq_some.mpr
        ⟨mid, out, outs, hStep, hRest, rfl⟩⟩

/- Every operation that has an answer keeps the property. -/
def Keeps
    (C : Component σ ω ρ)
    (P : σ → Prop) : Prop :=
  ∀ s op s' out, P s → C.step s op = some (s', out) → P s'

/- So do operations that follow each other. -/
theorem Keeps.run
    (h : C.Keeps P)
    (hBefore : P s)
    (hRun : C.run ops s = some (s', outs)) : P s' := by
  induction ops generalizing s outs with
  | nil =>
      cases hRun
      exact hBefore
  | cons op rest ih =>
      rcases run_cons_eq_some.mp hRun with
        ⟨mid, out, more, hStep, hRest, _⟩
      exact ih (h s op mid out hBefore hStep) hRest

/-
  What `C` answers, `A` answers, and the states stay related:
  `C` does nothing that `A` does not allow.
-/
def Refines
    (C : Component σ ω ρ)
    (A : Component τ ω ρ)
    (R : σ → τ → Prop) : Prop :=
  ∀ s t op s' out, R s t → C.step s op = some (s', out) →
    ∃ t', A.step t op = some (t', out) ∧ R s' t'

theorem Refines.run
    (h : C.Refines A R)
    (hBefore : R s t)
    (hRun : C.run ops s = some (s', outs)) :
    ∃ t', A.run ops t = some (t', outs) ∧ R s' t' := by
  induction ops generalizing s t outs with
  | nil =>
      cases hRun
      exact ⟨t, rfl, hBefore⟩
  | cons op rest ih =>
      rcases run_cons_eq_some.mp hRun with
        ⟨mid, out, more, hStep, hRest, hOuts⟩
      rcases h s t op mid out hBefore hStep with
        ⟨below, hBelow, hMid⟩
      rcases ih hMid hRest with ⟨last, hLast, hAfter⟩
      exact ⟨last, run_cons_eq_some.mpr
        ⟨below, out, more, hBelow, hLast, hOuts⟩, hAfter⟩

/-
  What `A` answers, `C` answers, and the states stay related:
  `C` is never without an answer where `A` has one.
-/
def Realizes
    (C : Component σ ω ρ)
    (A : Component τ ω ρ)
    (R : σ → τ → Prop) : Prop :=
  ∀ s t op t' out, R s t → A.step t op = some (t', out) →
    ∃ s', C.step s op = some (s', out) ∧ R s' t'

/- Read from the other side, `A` refines `C`. -/
theorem realizes_iff :
    C.Realizes A R ↔ A.Refines C (fun t s => R s t) :=
  ⟨fun h t s op t' out hR hStep => h s t op t' out hR hStep,
    fun h s t op t' out hR hStep => h t s op t' out hR hStep⟩

theorem Realizes.run
    {t' : τ}
    (h : C.Realizes A R)
    (hBefore : R s t)
    (hRun : A.run ops t = some (t', outs)) :
    ∃ s', C.run ops s = some (s', outs) ∧ R s' t' :=
  (realizes_iff.mp h).run hBefore hRun

end Component
