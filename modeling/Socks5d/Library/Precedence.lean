import Mathlib.Data.List.Basic

/-
  Histories in which every event of some kind comes after
  something has held.

  Main declarations:
    * `Preceded`, `Lasting`
    * `Preceded.quiet`, `Preceded.onwards`
-/

variable {α : Type}

/- Before each event of the kind the history was such. -/
def Preceded
    (R : List α → Prop)
    (K : α → Prop)
    (history : List α) : Prop :=
  ∀ before event after, K event →
    history = before ++ event :: after → R before

/- What holds of a history holds of whatever continues it. -/
def Lasting (R : List α → Prop) : Prop :=
  ∀ history events, R history → R (history ++ events)

namespace Preceded

variable {R : List α → Prop}
variable {K : α → Prop}
variable {history events : List α}
variable {event : α}

/- An event of a history is an old one or a new one. -/
theorem split_append
    {before after : List α}
    (hEq : history ++ events = before ++ event :: after) :
    (∃ rest, history = before ++ event :: rest) ∨
      ∃ middle, before = history ++ middle ∧
        events = middle ++ event :: after := by
  rcases List.append_eq_append_iff.mp hEq with
    ⟨middle, hBefore, hEvents⟩ | ⟨rest, hOld, hRest⟩
  · exact Or.inr ⟨middle, hBefore, hEvents⟩
  · cases rest with
    | nil =>
        rw [List.append_nil] at hOld
        refine Or.inr ⟨[], ?_, hRest.symm⟩
        rw [List.append_nil, hOld]
    | cons first rest =>
        injection hRest with hFirst hTail
        rw [← hFirst] at hOld
        exact Or.inl ⟨rest, hOld⟩

theorem nil : Preceded R K [] := by
  intro before event after _ hEq
  nomatch List.append_eq_nil_iff.mp hEq.symm

/- Every new event of the kind has what comes before it. -/
theorem append
    (h : Preceded R K history)
    (hNew : ∀ middle event after, K event →
      events = middle ++ event :: after →
        R (history ++ middle)) :
    Preceded R K (history ++ events) := by
  intro before event after hKind hEq
  rcases split_append hEq with
    ⟨rest, hOld⟩ | ⟨middle, hBefore, hEvents⟩
  · exact h before event rest hKind hOld
  · rw [hBefore]
    exact hNew middle event after hKind hEvents

/- No event of the kind is added. -/
theorem quiet
    (h : Preceded R K history)
    (hNone : ∀ event ∈ events, ¬ K event) :
    Preceded R K (history ++ events) := by
  apply h.append
  intro middle event after hKind hEvents
  refine absurd hKind (hNone event ?_)
  rw [hEvents]
  exact List.mem_append_right _ List.mem_cons_self

/- What has to come before holds already. -/
theorem onwards
    (h : Preceded R K history)
    (hLasting : Lasting R)
    (hNow : R history) :
    Preceded R K (history ++ events) := by
  apply h.append
  intro middle _ _ _ _
  exact hLasting history middle hNow

theorem before
    (h : Preceded R K (history ++ events)) :
    Preceded R K history := by
  intro before event after hKind hEq
  apply h before event (after ++ events) hKind
  rw [hEq, List.append_assoc]
  rfl

end Preceded
