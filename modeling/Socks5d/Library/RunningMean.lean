import Mathlib.Algebra.BigOperators.Group.List.Basic
import Mathlib.Algebra.Order.Ring.Nat
import Mathlib.Data.List.Induction

/-
  A mean that is updated from its own rounded value, and when
  it is the rounded mean of all values.

  Main declarations:
    * `RunningMean.mean`
    * `RunningMean.Rising`
    * `RunningMean.exact_iff_rising`
-/

namespace RunningMean

/- The mean with one more value. -/
def update
    (mean count value : Nat) : Nat :=
  (mean * count + value) / (count + 1)

/- Mean and number of some values, updated one by one. -/
def step
    (state : Nat × Nat)
    (value : Nat) : Nat × Nat :=
  (update state.1 state.2 value, state.2 + 1)

def run (values : List Nat) : Nat × Nat :=
  values.foldl step (0, 0)

def mean (values : List Nat) : Nat :=
  (run values).1

/- The rounded mean of all values, whenever there are some. -/
def Exact (values : List Nat) : Prop :=
  values ≠ [] →
    mean values = values.sum / values.length

/-
  The remainder of the sum of the first `j` values by `j`
  never decreases.
-/
def Rising (values : List Nat) : Prop :=
  ∀ j, 0 < j → j < values.length →
    (values.take j).sum % j ≤
      (values.take (j + 1)).sum % (j + 1)

section Updates

variable {values : List Nat}

theorem run_concat
    (values : List Nat)
    (value : Nat) :
    run (values ++ [value]) = step (run values) value := by
  unfold run
  rw [List.foldl_append]
  rfl

theorem run_count
    (values : List Nat) :
    (run values).2 = values.length := by
  induction values using List.reverseRecOn with
  | nil => rfl
  | append_singleton values value ih =>
      rw [run_concat, List.length_append]
      exact congrArg (· + 1) ih

theorem mean_concat
    (values : List Nat)
    (value : Nat) :
    mean (values ++ [value]) =
      update (mean values) values.length value := by
  unfold mean
  rw [run_concat, ← run_count]
  rfl

/- Rounding never makes the total too large. -/
theorem mean_mul_le
    (values : List Nat) :
    mean values * values.length ≤ values.sum := by
  induction values using List.reverseRecOn with
  | nil => exact Nat.le_refl _
  | append_singleton values value ih =>
      rw [mean_concat, List.length_append, List.sum_append]
      refine Nat.le_trans (Nat.div_mul_le_self _ _) ?_
      exact Nat.add_le_add_right ih _

/- Taking the remainder away keeps a quotient. -/
theorem sub_div_eq_iff
    {total part d : Nat}
    (hPart : part ≤ total)
    (hPos : 0 < d) :
    (total - part) / d = total / d ↔ part ≤ total % d := by
  have hSplit := Nat.div_add_mod total d
  constructor
  · intro hSame
    have hLess := Nat.div_mul_le_self (total - part) d
    rw [hSame, Nat.mul_comm] at hLess
    omega
  · intro hSmall
    refine (Nat.div_eq_of_lt_le ?_ ?_)
    · rw [Nat.mul_comm]
      omega
    · have hMod := Nat.mod_lt total hPos
      rw [Nat.succ_mul, Nat.mul_comm]
      omega

/- One update from an exact mean. -/
theorem update_eq_iff
    (total count value : Nat) :
    update (total / count) count value =
        (total + value) / (count + 1) ↔
      total % count ≤ (total + value) % (count + 1) := by
  have hSplit := Nat.div_add_mod total count
  have hSum : total / count * count + value =
      total + value - total % count := by
    rw [Nat.mul_comm]
    omega
  unfold update
  rw [hSum]
  refine sub_div_eq_iff ?_ (Nat.succ_pos count)
  exact Nat.le_trans (Nat.mod_le _ _) (Nat.le_add_right _ _)

/- The first value is its own mean. -/
theorem exact_singleton
    (value : Nat) : Exact [value] := by
  intro _
  simp [mean, run, step, update]

theorem exact_concat_iff
    (hSome : values ≠ [])
    (h : Exact values)
    (value : Nat) :
    Exact (values ++ [value]) ↔
      values.sum % values.length ≤
        (values.sum + value) % (values.length + 1) := by
  have hAll : values ++ [value] ≠ [] :=
    List.append_ne_nil_of_right_ne_nil _ (List.cons_ne_nil _ _)
  rw [← update_eq_iff, ← h hSome, ← mean_concat]
  have hSum : (values ++ [value]).sum = values.sum + value := by
    rw [List.sum_append, List.sum_singleton]
  have hLength : (values ++ [value]).length =
      values.length + 1 := List.length_append
  unfold Exact
  rw [hSum, hLength]
  exact ⟨fun hExact => hExact hAll, fun hExact _ => hExact⟩

theorem take_concat
    (values : List Nat)
    (value : Nat) :
    (values ++ [value]).take (values.length + 1) =
      values ++ [value] :=
  List.take_of_length_le (Nat.le_of_eq List.length_append)

/- With one more value, one more remainder counts. -/
theorem rising_concat_iff
    (hSome : values ≠ [])
    (value : Nat) :
    Rising (values ++ [value]) ↔
      Rising values ∧
        values.sum % values.length ≤
          (values.sum + value) % (values.length + 1) := by
  have hLength : (values ++ [value]).length =
      values.length + 1 := List.length_append
  have hFront : (values ++ [value]).take values.length =
      values := List.take_left
  have hSum : (values ++ [value]).sum = values.sum + value := by
    rw [List.sum_append, List.sum_singleton]
  unfold Rising
  rw [hLength]
  constructor
  · intro hAll
    refine ⟨fun j hPos hLt => ?_, ?_⟩
    · have hHere := hAll j hPos (Nat.lt_succ_of_lt hLt)
      rw [List.take_append_of_le_length (Nat.le_of_lt hLt),
        List.take_append_of_le_length hLt] at hHere
      exact hHere
    · have hHere := hAll values.length
        (List.length_pos_iff.mpr hSome) (Nat.lt_succ_self _)
      rw [hFront, take_concat, hSum] at hHere
      exact hHere
  · rintro ⟨hAll, hLast⟩ j hPos hLt
    rcases Nat.lt_succ_iff_lt_or_eq.mp hLt with hLess | hEq
    · rw [List.take_append_of_le_length (Nat.le_of_lt hLess),
        List.take_append_of_le_length hLess]
      exact hAll j hPos hLess
    · rw [hEq, hFront, take_concat, hSum]
      exact hLast

/-
  The mean is exact after every value if and only if the
  remainders never decrease.
-/
theorem exact_iff_rising
    (values : List Nat) :
    (∀ j ≤ values.length, Exact (values.take j)) ↔
      Rising values := by
  induction values using List.reverseRecOn with
  | nil =>
      constructor
      · intro _ j hPos hLt
        exact absurd hLt (Nat.not_lt_zero j)
      · intro _ j _ hSome
        exact absurd List.take_nil hSome
  | append_singleton values value ih =>
      have hParts : (∀ j ≤ (values ++ [value]).length,
          Exact ((values ++ [value]).take j)) ↔
            Rising values ∧ Exact (values ++ [value]) := by
        rw [← ih, List.length_append, List.length_singleton]
        constructor
        · intro hAll
          refine ⟨fun j hLe => ?_, ?_⟩
          · have hHere := hAll j (Nat.le_succ_of_le hLe)
            rw [List.take_append_of_le_length hLe] at hHere
            exact hHere
          · have hHere := hAll _ (Nat.le_refl _)
            rw [take_concat] at hHere
            exact hHere
        · rintro ⟨hFront, hLast⟩ j hLe
          rcases Nat.le_or_eq_of_le_succ hLe with hLess | hEq
          · rw [List.take_append_of_le_length hLess]
            exact hFront j hLess
          · rw [hEq, take_concat]
            exact hLast
      rw [hParts]
      by_cases hSome : values = []
      · rw [hSome]
        refine ⟨fun _ j hPos hLt => ?_, fun _ => ⟨?_, ?_⟩⟩
        · exact absurd hPos (Nat.not_lt.mpr
            (Nat.le_of_lt_succ hLt))
        · intro j _ hLt
          exact absurd hLt (Nat.not_lt_zero j)
        · exact exact_singleton value
      · rw [rising_concat_iff hSome]
        refine and_congr_right fun hRising => ?_
        refine exact_concat_iff hSome ?_ value
        have hExact := ih.mpr hRising _ (Nat.le_refl _)
        rw [List.take_length] at hExact
        exact hExact

end Updates

end RunningMean
