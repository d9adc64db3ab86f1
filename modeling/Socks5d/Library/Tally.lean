import Mathlib.Algebra.BigOperators.Group.Finset.Piecewise
import Mathlib.Algebra.Order.BigOperators.Group.Finset

/-
  A quantity summed over the members of a family that grows
  and changes one member at a time.

  Main declarations:
    * `Tally.total`
    * `Tally.total_update`, `Tally.total_push`
    * `Tally.total_le`
-/

namespace Socks5d

namespace Tally

variable {α : Type}
variable {f g : α → Nat}
variable {member : Nat → α}
variable {size k : Nat}

/- The sum over the first `size` members. -/
def total
    (f : α → Nat)
    (member : Nat → α)
    (size : Nat) : Nat :=
  ∑ k ∈ Finset.range size, f (member k)

/- Changing one member moves the sum by its own change. -/
theorem total_update
    (hMember : k < size)
    (x : α) :
    total f (Function.update member k x) size +
        f (member k) =
      total f member size + f x := by
  have hIn : k ∈ Finset.range size :=
    Finset.mem_range.mpr hMember
  have hShares : (fun i => f (Function.update member k x i)) =
      Function.update (fun i => f (member i)) k (f x) :=
    Function.comp_update f member k x
  have hBefore := Finset.sum_eq_add_sum_sdiff_singleton_of_mem
    hIn fun i => f (member i)
  unfold total
  rw [hShares, Finset.sum_update_of_mem hIn, hBefore]
  omega

/- A new member adds its own share. -/
theorem total_push
    (x : α) :
    total f (Function.update member size x) (size + 1) =
      total f member size + f x := by
  unfold total
  rw [Finset.sum_range_succ, Function.update_self]
  congr 1
  apply Finset.sum_congr rfl
  intro i hI
  have hNe : i ≠ size :=
    Nat.ne_of_lt (Finset.mem_range.mp hI)
  rw [Function.update_of_ne hNe]

theorem total_congr
    {other : Nat → α}
    (h : ∀ k < size, f (other k) = g (member k)) :
    total f other size = total g member size := by
  apply Finset.sum_congr rfl
  intro k hK
  exact h k (Finset.mem_range.mp hK)

theorem total_le
    (h : ∀ k < size, f (member k) ≤ g (member k)) :
    total f member size ≤ total g member size := by
  apply Finset.sum_le_sum
  intro k hK
  exact h k (Finset.mem_range.mp hK)

/- A sum of zeros and ones counts members. -/
theorem total_eq_card
    (P : α → Prop)
    [DecidablePred P] :
    total (fun x => if P x then 1 else 0) member size =
      ((Finset.range size).filter
        fun k => P (member k)).card := by
  unfold total
  rw [Finset.card_filter]

/- The sum is at least the share of each member. -/
theorem le_total
    (hMember : k < size) :
    f (member k) ≤ total f member size := by
  unfold total
  exact Finset.single_le_sum
    (f := fun i => f (member i))
    (fun _ _ => Nat.zero_le _)
    (Finset.mem_range.mpr hMember)

end Tally

end Socks5d
