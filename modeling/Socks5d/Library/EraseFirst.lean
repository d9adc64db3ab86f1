import Mathlib.Data.List.Range
import Mathlib.Logic.Function.Basic

/-
  Erasing the first match from the front of an array in one
  pass: the element found is blanked, and every later one is
  moved down by one position.

  Main declarations:
    * `EraseFirst.front`
    * `EraseFirst.step` and `EraseFirst.loop`
    * `EraseFirst.loop_cases`, `EraseFirst.loop_map`
-/

------------------------------------------------------------
-- The Front Of An Array
------------------------------------------------------------

namespace EraseFirst

variable {α β : Type}
variable {xs ys : Nat → α}
variable {n : Nat}

/- The first `n` elements. -/
def front
    (n : Nat)
    (xs : Nat → α) : List α :=
  (List.range n).map xs

theorem length_front
    (n : Nat)
    (xs : Nat → α) : (front n xs).length = n := by
  unfold front
  rw [List.length_map, List.length_range]

theorem front_succ
    (n : Nat)
    (xs : Nat → α) :
    front (n + 1) xs = front n xs ++ [xs n] := by
  unfold front
  rw [List.range_succ, List.map_append, List.map_singleton]

theorem mem_front
    {x : α} :
    x ∈ front n xs ↔ ∃ i < n, xs i = x := by
  unfold front
  simp only [List.mem_map, List.mem_range]

theorem front_congr
    (h : ∀ i < n, xs i = ys i) :
    front n xs = front n ys := by
  apply List.map_congr_left
  intro i hMem
  exact h i (List.mem_range.mp hMem)

theorem front_map
    (f : α → β)
    (n : Nat)
    (xs : Nat → α) :
    front n (fun i => f (xs i)) = (front n xs).map f := by
  unfold front
  rw [List.map_map]
  rfl

/- An element behind the front may change. -/
theorem front_update
    {i : Nat}
    (h : n ≤ i)
    (x : α) :
    front n (Function.update xs i x) = front n xs := by
  apply front_congr
  intro j hLt
  exact Function.update_of_ne
    (Nat.ne_of_lt (Nat.lt_of_lt_of_le hLt h)) _ _

/- The element behind the front is set, and joins it. -/
theorem front_push
    (n : Nat)
    (xs : Nat → α)
    (x : α) :
    front (n + 1) (Function.update xs n x) =
      front n xs ++ [x] := by
  rw [front_succ, Function.update_self,
    front_update (Nat.le_refl n)]

/- The last element of a front is set. -/
theorem front_update_last
    (hPos : 0 < n)
    (x : α) :
    front n (Function.update xs (n - 1) x) =
      front (n - 1) xs ++ [x] := by
  cases n with
  | zero => exact absurd hPos (Nat.lt_irrefl 0)
  | succ n => exact front_push n xs x

/- Only the elements of the list are compared. -/
theorem eraseP_congr
    {f g : α → Bool}
    {l : List α}
    (h : ∀ x ∈ l, f x = g x) : l.eraseP f = l.eraseP g := by
  induction l with
  | nil => rfl
  | cons x rest ih =>
      rw [List.eraseP_cons, List.eraseP_cons,
        h x List.mem_cons_self,
        ih fun y hMem => h y (List.mem_cons_of_mem x hMem)]

end EraseFirst

------------------------------------------------------------
-- The Pass
------------------------------------------------------------

namespace EraseFirst

variable {α : Type}

/-
  One turn: what has been found moves the element down, or
  the element is the first match and is blanked.
-/
def step
    (named : α → Bool)
    (blank : α)
    (state : Option α × (Nat → α))
    (i : Nat) : Option α × (Nat → α) :=
  let xs :=
    if state.1.isSome then
      Function.update state.2 (i - 1) (state.2 i)
    else state.2
  if !state.1.isSome && named (xs i) then
    (some (xs i), Function.update xs i blank)
  else
    (state.1, xs)

/- The turns for the first `n` positions. -/
def loop
    (named : α → Bool)
    (blank : α)
    (n : Nat)
    (xs : Nat → α) : Option α × (Nat → α) :=
  (List.range n).foldl (step named blank) (none, xs)

/- What the turns leave: nothing is found, or one is erased. -/
inductive Looped
    (named : α → Bool)
    (xs : Nat → α)
    (n : Nat) : Option α × (Nat → α) → Prop where
  | missing
      (hOther : ∀ x ∈ front n xs, named x = false) :
      Looped named xs n (none, xs)
  | erased
      (x : α)
      (now : Nat → α)
      (hPos : 0 < n)
      (hIn : x ∈ front n xs)
      (hNamed : named x = true)
      (hFound : (front n xs).find? named = some x)
      (hErased : front (n - 1) now =
        (front n xs).eraseP named)
      (hKept : ∀ i, n ≤ i → now i = xs i) :
      Looped named xs n (some x, now)

section Turns

variable {named : α → Bool}
variable {blank : α}
variable {xs now : Nat → α}
variable {x : α}
variable {n : Nat}

theorem step_searching
    (hName : named (xs n) = false) :
    step named blank (none, xs) n = (none, xs) := by
  unfold step
  simp only [Option.isSome_none, Bool.false_eq_true, if_false,
    Bool.not_false, Bool.true_and, hName]

theorem step_found
    (hName : named (xs n) = true) :
    step named blank (none, xs) n =
      (some (xs n), Function.update xs n blank) := by
  unfold step
  simp only [Option.isSome_none, Bool.false_eq_true, if_false,
    Bool.not_false, Bool.true_and, hName, if_true]

theorem step_moving :
    step named blank (some x, now) n =
      (some x, Function.update now (n - 1) (now n)) := by
  unfold step
  simp only [Option.isSome_some, if_true, Bool.not_true,
    Bool.false_and, Bool.false_eq_true, if_false]

/- Before the match. -/
theorem Looped.search
    (blank : α)
    (hOther : ∀ y ∈ front n xs, named y = false) :
    Looped named xs (n + 1)
      (step named blank (none, xs) n) := by
  cases hName : named (xs n) with
  | false =>
      rw [step_searching hName]
      apply Looped.missing
      intro y hMem
      rw [front_succ] at hMem
      rcases List.mem_append.mp hMem with hOld | hNew
      · exact hOther y hOld
      · rw [List.mem_singleton.mp hNew]
        exact hName
  | true =>
      have hNone : ∀ y ∈ front n xs, ¬ named y = true := by
        intro y hMem hBad
        rw [hOther y hMem] at hBad
        nomatch hBad
      rw [step_found hName]
      apply Looped.erased
      · exact Nat.succ_pos n
      · rw [front_succ]
        exact List.mem_append_right _
          (List.mem_singleton.mpr rfl)
      · exact hName
      · rw [front_succ, List.find?_append,
          List.find?_eq_none.mpr hNone, Option.none_or]
        exact List.find?_cons_of_pos hName
      · rw [front_succ, List.eraseP_append_right _ hNone,
          List.eraseP_cons_of_pos hName, List.append_nil,
          Nat.add_sub_cancel]
        exact front_update (Nat.le_refl n) blank
      · intro i hLe
        exact Function.update_of_ne (Nat.ne_of_gt hLe) _ _

/- After the match. -/
theorem Looped.move
    (blank : α)
    (hPos : 0 < n)
    (hIn : x ∈ front n xs)
    (hNamed : named x = true)
    (hFound : (front n xs).find? named = some x)
    (hErased : front (n - 1) now =
      (front n xs).eraseP named)
    (hKept : ∀ i, n ≤ i → now i = xs i) :
    Looped named xs (n + 1)
      (step named blank (some x, now) n) := by
  rw [step_moving]
  apply Looped.erased
  · exact Nat.succ_pos n
  · rw [front_succ]
    exact List.mem_append_left _ hIn
  · exact hNamed
  · rw [front_succ, List.find?_append, hFound]
    rfl
  · rw [front_succ, List.eraseP_append_left hNamed _ hIn,
      ← hErased, ← hKept n (Nat.le_refl n),
      Nat.add_sub_cancel]
    exact front_update_last hPos (now n)
  · intro i hLe
    have hNe : i ≠ n - 1 := by omega
    exact (Function.update_of_ne hNe _ _).trans
      (hKept i (Nat.le_of_succ_le hLe))

end Turns

/-
  The pass erases the first match of the front, or changes
  nothing. The induction is on the positions passed.
-/
theorem loop_cases
    (named : α → Bool)
    (blank : α)
    (xs : Nat → α)
    (n : Nat) :
    Looped named xs n (loop named blank n xs) := by
  induction n with
  | zero =>
      apply Looped.missing
      intro x hMem
      nomatch hMem
  | succ n ih =>
      have hLast : loop named blank (n + 1) xs =
          step named blank (loop named blank n xs) n := by
        unfold loop
        rw [List.range_succ, List.foldl_append]
        rfl
      rw [hLast]
      generalize loop named blank n xs = before at ih
      cases ih with
      | missing hOther => exact .search blank hOther
      | erased x now hPos hIn hNamed hFound hErased hKept =>
          exact .move blank hPos hIn hNamed hFound hErased
            hKept

/- The pass commutes with a view of the elements. -/
theorem loop_map
    {β : Type}
    (f : α → β)
    (named : α → Bool)
    (seen : β → Bool)
    (hSeen : ∀ x, seen (f x) = named x)
    (blank : α)
    (xs : Nat → α)
    (n : Nat) :
    loop seen (f blank) n (fun i => f (xs i)) =
      ((loop named blank n xs).1.map f,
        fun i => f ((loop named blank n xs).2 i)) := by
  have hUpdate : ∀ (now : Nat → α) i x,
      (fun j => f (Function.update now i x j)) =
        Function.update (fun j => f (now j)) i (f x) := by
    intro now i x
    exact Function.comp_update f now i x
  have hTurn : ∀ (state : Option α × (Nat → α)) (i : Nat),
      step seen (f blank)
          (state.1.map f, fun j => f (state.2 j)) i =
        ((step named blank state i).1.map f,
          fun j => f ((step named blank state i).2 j)) := by
    rintro ⟨found, now⟩ i
    cases found with
    | none =>
        cases hName : named (now i) with
        | false =>
            rw [step_searching hName]
            exact step_searching ((hSeen _).trans hName)
        | true =>
            rw [step_found hName]
            simp only [hUpdate]
            exact step_found ((hSeen _).trans hName)
    | some x =>
        rw [step_moving]
        simp only [hUpdate]
        exact step_moving
  let start : Option α × (Nat → α) := (none, xs)
  show (List.range n).foldl (step seen (f blank))
    (start.1.map f, fun j => f (start.2 j)) = _
  exact List.foldl_hom (fun state : Option α × (Nat → α) =>
    (state.1.map f, fun j => f (state.2 j))) hTurn

end EraseFirst
