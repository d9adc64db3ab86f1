import Mathlib.Data.List.Induction
import Mathlib.Data.List.Nodup
import Mathlib.Logic.Function.Basic

/-
  The two lists of structs that wait for reuse: `pool` of
  `socks5nio.c` and `mng_pool` of `management.c`.

  Main declarations:
    * `FreeList`, `poolNew`, `poolDestroy`
    * `PoolOp`, `FreeList.run`
    * `FreeList.Consistent`, `FreeList.TakesBack`
    * `pool_consistent_iff`
-/

------------------------------------------------------------
-- The Lists
------------------------------------------------------------

namespace Socks5d

/- The address of a `struct socks5`. -/
abbrev StructPtr := Nat

/-
  A list with its counter, and the structs that `malloc` has
  given out, with their `references`.
-/
structure FreeList where
  pool : List StructPtr
  poolSize : Nat
  out : List StructPtr
  references : StructPtr → Nat

namespace FreeList

/- The static variables at the start. -/
def empty : FreeList where
  pool := []
  poolSize := 0
  out := []
  references := fun _ => 0

/- What `malloc` does not return. -/
def allocated (f : FreeList) : List StructPtr :=
  f.pool ++ f.out

end FreeList

/- A struct is handed out, with one reference. -/
def handOut
    (s : StructPtr)
    (f : FreeList) : FreeList :=
  { f with
    out := s :: f.out
    references := Function.update f.references s 1 }

/-
  `socks5_new` and `mng_new`: the head of the list, or what
  `malloc` returns. The counter is left alone.
-/
def poolNew
    (malloc : Option StructPtr)
    (f : FreeList) : FreeList × Option StructPtr :=
  match f.pool with
  | s :: rest => (handOut s { f with pool := rest }, some s)
  | [] =>
      match malloc with
      | none => (f, none)
      | some s => (handOut s f, some s)

/-
  `socks5_destroy` and `mng_destroy`: the last reference puts
  the struct on the list, or frees it when the list is full.
-/
def poolDestroy
    (bound : Nat)
    (s : StructPtr)
    (f : FreeList) : FreeList :=
  if f.references s = 1 then
    let f := { f with out := f.out.erase s }
    if f.poolSize < bound then
      { f with
        pool := s :: f.pool
        poolSize := f.poolSize + 1 }
    else f
  else
    { f with
      references := Function.update f.references s
        (f.references s - 1) }

/- `max_pool` -/
abbrev maxPool : Nat := 50

/- `mng_max_pool` -/
abbrev mngMaxPool : Nat := 50

/- `socks5_new` -/
def socks5New := poolNew

/- `socks5_destroy` -/
def socks5Destroy := poolDestroy maxPool

/- `mng_new` -/
def mngNew := poolNew

/- `mng_destroy` -/
def mngDestroy := poolDestroy mngMaxPool

/- What the rest of the program does with a list. -/
inductive PoolOp where
  | new (malloc : Option StructPtr)
  /- `references += 1` -/
  | hold (s : StructPtr)
  | destroy (s : StructPtr)
deriving DecidableEq

namespace FreeList

/-
  One operation: `malloc` returns no struct that is in use,
  and only what is handed out is held and destroyed.
-/
def step
    (bound : Nat)
    (f : FreeList) :
    PoolOp → Option FreeList
| .new malloc =>
    if malloc.any (· ∈ f.allocated) then none
    else some (poolNew malloc f).1
| .hold s =>
    if s ∈ f.out then
      some { f with
        references := Function.update f.references s
          (f.references s + 1) }
    else none
| .destroy s =>
    if s ∈ f.out then some (poolDestroy bound s f)
    else none

def run
    (bound : Nat)
    (f : FreeList) :
    List PoolOp → Option FreeList
| [] => some f
| op :: rest =>
    (f.step bound op).bind fun next =>
      next.run bound rest

/-
  The counter is the length of the list and within the bound,
  and no struct is there twice or handed out as well.
-/
structure Consistent
    (bound : Nat)
    (f : FreeList) : Prop where
  counted : f.poolSize = f.pool.length
  bounded : f.poolSize ≤ bound
  nodup : f.pool.Nodup
  apart : ∀ s ∈ f.pool, s ∉ f.out

/-
  A struct whose last reference is dropped goes back to a list
  that holds less than the bound.
-/
def TakesBack
    (bound : Nat)
    (f : FreeList)
    (s : StructPtr) : Prop :=
  f.references s = 1 → f.pool.length < bound →
    s ∈ (poolDestroy bound s f).pool

end FreeList

end Socks5d

------------------------------------------------------------
-- Every Sequence
------------------------------------------------------------

namespace Socks5d

section Pools

variable {bound : Nat}
variable {f g : FreeList}
variable {op : PoolOp}
variable {ops : List PoolOp}
variable {s : StructPtr}

/- Structs are handed out once, and none is on the list. -/
structure FreeList.Sound (f : FreeList) : Prop where
  nodup : f.pool.Nodup
  once : f.out.Nodup
  apart : ∀ s ∈ f.pool, s ∉ f.out

theorem FreeList.run_append
    (f : FreeList)
    (before after : List PoolOp) :
    f.run bound (before ++ after) =
      (f.run bound before).bind fun g =>
        g.run bound after := by
  induction before generalizing f with
  | nil => rfl
  | cons op rest ih =>
      show (f.step bound op).bind _ =
        ((f.step bound op).bind _).bind _
      rw [Option.bind_assoc]
      congr 1
      funext next
      exact ih next

/- A struct that is handed out is fresh. -/
theorem handOut_sound
    (h : f.Sound)
    (hPool : s ∉ f.pool)
    (hOut : s ∉ f.out) : (handOut s f).Sound where
  nodup := h.nodup
  once := List.nodup_cons.mpr ⟨hOut, h.once⟩
  apart := by
    intro x hX hBad
    rcases List.mem_cons.mp hBad with rfl | hBad
    · exact hPool hX
    · exact h.apart x hX hBad

theorem poolNew_sound
    (h : f.Sound)
    {malloc : Option StructPtr}
    (hFresh : ∀ s ∈ malloc, s ∉ f.allocated) :
    (poolNew malloc f).1.Sound := by
  unfold poolNew
  split
  · rename_i s rest hPool
    have hNodup := h.nodup
    rw [hPool, List.nodup_cons] at hNodup
    refine handOut_sound ⟨hNodup.2, h.once, ?_⟩ hNodup.1
      (h.apart s ?_)
    · intro x hX
      exact h.apart x (by
        rw [hPool]
        exact List.mem_cons_of_mem s hX)
    · rw [hPool]
      exact List.mem_cons_self
  · split
    · exact h
    · rename_i s
      have hNew := hFresh s rfl
      unfold FreeList.allocated at hNew
      rw [List.mem_append, not_or] at hNew
      exact handOut_sound h hNew.1 hNew.2

theorem poolDestroy_sound
    (h : f.Sound)
    (hOut : s ∈ f.out) :
    (poolDestroy bound s f).Sound := by
  have hGone : s ∉ f.out.erase s :=
    List.Nodup.not_mem_erase h.once
  have hLess : ∀ x, x ∈ f.out.erase s → x ∈ f.out :=
    fun x hX => List.mem_of_mem_erase hX
  unfold poolDestroy
  dsimp only
  split_ifs
  · refine ⟨List.nodup_cons.mpr ⟨?_, h.nodup⟩,
      h.once.erase s, ?_⟩
    · intro hBad
      exact h.apart s hBad hOut
    · intro x hX
      rcases List.mem_cons.mp hX with rfl | hX
      · exact hGone
      · exact fun hBad => h.apart x hX (hLess x hBad)
  · exact ⟨h.nodup, h.once.erase s, fun x hX hBad =>
      h.apart x hX (hLess x hBad)⟩
  · exact ⟨h.nodup, h.once, h.apart⟩

/- Every operation keeps the structs apart. -/
theorem FreeList.Sound.step
    (h : f.Sound)
    (hStep : f.step bound op = some g) : g.Sound := by
  cases op with
  | new malloc =>
      unfold FreeList.step at hStep
      dsimp only at hStep
      split_ifs at hStep with hUsed
      rw [← Option.some.inj hStep]
      refine poolNew_sound h fun s hS hBad => hUsed ?_
      rw [Option.mem_def.mp hS]
      exact decide_eq_true hBad
  | hold s =>
      unfold FreeList.step at hStep
      dsimp only at hStep
      split_ifs at hStep
      rw [← Option.some.inj hStep]
      exact ⟨h.nodup, h.once, h.apart⟩
  | destroy s =>
      unfold FreeList.step at hStep
      dsimp only at hStep
      split_ifs at hStep with hOut
      rw [← Option.some.inj hStep]
      exact poolDestroy_sound h hOut

/- The counter follows the list unless a struct is reused. -/
theorem FreeList.step_counted
    (hStep : f.step bound op = some g)
    (hNew : ∀ malloc, op = .new malloc → f.pool = [])
    (hCounted : f.poolSize = f.pool.length)
    (hBounded : f.poolSize ≤ bound) :
    g.poolSize = g.pool.length ∧ g.poolSize ≤ bound := by
  cases op with
  | new malloc =>
      unfold FreeList.step at hStep
      dsimp only at hStep
      split_ifs at hStep
      rw [← Option.some.inj hStep]
      unfold poolNew
      rw [hNew malloc rfl]
      rw [hNew malloc rfl] at hCounted
      cases malloc with
      | none =>
          exact ⟨by rw [hNew none rfl]; exact hCounted,
            hBounded⟩
      | some s =>
          refine ⟨?_, hBounded⟩
          show f.poolSize = f.pool.length
          rw [hNew (some s) rfl]
          exact hCounted
  | hold s =>
      unfold FreeList.step at hStep
      dsimp only at hStep
      split_ifs at hStep
      rw [← Option.some.inj hStep]
      exact ⟨hCounted, hBounded⟩
  | destroy s =>
      unfold FreeList.step at hStep
      dsimp only at hStep
      split_ifs at hStep
      rw [← Option.some.inj hStep]
      unfold poolDestroy
      dsimp only
      split_ifs with hLast hRoom
      · refine ⟨?_, hRoom⟩
        show f.poolSize + 1 = f.pool.length + 1
        rw [hCounted]
      · exact ⟨hCounted, hBounded⟩
      · exact ⟨hCounted, hBounded⟩

/- A struct that is reused is still counted. -/
theorem poolNew_reused
    (malloc : Option StructPtr)
    (hSome : f.pool ≠ [])
    (hCounted : f.poolSize = f.pool.length) :
    (poolNew malloc f).1.poolSize ≠
      (poolNew malloc f).1.pool.length := by
  unfold poolNew
  split
  · rename_i s rest hPool
    rw [hPool] at hCounted
    show f.poolSize ≠ rest.length
    rw [hCounted, List.length_cons]
    omega
  · rename_i hNil
    exact absurd hNil hSome

/- The last reference is dropped while there is room. -/
theorem poolDestroy_takesBack
    (hCounted : f.poolSize = f.pool.length)
    (s : StructPtr) : f.TakesBack bound s := by
  intro hLast hRoom
  unfold poolDestroy
  rw [if_pos hLast]
  dsimp only
  rw [if_pos (by rw [hCounted]; exact hRoom)]
  exact List.mem_cons_self

end Pools

/-
  Every operation of the sequence leaves a consistent list,
  and takes a struct back while there is room.
-/
def PoolKept
    (bound : Nat)
    (ops : List PoolOp) : Prop :=
  ∀ before after f, ops = before ++ after →
    FreeList.empty.run bound before = some f →
      f.Consistent bound ∧
        ∀ s, (after.head? = some (.destroy s)) →
          f.TakesBack bound s

/- No struct is taken from the list. -/
def NeverReused
    (bound : Nat)
    (ops : List PoolOp) : Prop :=
  ∀ before malloc after f,
    ops = before ++ .new malloc :: after →
      FreeList.empty.run bound before = some f →
        f.pool = []

section Sequences

variable {bound : Nat}
variable {ops : List PoolOp}

/- The structs are apart after every sequence. -/
theorem FreeList.run_sound
    {f g : FreeList}
    (h : f.Sound)
    (hRun : f.run bound ops = some g) : g.Sound := by
  induction ops generalizing f with
  | nil =>
      rw [← Option.some.inj hRun]
      exact h
  | cons op rest ih =>
      rcases Option.bind_eq_some_iff.mp hRun with
        ⟨next, hStep, hRest⟩
      exact ih (h.step hStep) hRest

theorem NeverReused.counted
    (h : NeverReused bound ops)
    {before after : List PoolOp}
    {f : FreeList}
    (hOps : ops = before ++ after)
    (hRun : FreeList.empty.run bound before = some f) :
    f.poolSize = f.pool.length ∧ f.poolSize ≤ bound := by
  induction before using List.reverseRecOn generalizing after f
    with
  | nil =>
      rw [← Option.some.inj hRun]
      exact ⟨rfl, Nat.zero_le _⟩
  | append_singleton rest op ih =>
      rw [FreeList.run_append] at hRun
      rcases Option.bind_eq_some_iff.mp hRun with
        ⟨g, hBefore, hLast⟩
      rcases Option.bind_eq_some_iff.mp hLast with
        ⟨next, hStep, hEnd⟩
      rw [List.append_assoc] at hOps
      rcases ih hOps hBefore with ⟨hCounted, hBounded⟩
      rw [← Option.some.inj hEnd]
      refine FreeList.step_counted hStep ?_ hCounted hBounded
      intro malloc hNew
      rw [hNew] at hOps
      exact h rest malloc after g hOps hBefore

end Sequences

/-
  For every sequence of operations: the list stays consistent
  if and only if no struct is taken from it.
-/
theorem pool_consistent_iff
    (bound : Nat)
    (ops : List PoolOp)
    (hRun : ∃ f, FreeList.empty.run bound ops = some f) :
    PoolKept bound ops ↔ NeverReused bound ops := by
  constructor
  · intro hKept before malloc after f hOps hBefore
    by_contra hSome
    rcases hRun with ⟨last, hLast⟩
    rw [hOps, FreeList.run_append, hBefore,
      Option.bind_some] at hLast
    rcases Option.bind_eq_some_iff.mp hLast with
      ⟨next, hStep, _⟩
    have hCounted := (hKept before _ f hOps hBefore).1.counted
    have hNext := (hKept (before ++ [.new malloc]) after next
      (by rw [hOps, List.append_assoc]; rfl)
      (by
        rw [FreeList.run_append, hBefore, Option.bind_some]
        show (f.step bound (.new malloc)).bind _ = _
        rw [hStep]
        rfl)).1.counted
    unfold FreeList.step at hStep
    dsimp only at hStep
    split_ifs at hStep
    rw [← Option.some.inj hStep] at hNext
    exact poolNew_reused malloc hSome hCounted hNext
  · intro hNever before after f hOps hBefore
    rcases hNever.counted hOps hBefore with
      ⟨hCounted, hBounded⟩
    have hEmpty : FreeList.empty.Sound :=
      ⟨List.nodup_nil, List.nodup_nil,
        fun _ hBad => nomatch hBad⟩
    have hSound := FreeList.run_sound hEmpty hBefore
    exact ⟨⟨hCounted, hBounded, hSound.nodup, hSound.apart⟩,
      fun s _ => poolDestroy_takesBack hCounted s⟩

theorem pool_consistent_iff_once :
    PoolKept maxPool [.new (some 1), .destroy 1] ↔
      NeverReused maxPool [.new (some 1), .destroy 1] :=
  pool_consistent_iff maxPool [.new (some 1), .destroy 1]
    ⟨_, rfl⟩

/- One struct goes back and is reused: the list is empty, and
  its counter is 1. -/
theorem pool_drifts :
    ∃ f, FreeList.empty.run maxPool
        [.new (some 1), .destroy 1, .new none] = some f ∧
      f.pool = [] ∧ f.poolSize = 1 ∧
      ¬ PoolKept maxPool
        [.new (some 1), .destroy 1, .new none] := by
  refine ⟨_, rfl, rfl, rfl, ?_⟩
  intro hKept
  have h := (hKept _ [] _ (List.append_nil _).symm rfl).1
  nomatch h.counted

end Socks5d
