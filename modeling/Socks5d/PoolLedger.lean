import Mathlib.Data.List.Perm.Basic
import Socks5d.Pools

/-
  Where the structs of a free list come from and where they
  go: what `malloc` gives out is freed, is still handed out,
  or waits for `socksv5_pool_destroy`.

  Main declarations:
    * `Ledger`, `FreeList.ledger`, `FreeList.destroyPool`
    * `FreeList.step_balanced`, `FreeList.run_balanced`
    * `pool_ledger`
-/

------------------------------------------------------------
-- Ledgers
------------------------------------------------------------

namespace Socks5d

/-
  The structs that `malloc` returned, that `free` was called
  for, and that were put on the list, in their order.
-/
structure Ledger where
  malloced : List StructPtr := []
  freed : List StructPtr := []
  kept : List StructPtr := []

namespace Ledger

def append (l m : Ledger) : Ledger where
  malloced := l.malloced ++ m.malloced
  freed := l.freed ++ m.freed
  kept := l.kept ++ m.kept

end Ledger

namespace FreeList

variable (bound : Nat)

/- What one operation adds. -/
def entry (f : FreeList) : PoolOp → Ledger
| .new malloc =>
    if f.pool = [] then { malloced := malloc.toList } else {}
| .hold _ => {}
| .destroy s =>
    if f.references s = 1 then
      if f.poolSize < bound then { kept := [s] }
      else { freed := [s] }
    else {}

def ledger (f : FreeList) : List PoolOp → Ledger
| [] => {}
| op :: rest =>
    match f.step bound op with
    | none => {}
    | some next => (f.entry bound op).append
        (next.ledger rest)

/-
  `socksv5_pool_destroy` and `mng_pool_destroy` free what is
  on the list, one after the other.
-/
def destroyPool (f : FreeList) : List StructPtr :=
  f.pool

end FreeList

section Balances

variable {bound : Nat}
variable {f g : FreeList}
variable {op : PoolOp}
variable {ops : List PoolOp}

/- A list that reuse has made shorter than its counter. -/
structure FreeList.Counted
    (bound : Nat)
    (f : FreeList) : Prop where
  shorter : f.pool.length ≤ f.poolSize
  bounded : f.poolSize ≤ bound

/- What one operation takes in, it gives out or has. -/
theorem FreeList.step_balanced
    (hStep : f.step bound op = some g)
    (s : StructPtr) :
    f.allocated.count s +
        (f.entry bound op).malloced.count s =
      (f.entry bound op).freed.count s +
        g.allocated.count s := by
  unfold allocated
  cases op with
  | new malloc =>
      unfold FreeList.step at hStep
      dsimp only at hStep
      split_ifs at hStep
      rw [← Option.some.inj hStep]
      unfold poolNew entry
      cases hPool : f.pool with
      | nil =>
          cases malloc with
          | none => simp [hPool]
          | some x =>
              simp only [if_true, Option.toList_some,
                handOut, hPool, List.nil_append,
                List.count_cons, List.count_nil]
              omega
      | cons x rest =>
          simp only [handOut, List.count_append,
            List.count_cons, List.count_nil, reduceCtorEq,
            if_false]
          omega
  | hold x =>
      unfold FreeList.step at hStep
      dsimp only at hStep
      split_ifs at hStep
      rw [← Option.some.inj hStep]
      simp [entry]
  | destroy x =>
      unfold FreeList.step at hStep
      dsimp only at hStep
      split_ifs at hStep with hOut
      rw [← Option.some.inj hStep]
      have hErase : f.out.count s =
          (f.out.erase x).count s + [x].count s := by
        rw [(List.perm_cons_erase hOut).count_eq,
          List.count_cons, List.count_singleton]
      unfold poolDestroy entry
      dsimp only
      split_ifs
      · simp only [List.count_append, List.count_cons,
          List.count_nil] at hErase ⊢
        omega
      · simp only [List.count_append, List.count_nil]
        omega
      · simp

/- The counter is raised with what is kept, never lowered. -/
theorem FreeList.step_kept
    (hStep : f.step bound op = some g)
    (h : f.Counted bound) :
    g.poolSize =
        f.poolSize + (f.entry bound op).kept.length ∧
      g.Counted bound := by
  have hShorter := h.shorter
  have hBounded := h.bounded
  cases op with
  | new malloc =>
      unfold FreeList.step at hStep
      dsimp only at hStep
      split_ifs at hStep
      rw [← Option.some.inj hStep]
      unfold poolNew entry
      cases hPool : f.pool with
      | nil =>
          cases malloc with
          | none => exact ⟨rfl, h⟩
          | some x => exact ⟨rfl, hShorter, hBounded⟩
      | cons x rest =>
          rw [hPool, List.length_cons] at hShorter
          exact ⟨rfl, Nat.le_of_succ_le hShorter, hBounded⟩
  | hold x =>
      unfold FreeList.step at hStep
      dsimp only at hStep
      split_ifs at hStep
      rw [← Option.some.inj hStep]
      exact ⟨rfl, hShorter, hBounded⟩
  | destroy x =>
      unfold FreeList.step at hStep
      dsimp only at hStep
      split_ifs at hStep
      rw [← Option.some.inj hStep]
      unfold poolDestroy entry
      dsimp only
      split_ifs with hLast hRoom
      · exact ⟨rfl, Nat.succ_le_succ hShorter, hRoom⟩
      · exact ⟨rfl, hShorter, hBounded⟩
      · exact ⟨rfl, hShorter, hBounded⟩

/- Over a sequence, by induction on it. -/
theorem FreeList.run_balanced
    (hRun : f.run bound ops = some g)
    (h : f.Counted bound) :
    (∀ s, f.allocated.count s +
        (f.ledger bound ops).malloced.count s =
          (f.ledger bound ops).freed.count s +
            g.allocated.count s) ∧
      g.poolSize = f.poolSize +
        (f.ledger bound ops).kept.length ∧
      g.Counted bound := by
  induction ops generalizing f with
  | nil =>
      rw [← Option.some.inj hRun]
      exact ⟨fun s => by simp [ledger], rfl, h⟩
  | cons op rest ih =>
      rcases Option.bind_eq_some_iff.mp hRun with
        ⟨next, hStep, hRest⟩
      rcases FreeList.step_kept hStep h with ⟨hKept, hNext⟩
      rcases ih hRest hNext with ⟨hCount, hSize, hEnd⟩
      have hLedger : f.ledger bound (op :: rest) =
          (f.entry bound op).append
            (next.ledger bound rest) := by
        rw [ledger, hStep]
      rw [hLedger]
      refine ⟨fun s => ?_, ?_, hEnd⟩
      · have hFirst := FreeList.step_balanced hStep s
        have hLater := hCount s
        unfold Ledger.append
        simp only [List.count_append]
        omega
      · unfold Ledger.append
        rw [hSize, hKept, List.length_append, Nat.add_assoc]

/- Sound lists have each struct at most once. -/
theorem FreeList.Sound.nodup_allocated
    (h : f.Sound) : f.allocated.Nodup :=
  List.nodup_append'.mpr ⟨h.nodup, h.once, fun s hPool hOut =>
    h.apart s hPool hOut⟩

end Balances

/-
  For every sequence of operations: a struct was given out by
  `malloc` as often as it was freed, and once more exactly
  while it is allocated; and once none is handed out, what
  was allocated is what was freed with what
  `socksv5_pool_destroy` frees. Over all the sequence at most
  `bound` structs are put on the list.
-/
theorem pool_ledger
    (bound : Nat)
    (ops : List PoolOp)
    {f : FreeList}
    (hRun : FreeList.empty.run bound ops = some f) :
    (∀ s,
      (FreeList.empty.ledger bound ops).malloced.count s =
        (FreeList.empty.ledger bound ops).freed.count s +
          if s ∈ f.allocated then 1 else 0) ∧
      (f.out = [] →
        ((FreeList.empty.ledger bound ops).freed ++
          f.destroyPool).Perm
            (FreeList.empty.ledger bound ops).malloced) ∧
      f.pool.length ≤
        (FreeList.empty.ledger bound ops).kept.length ∧
      (FreeList.empty.ledger bound ops).kept.length ≤
        bound := by
  have hSound := FreeList.run_sound
    (f := FreeList.empty) ⟨List.nodup_nil, List.nodup_nil,
      fun _ hBad => nomatch hBad⟩ hRun
  rcases FreeList.run_balanced hRun
      ⟨Nat.le_refl 0, Nat.zero_le bound⟩ with
    ⟨hCount, hSize, hShorter, hBounded⟩
  have hKept : f.poolSize =
      (FreeList.empty.ledger bound ops).kept.length :=
    hSize.trans (Nat.zero_add _)
  have hBalance : ∀ s,
      (FreeList.empty.ledger bound ops).malloced.count s =
        (FreeList.empty.ledger bound ops).freed.count s +
          f.allocated.count s :=
    fun s => (Nat.zero_add _).symm.trans (hCount s)
  refine ⟨fun s => ?_, fun hOut => ?_, hKept ▸ hShorter,
    hKept ▸ hBounded⟩
  · rw [hBalance, List.Nodup.count hSound.nodup_allocated]
  · apply List.perm_iff_count.mpr
    intro s
    rw [hBalance, List.count_append]
    unfold FreeList.allocated FreeList.destroyPool
    rw [hOut, List.append_nil]

/- A struct comes, goes back, is reused, and goes back. -/
theorem pool_ledger_reuse :
    ∃ f, FreeList.empty.run 1 [.new (some 7), .destroy 7,
        .new none, .destroy 7] = some f ∧
      f.out = [] ∧
      ((FreeList.empty.ledger 1 [.new (some 7), .destroy 7,
          .new none, .destroy 7]).freed ++ f.destroyPool).Perm
        (FreeList.empty.ledger 1 [.new (some 7), .destroy 7,
          .new none, .destroy 7]).malloced := by
  refine ⟨_, rfl, rfl, ?_⟩
  exact (pool_ledger 1 [.new (some 7), .destroy 7,
    .new none, .destroy 7] rfl).2.1 rfl

end Socks5d
