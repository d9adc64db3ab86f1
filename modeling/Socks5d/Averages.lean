import Socks5d.Library.RunningMean
import Socks5d.Transfers

/-
  The averages of the sizes that `copy_read` and `copy_write`
  transfer.

  Main declarations:
    * `readSizes`, `writeSizes`, `Keeps`
    * `run_averages`
    * `averages_exact_iff`
-/

------------------------------------------------------------
-- The Counters As Numbers
------------------------------------------------------------

namespace Socks5d

/- The sizes of the reads and of the sends, in order. -/
def readSizes (ts : List Transfer) : List Nat :=
  ts.filterMap Transfer.read?

def writeSizes (ts : List Transfer) : List Nat :=
  ts.filterMap Transfer.write?

/- An average and its number, as two of the counters. -/
structure Keeps
    (average total : UInt64)
    (values : List Nat) : Prop where
  average : average.toNat = RunningMean.mean values
  total : total.toNat = values.length

section Numbers

variable {average total : UInt64}
variable {values : List Nat}
variable {m : Metrics}
variable {ts : List Transfer}

theorem readSizes_concat
    (ts : List Transfer)
    (t : Transfer) :
    readSizes (ts ++ [t]) = readSizes ts ++ t.read?.toList := by
  unfold readSizes
  rw [List.filterMap_append]
  cases t <;> rfl

theorem writeSizes_concat
    (ts : List Transfer)
    (t : Transfer) :
    writeSizes (ts ++ [t]) = writeSizes ts ++ t.write?.toList := by
  unfold writeSizes
  rw [List.filterMap_append]
  cases t <;> rfl

/- Positive values are not more than their sum. -/
theorem length_le_sum
    (hPos : ∀ n ∈ values, 0 < n) :
    values.length ≤ values.sum := by
  induction values with
  | nil => exact Nat.le_refl _
  | cons n rest ih =>
      have hRest := ih fun other hMem =>
        hPos other (List.mem_cons_of_mem _ hMem)
      have hFirst := hPos n List.mem_cons_self
      rw [List.length_cons, List.sum_cons]
      omega

/- The update of `copy_read` and `copy_write`. -/
def updated
    (average total n : UInt64) : UInt64 :=
  if total = 0 then n
  else (average * total + n) / (total + 1)

/- Without an overflow it is the update of numbers. -/
theorem Keeps.update
    (h : Keeps average total values)
    {n : Nat}
    (hPos : ∀ v ∈ values ++ [n], 0 < v)
    (hSum : (values ++ [n]).sum < 2 ^ 64) :
    Keeps (updated average total (UInt64.ofNat n)) (total + 1)
      (values ++ [n]) := by
  have hCount := length_le_sum hPos
  rw [List.length_append, List.length_singleton] at hCount
  have hTotal : (total + 1).toNat = values.length + 1 := by
    rw [UInt64.toNat_add, h.total]
    exact Nat.mod_eq_of_lt (Nat.lt_of_le_of_lt hCount hSum)
  have hMean := RunningMean.mean_mul_le values
  rw [List.sum_append, List.sum_singleton] at hSum
  have hSize : (UInt64.ofNat n).toNat = n := by
    rw [UInt64.toNat_ofNat']
    exact Nat.mod_eq_of_lt (by omega)
  constructor
  · rw [RunningMean.mean_concat]
    unfold updated RunningMean.update
    split
    · rename_i hZero
      have hNone : values.length = 0 := by
        rw [← h.total, hZero]
        rfl
      rw [hSize, hNone]
      omega
    · rw [UInt64.toNat_div, hTotal, UInt64.toNat_add,
        UInt64.toNat_mul, h.average, h.total, hSize,
        Nat.mod_eq_of_lt (Nat.lt_of_le_of_lt hMean
          (by omega)),
        Nat.mod_eq_of_lt (by omega)]
  · rw [hTotal, List.length_append]
    rfl

/- The counters of some transfers. -/
structure AveragesKept
    (m : Metrics)
    (ts : List Transfer) : Prop where
  reads : Keeps m.averageBytesPerRead m.totalReads (readSizes ts)
  writes : Keeps m.averageBytesPerWrite m.totalWrites
    (writeSizes ts)

/- Sizes that the counters can hold. -/
structure Holdable (ts : List Transfer) : Prop where
  positive : ∀ t ∈ ts, 0 < t.size
  reads : (readSizes ts).sum < 2 ^ 64
  writes : (writeSizes ts).sum < 2 ^ 64

theorem Holdable.reads_pos
    (h : Holdable ts) : ∀ n ∈ readSizes ts, 0 < n := by
  intro n hMem
  rcases List.mem_filterMap.mp hMem with ⟨t, hIn, hSize⟩
  have hPos := h.positive t hIn
  cases t with
  | read size =>
      rw [← Option.some.inj hSize]
      exact hPos
  | write size => nomatch hSize

theorem Holdable.writes_pos
    (h : Holdable ts) : ∀ n ∈ writeSizes ts, 0 < n := by
  intro n hMem
  rcases List.mem_filterMap.mp hMem with ⟨t, hIn, hSize⟩
  have hPos := h.positive t hIn
  cases t with
  | read size => nomatch hSize
  | write size =>
      rw [← Option.some.inj hSize]
      exact hPos

/- Earlier transfers are no more. -/
theorem Holdable.front
    {more : List Transfer}
    (h : Holdable (ts ++ more)) : Holdable ts := by
  refine ⟨fun t hMem => h.positive t
    (List.mem_append_left _ hMem), ?_, ?_⟩
  · have hAll := h.reads
    unfold readSizes at hAll ⊢
    rw [List.filterMap_append, List.sum_append] at hAll
    omega
  · have hAll := h.writes
    unfold writeSizes at hAll ⊢
    rw [List.filterMap_append, List.sum_append] at hAll
    omega

/- Counting keeps the means of reads and of sends. -/
theorem averages_kept
    (h : Holdable ts) :
    AveragesKept (ts.foldl Transfer.count {}) ts := by
  induction ts using List.reverseRecOn with
  | nil => exact ⟨⟨rfl, rfl⟩, ⟨rfl, rfl⟩⟩
  | append_singleton ts t ih =>
      have hBefore := ih h.front
      have hReads := h.reads_pos
      have hWrites := h.writes_pos
      have hReadSum := h.reads
      have hWriteSum := h.writes
      rw [List.foldl_append]
      rw [readSizes_concat] at hReads hReadSum
      rw [writeSizes_concat] at hWrites hWriteSum
      constructor
      · rw [readSizes_concat]
        cases t with
        | read n => exact hBefore.reads.update hReads hReadSum
        | write n =>
            show Keeps _ _ (_ ++ [])
            rw [List.append_nil]
            exact hBefore.reads
      · rw [writeSizes_concat]
        cases t with
        | read n =>
            show Keeps _ _ (_ ++ [])
            rw [List.append_nil]
            exact hBefore.writes
        | write n =>
            exact hBefore.writes.update hWrites hWriteSum

end Numbers

end Socks5d

------------------------------------------------------------
-- Averages Over A Run
------------------------------------------------------------

namespace Socks5d

/-
  The averages are the rounded means of the sizes so far, once
  there are some.
-/
structure Averages
    (m : Metrics)
    (ts : List Transfer) : Prop where
  read : readSizes ts ≠ [] →
    m.averageBytesPerRead.toNat =
      (readSizes ts).sum / (readSizes ts).length
  write : writeSizes ts ≠ [] →
    m.averageBytesPerWrite.toNat =
      (writeSizes ts).sum / (writeSizes ts).length

section Runs

variable {w : World}
variable {labels : List Label}
variable {ts : List Transfer}
variable {m : Metrics}

/- The counters of a run from the start are the means. -/
theorem run_averages
    (hInit : Initial w)
    (h : Holdable (transfers labels w)) :
    AveragesKept (runTo labels w).srv.metrics
      (transfers labels w) := by
  have hCounted := transfers_counted (.init hInit) labels
  rw [hInit.metrics] at hCounted
  have hKept := averages_kept h
  generalize (transfers labels w).foldl Transfer.count {} = m
    at hCounted hKept
  unfold Metrics.transferred at hCounted
  simp only [Prod.mk.injEq] at hCounted
  rcases hCounted with ⟨_, hReadAverage, hReads,
    hWriteAverage, hWrites⟩
  constructor
  · rw [hReadAverage, hReads]
    exact hKept.reads
  · rw [hWriteAverage, hWrites]
    exact hKept.writes

/- They are averages exactly if both means are exact. -/
theorem AveragesKept.exact_iff
    (h : AveragesKept m ts) :
    Averages m ts ↔
      RunningMean.Exact (readSizes ts) ∧
        RunningMean.Exact (writeSizes ts) := by
  constructor
  · rintro ⟨hRead, hWrite⟩
    exact ⟨fun hSome => h.reads.average.symm.trans
        (hRead hSome),
      fun hSome => h.writes.average.symm.trans
        (hWrite hSome)⟩
  · rintro ⟨hRead, hWrite⟩
    exact ⟨fun hSome => h.reads.average.trans (hRead hSome),
      fun hSome => h.writes.average.trans (hWrite hSome)⟩

/- The sizes of one kind at an earlier moment come first. -/
theorem sizes_front
    (kind : Transfer → Option Nat)
    (before after : List Label)
    (w : World) :
    ((transfers (before ++ after) w).filterMap kind).take
        ((transfers before w).filterMap kind).length =
      (transfers before w).filterMap kind := by
  rw [transfers_append, List.filterMap_append,
    List.take_left]

/- Every number of sizes is reached at some moment. -/
theorem sizes_reached
    (hReach : server.Reachable w)
    (kind : Transfer → Option Nat)
    (labels : List Label)
    {j : Nat}
    (hLe : j ≤ ((transfers labels w).filterMap kind).length) :
    ∃ before after, labels = before ++ after ∧
      (transfers before w).filterMap kind =
        ((transfers labels w).filterMap kind).take j := by
  induction labels using List.reverseRecOn with
  | nil => exact ⟨[], [], rfl, List.take_nil.symm⟩
  | append_singleton labels l ih =>
      by_cases hOld :
          j ≤ ((transfers labels w).filterMap kind).length
      · rcases ih hOld with ⟨before, after, hSplit, hSizes⟩
        refine ⟨before, after ++ [l], ?_, ?_⟩
        · rw [hSplit, List.append_assoc]
        · rw [hSizes, transfers_append, List.filterMap_append,
            List.take_append_of_le_length hOld]
      · refine ⟨labels ++ [l], [], (List.append_nil _).symm,
          (List.take_of_length_le ?_).symm⟩
        have hLast := (label_transfers
          (reachable_runTo labels hReach) l).2.one
        have hOne : ((transfers [l] (runTo labels
            w)).filterMap kind).length ≤ 1 := by
          refine Nat.le_trans (List.length_filterMap_le _ _) ?_
          show List.length (_ ++ []) ≤ 1
          rw [List.append_nil]
          exact hLast
        rw [transfers_append, List.filterMap_append,
          List.length_append]
        omega

/- The means are exact at every moment of a run. -/
theorem exact_moments_iff
    (hReach : server.Reachable w)
    (kind : Transfer → Option Nat)
    (labels : List Label) :
    (∀ before after, labels = before ++ after →
      RunningMean.Exact
        ((transfers before w).filterMap kind)) ↔
      RunningMean.Rising
        ((transfers labels w).filterMap kind) := by
  rw [← RunningMean.exact_iff_rising]
  constructor
  · intro hAll j hLe
    rcases sizes_reached hReach kind labels hLe with
      ⟨before, after, hSplit, hSizes⟩
    rw [← hSizes]
    exact hAll before after hSplit
  · intro hAll before after hSplit
    have hFront := sizes_front kind before after w
    rw [← hSplit] at hFront
    rw [← hFront]
    apply hAll
    rw [hSplit, transfers_append, List.filterMap_append,
      List.length_append]
    exact Nat.le_add_right _ _

end Runs

/-
  In a run from the start, with sizes that are positive and
  sums that fit, the averages are right at every moment if and
  only if the remainders never decrease.
-/
theorem averages_exact_iff
    (w : World)
    (hInit : Initial w)
    (labels : List Label)
    (hHoldable : Holdable (transfers labels w)) :
    (∀ before after, labels = before ++ after →
      Averages (runTo before w).srv.metrics
        (transfers before w)) ↔
      RunningMean.Rising (readSizes (transfers labels w)) ∧
        RunningMean.Rising (writeSizes (transfers labels w)) := by
  have hReach : server.Reachable w := .init hInit
  have hKept : ∀ before after, labels = before ++ after →
      AveragesKept (runTo before w).srv.metrics
        (transfers before w) := by
    intro before after hSplit
    refine run_averages hInit ?_
    rw [hSplit, transfers_append] at hHoldable
    exact hHoldable.front
  unfold readSizes writeSizes
  rw [← exact_moments_iff hReach Transfer.read? labels,
    ← exact_moments_iff hReach Transfer.write? labels]
  constructor
  · intro hAll
    exact ⟨fun before after hSplit =>
        ((hKept before after hSplit).exact_iff.mp
          (hAll before after hSplit)).1,
      fun before after hSplit =>
        ((hKept before after hSplit).exact_iff.mp
          (hAll before after hSplit)).2⟩
  · rintro ⟨hReads, hWrites⟩ before after hSplit
    exact (hKept before after hSplit).exact_iff.mpr
      ⟨hReads before after hSplit,
        hWrites before after hSplit⟩

/- A server that lets everybody in. -/
def openServer : World :=
  smallServer 0 ⟨fun _ => {}, 0⟩ ⟨fun _ => {}, 0⟩

theorem openServer_initial : Initial openServer :=
  smallServer_initial _ _ (by decide) (Or.inl rfl)

theorem averages_exact_iff_copy :
    (∀ before after, copyRun = before ++ after →
      Averages (runTo before openServer).srv.metrics
        (transfers before openServer)) ↔
      RunningMean.Rising
          (readSizes (transfers copyRun openServer)) ∧
        RunningMean.Rising
          (writeSizes (transfers copyRun openServer)) := by
  have hAll : transfers copyRun openServer =
      [.read 3, .write 2] := by
    decide +kernel
  refine averages_exact_iff openServer openServer_initial
    copyRun ?_
  rw [hAll]
  exact ⟨by decide, by decide, by decide⟩

/- A relay that reads one, two and three bytes. -/
def threeReads : List Label :=
  copyRun.take 6 ++ [
    .read 5 { recv := some [1] },
    .read 5 { recv := some [1, 2] },
    .read 5 { recv := some [1, 2, 3] }]

/- The average is 1 where it should be 2. -/
theorem average_drifts :
    readSizes (transfers threeReads openServer) = [1, 2, 3] ∧
      ¬ Averages (runTo threeReads openServer).srv.metrics
        (transfers threeReads openServer) := by
  have hReads : readSizes (transfers threeReads openServer) =
      [1, 2, 3] := by
    decide +kernel
  have hAverage : (runTo threeReads
      openServer).srv.metrics.averageBytesPerRead.toNat =
        1 := by
    decide +kernel
  refine ⟨hReads, fun hBad => ?_⟩
  have hMean := hBad.read (by rw [hReads]; decide)
  rw [hReads, hAverage] at hMean
  exact absurd hMean (by decide)

end Socks5d
