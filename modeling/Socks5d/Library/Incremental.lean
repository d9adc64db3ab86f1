import Mathlib.Data.List.Basic
import Mathlib.Data.Prod.Basic

/-
  Incremental readers over a stream of symbols.

  A reader is a transition function together with a set of
  stopping states. `Reader.consume` feeds symbols to it until
  a stopping state is entered and returns what is left over.

  Main declarations:
    * `Incremental.Reader`
    * `Incremental.Reader.consume`
    * `Incremental.Reader.Live` and `Reader.Stops`
    * `Incremental.Reader.consume_cases`
    * `Incremental.Reader.consume_append_of_live`
    * `Incremental.Reader.consume_append_of_stops`
    * `Incremental.Reader.consume_progress`
    * `Incremental.Reader.progress_of_live`
    * `Incremental.Reader.progress_of_stops`
    * `Incremental.Reader.consume_invariant`
    * `Incremental.Reader.Field` and `Field.read`
-/

------------------------------------------------------------
-- Readers
------------------------------------------------------------

namespace Incremental

/- A transition function and its stopping states. -/
structure Reader (σ α : Type) where
  feed : σ → α → σ
  stop : σ → Bool

namespace Reader

variable {σ α : Type}
variable (R : Reader σ α)

/- The state reached by feeding a whole list. -/
def feedAll
    (s : σ)
    (input : List α) : σ :=
  input.foldl R.feed s

/-
  Feed symbols until a stopping state is entered; return it
  with the symbols that were not fed.
-/
def consume
    (s : σ) :
    List α → σ × List α
| [] => (s, [])
| a :: rest =>
    if R.stop (R.feed s a) then
      (R.feed s a, rest)
    else
      consume (R.feed s a) rest

/- No non-empty prefix of the list stops the reader. -/
def Live
    (s : σ) :
    List α → Prop
| [] => True
| a :: rest =>
    R.stop (R.feed s a) = false ∧ Live (R.feed s a) rest

/- The last symbol of the list, and no earlier one, stops. -/
def Stops
    (s : σ) :
    List α → Prop
| [] => False
| a :: rest =>
    if R.stop (R.feed s a) then
      rest = []
    else
      Stops (R.feed s a) rest

instance decidableStops :
    (s : σ) → (input : List α) → Decidable (R.Stops s input)
| _, [] => inferInstanceAs (Decidable False)
| s, a :: rest =>
    have := decidableStops (R.feed s a) rest
    inferInstanceAs (Decidable
      (if R.stop (R.feed s a) then rest = []
        else R.Stops (R.feed s a) rest))

@[simp] theorem feedAll_nil
    (s : σ) :
    R.feedAll s [] = s := rfl

@[simp] theorem feedAll_cons
    (s : σ)
    (a : α)
    (rest : List α) :
    R.feedAll s (a :: rest) =
      R.feedAll (R.feed s a) rest := rfl

theorem feedAll_append
    (s : σ)
    (first second : List α) :
    R.feedAll s (first ++ second) =
      R.feedAll (R.feedAll s first) second := by
  simp [feedAll, List.foldl_append]

@[simp] theorem live_nil
    (s : σ) :
    R.Live s [] := trivial

theorem live_append
    (s : σ)
    (first second : List α) :
    R.Live s (first ++ second) ↔
      R.Live s first ∧
        R.Live (R.feedAll s first) second := by
  induction first generalizing s with
  | nil => simp
  | cons a rest ih =>
      simp only [List.cons_append, Live, ih, feedAll_cons]
      tauto

/- A list that stops the reader ends in a stopping state. -/
theorem Stops.stop_feedAll
    {s : σ}
    {used : List α}
    (h : R.Stops s used) :
    R.stop (R.feedAll s used) = true := by
  induction used generalizing s with
  | nil => exact h.elim
  | cons a rest ih =>
      by_cases hStop : R.stop (R.feed s a) = true
      · have hRest : rest = [] := by
          simpa [Stops, hStop] using h
        subst hRest
        simpa using hStop
      · have hNext : R.Stops (R.feed s a) rest := by
          simpa [Stops, hStop] using h
        simpa using ih hNext

/- A live list that is not empty ends in a going state. -/
theorem Live.going_feedAll
    {s : σ}
    {input : List α}
    (h : R.Live s input)
    (hInput : input ≠ []) :
    R.stop (R.feedAll s input) = false := by
  induction input generalizing s with
  | nil => exact absurd rfl hInput
  | cons a rest ih =>
      by_cases hRest : rest = []
      · subst hRest
        exact h.1
      · exact ih h.2 hRest

/- The reader does not stop before the end of its list. -/
theorem Stops.live_of_append
    {s : σ}
    {first second : List α}
    (h : R.Stops s (first ++ second))
    (hSecond : second ≠ []) :
    R.Live s first := by
  induction first generalizing s with
  | nil => trivial
  | cons a rest ih =>
      by_cases hStop : R.stop (R.feed s a) = true
      · have hRest : rest ++ second = [] := by
          simpa [Stops, hStop] using h
        exact absurd (List.append_eq_nil_iff.1 hRest).2
          hSecond
      · have hNext :
            R.Stops (R.feed s a) (rest ++ second) := by
          simpa [Stops, hStop] using h
        refine ⟨?_, ih hNext⟩
        simpa using hStop

/- Feeding a live list first does not move the stop. -/
theorem stops_append_of_live
    {s : σ}
    {first second : List α}
    (hLive : R.Live s first) :
    R.Stops s (first ++ second) ↔
      R.Stops (R.feedAll s first) second := by
  induction first generalizing s with
  | nil => simp
  | cons a rest ih =>
      have hStep := hLive.1
      simp only [List.cons_append, Stops, hStep,
        feedAll_cons]
      simpa using ih hLive.2

end Reader

end Incremental

------------------------------------------------------------
-- Consuming
------------------------------------------------------------

namespace Incremental

namespace Reader

variable {σ α : Type}
variable (R : Reader σ α)

/- Consuming a live list feeds all of it. -/
theorem consume_of_live
    {s : σ}
    {input : List α}
    (hLive : R.Live s input) :
    R.consume s input = (R.feedAll s input, []) := by
  induction input generalizing s with
  | nil => rfl
  | cons a rest ih =>
      have hStep := hLive.1
      simp only [consume, hStep, feedAll_cons]
      simpa using ih hLive.2

/- Consuming past a stop leaves everything after it. -/
theorem consume_of_stops
    {s : σ}
    {used : List α}
    (hStops : R.Stops s used)
    (rest : List α) :
    R.consume s (used ++ rest) =
      (R.feedAll s used, rest) := by
  induction used generalizing s with
  | nil => exact hStops.elim
  | cons a tail ih =>
      by_cases hStop : R.stop (R.feed s a) = true
      · have hTail : tail = [] := by
          simpa [Stops, hStop] using hStops
        subst hTail
        simp [consume, hStop]
      · have hNext : R.Stops (R.feed s a) tail := by
          simpa [Stops, hStop] using hStops
        simpa [consume, hStop] using ih hNext

/-
  Every list is either live or splits at its one stopping
  point.
-/
theorem live_or_stops
    (s : σ)
    (input : List α) :
    R.Live s input ∨
      ∃ used rest,
        input = used ++ rest ∧ R.Stops s used := by
  induction input generalizing s with
  | nil => exact Or.inl trivial
  | cons a tail ih =>
      by_cases hStop : R.stop (R.feed s a) = true
      · exact Or.inr ⟨[a], tail, rfl, by
          simp [Stops, hStop]⟩
      · have hFalse : R.stop (R.feed s a) = false := by
          simpa using hStop
        rcases ih (R.feed s a) with hLive |
          ⟨used, rest, hSplit, hUsed⟩
        · exact Or.inl ⟨hFalse, hLive⟩
        · refine Or.inr ⟨a :: used, rest, ?_, ?_⟩
          · simp [hSplit]
          · simpa [Stops, hFalse] using hUsed

/- What one call of `consume` can do. -/
theorem consume_cases
    (s : σ)
    (input : List α) :
    (R.Live s input ∧
        R.consume s input = (R.feedAll s input, [])) ∨
      ∃ used rest,
        input = used ++ rest ∧ R.Stops s used ∧
          R.consume s input = (R.feedAll s used, rest) := by
  rcases R.live_or_stops s input with hLive |
    ⟨used, rest, hSplit, hStops⟩
  · exact Or.inl ⟨hLive, R.consume_of_live hLive⟩
  · refine Or.inr ⟨used, rest, hSplit, hStops, ?_⟩
    rw [hSplit]
    exact R.consume_of_stops hStops rest

/- A cut inside a live list is not seen by the reader. -/
theorem consume_append_of_live
    {s : σ}
    {first : List α}
    (hLive : R.Live s first)
    (second : List α) :
    R.consume s (first ++ second) =
      R.consume (R.feedAll s first) second := by
  induction first generalizing s with
  | nil => rfl
  | cons a rest ih =>
      have hStep := hLive.1
      simp only [List.cons_append, consume, hStep,
        feedAll_cons]
      simpa using ih hLive.2

/- Symbols that arrive after the stop are only appended. -/
theorem consume_append_of_stops
    {s : σ}
    {used rest : List α}
    (hStops : R.Stops s used)
    (later : List α) :
    R.consume s (used ++ rest ++ later) =
      (R.feedAll s used, rest ++ later) := by
  rw [List.append_assoc]
  exact R.consume_of_stops hStops (rest ++ later)

/-
  A relation between the symbols fed so far and the state,
  kept by every feed from a state that has not stopped, is
  kept by `consume`.
-/
theorem consume_progress
    {P : List α → σ → Prop}
    (hFeed : ∀ fed s a,
      P fed s → R.stop s = false →
        P (fed ++ [a]) (R.feed s a))
    {fed : List α}
    {s : σ}
    (hStart : P fed s)
    (hGoing : R.stop s = false)
    (input : List α) :
    ∃ used,
      input = used ++ (R.consume s input).2 ∧
        P (fed ++ used) (R.consume s input).1 ∧
        (R.stop (R.consume s input).1 = true ∨
          (R.consume s input).2 = []) := by
  induction input generalizing fed s with
  | nil =>
      exact ⟨[], rfl, by simpa [consume] using hStart,
        Or.inr rfl⟩
  | cons a tail ih =>
      have hNext := hFeed fed s a hStart hGoing
      by_cases hStop : R.stop (R.feed s a) = true
      · refine ⟨[a], ?_, ?_, ?_⟩
        · simp [consume, hStop]
        · simpa [consume, hStop] using hNext
        · simp [consume, hStop]
      · have hFalse : R.stop (R.feed s a) = false := by
          simpa using hStop
        rcases ih hNext hFalse with
          ⟨used, hSplit, hUsed, hEnd⟩
        refine ⟨a :: used, ?_, ?_, ?_⟩
        · simpa [consume, hFalse] using hSplit
        · simpa [consume, hFalse] using hUsed
        · simpa [consume, hFalse] using hEnd

/- The relation after a list that does not stop the reader. -/
theorem progress_of_live
    {P : List α → σ → Prop}
    (hFeed : ∀ fed s a,
      P fed s → R.stop s = false →
        P (fed ++ [a]) (R.feed s a))
    {s : σ}
    (hStart : P [] s)
    (hGoing : R.stop s = false)
    {input : List α}
    (hLive : R.Live s input) :
    P input (R.feedAll s input) := by
  rcases R.consume_progress hFeed hStart hGoing input with
    ⟨used, hSplit, hUsed, _⟩
  rw [R.consume_of_live hLive] at hSplit hUsed
  rw [List.append_nil] at hSplit
  rw [List.nil_append, ← hSplit] at hUsed
  exact hUsed

/- The relation after the list that stops the reader. -/
theorem progress_of_stops
    {P : List α → σ → Prop}
    (hFeed : ∀ fed s a,
      P fed s → R.stop s = false →
        P (fed ++ [a]) (R.feed s a))
    {s : σ}
    (hStart : P [] s)
    (hGoing : R.stop s = false)
    {used : List α}
    (hStops : R.Stops s used) :
    P used (R.feedAll s used) := by
  rcases R.consume_progress hFeed hStart hGoing used with
    ⟨fed, hSplit, hUsed, _⟩
  have hAll := R.consume_of_stops hStops []
  rw [List.append_nil] at hAll
  rw [hAll] at hSplit hUsed
  rw [List.append_nil] at hSplit
  rw [List.nil_append, ← hSplit] at hUsed
  exact hUsed

/- What every feed keeps is kept by `consume`. -/
theorem consume_invariant
    {P : σ → Prop}
    (hFeed : ∀ s a, P s → P (R.feed s a))
    {s : σ}
    (hStart : P s)
    (input : List α) :
    P (R.consume s input).1 := by
  induction input generalizing s with
  | nil => exact hStart
  | cons a tail ih =>
      have hNext := hFeed s a hStart
      unfold consume
      split
      · exact hNext
      · exact ih hNext

end Reader

end Incremental

------------------------------------------------------------
-- Fields Of A Fixed Length
------------------------------------------------------------

namespace Incremental

namespace Reader

variable {σ α : Type}

/-
  The reader takes `n` symbols: `part` is its state after
  some of them and `full` its state after all of them.
-/
structure Field
    (R : Reader σ α)
    (n : Nat)
    (part full : List α → σ) : Prop where
  going : ∀ field, R.stop (part field) = false
  more : ∀ field a, field.length + 1 < n →
    R.feed (part field) a = part (field ++ [a])
  last : ∀ field a, field.length + 1 = n →
    R.feed (part field) a = full (field ++ [a])

namespace Field

variable {R : Reader σ α}
variable {n : Nat}
variable {part full : List α → σ}

/- The rest of a field leads to its end. -/
theorem read_rest
    (h : R.Field n part full)
    {field rest : List α}
    (hLength : field.length + rest.length = n)
    (hRest : rest ≠ []) :
    R.feedAll (part field) rest = full (field ++ rest) ∧
      (R.stop (full (field ++ rest)) = false →
        R.Live (part field) rest) ∧
      (R.stop (full (field ++ rest)) = true →
        R.Stops (part field) rest) := by
  induction rest generalizing field with
  | nil => exact absurd rfl hRest
  | cons a tail ih =>
      rw [List.length_cons] at hLength
      by_cases hTail : tail = []
      · subst hTail
        have hLast := h.last field a hLength
        refine ⟨hLast, ?_, ?_⟩
        · intro hStop
          refine ⟨?_, trivial⟩
          rw [hLast]
          exact hStop
        · intro hStop
          unfold Stops
          rw [hLast, if_pos hStop]
      · have hPos := List.length_pos_iff.2 hTail
        have hMore := h.more field a (by omega)
        have hSum : (field ++ [a]).length + tail.length =
            n := by
          rw [List.length_append, List.length_singleton]
          omega
        rcases ih hSum hTail with ⟨hAll, hLive, hStops⟩
        rw [List.append_assoc] at hAll hLive hStops
        refine ⟨?_, ?_, ?_⟩
        · rw [feedAll_cons, hMore]
          exact hAll
        · intro hStop
          unfold Live
          rw [hMore]
          exact ⟨h.going _, hLive hStop⟩
        · intro hStop
          unfold Stops
          rw [hMore, h.going]
          exact hStops hStop

/- A whole field is read from its start. -/
theorem read
    (h : R.Field n part full)
    {field : List α}
    (hLength : field.length = n)
    (hPos : 0 < n) :
    R.feedAll (part []) field = full field ∧
      (R.stop (full field) = false →
        R.Live (part []) field) ∧
      (R.stop (full field) = true →
        R.Stops (part []) field) := by
  refine h.read_rest ?_ ?_
  · rw [List.length_nil, Nat.zero_add]
    exact hLength
  · intro hNil
    rw [hNil] at hLength
    exact absurd hLength (Nat.ne_of_lt hPos)

end Field

end Reader

end Incremental
