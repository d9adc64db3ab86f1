import Mathlib.Data.List.Basic
import Mathlib.Data.List.TakeDrop
import Mathlib.Tactic.Linarith
import Socks5d.Library.Incremental

/-
  The byte buffer with a read and a write pointer
  (`buffer.c`).

  The bytes between the two pointers are `pending`, `read`
  is the offset of the read pointer from `data`, and the
  write pointer is at `read + pending.length`. What lies
  outside the two pointers is never looked at.

  Main declarations:
    * `Buffer`
    * `Buffer.writeAdv`, `Buffer.readAdv`, `Buffer.readByte`
    * `Buffer.feedLoop`
    * `Buffer.feedLoop_eq_consume`
    * `Buffer.feedChunks`, `Buffer.feedChunks_of_stops`
    * `Buffer.feedBuffers`, `Buffer.feedBuffers_eq`
    * `Buffer.not_full_and_empty`
-/

------------------------------------------------------------
-- The Buffer And Its Operations
------------------------------------------------------------

/-
  `R ≤ W ≤ limit` and "an empty buffer is compacted" hold of
  every buffer that can be built.
-/
structure Buffer (limit : Nat) where
  read : Nat
  pending : List UInt8
  fits : read + pending.length ≤ limit
  compacted : pending = [] → read = 0
deriving DecidableEq

namespace Buffer

variable {limit : Nat}

/- `buffer_init`, and `buffer_reset` -/
def init (limit : Nat) : Buffer limit where
  read := 0
  pending := []
  fits := by simp
  compacted := fun _ => rfl

/- The count that `buffer_write_ptr` reports. -/
def room (b : Buffer limit) : Nat :=
  limit - (b.read + b.pending.length)

/- `buffer_can_write` -/
def canWrite (b : Buffer limit) : Bool :=
  decide (0 < b.room)

/- `buffer_can_read` -/
def canRead (b : Buffer limit) : Bool :=
  !b.pending.isEmpty

/-
  Bytes stored at the write pointer, then
  `buffer_write_adv`. At most `room` bytes are stored.
-/
def writeAdv
    (b : Buffer limit)
    (bytes : List UInt8) : Buffer limit where
  read := b.read
  pending := b.pending ++ bytes.take b.room
  fits := by
    have hFits := b.fits
    have hTake := List.length_take_le b.room bytes
    simp only [List.length_append, room] at *
    omega
  compacted := by
    intro hEmpty
    exact b.compacted (List.append_eq_nil_iff.mp hEmpty).1

/-
  `buffer_read_adv`: the pointers go back to `data` when the
  last byte has been read.
-/
def readAdv
    (b : Buffer limit)
    (n : Nat) : Buffer limit where
  read :=
    if b.pending.drop n = [] then 0
    else b.read + n
  pending := b.pending.drop n
  fits := by
    have hFits := b.fits
    split
    · rename_i hEmpty
      simp [hEmpty]
    · rename_i hMore
      have hLength : n < b.pending.length := by
        by_contra hNot
        exact hMore (List.drop_eq_nil_of_le (by omega))
      simp only [List.length_drop]
      omega
  compacted := by
    intro hEmpty
    simp [hEmpty]

/- `buffer_read` -/
def readByte (b : Buffer limit) : UInt8 × Buffer limit :=
  match b.pending with
  | [] => (0, b)
  | byte :: _ => (byte, b.readAdv 1)

@[simp] theorem init_pending :
    (init limit).pending = [] := rfl

@[simp] theorem writeAdv_pending
    (b : Buffer limit)
    (bytes : List UInt8) :
    (b.writeAdv bytes).pending =
      b.pending ++ bytes.take b.room := rfl

@[simp] theorem readAdv_pending
    (b : Buffer limit)
    (n : Nat) :
    (b.readAdv n).pending = b.pending.drop n := rfl

/- Buffers agree when their two pointers' data agree. -/
theorem ext_of
    {b c : Buffer limit}
    (hRead : b.read = c.read)
    (hPending : b.pending = c.pending) : b = c := by
  cases b
  cases c
  simp only at hRead hPending
  subst hRead hPending
  rfl

theorem canRead_eq_true_iff
    (b : Buffer limit) :
    b.canRead = true ↔ b.pending ≠ [] := by
  simp [canRead]

theorem canRead_eq_false_iff
    (b : Buffer limit) :
    b.canRead = false ↔ b.pending = [] := by
  simp [canRead]

theorem canWrite_eq_true_iff
    (b : Buffer limit) :
    b.canWrite = true ↔ 0 < b.room := by
  simp [canWrite]

/- An empty buffer has all its capacity to offer. -/
theorem room_of_pending_nil
    {b : Buffer limit}
    (hEmpty : b.pending = []) :
    b.room = limit := by
  simp [room, hEmpty, b.compacted hEmpty]

/- A buffer of some capacity is never full and empty. -/
theorem not_full_and_empty
    (b : Buffer limit)
    (hLimit : 0 < limit) :
    b.canWrite = true ∨ b.canRead = true := by
  by_cases hEmpty : b.pending = []
  · left
    rw [canWrite_eq_true_iff, room_of_pending_nil hEmpty]
    exact hLimit
  · right
    exact (canRead_eq_true_iff b).mpr hEmpty

/- Reading nothing changes nothing. -/
theorem readAdv_zero
    (b : Buffer limit) :
    b.readAdv 0 = b := by
  apply ext_of
  · by_cases hEmpty : b.pending = []
    · simp [readAdv, hEmpty, b.compacted hEmpty]
    · simp [readAdv, hEmpty]
  · simp

/- Reading in two goes is reading the sum. -/
theorem readAdv_readAdv
    (b : Buffer limit)
    (m n : Nat) :
    (b.readAdv m).readAdv n = b.readAdv (m + n) := by
  apply ext_of
  · by_cases hAll : b.pending.drop (m + n) = []
    · simp [readAdv, List.drop_drop, hAll]
    · have hFirst : b.pending.drop m ≠ [] := by
        intro hEmpty
        apply hAll
        rw [← List.drop_drop, hEmpty, List.drop_nil]
      simp [readAdv, List.drop_drop, hAll, hFirst,
        Nat.add_assoc]
  · simp [List.drop_drop]

end Buffer

------------------------------------------------------------
-- Feeding A Parser From A Buffer
------------------------------------------------------------

namespace Buffer

variable {limit : Nat} {σ : Type}

/-
  The loop shared by `hello_consume`, `consume` and
  `request_consume`: read a byte, feed it, stop when the
  parser is done. `fuel` bounds the number of turns.
-/
def feedLoop
    (R : Incremental.Reader σ UInt8) :
    Nat → Buffer limit → σ → σ × Buffer limit
| 0, b, p => (p, b)
| fuel + 1, b, p =>
    if b.canRead then
      let (byte, b) := b.readByte
      let p := R.feed p byte
      if R.stop p then (p, b) else feedLoop R fuel b p
    else
      (p, b)

/- The loop with as many turns as there are bytes. -/
def feed
    (R : Incremental.Reader σ UInt8)
    (b : Buffer limit)
    (p : σ) : σ × Buffer limit :=
  feedLoop R b.pending.length b p

/-
  The loop consumes the pending bytes and moves the read
  pointer past what it used.
-/
theorem feedLoop_eq_consume
    (R : Incremental.Reader σ UInt8)
    (fuel : Nat)
    (b : Buffer limit)
    (p : σ)
    (hFuel : b.pending.length ≤ fuel) :
    feedLoop R fuel b p =
      ((R.consume p b.pending).1,
        b.readAdv (b.pending.length -
          (R.consume p b.pending).2.length)) := by
  induction fuel generalizing b p with
  | zero =>
      have hEmpty : b.pending = [] :=
        List.length_eq_zero_iff.mp (by omega)
      simp [feedLoop, hEmpty, Incremental.Reader.consume,
        readAdv_zero]
  | succ fuel ih =>
      cases hPending : b.pending with
      | nil =>
          simp [feedLoop, canRead, hPending,
            Incremental.Reader.consume, readAdv_zero]
      | cons byte rest =>
          have hByte : b.readByte = (byte, b.readAdv 1) := by
            simp [readByte, hPending]
          have hRest : (b.readAdv 1).pending = rest := by
            simp [hPending]
          have hLength : (b.readAdv 1).pending.length ≤
              fuel := by
            rw [hRest]
            rw [hPending, List.length_cons] at hFuel
            omega
          have hNext := ih (b.readAdv 1) (R.feed p byte)
            hLength
          rw [hRest, readAdv_readAdv] at hNext
          have hLeft :
              (R.consume (R.feed p byte) rest).2.length ≤
                rest.length := by
            rcases R.consume_cases (R.feed p byte) rest with
              ⟨_, hEq⟩ | ⟨used, left, hSplit, _, hEq⟩
            · simp [hEq]
            · rw [hEq, hSplit]
              simp
          by_cases hStop : R.stop (R.feed p byte) = true
          · simp [feedLoop, canRead, hPending, hByte, hStop,
              Incremental.Reader.consume]
          · have hFalse : R.stop (R.feed p byte) = false := by
              simpa using hStop
            simp only [feedLoop, canRead, hPending, hByte,
              hFalse, hNext, Incremental.Reader.consume,
              List.length_cons, List.isEmpty_cons]
            simp only [Bool.not_false, if_true,
              Bool.false_eq_true, if_false]
            congr 2
            omega

/- The state and the pending bytes that `feed` leaves. -/
theorem feed_eq
    (R : Incremental.Reader σ UInt8)
    (b : Buffer limit)
    (p : σ) :
    (feed R b p).1 = (R.consume p b.pending).1 ∧
      (feed R b p).2.pending =
        (R.consume p b.pending).2 := by
  rw [feed, feedLoop_eq_consume R _ b p (Nat.le_refl _)]
  refine ⟨rfl, ?_⟩
  rcases R.consume_cases p b.pending with
    ⟨_, hEq⟩ | ⟨used, rest, hSplit, _, hEq⟩
  · simp [hEq]
  · rw [hEq]
    simp only [readAdv_pending]
    rw [hSplit]
    simp

end Buffer

------------------------------------------------------------
-- Feeding A Parser Chunk By Chunk
------------------------------------------------------------

namespace Buffer

variable {limit : Nat} {σ : Type}

/-
  What a reading state does with the chunks that `recv`
  returns: each is stored and consumed until the parser is
  done. The chunks that were not received are returned.
-/
def feedChunks
    (consume : Buffer limit → σ → σ × Buffer limit)
    (done : σ → Bool)
    (b : Buffer limit)
    (p : σ) :
    List (List UInt8) →
      σ × Buffer limit × List (List UInt8)
| [] => (p, b, [])
| chunk :: rest =>
    let fed := consume (b.writeAdv chunk) p
    if done fed.1 then (fed.1, fed.2, rest)
    else feedChunks consume done fed.2 fed.1 rest

/- The chunks are some that `recv` can return. -/
def Received
    (consume : Buffer limit → σ → σ × Buffer limit)
    (done : σ → Bool)
    (b : Buffer limit)
    (p : σ) :
    List (List UInt8) → Prop
| [] => True
| chunk :: rest =>
    let fed := consume (b.writeAdv chunk) p
    chunk ≠ [] ∧ chunk.length ≤ b.room ∧
      (done fed.1 = false →
        Received consume done fed.2 fed.1 rest)

instance decidableReceived
    (consume : Buffer limit → σ → σ × Buffer limit)
    (done : σ → Bool) :
    (b : Buffer limit) → (p : σ) →
      (chunks : List (List UInt8)) →
        Decidable (Received consume done b p chunks)
| _, _, [] => isTrue trivial
| b, p, chunk :: rest =>
    have := decidableReceived consume done
      (consume (b.writeAdv chunk) p).2
      (consume (b.writeAdv chunk) p).1 rest
    inferInstanceAs (Decidable (chunk ≠ [] ∧
      chunk.length ≤ b.room ∧ (_ → _)))

/- A chunk that fits is stored whole. -/
theorem writeAdv_pending_of_fits
    (b : Buffer limit)
    {chunk : List UInt8}
    (hFits : chunk.length ≤ b.room) :
    (b.writeAdv chunk).pending = b.pending ++ chunk := by
  rw [writeAdv_pending, List.take_of_length_le hFits]

/-
  However a message and what comes after it are cut, the
  parser ends as if it had been fed the message, and what
  comes after it is either pending or not yet received.
-/
theorem feedChunks_of_stops
    {R : Incremental.Reader σ UInt8}
    {b : Buffer limit}
    {p : σ}
    {message trailing : List UInt8}
    {chunks : List (List UInt8)}
    (hStops : R.Stops p message)
    (hSome : chunks ≠ [])
    (hReceived : Received (feed R) R.stop b p chunks)
    (hStream :
      b.pending ++ chunks.flatten = message ++ trailing) :
    (feedChunks (feed R) R.stop b p chunks).1 =
        R.feedAll p message ∧
      (feedChunks (feed R) R.stop b p chunks).2.1.pending ++
        (feedChunks (feed R) R.stop b p chunks).2.2.flatten =
          trailing := by
  induction chunks generalizing b p message with
  | nil => exact absurd rfl hSome
  | cons chunk rest ih =>
      rcases hReceived with ⟨hChunk, hFits, hRest⟩
      have hFed := feed_eq R (b.writeAdv chunk) p
      rw [b.writeAdv_pending_of_fits hFits] at hFed
      rw [List.flatten_cons, ← List.append_assoc] at hStream
      rcases List.append_eq_append_iff.1 hStream with
        ⟨more, hMessage, hLater⟩ | ⟨beyond, hOver, hTrailing⟩
      · by_cases hMore : more = []
        · -- the chunk ends with the message
          rw [hMore, List.append_nil] at hMessage
          have hConsume := R.consume_of_stops hStops []
          rw [List.append_nil, hMessage] at hConsume
          rw [hConsume] at hFed
          have hDone := hStops.stop_feedAll
          rw [hMessage] at hDone
          unfold feedChunks
          simp only [hFed.1, hDone, if_true, hFed.2]
          rw [hMessage]
          refine ⟨rfl, ?_⟩
          rw [hMore] at hLater
          simpa using hLater
        · -- the message goes on after the chunk
          rw [hMessage] at hStops
          have hLive := hStops.live_of_append R hMore
          have hConsume := R.consume_of_live hLive
          have hParser :
              ((b.writeAdv chunk).feed R p).1 =
                R.feedAll p (b.pending ++ chunk) :=
            hFed.1.trans (congrArg Prod.fst hConsume)
          have hEmpty :
              ((b.writeAdv chunk).feed R p).2.pending = [] :=
            hFed.2.trans (congrArg Prod.snd hConsume)
          have hNotNil : b.pending ++ chunk ≠ [] :=
            fun hNil => hChunk
              (List.append_eq_nil_iff.1 hNil).2
          have hGoing := hLive.going_feedAll R hNotNil
          have hNext :=
            (R.stops_append_of_live hLive).1 hStops
          rw [← hParser] at hGoing hNext
          have hSome' : rest ≠ [] := by
            intro hNil
            rw [hNil] at hLater
            have hBoth := List.append_eq_nil_iff.1
              hLater.symm
            exact hMore hBoth.1
          have hAfter := ih hNext hSome' (hRest hGoing)
            (by rw [hEmpty]; exact hLater)
          have hUnfold :
              feedChunks (feed R) R.stop b p (chunk :: rest) =
                feedChunks (feed R) R.stop
                  ((b.writeAdv chunk).feed R p).2
                  ((b.writeAdv chunk).feed R p).1 rest := by
            conv_lhs => unfold feedChunks
            simp only [hGoing]
            rfl
          rw [hUnfold, hMessage, R.feedAll_append, ← hParser]
          exact hAfter
      · -- the message ends inside the chunk
        have hConsume := R.consume_of_stops hStops beyond
        rw [← hOver] at hConsume
        rw [hConsume] at hFed
        have hDone := hStops.stop_feedAll
        unfold feedChunks
        simp only [hFed.1, hDone, if_true, hFed.2]
        exact ⟨trivial, hTrailing.symm⟩

end Buffer

------------------------------------------------------------
-- Feeding A Parser Buffer By Buffer
------------------------------------------------------------

namespace Buffer

variable {limit : Nat} {σ : Type}

/-
  The loop over one buffer after the other until the parser
  is done, and what is left of them.
-/
def feedBuffers
    (R : Incremental.Reader σ UInt8)
    (p : σ) :
    List (Buffer limit) → σ × List (Buffer limit)
| [] => (p, [])
| b :: rest =>
    let fed := b.feed R p
    if R.stop fed.1 then (fed.1, fed.2 :: rest)
    else feedBuffers R fed.1 rest

/- The bytes that buffers hold, in their order. -/
def pendingAll (buffers : List (Buffer limit)) :
    List UInt8 :=
  buffers.flatMap pending

@[simp] theorem pendingAll_nil :
    pendingAll ([] : List (Buffer limit)) = [] := rfl

@[simp] theorem pendingAll_cons
    (b : Buffer limit)
    (rest : List (Buffer limit)) :
    pendingAll (b :: rest) =
      b.pending ++ pendingAll rest := rfl

/- How the bytes are spread over buffers does not matter. -/
theorem feedBuffers_eq
    {R : Incremental.Reader σ UInt8}
    {p : σ}
    (hGoing : R.stop p = false)
    (buffers : List (Buffer limit)) :
    (feedBuffers R p buffers).1 =
        (R.consume p (pendingAll buffers)).1 ∧
      pendingAll (feedBuffers R p buffers).2 =
        (R.consume p (pendingAll buffers)).2 := by
  induction buffers generalizing p with
  | nil => exact ⟨rfl, rfl⟩
  | cons b rest ih =>
      have hFed := feed_eq R b p
      rcases R.consume_cases p b.pending with
        ⟨hLive, hEq⟩ | ⟨used, left, hSplit, hStops, hEq⟩
      · have hParser : (feed R b p).1 =
            R.feedAll p b.pending := by
          rw [hFed.1, hEq]
        have hStill : R.stop (feed R b p).1 = false := by
          rw [hParser]
          by_cases hEmpty : b.pending = []
          · rw [hEmpty]
            exact hGoing
          · exact hLive.going_feedAll R hEmpty
        have hRest := ih hStill
        unfold feedBuffers
        simp only [hStill]
        rw [pendingAll_cons,
          R.consume_append_of_live hLive, ← hParser]
        exact hRest
      · have hStop : R.stop (feed R b p).1 = true := by
          rw [hFed.1, hEq]
          exact hStops.stop_feedAll
        have hAll : R.consume p
            (used ++ left ++ pendingAll rest) = _ :=
          R.consume_append_of_stops hStops (pendingAll rest)
        rw [← hSplit] at hAll
        unfold feedBuffers
        simp only [hStop, if_true]
        rw [pendingAll_cons, pendingAll_cons, hAll, hFed.1,
          hFed.2, hEq]
        exact ⟨rfl, rfl⟩

end Buffer
