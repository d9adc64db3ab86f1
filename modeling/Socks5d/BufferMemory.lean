import Socks5d.Buffer
import Socks5d.Library.Component

/-
  `buffer.c` as it lies in memory: the bytes between `data`
  and `limit`, two pointers into them, `memmove` and the
  assertions. The buffer with its unread bytes is realized by
  it, and the bytes go through in their order.

  Main declarations:
    * `BufferMemory` and its operations
    * `bufferMemory`, `bufferQueue`, `Lies`
    * `memory_step`, `memory_refines`, `memory_realizes`
    * `buffer_memory`, `buffer_fifo`
-/

------------------------------------------------------------
-- Memory
------------------------------------------------------------

/-
  `struct buffer`: the bytes from `data` to `limit`, and the
  offsets of the two pointers.
-/
structure BufferMemory where
  cells : List UInt8
  read : Nat
  write : Nat
deriving DecidableEq

/- `memmove`, with offsets into one block -/
def memmove
    (cells : List UInt8)
    (dest src n : Nat) : List UInt8 :=
  cells.take dest ++ (cells.drop src).take n ++
    cells.drop (dest + n)

namespace BufferMemory

variable (b : BufferMemory)

/- `buffer_reset` -/
def reset : BufferMemory :=
  { b with read := 0, write := 0 }

/- `buffer_init` with the memory that it is given -/
def init (cells : List UInt8) : BufferMemory :=
  reset ⟨cells, 0, 0⟩

/- `buffer_can_write` -/
def canWrite : Bool :=
  decide (0 < (b.cells.length : Int) - b.write)

/- `buffer_write_ptr`; `none` is the assertion. -/
def writePtr : Option Nat :=
  if b.write ≤ b.cells.length then
    some (b.cells.length - b.write)
  else none

/- `buffer_can_read` -/
def canRead : Bool :=
  decide (0 < (b.write : Int) - b.read)

/- The bytes between the two pointers -/
def unread : List UInt8 :=
  (b.cells.drop b.read).take (b.write - b.read)

/- `buffer_read_ptr`, with what lies behind the pointer -/
def readPtr : Option (List UInt8) :=
  if b.read ≤ b.write then some b.unread else none

/- `buffer_write_adv` -/
def writeAdv (bytes : Int) : Option BufferMemory :=
  if bytes > -1 then
    let write := b.write + bytes.toNat
    if write ≤ b.cells.length then some { b with write }
    else none
  else
    some b

/- `buffer_compact` -/
def compact : BufferMemory :=
  if b.read = 0 then
    b
  else if b.read = b.write then
    { b with read := 0, write := 0 }
  else
    let n := b.write - b.read
    { cells := memmove b.cells 0 b.read n
      read := 0
      write := n }

/- `buffer_read_adv` -/
def readAdv (bytes : Int) : Option BufferMemory :=
  if bytes > -1 then
    let read := b.read + bytes.toNat
    if read ≤ b.write then
      let b := { b with read }
      if read = b.write then some b.compact else some b
    else none
  else
    some b

/- `buffer_read`; `none` also outside of the memory -/
def readByte : Option (BufferMemory × UInt8) :=
  if b.canRead then
    match b.cells[b.read]? with
    | none => none
    | some ret => (b.readAdv 1).map fun b => (b, ret)
  else
    some (b, 0)

/- `buffer_write` -/
def writeByte (c : UInt8) : Option BufferMemory :=
  if b.canWrite then
    writeAdv { b with cells := b.cells.set b.write c } 1
  else
    some b

/-
  What `recv` or `memcpy` stores at the write pointer; `none`
  is beyond `limit`.
-/
def store (bytes : List UInt8) : Option BufferMemory :=
  if b.write + bytes.length ≤ b.cells.length then
    some { b with
      cells := b.cells.take b.write ++ bytes ++
        b.cells.drop (b.write + bytes.length) }
  else none

end BufferMemory

/- The buffer with its unread bytes, moved to the front -/
def Buffer.compact
    {limit : Nat}
    (b : Buffer limit) : Buffer limit where
  read := 0
  pending := b.pending
  fits := by
    have hFits := b.fits
    omega
  compacted := fun _ => rfl

------------------------------------------------------------
-- What Is Asked Of A Buffer
------------------------------------------------------------

/-
  `received` stores what `recv` has got and advances; `recv`
  failed where there is nothing. `sent` advances by what
  `send` has returned.
-/
inductive BufferOp where
  | reset
  | compact
  | canWrite
  | canRead
  | writePtr
  | readPtr
  | received (bytes : Option (List UInt8))
  | sent (n : Int)
  | read
  | write (c : UInt8)

inductive BufferAnswer where
  | done
  | bit (value : Bool)
  | count (n : Nat)
  | bytes (unread : List UInt8)
  | byte (c : UInt8)
deriving DecidableEq

/- The operations on the memory -/
def bufferMemory :
    Component BufferMemory BufferOp BufferAnswer where
  step b
    | .reset => some (b.reset, .done)
    | .compact => some (b.compact, .done)
    | .canWrite => some (b, .bit b.canWrite)
    | .canRead => some (b, .bit b.canRead)
    | .writePtr => b.writePtr.map fun n => (b, .count n)
    | .readPtr => b.readPtr.map fun l => (b, .bytes l)
    | .received none =>
        (b.writeAdv (-1)).map fun b => (b, .done)
    | .received (some bytes) =>
        ((b.store bytes).bind fun b =>
          b.writeAdv bytes.length).map fun b => (b, .done)
    | .sent n => (b.readAdv n).map fun b => (b, .done)
    | .read => b.readByte.map fun r => (r.1, .byte r.2)
    | .write c => (b.writeByte c).map fun b => (b, .done)

/- The operations on the unread bytes -/
def bufferQueue (limit : Nat) :
    Component (Buffer limit) BufferOp BufferAnswer where
  step b
    | .reset => some (.init limit, .done)
    | .compact => some (b.compact, .done)
    | .canWrite => some (b, .bit b.canWrite)
    | .canRead => some (b, .bit b.canRead)
    | .writePtr => some (b, .count b.room)
    | .readPtr => some (b, .bytes b.pending)
    | .received none => some (b, .done)
    | .received (some bytes) =>
        if bytes.length ≤ b.room then
          some (b.writeAdv bytes, .done)
        else none
    | .sent n =>
        if n > -1 then
          if n.toNat ≤ b.pending.length then
            some (b.readAdv n.toNat, .done)
          else none
        else
          some (b, .done)
    | .read => some (b.readByte.2, .byte b.readByte.1)
    | .write c =>
        some (if b.canWrite then b.writeAdv [c] else b, .done)

theorem bufferQueue_sent
    {limit : Nat}
    (b : Buffer limit)
    (n : Nat) :
    (bufferQueue limit).step b (.sent n) =
      if n ≤ b.pending.length then some (b.readAdv n, .done)
      else none := by
  have hSent : (n : Int) > -1 := by omega
  unfold bufferQueue
  simp only [hSent, if_true, Int.toNat_natCast]

/-
  The memory is what has been read, the unread bytes at the
  read pointer, and what may be written.
-/
structure Lies
    {limit : Nat}
    (m : BufferMemory)
    (b : Buffer limit) : Prop where
  size : m.cells.length = limit
  read : m.read = b.read
  write : m.write = b.read + b.pending.length
  layout : ∃ before after,
    m.cells = before ++ (b.pending ++ after) ∧
      before.length = b.read

namespace Lies

variable {limit : Nat}
variable {m : BufferMemory}
variable {b : Buffer limit}

theorem init
    (cells : List UInt8) :
    Lies (.init cells) (Buffer.init cells.length) where
  size := rfl
  read := rfl
  write := rfl
  layout := ⟨[], cells, rfl, rfl⟩

theorem unread
    (h : Lies m b) : m.unread = b.pending := by
  rcases h.layout with ⟨before, after, hCells, hBefore⟩
  unfold BufferMemory.unread
  rw [h.read, h.write, Nat.add_sub_cancel_left, hCells,
    ← hBefore, List.drop_left, List.take_left]

theorem room
    (h : Lies m b) : m.cells.length - m.write = b.room := by
  unfold Buffer.room
  rw [h.size, h.write]

theorem write_le
    (h : Lies m b) : m.write ≤ m.cells.length := by
  rw [h.size, h.write]
  exact b.fits

theorem canWrite
    (h : Lies m b) : m.canWrite = b.canWrite := by
  have hLe := h.write_le
  unfold BufferMemory.canWrite Buffer.canWrite
  rw [← h.room]
  exact decide_eq_decide.mpr (by omega)

theorem canRead
    (h : Lies m b) : m.canRead = b.canRead := by
  unfold BufferMemory.canRead Buffer.canRead
  rw [h.read, h.write]
  cases b.pending with
  | nil => simp
  | cons c rest =>
      simp only [List.length_cons, List.isEmpty_cons,
        Bool.not_false, decide_eq_true_eq]
      omega

/- Compacting moves the unread bytes to the front. -/
theorem compact
    (h : Lies m b) : Lies m.compact b.compact := by
  rcases h.layout with ⟨before, after, hCells, hBefore⟩
  unfold BufferMemory.compact
  by_cases hZero : m.read = 0
  · rw [if_pos hZero]
    have hRead := h.read.symm.trans hZero
    refine ⟨h.size, hZero, ?_, before, after, hCells,
      hBefore.trans hRead⟩
    rw [h.write, hRead]
    rfl
  · rw [if_neg hZero]
    have hSome : b.pending ≠ [] := fun hEmpty =>
      hZero (h.read.trans (b.compacted hEmpty))
    have hLength := List.length_pos_of_ne_nil hSome
    have hRead := h.read
    have hWrite := h.write
    have hFits := b.fits
    rw [if_neg (by omega)]
    have hMoved : (m.cells.drop m.read).take
        (m.write - m.read) = b.pending := h.unread
    have hCount : m.write - m.read = b.pending.length := by
      omega
    have hFront : memmove m.cells 0 m.read
        (m.write - m.read) =
          b.pending ++ m.cells.drop b.pending.length := by
      unfold memmove
      rw [hMoved, hCount, List.take_zero, List.nil_append,
        Nat.zero_add]
    dsimp only
    rw [hFront]
    refine ⟨?_, rfl, ?_, [],
      m.cells.drop b.pending.length, rfl, rfl⟩
    · have hSize := h.size
      rw [List.length_append, List.length_drop]
      omega
    · show m.write - m.read = 0 + b.pending.length
      omega

/- Bytes that fit are stored behind the unread ones. -/
theorem store
    (h : Lies m b)
    {bytes : List UInt8}
    (hFit : bytes.length ≤ b.room) :
    ∃ m', m.store bytes = some m' ∧
      ∃ m'', m'.writeAdv bytes.length = some m'' ∧
        Lies m'' (b.writeAdv bytes) := by
  rcases h.layout with ⟨before, after, hCells, hBefore⟩
  have hSize := h.size
  have hWrite := h.write
  have hFits := b.fits
  have hRoom : b.room = limit - (b.read + b.pending.length) :=
    rfl
  have hAt : m.write = (before ++ b.pending).length := by
    rw [List.length_append, hBefore]
    exact hWrite
  have hSplit : m.cells = (before ++ b.pending) ++ after := by
    rw [hCells, List.append_assoc]
  have hStored : m.cells.take m.write ++ bytes ++
      m.cells.drop (m.write + bytes.length) =
        before ++ ((b.pending ++ bytes) ++
          after.drop bytes.length) := by
    rw [hSplit, hAt, List.take_left, List.drop_append]
    simp
  unfold BufferMemory.store
  rw [if_pos (by omega)]
  refine ⟨_, rfl, ?_⟩
  unfold BufferMemory.writeAdv
  have hAll : b.pending ++ bytes.take b.room =
      b.pending ++ bytes := by
    rw [List.take_of_length_le hFit]
  have hLength : (m.cells.take m.write ++ bytes ++
      m.cells.drop (m.write + bytes.length)).length =
        limit := by
    simp only [List.length_append, List.length_take,
      List.length_drop]
    omega
  rw [if_pos (by omega)]
  simp only [Int.toNat_natCast, hLength]
  rw [if_pos (by omega)]
  refine ⟨_, rfl, hLength, h.read, ?_, before,
    after.drop bytes.length, ?_, hBefore⟩
  · show m.write + bytes.length =
      b.read + (b.pending ++ bytes.take b.room).length
    rw [hAll, List.length_append]
    omega
  · show _ = before ++
      ((b.pending ++ bytes.take b.room) ++ _)
    rw [hAll]
    exact hStored

/- More bytes than there is room for leave the memory. -/
theorem store_none
    (h : Lies m b)
    {bytes : List UInt8}
    (hMany : ¬ bytes.length ≤ b.room) :
    m.store bytes = none := by
  have hRoom := h.room
  have hLe := h.write_le
  unfold BufferMemory.store
  rw [if_neg (by omega)]

/- The pointer moves over unread bytes. -/
theorem readAdv
    (h : Lies m b)
    {n : Nat}
    (hLe : n ≤ b.pending.length) :
    ∃ m', m.readAdv n = some m' ∧ Lies m' (b.readAdv n) := by
  rcases h.layout with ⟨before, after, hCells, hBefore⟩
  have hRead := h.read
  have hWrite := h.write
  have hDrop : (b.pending.drop n).length =
      b.pending.length - n := List.length_drop
  unfold BufferMemory.readAdv
  rw [if_pos (by omega)]
  simp only [Int.toNat_natCast]
  rw [if_pos (by omega)]
  by_cases hAll : n = b.pending.length
  · -- the last byte: both pointers go back
    have hEmpty : b.pending.drop n = [] := by
      rw [hAll]
      exact List.drop_length
    rw [if_pos (by omega)]
    refine ⟨_, rfl, ?_⟩
    have hReset : BufferMemory.compact
        { m with read := m.read + n } =
          { m with read := 0, write := 0 } := by
      unfold BufferMemory.compact
      dsimp only
      split
      · rename_i hZero
        rcases m with ⟨cells, read, write⟩
        simp only [BufferMemory.mk.injEq, true_and]
        exact ⟨hZero, by dsimp only at *; omega⟩
      · rw [if_pos (by omega)]
    rw [hReset]
    refine ⟨h.size, ?_, ?_, [], m.cells, ?_, ?_⟩
    · show 0 = if b.pending.drop n = [] then 0 else _
      rw [if_pos hEmpty]
    · show 0 = (if b.pending.drop n = [] then 0 else _) +
        (b.pending.drop n).length
      rw [if_pos hEmpty, hEmpty]
      rfl
    · show _ = [] ++ (b.pending.drop n ++ _)
      rw [hEmpty]
      rfl
    · show 0 = if b.pending.drop n = [] then 0 else _
      rw [if_pos hEmpty]
  · have hMore : b.pending.drop n ≠ [] := by
      intro hEmpty
      rw [hEmpty, List.length_nil] at hDrop
      omega
    rw [if_neg (by omega)]
    refine ⟨_, rfl, h.size, ?_, ?_,
      before ++ b.pending.take n, after, ?_, ?_⟩
    · show m.read + n = if b.pending.drop n = [] then 0 else _
      rw [if_neg hMore, hRead]
    · show m.write = (if b.pending.drop n = [] then 0 else _) +
        (b.pending.drop n).length
      rw [if_neg hMore]
      omega
    · show m.cells = _ ++ (b.pending.drop n ++ after)
      rw [hCells, List.append_assoc, ← List.append_assoc
        (b.pending.take n), List.take_append_drop]
    · show _ = if b.pending.drop n = [] then 0 else _
      rw [if_neg hMore, List.length_append,
        List.length_take_of_le hLe, hBefore]

/- Moving over more than that fails its assertion. -/
theorem readAdv_none
    (h : Lies m b)
    {n : Nat}
    (hMany : ¬ n ≤ b.pending.length) :
    m.readAdv n = none := by
  have hRead := h.read
  have hWrite := h.write
  unfold BufferMemory.readAdv
  rw [if_pos (by omega)]
  simp only [Int.toNat_natCast]
  rw [if_neg (by omega)]

theorem readByte
    (h : Lies m b) :
    ∃ m', m.readByte = some (m', b.readByte.1) ∧
      Lies m' b.readByte.2 := by
  unfold BufferMemory.readByte Buffer.readByte
  rw [h.canRead]
  cases hPending : b.pending with
  | nil =>
      have hNot : b.canRead = false :=
        (Buffer.canRead_eq_false_iff b).mpr hPending
      rw [hNot]
      exact ⟨m, rfl, h⟩
  | cons c rest =>
      have hCan : b.canRead = true :=
        (Buffer.canRead_eq_true_iff b).mpr (by
          rw [hPending]
          exact List.cons_ne_nil c rest)
      have hFirst : m.cells[m.read]? = some c := by
        rcases h.layout with ⟨before, after, hCells, hBefore⟩
        rw [hCells, h.read, ← hBefore, hPending,
          List.getElem?_append_right (Nat.le_refl _),
          Nat.sub_self]
        rfl
      rcases h.readAdv (n := 1) (by rw [hPending]; simp) with
        ⟨m', hAdv, hAfter⟩
      have hOne : m.readAdv 1 = some m' := hAdv
      rw [hCan, if_pos rfl]
      simp only [hFirst, hOne, Option.map_some]
      exact ⟨m', rfl, hAfter⟩

/- Writing a byte is storing it, where there is room. -/
theorem writeByte
    (h : Lies m b)
    (c : UInt8) :
    ∃ m', m.writeByte c = some m' ∧
      Lies m' (if b.canWrite then b.writeAdv [c] else b) := by
  unfold BufferMemory.writeByte
  rw [h.canWrite]
  cases hCan : b.canWrite with
  | false => exact ⟨m, rfl, h⟩
  | true =>
      have hRoom := (Buffer.canWrite_eq_true_iff b).mp hCan
      have hFit : [c].length ≤ b.room := hRoom
      rcases h.store hFit with
        ⟨m', hStore, m'', hAdv, hAfter⟩
      have hSame : m' = { m with
          cells := m.cells.set m.write c } := by
        have hLt := h.room
        have hIn : m.write + [c].length ≤ m.cells.length := by
          rw [List.length_singleton]
          omega
        unfold BufferMemory.store at hStore
        rw [if_pos hIn] at hStore
        rw [← Option.some.inj hStore,
          List.set_eq_take_append_cons_drop,
          if_pos (by omega)]
        simp
      rw [hSame] at hAdv
      exact ⟨m'', hAdv, hAfter⟩

end Lies

section Steps

variable {limit : Nat}
variable {m : BufferMemory}
variable {b : Buffer limit}

/-
  Every operation: the two agree on the answer, or neither has
  one.
-/
theorem memory_step
    (h : Lies m b)
    (op : BufferOp) :
    (∃ m' b' out, bufferMemory.step m op = some (m', out) ∧
      (bufferQueue limit).step b op = some (b', out) ∧
      Lies m' b') ∨
    (bufferMemory.step m op = none ∧
      (bufferQueue limit).step b op = none) := by
  cases op with
  | reset =>
      left
      have hReset := Lies.init m.cells
      rw [h.size] at hReset
      exact ⟨_, _, _, rfl, rfl, hReset⟩
  | compact => exact Or.inl ⟨_, _, _, rfl, rfl, h.compact⟩
  | canWrite =>
      exact Or.inl ⟨m, b, .bit b.canWrite, by
        rw [← h.canWrite]; rfl, rfl, h⟩
  | canRead =>
      exact Or.inl ⟨m, b, .bit b.canRead, by
        rw [← h.canRead]; rfl, rfl, h⟩
  | writePtr =>
      refine Or.inl ⟨m, b, .count b.room, ?_, rfl, h⟩
      show m.writePtr.map _ = _
      unfold BufferMemory.writePtr
      rw [if_pos h.write_le, h.room]
      rfl
  | readPtr =>
      refine Or.inl ⟨m, b, .bytes b.pending, ?_, rfl, h⟩
      show m.readPtr.map _ = _
      unfold BufferMemory.readPtr
      rw [if_pos (by rw [h.read, h.write]
                     exact Nat.le_add_right _ _), h.unread]
      rfl
  | received bytes =>
      cases bytes with
      | none => exact Or.inl ⟨m, b, .done, rfl, rfl, h⟩
      | some bytes =>
          by_cases hFit : bytes.length ≤ b.room
          · rcases h.store hFit with
              ⟨m', hStore, m'', hAdv, hAfter⟩
            refine Or.inl ⟨m'', _, .done, ?_, ?_, hAfter⟩
            · show ((m.store bytes).bind _).map _ = _
              rw [hStore, Option.bind_some, hAdv]
              rfl
            · exact if_pos hFit
          · refine Or.inr ⟨?_, if_neg hFit⟩
            show ((m.store bytes).bind _).map _ = _
            rw [h.store_none hFit]
            rfl
  | sent n =>
      by_cases hSent : n > -1
      · rcases Int.eq_ofNat_of_zero_le
          (show 0 ≤ n by omega) with ⟨k, rfl⟩
        have hQueue := bufferQueue_sent b k
        by_cases hLe : k ≤ b.pending.length
        · rcases h.readAdv hLe with ⟨m', hAdv, hAfter⟩
          rw [if_pos hLe] at hQueue
          refine Or.inl ⟨m', _, .done, ?_, hQueue, hAfter⟩
          show (m.readAdv k).map _ = _
          rw [hAdv]
          rfl
        · rw [if_neg hLe] at hQueue
          refine Or.inr ⟨?_, hQueue⟩
          show (m.readAdv k).map _ = _
          rw [h.readAdv_none hLe]
          rfl
      · refine Or.inl ⟨m, b, .done, ?_, if_neg hSent, h⟩
        show (m.readAdv n).map _ = _
        unfold BufferMemory.readAdv
        rw [if_neg hSent]
        rfl
  | read =>
      rcases h.readByte with ⟨m', hRead, hAfter⟩
      refine Or.inl ⟨m', _, _, ?_, rfl, hAfter⟩
      show m.readByte.map _ = _
      rw [hRead]
      rfl
  | write c =>
      rcases h.writeByte c with ⟨m', hWrite, hAfter⟩
      refine Or.inl ⟨m', _, .done, ?_, rfl, hAfter⟩
      show (m.writeByte c).map _ = _
      rw [hWrite]
      rfl

theorem memory_refines :
    bufferMemory.Refines (bufferQueue limit) Lies := by
  intro m b op m' out hLies hStep
  rcases memory_step hLies op with
    ⟨m'', b', out', hSame, hQueue, hAfter⟩ | ⟨hNone, _⟩
  · rw [hStep] at hSame
    cases hSame
    exact ⟨b', hQueue, hAfter⟩
  · rw [hStep] at hNone
    cases hNone

theorem memory_realizes :
    bufferMemory.Realizes (bufferQueue limit) Lies := by
  intro m b op b' out hLies hQueue
  rcases memory_step hLies op with
    ⟨m', b'', out', hStep, hSame, hAfter⟩ | ⟨_, hNone⟩
  · rw [hQueue] at hSame
    cases hSame
    exact ⟨m', hStep, hAfter⟩
  · rw [hQueue] at hNone
    cases hNone

/-
  Whatever memory `buffer_init` is given and whatever is asked
  of it: the pointers and `memmove` answer as the unread bytes
  do, and an assertion fails, or memory outside is touched,
  exactly where those have no answer.
-/
theorem buffer_memory
    (cells : List UInt8)
    (ops : List BufferOp) :
    (∀ m' outs,
      bufferMemory.run ops (.init cells) = some (m', outs) →
        ∃ b', (bufferQueue cells.length).run ops
            (.init cells.length) = some (b', outs) ∧
          Lies m' b') ∧
      ∀ b' outs, (bufferQueue cells.length).run ops
          (.init cells.length) = some (b', outs) →
        ∃ m', bufferMemory.run ops (.init cells) =
            some (m', outs) ∧ Lies m' b' :=
  ⟨fun _ _ hRun => memory_refines.run (Lies.init cells) hRun,
    fun _ _ hRun => memory_realizes.run (Lies.init cells) hRun⟩

end Steps

------------------------------------------------------------
-- First In, First Out
------------------------------------------------------------

/- The bytes that an operation puts into the buffer -/
def BufferOp.stored
    (op : BufferOp)
    (m : BufferMemory) : List UInt8 :=
  match op with
  | .received (some bytes) => bytes
  | .write c => if m.canWrite then [c] else []
  | _ => []

/- The bytes that it takes out of it, with what it answers -/
def BufferOp.taken
    (op : BufferOp)
    (m : BufferMemory)
    (answer : BufferAnswer) : List UInt8 :=
  match op, answer with
  | .sent n, _ => m.unread.take n.toNat
  | .read, .byte c => if m.canRead then [c] else []
  | _, _ => []

/- All that was put in, and all that was taken out -/
def BufferMemory.traffic :
    List BufferOp → BufferMemory → List UInt8 × List UInt8
| [], _ => ([], [])
| op :: rest, m =>
    match bufferMemory.step m op with
    | none => ([], [])
    | some r =>
        let later := traffic rest r.1
        (op.stored m ++ later.1, op.taken m r.2 ++ later.2)

section Order

variable {limit : Nat}
variable {m m' : BufferMemory}
variable {b b' : Buffer limit}

/- One operation neither loses nor swaps bytes. -/
theorem BufferOp.in_order
    (op : BufferOp)
    (hLies : Lies m b)
    (hKeeps : op ≠ .reset)
    {out : BufferAnswer}
    (hStep : (bufferQueue limit).step b op =
      some (b', out)) :
    b.pending ++ op.stored m =
      op.taken m out ++ b'.pending := by
  have hUnread := hLies.unread
  cases op with
  | reset => exact absurd rfl hKeeps
  | compact =>
      cases hStep
      exact List.append_nil _
  | canWrite =>
      cases hStep
      exact List.append_nil _
  | canRead =>
      cases hStep
      exact List.append_nil _
  | writePtr =>
      cases hStep
      exact List.append_nil _
  | readPtr =>
      cases hStep
      exact List.append_nil _
  | received bytes =>
      cases bytes with
      | none =>
          cases hStep
          exact List.append_nil _
      | some bytes =>
          by_cases hFit : bytes.length ≤ b.room
          · have hAfter : some (b.writeAdv bytes,
                BufferAnswer.done) = some (b', out) :=
              (if_pos hFit).symm.trans hStep
            cases hAfter
            show _ = b.pending ++ bytes.take b.room
            rw [List.take_of_length_le hFit]
            rfl
          · have hNone : none = some (b', out) :=
              (if_neg hFit).symm.trans hStep
            cases hNone
  | sent n =>
      show b.pending ++ [] = m.unread.take n.toNat ++ _
      rw [hUnread, List.append_nil]
      by_cases hSent : n > -1
      · rcases Int.eq_ofNat_of_zero_le
          (show 0 ≤ n by omega) with ⟨k, rfl⟩
        rw [bufferQueue_sent] at hStep
        split at hStep
        · cases hStep
          rw [Int.toNat_natCast, Buffer.readAdv_pending,
            List.take_append_drop]
        · cases hStep
      · have hSame : some (b, BufferAnswer.done) =
            some (b', out) := (if_neg hSent).symm.trans hStep
        cases hSame
        rw [show n.toNat = 0 by omega, List.take_zero,
          List.nil_append]
  | read =>
      cases hStep
      show b.pending ++ [] =
        (if m.canRead then [b.readByte.1] else []) ++
          b.readByte.2.pending
      rw [hLies.canRead, List.append_nil]
      unfold Buffer.readByte Buffer.canRead
      cases hPending : b.pending with
      | nil => simp [hPending]
      | cons c rest => simp [hPending]
  | write c =>
      cases hStep
      show b.pending ++ (if m.canWrite then [c] else []) = _
      rw [hLies.canWrite]
      cases hCan : b.canWrite with
      | false => exact List.append_nil _
      | true =>
          have hRoom := (Buffer.canWrite_eq_true_iff b).mp hCan
          show b.pending ++ [c] = b.pending ++ [c].take b.room
          rw [List.take_of_length_le hRoom]

/- Operations that follow each other, by induction. -/
theorem Lies.in_order
    (h : Lies m b)
    (ops : List BufferOp)
    (hKeeps : BufferOp.reset ∉ ops)
    {outs : List BufferAnswer}
    (hRun : bufferMemory.run ops m = some (m', outs)) :
    m.unread ++ (m.traffic ops).1 =
      (m.traffic ops).2 ++ m'.unread := by
  induction ops generalizing m b outs with
  | nil =>
      cases hRun
      exact List.append_nil _
  | cons op rest ih =>
      rcases Component.run_cons_eq_some.mp hRun with
        ⟨mid, out, more, hStep, hRest, _⟩
      rcases memory_refines m b op mid out h hStep with
        ⟨below, hQueue, hMid⟩
      have hFirst := op.in_order h
        (fun hEq => hKeeps (hEq ▸ List.mem_cons_self)) hQueue
      have hLater := ih hMid
        (fun hIn => hKeeps (List.mem_cons_of_mem _ hIn)) hRest
      unfold BufferMemory.traffic
      simp only [hStep]
      rw [← List.append_assoc, h.unread, hFirst,
        List.append_assoc, List.append_assoc, ← hMid.unread,
        hLater]

/-
  What has been put into a buffer is what has been taken out
  of it, in that order, and then what is still unread.
-/
theorem buffer_fifo
    (cells : List UInt8)
    (ops : List BufferOp)
    (outs : List BufferAnswer)
    (hKeeps : BufferOp.reset ∉ ops)
    (hRun : bufferMemory.run ops (.init cells) =
      some (m', outs)) :
    ((BufferMemory.init cells).traffic ops).1 =
      ((BufferMemory.init cells).traffic ops).2 ++
        m'.unread := by
  have hOrder := (Lies.init cells).in_order ops hKeeps hRun
  rwa [(Lies.init cells).unread, Buffer.init_pending,
    List.nil_append] at hOrder

end Order

/- The bytes of the pictures in the header of the source -/
theorem buffer_fifo_hola :
    ((BufferMemory.init [0, 0, 0, 0, 0, 0]).traffic
        [.received (some [72, 79, 76, 65]), .sent 3,
          .write 32, .write 77, .compact, .read]).1 =
      ((BufferMemory.init [0, 0, 0, 0, 0, 0]).traffic
        [.received (some [72, 79, 76, 65]), .sent 3,
          .write 32, .write 77, .compact, .read]).2 ++
        BufferMemory.unread
          ⟨[65, 32, 77, 65, 32, 77], 1, 3⟩ :=
  buffer_fifo [0, 0, 0, 0, 0, 0] _
    [.done, .done, .done, .done, .done, .byte 65]
    (by simp) (by decide)
