import Socks5d.Connecting
import Socks5d.PasswordParser

/-
  Relaying between the client and the origin server:
  `copy.c`.

  The `copy_st` of the client reads into the read buffer and
  writes from the write buffer; the one of the origin has the
  two buffers crosswise.

  Main declarations:
    * `Conn.copySt`, `Conn.rb`, `Conn.wb`
    * `copyInit`, `copyComputeInterests`
    * `copyRead`, `copyWrite`
-/

------------------------------------------------------------
-- The Two Ends
------------------------------------------------------------

namespace Socks5d

namespace Conn

variable (c : Conn)

/- `client.copy` and `orig.copy` -/
def copySt : Side → CopySt
| .client => c.clientCopy
| .origin => c.origCopy

def setCopySt
    (side : Side)
    (d : CopySt) : Conn :=
  match side with
  | .client => { c with clientCopy := d }
  | .origin => { c with origCopy := d }

/- `d->rb` -/
def rb : Side → Buffer rawBuffSize
| .client => c.readBuffer
| .origin => c.writeBuffer

/- `d->wb` -/
def wb (side : Side) : Buffer rawBuffSize :=
  c.rb side.other

def setRb
    (side : Side)
    (b : Buffer rawBuffSize) : Conn :=
  match side with
  | .client => { c with readBuffer := b }
  | .origin => { c with writeBuffer := b }

def setWb
    (side : Side)
    (b : Buffer rawBuffSize) : Conn :=
  c.setRb side.other b

/- `copy_ptr` -/
def copyPtr (fd : Fd) : Option Side :=
  if fd = c.originFd then some .origin
  else if fd = c.clientFd then some .client
  else none

end Conn

/- `OP_READ | OP_WRITE`, and one operation less -/
abbrev opReadWrite : Interest := ⟨true, true⟩

def Interest.clearRead (i : Interest) : Interest :=
  { i with read := false }

def Interest.clearWrite (i : Interest) : Interest :=
  { i with write := false }

end Socks5d

------------------------------------------------------------
-- Interests
------------------------------------------------------------

namespace Socks5d

/- The interest that `copy_compute_interests` sets. -/
def Conn.copyInterest
    (c : Conn)
    (side : Side) : Interest where
  read := (c.copySt side).interest.read &&
    (c.rb side).canWrite
  write := (c.copySt side).interest.write &&
    (c.wb side).canRead

/- `copy_compute_interests` -/
def copyComputeInterests
    (side : Side)
    (s : St) : St :=
  let d := s.conn.copySt side
  if d.fd ≠ -1 then
    let set := s.setInterest d.fd (s.conn.copyInterest side)
    if set.2 then set.1 else set.1.crash .abort
  else s

/- The two `copy_st` that `copy_init` stores. -/
def copyStart (c : Conn) : Conn :=
  { c with
    clientCopy :=
      { fd := c.clientFd, interest := opReadWrite }
    origCopy :=
      { fd := c.originFd, interest := opReadWrite } }

/- `copy_init` -/
def copyInit
    (_ : Key)
    (_ : Answers)
    (s : St) : St :=
  copyComputeInterests .client
    (copyComputeInterests .origin
      { s with conn := copyStart s.conn })

end Socks5d

------------------------------------------------------------
-- Reading And Writing
------------------------------------------------------------

namespace Socks5d

/- The counters after a `recv` of `n` bytes. -/
def countRead
    (n : UInt64)
    (m : Metrics) : Metrics :=
  { m with
    averageBytesPerRead :=
      if m.totalReads = 0 then n
      else (m.averageBytesPerRead * m.totalReads + n) /
        (m.totalReads + 1)
    totalReads := m.totalReads + 1
    historicByteTransfer := m.historicByteTransfer + n }

/- The counters after a `send` of `n` bytes. -/
def countWrite
    (n : UInt64)
    (m : Metrics) : Metrics :=
  { m with
    historicByteTransfer := m.historicByteTransfer + n
    averageBytesPerWrite :=
      if m.totalWrites = 0 then n
      else (m.averageBytesPerWrite * m.totalWrites + n) /
        (m.totalWrites + 1)
    totalWrites := m.totalWrites + 1 }

/-
  The end of `copy_read` and `copy_write`: new interests on
  both sides, and `DONE` once this side wants nothing.
-/
def copyFinish
    (side : Side)
    (s : St) : St × Nat :=
  let s := copyComputeInterests side.other
    (copyComputeInterests side s)
  if (s.conn.copySt side).interest = opNoop then
    ({ s with
        srv.metrics.concurrentConnections :=
          s.srv.metrics.concurrentConnections - 1 }, DONE)
  else
    (s, COPY)

/-
  The interest of a side changes, and the one of the other
  side, if that has a descriptor.
-/
def copyShut
    (own theirs : Interest → Interest)
    (side : Side)
    (c : Conn) : Conn :=
  let d := c.copySt side
  let c := c.setCopySt side
    { d with interest := own d.interest }
  let other := c.copySt side.other
  if other.fd ≠ -1 then
    c.setCopySt side.other
      { other with interest := theirs other.interest }
  else c

/-
  `recv` returned 0 or -1: this side is not read any more and
  the other one is not written any more.
-/
def copyShutRead : Side → Conn → Conn :=
  copyShut Interest.clearRead Interest.clearWrite

/-
  `send` returned -1: this side is not written any more and
  the other one is not read any more.
-/
def copyShutWrite : Side → Conn → Conn :=
  copyShut Interest.clearWrite Interest.clearRead

/- The bytes are searched for POP3 credentials. -/
def dissect
    (bytes : List UInt8)
    (s : St) : St :=
  if s.srv.passwordDissectors = 0x00 then
    let found := passwordConsume bytes s.conn.passwordParser
    let user :=
      (s.srv.users.entry s.conn.userIndex).name.getD []
    { s with
      conn.passwordParser := found.1
      conn.log := s.conn.log ++ .consumed bytes ::
        found.2.map (Ev.captured user) }
  else s

/- Events that the search adds. -/
def Ev.ofDissect : Ev → Prop
| .consumed _ => True
| .captured _ _ => True
| _ => False

/- `copy_read` at the end of the stream -/
def copyEnded
    (side : Side)
    (s : St) : St :=
  St.note { s with conn := copyShutRead side s.conn }
    (.eof side (s.conn.rb side).pending)

/- `copy_read` of some bytes -/
def copyGot
    (side : Side)
    (bytes : List UInt8)
    (s : St) : St :=
  let t := dissect bytes (s.note (.recv side bytes))
  { t with
    srv.metrics := countRead
      (UInt64.ofNat bytes.length) t.srv.metrics
    conn := t.conn.setRb side
      ((s.conn.rb side).writeAdv bytes) }

/- `copy_read` -/
def copyRead
    (key : Key)
    (a : Answers)
    (s : St) : St × Nat :=
  match s.conn.copyPtr key.fd with
  | none => (s.crash .exit, COPY)
  | some side =>
      if (s.conn.copySt side).fd ≠ key.fd then
        (s.crash .assertion, COPY)
      else
        let bytes :=
          (a.recv.getD []).take (s.conn.rb side).room
        if bytes = [] then
          copyFinish side (copyEnded side s)
        else
          copyFinish side (copyGot side bytes s)

/- `copy_write` when `send` fails -/
def copySendFailed
    (side : Side)
    (s : St) : St :=
  St.note { s with conn := copyShutWrite side s.conn }
    (.sendError side)

/- `copy_write` of at most `n` bytes -/
def copySent
    (side : Side)
    (n : Nat)
    (s : St) : St :=
  let taken := (s.conn.wb side).pending.take n
  St.note { s with
      srv.metrics := countWrite
        (UInt64.ofNat taken.length) s.srv.metrics
      conn := s.conn.setWb side
        ((s.conn.wb side).readAdv taken.length) }
    (.send side taken)

/- `copy_write` -/
def copyWrite
    (key : Key)
    (a : Answers)
    (s : St) : St × Nat :=
  match s.conn.copyPtr key.fd with
  | none => (s.crash .segv, COPY)
  | some side =>
      if (s.conn.copySt side).fd ≠ key.fd then
        (s.crash .assertion, COPY)
      else
        match a.send with
        | none => copyFinish side (copySendFailed side s)
        | some n => copyFinish side (copySent side n s)

end Socks5d

------------------------------------------------------------
-- The Two Ends Belong Together
------------------------------------------------------------

namespace Socks5d

namespace Conn

variable (c : Conn)

/- The descriptor on a side. -/
def fdOf : Side → Fd
| .client => c.clientFd
| .origin => c.originFd

@[simp] theorem copySt_setCopySt_self
    (side : Side)
    (d : CopySt) :
    (c.setCopySt side d).copySt side = d := by
  cases side <;> rfl

@[simp] theorem copySt_setCopySt_other
    (side : Side)
    (d : CopySt) :
    (c.setCopySt side d).copySt side.other =
      c.copySt side.other := by
  cases side <;> rfl

@[simp] theorem copySt_setCopySt_other'
    (side : Side)
    (d : CopySt) :
    (c.setCopySt side.other d).copySt side =
      c.copySt side := by
  cases side <;> rfl

@[simp] theorem fdOf_setCopySt
    (side at_ : Side)
    (d : CopySt) :
    (c.setCopySt side d).fdOf at_ = c.fdOf at_ := by
  cases side <;> rfl

@[simp] theorem rb_setCopySt
    (side at_ : Side)
    (d : CopySt) :
    (c.setCopySt side d).rb at_ = c.rb at_ := by
  cases side <;> rfl

@[simp] theorem copySt_setRb
    (side at_ : Side)
    (b : Buffer rawBuffSize) :
    (c.setRb side b).copySt at_ = c.copySt at_ := by
  cases side <;> rfl

@[simp] theorem fdOf_setRb
    (side at_ : Side)
    (b : Buffer rawBuffSize) :
    (c.setRb side b).fdOf at_ = c.fdOf at_ := by
  cases side <;> rfl

@[simp] theorem rb_setRb_self
    (side : Side)
    (b : Buffer rawBuffSize) :
    (c.setRb side b).rb side = b := by
  cases side <;> rfl

@[simp] theorem rb_setRb_other
    (side : Side)
    (b : Buffer rawBuffSize) :
    (c.setRb side b).rb side.other = c.rb side.other := by
  cases side <;> rfl

/- `copy_ptr` finds the side of a descriptor. -/
theorem copyPtr_fdOf
    (hNe : c.clientFd ≠ c.originFd)
    (side : Side) :
    c.copyPtr (c.fdOf side) = some side := by
  cases side with
  | client => simp [copyPtr, fdOf, hNe]
  | origin => simp [copyPtr, fdOf]

theorem sideOf_fdOf
    (hNe : c.clientFd ≠ c.originFd)
    (side : Side) :
    c.sideOf (c.fdOf side) = side := by
  cases side with
  | client => simp [sideOf, fdOf, hNe]
  | origin => simp [sideOf, fdOf]

end Conn

@[simp] theorem Side.other_other
    (side : Side) :
    side.other.other = side := by
  cases side <;> rfl

theorem Side.eq_or_eq_other
    (side at_ : Side) :
    at_ = side ∨ at_ = side.other := by
  cases side <;> cases at_ <;> simp [Side.other]

/-
  The two `copy_st` name the descriptors of the connection.
  With an origin, one side is read exactly while the other
  one is written.
-/
structure Copying (c : Conn) : Prop where
  fds : ∀ side, (c.copySt side).fd = c.fdOf side
  coupled : c.originFd ≠ -1 → ∀ side,
    (c.copySt side).interest.read =
      (c.copySt side.other).interest.write

/- Both sides have a descriptor when the origin has one. -/
theorem Conn.fdOf_ne
    {c : Conn}
    (hClient : c.clientFd ≠ -1)
    (hOrigin : c.originFd ≠ -1)
    (side : Side) : c.fdOf side ≠ -1 := by
  cases side with
  | client => exact hClient
  | origin => exact hOrigin

/- Only descriptors and `copy_st` matter. -/
theorem Copying.of_eq
    {c d : Conn}
    (hFd : ∀ side, d.fdOf side = c.fdOf side)
    (hSt : ∀ side, d.copySt side = c.copySt side)
    (h : Copying c) : Copying d where
  fds := by
    intro side
    rw [hSt, hFd]
    exact h.fds side
  coupled := by
    intro hOrigin side
    have hSame : d.originFd = c.originFd := hFd .origin
    rw [hSame] at hOrigin
    rw [hSt, hSt]
    exact h.coupled hOrigin side

section Shut

variable {own theirs : Interest → Interest}
variable (side : Side)
variable (c : Conn)

/- The `copy_st` of both sides after a shutdown. -/
theorem copyShut_self :
    (copyShut own theirs side c).copySt side =
      { c.copySt side with
        interest := own (c.copySt side).interest } := by
  unfold copyShut
  simp only [Conn.copySt_setCopySt_other]
  split
  · rw [Conn.copySt_setCopySt_other',
      Conn.copySt_setCopySt_self]
  · rw [Conn.copySt_setCopySt_self]

theorem copyShut_other
    (hOther : (c.copySt side.other).fd ≠ -1) :
    (copyShut own theirs side c).copySt side.other =
      { c.copySt side.other with
        interest :=
          theirs (c.copySt side.other).interest } := by
  unfold copyShut
  simp only [Conn.copySt_setCopySt_other]
  rw [if_pos hOther, Conn.copySt_setCopySt_self]

theorem copyShut_other_none
    (hOther : (c.copySt side.other).fd = -1) :
    (copyShut own theirs side c).copySt side.other =
      c.copySt side.other := by
  unfold copyShut
  simp only [Conn.copySt_setCopySt_other]
  rw [if_neg (not_not.mpr hOther),
    Conn.copySt_setCopySt_other]

/- A shutdown only touches the two `copy_st`. -/
theorem copyShut_eq
    (own theirs : Interest → Interest) :
    ∃ client origin, copyShut own theirs side c =
      { c with
        clientCopy := client
        origCopy := origin } := by
  unfold copyShut
  simp only []
  split
  · cases side <;> exact ⟨_, _, rfl⟩
  · cases side <;> exact ⟨_, _, rfl⟩

/- What each call of `COPY` but a read of bytes logs. -/
theorem copyEnded_log
    (side : Side)
    (s : St) :
    (copyEnded side s).conn.log =
      s.conn.log ++ [.eof side (s.conn.rb side).pending] := by
  rcases copyShut_eq side s.conn Interest.clearRead
    Interest.clearWrite with ⟨_, _, hEq⟩
  unfold copyEnded copyShutRead
  rw [hEq]
  rfl

theorem copySendFailed_log
    (side : Side)
    (s : St) :
    (copySendFailed side s).conn.log =
      s.conn.log ++ [.sendError side] := by
  rcases copyShut_eq side s.conn Interest.clearWrite
    Interest.clearRead with ⟨_, _, hEq⟩
  unfold copySendFailed copyShutWrite
  rw [hEq]
  rfl

theorem copySent_log
    (side : Side)
    (n : Nat)
    (s : St) :
    (copySent side n s).conn.log =
      s.conn.log ++
        [.send side ((s.conn.wb side).pending.take n)] := by
  cases side with
  | client => rfl
  | origin => rfl

/- The two changes keep reading and writing in step. -/
def Paired (own theirs : Interest → Interest) : Prop :=
  ∀ i j : Interest, i.read = j.write → j.read = i.write →
    (own i).read = (theirs j).write ∧
      (theirs j).read = (own i).write

theorem paired_shutRead :
    Paired Interest.clearRead Interest.clearWrite :=
  fun _ _ _ hOut => ⟨rfl, hOut⟩

theorem paired_shutWrite :
    Paired Interest.clearWrite Interest.clearRead :=
  fun _ _ hIn _ => ⟨hIn, rfl⟩

theorem fdOf_copyShut
    (at_ : Side) :
    (copyShut own theirs side c).fdOf at_ = c.fdOf at_ := by
  rcases copyShut_eq side c own theirs with ⟨_, _, hEq⟩
  rw [hEq]
  cases at_ <;> rfl

variable {side c}

theorem Copying.copyShut
    (hPaired : Paired own theirs)
    (hClient : c.clientFd ≠ -1)
    (h : Copying c) :
    Copying (copyShut own theirs side c) where
  fds := by
    intro at_
    rw [fdOf_copyShut, ← h.fds at_]
    rcases Side.eq_or_eq_other side at_ with hSelf | hOther
    · rw [hSelf, copyShut_self]
    · rw [hOther]
      by_cases hNone : (c.copySt side.other).fd = -1
      · rw [copyShut_other_none side c hNone]
      · rw [copyShut_other side c hNone]
  coupled := by
    intro hOrigin at_
    have hSame : (Socks5d.copyShut own theirs side
        c).originFd = c.originFd := fdOf_copyShut side c
          .origin
    rw [hSame] at hOrigin
    have hNone : (c.copySt side.other).fd ≠ -1 := by
      rw [h.fds]
      exact Conn.fdOf_ne hClient hOrigin _
    have hIn := h.coupled hOrigin side
    have hOut := h.coupled hOrigin side.other
    rw [Side.other_other] at hOut
    have hPair := hPaired _ _ hIn hOut
    rcases Side.eq_or_eq_other side at_ with hSelf | hOther
    · rw [hSelf, copyShut_self, copyShut_other _ _ hNone]
      exact hPair.1
    · rw [hOther, Side.other_other, copyShut_self,
        copyShut_other _ _ hNone]
      exact hPair.2

end Shut

end Socks5d

------------------------------------------------------------
-- What One Call Does
------------------------------------------------------------

namespace Socks5d

/- The slot of a side gets the interest of its `copy_st`. -/
def Conn.settle
    (c : Conn)
    (attached : Attachment)
    (side : Side)
    (sel : Selector) : Selector :=
  if c.fdOf side ≠ -1 then
    sel.put (c.fdOf side) ⟨c.copyInterest side, attached⟩
  else sel

/- Every side that has a descriptor has a slot. -/
def Conn.Slotted
    (c : Conn)
    (attached : Attachment)
    (sel : Selector) : Prop :=
  ∀ side, c.fdOf side ≠ -1 →
    ∃ interest, sel.Has (c.fdOf side) interest attached

section Settling

variable {c : Conn}
variable {sel : Selector}
variable {attached : Attachment}

/- Settling a side keeps the slots of both. -/
theorem Conn.Slotted.settle
    (h : c.Slotted attached sel)
    (side : Side) :
    c.Slotted attached (c.settle attached side sel) := by
  intro at_ hFd
  rcases h at_ hFd with ⟨interest, hHas⟩
  unfold Conn.settle
  split
  · by_cases hEq : c.fdOf at_ = c.fdOf side
    · rw [hEq] at hHas ⊢
      exact ⟨_, Selector.Has.put_self hHas.1 _⟩
    · exact ⟨interest, hHas.put_of_ne _ hEq⟩
  · exact ⟨interest, hHas⟩

theorem Conn.Slotted.settle_has
    (h : c.Slotted attached sel)
    {side : Side}
    (hFd : c.fdOf side ≠ -1) :
    (c.settle attached side sel).Has (c.fdOf side)
      (c.copyInterest side) attached := by
  rcases h side hFd with ⟨_, hHas⟩
  unfold Conn.settle
  rw [if_pos hFd]
  exact Selector.Has.put_self hHas.1 _

/- Settling one side leaves the slot of the other. -/
theorem Conn.settle_keeps
    (hNe : c.clientFd ≠ c.originFd)
    {side : Side}
    {interest : Interest}
    (h : sel.Has (c.fdOf side) interest attached) :
    (c.settle attached side.other sel).Has (c.fdOf side)
      interest attached := by
  have hSides : c.fdOf side ≠ c.fdOf side.other := by
    cases side with
    | client => exact hNe
    | origin => exact Ne.symm hNe
  unfold Conn.settle
  split
  · exact h.put_of_ne _ hSides
  · exact h

end Settling

section Finishing

variable {s : St}
variable {attached : Attachment}

theorem copyComputeInterests_eq
    (hFds : ∀ side,
      (s.conn.copySt side).fd = s.conn.fdOf side)
    (hSlots : s.conn.Slotted attached s.srv.sel)
    (side : Side) :
    copyComputeInterests side s =
      { s with srv.sel :=
          s.conn.settle attached side s.srv.sel } := by
  unfold copyComputeInterests Conn.settle
  simp only [hFds]
  by_cases hFd : s.conn.fdOf side ≠ -1
  · rcases hSlots side hFd with ⟨interest, hHas⟩
    rw [if_pos hFd, if_pos hFd, St.setInterest_of_has hHas]
    rfl
  · rw [if_neg hFd, if_neg hFd]

/- The state once both sides are settled. -/
def settled
    (attached : Attachment)
    (side : Side)
    (s : St) : St :=
  { s with
    srv.sel := s.conn.settle attached side.other
      (s.conn.settle attached side s.srv.sel) }

theorem copyFinish_eq
    (hFds : ∀ side,
      (s.conn.copySt side).fd = s.conn.fdOf side)
    (hSlots : s.conn.Slotted attached s.srv.sel)
    (side : Side) :
    ∃ m, copyFinish side s =
      ({ settled attached side s with srv.metrics := m },
        if (s.conn.copySt side).interest = opNoop then DONE
        else COPY) := by
  have hFirst := copyComputeInterests_eq hFds hSlots side
  have hSecond := copyComputeInterests_eq
    (s := { s with
      srv.sel := s.conn.settle attached side s.srv.sel })
    hFds (hSlots.settle side) side.other
  unfold copyFinish
  simp only [hFirst, hSecond]
  split
  · exact ⟨{ s.srv.metrics with
      concurrentConnections :=
        s.srv.metrics.concurrentConnections - 1 }, rfl⟩
  · exact ⟨s.srv.metrics, rfl⟩

theorem copyStart_fds
    (c : Conn)
    (side : Side) :
    ((copyStart c).copySt side).fd = c.fdOf side := by
  cases side <;> rfl

theorem copyStart_fdOf
    (c : Conn)
    (side : Side) :
    (copyStart c).fdOf side = c.fdOf side := by
  cases side <;> rfl

theorem copyInit_eq
    (hSlots : s.conn.Slotted attached s.srv.sel)
    (key : Key)
    (a : Answers) :
    copyInit key a s =
      settled attached .origin
        { s with conn := copyStart s.conn } := by
  have hFds : ∀ side,
      ((copyStart s.conn).copySt side).fd =
        (copyStart s.conn).fdOf side := by
    intro side
    rw [copyStart_fds, copyStart_fdOf]
  have hSlots' : (copyStart s.conn).Slotted attached
      s.srv.sel := by
    intro side hFd
    rw [copyStart_fdOf] at hFd ⊢
    exact hSlots side hFd
  have hFirst := copyComputeInterests_eq
    (s := { s with conn := copyStart s.conn })
    hFds hSlots' .origin
  have hSecond := copyComputeInterests_eq
    (s := { s with
      conn := copyStart s.conn
      srv.sel := (copyStart s.conn).settle attached .origin
        s.srv.sel })
    hFds (hSlots'.settle .origin) .client
  unfold copyInit
  rw [hFirst, hSecond]
  rfl

end Finishing

section Relaying

variable {s t : St}
variable {side : Side}

/- What `copy_read` or `copy_write` does on a side. -/
inductive Relay
    (side : Side)
    (s : St) : St → Prop where
  | ended :
      Relay side s (copyEnded side s)
  | got
      (bytes : List UInt8)
      (hSome : bytes ≠ [])
      (hRoom : bytes.length ≤ (s.conn.rb side).room) :
      Relay side s (copyGot side bytes s)
  | sendFailed :
      Relay side s (copySendFailed side s)
  | sent
      (n : Nat) :
      Relay side s (copySent side n s)

/- The key of a side reaches the `copy_st` of the side. -/
theorem copyRead_eq
    (hFds : ∀ side,
      (s.conn.copySt side).fd = s.conn.fdOf side)
    (hNe : s.conn.clientFd ≠ s.conn.originFd)
    (side : Side)
    (data : ConnId)
    (a : Answers) :
    ∃ t, copyRead ⟨s.conn.fdOf side, data⟩ a s =
        copyFinish side t ∧
      (t = copyEnded side s ∨
        ∃ bytes, bytes ≠ [] ∧
          bytes.length ≤ (s.conn.rb side).room ∧
          t = copyGot side bytes s) := by
  unfold copyRead
  simp only [Conn.copyPtr_fdOf _ hNe, hFds, ne_eq,
    not_true_eq_false, if_false]
  split
  · exact ⟨_, rfl, Or.inl rfl⟩
  · rename_i hSome
    refine ⟨_, rfl, Or.inr ⟨_, hSome, ?_, rfl⟩⟩
    rw [List.length_take]
    exact Nat.min_le_left _ _

theorem copyWrite_eq
    (hFds : ∀ side,
      (s.conn.copySt side).fd = s.conn.fdOf side)
    (hNe : s.conn.clientFd ≠ s.conn.originFd)
    (side : Side)
    (data : ConnId)
    (a : Answers) :
    ∃ t, copyWrite ⟨s.conn.fdOf side, data⟩ a s =
        copyFinish side t ∧
      (t = copySendFailed side s ∨
        ∃ n, t = copySent side n s) := by
  unfold copyWrite
  simp only [Conn.copyPtr_fdOf _ hNe, hFds, ne_eq,
    not_true_eq_false, if_false]
  cases a.send with
  | none => exact ⟨_, rfl, Or.inl rfl⟩
  | some n => exact ⟨_, rfl, Or.inr ⟨n, rfl⟩⟩

/- Searching for credentials leaves the rest alone. -/
theorem dissect_eq
    (bytes : List UInt8)
    (s : St) :
    ∃ parser found, dissect bytes s =
      { s with
        conn.passwordParser := parser
        conn.log := s.conn.log ++ found } ∧
      ∀ event ∈ found, event.ofDissect := by
  unfold dissect
  split
  · refine ⟨_, _, rfl, ?_⟩
    intro event hEvent
    rcases List.mem_cons.mp hEvent with hFirst | hRest
    · rw [hFirst]
      trivial
    · rcases List.mem_map.mp hRest with ⟨what, _, hEq⟩
      rw [← hEq]
      trivial
  · refine ⟨s.conn.passwordParser, [], ?_, ?_⟩
    · rw [List.append_nil]
    · intro event hEvent
      cases hEvent

/- The state after some bytes have been read. -/
theorem copyGot_eq
    (side : Side)
    (bytes : List UInt8)
    (s : St) :
    ∃ m parser found, copyGot side bytes s =
      { s with
        srv.metrics := m
        conn := { s.conn.setRb side
            ((s.conn.rb side).writeAdv bytes) with
          passwordParser := parser
          log := s.conn.log ++ .recv side bytes :: found } } ∧
      ∀ event ∈ found, event.ofDissect := by
  rcases dissect_eq bytes (s.note (.recv side bytes)) with
    ⟨parser, found, hEq, hFound⟩
  refine ⟨countRead (UInt64.ofNat bytes.length)
    s.srv.metrics, parser, found, ?_, hFound⟩
  unfold copyGot
  rw [hEq]
  cases side <;> simp [Conn.setRb, St.note]

/- A call changes no descriptor and no table. -/
structure Relayed (s t : St) : Prop where
  sel : t.srv.sel = s.srv.sel
  fault : t.srv.fault = s.srv.fault
  service : t.conn.isSocks = s.conn.isSocks
  current : t.conn.current = s.conn.current
  fds : ∀ side, t.conn.fdOf side = s.conn.fdOf side
  copying : t.conn.clientFd ≠ -1 →
    Copying s.conn → Copying t.conn

theorem Relayed.shut
    {own theirs : Interest → Interest}
    (hPaired : Paired own theirs)
    (side : Side)
    (s : St)
    (event : Ev) :
    Relayed s (St.note
      { s with conn := copyShut own theirs side s.conn }
      event) := by
  have hFds : ∀ at_,
      (copyShut own theirs side s.conn).fdOf at_ =
        s.conn.fdOf at_ :=
    fdOf_copyShut side s.conn
  have hClient : (copyShut own theirs side s.conn).clientFd =
      s.conn.clientFd := hFds .client
  refine ⟨rfl, rfl, ?_, ?_, hFds, ?_⟩
  · rcases copyShut_eq side s.conn own theirs with
      ⟨_, _, hEq⟩
    show (copyShut own theirs side s.conn).isSocks = _
    rw [hEq]
  · rcases copyShut_eq side s.conn own theirs with
      ⟨_, _, hEq⟩
    show (copyShut own theirs side s.conn).current = _
    rw [hEq]
  · intro hNe h
    have hFd : s.conn.clientFd ≠ -1 := by
      rw [← hClient]
      exact hNe
    have hShut : Copying
        (copyShut own theirs side s.conn) :=
      h.copyShut hPaired hFd
    exact hShut.of_eq (by intro at_; cases at_ <;> rfl)
      (by intro at_; cases at_ <;> rfl)

theorem Relay.relayed
    (h : Relay side s t) : Relayed s t := by
  cases h with
  | ended => exact .shut paired_shutRead side s _
  | got bytes hSome hRoom =>
      rcases copyGot_eq side bytes s with
        ⟨m, parser, found, hEq, _⟩
      rw [hEq]
      refine ⟨rfl, rfl, ?_, ?_, ?_, ?_⟩
      · cases side <;> rfl
      · cases side <;> rfl
      · intro at_
        cases side <;> cases at_ <;> rfl
      · intro _ hCopying
        refine hCopying.of_eq ?_ ?_
        · intro at_
          cases side <;> cases at_ <;> rfl
        · intro at_
          cases side <;> cases at_ <;> rfl
  | sendFailed => exact .shut paired_shutWrite side s _
  | sent n =>
      refine ⟨rfl, rfl, ?_, ?_, ?_, ?_⟩
      · cases side <;> rfl
      · cases side <;> rfl
      · intro at_
        cases side <;> cases at_ <;> rfl
      · intro _ hCopying
        refine hCopying.of_eq ?_ ?_
        · intro at_
          cases side <;> cases at_ <;> rfl
        · intro at_
          cases side <;> cases at_ <;> rfl

end Relaying

end Socks5d
