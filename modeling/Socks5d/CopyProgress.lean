import Socks5d.ServerWiring

/-
  While a connection copies, somebody always waits for the
  next thing to happen in each direction that is open.

  Main declarations:
    * `Conn.DirectionOpen`
    * `CopyProgress`, `Copying.progress`
    * `CopyCall`, `Relay.call`, `copy_calls`
    * `copy_progress`
-/

------------------------------------------------------------
-- Directions
------------------------------------------------------------

namespace Socks5d

/- `select` is asked about the descriptor. -/
def Selector.ArmedRead
    (sel : Selector)
    (fd : Fd) : Prop :=
  ∃ item, sel.registered? fd = some item ∧
    item.interest.read = true

def Selector.ArmedWrite
    (sel : Selector)
    (fd : Fd) : Prop :=
  ∃ item, sel.registered? fd = some item ∧
    item.interest.write = true

/- The side is open for reading, or for writing. -/
def Conn.OpenRead
    (c : Conn)
    (side : Side) : Prop :=
  (c.copySt side).interest.read = true

def Conn.OpenWrite
    (c : Conn)
    (side : Side) : Prop :=
  (c.copySt side).interest.write = true

/- Bytes may still go from one side to the other. -/
def Conn.DirectionOpen
    (c : Conn)
    (source : Side) : Prop :=
  c.OpenRead source ∧ c.OpenWrite source.other

/- What the slots of a copying connection wait for. -/
structure CopyProgress
    (k : ConnId)
    (sel : Selector)
    (c : Conn) : Prop where
  coupled : ∀ side, c.OpenRead side ↔ c.OpenWrite side.other
  registered : ∀ side, ∃ interest,
    sel.Has (c.fdOf side) interest (.socks k)
  reads : ∀ side, sel.ArmedRead (c.fdOf side) ↔
    c.OpenRead side ∧ 0 < (c.rb side).room
  writes : ∀ side, sel.ArmedWrite (c.fdOf side) ↔
    c.OpenWrite side ∧ (c.wb side).pending ≠ []
  served : ∀ source, c.DirectionOpen source →
    sel.ArmedRead (c.fdOf source) ∨
      sel.ArmedWrite (c.fdOf source.other)

section Waiting

variable {k : ConnId}
variable {sel : Selector}
variable {c : Conn}
variable {fd : Fd}
variable {interest : Interest}
variable {attached : Attachment}

theorem Selector.Has.armedRead_iff
    (h : sel.Has fd interest attached) :
    sel.ArmedRead fd ↔ interest.read = true := by
  unfold Selector.ArmedRead
  rw [h.registered]
  constructor
  · rintro ⟨item, hItem, hRead⟩
    rw [← Option.some.inj hItem] at hRead
    exact hRead
  · intro hRead
    exact ⟨_, rfl, hRead⟩

theorem Selector.Has.armedWrite_iff
    (h : sel.Has fd interest attached) :
    sel.ArmedWrite fd ↔ interest.write = true := by
  unfold Selector.ArmedWrite
  rw [h.registered]
  constructor
  · rintro ⟨item, hItem, hWrite⟩
    rw [← Option.some.inj hItem] at hWrite
    exact hWrite
  · intro hWrite
    exact ⟨_, rfl, hWrite⟩

/- With an origin, the two sides follow each other. -/
theorem Copying.open_iff
    (h : Copying c)
    (hOrigin : c.originFd ≠ -1)
    (side : Side) :
    c.OpenRead side ↔ c.OpenWrite side.other := by
  unfold Conn.OpenRead Conn.OpenWrite
  rw [h.coupled hOrigin side]

/-
  Slots with the computed interests wait for the right
  things: a buffer is never both full and empty.
-/
theorem Copying.progress
    (h : Copying c)
    (hOrigin : c.originFd ≠ -1)
    (hSlots : ∀ side, sel.Has (c.fdOf side)
      (c.copyInterest side) (.socks k)) :
    CopyProgress k sel c := by
  have hReads : ∀ side, sel.ArmedRead (c.fdOf side) ↔
      c.OpenRead side ∧ 0 < (c.rb side).room := by
    intro side
    rw [(hSlots side).armedRead_iff]
    unfold Conn.copyInterest Conn.OpenRead
    rw [Bool.and_eq_true, Buffer.canWrite_eq_true_iff]
  have hWrites : ∀ side, sel.ArmedWrite (c.fdOf side) ↔
      c.OpenWrite side ∧ (c.wb side).pending ≠ [] := by
    intro side
    rw [(hSlots side).armedWrite_iff]
    unfold Conn.copyInterest Conn.OpenWrite
    rw [Bool.and_eq_true, Buffer.canRead_eq_true_iff]
  refine ⟨h.open_iff hOrigin, fun side => ⟨_, hSlots side⟩,
    hReads, hWrites, ?_⟩
  rintro source ⟨hRead, hWrite⟩
  -- the sink writes from the buffer that the source fills
  have hShared : c.wb source.other = c.rb source := by
    unfold Conn.wb
    rw [Side.other_other]
  rcases (c.rb source).not_full_and_empty (by decide) with
    hRoom | hLeft
  · left
    apply (hReads source).mpr
    exact ⟨hRead, (Buffer.canWrite_eq_true_iff _).mp hRoom⟩
  · right
    apply (hWrites source.other).mpr
    refine ⟨hWrite, ?_⟩
    rw [hShared]
    exact (Buffer.canRead_eq_true_iff _).mp hLeft

end Waiting

end Socks5d

------------------------------------------------------------
-- Calls
------------------------------------------------------------

namespace Socks5d

/-
  What a call of `copy_read` or `copy_write` returns, and the
  direction that it leaves as it is.
-/
structure CopyCall
    (c : Conn)
    (kept : Side)
    (r : St × Nat) : Prop where
  done : r.2 = DONE ↔
    ∀ source, ¬ r.1.conn.DirectionOpen source
  going : r.2 = DONE ∨ r.2 = COPY
  kept : r.1.conn.DirectionOpen kept ↔ c.DirectionOpen kept

section Calls

variable {k : ConnId}
variable {s t : St}
variable {side : Side}

/- One side wants nothing once both directions are closed. -/
theorem Copying.idle_iff
    {c : Conn}
    (h : Copying c)
    (hOrigin : c.originFd ≠ -1)
    (side : Side) :
    (c.copySt side).interest = opNoop ↔
      ∀ source, ¬ c.DirectionOpen source := by
  have hIn := h.open_iff hOrigin side
  have hOut := h.open_iff hOrigin side.other
  rw [Side.other_other] at hOut
  constructor
  · intro hIdle source hOpen
    have hRead : ¬ c.OpenRead side := by
      unfold Conn.OpenRead
      rw [hIdle]
      decide
    have hWrite : ¬ c.OpenWrite side := by
      unfold Conn.OpenWrite
      rw [hIdle]
      decide
    rcases Side.eq_or_eq_other side source with hSelf | hOther
    · rw [hSelf] at hOpen
      exact hRead hOpen.1
    · rw [hOther] at hOpen
      exact hWrite (hOut.mp hOpen.1)
  · intro hClosed
    have hRead : ¬ c.OpenRead side := fun hRead =>
      hClosed side ⟨hRead, hIn.mp hRead⟩
    have hWrite : ¬ c.OpenWrite side := by
      intro hWrite
      apply hClosed side.other
      refine ⟨hOut.mpr hWrite, ?_⟩
      rw [Side.other_other]
      exact hWrite
    unfold Conn.OpenRead at hRead
    unfold Conn.OpenWrite at hWrite
    exact congrArg₂ Interest.mk
      (Bool.not_eq_true _ ▸ hRead) (Bool.not_eq_true _ ▸ hWrite)

/- A shutdown for reading spares the other direction. -/
theorem copyShutRead_keeps
    (side : Side)
    (c : Conn) :
    (copyShutRead side c).DirectionOpen side.other ↔
      c.DirectionOpen side.other := by
  unfold Conn.DirectionOpen Conn.OpenRead Conn.OpenWrite
    copyShutRead
  rw [Side.other_other, copyShut_self]
  by_cases hOther : (c.copySt side.other).fd = -1
  · rw [copyShut_other_none side c hOther]
    exact Iff.rfl
  · rw [copyShut_other side c hOther]
    exact Iff.rfl

/- So does a shutdown for writing. -/
theorem copyShutWrite_keeps
    (side : Side)
    (c : Conn) :
    (copyShutWrite side c).DirectionOpen side ↔
      c.DirectionOpen side := by
  unfold Conn.DirectionOpen Conn.OpenRead Conn.OpenWrite
    copyShutWrite
  rw [copyShut_self]
  by_cases hOther : (c.copySt side.other).fd = -1
  · rw [copyShut_other_none side c hOther]
    exact Iff.rfl
  · rw [copyShut_other side c hOther]
    exact Iff.rfl

/- The result of a call follows from what it has relayed. -/
theorem Relay.call
    (h : Relay side s t)
    (hSound : s.srv.sel.Sound)
    (hOwns : Owns k s.srv.sel s.conn)
    (hCopy : Copying s.conn)
    (hSlots : ∀ side, s.conn.fdOf side ≠ -1 →
      s.srv.sel.Has (s.conn.fdOf side)
        (s.conn.copyInterest side) (.socks k))
    (hOrigin : s.conn.originFd ≠ -1)
    (kept : Side)
    (hKept : t.conn.DirectionOpen kept ↔
      s.conn.DirectionOpen kept) :
    CopyCall s.conn kept (copyFinish side t) := by
  have hReady := h.ready hSound hOwns hCopy hSlots
  have hOrigin' : t.conn.originFd ≠ -1 := by
    rw [show t.conn.originFd = s.conn.originFd from
      h.relayed.fds .origin]
    exact hOrigin
  have hIdle := hReady.1.idle_iff hOrigin' side
  rcases copyFinish_eq hReady.1.fds hReady.2 side with
    ⟨m, hEq⟩
  rw [hEq]
  refine ⟨?_, ?_, hKept⟩
  · show (if _ then DONE else COPY) = DONE ↔
      ∀ source, ¬ t.conn.DirectionOpen source
    rw [← hIdle]
    by_cases hNone : (t.conn.copySt side).interest = opNoop
    · rw [if_pos hNone]
      exact ⟨fun _ => hNone, fun _ => rfl⟩
    · rw [if_neg hNone]
      exact ⟨fun hBad => absurd hBad (by decide),
        fun hBad => absurd hBad hNone⟩
  · show (if _ then DONE else COPY) = DONE ∨
      (if _ then DONE else COPY) = COPY
    by_cases hNone : (t.conn.copySt side).interest = opNoop
    · rw [if_pos hNone]
      exact Or.inl rfl
    · rw [if_neg hNone]
      exact Or.inr rfl

/- `copy_read` of a side, and `copy_write` of a side. -/
theorem copy_calls
    (hSound : s.srv.sel.Sound)
    (hOwns : Owns k s.srv.sel s.conn)
    (hCopy : Copying s.conn)
    (hSlots : ∀ side, s.conn.fdOf side ≠ -1 →
      s.srv.sel.Has (s.conn.fdOf side)
        (s.conn.copyInterest side) (.socks k))
    (hOrigin : s.conn.originFd ≠ -1)
    (side : Side)
    (a : Answers) :
    CopyCall s.conn side.other
        (copyRead ⟨s.conn.fdOf side, k⟩ a s) ∧
      CopyCall s.conn side
        (copyWrite ⟨s.conn.fdOf side, k⟩ a s) := by
  have hNe := hOwns.ne hSound
  have hFd := hCopy.fds
  constructor
  · rcases copyRead_eq hFd hNe side k a with
      ⟨t, hEq, hEnded | ⟨bytes, hSome, hRoom, hGot⟩⟩
    · rw [hEq, hEnded]
      exact Relay.ended.call hSound hOwns hCopy hSlots
        hOrigin _ (copyShutRead_keeps side s.conn)
    · rw [hEq, hGot]
      refine (Relay.got bytes hSome hRoom).call hSound hOwns
        hCopy hSlots hOrigin _ ?_
      rcases copyGot_eq side bytes s with
        ⟨m, parser, found, hGotEq, _⟩
      rw [hGotEq]
      cases side <;> exact Iff.rfl
  · rcases copyWrite_eq hFd hNe side k a with
      ⟨t, hEq, hFailed | ⟨n, hSent⟩⟩
    · rw [hEq, hFailed]
      exact Relay.sendFailed.call hSound hOwns hCopy hSlots
        hOrigin _ (copyShutWrite_keeps side s.conn)
    · rw [hEq, hSent]
      refine (Relay.sent n).call hSound hOwns hCopy hSlots
        hOrigin _ ?_
      cases side <;> exact Iff.rfl

end Calls

end Socks5d

------------------------------------------------------------
-- Whole Runs
------------------------------------------------------------

namespace Socks5d

section Runs

variable {w : World}
variable {k : ConnId}

/- The shape of a connection that copies. -/
theorem Inv.copying
    (h : Inv w)
    (hAccepted : k < w.next)
    (hSocks : (w.conn k).isSocks = true)
    (hState : (w.conn k).current = some COPY) :
    Owns k w.srv.sel (w.conn k) ∧ Copying (w.conn k) ∧
      ∀ side, (w.conn k).fdOf side ≠ -1 →
        w.srv.sel.Has ((w.conn k).fdOf side)
          ((w.conn k).copyInterest side) (.socks k) := by
  have hLive : w.Live k := ⟨hAccepted,
    not_closed_of_le hSocks hState (Nat.le_refl _)⟩
  have hWired := h.wired k hLive
  refine ⟨hWired.owns, ?_⟩
  cases hWired.socks hSocks with
  | copy _ hCopy hSlots hGoing => exact ⟨hCopy, hSlots⟩
  | fresh hOther
  | helloRead hOther
  | helloWrite hOther
  | userpassRead hOther
  | userpassWrite hOther
  | requestRead hOther
  | requestStarved hOther
  | resolving hOther
  | connecting hOther
  | connectFailed hOther
  | connectedAtOnce hOther
  | requestWrite hOther =>
      exact absurd (hOther.symm.trans hState) (by decide)

/-
  In every reachable state of a connection that copies with
  an origin, and for every call that can come next.
-/
theorem copy_progress
    (hReach : server.Reachable w)
    (hAccepted : k < w.next)
    (hSocks : (w.conn k).isSocks = true)
    (hState : (w.conn k).current = some COPY)
    (hOrigin : (w.conn k).originFd ≠ -1) :
    CopyProgress k w.srv.sel (w.conn k) ∧
      ∀ side a,
        CopyCall (w.conn k) side.other
            (copyRead ⟨(w.conn k).fdOf side, k⟩ a
              (w.view k)) ∧
          CopyCall (w.conn k) side
            (copyWrite ⟨(w.conn k).fdOf side, k⟩ a
              (w.view k)) := by
  have hInv := reachable_inv hReach
  rcases hInv.copying hAccepted hSocks hState with
    ⟨hOwns, hCopy, hSlots⟩
  constructor
  · apply hCopy.progress hOrigin
    intro side
    apply hSlots side
    exact Conn.fdOf_ne (hOwns.client_ne hInv.sound) hOrigin
      side
  · intro side a
    exact copy_calls (s := w.view k) hInv.sound hOwns hCopy
      hSlots hOrigin side a

end Runs

theorem copyWorld_progress :
    CopyProgress 0 copyWorld.srv.sel (copyWorld.conn 0) ∧
      ∀ side a,
        CopyCall (copyWorld.conn 0) side.other
            (copyRead ⟨(copyWorld.conn 0).fdOf side, 0⟩ a
              (copyWorld.view 0)) ∧
          CopyCall (copyWorld.conn 0) side
            (copyWrite ⟨(copyWorld.conn 0).fdOf side, 0⟩ a
              (copyWorld.view 0)) :=
  copy_progress copyWorld_reachable (by decide +kernel)
    (by decide +kernel) (by decide +kernel)
    (by decide +kernel)

end Socks5d
