import Mathlib.Tactic.Linarith
import Socks5d.Selector

/-
  Who owns which descriptor, and what the operations of the
  selector do to slots and open descriptors.

  Main declarations:
    * `Selector.Has`, `Selector.put`
    * `Selector.Sound`
    * `Selector.Mine`, `Selector.Moves`
-/

------------------------------------------------------------
-- Slots
------------------------------------------------------------

namespace Socks5d

namespace Selector

variable {s t u : Selector}
variable {k : ConnId}
variable {fd other : Fd}

/- A slot is in use, with this interest and attachment. -/
def Has
    (s : Selector)
    (fd : Fd)
    (interest : Interest)
    (attached : Attachment) : Prop :=
  validFd fd = true ∧ s.fds fd = some ⟨interest, attached⟩

/- The selector with one slot filled. -/
def put
    (s : Selector)
    (fd : Fd)
    (item : Item) : Selector :=
  { s with fds := Function.update s.fds fd (some item) }

@[simp] theorem put_opened
    (s : Selector)
    (fd : Fd)
    (item : Item) :
    (s.put fd item).opened = s.opened := rfl

@[simp] theorem put_fds_self
    (s : Selector)
    (fd : Fd)
    (item : Item) :
    (s.put fd item).fds fd = some item := by
  simp [put]

theorem put_fds_of_ne
    (item : Item)
    (h : other ≠ fd) :
    (s.put fd item).fds other = s.fds other := by
  simp [put, h]

/- Filling a slot twice is filling it once. -/
theorem put_put
    (s : Selector)
    (fd : Fd)
    (first second : Item) :
    (s.put fd first).put fd second = s.put fd second := by
  simp [put]

@[simp] theorem clear_opened
    (s : Selector)
    (fd : Fd) :
    (s.clear fd).opened = s.opened := rfl

@[simp] theorem clear_fds_self
    (s : Selector)
    (fd : Fd) :
    (s.clear fd).fds fd = none := by
  simp [clear]

theorem clear_fds_of_ne
    (h : other ≠ fd) :
    (s.clear fd).fds other = s.fds other := by
  simp [clear, h]

@[simp] theorem close_fds
    (s : Selector)
    (fd : Fd) :
    (s.close fd).fds = s.fds := rfl

@[simp] theorem close_opened_self
    (s : Selector)
    (fd : Fd) :
    (s.close fd).opened fd = none := by
  simp [close]

theorem close_opened_of_ne
    (h : other ≠ fd) :
    (s.close fd).opened other = s.opened other := by
  simp [close, h]

@[simp] theorem openFd_fds
    (s : Selector)
    (fd : Fd)
    (holder : Holder) :
    (s.openFd fd holder).fds = s.fds := rfl

@[simp] theorem openFd_opened_self
    (s : Selector)
    (fd : Fd)
    (holder : Holder) :
    (s.openFd fd holder).opened fd = some holder := by
  simp [openFd]

theorem openFd_opened_of_ne
    (holder : Holder)
    (h : other ≠ fd) :
    (s.openFd fd holder).opened other = s.opened other := by
  simp [openFd, h]

namespace Has

variable {interest : Interest}
variable {attached : Attachment}

/- Setting the interest of a slot in use succeeds. -/
theorem setInterest
    (h : s.Has fd interest attached)
    (wanted : Interest) :
    s.setInterest fd wanted =
      (s.put fd ⟨wanted, attached⟩, true) := by
  simp [Selector.setInterest, h.1, h.2, put]

theorem put_self
    (hValid : validFd fd = true)
    (s : Selector) :
    (s.put fd ⟨interest, attached⟩).Has fd interest
      attached :=
  ⟨hValid, put_fds_self s fd _⟩

theorem put_of_ne
    (h : s.Has other interest attached)
    (item : Item)
    (hNe : other ≠ fd) :
    (s.put fd item).Has other interest attached :=
  ⟨h.1, by rw [put_fds_of_ne item hNe]; exact h.2⟩

/- A slot in use is registered. -/
theorem registered
    (h : s.Has fd interest attached) :
    s.registered? fd = some ⟨interest, attached⟩ := by
  simp [registered?, h.1, h.2]

theorem not_canRegister
    (h : s.Has fd interest attached) :
    s.canRegister fd = false := by
  simp [canRegister, h.2]

/- Which slots are free does not depend on interests. -/
theorem canRegister_put
    (h : s.Has fd interest attached)
    (item : Item)
    (other : Fd) :
    (s.put fd item).canRegister other =
      s.canRegister other := by
  by_cases hEq : other = fd
  · rw [hEq, h.not_canRegister]
    simp [canRegister]
  · simp [canRegister, put_fds_of_ne item hEq]

end Has

/- Setting an interest fails or changes one slot. -/
theorem setInterest_cases
    (s : Selector)
    (fd : Fd)
    (wanted : Interest) :
    s.setInterest fd wanted = (s, false) ∨
      ∃ interest attached, s.Has fd interest attached ∧
        s.setInterest fd wanted =
          (s.put fd ⟨wanted, attached⟩, true) := by
  unfold Selector.setInterest
  by_cases hValid : validFd fd = true
  · rw [if_pos hValid]
    cases hItem : s.fds fd with
    | none => exact Or.inl rfl
    | some item =>
        exact Or.inr ⟨item.interest, item.attached,
          ⟨hValid, hItem⟩, rfl⟩
  · rw [if_neg hValid]
    exact Or.inl rfl

/- Registering fails or fills a free slot. -/
theorem register_eq
    (s : Selector)
    (fd : Fd)
    (interest : Interest)
    (attached : Attachment) :
    s.register fd interest attached =
      if s.canRegister fd then
        (s.put fd ⟨interest, attached⟩, true)
      else (s, false) := rfl

theorem canRegister_iff :
    s.canRegister fd = true ↔
      validFd fd = true ∧ s.fds fd = none := by
  simp [canRegister]

/- A descriptor that is granted is not open. -/
theorem grant_eq_some
    {wanted : Option Fd}
    (h : s.grant wanted = some fd) :
    0 ≤ fd ∧ s.opened fd = none := by
  have hFilter := (Option.filter_eq_some_iff.mp h).2
  simpa using hFilter

end Selector

------------------------------------------------------------
-- Sound Tables
------------------------------------------------------------

namespace Selector

variable {s t u : Selector}
variable {k : ConnId}
variable {fd other : Fd}

/-
  Slots are valid, open descriptors are not negative, and a
  slot whose descriptor is closed waits for nothing.
-/
structure Sound (s : Selector) : Prop where
  valid : ∀ fd item, s.fds fd = some item →
    validFd fd = true
  nonneg : ∀ fd holder, s.opened fd = some holder → 0 ≤ fd
  idle : ∀ fd item, s.fds fd = some item →
    s.opened fd = none → item.interest = opNoop

/- No one but connection `k` holds the descriptor. -/
def Mine
    (s : Selector)
    (k : ConnId)
    (fd : Fd) : Prop :=
  ∀ holder, s.opened fd = some holder →
    holder.conn? = some k

/-
  What the handlers of connection `k` may do to the tables:
  what others hold is left alone.
-/
structure Moves
    (k : ConnId)
    (s t : Selector) : Prop where
  frame : ∀ fd holder, s.opened fd = some holder →
    holder.conn? ≠ some k →
      t.opened fd = some holder ∧ t.fds fd = s.fds fd
  foreign : ∀ fd holder, t.opened fd = some holder →
    holder.conn? ≠ some k → s.opened fd = some holder
  sound : s.Sound → t.Sound

namespace Moves

theorem refl
    (k : ConnId)
    (s : Selector) : Moves k s s where
  frame := fun _ _ hOpen _ => ⟨hOpen, rfl⟩
  foreign := fun _ _ hOpen _ => hOpen
  sound := id

theorem trans
    (hFirst : Moves k s t)
    (hSecond : Moves k t u) : Moves k s u where
  frame := by
    intro fd holder hOpen hOther
    have hMid := hFirst.frame fd holder hOpen hOther
    have hEnd := hSecond.frame fd holder hMid.1 hOther
    exact ⟨hEnd.1, hEnd.2.trans hMid.2⟩
  foreign := by
    intro fd holder hOpen hOther
    exact hFirst.foreign fd holder
      (hSecond.foreign fd holder hOpen hOther) hOther
  sound := fun h => hSecond.sound (hFirst.sound h)

/- A foreign descriptor is not one of mine. -/
theorem ne_of_mine
    (hMine : s.Mine k fd)
    {holder : Holder}
    (hOpen : s.opened other = some holder)
    (hOther : holder.conn? ≠ some k) : other ≠ fd := by
  intro hEq
  subst hEq
  exact hOther (hMine holder hOpen)

/- Filling a slot of mine, if it is open or idle. -/
theorem put
    (hMine : s.Mine k fd)
    (hValid : validFd fd = true)
    {item : Item}
    (hOpen : s.opened fd = none →
      item.interest = opNoop) :
    Moves k s (s.put fd item) where
  frame := by
    intro other holder hHeld hOther
    have hNe := ne_of_mine hMine hHeld hOther
    exact ⟨hHeld, put_fds_of_ne item hNe⟩
  foreign := fun _ _ hHeld _ => hHeld
  sound := by
    intro h
    refine ⟨?_, h.nonneg, ?_⟩
    · intro other held hSlot
      by_cases hEq : other = fd
      · rw [hEq]
        exact hValid
      · rw [put_fds_of_ne item hEq] at hSlot
        exact h.valid other held hSlot
    · intro other held hSlot hClosed
      by_cases hEq : other = fd
      · rw [hEq] at hSlot hClosed
        rw [put_fds_self] at hSlot
        rw [← Option.some.inj hSlot]
        exact hOpen hClosed
      · rw [put_fds_of_ne item hEq] at hSlot
        exact h.idle other held hSlot hClosed

theorem clear
    (hMine : s.Mine k fd) :
    Moves k s (s.clear fd) where
  frame := by
    intro other holder hHeld hOther
    have hNe := ne_of_mine hMine hHeld hOther
    exact ⟨hHeld, clear_fds_of_ne hNe⟩
  foreign := fun _ _ hHeld _ => hHeld
  sound := by
    intro h
    refine ⟨?_, h.nonneg, ?_⟩
    · intro other held hSlot
      by_cases hEq : other = fd
      · rw [hEq, clear_fds_self] at hSlot
        cases hSlot
      · rw [clear_fds_of_ne hEq] at hSlot
        exact h.valid other held hSlot
    · intro other held hSlot hClosed
      by_cases hEq : other = fd
      · rw [hEq, clear_fds_self] at hSlot
        cases hSlot
      · rw [clear_fds_of_ne hEq] at hSlot
        exact h.idle other held hSlot hClosed

/- Closing a descriptor of mine that waits for nothing. -/
theorem close
    (hMine : s.Mine k fd)
    (hIdle : ∀ item, s.fds fd = some item →
      item.interest = opNoop) :
    Moves k s (s.close fd) where
  frame := by
    intro other holder hHeld hOther
    have hNe := ne_of_mine hMine hHeld hOther
    rw [close_opened_of_ne hNe]
    exact ⟨hHeld, rfl⟩
  foreign := by
    intro other holder hHeld _
    by_cases hEq : other = fd
    · rw [hEq, close_opened_self] at hHeld
      cases hHeld
    · rwa [close_opened_of_ne hEq] at hHeld
  sound := by
    intro h
    refine ⟨h.valid, ?_, ?_⟩
    · intro other holder hHeld
      by_cases hEq : other = fd
      · rw [hEq, close_opened_self] at hHeld
        cases hHeld
      · rw [close_opened_of_ne hEq] at hHeld
        exact h.nonneg other holder hHeld
    · intro other held hSlot hClosed
      by_cases hEq : other = fd
      · rw [hEq] at hSlot
        exact hIdle held hSlot
      · rw [close_opened_of_ne hEq] at hClosed
        exact h.idle other held hSlot hClosed

/- Opening a descriptor that was not open. -/
theorem openFd
    (hNonneg : 0 ≤ fd)
    (hFree : s.opened fd = none)
    {holder : Holder}
    (hHolder : holder.conn? = some k) :
    Moves k s (s.openFd fd holder) where
  frame := by
    intro other held hHeld hOther
    have hNe : other ≠ fd := by
      intro hEq
      rw [hEq, hFree] at hHeld
      cases hHeld
    rw [openFd_opened_of_ne holder hNe]
    exact ⟨hHeld, rfl⟩
  foreign := by
    intro other held hHeld hOther
    by_cases hEq : other = fd
    · rw [hEq, openFd_opened_self] at hHeld
      rw [← Option.some.inj hHeld] at hOther
      exact absurd hHolder hOther
    · rwa [openFd_opened_of_ne holder hEq] at hHeld
  sound := by
    intro h
    refine ⟨h.valid, ?_, ?_⟩
    · intro other held hHeld
      by_cases hEq : other = fd
      · rw [hEq]
        exact hNonneg
      · rw [openFd_opened_of_ne holder hEq] at hHeld
        exact h.nonneg other held hHeld
    · intro other item hSlot hClosed
      by_cases hEq : other = fd
      · rw [hEq, openFd_opened_self] at hClosed
        cases hClosed
      · rw [openFd_opened_of_ne holder hEq] at hClosed
        exact h.idle other item hSlot hClosed

/- What another connection holds stays as it is. -/
theorem keeps_slot
    (h : Moves k s t)
    {holder : Holder}
    {j : ConnId}
    (hHeld : s.opened fd = some holder)
    (hConn : holder.conn? = some j)
    (hNe : j ≠ k) :
    t.opened fd = some holder ∧ t.fds fd = s.fds fd := by
  apply h.frame fd holder hHeld
  rw [hConn]
  intro hEq
  exact hNe (Option.some.inj hEq)

end Moves

end Selector

end Socks5d
