import Socks5d.ConnRuns
import Socks5d.Steady

/-
  One iteration of the selector: the handlers that run for the
  descriptors that `select` has reported, while the handlers
  before them close, open and register others.

  Main declarations:
    * `Ready`, `Reported`, `Handling`
    * `iterationTurn`, `handleIteration`
    * `SocksEvent.originFd`, `Dispatch.opens`
    * `Handling.Owned`, `Untouched`, `Upto`
    * `iteration_owner`
-/

------------------------------------------------------------
-- The Loop
------------------------------------------------------------

namespace Socks5d

/- `slave_r` and `slave_w` after `select` -/
structure Ready where
  read : Fd → Bool
  write : Fd → Bool

/- `select` reports only what the interests ask for. -/
structure Reported
    (w : World)
    (ready : Ready) : Prop where
  read : ∀ fd, ready.read fd = true →
    ∃ item, w.srv.sel.fds fd = some item ∧
      item.interest.read = true
  write : ∀ fd, ready.write fd = true →
    ∃ item, w.srv.sel.fds fd = some item ∧
      item.interest.write = true

/- One call of a handler, and for whom it was made. -/
structure Handling where
  fd : Fd
  write : Bool
  data : Option ConnId
deriving DecidableEq

/- `items_max_fd`: the largest registered descriptor -/
def Selector.maxFd (s : Selector) : Nat :=
  ((List.range 1024).filter fun fd : Nat =>
    (s.fds fd).isSome).getLast?.getD 0

/- The handler of an item with the data of the key. -/
def Attachment.under
    (handler key : Attachment) : Attachment :=
  match handler, key.data? with
  | .socks _, some data => .socks data
  | .mng _, some data => .mng data
  | other, _ => other

/- The write half of a turn: the item is looked at again. -/
def iterationWrite
    (ready : Ready)
    (fd : Fd)
    (key : Attachment)
    (a : Answers)
    (w : World) : World × List Handling :=
  match w.srv.sel.fds fd with
  | none => (w, [])
  | some item =>
      if w.srv.fault = none ∧ ready.write fd = true ∧
          item.interest.write = true then
        (handleWrite fd (item.attached.under key) a w,
          [⟨fd, true, key.data?⟩])
      else (w, [])

/- The read half of a turn. -/
def iterationRead
    (ready : Ready)
    (fd : Fd)
    (item : Item)
    (a : Answers)
    (w : World) : World × List Handling :=
  if w.srv.fault = none ∧ ready.read fd = true ∧
      item.interest.read = true then
    (handleRead fd item.attached a w,
      [⟨fd, false, item.attached.data?⟩])
  else (w, [])

/- The body of the loop of `handle_iteration`. -/
def iterationTurn
    (ready : Ready)
    (fd : Fd)
    (a : Answers × Answers)
    (w : World) : World × List Handling :=
  match w.srv.sel.fds fd with
  | none => (w, [])
  | some item =>
      let first := iterationRead ready fd item a.1 w
      let second := iterationWrite ready fd item.attached
        a.2 first.1
      (second.1, first.2 ++ second.2)

/- The turns from descriptor `fd` on. -/
def iterationFrom
    (ready : Ready)
    (a : Nat → Answers × Answers) :
    Nat → Nat → World → World × List Handling
| _, 0, w => (w, [])
| fd, turns + 1, w =>
    let turn := iterationTurn ready fd (a fd) w
    let rest := iterationFrom ready a (fd + 1) turns turn.1
    (rest.1, turn.2 ++ rest.2)

/-
  `handle_iteration`, with the answers that the read and the
  write handler of each descriptor would get.
-/
def handleIteration
    (ready : Ready)
    (a : Nat → Answers × Answers)
    (w : World) : World × List Handling :=
  iterationFrom ready a 0 (w.srv.sel.maxFd + 1) w

end Socks5d

------------------------------------------------------------
-- Which Descriptors An Event Opens
------------------------------------------------------------

namespace Socks5d

/- The origin is kept, given up, or the socket just made. -/
def OriginMoves
    (a : Answers)
    (c d : Conn) : Prop :=
  d.originFd = c.originFd ∨ d.originFd = -1 ∨
    a.socket = some d.originFd

section Origins

variable {k : ConnId}
variable {key : Key}
variable {a : Answers}
variable {s t u : St}
variable {attached : Attachment}

theorem answeredWith_originFd
    (s : St)
    (attached : Attachment)
    (status : SocksReplyStatus) :
    (answeredWith s attached status).conn.originFd =
      s.conn.originFd := by
  rw [answeredWith_conn]
  rcases replied_eq s status with ⟨_, _, hEq, _⟩
  rw [hEq]

/- `connection` keeps the socket or gives it up. -/
theorem Connection.originFd
    {result : St × SocksReplyStatus}
    (h : Connection key a s attached result) :
    result.1.conn.originFd = s.conn.originFd ∨
      result.1.conn.originFd = -1 := by
  cases h with
  | refused errno hAnswer =>
      left
      rw [refusedWith_originFd]
      rfl
  | underway hAnswer hFree => exact Or.inl rfl
  | blocked hAnswer hTaken => exact Or.inr rfl
  | atOnce hAnswer hFree => exact Or.inl rfl
  | atOnceBlocked hAnswer hTaken =>
      left
      rw [refusedWith_originFd]
      rfl

theorem ConnectingWrite.originFd
    {r : St × Nat}
    (h : ConnectingWrite key a s attached r) :
    r.1.conn.originFd = s.conn.originFd ∨
      r.1.conn.originFd = -1 := by
  have hAimed : ∀ next rest (t : St),
      (aimNext next rest t).conn.originFd =
        t.conn.originFd := by
    intro next rest t
    rcases aimNext_eq next rest t with ⟨addr, hEq⟩
    rw [hEq]
  cases h with
  | nextAfterFailure next rest hStatus hNext result hResult =>
      rw [← hAimed next rest s]
      exact hResult.originFd
  | gaveUp hStatus hNone =>
      right
      rw [answeredWith_originFd]
      rfl
  | noAnswer hStatus hError =>
      left
      rw [answeredWith_originFd]
      rfl
  | established hStatus hError hRoom =>
      left
      rcases replied_eq (Socks5d.established (s.note (.soError
          (some none) (nextAddresses s).length))) .succeeded
        with ⟨_, _, hEq, _⟩
      show (replied _ _).conn.originFd = _
      rw [hEq]
      rfl
  | full hStatus hError hRoom => exact Or.inl rfl
  | nextAfterError errno next rest hStatus hError hNext
      result hResult =>
      have hBoth := hResult.originFd
      rw [hAimed] at hBoth
      exact hBoth
  | failed errno hStatus hError hNone =>
      left
      rw [answeredWith_originFd]
      rfl

theorem ConnectingInit.originFd
    (h : ConnectingInit key a s attached u) :
    OriginMoves a s.conn u.conn := by
  have hGranted : ∀ fd, s.srv.sel.grant a.socket = some fd →
      a.socket = some fd := by
    intro fd hGrant
    unfold Selector.grant at hGrant
    exact (Option.filter_eq_some_iff.mp hGrant).1
  cases h with
  | noSocket hNone =>
      right
      left
      rw [refusedWith_originFd]
  | notSet fd hSome hNio =>
      right
      right
      rw [refusedWith_originFd]
      exact hGranted fd hSome
  | connected fd hSome hNio result hResult =>
      right
      rcases hResult.originFd with hSame | hNone
      · right
        rw [show ({ result.1 with
          conn.connStatus := result.2 } : St).conn.originFd =
            fd from hSame]
        exact hGranted fd hSome
      · exact Or.inl hNone

theorem RequestProcess.originFd
    {request : Request}
    {r : St × Nat}
    (h : RequestProcess key a request s attached r) :
    r.1.conn.originFd = s.conn.originFd := by
  have hReplied : ∀ (t : St) status,
      (replied t status).conn.originFd =
        t.conn.originFd := by
    intro t status
    rcases replied_eq t status with ⟨_, _, hEq, _⟩
    rw [hEq]
  cases h with
  | refused status addrFamily hRequest => exact hReplied _ _
  | direct addrFamily domain len hType => rfl
  | noMemory hAlloc => exact hReplied _ _
  | noThread hThread => exact hReplied _ _
  | resolving hType hThread => rfl
  | waiting hType hThread => rfl

theorem RequestResolvDone.originFd
    {r : St × Nat}
    (h : RequestResolvDone key s attached r) :
    r.1.conn.originFd = s.conn.originFd := by
  cases h with
  | failed hList =>
      rcases replied_eq
        { s.note (.resolved s.conn.originResolution) with
          conn.connStatus := .generalSocksServerFailure
          conn.request.status := .generalSocksServerFailure }
        .generalSocksServerFailure with ⟨_, _, hEq, _⟩
      show (replied _ _).conn.originFd = _
      rw [hEq]
      rfl
  | first address rest hList =>
      rcases takeAddress_eq address
          { s.note (.resolved s.conn.originResolution) with
            conn.resolutionCurrent := address :: rest }
        with ⟨_, _, _, hEq⟩
      rw [hEq]
      rfl

theorem RequestInit.originFd
    (h : RequestInit key attached s t) :
    t.conn.originFd = s.conn.originFd := by
  cases h with
  | ready => rfl
  | starved => rfl

theorem RequestWrite.originFd
    {r : St × Nat}
    (h : RequestWrite key a s attached r) :
    r.1.conn.originFd = s.conn.originFd := by
  cases h
  all_goals rfl

/- A call keeps the origin, or gives it up. -/
theorem SocksTurn.originFd
    {r : St × Nat}
    (h : SocksTurn k key a s r)
    (hSound : s.srv.sel.Sound)
    (hOwns : Owns k s.srv.sel s.conn) :
    r.1.conn.originFd = s.conn.originFd ∨
      r.1.conn.originFd = -1 := by
  cases h with
  | helloRead _ _ _ _ _ _ hCall =>
      left
      cases hCall <;> rfl
  | helloWrite _ _ _ _ _ _ hCall =>
      left
      cases hCall <;> rfl
  | authRead _ _ _ _ _ hCall => exact Or.inl hCall.stays.origin
  | authWrite _ _ _ _ _ hCall => exact Or.inl hCall.stays.origin
  | requestRead _ _ _ _ _ p _ _ hCall =>
      left
      cases hCall with
      | ended hBytes => rfl
      | more bytes hBytes hSome hGoing => rfl
      | processed bytes hBytes hSome hDone _ hResult =>
          exact hResult.originFd
  | requestResolvDone _ _ _ _ p _ _ hCall =>
      exact Or.inl hCall.originFd
  | connectingWrite hState _ _ hKey hClient hFd _ hCall =>
      exact hCall.originFd
  | requestWrite _ _ _ _ _ hCall => exact Or.inl hCall.originFd
  | relay hState hCopy hSlots side hSide hFd t hRelay =>
      left
      have hReady := hRelay.ready hSound hOwns hCopy hSlots
      rw [copyFinish_conn hReady.1.fds hReady.2]
      exact hRelay.relayed.fds .origin

/- Only the entry of REQUEST_CONNECTING makes a socket. -/
theorem SocksJump.originFd
    {next : Nat}
    (h : SocksJump k key a s next u) :
    OriginMoves a s.conn u.conn := by
  cases h with
  | stay _ hState hNext => exact Or.inl rfl
  | plain next hNext hState parser hParser => exact Or.inl rfl
  | userpassRead hState =>
      left
      unfold authReadInit
      split
      · rfl
      · rfl
  | requestRead hState _ hInit => exact Or.inl hInit.originFd
  | connecting hState parser _ hInit => exact hInit.originFd
  | copy hState => exact Or.inl rfl

theorem OriginMoves.after
    {c d e : Conn}
    (h : OriginMoves a d e)
    (hBefore : d.originFd = c.originFd ∨ d.originFd = -1) :
    OriginMoves a c e := by
  rcases h with hSame | hNone | hNew
  · rcases hBefore with hKept | hGone
    · exact Or.inl (hSame.trans hKept)
    · exact Or.inr (Or.inl (hSame.trans hGone))
  · exact Or.inr (Or.inl hNone)
  · exact Or.inr (Or.inr hNew)

theorem SocksEvent.originFd
    (h : SocksEvent k key a s u)
    (hSound : s.srv.sel.Sound)
    (hOwns : Owns k s.srv.sel s.conn) :
    OriginMoves a s.conn u.conn := by
  cases h with
  | going r _ hTurn hJump hNext =>
      exact hJump.originFd.after (hTurn.originFd hSound hOwns)
  | ends r t hTurn hJump hNext =>
      rw [socksv5Done_conn]
      exact hJump.originFd.after (hTurn.originFd hSound hOwns)
  | stuck hWhy => exact Or.inl rfl

theorem MngEvent.originFd
    (h : MngEvent k key a s u) :
    u.conn.originFd = s.conn.originFd := by
  cases h with
  | going r _ hTurn hJump hNext =>
      exact hJump.originFd.trans hTurn.originFd
  | ends r t hTurn hJump hNext =>
      rw [mngDone_conn]
      exact hJump.originFd.trans hTurn.originFd

end Origins

section Opened

variable {w w' : World}
variable {k : ConnId}
variable {fd g : Fd}
variable {a : Answers}
variable {t : St}
variable {holder : Holder}

/- A descriptor that stays open stays with its holder. -/
theorem Selector.Moves.held
    {sel sel' : Selector}
    {before : Holder}
    (h : sel.Moves k sel')
    (hBefore : sel.opened g = some before)
    (hOpen : sel'.opened g = some holder) :
    before.conn? = holder.conn? := by
  by_cases hMine : before.conn? = some k
  · by_cases hStill : holder.conn? = some k
    · exact hMine.trans hStill.symm
    · have hOld := h.foreign g holder hOpen hStill
      rw [Option.some.inj (hBefore.symm.trans hOld)]
  · have hSame := (h.frame g before hBefore hMine).1
    rw [Option.some.inj (hSame.symm.trans hOpen)]

/- The descriptor was open, and for the same one. -/
def World.HeldAs
    (w : World)
    (g : Fd)
    (holder : Holder) : Prop :=
  ∃ before, w.srv.sel.opened g = some before ∧
    before.conn? = holder.conn?

/- The descriptor is what `socket` or `accept` returns. -/
def Answers.Opens
    (a : Answers)
    (g : Fd) : Prop :=
  a.socket = some g ∨ a.accept = some g

/- What an event of a connection opens is its new socket. -/
theorem Aftermath.opens
    (h : Aftermath k (w.view k) t)
    (hInv : Inv w)
    (hLive : w.Live k)
    (hOrigin : OriginMoves a (w.conn k) t.conn)
    (hBefore : w.srv.sel.opened g = none)
    (hOpen : t.srv.sel.opened g = some holder) :
    a.Opens g := by
  have hWired := hInv.wired k hLive
  rcases h.tables hLive.2 hWired with ⟨hMoves, _⟩
  have hMine : holder.conn? = some k := by
    by_contra hNot
    have hOld := hMoves.foreign g holder hOpen hNot
    exact nomatch hBefore.symm.trans hOld
  have hNonneg := (hMoves.sound hInv.sound).nonneg g holder
    hOpen
  have hReal : g ≠ -1 := by
    intro hEq
    rw [hEq] at hNonneg
    exact absurd hNonneg (by decide)
  cases h with
  | going hKept hGoing hAfter =>
      rcases hAfter.owns.only g holder hOpen hMine with
        hClient | hSocket
      · rw [hClient, hKept.client] at hBefore
        exact nomatch hBefore.symm.trans hWired.owns.client
      · rcases hOrigin with hSame | hNone | hNew
        · rw [hSame] at hSocket
          rcases hWired.owns.origin with hOld | ⟨_, hOld⟩
          · exact absurd (hSocket.trans hOld) hReal
          · rw [hSocket] at hBefore
            exact nomatch hBefore.symm.trans hOld
        · exact absurd (hSocket.trans hNone) hReal
        · left
          rw [hSocket]
          exact hNew
  | ends hReleased hClosed =>
      exact absurd hMine (hReleased.none g holder hOpen)
  | stuck hEq =>
      rw [hEq] at hOpen
      exact nomatch hBefore.symm.trans hOpen

/- The same for whatever a handler does. -/
theorem Dispatch.opens
    (h : Dispatch w fd a w')
    (hInv : Inv w)
    (hBefore : w.srv.sel.opened g = none)
    (hOpen : w'.srv.sel.opened g = some holder) :
    a.Opens g := by
  cases h with
  | accept isSocks =>
      rcases passiveAccept_cases isSocks a w with hSame |
        ⟨client, _, _, _, hAnswer, hEq⟩
      · rw [hSame] at hOpen
        exact nomatch hBefore.symm.trans hOpen
      · rw [hEq] at hOpen
        by_cases hFd : g = client
        · right
          rw [hFd]
          exact hAnswer
        · have hKept := Selector.openFd_opened_of_ne
            (s := w.srv.sel) (.client w.next) hFd
          exact nomatch (hKept.trans hBefore).symm.trans hOpen
  | socks k interest t hLive hSocks hKey hArmed hEvent
      hAfter =>
      rcases hInv.first hLive clientStatbl rfl ⟨fd, k⟩ a with
        ⟨_, hSound, hOwns⟩
      have hOrigin := hEvent.originFd hSound hOwns
      have hFirst := (first_srv clientStatbl rfl ⟨fd, k⟩ a
        (w.view k)).2.2.1
      unfold OriginMoves at hOrigin
      rw [hFirst] at hOrigin
      exact hAfter.opens hInv hLive hOrigin hBefore hOpen
  | mng k t hLive hMng hEvent hAfter =>
      have hFirst := (first_srv clientMng rfl ⟨fd, k⟩ a
        (w.view k)).2.2.1
      have hOrigin : OriginMoves a (w.conn k) t.conn :=
        Or.inl (hEvent.originFd.trans hFirst)
      exact hAfter.opens hInv hLive hOrigin hBefore hOpen

theorem Dispatch.held
    {before : Holder}
    (h : Dispatch w fd a w')
    (hInv : Inv w)
    (hBefore : w.srv.sel.opened g = some before)
    (hOpen : w'.srv.sel.opened g = some holder) :
    before.conn? = holder.conn? := by
  cases h with
  | accept isSocks =>
      rcases passiveAccept_cases isSocks a w with hSame |
        ⟨client, hNonneg, hFree, hRoom, _, hEq⟩
      · rw [hSame] at hOpen
        rw [Option.some.inj (hBefore.symm.trans hOpen)]
      · rw [hEq] at hOpen
        exact (accept_moves isSocks hNonneg hFree hRoom).held
          hBefore hOpen
  | socks k interest t hLive hSocks hKey hArmed hEvent
      hAfter =>
      exact (hAfter.tables hLive.2
        (hInv.wired k hLive)).1.held hBefore hOpen
  | mng k t hLive hMng hEvent hAfter =>
      exact (hAfter.tables hLive.2
        (hInv.wired k hLive)).1.held hBefore hOpen

theorem Dispatch.inv
    (h : Dispatch w fd a w')
    (hInv : Inv w) : Inv w' := by
  rcases h.micro with hSame | hMicro
  · rw [hSame]
    exact hInv
  · exact hMicro.inv hInv

/- An armed slot is of whoever holds the descriptor. -/
theorem Inv.armed_holder
    (h : Inv w)
    {item : Item}
    (hItem : w.srv.sel.fds fd = some item)
    (hArmed : item.interest ≠ opNoop) :
    ∃ holder, w.srv.sel.opened fd = some holder ∧
      holder.conn? = item.attached.data? := by
  cases h.armed hItem hArmed with
  | listener hNone hInterest hOpen =>
      exact ⟨_, hOpen, hNone.symm⟩
  | socks k hLive hSocks hAttached hKey =>
      have hOwns := (h.wired k hLive).owns
      rw [hAttached]
      rcases hKey.fd with hClient | hOrigin
      · have hFd : fd = (w.conn k).clientFd := hClient
        rw [hFd]
        exact ⟨_, hOwns.client, rfl⟩
      · have hFd : fd = (w.conn k).originFd := hOrigin
        rcases hOwns.origin with hNone | ⟨domain, hOpen⟩
        · have hValid := h.sound.valid fd item hItem
          rw [hFd, hNone] at hValid
          exact absurd hValid (by decide)
        · rw [hFd]
          exact ⟨_, hOpen, rfl⟩
  | mng k hLive hMng hAttached hFd hSlot =>
      rw [hAttached, hFd]
      exact ⟨_, (h.wired k hLive).owns.client, rfl⟩

end Opened

end Socks5d

------------------------------------------------------------
-- The Turns Keep The Owners
------------------------------------------------------------

namespace Socks5d

/- The bit and the interest of one kind of event. -/
def Ready.bit
    (ready : Ready)
    (write : Bool)
    (fd : Fd) : Bool :=
  if write then ready.write fd else ready.read fd

def Interest.asks
    (interest : Interest)
    (write : Bool) : Bool :=
  if write then interest.write else interest.read

/-
  The call is made for the connection that the descriptor
  was registered for when `select` reported it.
-/
def Handling.Owned
    (call : Handling)
    (w : World)
    (ready : Ready) : Prop :=
  ∃ item, w.srv.sel.fds call.fd = some item ∧
    item.attached.data? = call.data ∧
    item.interest.asks call.write = true ∧
    ready.bit call.write call.fd = true

/-
  No descriptor that a handler opens has a bit that the loop
  has yet to look at.
-/
def Untouched
    (ready : Ready)
    (a : Nat → Answers × Answers) : Prop :=
  ∀ (i : Nat) g, (i : Fd) < g →
    ((a i).1.Opens g ∨ (a i).2.Opens g) →
      ∀ write, ready.bit write g = false

/-
  The loop has come to slot `i`: whoever holds a descriptor
  that is still to be looked at held it from the start.
-/
structure Upto
    (start : World)
    (ready : Ready)
    (i : Nat)
    (w : World) : Prop where
  inv : Inv w
  held : ∀ g write holder, (i : Fd) ≤ g →
    ready.bit write g = true →
    w.srv.sel.opened g = some holder →
      start.HeldAs g holder

section Turns

variable {start w w' : World}
variable {ready : Ready}
variable {i : Nat}
variable {a : Answers}
variable {item : Item}
variable {kind : Bool}

/- The test of the loop on an item -/
theorem Interest.asks_armed
    {interest : Interest}
    (h : interest.asks kind = true) : interest ≠ opNoop := by
  intro hEq
  rw [hEq] at h
  cases kind with
  | true => cases h
  | false => cases h

theorem Reported.asked
    (h : Reported start ready)
    {fd : Fd}
    (hBit : ready.bit kind fd = true) :
    ∃ item, start.srv.sel.fds fd = some item ∧
      item.interest.asks kind = true := by
  cases kind with
  | true => exact h.write fd hBit
  | false => exact h.read fd hBit

/- What is served now was served by the same one before. -/
theorem Upto.owned
    (h : Upto start ready i w)
    (kind : Bool)
    (hStart : Inv start)
    (hReported : Reported start ready)
    (hItem : w.srv.sel.fds i = some item)
    (hAsks : item.interest.asks kind = true)
    (hBit : ready.bit kind i = true) :
    (⟨i, kind, item.attached.data?⟩ : Handling).Owned start
      ready := by
  rcases hReported.asked hBit with ⟨first, hFirst, hAsked⟩
  rcases hStart.armed_holder hFirst
    (Interest.asks_armed hAsked) with ⟨old, hOld, hOldIs⟩
  rcases h.inv.armed_holder hItem
    (Interest.asks_armed hAsks) with ⟨now, hNow, hNowIs⟩
  rcases h.held i kind now (Int.le_refl _) hBit hNow with
    ⟨before, hBefore, hSame⟩
  have hEq : old = before :=
    Option.some.inj (hOld.symm.trans hBefore)
  refine ⟨first, hFirst, ?_, hAsked, hBit⟩
  calc first.attached.data?
    _ = old.conn? := hOldIs.symm
    _ = before.conn? := by rw [hEq]
    _ = now.conn? := hSame
    _ = item.attached.data? := hNowIs

/- One handler of slot `i` runs. -/
theorem Upto.dispatch
    (h : Upto start ready i w)
    (kind : Bool)
    (hStep : Dispatch w i a w')
    (hItem : w.srv.sel.fds i = some item)
    (hAsks : item.interest.asks kind = true)
    (hFresh : ∀ g : Fd, i < g → a.Opens g →
      ∀ write, ready.bit write g = false) :
    Upto start ready i w' := by
  rcases h.inv.armed_holder hItem
    (Interest.asks_armed hAsks) with ⟨own, hOwn, _⟩
  refine ⟨hStep.inv h.inv, ?_⟩
  intro g other holder hLe hBit hOpen
  cases hBefore : w.srv.sel.opened g with
  | some before =>
      have hSame := hStep.held h.inv hBefore hOpen
      rcases h.held g other before hLe hBit hBefore with
        ⟨old, hOld, hWas⟩
      exact ⟨old, hOld, hWas.trans hSame⟩
  | none =>
      -- the number is new: it is not that of the slot, and
      -- a higher one has no bit
      have hOpens := hStep.opens h.inv hBefore hOpen
      have hNe : g ≠ (i : Fd) := by
        intro hEq
        rw [hEq] at hBefore
        exact nomatch hBefore.symm.trans hOwn
      have hLt : (i : Fd) < g := Int.lt_iff_le_and_ne.mpr
        ⟨hLe, hNe.symm⟩
      have hClear := hFresh g hLt hOpens other
      exact nomatch hBit.symm.trans hClear

theorem Upto.next
    (h : Upto start ready i w) :
    Upto start ready (i + 1) w := by
  refine ⟨h.inv, ?_⟩
  intro g other holder hLe
  apply h.held g other holder
  have hBelow : ((i : Nat) : Int) ≤ ((i + 1 : Nat) : Int) :=
    Int.ofNat_le.mpr (Nat.le_succ i)
  exact Int.le_trans hBelow hLe

theorem Attachment.under_self
    {handler key : Attachment}
    (h : handler.data? = key.data?) :
    handler.under key = handler := by
  unfold Attachment.under
  rw [← h]
  cases handler with
  | socksListener => rfl
  | mngListener => rfl
  | socks data => rfl
  | mng data => rfl

/- The read half of a turn -/
theorem Upto.readHalf
    (h : Upto start ready i w)
    (hStart : Inv start)
    (hReported : Reported start ready)
    (hItem : w.srv.sel.fds i = some item)
    (hFresh : ∀ g : Fd, i < g → a.Opens g →
      ∀ write, ready.bit write g = false) :
    Upto start ready i (iterationRead ready i item a w).1 ∧
      (∀ call ∈ (iterationRead ready i item a w).2,
        call.Owned start ready) ∧
      (iterationRead ready i item a w = (w, []) ∨
        (⟨i, false, item.attached.data?⟩ : Handling).Owned
          start ready) := by
  unfold iterationRead
  by_cases hCalled : w.srv.fault = none ∧
      ready.read i = true ∧ item.interest.read = true
  · rw [if_pos hCalled]
    rcases hCalled with ⟨_, hBit, hAsks⟩
    have hOwned := h.owned false hStart hReported
      hItem hAsks hBit
    refine ⟨?_, ?_, Or.inr hOwned⟩
    · exact h.dispatch false
        (h.inv.read_dispatch hItem hAsks a) hItem hAsks hFresh
    · intro call hCall
      rw [List.mem_singleton.mp hCall]
      exact hOwned
  · rw [if_neg hCalled]
    refine ⟨h, ?_, Or.inl rfl⟩
    intro call hCall
    exact absurd hCall List.not_mem_nil

/- The write half, with the data that the read half had -/
theorem Upto.writeHalf
    (h : Upto start ready i w)
    (hStart : Inv start)
    (hReported : Reported start ready)
    {key : Attachment}
    (hKey : ∀ now, w.srv.sel.fds i = some now →
      now.interest.write = true → ready.write i = true →
        now.attached.data? = key.data?)
    (hFresh : ∀ g : Fd, i < g → a.Opens g →
      ∀ write, ready.bit write g = false) :
    Upto start ready i (iterationWrite ready i key a w).1 ∧
      ∀ call ∈ (iterationWrite ready i key a w).2,
        call.Owned start ready := by
  have hIdle : Upto start ready i w ∧
      ∀ call ∈ ([] : List Handling),
        call.Owned start ready := by
    refine ⟨h, ?_⟩
    intro call hCall
    exact absurd hCall List.not_mem_nil
  unfold iterationWrite
  cases hItem : w.srv.sel.fds i with
  | none => exact hIdle
  | some item =>
      dsimp only
      by_cases hCalled : w.srv.fault = none ∧
          ready.write i = true ∧ item.interest.write = true
      · rw [if_pos hCalled]
        rcases hCalled with ⟨_, hBit, hAsks⟩
        have hData := hKey item hItem hAsks hBit
        rw [Attachment.under_self hData, ← hData]
        refine ⟨?_, ?_⟩
        · exact h.dispatch true
            (h.inv.write_dispatch hItem hAsks a) hItem hAsks
            hFresh
        · intro call hCall
          rw [List.mem_singleton.mp hCall]
          exact h.owned true hStart hReported hItem
            hAsks hBit
      · rw [if_neg hCalled]
        exact hIdle

/- A whole turn -/
theorem Upto.turn
    (h : Upto start ready i w)
    (hStart : Inv start)
    (hReported : Reported start ready)
    {a : Nat → Answers × Answers}
    (hFresh : Untouched ready a) :
    Upto start ready (i + 1)
        (iterationTurn ready i (a i) w).1 ∧
      ∀ call ∈ (iterationTurn ready i (a i) w).2,
        call.Owned start ready := by
  unfold iterationTurn
  cases hItem : w.srv.sel.fds i with
  | none =>
      refine ⟨h.next, ?_⟩
      intro call hCall
      exact absurd hCall List.not_mem_nil
  | some item =>
      rcases h.readHalf hStart hReported hItem
        (fun g hLt hOpens => hFresh i g hLt (Or.inl hOpens))
        with ⟨hFirst, hReads, hEither⟩
      have hKey : ∀ now, (iterationRead ready i item (a i).1
          w).1.srv.sel.fds i = some now →
          now.interest.write = true →
          ready.write i = true →
            now.attached.data? = item.attached.data? := by
        intro now hNow hAsks hBit
        rcases hEither with hSame | hOwned
        · rw [hSame] at hNow
          rw [Option.some.inj (hNow.symm.trans hItem)]
        · -- both are the one that the slot began with
          rcases hFirst.owned true hStart hReported
            hNow hAsks hBit with ⟨old, hOld, hIs, _⟩
          rcases hOwned with ⟨old', hOld', hIs', _⟩
          have hEq := Option.some.inj (hOld.symm.trans hOld')
          rw [hEq] at hIs
          exact hIs.symm.trans hIs'
      rcases hFirst.writeHalf hStart hReported hKey
        (fun g hLt hOpens => hFresh i g hLt (Or.inr hOpens))
        with ⟨hSecond, hWrites⟩
      refine ⟨hSecond.next, ?_⟩
      intro call hCall
      rcases List.mem_append.mp hCall with hRead | hWrite
      · exact hReads call hRead
      · exact hWrites call hWrite

theorem Upto.from
    (turns : Nat)
    (h : Upto start ready i w)
    (hStart : Inv start)
    (hReported : Reported start ready)
    {a : Nat → Answers × Answers}
    (hFresh : Untouched ready a) :
    Inv (iterationFrom ready a i turns w).1 ∧
      ∀ call ∈ (iterationFrom ready a i turns w).2,
        call.Owned start ready := by
  induction turns generalizing i w with
  | zero =>
      refine ⟨h.inv, ?_⟩
      intro call hCall
      exact absurd hCall List.not_mem_nil
  | succ turns ih =>
      rcases h.turn hStart hReported hFresh with
        ⟨hNext, hTurn⟩
      rcases ih hNext with ⟨hInv, hRest⟩
      refine ⟨hInv, ?_⟩
      intro call hCall
      rcases List.mem_append.mp hCall with hHere | hLater
      · exact hTurn call hHere
      · exact hRest call hLater

end Turns

section Runs

variable {w : World}
variable {i : Nat}
variable {item : Item}

/- A handler that the loop calls is an enabled event. -/
theorem reachable_read
    {fd : Fd}
    (h : server.Reachable w)
    (hItem : w.srv.sel.fds fd = some item)
    (hFault : w.srv.fault = none)
    (hAsks : item.interest.read = true)
    (a : Answers) :
    server.Reachable (handleRead fd item.attached a w) := by
  apply h.step (l := .read fd a)
  constructor
  · simp only [Enabled, hItem, hFault, Option.any_some,
      Option.isNone_none, Bool.true_and]
    exact hAsks
  · simp only [exec, hItem]

theorem reachable_write
    {fd : Fd}
    (h : server.Reachable w)
    (hItem : w.srv.sel.fds fd = some item)
    (hFault : w.srv.fault = none)
    (hAsks : item.interest.write = true)
    (a : Answers) :
    server.Reachable (handleWrite fd item.attached a w) := by
  apply h.step (l := .write fd a)
  constructor
  · simp only [Enabled, hItem, hFault, Option.any_some,
      Option.isNone_none, Bool.true_and]
    exact hAsks
  · simp only [exec, hItem]

/- The write half is an event of the slot as it is then. -/
theorem iterationWrite_reachable
    (ready : Ready)
    (a : Answers)
    {key : Attachment}
    (h : server.Reachable w)
    (hKey : ∀ now, w.srv.sel.fds i = some now →
      now.interest ≠ opNoop →
        now.attached.data? = key.data?) :
    server.Reachable (iterationWrite ready i key a w).1 := by
  unfold iterationWrite
  cases hItem : w.srv.sel.fds i with
  | none => exact h
  | some item =>
      dsimp only
      by_cases hCalled : w.srv.fault = none ∧
          ready.write i = true ∧ item.interest.write = true
      · rw [if_pos hCalled]
        have hArmed := @Interest.asks_armed true _ hCalled.2.2
        rw [Attachment.under_self (hKey item hItem hArmed)]
        exact reachable_write h hItem hCalled.1 hCalled.2.2 a
      · rw [if_neg hCalled]
        exact h

/- A turn is at most two events of the running server. -/
theorem iterationTurn_reachable
    (ready : Ready)
    (a : Answers × Answers)
    (h : server.Reachable w) :
    server.Reachable (iterationTurn ready i a w).1 := by
  unfold iterationTurn
  cases hItem : w.srv.sel.fds i with
  | none => exact h
  | some item =>
      have hInv := reachable_inv h
      unfold iterationRead
      dsimp only
      by_cases hCalled : w.srv.fault = none ∧
          ready.read i = true ∧ item.interest.read = true
      · rw [if_pos hCalled]
        have hStep := hInv.read_dispatch hItem hCalled.2.2 a.1
        apply iterationWrite_reachable
        · exact reachable_read h hItem hCalled.1 hCalled.2.2
            a.1
        · -- the slot is still of the one that was served
          intro now hNow hArmed
          rcases (hStep.inv hInv).armed_holder hNow hArmed with
            ⟨holder, hOpen, hIs⟩
          rcases hInv.armed_holder hItem
            (@Interest.asks_armed false _ hCalled.2.2) with
            ⟨before, hBefore, hWas⟩
          have hSame := hStep.held hInv hBefore hOpen
          exact hIs.symm.trans (hSame.symm.trans hWas)
      · rw [if_neg hCalled]
        apply iterationWrite_reachable
        · exact h
        · intro now hNow hArmed
          rw [Option.some.inj (hNow.symm.trans hItem)]

/- So an iteration leads to a reachable world. -/
theorem handleIteration_reachable
    (ready : Ready)
    (a : Nat → Answers × Answers)
    (h : server.Reachable w) :
    server.Reachable (handleIteration ready a w).1 := by
  have hFrom : ∀ turns (i : Nat) (w : World),
      server.Reachable w →
        server.Reachable (iterationFrom ready a i turns
          w).1 := by
    intro turns
    induction turns with
    | zero =>
        intro i w hReach
        exact hReach
    | succ turns ih =>
        intro i w hReach
        exact ih (i + 1) _ (iterationTurn_reachable ready (a i)
          hReach)
  exact hFrom _ 0 w h

end Runs

/- Before the first turn nothing has changed. -/
theorem Upto.start
    {w : World}
    (h : Inv w)
    (ready : Ready) : Upto w ready 0 w := by
  refine ⟨h, ?_⟩
  intro g write holder hLe hBit hOpen
  exact ⟨holder, hOpen, rfl⟩

/-
  In an iteration whose handlers open no descriptor with a
  bit that is yet to be looked at, every handler is called
  for the connection that the readiness was reported for.
-/
theorem iteration_owner
    (w : World)
    (ready : Ready)
    (a : Nat → Answers × Answers)
    (hReach : server.Reachable w)
    (hReported : Reported w ready)
    (hFresh : Untouched ready a)
    (call : Handling)
    (hCall : call ∈ (handleIteration ready a w).2) :
    call.Owned w ready := by
  have hInv := reachable_inv hReach
  exact ((Upto.start hInv ready).from _ hInv hReported
    hFresh).2 call hCall

/-
  Two connections: the first relays, and its origin, whose
  stream has ended, is owed three bytes; the second is about
  to send its request.
-/
def reuseRun : List Label := [
  .read 3 { accept := some 5 },
  .read 5 { recv := some [5, 1, 0] },
  .write 5 { send := some 2 },
  .read 5 {
    recv := some [5, 1, 0, 1, 10, 0, 0, 1, 0, 80]
    socket := some 7 },
  .write 7 {},
  .write 5 { send := some 10 },
  .read 7 { recv := some [] },
  .read 5 { recv := some [1, 2, 3] },
  .read 3 { accept := some 6 },
  .read 6 { recv := some [5, 1, 0] },
  .write 6 { send := some 2 }]

def reuseWorld : World :=
  runTo reuseRun (smallServer methodNoAuthenticationRequired
    ⟨fun _ => {}, 0⟩ ⟨fun _ => {}, 0⟩)

/- Both clients can be read, and the origin written. -/
def reuseReady : Ready where
  read := fun fd => fd == 5 || fd == 6
  write := fun fd => fd == 7

/- The socket for the second connection gets number `fd`. -/
def reuseAnswers
    (fd : Fd) : Nat → Answers × Answers
| 5 => ({ recv := some [] }, {})
| 6 =>
    ({ recv := some [5, 1, 0, 1, 10, 0, 0, 1, 0, 80]
       socket := some fd }, {})
| _ => ({}, {})

theorem reuseWorld_reachable :
    server.Reachable reuseWorld :=
  reachable_runTo reuseRun
    (.init (smallServer_initial _ _ (by decide) (Or.inl rfl)))

theorem reuseWorld_reported :
    Reported reuseWorld reuseReady := by
  constructor
  · intro fd hFd
    rcases Bool.or_eq_true_iff.mp hFd with hFive | hSix
    · rw [beq_iff_eq.mp hFive]
      exact (Option.any_eq_true _ _).mp (by decide +kernel)
    · rw [beq_iff_eq.mp hSix]
      exact (Option.any_eq_true _ _).mp (by decide +kernel)
  · intro fd hFd
    rw [beq_iff_eq.mp hFd]
    exact (Option.any_eq_true _ _).mp (by decide +kernel)

/- With a number that has no bit the condition is met. -/
theorem iteration_owner_fresh :
    (⟨6, false, some 1⟩ : Handling).Owned reuseWorld
      reuseReady := by
  refine iteration_owner reuseWorld reuseReady
    (reuseAnswers 8) reuseWorld_reachable reuseWorld_reported
    ?_ _ ?_
  · intro i g hLt hOpens write
    unfold reuseAnswers at hOpens
    split at hOpens
    · rcases hOpens with (hBad | hBad) | hBad | hBad
      all_goals exact nomatch hBad
    · rcases hOpens with (hNew | hBad) | hBad | hBad
      · rw [← Option.some.inj hNew]
        cases write with
        | true => rfl
        | false => rfl
      all_goals exact nomatch hBad
    · rcases hOpens with (hBad | hBad) | hBad | hBad
      all_goals exact nomatch hBad
  · decide +kernel

/-
  With the number of the origin that was closed just before,
  the bit of that origin counts as the end of the connect of
  the new one.
-/
theorem iteration_stale :
    server.Reachable reuseWorld ∧
      Reported reuseWorld reuseReady ∧
      ∃ call ∈ (handleIteration reuseReady (reuseAnswers 7)
        reuseWorld).2,
        ¬ call.Owned reuseWorld reuseReady := by
  refine ⟨reuseWorld_reachable, reuseWorld_reported,
    ⟨7, true, some 1⟩, by decide +kernel, ?_⟩
  rintro ⟨item, hItem, hData, _⟩
  have hWas : (reuseWorld.srv.sel.fds 7).any
      (fun item => item.attached.data? = some 0) = true := by
    decide +kernel
  rw [hItem] at hWas
  have hZero := of_decide_eq_true hWas
  exact nomatch hZero.symm.trans hData

end Socks5d
