import Socks5d.Services

/-
  Which descriptors a connection owns, and what its slots wait
  for in each of its states.

  Main declarations:
    * `Owns`
    * `SocksShape`, `MngShape`, `Wired`
    * `SocksHeading`, `MngHeading`, `Handled`
-/

------------------------------------------------------------
-- Ownership
------------------------------------------------------------

namespace Socks5d

/- The descriptors of connection `k` are open, and are all
   that is open for it. -/
structure Owns
    (k : ConnId)
    (sel : Selector)
    (c : Conn) : Prop where
  client : sel.opened c.clientFd = some (.client k)
  origin : c.originFd = -1 ∨
    ∃ domain, sel.opened c.originFd =
      some (.origin k domain)
  only : ∀ fd holder, sel.opened fd = some holder →
    holder.conn? = some k →
      fd = c.clientFd ∨ fd = c.originFd

namespace Owns

variable {k : ConnId}
variable {sel sel' : Selector}
variable {c d : Conn}

theorem client_nonneg
    (h : Owns k sel c)
    (hSound : sel.Sound) : 0 ≤ c.clientFd :=
  hSound.nonneg _ _ h.client

theorem client_ne
    (h : Owns k sel c)
    (hSound : sel.Sound) : c.clientFd ≠ -1 := by
  intro hEq
  have hNonneg := h.client_nonneg hSound
  rw [hEq] at hNonneg
  exact absurd hNonneg (by decide)

/- The two descriptors of a connection differ. -/
theorem ne
    (h : Owns k sel c)
    (hSound : sel.Sound) : c.clientFd ≠ c.originFd := by
  intro hEq
  rcases h.origin with hNone | ⟨domain, hOpen⟩
  · exact h.client_ne hSound (hEq.trans hNone)
  · rw [← hEq, h.client] at hOpen
    cases hOpen

theorem mine_client
    (h : Owns k sel c) : sel.Mine k c.clientFd := by
  intro holder hHolder
  rw [h.client] at hHolder
  rw [← Option.some.inj hHolder]
  rfl

theorem mine_origin
    (h : Owns k sel c)
    (hSound : sel.Sound) : sel.Mine k c.originFd := by
  intro holder hHolder
  rcases h.origin with hNone | ⟨domain, hOpen⟩
  · rw [hNone] at hHolder
    have hNonneg := hSound.nonneg _ _ hHolder
    exact absurd hNonneg (by decide)
  · rw [hOpen] at hHolder
    rw [← Option.some.inj hHolder]
    rfl

/- Only the open descriptors and the two fields matter. -/
theorem of_eq
    (h : Owns k sel c)
    (hOpened : sel'.opened = sel.opened)
    (hClient : d.clientFd = c.clientFd)
    (hOrigin : d.originFd = c.originFd) :
    Owns k sel' d where
  client := by
    rw [hOpened, hClient]
    exact h.client
  origin := by
    rw [hOpened, hOrigin]
    exact h.origin
  only := by
    rw [hOpened, hClient, hOrigin]
    exact h.only

end Owns

/- The slot of a descriptor, if any, waits for nothing. -/
def Selector.Idle
    (sel : Selector)
    (fd : Fd) : Prop :=
  ∀ item, sel.fds fd = some item → item.interest = opNoop

end Socks5d

------------------------------------------------------------
-- Shapes
------------------------------------------------------------

namespace Socks5d

/- The method a hello parser looks for and what it found. -/
def HelloParser.Offers (p : HelloParser) : Prop :=
  (p.method = methodNoAuthenticationRequired ∨
      p.method = methodUsernamePassword) ∧
    (p.data = methodNoAcceptableMethods ∨
      p.data = p.method)

/- An allocation of `request_init` has failed. -/
def RequestStarved (c : Conn) : Prop :=
  ∃ site, .outOfMemory site ∈ c.log ∧
    (site = .requestParser ∨ site = .requestFirst ∨
      site = .requestSecond)

/- A `connect` has succeeded at once, and the socket could
   be registered. -/
def ConnectedAtOnce (c : Conn) : Prop :=
  ∃ attempt, .connect attempt ∈ c.log ∧
    attempt.answer = .connected ∧
    attempt.registrable = true

/- The slots of a SOCKS connection in each state. -/
inductive SocksShape
    (k : ConnId)
    (sel : Selector)
    (c : Conn) : Prop where
  | fresh
      (hState : c.current = none)
      (hOrigin : c.originFd = -1)
      (hClient : sel.Has c.clientFd opRead (.socks k))
  | helloRead
      (hState : c.current = some HELLO_READ)
      (hOrigin : c.originFd = -1)
      (hClient : sel.Has c.clientFd opRead (.socks k))
      (hHello : c.hello.parser.Offers)
  | helloWrite
      (hState : c.current = some HELLO_WRITE)
      (hOrigin : c.originFd = -1)
      (hClient : sel.Has c.clientFd opWrite (.socks k))
      (hHello : c.hello.parser.Offers)
  | userpassRead
      (hState : c.current = some USERPASS_READ)
      (hOrigin : c.originFd = -1)
      (hClient : sel.Has c.clientFd opRead (.socks k))
  | userpassWrite
      (hState : c.current = some USERPASS_WRITE)
      (hOrigin : c.originFd = -1)
      (hClient : sel.Has c.clientFd opWrite (.socks k))
  | requestRead
      (hState : c.current = some REQUEST_READ)
      (hOrigin : c.originFd = -1)
      (hClient : sel.Has c.clientFd opRead (.socks k))
      (hStatus : c.request.status = .succeeded)
      (p : RequestParser)
      (hParser : c.request.parser = some p)
  /- `request_init` has armed the client for its error -/
  | requestStarved
      (hState : c.current = some REQUEST_READ)
      (hOrigin : c.originFd = -1)
      (hClient : sel.Has c.clientFd opWrite (.socks k))
      (hStarved : RequestStarved c)
  | resolving
      (hState : c.current = some REQUEST_RESOLV)
      (hOrigin : c.originFd = -1)
      (hClient : sel.Has c.clientFd opNoop (.socks k))
      (p : RequestParser)
      (hParser : c.request.parser = some p)
  | connecting
      (hState : c.current = some REQUEST_CONNECTING)
      (hClient : sel.Has c.clientFd opNoop (.socks k))
      (hOrigin : sel.Has c.originFd opWrite (.socks k))
  | connectFailed
      (hState : c.current = some REQUEST_CONNECTING)
      (hClient : sel.Has c.clientFd opWrite (.socks k))
      (hStatus : c.connStatus ≠ .succeeded)
      (hOrigin : sel.Idle c.originFd)
  | connectedAtOnce
      (hState : c.current = some REQUEST_CONNECTING)
      (hClient : sel.Has c.clientFd opRead (.socks k))
      (hOrigin : sel.Has c.originFd opRead (.socks k))
      (hAtOnce : ConnectedAtOnce c)
  | requestWrite
      (hState : c.current = some REQUEST_WRITE)
      (hClient : sel.Has c.clientFd opWrite (.socks k))
      (hOrigin : c.originFd = -1 ∨
        sel.Has c.originFd opNoop (.socks k))
  | copy
      (hState : c.current = some COPY)
      (hCopy : Copying c)
      (hSlots : ∀ side, c.fdOf side ≠ -1 →
        sel.Has (c.fdOf side) (c.copyInterest side)
          (.socks k))
      (hGoing : ∀ side, c.fdOf side ≠ -1 →
        (c.copySt side).interest ≠ opNoop)

/- The slot of a management connection in each state. -/
inductive MngShape
    (k : ConnId)
    (sel : Selector)
    (c : Conn) : Prop where
  | fresh
      (hState : c.current = none)
      (hClient : sel.Has c.clientFd opRead (.mng k))
  | helloRead
      (hState : c.current = some HELLO_READ)
      (hClient : sel.Has c.clientFd opRead (.mng k))
      (hHello : c.hello.parser.Offers)
      (hMethod : c.hello.parser.method = mngAuthMethod ∨
        c.hello.failed = true)
  | helloWrite
      (hState : c.current = some HELLO_WRITE)
      (hClient : sel.Has c.clientFd opWrite (.mng k))
      (hHello : c.hello.parser.Offers)
      (hMethod : c.hello.parser.method = mngAuthMethod)
  | reading
      (state : Nat)
      (hState : c.current = some state)
      (hReads : state = USERPASS_READ ∨
        state = MNG_REQUEST_READ_INDEX ∨
        state = MNG_REQUEST_READ)
      (hClient : sel.Has c.clientFd opRead (.mng k))
  | writing
      (state : Nat)
      (hState : c.current = some state)
      (hWrites : state = USERPASS_WRITE ∨
        state = MNG_REQUEST_WRITE)
      (hClient : sel.Has c.clientFd opWrite (.mng k))

/- A connection that runs owns its descriptors, and its
   slots are as its state needs them. -/
structure Wired
    (k : ConnId)
    (sel : Selector)
    (c : Conn) : Prop where
  owns : Owns k sel c
  socks : c.isSocks = true → SocksShape k sel c
  mng : c.isSocks = false →
    c.originFd = -1 ∧ MngShape k sel c

end Socks5d

------------------------------------------------------------
-- On The Way To The Next State
------------------------------------------------------------

namespace Socks5d

/-
  What a handler of a SOCKS connection leaves for `jump`: the
  slots are as the next state, before its `on_arrival`, or the
  closing handler needs them.
-/
inductive SocksHeading
    (k : ConnId)
    (sel : Selector)
    (c : Conn) : Nat → Prop where
  | stay
      (next : Nat)
      (hState : c.current = some next)
      (hNext : next ≤ COPY)
      (hShape : SocksShape k sel c) :
      SocksHeading k sel c next
  | helloWrite
      (hState : c.current = some HELLO_READ)
      (hOrigin : c.originFd = -1)
      (hClient : sel.Has c.clientFd opWrite (.socks k))
      (hHello : c.hello.parser.Offers) :
      SocksHeading k sel c HELLO_WRITE
  | userpassRead
      (hState : c.current = some HELLO_WRITE)
      (hOrigin : c.originFd = -1)
      (hClient : sel.Has c.clientFd opRead (.socks k)) :
      SocksHeading k sel c USERPASS_READ
  | userpassWrite
      (hState : c.current = some USERPASS_READ)
      (hOrigin : c.originFd = -1)
      (hClient : sel.Has c.clientFd opWrite (.socks k)) :
      SocksHeading k sel c USERPASS_WRITE
  | requestRead
      (hState : c.current = some HELLO_WRITE ∨
        c.current = some USERPASS_WRITE)
      (hOrigin : c.originFd = -1)
      (hClient : sel.Has c.clientFd opRead (.socks k)) :
      SocksHeading k sel c REQUEST_READ
  | resolving
      (hState : c.current = some REQUEST_READ)
      (hOrigin : c.originFd = -1)
      (hClient : sel.Has c.clientFd opNoop (.socks k))
      (p : RequestParser)
      (hParser : c.request.parser = some p)
      (hType : p.request.destAddrType =
        socksReqAddrtypeDomain) :
      SocksHeading k sel c REQUEST_RESOLV
  | connecting
      (hState : c.current = some REQUEST_READ ∨
        c.current = some REQUEST_RESOLV)
      (hParser : ∃ p, c.request.parser = some p)
      (hOrigin : c.originFd = -1)
      (interest : Interest)
      (hClient : sel.Has c.clientFd interest (.socks k)) :
      SocksHeading k sel c REQUEST_CONNECTING
  | requestWrite
      (hState : c.current = some REQUEST_READ ∨
        c.current = some REQUEST_RESOLV ∨
        c.current = some REQUEST_CONNECTING)
      (hParser : c.current = some REQUEST_READ →
        ∃ p, c.request.parser = some p)
      (hClient : sel.Has c.clientFd opWrite (.socks k))
      (hOrigin : c.originFd = -1 ∨
        sel.Has c.originFd opNoop (.socks k)) :
      SocksHeading k sel c REQUEST_WRITE
  | copy
      (hState : c.current = some REQUEST_WRITE)
      (hSlots : c.Slotted (.socks k) sel) :
      SocksHeading k sel c COPY
  | ends
      (next : Nat)
      (hNext : next = DONE ∨ next = ERROR)
      (hState : c.current ≠ some DONE ∧
        c.current ≠ some ERROR)
      (hParser : c.current = some REQUEST_READ →
        ∃ p, c.request.parser = some p)
      (hSlots : c.Slotted (.socks k) sel) :
      SocksHeading k sel c next

/- The same for a management connection. -/
inductive MngHeading
    (k : ConnId)
    (sel : Selector)
    (c : Conn) : Nat → Prop where
  | stay
      (next : Nat)
      (hState : c.current = some next)
      (hNext : next ≤ MNG_REQUEST_WRITE)
      (hShape : MngShape k sel c) :
      MngHeading k sel c next
  | helloWrite
      (hState : c.current = some HELLO_READ)
      (hClient : sel.Has c.clientFd opWrite (.mng k))
      (hHello : c.hello.parser.Offers)
      (hMethod : c.hello.parser.method = mngAuthMethod) :
      MngHeading k sel c HELLO_WRITE
  | reads
      (next : Nat)
      (hState : c.current ≠ some next)
      (hFrom : c.current ≠ some USERPASS_READ ∧
        c.current ≠ some MNG_REQUEST_READ)
      (hReads : next = USERPASS_READ ∨
        next = MNG_REQUEST_READ_INDEX ∨
        next = MNG_REQUEST_READ)
      (hIndex : next = MNG_REQUEST_READ →
        c.mngRequest.index = MngIndex.addUser ∨
        c.mngRequest.index = MngIndex.deleteUser ∨
        c.mngRequest.index = MngIndex.disableAuth ∨
        c.mngRequest.index =
          MngIndex.disablePasswordDissectors)
      (hClient : sel.Has c.clientFd opRead (.mng k)) :
      MngHeading k sel c next
  | writes
      (next : Nat)
      (hState : c.current ≠ some next)
      (hWrites : next = USERPASS_WRITE ∨
        next = MNG_REQUEST_WRITE)
      (hClient : sel.Has c.clientFd opWrite (.mng k)) :
      MngHeading k sel c next
  | ends
      (next : Nat)
      (hNext : next = MNG_DONE ∨ next = MNG_ERROR)
      (hState : c.current ≠ some MNG_DONE ∧
        c.current ≠ some MNG_ERROR)
      (interest : Interest)
      (hClient : sel.Has c.clientFd interest (.mng k)) :
      MngHeading k sel c next

/- No handler call has run into `abort`. -/
def Calm (s t : St) : Prop :=
  t.srv.fault = some .abort → s.srv.fault = some .abort

/-
  What a step of the handlers of connection `k` keeps: the
  descriptors of others and its own.
-/
structure Handled
    (k : ConnId)
    (s t : St) : Prop where
  moves : s.srv.sel.Moves k t.srv.sel
  owns : Owns k t.srv.sel t.conn
  client : t.conn.clientFd = s.conn.clientFd
  service : t.conn.isSocks = s.conn.isSocks
  calm : Calm s t

namespace Handled

variable {k : ConnId}
variable {s t u : St}

theorem refl
    (hOwns : Owns k s.srv.sel s.conn) : Handled k s s where
  moves := .refl k _
  owns := hOwns
  client := rfl
  service := rfl
  calm := id

theorem trans
    (hFirst : Handled k s t)
    (hSecond : Handled k t u) : Handled k s u where
  moves := hFirst.moves.trans hSecond.moves
  owns := hSecond.owns
  client := hSecond.client.trans hFirst.client
  service := hSecond.service.trans hFirst.service
  calm := fun h => hFirst.calm (hSecond.calm h)

/- Nothing that `Handled` looks at has changed. -/
theorem of_eq
    (h : Handled k s t)
    (hSel : u.srv.sel = t.srv.sel)
    (hClient : u.conn.clientFd = t.conn.clientFd)
    (hOrigin : u.conn.originFd = t.conn.originFd)
    (hService : u.conn.isSocks = t.conn.isSocks)
    (hCalm : Calm t u) : Handled k s u where
  moves := by
    rw [hSel]
    exact h.moves
  owns := h.owns.of_eq (by rw [hSel]) hClient hOrigin
  client := hClient.trans h.client
  service := hService.trans h.service
  calm := fun hFault => h.calm (hCalm hFault)

/- A slot of the connection gets an interest. -/
theorem arm
    (h : Handled k s t)
    (hSound : s.srv.sel.Sound)
    {fd : Fd}
    {interest : Interest}
    {attached : Attachment}
    (hFd : fd = t.conn.clientFd ∨ fd = t.conn.originFd)
    (hHas : t.srv.sel.Has fd interest attached)
    (wanted : Interest)
    (hOpen : t.srv.sel.opened fd = none →
      wanted = opNoop) :
    Handled k s (t.arm fd wanted attached) where
  moves := by
    have hMine : t.srv.sel.Mine k fd := by
      rcases hFd with hClient | hOrigin
      · rw [hClient]
        exact h.owns.mine_client
      · rw [hOrigin]
        exact h.owns.mine_origin (h.moves.sound hSound)
    exact h.moves.trans (.put hMine hHas.1 hOpen)
  owns := h.owns.of_eq rfl rfl rfl
  client := h.client
  service := h.service
  calm := h.calm

/- The client gets an interest. -/
theorem arm_client
    (h : Handled k s t)
    (hSound : s.srv.sel.Sound)
    {interest : Interest}
    {attached : Attachment}
    (hHas : t.srv.sel.Has t.conn.clientFd interest attached)
    (wanted : Interest) :
    Handled k s (t.arm t.conn.clientFd wanted attached) := by
  apply h.arm hSound (Or.inl rfl) hHas
  intro hClosed
  rw [h.owns.client] at hClosed
  cases hClosed

end Handled

theorem calm_crash
    (s : St)
    {fault : Fault}
    (hFault : fault ≠ .abort) : Calm s (s.crash fault) := by
  intro h
  unfold St.crash at h
  cases hBefore : s.srv.fault with
  | none =>
      simp only [hBefore, Option.getD_none] at h
      exact absurd (Option.some.inj h) hFault
  | some before =>
      simpa only [hBefore, Option.getD_some] using h

end Socks5d
