import Socks5d.ConnectingWiring

/-
  Relaying keeps the slots as they should be, and which call
  an event of a SOCKS connection picks.

  Main declarations:
    * `socks_relay`
    * `SocksTurn`, `SocksJump`
    * `socks_picks_read`, `socks_picks_write`,
      `socks_picks_block`
    * `SocksTurn.heading`
-/

------------------------------------------------------------
-- Relaying
------------------------------------------------------------

namespace Socks5d

section Relaying

variable {k : ConnId}
variable {s t : St}

/- A descriptor that there is belongs to the connection. -/
theorem Owns.opened
    {sel : Selector}
    {c : Conn}
    (h : Owns k sel c)
    {side : Side}
    (hFd : c.fdOf side ≠ -1) :
    sel.opened (c.fdOf side) ≠ none := by
  cases side with
  | client =>
      show sel.opened c.clientFd ≠ none
      rw [h.client]
      exact Option.some_ne_none _
  | origin =>
      rcases h.origin with hNone | ⟨domain, hOpen⟩
      · exact absurd hNone hFd
      · show sel.opened c.originFd ≠ none
        rw [hOpen]
        exact Option.some_ne_none _

theorem settle_handled
    (h : Handled k s t)
    (hSound : s.srv.sel.Sound)
    {attached : Attachment}
    (hSlots : t.conn.Slotted attached t.srv.sel)
    (side : Side) :
    Handled k s { t with
      srv.sel := t.conn.settle attached side
        t.srv.sel } := by
  unfold Conn.settle
  by_cases hFd : t.conn.fdOf side ≠ -1
  · rcases hSlots side hFd with ⟨interest, hHas⟩
    rw [if_pos hFd]
    refine h.arm hSound ?_ hHas _ ?_
    · cases side with
      | client => exact Or.inl rfl
      | origin => exact Or.inr rfl
    · intro hClosed
      exact absurd hClosed (h.owns.opened hFd)
  · rw [if_neg hFd]
    exact h

theorem settled_handled
    (h : Handled k s t)
    (hSound : s.srv.sel.Sound)
    {attached : Attachment}
    (hSlots : t.conn.Slotted attached t.srv.sel)
    (side : Side) :
    Handled k s (settled attached side t) :=
  settle_handled (settle_handled h hSound hSlots side) hSound
    (hSlots.settle side) side.other

/- Once both sides are settled, the slots are as computed. -/
theorem settled_has
    {attached : Attachment}
    (hNe : t.conn.clientFd ≠ t.conn.originFd)
    (hSlots : t.conn.Slotted attached t.srv.sel)
    (side at_ : Side)
    (hFd : t.conn.fdOf at_ ≠ -1) :
    (settled attached side t).srv.sel.Has
      (t.conn.fdOf at_) (t.conn.copyInterest at_)
        attached := by
  rcases Side.eq_or_eq_other side at_ with hSelf | hOther
  · rw [hSelf] at hFd ⊢
    exact Conn.settle_keeps hNe (hSlots.settle_has hFd)
  · rw [hOther] at hFd ⊢
    exact (hSlots.settle side).settle_has hFd

/- With an origin, one side is idle when the other one is. -/
theorem Copying.going
    {c : Conn}
    (h : Copying c)
    {side : Side}
    (hFd : c.fdOf side ≠ -1)
    (hGoing : (c.copySt side).interest ≠ opNoop)
    (at_ : Side)
    (hAt : c.fdOf at_ ≠ -1) :
    (c.copySt at_).interest ≠ opNoop := by
  rcases Side.eq_or_eq_other side at_ with hSelf | hOther
  · rw [hSelf]
    exact hGoing
  · rw [hOther] at hAt ⊢
    have hOrigin : c.originFd ≠ -1 := by
      cases side with
      | client => exact hAt
      | origin => exact hFd
    intro hNone
    apply hGoing
    have hIn := h.coupled hOrigin side
    have hOut := h.coupled hOrigin side.other
    rw [Side.other_other, hNone] at hOut
    rw [hNone] at hIn
    exact congrArg₂ Interest.mk hIn hOut.symm

/- What `copy_read` and `copy_write` leave. -/
theorem socks_relay
    (hSound : s.srv.sel.Sound)
    (hOwns : Owns k s.srv.sel s.conn)
    (hState : s.conn.current = some COPY)
    (hCopy : Copying s.conn)
    (hSlots : ∀ side, s.conn.fdOf side ≠ -1 →
      s.srv.sel.Has (s.conn.fdOf side)
        (s.conn.copyInterest side) (.socks k))
    {side : Side}
    (hFd : s.conn.fdOf side ≠ -1)
    (hRelay : Relay side s t) :
    Handled k s (copyFinish side t).1 ∧
      SocksHeading k (copyFinish side t).1.srv.sel
        (copyFinish side t).1.conn
        (copyFinish side t).2 := by
  have hRelayed := hRelay.relayed
  have hClient : t.conn.clientFd = s.conn.clientFd :=
    hRelayed.fds .client
  have hOrigin : t.conn.originFd = s.conn.originFd :=
    hRelayed.fds .origin
  have hNe : t.conn.clientFd ≠ t.conn.originFd := by
    rw [hClient, hOrigin]
    exact hOwns.ne hSound
  have hCopy' : Copying t.conn := by
    apply hRelayed.copying _ hCopy
    rw [hClient]
    exact hOwns.client_ne hSound
  have hState' : t.conn.current = some COPY :=
    hRelayed.current.trans hState
  have hSlots' : t.conn.Slotted (.socks k) t.srv.sel := by
    intro at_ hAt
    rw [hRelayed.fds] at hAt ⊢
    rw [hRelayed.sel]
    exact ⟨_, hSlots at_ hAt⟩
  have hKept : Handled k s t :=
    (Handled.refl hOwns).of_eq hRelayed.sel hClient hOrigin
      hRelayed.service fun hFault =>
        hRelayed.fault.symm.trans hFault
  rcases copyFinish_eq hCopy'.fds hSlots' side with
    ⟨m, hFinish⟩
  rw [hFinish]
  refine ⟨(settled_handled hKept hSound hSlots' side).of_eq
    rfl rfl rfl rfl id, ?_⟩
  split
  · refine .ends DONE (Or.inl rfl) ?_ ?_ ?_
    · show t.conn.current ≠ _ ∧ t.conn.current ≠ _
      rw [hState']
      decide
    · intro hBad
      exact absurd (hBad.symm.trans hState') (by decide)
    · intro at_ hAt
      exact ⟨_, settled_has hNe hSlots' side at_ hAt⟩
  · rename_i hGoing
    rw [← hRelayed.fds] at hFd
    refine .stay COPY hState' (Nat.le_refl _) ?_
    exact .copy hState' hCopy'
      (fun at_ hAt => settled_has hNe hSlots' side at_ hAt)
      (fun at_ hAt => hCopy'.going hFd hGoing at_ hAt)

end Relaying

end Socks5d

------------------------------------------------------------
-- What A Handler Call Is
------------------------------------------------------------

namespace Socks5d

/- The machine is in a state it has just entered. -/
def entered
    (next : Nat)
    (s : St) : St :=
  St.note { s with conn.current := some next } (.enter next)

/- Both services enter their first state in the same way. -/
theorem handleFirst_eq
    {states : Nat → StateDefinition}
    (hStates : states HELLO_READ =
      { onArrival := some helloReadInit
        onReadReady := some helloRead })
    (key : Key)
    (a : Answers)
    (s : St) :
    handleFirst states key a s =
      if s.conn.current = none then
        helloReadInit key a (entered HELLO_READ s)
      else s := by
  have hArrive : arrive states HELLO_READ key a s =
      helloReadInit key a (entered HELLO_READ s) := by
    unfold arrive
    rw [hStates]
    rfl
  unfold handleFirst
  rw [hArrive]

/- A side is read or written when its slot asks for it. -/
def RelayAsked
    (side : Side)
    (s t : St) : Prop :=
  ((s.conn.copyInterest side).read = true ∧
    (t = copyEnded side s ∨
      ∃ bytes, t = copyGot side bytes s)) ∨
  ((s.conn.copyInterest side).write = true ∧
    (t = copySendFailed side s ∨
      ∃ n, t = copySent side n s))

/-
  The call that the current state picks for an event of a
  SOCKS connection, with what it returns.
-/
inductive SocksTurn
    (k : ConnId)
    (key : Key)
    (a : Answers)
    (s : St) : St × Nat → Prop where
  | helloRead
      (hState : s.conn.current = some HELLO_READ)
      (hFd : key.fd = s.conn.clientFd)
      (hOrigin : s.conn.originFd = -1)
      (hClient : s.srv.sel.Has s.conn.clientFd opRead
        (.socks k))
      (hHello : s.conn.hello.parser.Offers)
      (r : St × Nat)
      (hCall : HelloRead key a s (.socks k) r) :
      SocksTurn k key a s r
  | helloWrite
      (hState : s.conn.current = some HELLO_WRITE)
      (hFd : key.fd = s.conn.clientFd)
      (hOrigin : s.conn.originFd = -1)
      (hClient : s.srv.sel.Has s.conn.clientFd opWrite
        (.socks k))
      (hHello : s.conn.hello.parser.Offers)
      (r : St × Nat)
      (hCall : HelloWrite key a s (.socks k) r) :
      SocksTurn k key a s r
  | authRead
      (hState : s.conn.current = some USERPASS_READ)
      (hFd : key.fd = s.conn.clientFd)
      (hOrigin : s.conn.originFd = -1)
      (hClient : s.srv.sel.Has s.conn.clientFd opRead
        (.socks k))
      (r : St × Nat)
      (hCall : AuthRead key a s (.socks k) r) :
      SocksTurn k key a s r
  | authWrite
      (hState : s.conn.current = some USERPASS_WRITE)
      (hFd : key.fd = s.conn.clientFd)
      (hOrigin : s.conn.originFd = -1)
      (hClient : s.srv.sel.Has s.conn.clientFd opWrite
        (.socks k))
      (r : St × Nat)
      (hCall : AuthWrite key a s (.socks k) r) :
      SocksTurn k key a s r
  | requestRead
      (hState : s.conn.current = some REQUEST_READ)
      (hFd : key.fd = s.conn.clientFd)
      (hOrigin : s.conn.originFd = -1)
      (hClient : s.srv.sel.Has s.conn.clientFd opRead
        (.socks k))
      (hStatus : s.conn.request.status = .succeeded)
      (p : RequestParser)
      (hParser : s.conn.request.parser = some p)
      (r : St × Nat)
      (hCall : RequestRead key a s p (.socks k) r) :
      SocksTurn k key a s r
  | requestResolvDone
      (hState : s.conn.current = some REQUEST_RESOLV)
      (hFd : key.fd = s.conn.clientFd)
      (hOrigin : s.conn.originFd = -1)
      (hClient : s.srv.sel.Has s.conn.clientFd opNoop
        (.socks k))
      (p : RequestParser)
      (hParser : s.conn.request.parser = some p)
      (r : St × Nat)
      (hCall : RequestResolvDone key s (.socks k) r) :
      SocksTurn k key a s r
  | connectingWrite
      (hState : s.conn.current = some REQUEST_CONNECTING)
      (interest clientInterest : Interest)
      (hKey : Keyed k key s interest)
      (hClient : s.srv.sel.Has s.conn.clientFd
        clientInterest (.socks k))
      (hFd : s.conn.connStatus = .succeeded →
        key.fd = s.conn.originFd)
      (r : St × Nat)
      (hCall : ConnectingWrite key a s (.socks k) r) :
      SocksTurn k key a s r
  | requestWrite
      (hState : s.conn.current = some REQUEST_WRITE)
      (hFd : key.fd = s.conn.clientFd)
      (hClient : s.srv.sel.Has s.conn.clientFd opWrite
        (.socks k))
      (hOrigin : s.conn.originFd = -1 ∨
        s.srv.sel.Has s.conn.originFd opNoop (.socks k))
      (r : St × Nat)
      (hCall : RequestWrite key a s (.socks k) r) :
      SocksTurn k key a s r
  | relay
      (hState : s.conn.current = some COPY)
      (hCopy : Copying s.conn)
      (hSlots : ∀ side, s.conn.fdOf side ≠ -1 →
        s.srv.sel.Has (s.conn.fdOf side)
          (s.conn.copyInterest side) (.socks k))
      (side : Side)
      (hSide : s.conn.fdOf side ≠ -1)
      (hFd : key.fd = s.conn.fdOf side)
      (t : St)
      (hRelay : Relay side s t)
      (hAsked : RelayAsked side s t) :
      SocksTurn k key a s (copyFinish side t)

/-
  The fault after a departure: in a state whose parser is torn
  the process ends, if it has not ended before.
-/
inductive TornFault
    (s : St)
    (state : Nat)
    (torn : Bool) : Option Fault → Prop where
  | same : TornFault s state torn s.srv.fault
  | torn
      (hState : s.conn.current = some state)
      (hTorn : torn = true) :
      TornFault s state torn
        (some (s.srv.fault.getD .segv))

section Torn

variable {s : St}
variable {state : Nat}
variable {torn : Bool}
variable {fault : Option Fault}

theorem TornFault.eq_of_ne
    (h : TornFault s state torn fault)
    (hState : s.conn.current ≠ some state) :
    fault = s.srv.fault := by
  cases h with
  | same => rfl
  | torn hHere => exact absurd hHere hState

theorem TornFault.eq_of_whole
    (h : TornFault s state torn fault)
    (hWhole : torn = false) : fault = s.srv.fault := by
  cases h with
  | same => rfl
  | torn _ hTorn => exact nomatch hWhole.symm.trans hTorn

/- It is not an abort. -/
theorem TornFault.calm
    (h : TornFault s state torn fault)
    (hAbort : fault = some .abort) :
    s.srv.fault = some .abort := by
  cases h with
  | same => exact hAbort
  | torn =>
      exact calm_crash s (show Fault.segv ≠ .abort by decide)
        hAbort

end Torn

/-
  What `jump` does for a SOCKS connection: departures and
  arrivals.
-/
inductive SocksJump
    (k : ConnId)
    (key : Key)
    (a : Answers)
    (s : St) : Nat → St → Prop where
  | stay
      (next : Nat)
      (hState : s.conn.current = some next)
      (hNext : next ≤ COPY) :
      SocksJump k key a s next s
  /- the next state has no `on_arrival` -/
  | plain
      (next : Nat)
      (hNext : next = HELLO_WRITE ∨ next = USERPASS_WRITE ∨
        next = REQUEST_RESOLV ∨ next = REQUEST_WRITE ∨
        next = DONE ∨ next = ERROR)
      (hState : s.conn.current ≠ some next)
      (parser : Option RequestParser)
      (hParser : next = REQUEST_RESOLV →
        parser = s.conn.request.parser)
      (fault : Option Fault)
      (hFault : TornFault s USERPASS_READ
        s.conn.userpass.torn fault) :
      SocksJump k key a s next
        (entered next
          { s with
            srv.fault := fault
            conn.request.parser := parser })
  | userpassRead
      (hState : s.conn.current = some HELLO_WRITE) :
      SocksJump k key a s USERPASS_READ
        (authReadInit key a (entered USERPASS_READ s))
  | requestRead
      (hState : s.conn.current = some HELLO_WRITE ∨
        s.conn.current = some USERPASS_WRITE)
      (u : St)
      (hInit : RequestInit key (.socks k)
        (entered REQUEST_READ s) u) :
      SocksJump k key a s REQUEST_READ u
  | connecting
      (hState : s.conn.current = some REQUEST_READ ∨
        s.conn.current = some REQUEST_RESOLV)
      (parser : Option RequestParser)
      (u : St)
      (hInit : ConnectingInit key a
        (entered REQUEST_CONNECTING
          { s with conn.request.parser := parser })
        (.socks k) u) :
      SocksJump k key a s REQUEST_CONNECTING u
  | copy
      (hState : s.conn.current = some REQUEST_WRITE) :
      SocksJump k key a s COPY
        (settled (.socks k) .origin
          { entered COPY s with
            conn := copyStart (entered COPY s).conn })

end Socks5d

------------------------------------------------------------
-- Which Call An Event Picks
------------------------------------------------------------

namespace Socks5d

/- A descriptor has one slot. -/
theorem Selector.Has.unique
    {sel : Selector}
    {fd : Fd}
    {i j : Interest}
    {x y : Attachment}
    (h : sel.Has fd i x)
    (h' : sel.Has fd j y) : i = j ∧ x = y := by
  have hEq := h.2.symm.trans h'.2
  rw [Option.some.injEq, Item.mk.injEq] at hEq
  exact hEq

section Picking

variable {k : ConnId}
variable {key : Key}
variable {s : St}
variable {interest wanted : Interest}

/- Without an origin the key is the client's. -/
theorem Keyed.client_of_none
    (hKey : Keyed k key s interest)
    (hOrigin : s.conn.originFd = -1) :
    key.fd = s.conn.clientFd := by
  rcases hKey.fd with hClient | hFd
  · exact hClient
  · have hValid := hKey.slot.1
    rw [hFd, hOrigin] at hValid
    exact absurd hValid (by decide)

theorem Keyed.interest_client
    (hKey : Keyed k key s interest)
    (hFd : key.fd = s.conn.clientFd)
    (hClient : s.srv.sel.Has s.conn.clientFd wanted
      (.socks k)) : interest = wanted := by
  have hSlot := hKey.slot
  rw [hFd] at hSlot
  exact (hSlot.unique hClient).1

theorem Keyed.interest_origin
    (hKey : Keyed k key s interest)
    (hFd : key.fd = s.conn.originFd)
    (hOrigin : s.srv.sel.Has s.conn.originFd wanted
      (.socks k)) : interest = wanted := by
  have hSlot := hKey.slot
  rw [hFd] at hSlot
  exact (hSlot.unique hOrigin).1

/- What the key waits for when there is only the client. -/
theorem Keyed.interest_alone
    (hKey : Keyed k key s interest)
    (hOrigin : s.conn.originFd = -1)
    (hClient : s.srv.sel.Has s.conn.clientFd wanted
      (.socks k)) : interest = wanted :=
  hKey.interest_client (hKey.client_of_none hOrigin) hClient

/- A handler of the state is called and returns. -/
def Picks
    (ready : StateDefinition → Option Handler)
    (k : ConnId)
    (key : Key)
    (a : Answers)
    (s : St) : Prop :=
  ∃ onReady,
    ready (clientStatbl
      (s.conn.current.getD HELLO_READ)) = some onReady ∧
    SocksTurn k key a s (onReady key a s)

/- The state has no handler for the event. -/
def Stuck
    (ready : StateDefinition → Option Handler)
    (s : St) : Prop :=
  ready (clientStatbl
    (s.conn.current.getD HELLO_READ)) = none ∧
  (RequestStarved s.conn ∨ ConnectedAtOnce s.conn)

/- The copying state, whichever event it is. -/
theorem copy_picks
    (hSound : s.srv.sel.Sound)
    (hOwns : Owns k s.srv.sel s.conn)
    (hKey : Keyed k key s interest)
    (hState : s.conn.current = some COPY)
    (hCopy : Copying s.conn)
    (hSlots : ∀ side, s.conn.fdOf side ≠ -1 →
      s.srv.sel.Has (s.conn.fdOf side)
        (s.conn.copyInterest side) (.socks k))
    (a : Answers) :
    (interest.read = true →
      Picks StateDefinition.onReadReady k key a s) ∧
      (interest.write = true →
        Picks StateDefinition.onWriteReady k key a s) := by
  have hSide : ∃ side, key.fd = s.conn.fdOf side := by
    rcases hKey.fd with hClient | hOrigin
    · exact ⟨.client, hClient⟩
    · exact ⟨.origin, hOrigin⟩
  rcases hSide with ⟨side, hFd⟩
  have hNone : s.conn.fdOf side ≠ -1 := by
    intro hEq
    have hValid := hKey.slot.1
    rw [hFd, hEq] at hValid
    exact absurd hValid (by decide)
  have hNe := hOwns.ne hSound
  have hInterest : interest = s.conn.copyInterest side := by
    have hSlot := hSlots side hNone
    rw [← hFd] at hSlot
    exact (hKey.slot.unique hSlot).1
  have hTurn : ∀ t, Relay side s t → RelayAsked side s t →
      SocksTurn k key a s (copyFinish side t) := by
    intro t hRelay hAsked
    exact .relay hState hCopy hSlots side hNone hFd t hRelay
      hAsked
  have hSame : key = ⟨s.conn.fdOf side, key.data⟩ := by
    rw [← hFd]
  rw [hInterest]
  constructor
  · intro hReady
    refine ⟨copyRead, by rw [hState]; rfl, ?_⟩
    rcases copyRead_eq hCopy.fds hNe side key.data a with
      ⟨t, hEq, hEnded | ⟨bytes, hSome, hRoom, hGot⟩⟩
    · rw [← hSame, hEnded] at hEq
      rw [hEq]
      exact hTurn _ .ended (Or.inl ⟨hReady, Or.inl rfl⟩)
    · rw [← hSame, hGot] at hEq
      rw [hEq]
      exact hTurn _ (.got bytes hSome hRoom)
        (Or.inl ⟨hReady, Or.inr ⟨bytes, rfl⟩⟩)
  · intro hReady
    refine ⟨copyWrite, by rw [hState]; rfl, ?_⟩
    rcases copyWrite_eq hCopy.fds hNe side key.data a with
      ⟨t, hEq, hFailed | ⟨n, hSent⟩⟩
    · rw [← hSame, hFailed] at hEq
      rw [hEq]
      exact hTurn _ .sendFailed
        (Or.inr ⟨hReady, Or.inl rfl⟩)
    · rw [← hSame, hSent] at hEq
      rw [hEq]
      exact hTurn _ (.sent n)
        (Or.inr ⟨hReady, Or.inr ⟨n, rfl⟩⟩)

theorem socks_picks_read
    (hSound : s.srv.sel.Sound)
    (hOwns : Owns k s.srv.sel s.conn)
    (hShape : SocksShape k s.srv.sel s.conn)
    (hSome : s.conn.current ≠ none)
    (hKey : Keyed k key s interest)
    (hReady : interest.read = true)
    (a : Answers) :
    Picks StateDefinition.onReadReady k key a s ∨
      Stuck StateDefinition.onReadReady s := by
  cases hShape with
  | fresh hState hOrigin hClient => exact absurd hState hSome
  | helloRead hState hOrigin hClient hHello =>
      refine Or.inl ⟨helloRead, by rw [hState]; rfl, ?_⟩
      exact .helloRead hState (hKey.client_of_none hOrigin)
        hOrigin hClient hHello _ (helloRead_outcome hKey.slot a)
  | userpassRead hState hOrigin hClient =>
      refine Or.inl ⟨authRead, by rw [hState]; rfl, ?_⟩
      exact .authRead hState (hKey.client_of_none hOrigin)
        hOrigin hClient _ (authRead_outcome hKey.slot a)
  | requestRead hState hOrigin hClient hStatus p hParser =>
      refine Or.inl ⟨requestRead, by rw [hState]; rfl, ?_⟩
      exact .requestRead hState
        (hKey.client_of_none hOrigin) hOrigin hClient hStatus p
        hParser _ (requestRead_outcome hKey.slot hStatus hParser a)
  | connectedAtOnce hState hClient hOrigin hAtOnce =>
      exact Or.inr ⟨by rw [hState]; rfl, Or.inr hAtOnce⟩
  | copy hState hCopy hSlots hGoing =>
      exact Or.inl ((copy_picks hSound hOwns hKey hState
        hCopy hSlots a).1 hReady)
  | helloWrite hState hOrigin hClient hHello =>
      rw [hKey.interest_alone hOrigin hClient] at hReady
      cases hReady
  | userpassWrite hState hOrigin hClient =>
      rw [hKey.interest_alone hOrigin hClient] at hReady
      cases hReady
  | requestStarved hState hOrigin hClient hStarved =>
      rw [hKey.interest_alone hOrigin hClient] at hReady
      cases hReady
  | resolving hState hOrigin hClient p hParser =>
      rw [hKey.interest_alone hOrigin hClient] at hReady
      cases hReady
  | connecting hState hClient hOrigin =>
      rcases hKey.fd with hFd | hFd
      · rw [hKey.interest_client hFd hClient] at hReady
        cases hReady
      · rw [hKey.interest_origin hFd hOrigin] at hReady
        cases hReady
  | connectFailed hState hClient hStatus hOrigin =>
      rcases hKey.fd with hFd | hFd
      · rw [hKey.interest_client hFd hClient] at hReady
        cases hReady
      · have hIdle := hOrigin _ (hFd ▸ hKey.slot.2)
        rw [show interest = opNoop from hIdle] at hReady
        cases hReady
  | requestWrite hState hClient hOrigin =>
      rcases hKey.fd with hFd | hFd
      · rw [hKey.interest_client hFd hClient] at hReady
        cases hReady
      · rcases hOrigin with hNone | hOrigin
        · rw [hKey.interest_alone hNone hClient] at hReady
          cases hReady
        · rw [hKey.interest_origin hFd hOrigin] at hReady
          cases hReady

theorem socks_picks_write
    (hSound : s.srv.sel.Sound)
    (hOwns : Owns k s.srv.sel s.conn)
    (hShape : SocksShape k s.srv.sel s.conn)
    (hSome : s.conn.current ≠ none)
    (hKey : Keyed k key s interest)
    (hReady : interest.write = true)
    (a : Answers) :
    Picks StateDefinition.onWriteReady k key a s ∨
      Stuck StateDefinition.onWriteReady s := by
  have hNe := hOwns.ne hSound
  cases hShape with
  | fresh hState hOrigin hClient => exact absurd hState hSome
  | helloWrite hState hOrigin hClient hHello =>
      refine Or.inl ⟨helloWrite, by rw [hState]; rfl, ?_⟩
      exact .helloWrite hState (hKey.client_of_none hOrigin)
        hOrigin hClient hHello _
        (helloWrite_outcome hKey.slot hHello.known a)
  | userpassWrite hState hOrigin hClient =>
      refine Or.inl ⟨authWrite, by rw [hState]; rfl, ?_⟩
      exact .authWrite hState (hKey.client_of_none hOrigin)
        hOrigin hClient _ (authWrite_outcome hKey.slot a)
  | requestStarved hState hOrigin hClient hStarved =>
      exact Or.inr ⟨by rw [hState]; rfl, Or.inl hStarved⟩
  | connecting hState hClient hOrigin =>
      have hFd : key.fd = s.conn.originFd := by
        rcases hKey.fd with hFd | hFd
        · rw [hKey.interest_client hFd hClient] at hReady
          cases hReady
        · exact hFd
      have hOther : s.conn.connStatus = .succeeded →
          key.fd ≠ s.conn.clientFd := by
        intro _
        rw [hFd]
        exact Ne.symm hNe
      refine Or.inl ⟨connectingWrite, by rw [hState]; rfl, ?_⟩
      exact .connectingWrite hState _ _ hKey hClient
        (fun _ => hFd) _
        (connectingWrite_outcome hKey.slot hClient hNe hOther
          a)
  | connectFailed hState hClient hStatus hOrigin =>
      refine Or.inl ⟨connectingWrite, by rw [hState]; rfl, ?_⟩
      exact .connectingWrite hState _ _ hKey hClient
        (fun hSucceeded => absurd hSucceeded hStatus) _
        (connectingWrite_outcome hKey.slot hClient hNe
          (fun hSucceeded => absurd hSucceeded hStatus) a)
  | requestWrite hState hClient hOrigin =>
      have hFd : key.fd = s.conn.clientFd := by
        rcases hKey.fd with hFd | hFd
        · exact hFd
        · rcases hOrigin with hNone | hSlot
          · exact hKey.client_of_none hNone
          · rw [hKey.interest_origin hFd hSlot] at hReady
            cases hReady
      refine Or.inl ⟨requestWrite, by rw [hState]; rfl, ?_⟩
      exact .requestWrite hState hFd hClient hOrigin _
        (requestWrite_outcome hClient hOrigin (Ne.symm hNe) a)
  | copy hState hCopy hSlots hGoing =>
      exact Or.inl ((copy_picks hSound hOwns hKey hState
        hCopy hSlots a).2 hReady)
  | helloRead hState hOrigin hClient hHello =>
      rw [hKey.interest_alone hOrigin hClient] at hReady
      cases hReady
  | userpassRead hState hOrigin hClient =>
      rw [hKey.interest_alone hOrigin hClient] at hReady
      cases hReady
  | requestRead hState hOrigin hClient hStatus p hParser =>
      rw [hKey.interest_alone hOrigin hClient] at hReady
      cases hReady
  | resolving hState hOrigin hClient p hParser =>
      rw [hKey.interest_alone hOrigin hClient] at hReady
      cases hReady
  | connectedAtOnce hState hClient hOrigin hAtOnce =>
      rcases hKey.fd with hFd | hFd
      · rw [hKey.interest_client hFd hClient] at hReady
        cases hReady
      · rw [hKey.interest_origin hFd hOrigin] at hReady
        cases hReady

/- What is known while a name is being resolved. -/
theorem SocksShape.of_resolving
    {sel : Selector}
    {c : Conn}
    (h : SocksShape k sel c)
    (hState : c.current = some REQUEST_RESOLV) :
    c.originFd = -1 ∧ sel.Has c.clientFd opNoop (.socks k) ∧
      ∃ p, c.request.parser = some p := by
  cases h with
  | resolving _ hOrigin hClient p hParser =>
      exact ⟨hOrigin, hClient, p, hParser⟩
  | fresh hOther =>
      rw [hState] at hOther
      cases hOther
  | helloRead hOther
  | helloWrite hOther
  | userpassRead hOther
  | userpassWrite hOther
  | requestRead hOther
  | requestStarved hOther
  | connecting hOther
  | connectFailed hOther
  | connectedAtOnce hOther
  | requestWrite hOther
  | copy hOther =>
      exact absurd (hState.symm.trans hOther) (by decide)

theorem socks_picks_block
    (hShape : SocksShape k s.srv.sel s.conn)
    (hState : s.conn.current = some REQUEST_RESOLV)
    (hFd : key.fd = s.conn.clientFd)
    (a : Answers) :
    Picks StateDefinition.onBlockReady k key a s := by
  rcases hShape.of_resolving hState with
    ⟨hOrigin, hClient, p, hParser⟩
  have hSlot := hClient
  rw [← hFd] at hSlot
  refine ⟨requestResolvDone, by rw [hState]; rfl, ?_⟩
  exact .requestResolvDone hState hFd hOrigin hClient p
    hParser _ (requestResolvDone_outcome hSlot a)

end Picking

end Socks5d

------------------------------------------------------------
-- What A Call Leaves
------------------------------------------------------------

namespace Socks5d

section Turning

variable {k : ConnId}
variable {key : Key}
variable {a : Answers}
variable {s : St}
variable {r : St × Nat}

/- Every call leaves the slots as its next state needs. -/
theorem SocksTurn.heading
    (h : SocksTurn k key a s r)
    (hSound : s.srv.sel.Sound)
    (hOwns : Owns k s.srv.sel s.conn)
    (hSocks : s.conn.isSocks = true) :
    Handled k s r.1 ∧
      SocksHeading k r.1.srv.sel r.1.conn r.2 := by
  rcases key with ⟨fd, data⟩
  cases h with
  | helloRead hState hFd hOrigin hClient hHello _ hCall =>
      subst hFd
      exact socks_helloRead hSound hOwns hSocks hState
        hOrigin hClient hHello hCall
  | helloWrite hState hFd hOrigin hClient hHello _ hCall =>
      subst hFd
      exact socks_helloWrite hSound hOwns hSocks hState
        hOrigin hClient hHello hCall
  | authRead hState hFd hOrigin hClient _ hCall =>
      subst hFd
      exact socks_authRead hSound hOwns hSocks hState hOrigin
        hClient hCall
  | authWrite hState hFd hOrigin hClient _ hCall =>
      subst hFd
      exact socks_authWrite hSound hOwns hSocks hState hOrigin
        hClient hCall
  | requestRead hState hFd hOrigin hClient hStatus p hParser
      _ hCall =>
      subst hFd
      exact socks_requestRead hSound hOwns hState hOrigin
        hClient hStatus hParser hCall
  | requestResolvDone hState hFd hOrigin hClient p hParser _
      hCall =>
      subst hFd
      exact socks_requestResolvDone hSound hOwns hState
        hOrigin hClient hParser hCall
  | connectingWrite hState interest clientInterest hKey
      hClient hFd _ hCall =>
      exact socks_connectingWrite hSound hOwns hState hKey
        hClient hFd hCall
  | requestWrite hState hFd hClient hOrigin _ hCall =>
      exact socks_requestWrite hSound hOwns hState hClient
        hOrigin hCall
  | relay hState hCopy hSlots side hSide hFd t hRelay =>
      exact socks_relay hSound hOwns hState hCopy hSlots
        hSide hRelay

end Turning

end Socks5d
