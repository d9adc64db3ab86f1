import Socks5d.HandshakeWiring

/-
  The handlers that connect to the origin, and the answer to
  the client: what they leave for the next state.

  Main declarations:
    * `Answered`, `answeredWith_handled`
    * `ConnectShape`, `connection_handled`
    * `connectingInit_handled`, `socks_connectingWrite`
    * `socks_requestWrite`
-/

------------------------------------------------------------
-- Answering A Failure
------------------------------------------------------------

namespace Socks5d

/- The tables after `errorHandlerToClient`. -/
structure Answered
    (attached : Attachment)
    (status : SocksReplyStatus)
    (t u : St) : Prop where
  client : u.srv.sel.Has t.conn.clientFd opWrite attached
  idle : u.srv.sel.Idle t.conn.originFd
  slot : ∀ interest owner,
    t.srv.sel.Has t.conn.originFd interest owner →
      u.srv.sel.Has t.conn.originFd opNoop owner
  opened : u.srv.sel.opened = t.srv.sel.opened
  conn : u.conn = (replied t status).conn

section Answering

variable {k : ConnId}
variable {s t : St}
variable {interest : Interest}
variable {attached : Attachment}

theorem answeredWith_handled
    (h : Handled k s t)
    (hSound : s.srv.sel.Sound)
    (hClient : t.srv.sel.Has t.conn.clientFd interest
      attached)
    (status : SocksReplyStatus) :
    Handled k s (answeredWith t attached status) ∧
      Answered attached status t
        (answeredWith t attached status) := by
  have hSound' := h.moves.sound hSound
  have hNe := h.owns.ne hSound'
  rcases replied_fields t status with
    ⟨_, hOrigin, hFd, _, _⟩
  -- the client is armed first
  have hReply := replied_handled h status
  have hHas : (replied t status).srv.sel.Has
      (replied t status).conn.clientFd interest attached := by
    rw [replied_srv, hFd]
    exact hClient
  have hArmed := hReply.arm_client hSound hHas opWrite
  have hSlot : ((replied t status).srv.sel.put
      (replied t status).conn.clientFd
        ⟨opWrite, attached⟩).Has
      (replied t status).conn.clientFd opWrite attached :=
    Selector.Has.put_self hHas.1 _
  rw [hFd] at hArmed hSlot
  unfold answeredWith
  have hSelf : ((replied t status).arm t.conn.clientFd
      opWrite attached).conn.originFd = t.conn.originFd :=
    hOrigin
  have hTables : ((replied t status).arm t.conn.clientFd
      opWrite attached).srv.sel =
        t.srv.sel.put t.conn.clientFd
          ⟨opWrite, attached⟩ := by
    rw [St.arm_sel, replied_srv]
  rcases idleOrigin_cases ((replied t status).arm
      t.conn.clientFd opWrite attached) with
    ⟨hSame, hNone⟩ | ⟨before, owner, hBefore, hIdle⟩
  · rw [hSame]
    rw [hSelf, hTables] at hNone
    refine ⟨hArmed, ?_, ?_, ?_, ?_, rfl⟩
    · exact hSlot
    · rw [hTables]
      intro item hItem
      have hValid :=
        (hArmed.moves.sound hSound).valid t.conn.originFd
          item (hTables ▸ hItem)
      exact absurd ⟨hValid, hItem⟩
        (hNone item.interest item.attached)
    · intro held owner hHeld
      exact absurd (hHeld.put_of_ne _ (Ne.symm hNe))
        (hNone held owner)
    · rw [hTables]
      rfl
  · rw [hIdle]
    rw [hSelf] at hBefore ⊢
    have hBoth : Handled k s
        (((replied t status).arm t.conn.clientFd opWrite
          attached).arm t.conn.originFd opNoop owner) := by
      apply hArmed.arm hSound (Or.inr hSelf.symm) hBefore
      intro _
      rfl
    refine ⟨hBoth, ?_, ?_, ?_, ?_, rfl⟩
    · exact hSlot.put_of_ne _ hNe
    · intro item hItem
      rw [St.arm_sel, Selector.put_fds_self] at hItem
      rw [← Option.some.inj hItem]
    · intro held holder hHeld
      have hKept := hHeld.put_of_ne ⟨opWrite, attached⟩
        (Ne.symm hNe)
      rw [← hTables] at hKept
      have hOwner : owner = holder := by
        have hEq := hBefore.2.symm.trans hKept.2
        rw [Option.some.injEq, Item.mk.injEq] at hEq
        exact hEq.2
      rw [← hOwner]
      exact Selector.Has.put_self hBefore.1 _
    · rw [St.arm_sel, Selector.put_opened, hTables]
      rfl

end Answering

end Socks5d

------------------------------------------------------------
-- One Call Of Connect
------------------------------------------------------------

namespace Socks5d

/-
  The slots after `connection`: the origin is waited for, the
  client has been armed for a failure, or both are armed for
  reading.
-/
inductive ConnectShape
    (k : ConnId)
    (sel : Selector)
    (c : Conn) : SocksReplyStatus → Prop where
  | underway
      (hClient : sel.Has c.clientFd opNoop (.socks k))
      (hOrigin : sel.Has c.originFd opWrite (.socks k)) :
      ConnectShape k sel c .succeeded
  | failed
      (status : SocksReplyStatus)
      (hFailed : status ≠ .succeeded)
      (hStatus : c.connStatus = status)
      (hClient : sel.Has c.clientFd opWrite (.socks k))
      (hOrigin : sel.Idle c.originFd) :
      ConnectShape k sel c status
  | atOnce
      (hClient : sel.Has c.clientFd opRead (.socks k))
      (hOrigin : sel.Has c.originFd opRead (.socks k))
      (hAtOnce : ConnectedAtOnce c) :
      ConnectShape k sel c .succeeded

section Connect

variable {k : ConnId}
variable {s t u : St}
variable {key : Key}
variable {interest clientInterest : Interest}

theorem general_ne_succeeded :
    SocksReplyStatus.generalSocksServerFailure ≠
      .succeeded := by
  decide

/- A failure after a call that moved no more descriptors. -/
theorem refusedWith_shape
    (h : Handled k s t)
    (hSound : s.srv.sel.Sound)
    (hClient : t.srv.sel.Has t.conn.clientFd interest
      (.socks k))
    {status : SocksReplyStatus}
    (hStatus : status ≠ .succeeded) :
    Handled k s (refusedWith t (.socks k) status) ∧
      Answered (.socks k) status
        { t with conn.connStatus := status }
        (refusedWith t (.socks k) status) ∧
      ConnectShape k
        (refusedWith t (.socks k) status).srv.sel
        (refusedWith t (.socks k) status).conn status := by
  have hFailed : Handled k s
      { t with conn.connStatus := status } :=
    h.of_eq rfl rfl rfl rfl id
  rcases answeredWith_handled hFailed hSound hClient status
    with ⟨hKept, hAnswered⟩
  rcases replied_fields { t with conn.connStatus := status }
      status with ⟨_, hOrigin, hFd, _, hConn⟩
  refine ⟨hKept, hAnswered, .failed status hStatus ?_ ?_ ?_⟩
  · rw [refusedWith_conn]
    exact hConn
  · rw [refusedWith_conn, hFd]
    exact hAnswered.client
  · rw [refusedWith_conn, hOrigin]
    exact hAnswered.idle

/- A free slot of the origin is filled. -/
theorem Handled.put_origin
    (h : Handled k s t)
    (hSound : s.srv.sel.Sound)
    (hFree : t.srv.sel.canRegister t.conn.originFd = true)
    (wanted : Interest)
    (attached : Attachment) :
    Handled k s (t.arm t.conn.originFd wanted attached) ∧
      (t.arm t.conn.originFd wanted attached).srv.sel.Has
        t.conn.originFd wanted attached := by
  have hValid := (Selector.canRegister_iff.mp hFree).1
  have hNe : t.conn.originFd ≠ -1 := by
    intro hEq
    rw [hEq] at hValid
    exact absurd hValid (by decide)
  refine ⟨⟨?_, h.owns.of_eq rfl rfl rfl, h.client, h.service,
    h.calm⟩, Selector.Has.put_self hValid _⟩
  refine h.moves.trans (.put ?_ hValid ?_)
  · exact h.owns.mine_origin (h.moves.sound hSound)
  · intro hClosed
    rcases h.owns.origin with hNone | ⟨domain, hOpen⟩
    · exact absurd hNone hNe
    · rw [hOpen] at hClosed
      cases hClosed

/- The origin is closed once its slot waits for nothing. -/
theorem Handled.drop
    (h : Handled k s u)
    (hSound : s.srv.sel.Sound)
    (hIdle : u.srv.sel.Idle u.conn.originFd) :
    Handled k s { u.close u.conn.originFd with
      conn.originFd := -1 } where
  moves := by
    refine h.moves.trans (.close ?_ hIdle)
    exact h.owns.mine_origin (h.moves.sound hSound)
  owns := by
    have hNe := h.owns.ne (h.moves.sound hSound)
    refine ⟨?_, Or.inl rfl, ?_⟩
    · exact (Selector.close_opened_of_ne hNe).trans
        h.owns.client
    · intro fd holder hOpen hConn
      by_cases hEq : fd = u.conn.originFd
      · have hClosed : (u.srv.sel.close
            u.conn.originFd).opened fd = none := by
          rw [hEq, Selector.close_opened_self]
        have hSome : (u.srv.sel.close
            u.conn.originFd).opened fd = some holder := hOpen
        rw [hClosed] at hSome
        cases hSome
      · have hBefore : u.srv.sel.opened fd = some holder :=
          (Selector.close_opened_of_ne hEq).symm.trans hOpen
        rcases h.owns.only fd holder hBefore hConn with
          hClient | hOrigin
        · exact Or.inl hClient
        · exact absurd hOrigin hEq
  client := h.client
  service := h.service
  calm := h.calm

/- The descriptor -1 has no slot. -/
theorem idle_neg_one
    {sel : Selector}
    (hSound : sel.Sound) : sel.Idle (-1) := by
  intro item hItem
  exact absurd (hSound.valid _ _ hItem) (by decide)

/- The key of a handler has a slot of the connection. -/
structure Keyed
    (k : ConnId)
    (key : Key)
    (s : St)
    (interest : Interest) : Prop where
  data : key.data = k
  fd : key.fd = s.conn.clientFd ∨ key.fd = s.conn.originFd
  slot : s.srv.sel.Has key.fd interest (.socks k)

theorem attempted_handled
    (h : Handled k s t)
    (a : Answers) :
    Handled k s (attempted a t) :=
  h.of_eq rfl rfl rfl rfl id

/- Arming the key leaves a slot for the client. -/
theorem Handled.arm_key
    (h : Handled k s t)
    (hSound : s.srv.sel.Sound)
    (hKey : Keyed k key t interest)
    (wanted : Interest)
    (hClient : t.srv.sel.Has t.conn.clientFd clientInterest
      (.socks k)) :
    Handled k s (t.arm key.fd wanted (.socks k)) ∧
      ∃ i, (t.arm key.fd wanted (.socks k)).srv.sel.Has
        t.conn.clientFd i (.socks k) := by
  constructor
  · apply h.arm hSound hKey.fd hKey.slot
    intro hClosed
    rcases hKey.fd with hFd | hFd
    · rw [hFd, h.owns.client] at hClosed
      cases hClosed
    · rcases h.owns.origin with hNone | ⟨domain, hOpen⟩
      · have hValid := hKey.slot.1
        rw [hFd, hNone] at hValid
        exact absurd hValid (by decide)
      · rw [hFd, hOpen] at hClosed
        cases hClosed
  · exact has_client_after hKey.slot hClient wanted

/- A free origin slot is not the slot of the key. -/
theorem Keyed.client_of_free
    (hKey : Keyed k key t interest)
    (hFree : t.srv.sel.canRegister t.conn.originFd = true) :
    key.fd = t.conn.clientFd := by
  rcases hKey.fd with hClient | hOrigin
  · exact hClient
  · have hTaken := hKey.slot.not_canRegister
    rw [hOrigin, hFree] at hTaken
    cases hTaken

theorem connection_handled
    (h : Handled k s t)
    (hSound : s.srv.sel.Sound)
    (hKey : Keyed k key t interest)
    (hClient : t.srv.sel.Has t.conn.clientFd clientInterest
      (.socks k))
    {a : Answers}
    {r : St × SocksReplyStatus}
    (hCall : Connection key a t (.socks k) r) :
    Handled k s r.1 ∧
      ConnectShape k r.1.srv.sel r.1.conn r.2 ∧
      r.1.conn.current = t.conn.current := by
  have hTried := attempted_handled h a
  have hKey' : Keyed k key (attempted a t) interest :=
    ⟨hKey.data, hKey.fd, hKey.slot⟩
  have hKey'' : Keyed k key (takeReference key
      (attempted a t)) interest :=
    ⟨hKey.data, hKey.fd, hKey.slot⟩
  cases hCall with
  | refused errno hAnswer =>
      have hChanged : Handled k s { attempted a t with
          conn.request.status :=
            errnoToSocks (some errno) } :=
        hTried.of_eq rfl rfl rfl rfl id
      rcases refusedWith_shape hChanged hSound hClient
          (errnoToSocks_ne errno) with ⟨hKept, _, hShape⟩
      refine ⟨hKept, hShape, ?_⟩
      rw [refusedWith_conn]
      exact (replied_fields _ _).1
  | underway hAnswer hFree =>
      have hFree' : t.srv.sel.canRegister
          t.conn.originFd = true := hFree
      have hFd := hKey.client_of_free hFree'
      have hNe := h.owns.ne (h.moves.sound hSound)
      rcases hTried.arm_key hSound hKey' opNoop hClient with
        ⟨hArmed, _⟩
      rcases hArmed.put_origin hSound
          ((hKey.slot.canRegister_put _ _).trans hFree')
          opWrite (.socks k) with ⟨hBoth, hOrigin⟩
      rw [hKey.data]
      refine ⟨hBoth.of_eq rfl rfl rfl rfl id, ?_, rfl⟩
      refine .underway ?_ hOrigin
      have hFirst : (t.srv.sel.put key.fd
          ⟨opNoop, .socks k⟩).Has t.conn.clientFd opNoop
            (.socks k) := by
        rw [← hFd]
        exact Selector.Has.put_self hKey.slot.1 _
      exact hFirst.put_of_ne _ hNe
  | blocked hAnswer hTaken =>
      rcases hTried.arm_key hSound hKey' opNoop hClient with
        ⟨hArmed, i, hStill⟩
      rcases refusedWith_shape hArmed hSound hStill
          general_ne_succeeded
        with ⟨hKept, hAnswered, hShape⟩
      have hFd := refusedWith_originFd
        ((attempted a t).arm key.fd opNoop (.socks k))
        (.socks k) .generalSocksServerFailure
      have hIdle : (refusedWith
          ((attempted a t).arm key.fd opNoop (.socks k))
          (.socks k)
          .generalSocksServerFailure).srv.sel.Idle
            (refusedWith
              ((attempted a t).arm key.fd opNoop (.socks k))
              (.socks k)
              .generalSocksServerFailure).conn.originFd := by
        rw [hFd]
        exact hAnswered.idle
      have hDropped := hKept.drop hSound hIdle
      rw [hFd] at hDropped
      refine ⟨hDropped, ?_, ?_⟩
      · cases hShape with
        | failed _ hFailed hStatus hWrite _ =>
            exact .failed _ hFailed hStatus hWrite
              (idle_neg_one
                (hDropped.moves.sound hSound))
      · show (refusedWith _ _ _).conn.current = _
        rw [refusedWith_conn]
        exact (replied_fields _ _).1
  | atOnce hAnswer hFree =>
      have hFree' : t.srv.sel.canRegister
          t.conn.originFd = true := hFree
      have hFd := hKey.client_of_free hFree'
      have hNe := h.owns.ne (h.moves.sound hSound)
      have hTaken : Handled k s
          (takeReference key (attempted a t)) :=
        hTried.of_eq rfl rfl rfl rfl id
      rcases hTaken.arm_key hSound hKey'' opRead hClient with
        ⟨hArmed, _⟩
      rcases hArmed.put_origin hSound
          ((hKey.slot.canRegister_put _ _).trans hFree')
          opRead (.socks k) with ⟨hBoth, hOrigin⟩
      rw [hKey.data]
      refine ⟨hBoth, .atOnce ?_ hOrigin ?_, rfl⟩
      · have hFirst : (t.srv.sel.put key.fd
            ⟨opRead, .socks k⟩).Has t.conn.clientFd opRead
              (.socks k) := by
          rw [← hFd]
          exact Selector.Has.put_self hKey.slot.1 _
        exact hFirst.put_of_ne _ hNe
      · exact ⟨connectAttempt a t,
          List.mem_append_right _ (List.mem_singleton_self _),
          hAnswer, hFree⟩
  | atOnceBlocked hAnswer hTaken =>
      have hRef : Handled k s
          (takeReference key (attempted a t)) :=
        hTried.of_eq rfl rfl rfl rfl id
      rcases hRef.arm_key hSound hKey'' opRead hClient with
        ⟨hArmed, i, hStill⟩
      rcases refusedWith_shape hArmed hSound hStill
          general_ne_succeeded
        with ⟨hKept, _, hShape⟩
      refine ⟨hKept, hShape, ?_⟩
      rw [refusedWith_conn]
      exact (replied_fields _ _).1

end Connect

end Socks5d

------------------------------------------------------------
-- The States Around It
------------------------------------------------------------

namespace Socks5d

section States

variable {k : ConnId}
variable {s t : St}
variable {key : Key}
variable {interest : Interest}

/- The socket that `connecting_init` opens is the origin. -/
theorem withSocket_handled
    (h : Handled k s t)
    (hSound : s.srv.sel.Sound)
    (hOrigin : t.conn.originFd = -1)
    (hData : key.data = k)
    {a : Answers}
    {fd : Fd}
    (hGrant : t.srv.sel.grant a.socket = some fd) :
    Handled k s (withSocket key a fd
      (connectingStarted (some fd) t)) where
  moves := by
    rcases Selector.grant_eq_some hGrant with
      ⟨hNonneg, hFree⟩
    refine h.moves.trans (.openFd hNonneg hFree ?_)
    show some key.data = some k
    rw [hData]
  owns := by
    rcases Selector.grant_eq_some hGrant with
      ⟨hNonneg, hFree⟩
    have hNe : t.conn.clientFd ≠ fd := by
      intro hEq
      have hOpen := h.owns.client
      rw [hEq, hFree] at hOpen
      cases hOpen
    refine ⟨?_, Or.inr ⟨t.conn.originDomain, ?_⟩, ?_⟩
    · exact (Selector.openFd_opened_of_ne _ hNe).trans
        h.owns.client
    · rw [← hData]
      exact Selector.openFd_opened_self _ _ _
    · intro other holder hOpen hConn
      by_cases hEq : other = fd
      · exact Or.inr hEq
      · left
        have hBefore : t.srv.sel.opened other =
            some holder :=
          (Selector.openFd_opened_of_ne _ hEq).symm.trans
            hOpen
        rcases h.owns.only other holder hBefore hConn with
          hClient | hNone
        · exact hClient
        · have hNonneg := (h.moves.sound hSound).nonneg _ _
            hBefore
          rw [hNone, hOrigin] at hNonneg
          exact absurd hNonneg (by decide)
  client := h.client
  service := h.service
  calm := h.calm

/- The slots after `connection`, in the state of a try. -/
theorem ConnectShape.socks
    {sel : Selector}
    {c : Conn}
    {status : SocksReplyStatus}
    (hState : c.current = some REQUEST_CONNECTING)
    (h : ConnectShape k sel c status) :
    SocksShape k sel c := by
  cases h with
  | underway hClient hOrigin =>
      exact .connecting hState hClient hOrigin
  | failed _ hFailed hStatus hClient hOrigin =>
      rw [← hStatus] at hFailed
      exact .connectFailed hState hClient hFailed hOrigin
  | atOnce hClient hOrigin hAtOnce =>
      exact .connectedAtOnce hState hClient hOrigin hAtOnce

/- The status that `connecting_init` stores changes nothing. -/
theorem ConnectShape.stored
    {sel : Selector}
    {c : Conn}
    {status : SocksReplyStatus}
    (h : ConnectShape k sel c status) :
    ConnectShape k sel { c with connStatus := status }
      status := by
  cases h with
  | underway hClient hOrigin =>
      exact .underway hClient hOrigin
  | failed _ hFailed hStatus hClient hOrigin =>
      exact .failed status hFailed rfl hClient hOrigin
  | atOnce hClient hOrigin hAtOnce =>
      exact .atOnce hClient hOrigin hAtOnce

/- What `connecting_init` leaves in the state it enters. -/
theorem connectingInit_handled
    (h : Handled k s t)
    (hSound : s.srv.sel.Sound)
    (hState : t.conn.current = some REQUEST_CONNECTING)
    (hOrigin : t.conn.originFd = -1)
    (hKey : Keyed k key t interest)
    {clientInterest : Interest}
    (hClient : t.srv.sel.Has t.conn.clientFd clientInterest
      (.socks k))
    {a : Answers}
    {u : St}
    (hInit : ConnectingInit key a t (.socks k) u) :
    Handled k s u ∧ SocksShape k u.srv.sel u.conn := by
  cases hInit with
  | noSocket hNone =>
      have hStarted : Handled k s
          { connectingStarted none t with
            conn.originFd := -1 } :=
        h.of_eq rfl rfl hOrigin.symm rfl id
      rcases refusedWith_shape hStarted hSound hClient
          general_ne_succeeded with ⟨hKept, _, hShape⟩
      refine ⟨hKept, hShape.socks ?_⟩
      rw [refusedWith_conn, (replied_fields _ _).1]
      exact hState
  | notSet fd hSome hNio =>
      have hOpened := withSocket_handled h hSound hOrigin
        hKey.data hSome
      rcases refusedWith_shape hOpened hSound hClient
          general_ne_succeeded with ⟨hKept, _, hShape⟩
      refine ⟨hKept, hShape.socks ?_⟩
      rw [refusedWith_conn, (replied_fields _ _).1]
      exact hState
  | connected fd hSome hNio result hResult =>
      have hOpened := withSocket_handled h hSound hOrigin
        hKey.data hSome
      have hFd : key.fd = t.conn.clientFd := by
        rcases hKey.fd with hFd | hFd
        · exact hFd
        · have hValid := hKey.slot.1
          rw [hFd, hOrigin] at hValid
          exact absurd hValid (by decide)
      have hKey' : Keyed k key (withSocket key a fd
          (connectingStarted (some fd) t)) interest :=
        ⟨hKey.data, Or.inl hFd, hKey.slot⟩
      rcases connection_handled hOpened hSound hKey' hClient
          hResult with ⟨hKept, hShape, hCurrent⟩
      exact ⟨hKept.of_eq rfl rfl rfl rfl id,
        hShape.stored.socks (hCurrent.trans hState)⟩

/- Aiming at the next address moves no descriptor. -/
theorem aimNext_handled
    (h : Handled k s t)
    (next : Addrinfo)
    (rest : List Addrinfo) :
    Handled k s (aimNext next rest t) := by
  rcases aimNext_eq next rest t with ⟨addr, hEq⟩
  rw [hEq]
  exact h.of_eq rfl rfl rfl rfl id

/- The next address is tried in the same state. -/
theorem socks_retry
    (h : Handled k s t)
    (hSound : s.srv.sel.Sound)
    (hState : t.conn.current = some REQUEST_CONNECTING)
    (hKey : Keyed k key t interest)
    {clientInterest : Interest}
    (hClient : t.srv.sel.Has t.conn.clientFd clientInterest
      (.socks k))
    (next : Addrinfo)
    (rest : List Addrinfo)
    {a : Answers}
    {r : St × SocksReplyStatus}
    (hCall : Connection key a (aimNext next rest t)
      (.socks k) r) :
    Handled k s r.1 ∧
      SocksHeading k r.1.srv.sel r.1.conn
        REQUEST_CONNECTING := by
  have hAimed := aimNext_handled h next rest
  rcases aimNext_eq next rest t with ⟨addr, hEq⟩
  have hKey' : Keyed k key (aimNext next rest t)
      interest := by
    rw [hEq]
    exact ⟨hKey.data, hKey.fd, hKey.slot⟩
  have hClient' : (aimNext next rest t).srv.sel.Has
      (aimNext next rest t).conn.clientFd clientInterest
        (.socks k) := by
    rw [hEq]
    exact hClient
  rcases connection_handled hAimed hSound hKey' hClient'
      hCall with ⟨hKept, hShape, hCurrent⟩
  have hSame : r.1.conn.current =
      some REQUEST_CONNECTING := by
    rw [hCurrent, hEq]
    exact hState
  exact ⟨hKept, .stay _ hSame (by decide)
    (hShape.socks hSame)⟩

/- The socket of the origin is given up. -/
theorem dropOrigin_handled
    (hSound : s.srv.sel.Sound)
    (hOwns : Owns k s.srv.sel s.conn) :
    Handled k s (dropOrigin s) := by
  have hMine := hOwns.mine_origin hSound
  have hUnregistered : Handled k s { s with
        srv := (unregisterFd s.srv s.conn.originFd).1 } ∧
      Selector.Idle
        (unregisterFd s.srv s.conn.originFd).1.sel
        s.conn.originFd := by
    rcases unregisterFd_cases s.srv s.conn.originFd with
      ⟨hSame, hNone⟩ | ⟨_, _, hHas, _, hClear⟩
    · rw [hSame]
      refine ⟨.refl hOwns, ?_⟩
      intro item hItem
      have hValid := hSound.valid _ _ hItem
      exact absurd ⟨hValid, hItem⟩
        (hNone item.interest item.attached)
    · refine ⟨⟨?_, ?_, rfl, rfl, ?_⟩, ?_⟩
      · rw [hClear]
        exact .clear hMine
      · exact hOwns.of_eq (by rw [hClear]; rfl) rfl rfl
      · intro hFault
        exact (unregisterFd_fault _ _).symm.trans hFault
      · rw [hClear]
        intro item hItem
        rw [Selector.clear_fds_self] at hItem
        cases hItem
  exact hUnregistered.1.drop hSound hUnregistered.2

/- An answered failure heads for the client. -/
theorem answered_heading
    (h : Handled k s t)
    (hSound : s.srv.sel.Sound)
    (hState : t.conn.current = some REQUEST_CONNECTING)
    (hClient : ∃ i, t.srv.sel.Has t.conn.clientFd i
      (.socks k))
    (hOrigin : t.conn.originFd = -1 ∨ ∃ i,
      t.srv.sel.Has t.conn.originFd i (.socks k))
    (status : SocksReplyStatus) :
    Handled k s (answeredWith t (.socks k) status) ∧
      SocksHeading k
        (answeredWith t (.socks k) status).srv.sel
        (answeredWith t (.socks k) status).conn
        REQUEST_WRITE := by
  rcases hClient with ⟨clientInterest, hClient⟩
  rcases answeredWith_handled h hSound hClient status with
    ⟨hKept, hAnswered⟩
  rcases replied_fields t status with
    ⟨hSame, hFd, hFdClient, _, _⟩
  refine ⟨hKept, ?_⟩
  rw [hAnswered.conn]
  refine .requestWrite ?_ ?_ ?_ ?_
  · rw [hSame]
    exact Or.inr (Or.inr hState)
  · rw [hSame, hState]
    intro hBad
    cases hBad
  · rw [hFdClient]
    exact hAnswered.client
  · rw [hFd]
    rcases hOrigin with hNone | ⟨i, hHas⟩
    · exact Or.inl hNone
    · exact Or.inr (hAnswered.slot i _ hHas)

theorem socks_connectingWrite
    (hSound : s.srv.sel.Sound)
    (hOwns : Owns k s.srv.sel s.conn)
    (hState : s.conn.current = some REQUEST_CONNECTING)
    (hKey : Keyed k key s interest)
    {clientInterest : Interest}
    (hClient : s.srv.sel.Has s.conn.clientFd clientInterest
      (.socks k))
    (hFd : s.conn.connStatus = .succeeded →
      key.fd = s.conn.originFd)
    {a : Answers}
    {r : St × Nat}
    (hWrite : ConnectingWrite key a s (.socks k) r) :
    Handled k s r.1 ∧
      SocksHeading k r.1.srv.sel r.1.conn r.2 := by
  have hNe := hOwns.ne hSound
  have hSelf := Handled.refl hOwns
  cases hWrite with
  | nextAfterFailure next rest hStatus hNext result hResult =>
      exact socks_retry hSelf hSound hState hKey hClient next
        rest hResult
  | nextAfterError errno next rest hStatus hError hNext
      result hResult =>
      have hNoted : Handled k s { s.note (.soError
            (some (some errno)) (nextAddresses s).length)
          with conn.connStatus := errnoToSocks (some errno) } :=
        hSelf.of_eq rfl rfl rfl rfl id
      exact socks_retry hNoted hSound hState
        ⟨hKey.data, hKey.fd, hKey.slot⟩
        (show Selector.Has _ _ clientInterest _
          from hClient) next rest hResult
  | gaveUp hStatus hNone =>
      exact answered_heading
        (dropOrigin_handled hSound hOwns) hSound hState
        ⟨_, has_client_dropOrigin hClient hNe⟩ (Or.inl rfl)
        s.conn.connStatus
  | noAnswer hStatus hError =>
      have hSlot := hKey.slot
      rw [hFd hStatus] at hSlot
      refine answered_heading ?_ hSound ?_ ?_ ?_ _
      · exact hSelf.of_eq rfl rfl rfl rfl id
      · exact hState
      · exact ⟨clientInterest, hClient⟩
      · exact Or.inr ⟨interest, hSlot⟩
  | failed errno hStatus hError hNone =>
      have hSlot := hKey.slot
      rw [hFd hStatus] at hSlot
      refine answered_heading ?_ hSound ?_ ?_ ?_ _
      · exact hSelf.of_eq rfl rfl rfl rfl id
      · exact hState
      · exact ⟨clientInterest, hClient⟩
      · exact Or.inr ⟨interest, hSlot⟩
  | established hStatus hError hRoom =>
      have hSlot := hKey.slot
      rw [hFd hStatus] at hSlot ⊢
      have hUp : Handled k s (established (s.note
          (.soError (some none)
            (nextAddresses s).length))) :=
        hSelf.of_eq rfl rfl rfl rfl id
      rcases replied_fields (established (s.note
          (.soError (some none) (nextAddresses s).length)))
          .succeeded with ⟨hSame, hFdOrigin, hFdClient, _, _⟩
      rcases replied_arm_handled hUp hSound rfl hClient
          .succeeded with ⟨hArmed, hFirst⟩
      have hStill := hSlot.put_of_ne ⟨opWrite, .socks k⟩
        (Ne.symm hNe)
      have hTables : ((replied (established (s.note
            (.soError (some none)
              (nextAddresses s).length))) .succeeded).arm
            s.conn.clientFd opWrite (.socks k)).srv.sel =
          s.srv.sel.put s.conn.clientFd
            ⟨opWrite, .socks k⟩ := by
        rw [St.arm_sel, replied_srv]
        rfl
      rw [← hTables] at hStill
      refine ⟨hArmed.arm hSound (Or.inr hFdOrigin.symm)
        hStill opNoop (fun _ => rfl), ?_⟩
      refine .requestWrite ?_ ?_ ?_ ?_
      · exact Or.inr (Or.inr (hSame.trans hState))
      · intro hBad
        rw [St.arm_conn, St.arm_conn, hSame] at hBad
        exact absurd (hBad.symm.trans hState) (by decide)
      · rw [St.arm_conn, St.arm_conn, hFdClient]
        exact hFirst.put_of_ne _ hNe
      · right
        rw [St.arm_conn, St.arm_conn, hFdOrigin]
        exact Selector.Has.put_self hStill.1 _
  | full hStatus hError hRoom =>
      have hSlot := hKey.slot
      rw [hFd hStatus] at hSlot
      refine ⟨hSelf.of_eq rfl rfl rfl rfl id, ?_⟩
      refine .ends ERROR (Or.inr rfl) ?_ ?_ ?_
      · show s.conn.current ≠ _ ∧ s.conn.current ≠ _
        rw [hState]
        decide
      · intro hBad
        exact absurd (hBad.symm.trans hState) (by decide)
      · intro side _
        cases side with
        | client => exact ⟨clientInterest, hClient⟩
        | origin => exact ⟨interest, hSlot⟩

/- What `request_write` leaves. -/
theorem socks_requestWrite
    (hSound : s.srv.sel.Sound)
    (hOwns : Owns k s.srv.sel s.conn)
    (hState : s.conn.current = some REQUEST_WRITE)
    (hClient : s.srv.sel.Has s.conn.clientFd opWrite
      (.socks k))
    (hOrigin : s.conn.originFd = -1 ∨
      s.srv.sel.Has s.conn.originFd opNoop (.socks k))
    {a : Answers}
    {r : St × Nat}
    (hWrite : RequestWrite key a s (.socks k) r) :
    Handled k s r.1 ∧
      SocksHeading k r.1.srv.sel r.1.conn r.2 := by
  have hNe := hOwns.ne hSound
  have hSlots : s.conn.Slotted (.socks k) s.srv.sel := by
    intro side hFd
    cases side with
    | client => exact ⟨opWrite, hClient⟩
    | origin =>
        rcases hOrigin with hNone | hHas
        · exact absurd hNone hFd
        · exact ⟨opNoop, hHas⟩
  cases hWrite with
  | failed hSend =>
      refine ⟨note_handled hOwns _, ?_⟩
      refine .ends ERROR (Or.inr rfl) ?_ ?_ hSlots
      · show s.conn.current ≠ _ ∧ s.conn.current ≠ _
        rw [hState]
        decide
      · intro hBad
        exact absurd (hBad.symm.trans hState) (by decide)
  | more n hSend hLeft =>
      refine ⟨sendPending_handled hOwns _ n, ?_⟩
      exact .stay REQUEST_WRITE hState (by decide)
        (.requestWrite hState hClient hOrigin)
  | alone n hSend hSent hStatus hNone =>
      rcases armed_handled (sendPending_handled hOwns key n)
          hSound rfl hClient opRead with ⟨hArmed, hHas⟩
      exact ⟨hArmed, .copy hState (slotted_alone hNone hHas)⟩
  | relay n hSend hSent hStatus hSome =>
      rcases hOrigin with hNone | hSlot
      · exact absurd hNone hSome
      rcases armed_handled (sendPending_handled hOwns key n)
          hSound rfl hClient opRead with ⟨hArmed, hHas⟩
      have hStill := hSlot.put_of_ne ⟨opRead, .socks k⟩
        (Ne.symm hNe)
      have hOpen : s.srv.sel.opened s.conn.originFd ≠ none := by
        rcases hOwns.origin with hNone | ⟨domain, hOpen⟩
        · exact absurd hNone hSome
        · rw [hOpen]
          exact Option.some_ne_none _
      refine ⟨hArmed.arm hSound (Or.inr rfl) hStill opRead
        (fun hClosed => absurd hClosed hOpen), ?_⟩
      refine .copy hState ?_
      intro side _
      cases side with
      | client => exact ⟨opRead, hHas.put_of_ne _ hNe⟩
      | origin =>
          exact ⟨opRead, Selector.Has.put_self hStill.1 _⟩
  | done n hSend hSent hStatus =>
      rcases armed_handled (sendPending_handled hOwns key n)
          hSound rfl hClient opNoop with ⟨hArmed, hHas⟩
      refine ⟨hArmed, .ends DONE (Or.inl rfl) ?_ ?_ ?_⟩
      · show s.conn.current ≠ _ ∧ s.conn.current ≠ _
        rw [hState]
        decide
      · intro hBad
        exact absurd (hBad.symm.trans hState) (by decide)
      · intro side hFd
        cases side with
        | client => exact ⟨opNoop, hHas⟩
        | origin =>
            rcases hOrigin with hNone | hSlot
            · exact absurd hNone hFd
            · exact ⟨opNoop, hSlot.put_of_ne _
                (Ne.symm hNe)⟩

end States

end Socks5d
