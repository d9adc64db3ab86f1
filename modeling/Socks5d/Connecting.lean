import Socks5d.RequestStates

/-
  Connecting to the origin server: `connecting.c`.

  Main declarations:
    * `connection`
    * `connectingInit`, `connectingWrite`, `connectingClose`
-/

namespace Socks5d

/-
  The call of `connect` in `connection`; on the descriptor -1
  it fails with `EBADF`.
-/
def connectAttempt
    (a : Answers)
    (s : St) : Attempt where
  fd := s.conn.originFd
  domain := (s.srv.sel.opened s.conn.originFd).bind
    Holder.domain?
  addr := s.conn.originAddr
  addrLen := s.conn.originAddrLen
  answer :=
    if s.conn.originFd < 0 then .failed .other
    else a.connect
  registrable := s.srv.sel.canRegister s.conn.originFd

/- The failure paths of `connection` after `connect`. -/
def connectionFailed
    (s : St)
    (status : SocksReplyStatus) : St :=
  errorHandlerToClient
    { s with conn.connStatus := status } status

/- `references += 1` -/
def takeReference
    (key : Key)
    (s : St) : St :=
  { s with
    srv.references :=
      Function.update s.srv.references key.data
        (s.srv.references key.data + 1) }

/- The branch of `connection` for `EINPROGRESS`. -/
def connectionInProgress
    (key : Key)
    (s : St) : St × SocksReplyStatus :=
  let failure := SocksReplyStatus.generalSocksServerFailure
  let set := s.setInterest key.fd opNoop
  if set.2 then
    let s := set.1
    let reg := s.register s.conn.originFd opWrite
      (.socks key.data)
    if reg.2 then (takeReference key reg.1, .succeeded)
    else
      let s := connectionFailed reg.1 failure
      let s := s.close s.conn.originFd
      ({ s with conn.originFd := -1 }, failure)
  else
    (connectionFailed set.1 failure, failure)

/-
  The branch of `connection` for a `connect` that succeeds at
  once: the reference is taken before the registration.
-/
def connectionAtOnce
    (key : Key)
    (s : St) : St × SocksReplyStatus :=
  let failure := SocksReplyStatus.generalSocksServerFailure
  let set := (takeReference key s).setInterest key.fd opRead
  if set.2 then
    let s := set.1
    let reg := s.register s.conn.originFd opRead
      (.socks key.data)
    if reg.2 then (reg.1, .succeeded)
    else (connectionFailed reg.1 failure, failure)
  else
    (connectionFailed set.1 failure, failure)

/- The branch of `connection` for an error of `connect`. -/
def connectionRefused
    (errno : Errno)
    (s : St) : St × SocksReplyStatus :=
  let status := errnoToSocks (some errno)
  (connectionFailed
    { s with conn.request.status := status } status, status)

/- The state right after the call of `connect`. -/
def attempted
    (a : Answers)
    (s : St) : St :=
  St.note { s with
      srv.metrics.historicConnectionsAttempts :=
        s.srv.metrics.historicConnectionsAttempts + 1 }
    (.connect (connectAttempt a s))

/- `connection` -/
def connection
    (key : Key)
    (a : Answers)
    (s : St) : St × SocksReplyStatus :=
  match (connectAttempt a s).answer with
  | .failed errno => connectionRefused errno (attempted a s)
  | .inProgress => connectionInProgress key (attempted a s)
  | .connected => connectionAtOnce key (attempted a s)

/- `connecting_init` up to the call of `socket` -/
def connectingStarted
    (granted : Option Fd)
    (s : St) : St :=
  St.note { s with conn.connStatus := .succeeded }
    (.socket s.conn.originDomain granted)

/- The socket is open and `selector_fd_set_nio` was called. -/
def withSocket
    (key : Key)
    (a : Answers)
    (fd : Fd)
    (s : St) : St :=
  St.note { s with
      conn.originFd := fd
      srv.sel := s.srv.sel.openFd fd
        (.origin key.data s.conn.originDomain) }
    (.nonblocking a.nio)

/- `connecting_init` -/
def connectingInit
    (key : Key)
    (a : Answers)
    (s : St) : St :=
  let failure := SocksReplyStatus.generalSocksServerFailure
  let granted := s.srv.sel.grant a.socket
  let s := connectingStarted granted s
  match granted with
  | none =>
      connectionFailed { s with conn.originFd := -1 } failure
  | some fd =>
      let s := withSocket key a fd s
      if a.nio then
        let connected := connection key a s
        { connected.1 with conn.connStatus := connected.2 }
      else
        connectionFailed s failure

/- `origin_resolution_current->ai_next != NULL` -/
def nextAddresses (s : St) : List Addrinfo :=
  s.conn.resolutionCurrent.tail

/-
  The retry of `connecting_write`: only the address is
  replaced.
-/
def aimNext
    (next : Addrinfo)
    (rest : List Addrinfo)
    (s : St) : St :=
  let s := { s with conn.resolutionCurrent := next :: rest }
  if next.family = .unspec then s
  else { s with conn.originAddr := next.addr }

/- What `connection` returns is dropped. -/
def retryNext
    (key : Key)
    (a : Answers)
    (next : Addrinfo)
    (rest : List Addrinfo)
    (s : St) : St :=
  (connection key a (aimNext next rest s)).1

/- The line `Register A` that is printed. -/
def noteAccess (s : St) : St :=
  s.note (.access
    ((s.srv.users.entry s.conn.userIndex).name.getD [])
    s.conn.connStatus)

/- A failure that `connecting_write` prints and answers. -/
def connectingFailed
    (s : St)
    (status : SocksReplyStatus) : St × Nat :=
  let s := noteAccess { s with conn.connStatus := status }
  (errorHandlerToClient s status, REQUEST_WRITE)

/- The counters of an established connection. -/
def countConnection (m : Metrics) : Metrics :=
  let concurrent := m.concurrentConnections + 1
  { m with
    historicConnections := m.historicConnections + 1
    concurrentConnections := concurrent
    maxConcurrentConnections :=
      if concurrent > m.maxConcurrentConnections then
        concurrent
      else m.maxConcurrentConnections }

/- The connection is up, and is counted and printed. -/
def established (s : St) : St :=
  let s := noteAccess { s with
    srv.metrics := countConnection s.srv.metrics }
  { s with conn.connStatus := .succeeded }

/- The end of `connecting_write`. -/
def connectingEstablished
    (key : Key)
    (s : St) : St × Nat :=
  let marshalled := requestMarshall (established s) .succeeded
  if marshalled.2 then
    let client := marshalled.1.setInterest
      marshalled.1.conn.clientFd opWrite
    let origin := client.1.setInterest key.fd opNoop
    (origin.1,
      if client.2 && origin.2 then REQUEST_WRITE else ERROR)
  else
    (marshalled.1, ERROR)

/- The origin socket is unregistered and closed. -/
def dropOrigin (s : St) : St :=
  let s := { s with
    srv := (unregisterFd s.srv s.conn.originFd).1 }
  let s := s.close s.conn.originFd
  { s with conn.originFd := -1 }

/-
  `connecting_write` when an attempt has already failed: try
  the next address or give the socket up.
-/
def connectingWriteFailed
    (key : Key)
    (a : Answers)
    (s : St) : St × Nat :=
  match nextAddresses s with
  | next :: rest =>
      (retryNext key a next rest s, REQUEST_CONNECTING)
  | [] =>
      (errorHandlerToClient (dropOrigin s) s.conn.connStatus,
        REQUEST_WRITE)

/- `connecting_write` -/
def connectingWrite
    (key : Key)
    (a : Answers)
    (s : St) : St × Nat :=
  if s.conn.connStatus ≠ .succeeded then
    connectingWriteFailed key a s
  else
    let s := s.note (.soError a.soError
      (nextAddresses s).length)
    match a.soError with
    | none => connectingFailed s .generalSocksServerFailure
    | some none => connectingEstablished key s
    | some (some errno) =>
        let status := errnoToSocks (some errno)
        match nextAddresses s with
        | next :: rest =>
            (retryNext key a next rest
              { s with conn.connStatus := status },
              REQUEST_CONNECTING)
        | [] => connectingFailed s status

/- `connecting_close` -/
def connectingClose
    (_ : Key)
    (s : St) : St :=
  { s with conn.request.parser := none }

end Socks5d

------------------------------------------------------------
-- What One Call Does
------------------------------------------------------------

namespace Socks5d

/- The origin, if there is one, waits for nothing. -/
def idleOrigin (s : St) : St :=
  if s.conn.originFd ≠ -1 then
    (s.setInterest s.conn.originFd opNoop).1
  else s

/- `idleOrigin` leaves the tables or idles one slot. -/
theorem idleOrigin_cases
    (s : St) :
    (idleOrigin s = s ∧ ∀ interest attached,
        ¬ s.srv.sel.Has s.conn.originFd interest attached) ∨
      ∃ interest attached,
        s.srv.sel.Has s.conn.originFd interest attached ∧
        idleOrigin s =
          s.arm s.conn.originFd opNoop attached := by
  unfold idleOrigin
  by_cases hHas : ∃ interest attached,
      s.srv.sel.Has s.conn.originFd interest attached
  · right
    rcases hHas with ⟨interest, attached, hHas⟩
    have hNe : s.conn.originFd ≠ -1 := by
      intro hEq
      have hValid := hHas.1
      rw [hEq] at hValid
      exact absurd hValid (by decide)
    rw [if_pos hNe, St.setInterest_of_has hHas]
    exact ⟨interest, attached, hHas, rfl⟩
  · left
    have hNone : ∀ interest attached,
        ¬ s.srv.sel.Has s.conn.originFd interest attached :=
      fun interest attached h => hHas ⟨_, _, h⟩
    refine ⟨?_, hNone⟩
    rcases s.srv.sel.setInterest_cases s.conn.originFd
        opNoop with hFail | ⟨interest, attached, hSlot, _⟩
    · simp only [St.setInterest, hFail, ite_self]
    · exact absurd hSlot (hNone interest attached)

theorem idleOrigin_conn
    (s : St) :
    (idleOrigin s).conn = s.conn := by
  rcases idleOrigin_cases s with ⟨hSame, _⟩ |
    ⟨_, _, _, hIdle⟩
  · rw [hSame]
  · rw [hIdle, St.arm_conn]

/- What `errorHandlerToClient` leaves. -/
def answeredWith
    (s : St)
    (attached : Attachment)
    (status : SocksReplyStatus) : St :=
  idleOrigin ((replied s status).arm s.conn.clientFd opWrite
    attached)

theorem errorHandlerToClient_eq
    {s : St}
    {sel : Selector}
    {interest : Interest}
    {attached : Attachment}
    (hHas : sel.Has s.conn.clientFd interest attached)
    (status : SocksReplyStatus)
    (hSel : s.srv.sel = sel) :
    errorHandlerToClient s status =
      answeredWith s attached status := by
  have hSame : (replied s status).srv.sel = sel := by
    rw [replied_srv]
    exact hSel
  have hFd : (replied s status).conn.clientFd =
      s.conn.clientFd := by
    rcases replied_eq s status with ⟨_, _, hEq, _⟩
    rw [hEq]
  have hSet := St.setInterest_at hHas opWrite hSame
  have hParts : errorHandlerToClient s status =
      idleOrigin ((replied s status).setInterest
        (replied s status).conn.clientFd opWrite).1 := rfl
  rw [hParts, hFd, hSet]
  rfl

theorem errnoToSocks_ne
    (errno : Errno) :
    errnoToSocks (some errno) ≠ .succeeded := by
  cases errno <;> decide

/- What `connection` leaves when it answers a failure. -/
def refusedWith
    (s : St)
    (attached : Attachment)
    (status : SocksReplyStatus) : St :=
  answeredWith { s with conn.connStatus := status } attached
    status

/- A failure is stored as the status and answered. -/
theorem connectionFailed_eq
    {s : St}
    {sel : Selector}
    {fd : Fd}
    {interest : Interest}
    {attached : Attachment}
    (hHas : sel.Has fd interest attached)
    (status : SocksReplyStatus)
    (hSel : s.srv.sel = sel)
    (hFd : s.conn.clientFd = fd) :
    connectionFailed s status =
      refusedWith s attached status := by
  subst hFd
  exact errorHandlerToClient_eq
    (s := { s with conn.connStatus := status })
    hHas status hSel

theorem refusedWith_conn
    (s : St)
    (attached : Attachment)
    (status : SocksReplyStatus) :
    (refusedWith s attached status).conn =
      (replied { s with conn.connStatus := status }
        status).conn := by
  unfold refusedWith answeredWith
  rw [idleOrigin_conn, St.arm_conn]

/- The outcomes of `connection`. -/
inductive Connection
    (key : Key)
    (a : Answers)
    (s : St)
    (attached : Attachment) : St × SocksReplyStatus → Prop
    where
  | refused
      (errno : Errno)
      (hAnswer : (connectAttempt a s).answer = .failed errno) :
      Connection key a s attached
        (refusedWith
            { attempted a s with
              conn.request.status :=
                errnoToSocks (some errno) }
            attached (errnoToSocks (some errno)),
          errnoToSocks (some errno))
  | underway
      (hAnswer : (connectAttempt a s).answer = .inProgress)
      (hFree : (connectAttempt a s).registrable = true) :
      Connection key a s attached
        (takeReference key
            (((attempted a s).arm key.fd opNoop attached).arm
              s.conn.originFd opWrite (.socks key.data)),
          .succeeded)
  | blocked
      (hAnswer : (connectAttempt a s).answer = .inProgress)
      (hTaken : (connectAttempt a s).registrable = false) :
      Connection key a s attached
        ({ (refusedWith
                ((attempted a s).arm key.fd opNoop attached)
                attached
                .generalSocksServerFailure).close
              s.conn.originFd with
            conn.originFd := -1 },
          .generalSocksServerFailure)
  | atOnce
      (hAnswer : (connectAttempt a s).answer = .connected)
      (hFree : (connectAttempt a s).registrable = true) :
      Connection key a s attached
        (((takeReference key (attempted a s)).arm key.fd
              opRead attached).arm
            s.conn.originFd opRead (.socks key.data),
          .succeeded)
  | atOnceBlocked
      (hAnswer : (connectAttempt a s).answer = .connected)
      (hTaken : (connectAttempt a s).registrable = false) :
      Connection key a s attached
        (refusedWith
            ((takeReference key (attempted a s)).arm key.fd
              opRead attached)
            attached .generalSocksServerFailure,
          .generalSocksServerFailure)

/- A failure leaves the descriptor of the origin alone. -/
theorem refusedWith_originFd
    (s : St)
    (attached : Attachment)
    (status : SocksReplyStatus) :
    (refusedWith s attached status).conn.originFd =
      s.conn.originFd := by
  rw [refusedWith_conn]
  rcases replied_eq { s with conn.connStatus := status }
      status with ⟨_, _, hEq, _⟩
  rw [hEq]

section Branches

variable {key : Key}
variable {s : St}
variable {interest clientInterest : Interest}
variable {attached : Attachment}

/- The client keeps its slot when the key gets an interest. -/
theorem has_client_after
    (hKey : s.srv.sel.Has key.fd interest attached)
    (hClient : s.srv.sel.Has s.conn.clientFd clientInterest
      attached)
    (wanted : Interest) :
    ∃ i, (s.srv.sel.put key.fd ⟨wanted, attached⟩).Has
      s.conn.clientFd i attached := by
  by_cases hEq : s.conn.clientFd = key.fd
  · rw [hEq]
    exact ⟨wanted, Selector.Has.put_self hKey.1 _⟩
  · exact ⟨clientInterest, hClient.put_of_ne _ hEq⟩

theorem connectionRefused_eq
    (hClient : s.srv.sel.Has s.conn.clientFd clientInterest
      attached)
    (errno : Errno) :
    connectionRefused errno s =
      (refusedWith
          { s with
            conn.request.status :=
              errnoToSocks (some errno) }
          attached (errnoToSocks (some errno)),
        errnoToSocks (some errno)) := by
  have hFailed := connectionFailed_eq
    (s := { s with
      conn.request.status := errnoToSocks (some errno) })
    hClient (errnoToSocks (some errno)) rfl rfl
  exact congrArg (fun t => (t, errnoToSocks (some errno)))
    hFailed

theorem connectionInProgress_eq
    (hKey : s.srv.sel.Has key.fd interest attached)
    (hClient : s.srv.sel.Has s.conn.clientFd clientInterest
      attached) :
    connectionInProgress key s =
      if s.srv.sel.canRegister s.conn.originFd then
        (takeReference key
            ((s.arm key.fd opNoop attached).arm
              s.conn.originFd opWrite (.socks key.data)),
          .succeeded)
      else
        ({ (refusedWith (s.arm key.fd opNoop attached)
                attached
                .generalSocksServerFailure).close
              s.conn.originFd with
            conn.originFd := -1 },
          .generalSocksServerFailure) := by
  rcases has_client_after hKey hClient opNoop with
    ⟨i, hStill⟩
  unfold connectionInProgress
  simp only [St.setInterest_of_has hKey, if_true,
    St.register_eq, St.arm_sel, St.arm_conn,
    hKey.canRegister_put]
  cases hFree : s.srv.sel.canRegister s.conn.originFd with
  | true => rfl
  | false =>
      simp only [Bool.false_eq_true, if_false]
      rw [connectionFailed_eq
        (s := s.arm key.fd opNoop attached) hStill _ rfl rfl]
      rw [refusedWith_originFd]
      rfl

theorem connectionAtOnce_eq
    (hKey : s.srv.sel.Has key.fd interest attached)
    (hClient : s.srv.sel.Has s.conn.clientFd clientInterest
      attached) :
    connectionAtOnce key s =
      if s.srv.sel.canRegister s.conn.originFd then
        (((takeReference key s).arm key.fd opRead
              attached).arm
            s.conn.originFd opRead (.socks key.data),
          .succeeded)
      else
        (refusedWith
            ((takeReference key s).arm key.fd opRead attached)
            attached .generalSocksServerFailure,
          .generalSocksServerFailure) := by
  rcases has_client_after hKey hClient opRead with
    ⟨i, hStill⟩
  have hTaken : (takeReference key s).srv.sel.Has key.fd
      interest attached := hKey
  have hSel : (takeReference key s).srv.sel = s.srv.sel := rfl
  have hConn : (takeReference key s).conn = s.conn := rfl
  unfold connectionAtOnce
  simp only [St.setInterest_of_has hTaken, if_true,
    St.register_eq, St.arm_sel, St.arm_conn, hSel, hConn,
    hKey.canRegister_put]
  cases hFree : s.srv.sel.canRegister s.conn.originFd with
  | true => rfl
  | false =>
      simp only [Bool.false_eq_true, if_false]
      rw [connectionFailed_eq
        (s := (takeReference key s).arm key.fd opRead
          attached) hStill _ rfl rfl]

theorem connection_outcome
    (hKey : s.srv.sel.Has key.fd interest attached)
    (hClient : s.srv.sel.Has s.conn.clientFd clientInterest
      attached)
    (a : Answers) :
    Connection key a s attached (connection key a s) := by
  have hKey' : (attempted a s).srv.sel.Has key.fd interest
      attached := hKey
  have hClient' : (attempted a s).srv.sel.Has
      (attempted a s).conn.clientFd clientInterest
      attached := hClient
  have hFree : (attempted a s).srv.sel.canRegister
      (attempted a s).conn.originFd =
        (connectAttempt a s).registrable := rfl
  unfold connection
  cases hAnswer : (connectAttempt a s).answer with
  | failed errno =>
      simp only [connectionRefused_eq hClient']
      exact .refused errno hAnswer
  | inProgress =>
      simp only [connectionInProgress_eq hKey' hClient',
        hFree]
      cases hSlot : (connectAttempt a s).registrable with
      | true => exact .underway hAnswer hSlot
      | false => exact .blocked hAnswer hSlot
  | connected =>
      simp only [connectionAtOnce_eq hKey' hClient', hFree]
      cases hSlot : (connectAttempt a s).registrable with
      | true => exact .atOnce hAnswer hSlot
      | false => exact .atOnceBlocked hAnswer hSlot

end Branches

/- The outcomes of `connecting_init`. -/
inductive ConnectingInit
    (key : Key)
    (a : Answers)
    (s : St)
    (attached : Attachment) : St → Prop where
  | noSocket
      (hNone : s.srv.sel.grant a.socket = none) :
      ConnectingInit key a s attached
        (refusedWith
          { connectingStarted none s with conn.originFd := -1 }
          attached .generalSocksServerFailure)
  | notSet
      (fd : Fd)
      (hSome : s.srv.sel.grant a.socket = some fd)
      (hNio : a.nio = false) :
      ConnectingInit key a s attached
        (refusedWith
          (withSocket key a fd
            (connectingStarted (some fd) s))
          attached .generalSocksServerFailure)
  | connected
      (fd : Fd)
      (hSome : s.srv.sel.grant a.socket = some fd)
      (hNio : a.nio = true)
      (result : St × SocksReplyStatus)
      (hResult : Connection key a
        (withSocket key a fd (connectingStarted (some fd) s))
        attached result) :
      ConnectingInit key a s attached
        { result.1 with conn.connStatus := result.2 }

theorem connectingInit_outcome
    {key : Key}
    {s : St}
    {interest clientInterest : Interest}
    {attached : Attachment}
    (hKey : s.srv.sel.Has key.fd interest attached)
    (hClient : s.srv.sel.Has s.conn.clientFd clientInterest
      attached)
    (a : Answers) :
    ConnectingInit key a s attached
      (connectingInit key a s) := by
  unfold connectingInit
  cases hGrant : s.srv.sel.grant a.socket with
  | none =>
      have hFailed := connectionFailed_eq
        (s := { connectingStarted none s with
          conn.originFd := -1 })
        hClient .generalSocksServerFailure rfl rfl
      simp only [hFailed]
      exact .noSocket hGrant
  | some fd =>
      have hOpened : (withSocket key a fd (connectingStarted
          (some fd) s)).srv.sel.Has
            (withSocket key a fd (connectingStarted (some fd)
              s)).conn.clientFd clientInterest attached :=
        hClient
      have hKey' : (withSocket key a fd (connectingStarted
          (some fd) s)).srv.sel.Has key.fd interest
            attached := hKey
      cases hNio : a.nio with
      | false =>
          simp only [Bool.false_eq_true, if_false]
          rw [connectionFailed_eq hOpened _ rfl rfl]
          exact .notSet fd hGrant hNio
      | true =>
          simp only [if_true]
          exact .connected fd hGrant hNio _
            (connection_outcome hKey' hOpened a)

/- The state in which an attempt is printed as failed. -/
def failedNoted
    (s : St)
    (status : SocksReplyStatus) : St :=
  noteAccess { s with conn.connStatus := status }

/- The outcomes of `connecting_write`. -/
inductive ConnectingWrite
    (key : Key)
    (a : Answers)
    (s : St)
    (attached : Attachment) : St × Nat → Prop where
  /- the attempt had failed, and there is another address -/
  | nextAfterFailure
      (next : Addrinfo)
      (rest : List Addrinfo)
      (hStatus : s.conn.connStatus ≠ .succeeded)
      (hNext : nextAddresses s = next :: rest)
      (result : St × SocksReplyStatus)
      (hResult : Connection key a (aimNext next rest s)
        attached result) :
      ConnectingWrite key a s attached
        (result.1, REQUEST_CONNECTING)
  | gaveUp
      (hStatus : s.conn.connStatus ≠ .succeeded)
      (hNone : nextAddresses s = []) :
      ConnectingWrite key a s attached
        (answeredWith (dropOrigin s) attached
          s.conn.connStatus, REQUEST_WRITE)
  | noAnswer
      (hStatus : s.conn.connStatus = .succeeded)
      (hError : a.soError = none) :
      ConnectingWrite key a s attached
        (answeredWith
            (failedNoted
              (s.note (.soError none (nextAddresses s).length))
              .generalSocksServerFailure)
            attached .generalSocksServerFailure,
          REQUEST_WRITE)
  | established
      (hStatus : s.conn.connStatus = .succeeded)
      (hError : a.soError = some none)
      (hRoom : 10 ≤ s.conn.writeBuffer.room) :
      ConnectingWrite key a s attached
        (((replied
              (established (s.note (.soError (some none)
                (nextAddresses s).length)))
              .succeeded).arm s.conn.clientFd opWrite
            attached).arm key.fd opNoop attached,
          REQUEST_WRITE)
  | full
      (hStatus : s.conn.connStatus = .succeeded)
      (hError : a.soError = some none)
      (hRoom : s.conn.writeBuffer.room < 10) :
      ConnectingWrite key a s attached
        (established (s.note (.soError (some none)
          (nextAddresses s).length)), ERROR)
  /- the attempt fails now, and there is another address -/
  | nextAfterError
      (errno : Errno)
      (next : Addrinfo)
      (rest : List Addrinfo)
      (hStatus : s.conn.connStatus = .succeeded)
      (hError : a.soError = some (some errno))
      (hNext : nextAddresses s = next :: rest)
      (result : St × SocksReplyStatus)
      (hResult : Connection key a
        (aimNext next rest
          { s.note (.soError (some (some errno))
                (nextAddresses s).length) with
            conn.connStatus := errnoToSocks (some errno) })
        attached result) :
      ConnectingWrite key a s attached
        (result.1, REQUEST_CONNECTING)
  | failed
      (errno : Errno)
      (hStatus : s.conn.connStatus = .succeeded)
      (hError : a.soError = some (some errno))
      (hNone : nextAddresses s = []) :
      ConnectingWrite key a s attached
        (answeredWith
            (failedNoted
              (s.note (.soError (some (some errno))
                (nextAddresses s).length))
              (errnoToSocks (some errno)))
            attached (errnoToSocks (some errno)),
          REQUEST_WRITE)

/- Aiming at an address only changes the target. -/
theorem aimNext_eq
    (next : Addrinfo)
    (rest : List Addrinfo)
    (s : St) :
    ∃ addr, aimNext next rest s =
      { s with
        conn.resolutionCurrent := next :: rest
        conn.originAddr := addr } := by
  unfold aimNext
  simp only []
  split
  · exact ⟨s.conn.originAddr, rfl⟩
  · exact ⟨next.addr, rfl⟩

section Writing

variable {key : Key}
variable {s : St}
variable {interest clientInterest : Interest}
variable {attached : Attachment}

theorem retryNext_outcome
    (hKey : s.srv.sel.Has key.fd interest attached)
    (hClient : s.srv.sel.Has s.conn.clientFd clientInterest
      attached)
    (a : Answers)
    (next : Addrinfo)
    (rest : List Addrinfo) :
    ∃ result,
      Connection key a (aimNext next rest s) attached
          result ∧
        retryNext key a next rest s = result.1 := by
  rcases aimNext_eq next rest s with ⟨addr, hEq⟩
  have hKey' : (aimNext next rest s).srv.sel.Has key.fd
      interest attached := by
    rw [hEq]
    exact hKey
  have hClient' : (aimNext next rest s).srv.sel.Has
      (aimNext next rest s).conn.clientFd clientInterest
      attached := by
    rw [hEq]
    exact hClient
  exact ⟨_, connection_outcome hKey' hClient' a, rfl⟩

theorem connectingEstablished_eq
    (hKey : s.srv.sel.Has key.fd interest attached)
    (hClient : s.srv.sel.Has s.conn.clientFd clientInterest
      attached)
    (hNe : key.fd ≠ s.conn.clientFd) :
    connectingEstablished key s =
      if s.conn.writeBuffer.room < 10 then
        (established s, ERROR)
      else
        (((replied (established s) .succeeded).arm
              s.conn.clientFd opWrite attached).arm
            key.fd opNoop attached,
          REQUEST_WRITE) := by
  unfold connectingEstablished
  rcases requestMarshall_cases (established s) .succeeded with
    ⟨hRoom, hFull⟩ | ⟨hRoom, hStored⟩
  · have hSmall : s.conn.writeBuffer.room < 10 := hRoom
    rw [hFull, if_pos hSmall]
    rfl
  · have hLarge : ¬ s.conn.writeBuffer.room < 10 :=
      Nat.not_lt.mpr hRoom
    rw [if_neg hLarge]
    have hReply : (requestMarshall (established s)
        .succeeded).1 = replied (established s)
          .succeeded := rfl
    have hTrue : (requestMarshall (established s)
        .succeeded).2 = true := by
      rw [hStored]
    have hSel : (replied (established s)
        .succeeded).srv.sel = s.srv.sel := by
      rw [replied_srv]
      rfl
    have hFd : (replied (established s)
        .succeeded).conn.clientFd = s.conn.clientFd := by
      rcases replied_eq (established s) .succeeded with
        ⟨_, _, hEq, _⟩
      rw [hEq]
      rfl
    have hNext := hKey.put_of_ne ⟨opWrite, attached⟩ hNe
    have hSel' : ((replied (established s) .succeeded).arm
        s.conn.clientFd opWrite attached).srv.sel =
          s.srv.sel.put s.conn.clientFd
            ⟨opWrite, attached⟩ := by
      rw [St.arm_sel, hSel]
    simp only [hReply, hTrue, if_true, hFd,
      St.setInterest_at hClient opWrite hSel,
      St.setInterest_at hNext opNoop hSel']
    rfl

theorem dropOrigin_conn
    (s : St) :
    (dropOrigin s).conn =
      { s.conn with originFd := -1 } := rfl

/- The client keeps its slot when the origin is dropped. -/
theorem has_client_dropOrigin
    (hClient : s.srv.sel.Has s.conn.clientFd clientInterest
      attached)
    (hNe : s.conn.clientFd ≠ s.conn.originFd) :
    (dropOrigin s).srv.sel.Has s.conn.clientFd
      clientInterest attached := by
  unfold dropOrigin
  rcases unregisterFd_cases s.srv s.conn.originFd with
    ⟨hSame, _⟩ | ⟨_, _, _, _, hClear⟩
  · rw [hSame]
    exact hClient
  · refine ⟨hClient.1, ?_⟩
    have hSlot : (unregisterFd s.srv
        s.conn.originFd).1.sel.fds s.conn.clientFd =
          s.srv.sel.fds s.conn.clientFd := by
      rw [hClear, Selector.clear_fds_of_ne hNe]
    exact hSlot.trans hClient.2

theorem connectingWrite_outcome
    (hKey : s.srv.sel.Has key.fd interest attached)
    (hClient : s.srv.sel.Has s.conn.clientFd clientInterest
      attached)
    (hNe : s.conn.clientFd ≠ s.conn.originFd)
    (hFd : s.conn.connStatus = .succeeded →
      key.fd ≠ s.conn.clientFd)
    (a : Answers) :
    ConnectingWrite key a s attached
      (connectingWrite key a s) := by
  unfold connectingWrite
  by_cases hStatus : s.conn.connStatus ≠ .succeeded
  · rw [if_pos hStatus]
    unfold connectingWriteFailed
    cases hNext : nextAddresses s with
    | nil =>
        have hDropped := has_client_dropOrigin hClient hNe
        have hAnswer := errorHandlerToClient_eq
          (s := dropOrigin s) hDropped s.conn.connStatus rfl
        simp only [hAnswer]
        exact .gaveUp hStatus hNext
    | cons next rest =>
        rcases retryNext_outcome hKey hClient a next rest with
          ⟨result, hResult, hEq⟩
        simp only [hEq]
        exact .nextAfterFailure next rest hStatus hNext _
          hResult
  · rw [if_neg hStatus]
    have hGood := not_not.mp hStatus
    cases hError : a.soError with
    | none =>
        have hAnswer := errorHandlerToClient_eq
          (s := failedNoted
            (s.note (.soError none (nextAddresses s).length))
            .generalSocksServerFailure)
          hClient .generalSocksServerFailure rfl
        have hCall : connectingFailed
            (s.note (.soError none (nextAddresses s).length))
            .generalSocksServerFailure = (_, REQUEST_WRITE) :=
          congrArg (fun t => (t, REQUEST_WRITE)) hAnswer
        simp only [hCall]
        exact .noAnswer hGood hError
    | some result =>
        cases result with
        | none =>
            have hKey' : (s.note (.soError (some none)
                (nextAddresses s).length)).srv.sel.Has key.fd
                interest attached := hKey
            have hClient' : (s.note (.soError (some none)
                (nextAddresses s).length)).srv.sel.Has
                (s.note (.soError (some none)
                (nextAddresses s).length)).conn.clientFd
                clientInterest attached := hClient
            simp only [connectingEstablished_eq hKey'
              hClient' (hFd hGood)]
            split
            · rename_i hRoom
              exact .full hGood hError hRoom
            · rename_i hRoom
              exact .established hGood hError
                (Nat.not_lt.mp hRoom)
        | some errno =>
            have hTail : nextAddresses (s.note
                (.soError (some (some errno))
                  (nextAddresses s).length)) =
                nextAddresses s := rfl
            simp only [hTail]
            cases hNext : nextAddresses s with
            | nil =>
                have hAnswer := errorHandlerToClient_eq
                  (s := failedNoted
                    (s.note (.soError (some (some errno))
                      (nextAddresses s).length))
                    (errnoToSocks (some errno)))
                  hClient (errnoToSocks (some errno)) rfl
                rw [hNext] at hAnswer
                have hLast : ConnectingWrite key a s attached
                    _ := .failed errno hGood hError hNext
                rw [hNext, ← hAnswer] at hLast
                exact hLast
            | cons next rest =>
                rcases retryNext_outcome
                    (s := { s.note (.soError
                          (some (some errno))
                          (nextAddresses s).length) with
                        conn.connStatus :=
                          errnoToSocks (some errno) })
                    hKey hClient a next rest with
                  ⟨result, hResult, hEq⟩
                rw [hNext] at hEq
                simp only [hEq]
                exact .nextAfterError errno next rest hGood
                  hError hNext _ hResult

end Writing

end Socks5d
