import Socks5d.SharedState

/-
  What the states from the request on leave alone: all that
  the handshake has stored in the connection.

  Main declarations:
    * `Steady`
    * `RequestProcess.steady`, `RequestResolvDone.steady`
    * `ConnectingInit.steady`, `ConnectingWrite.steady`
    * `SocksTurn.service`, `MngTurn.service`
-/

------------------------------------------------------------
-- The Fields Of The Handshake
------------------------------------------------------------

namespace Socks5d

/- What the handshake and the relay alone may change. -/
structure Steady (c d : Conn) : Prop where
  service : d.isSocks = c.isSocks
  client : d.clientFd = c.clientFd
  hello : d.hello = c.hello
  userpass : d.userpass = c.userpass
  authentication : d.authentication = c.authentication
  userIndex : d.userIndex = c.userIndex
  readBuffer : d.readBuffer = c.readBuffer
  passwordParser : d.passwordParser = c.passwordParser

namespace Steady

variable {c d e : Conn}

theorem refl
    (c : Conn) : Steady c c :=
  ⟨rfl, rfl, rfl, rfl, rfl, rfl, rfl, rfl⟩

theorem trans
    (h : Steady c d)
    (h' : Steady d e) : Steady c e where
  service := h'.service.trans h.service
  client := h'.client.trans h.client
  hello := h'.hello.trans h.hello
  userpass := h'.userpass.trans h.userpass
  authentication := h'.authentication.trans h.authentication
  userIndex := h'.userIndex.trans h.userIndex
  readBuffer := h'.readBuffer.trans h.readBuffer
  passwordParser := h'.passwordParser.trans h.passwordParser

end Steady

section Answering

variable {key : Key}
variable {a : Answers}
variable {s t : St}
variable {attached : Attachment}

/- A reply changes the write buffer and the history. -/
theorem replied_steady
    (s : St)
    (status : SocksReplyStatus) :
    Steady s.conn (replied s status).conn := by
  rcases replied_eq s status with ⟨wb, log, hEq, _⟩
  rw [hEq]
  exact ⟨rfl, rfl, rfl, rfl, rfl, rfl, rfl, rfl⟩

theorem answeredWith_steady
    (s : St)
    (attached : Attachment)
    (status : SocksReplyStatus) :
    Steady s.conn (answeredWith s attached status).conn := by
  unfold answeredWith
  rw [idleOrigin_conn]
  exact replied_steady s status

theorem refusedWith_steady
    (s : St)
    (attached : Attachment)
    (status : SocksReplyStatus) :
    Steady s.conn (refusedWith s attached status).conn := by
  have hSet : Steady s.conn
      { s with conn.connStatus := status }.conn :=
    ⟨rfl, rfl, rfl, rfl, rfl, rfl, rfl, rfl⟩
  exact hSet.trans (answeredWith_steady _ _ _)

theorem RequestInit.steady
    (h : RequestInit key attached s t) :
    Steady s.conn t.conn := by
  cases h with
  | ready => exact ⟨rfl, rfl, rfl, rfl, rfl, rfl, rfl, rfl⟩
  | starved => exact ⟨rfl, rfl, rfl, rfl, rfl, rfl, rfl, rfl⟩

theorem RequestProcess.steady
    {request : Request}
    {r : St × Nat}
    (h : RequestProcess key a request s attached r) :
    Steady s.conn r.1.conn := by
  cases h with
  | refused status addrFamily hRequest =>
      have hSet : Steady s.conn
          { s with
            conn.request.addrFamily := addrFamily
            conn.request.status := status }.conn :=
        ⟨rfl, rfl, rfl, rfl, rfl, rfl, rfl, rfl⟩
      exact hSet.trans (replied_steady _ _)
  | direct =>
      exact ⟨rfl, rfl, rfl, rfl, rfl, rfl, rfl, rfl⟩
  | noMemory hAlloc =>
      have hSet : Steady s.conn
          (St.note { s with
              conn.request.addrFamily :=
                socksReqAddrtypeDomain
              conn.request.status :=
                .generalSocksServerFailure }
            (.outOfMemory .resolvKey)).conn :=
        ⟨rfl, rfl, rfl, rfl, rfl, rfl, rfl, rfl⟩
      exact hSet.trans (replied_steady _ _)
  | noThread hThread =>
      have hSet : Steady s.conn
          { s with
            conn.request.addrFamily := socksReqAddrtypeDomain
            conn.request.status :=
              .generalSocksServerFailure }.conn :=
        ⟨rfl, rfl, rfl, rfl, rfl, rfl, rfl, rfl⟩
      exact hSet.trans (replied_steady _ _)
  | resolving =>
      exact ⟨rfl, rfl, rfl, rfl, rfl, rfl, rfl, rfl⟩
  | waiting =>
      exact ⟨rfl, rfl, rfl, rfl, rfl, rfl, rfl, rfl⟩

theorem RequestResolvDone.steady
    {r : St × Nat}
    (h : RequestResolvDone key s attached r) :
    Steady s.conn r.1.conn := by
  cases h with
  | failed hList =>
      have hSet : Steady s.conn
          { s.note (.resolved s.conn.originResolution) with
            conn.connStatus := .generalSocksServerFailure
            conn.request.status :=
              .generalSocksServerFailure }.conn :=
        ⟨rfl, rfl, rfl, rfl, rfl, rfl, rfl, rfl⟩
      exact hSet.trans (replied_steady _ _)
  | first address rest hList =>
      rcases takeAddress_eq address
          { s.note (.resolved s.conn.originResolution) with
            conn.resolutionCurrent := address :: rest }
        with ⟨_, _, _, hEq⟩
      rw [hEq]
      exact ⟨rfl, rfl, rfl, rfl, rfl, rfl, rfl, rfl⟩

theorem RequestWrite.steady
    {r : St × Nat}
    (h : RequestWrite key a s attached r) :
    Steady s.conn r.1.conn := by
  cases h
  all_goals exact ⟨rfl, rfl, rfl, rfl, rfl, rfl, rfl, rfl⟩

end Answering

section Connecting

variable {key : Key}
variable {a : Answers}
variable {s t : St}
variable {attached : Attachment}

theorem Connection.steady
    {r : St × SocksReplyStatus}
    (h : Connection key a s attached r) :
    Steady s.conn r.1.conn := by
  have hTried : Steady s.conn (attempted a s).conn :=
    ⟨rfl, rfl, rfl, rfl, rfl, rfl, rfl, rfl⟩
  cases h with
  | refused errno hAnswer =>
      have hSet : Steady s.conn
          { attempted a s with
            conn.request.status :=
              errnoToSocks (some errno) }.conn :=
        ⟨rfl, rfl, rfl, rfl, rfl, rfl, rfl, rfl⟩
      exact hSet.trans (refusedWith_steady _ _ _)
  | underway hAnswer hFree => exact hTried
  | blocked hAnswer hTaken =>
      have hRefused := refusedWith_steady
        ((attempted a s).arm key.fd opNoop attached) attached
        .generalSocksServerFailure
      exact hTried.trans ⟨hRefused.service, hRefused.client,
        hRefused.hello, hRefused.userpass,
        hRefused.authentication, hRefused.userIndex,
        hRefused.readBuffer, hRefused.passwordParser⟩
  | atOnce hAnswer hFree => exact hTried
  | atOnceBlocked hAnswer hTaken =>
      exact hTried.trans (refusedWith_steady
        ((takeReference key (attempted a s)).arm key.fd opRead
          attached) _ _)

theorem aimNext_steady
    (next : Addrinfo)
    (rest : List Addrinfo)
    (s : St) :
    Steady s.conn (aimNext next rest s).conn := by
  rcases aimNext_eq next rest s with ⟨addr, hEq⟩
  rw [hEq]
  exact ⟨rfl, rfl, rfl, rfl, rfl, rfl, rfl, rfl⟩

theorem ConnectingInit.steady
    (h : ConnectingInit key a s attached t) :
    Steady s.conn t.conn := by
  cases h with
  | noSocket hNone =>
      have hSet : Steady s.conn
          { connectingStarted none s with
            conn.originFd := -1 }.conn :=
        ⟨rfl, rfl, rfl, rfl, rfl, rfl, rfl, rfl⟩
      exact hSet.trans (refusedWith_steady _ _ _)
  | notSet fd hSome hNio =>
      have hSet : Steady s.conn (withSocket key a fd
          (connectingStarted (some fd) s)).conn :=
        ⟨rfl, rfl, rfl, rfl, rfl, rfl, rfl, rfl⟩
      exact hSet.trans (refusedWith_steady _ _ _)
  | connected fd hSome hNio result hResult =>
      have hSet : Steady s.conn (withSocket key a fd
          (connectingStarted (some fd) s)).conn :=
        ⟨rfl, rfl, rfl, rfl, rfl, rfl, rfl, rfl⟩
      have hAll := hSet.trans hResult.steady
      exact ⟨hAll.service, hAll.client, hAll.hello,
        hAll.userpass, hAll.authentication, hAll.userIndex,
        hAll.readBuffer, hAll.passwordParser⟩

theorem ConnectingWrite.steady
    {r : St × Nat}
    (h : ConnectingWrite key a s attached r) :
    Steady s.conn r.1.conn := by
  cases h with
  | nextAfterFailure next rest hStatus hNext result hResult =>
      exact (aimNext_steady _ _ _).trans hResult.steady
  | gaveUp hStatus hNone =>
      have hDropped : Steady s.conn (dropOrigin s).conn :=
        ⟨rfl, rfl, rfl, rfl, rfl, rfl, rfl, rfl⟩
      exact hDropped.trans (answeredWith_steady _ _ _)
  | noAnswer hStatus hError =>
      have hNoted : Steady s.conn (failedNoted
          (s.note (.soError none (nextAddresses s).length))
          .generalSocksServerFailure).conn :=
        ⟨rfl, rfl, rfl, rfl, rfl, rfl, rfl, rfl⟩
      exact hNoted.trans (answeredWith_steady _ _ _)
  | established hStatus hError hRoom =>
      have hUp : Steady s.conn (Socks5d.established (s.note
          (.soError (some none)
            (nextAddresses s).length))).conn :=
        ⟨rfl, rfl, rfl, rfl, rfl, rfl, rfl, rfl⟩
      exact hUp.trans (replied_steady _ _)
  | full hStatus hError hRoom =>
      exact ⟨rfl, rfl, rfl, rfl, rfl, rfl, rfl, rfl⟩
  | nextAfterError errno next rest hStatus hError hNext
      result hResult =>
      have hSet : Steady s.conn
          { s.note (.soError (some (some errno))
                (nextAddresses s).length) with
            conn.connStatus :=
              errnoToSocks (some errno) }.conn :=
        ⟨rfl, rfl, rfl, rfl, rfl, rfl, rfl, rfl⟩
      exact (hSet.trans (aimNext_steady _ _ _)).trans
        hResult.steady
  | failed errno hStatus hError hNone =>
      have hNoted : Steady s.conn (failedNoted
          (s.note (.soError (some (some errno))
            (nextAddresses s).length))
          (errnoToSocks (some errno))).conn :=
        ⟨rfl, rfl, rfl, rfl, rfl, rfl, rfl, rfl⟩
      exact hNoted.trans (answeredWith_steady _ _ _)

end Connecting

end Socks5d

------------------------------------------------------------
-- The Service
------------------------------------------------------------

namespace Socks5d

section Service

variable {k : ConnId}
variable {key : Key}
variable {a : Answers}
variable {s u : St}

/- A call never turns one service into the other. -/
theorem SocksTurn.service
    {r : St × Nat}
    (h : SocksTurn k key a s r)
    (hSound : s.srv.sel.Sound)
    (hOwns : Owns k s.srv.sel s.conn) :
    r.1.conn.isSocks = s.conn.isSocks := by
  cases h with
  | helloRead _ _ _ _ _ _ hCall => cases hCall <;> rfl
  | helloWrite _ _ _ _ _ _ hCall => cases hCall <;> rfl
  | authRead _ _ _ _ _ hCall => exact hCall.stays.service
  | authWrite _ _ _ _ _ hCall => exact hCall.stays.service
  | requestRead _ _ _ _ _ p _ _ hCall =>
      cases hCall with
      | ended hBytes => rfl
      | more bytes hBytes hSome hGoing => rfl
      | processed bytes hBytes hSome hDone _ hResult =>
          exact hResult.steady.service
  | requestResolvDone _ _ _ _ p _ _ hCall =>
      exact hCall.steady.service
  | connectingWrite hState _ _ hKey hClient hFd _ hCall =>
      exact hCall.steady.service
  | requestWrite _ _ _ _ _ hCall => exact hCall.steady.service
  | relay hState hCopy hSlots side hSide hFd t hRelay =>
      have hReady := hRelay.ready hSound hOwns hCopy hSlots
      rw [copyFinish_conn hReady.1.fds hReady.2]
      exact hRelay.relayed.service

theorem SocksJump.service
    {next : Nat}
    (h : SocksJump k key a s next u) :
    u.conn.isSocks = s.conn.isSocks := by
  cases h with
  | stay _ hState hNext => rfl
  | plain next hNext hState parser hParser => rfl
  | userpassRead hState =>
      unfold authReadInit
      split
      · rfl
      · rfl
  | requestRead hState _ hInit => exact hInit.steady.service
  | connecting hState parser _ hInit =>
      exact hInit.steady.service
  | copy hState => rfl

theorem MngTurn.service
    {r : St × Nat}
    (h : MngTurn k key a s r) :
    r.1.conn.isSocks = s.conn.isSocks := by
  cases h with
  | helloRead _ _ _ _ _ hCall => cases hCall <;> rfl
  | helloWrite _ _ _ _ _ hCall => cases hCall <;> rfl
  | authRead _ _ _ hCall => exact hCall.stays.service
  | authWrite _ _ _ hCall => exact hCall.stays.service
  | request state hState hRequest hShape _ hCall =>
      cases hCall with
      | stay t next hFrame => exact hFrame.service
      | writes t hFrame => exact hFrame.service
      | reads t hFrame => exact hFrame.service
      | ends t next hNext hFrame => exact hFrame.service

theorem MngJump.service
    {next : Nat}
    (h : MngJump key a s next u) :
    u.conn.isSocks = s.conn.isSocks := by
  cases h with
  | stay _ hState hNext => rfl
  | plain next hNext hState => rfl
  | userpassRead hState =>
      unfold authReadInit
      split
      · rfl
      · rfl
  | request _ hNext hState _ hFrame => exact hFrame.service

theorem SocksEvent.service
    (h : SocksEvent k key a s u)
    (hSound : s.srv.sel.Sound)
    (hOwns : Owns k s.srv.sel s.conn) :
    u.conn.isSocks = s.conn.isSocks := by
  cases h with
  | going r _ hTurn hJump hNext =>
      exact hJump.service.trans (hTurn.service hSound hOwns)
  | ends r t hTurn hJump hNext =>
      rw [socksv5Done_conn]
      exact hJump.service.trans (hTurn.service hSound hOwns)
  | stuck hWhy => rfl

theorem MngEvent.service
    (h : MngEvent k key a s u) :
    u.conn.isSocks = s.conn.isSocks := by
  cases h with
  | going r _ hTurn hJump hNext =>
      exact hJump.service.trans hTurn.service
  | ends r t hTurn hJump hNext =>
      unfold mngDone
      rw [doneFd_conn]
      exact hJump.service.trans hTurn.service

end Service

end Socks5d
