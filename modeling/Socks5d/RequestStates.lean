import Socks5d.Hello

/-
  Reading, resolving and answering a CONNECT request:
  `request.c` and `resolv.c`.

  Main declarations:
    * `requestMarshall`, `errorHandler`,
      `errorHandlerToClient`
    * `requestInit`, `requestRead`, `requestProcess`,
      `requestClose`, `requestWrite`
    * `requestResolvDone`
-/

------------------------------------------------------------
-- Replies
------------------------------------------------------------

namespace Socks5d

/- The ten bytes that `request_marshall` stores. -/
def replyBytes (status : SocksReplyStatus) : List UInt8 :=
  [0x05, status.code, 0x00, socksReqAddrtypeIpv4,
   0x00, 0x00, 0x00, 0x00, 0x00, 0x00]

/- `request_marshall`, with whether there was room -/
def requestMarshall
    (s : St)
    (status : SocksReplyStatus) : St × Bool :=
  if s.conn.writeBuffer.room < 10 then (s, false)
  else
    (St.note { s with conn.writeBuffer :=
        s.conn.writeBuffer.writeAdv (replyBytes status) }
      (.reply status), true)

/- `error_handler` -/
def errorHandler
    (key : Key)
    (s : St)
    (status : SocksReplyStatus) : St :=
  ((requestMarshall s status).1.setInterest key.fd opWrite).1

/- `error_handler_to_client` -/
def errorHandlerToClient
    (s : St)
    (status : SocksReplyStatus) : St :=
  let s := (requestMarshall s status).1
  let s := (s.setInterest s.conn.clientFd opWrite).1
  if s.conn.originFd ≠ -1 then
    (s.setInterest s.conn.originFd opNoop).1
  else s

end Socks5d

------------------------------------------------------------
-- Reading The Request
------------------------------------------------------------

namespace Socks5d

/- An allocation failed: the status is set and answered. -/
def requestInitFailed
    (key : Key)
    (site : AllocSite)
    (s : St) : St :=
  errorHandler key
    (St.note { s with
        conn.request.status := .generalSocksServerFailure }
      (.outOfMemory site))
    .generalSocksServerFailure

/-
  `request_init`. The request is allocated twice; without a
  parser the next call writes through a null pointer.
-/
def requestInit
    (key : Key)
    (a : Answers)
    (s : St) : St :=
  let s := { s with
    conn.request.parser := some requestParserInit
    conn.request.status := .succeeded }
  if a.alloc .requestParser then
    let s :=
      if a.alloc .requestFirst then s
      else requestInitFailed key .requestFirst s
    if a.alloc .requestSecond then s
    else requestInitFailed key .requestSecond s
  else
    (requestInitFailed key .requestParser s).crash .segv

/- `request_close` -/
def requestClose
    (_ : Key)
    (s : St) : St :=
  match s.conn.request.parser with
  | none => s.crash .segv
  | some p =>
      if p.request.destAddrType ≠ socksReqAddrtypeDomain then
        { s with conn.request.parser := none }
      else s

/- `sizeof(struct sockaddr)`, `sizeof(struct sockaddr_in6)` -/
abbrev sockaddrLen : Nat := 16
abbrev sockaddrIn6Len : Nat := 28

/- The domain case of `request_process`. -/
def requestProcessDomain
    (key : Key)
    (a : Answers)
    (request : Request)
    (s : St) : St × Nat :=
  let fail (s : St) : St × Nat :=
    (errorHandler key { s with
        conn.request.status := .generalSocksServerFailure }
      .generalSocksServerFailure, REQUEST_WRITE)
  if a.alloc .resolvKey then
    -- pthread_create answers with an error number, not -1
    if a.pthreadCreate = -1 then fail s
    else
      let s :=
        if a.pthreadCreate = 0 then
          St.note { s with
              srv.threads := s.srv.threads ++
                [{ fd := key.fd, data := key.data,
                   request := request }] }
            (.resolve request)
        else s
      ((s.setInterest key.fd opNoop).1, REQUEST_RESOLV)
  else fail (s.note (.outOfMemory .resolvKey))

/- `request_process` -/
def requestProcess
    (key : Key)
    (a : Answers)
    (request : Request)
    (s : St) : St × Nat :=
  if request.cmd ≠ socksReqCmdConnect then
    (errorHandler key { s with
        conn.request.status := .commandNotSupported }
      .commandNotSupported, REQUEST_WRITE)
  else if request.destAddrType = socksReqAddrtypeIpv4 then
    ({ s with
        conn.request.addrFamily := socksReqAddrtypeIpv4
        conn.originDomain := .inet
        conn.originAddrLen := sockaddrLen
        conn.originAddr := request.destAddr },
      REQUEST_CONNECTING)
  else if request.destAddrType = socksReqAddrtypeIpv6 then
    ({ s with
        conn.request.addrFamily := socksReqAddrtypeIpv6
        conn.originDomain := .inet6
        conn.originAddrLen := sockaddrIn6Len
        conn.originAddr := request.destAddr },
      REQUEST_CONNECTING)
  else if request.destAddrType = socksReqAddrtypeDomain then
    requestProcessDomain key a request
      { s with
        conn.request.addrFamily := socksReqAddrtypeDomain }
  else
    (errorHandler key { s with
        conn.request.status := .addressTypeNotSupported }
      .addressTypeNotSupported, REQUEST_WRITE)

/- `recv`, `buffer_write_adv` and `request_consume` -/
def requestFed
    (key : Key)
    (bytes : List UInt8)
    (p : RequestParser)
    (s : St) : St × RequestParser :=
  let rb := s.conn.readBuffer.writeAdv bytes
  let fed := requestConsume rb p
  (St.note { s with
      conn.readBuffer := fed.2
      conn.request.parser := some fed.1 }
    (.recv (s.conn.sideOf key.fd) bytes), fed.1)

/- `request_read` -/
def requestRead
    (key : Key)
    (a : Answers)
    (s : St) : St × Nat :=
  if s.conn.request.status ≠ .succeeded then
    (s, REQUEST_WRITE)
  else
    match s.conn.request.parser with
    | none => (s.crash .segv, REQUEST_READ)
    | some p =>
        let bytes := s.recvBytes a
        if bytes = [] then
          (s.note (.eof (s.conn.sideOf key.fd) []), ERROR)
        else
          let fed := requestFed key bytes p s
          if requestIsDone fed.2.state then
            requestProcess key a fed.2.request fed.1
          else
            (fed.1, REQUEST_READ)

end Socks5d

------------------------------------------------------------
-- Resolving And Answering
------------------------------------------------------------

namespace Socks5d

/- The address of a list element becomes the target. -/
def takeAddress
    (address : Addrinfo)
    (s : St) : St :=
  match address.family with
  | .inet =>
      { s with
        conn.originDomain := .inet
        conn.originAddrLen := sockaddrLen
        conn.originAddr := address.addr }
  | .inet6 =>
      { s with
        conn.originDomain := .inet6
        conn.originAddrLen := sockaddrIn6Len
        conn.originAddr := address.addr }
  | .unspec => s

/- `request_resolv_done` -/
def requestResolvDone
    (key : Key)
    (_ : Answers)
    (s : St) : St × Nat :=
  let s := s.note (.resolved s.conn.originResolution)
  match s.conn.originResolution with
  | [] =>
      (errorHandler key { s with
          conn.connStatus := .generalSocksServerFailure
          conn.request.status := .generalSocksServerFailure }
        .generalSocksServerFailure, REQUEST_WRITE)
  | first :: rest =>
      (takeAddress first
        { s with conn.resolutionCurrent := first :: rest },
        REQUEST_CONNECTING)

/- `request_write` -/
def requestWrite
    (key : Key)
    (a : Answers)
    (s : St) : St × Nat :=
  match a.send with
  | none =>
      (s.note (.sendError (s.conn.sideOf key.fd)), ERROR)
  | some n =>
      let s := sendPending key n s
      if s.conn.writeBuffer.canRead then (s, REQUEST_WRITE)
      else if s.conn.connStatus = .succeeded then
        let s := (s.setInterest s.conn.clientFd opRead).1
        ((s.setInterest s.conn.originFd opRead).1, COPY)
      else
        let s := (s.setInterest s.conn.clientFd opNoop).1
        -- the descriptor is only passed on when it is -1
        (if s.conn.originFd = -1 then
            (s.setInterest s.conn.originFd opNoop).1
          else s, DONE)

end Socks5d

------------------------------------------------------------
-- What One Call Does
------------------------------------------------------------

namespace Socks5d

/- A reply is stored and recorded, or there is no room. -/
theorem requestMarshall_cases
    (s : St)
    (status : SocksReplyStatus) :
    (s.conn.writeBuffer.room < 10 ∧
        requestMarshall s status = (s, false)) ∨
      (10 ≤ s.conn.writeBuffer.room ∧
        requestMarshall s status =
          (St.note { s with
              conn.writeBuffer := s.conn.writeBuffer.writeAdv
                (replyBytes status) }
            (.reply status), true)) := by
  unfold requestMarshall
  by_cases hRoom : s.conn.writeBuffer.room < 10
  · exact Or.inl ⟨hRoom, if_pos hRoom⟩
  · exact Or.inr ⟨by omega, if_neg hRoom⟩

/- The state after a reply has been stored, if it fits. -/
def replied
    (s : St)
    (status : SocksReplyStatus) : St :=
  (requestMarshall s status).1

/- A reply changes the write buffer and the history. -/
theorem replied_eq
    (s : St)
    (status : SocksReplyStatus) :
    ∃ wb log, replied s status =
      { s with
        conn.writeBuffer := wb
        conn.log := s.conn.log ++ log } ∧
      ∀ event ∈ log, event = .reply status := by
  unfold replied
  rcases requestMarshall_cases s status with
    ⟨_, hFull⟩ | ⟨_, hStored⟩
  · refine ⟨s.conn.writeBuffer, [], ?_, ?_⟩
    · rw [hFull]
      simp
    · intro event hMember
      cases hMember
  · refine ⟨s.conn.writeBuffer.writeAdv (replyBytes status),
      [.reply status], ?_, ?_⟩
    · rw [hStored]
      rfl
    · intro event hMember
      exact List.mem_singleton.mp hMember

theorem replied_srv
    (s : St)
    (status : SocksReplyStatus) :
    (replied s status).srv = s.srv := by
  rcases replied_eq s status with ⟨wb, log, hEq, _⟩
  rw [hEq]

theorem errorHandler_eq
    {key : Key}
    {s : St}
    {sel : Selector}
    {interest : Interest}
    {attached : Attachment}
    (hHas : sel.Has key.fd interest attached)
    (status : SocksReplyStatus)
    (hSel : s.srv.sel = sel) :
    errorHandler key s status =
      (replied s status).arm key.fd opWrite attached := by
  have hSame : (replied s status).srv.sel = sel := by
    rw [replied_srv]
    exact hSel
  exact congrArg Prod.fst
    (St.setInterest_at hHas opWrite hSame)

/- The outcomes of `request_process`. -/
inductive RequestProcess
    (key : Key)
    (a : Answers)
    (request : Request)
    (s : St)
    (attached : Attachment) : St × Nat → Prop where
  | refused
      (status : SocksReplyStatus)
      (addrFamily : UInt8)
      (hRequest : request.cmd ≠ socksReqCmdConnect ∨
        (request.destAddrType ≠ socksReqAddrtypeIpv4 ∧
          request.destAddrType ≠ socksReqAddrtypeIpv6 ∧
          request.destAddrType ≠ socksReqAddrtypeDomain)) :
      RequestProcess key a request s attached
        ((replied { s with
              conn.request.addrFamily := addrFamily
              conn.request.status := status } status).arm
            key.fd opWrite attached, REQUEST_WRITE)
  | direct
      (addrFamily : UInt8)
      (domain : Family)
      (len : Nat)
      (hType : request.destAddrType ≠
        socksReqAddrtypeDomain) :
      RequestProcess key a request s attached
        ({ s with
            conn.request.addrFamily := addrFamily
            conn.originDomain := domain
            conn.originAddrLen := len
            conn.originAddr := request.destAddr },
          REQUEST_CONNECTING)
  | noMemory
      (hAlloc : a.alloc .resolvKey = false) :
      RequestProcess key a request s attached
        ((replied
            (St.note { s with
                conn.request.addrFamily :=
                  socksReqAddrtypeDomain
                conn.request.status :=
                  .generalSocksServerFailure }
              (.outOfMemory .resolvKey))
            .generalSocksServerFailure).arm
          key.fd opWrite attached, REQUEST_WRITE)
  | noThread
      (hThread : a.pthreadCreate = -1) :
      RequestProcess key a request s attached
        ((replied
            { s with
              conn.request.addrFamily :=
                socksReqAddrtypeDomain
              conn.request.status :=
                .generalSocksServerFailure }
            .generalSocksServerFailure).arm
          key.fd opWrite attached, REQUEST_WRITE)
  | resolving
      (hType : request.destAddrType = socksReqAddrtypeDomain)
      (hThread : a.pthreadCreate = 0) :
      RequestProcess key a request s attached
        ((St.note { s with
              conn.request.addrFamily :=
                socksReqAddrtypeDomain
              srv.threads := s.srv.threads ++
                [{ fd := key.fd, data := key.data,
                   request := request }] }
            (.resolve request)).arm key.fd opNoop attached,
          REQUEST_RESOLV)
  | waiting
      (hType : request.destAddrType = socksReqAddrtypeDomain)
      (hThread : a.pthreadCreate ≠ 0) :
      RequestProcess key a request s attached
        (St.arm { s with
              conn.request.addrFamily :=
                socksReqAddrtypeDomain }
            key.fd opNoop attached,
          REQUEST_RESOLV)

theorem requestProcessDomain_outcome
    {key : Key}
    {s : St}
    {interest : Interest}
    {attached : Attachment}
    (hHas : s.srv.sel.Has key.fd interest attached)
    (a : Answers)
    {request : Request}
    (hType : request.destAddrType =
      socksReqAddrtypeDomain) :
    RequestProcess key a request s attached
      (requestProcessDomain key a request
        { s with
          conn.request.addrFamily :=
            socksReqAddrtypeDomain }) := by
  unfold requestProcessDomain
  cases hAlloc : a.alloc .resolvKey with
  | false =>
      simp only [Bool.false_eq_true, if_false]
      rw [errorHandler_eq hHas]
      · exact .noMemory hAlloc
      · rfl
  | true =>
      simp only [if_true]
      by_cases hFailed : a.pthreadCreate = -1
      · rw [if_pos hFailed, errorHandler_eq hHas]
        · exact .noThread hFailed
        · rfl
      · rw [if_neg hFailed]
        by_cases hThread : a.pthreadCreate = 0
        · simp only [hThread, if_true]
          rw [St.setInterest_at hHas]
          · exact .resolving hType hThread
          · rfl
        · simp only [hThread, if_false]
          rw [St.setInterest_at hHas]
          · exact .waiting hType hThread
          · rfl

theorem requestProcess_outcome
    {key : Key}
    {s : St}
    {interest : Interest}
    {attached : Attachment}
    (hHas : s.srv.sel.Has key.fd interest attached)
    (a : Answers)
    (request : Request) :
    RequestProcess key a request s attached
      (requestProcess key a request s) := by
  unfold requestProcess
  by_cases hCmd : request.cmd ≠ socksReqCmdConnect
  · rw [if_pos hCmd, errorHandler_eq hHas]
    · exact .refused _ s.conn.request.addrFamily
        (Or.inl hCmd)
    · rfl
  rw [if_neg hCmd]
  by_cases hIpv4 : request.destAddrType =
      socksReqAddrtypeIpv4
  · rw [if_pos hIpv4]
    refine .direct _ _ _ ?_
    rw [hIpv4]
    decide
  rw [if_neg hIpv4]
  by_cases hIpv6 : request.destAddrType =
      socksReqAddrtypeIpv6
  · rw [if_pos hIpv6]
    refine .direct _ _ _ ?_
    rw [hIpv6]
    decide
  rw [if_neg hIpv6]
  by_cases hDomain : request.destAddrType =
      socksReqAddrtypeDomain
  · rw [if_pos hDomain]
    exact requestProcessDomain_outcome hHas a hDomain
  · rw [if_neg hDomain, errorHandler_eq hHas]
    · exact .refused _ s.conn.request.addrFamily
        (Or.inr ⟨hIpv4, hIpv6, hDomain⟩)
    · rfl

/- The outcomes of `request_read` with a parser. -/
inductive RequestRead
    (key : Key)
    (a : Answers)
    (s : St)
    (p : RequestParser)
    (attached : Attachment) : St × Nat → Prop where
  | ended
      (hBytes : s.recvBytes a = []) :
      RequestRead key a s p attached
        (s.note (.eof (s.conn.sideOf key.fd) []), ERROR)
  | more
      (bytes : List UInt8)
      (hBytes : s.recvBytes a = bytes)
      (hSome : bytes ≠ [])
      (hGoing : (requestFed key bytes p s).2.state ≠ .done) :
      RequestRead key a s p attached
        ((requestFed key bytes p s).1, REQUEST_READ)
  | processed
      (bytes : List UInt8)
      (hBytes : s.recvBytes a = bytes)
      (hSome : bytes ≠ [])
      (hDone : (requestFed key bytes p s).2.state = .done)
      (result : St × Nat)
      (hResult : RequestProcess key a
        (requestFed key bytes p s).2.request
        (requestFed key bytes p s).1 attached result) :
      RequestRead key a s p attached result

theorem requestRead_outcome
    {key : Key}
    {s : St}
    {interest : Interest}
    {attached : Attachment}
    {p : RequestParser}
    (hHas : s.srv.sel.Has key.fd interest attached)
    (hStatus : s.conn.request.status = .succeeded)
    (hParser : s.conn.request.parser = some p)
    (a : Answers) :
    RequestRead key a s p attached
      (requestRead key a s) := by
  unfold requestRead
  simp only [hStatus, hParser, ne_eq, not_true_eq_false,
    if_false]
  by_cases hNone : s.recvBytes a = []
  · simp only [hNone, if_true]
    exact .ended hNone
  simp only [hNone, if_false]
  by_cases hDone : (requestFed key (s.recvBytes a) p
      s).2.state = .done
  · simp only [requestIsDone, hDone, decide_true, if_true]
    have hFed : (requestFed key (s.recvBytes a) p
        s).1.srv.sel.Has key.fd interest attached := hHas
    exact .processed _ rfl hNone hDone _
      (requestProcess_outcome hFed a _)
  · simp only [requestIsDone, hDone, decide_false,
      Bool.false_eq_true, if_false]
    exact .more _ rfl hNone hDone

/- The outcomes of `request_resolv_done`. -/
inductive RequestResolvDone
    (key : Key)
    (s : St)
    (attached : Attachment) : St × Nat → Prop where
  | failed
      (hList : s.conn.originResolution = []) :
      RequestResolvDone key s attached
        ((replied
            { s.note (.resolved s.conn.originResolution) with
              conn.connStatus := .generalSocksServerFailure
              conn.request.status :=
                .generalSocksServerFailure }
            .generalSocksServerFailure).arm key.fd opWrite
          attached, REQUEST_WRITE)
  | first
      (address : Addrinfo)
      (rest : List Addrinfo)
      (hList : s.conn.originResolution = address :: rest) :
      RequestResolvDone key s attached
        (takeAddress address
            { s.note (.resolved s.conn.originResolution) with
              conn.resolutionCurrent := address :: rest },
          REQUEST_CONNECTING)

theorem requestResolvDone_outcome
    {key : Key}
    {s : St}
    {interest : Interest}
    {attached : Attachment}
    (hHas : s.srv.sel.Has key.fd interest attached)
    (a : Answers) :
    RequestResolvDone key s attached
      (requestResolvDone key a s) := by
  unfold requestResolvDone
  simp only []
  split
  · rename_i hList
    rw [errorHandler_eq hHas]
    · exact .failed hList
    · rfl
  · rename_i address rest hList
    exact .first address rest hList

/- An address only changes the target. -/
theorem takeAddress_eq
    (address : Addrinfo)
    (s : St) :
    ∃ domain len addr, takeAddress address s =
      { s with
        conn.originDomain := domain
        conn.originAddrLen := len
        conn.originAddr := addr } := by
  unfold takeAddress
  cases address.family with
  | inet => exact ⟨_, _, _, rfl⟩
  | inet6 => exact ⟨_, _, _, rfl⟩
  | unspec => exact ⟨_, _, _, rfl⟩

/- The outcomes of `request_write`. -/
inductive RequestWrite
    (key : Key)
    (a : Answers)
    (s : St)
    (attached : Attachment) : St × Nat → Prop where
  | failed
      (hSend : a.send = none) :
      RequestWrite key a s attached
        (s.note (.sendError (s.conn.sideOf key.fd)), ERROR)
  | more
      (n : Nat)
      (hSend : a.send = some n)
      (hLeft : (sendPending key n
        s).conn.writeBuffer.pending ≠ []) :
      RequestWrite key a s attached
        (sendPending key n s, REQUEST_WRITE)
  | alone
      (n : Nat)
      (hSend : a.send = some n)
      (hSent : (sendPending key n
        s).conn.writeBuffer.pending = [])
      (hStatus : s.conn.connStatus = .succeeded)
      (hOrigin : s.conn.originFd = -1) :
      RequestWrite key a s attached
        ((sendPending key n s).arm s.conn.clientFd opRead
          attached, COPY)
  | relay
      (n : Nat)
      (hSend : a.send = some n)
      (hSent : (sendPending key n
        s).conn.writeBuffer.pending = [])
      (hStatus : s.conn.connStatus = .succeeded)
      (hOrigin : s.conn.originFd ≠ -1) :
      RequestWrite key a s attached
        (((sendPending key n s).arm s.conn.clientFd opRead
            attached).arm s.conn.originFd opRead attached,
          COPY)
  | done
      (n : Nat)
      (hSend : a.send = some n)
      (hSent : (sendPending key n
        s).conn.writeBuffer.pending = [])
      (hStatus : s.conn.connStatus ≠ .succeeded) :
      RequestWrite key a s attached
        ((sendPending key n s).arm s.conn.clientFd opNoop
          attached, DONE)

/- Nothing is set for the descriptor -1. -/
theorem setInterest_neg_one
    (s : St)
    (interest : Interest) :
    s.setInterest (-1) interest = (s, false) := by
  simp [St.setInterest, Selector.setInterest, validFd]

theorem requestWrite_outcome
    {key : Key}
    {s : St}
    {interest idle : Interest}
    {attached : Attachment}
    (hClient : s.srv.sel.Has s.conn.clientFd interest
      attached)
    (hOrigin : s.conn.originFd = -1 ∨
      s.srv.sel.Has s.conn.originFd idle attached)
    (hNe : s.conn.originFd ≠ s.conn.clientFd)
    (a : Answers) :
    RequestWrite key a s attached (requestWrite key a s) := by
  unfold requestWrite
  cases hSend : a.send with
  | none => exact .failed hSend
  | some n =>
      have hMine : (sendPending key n s).srv.sel.Has
          (sendPending key n s).conn.clientFd interest
          attached := hClient
      have hFd : (sendPending key n s).conn.originFd =
          s.conn.originFd := rfl
      have hSame : (sendPending key n s).conn.connStatus =
          s.conn.connStatus := rfl
      simp only [St.setInterest_of_has hMine, hSame]
      cases hLeft : (sendPending key n
          s).conn.writeBuffer.canRead with
      | true =>
          exact .more n hSend
            ((Buffer.canRead_eq_true_iff _).mp hLeft)
      | false =>
          have hSent :=
            (Buffer.canRead_eq_false_iff _).mp hLeft
          rw [if_neg Bool.false_ne_true]
          by_cases hStatus : s.conn.connStatus = .succeeded
          · rw [if_pos hStatus, St.arm_conn]
            rcases hOrigin with hAlone | hHas
            · rw [hFd, hAlone, setInterest_neg_one]
              exact .alone n hSend hSent hStatus hAlone
            · have hValid : s.conn.originFd ≠ -1 := by
                intro hEq
                have hRange := hHas.1
                rw [hEq] at hRange
                exact absurd hRange (by decide)
              have hNext := hHas.put_of_ne
                ⟨opRead, attached⟩ hNe
              rw [hFd, St.setInterest_at hNext opRead rfl]
              exact .relay n hSend hSent hStatus hValid
          · rw [if_neg hStatus, St.arm_conn]
            by_cases hAlone : s.conn.originFd = -1
            · rw [hFd, if_pos hAlone, hAlone,
                setInterest_neg_one]
              exact .done n hSend hSent hStatus
            · rw [hFd, if_neg hAlone]
              exact .done n hSend hSent hStatus

section Starting

variable {key : Key}
variable {s : St}
variable {interest : Interest}
variable {attached : Attachment}

/- A failed allocation arms the client. -/
theorem requestInitFailed_eq
    (hHas : s.srv.sel.Has key.fd interest attached)
    (site : AllocSite) :
    ∃ wb log, requestInitFailed key site s =
        { s with
          srv.sel := s.srv.sel.put key.fd
            ⟨opWrite, attached⟩
          conn.request.status := .generalSocksServerFailure
          conn.writeBuffer := wb
          conn.log := s.conn.log ++ .outOfMemory site ::
            log } ∧
      ∀ event ∈ log, ∃ status, event = .reply status := by
  have hCall := errorHandler_eq
    (s := St.note { s with
        conn.request.status := .generalSocksServerFailure }
      (.outOfMemory site))
    hHas .generalSocksServerFailure rfl
  unfold requestInitFailed
  rw [hCall]
  rcases replied_eq (St.note { s with
        conn.request.status := .generalSocksServerFailure }
      (.outOfMemory site)) .generalSocksServerFailure with
    ⟨wb, log, hEq, hLog⟩
  rw [hEq]
  refine ⟨wb, log, ?_, fun event h => ⟨_, hLog event h⟩⟩
  simp [St.arm, St.note]

/- `request_init` starts afresh or answers a failure. -/
inductive RequestInit
    (key : Key)
    (attached : Attachment)
    (s : St) : St → Prop where
  | ready :
      RequestInit key attached s
        { s with
          conn.request.parser := some requestParserInit
          conn.request.status := .succeeded }
  | starved
      (wb : Buffer rawBuffSize)
      (site : AllocSite)
      (log : List Ev)
      (fault : Option Fault)
      (hSite : site = .requestParser ∨
        site = .requestFirst ∨ site = .requestSecond)
      (hLog : ∀ event ∈ log,
        (∃ status, event = .reply status) ∨
          ∃ site, event = .outOfMemory site)
      (hFault : fault = s.srv.fault ∨
        fault = some (s.srv.fault.getD .segv)) :
      RequestInit key attached s
        { s with
          srv.sel := s.srv.sel.put key.fd
            ⟨opWrite, attached⟩
          srv.fault := fault
          conn.request.parser := some requestParserInit
          conn.request.status := .generalSocksServerFailure
          conn.writeBuffer := wb
          conn.log := s.conn.log ++ .outOfMemory site ::
            log }

/- The request before its allocations. -/
def requestStarted (s : St) : St :=
  { s with
    conn.request.parser := some requestParserInit
    conn.request.status := .succeeded }

/- A failed allocation starves the request. -/
theorem requestInitFailed_starved
    (hHas : s.srv.sel.Has key.fd interest attached)
    {site : AllocSite}
    (hSite : site = .requestParser ∨
      site = .requestFirst ∨ site = .requestSecond) :
    RequestInit key attached s
      (requestInitFailed key site (requestStarted s)) := by
  rcases requestInitFailed_eq (s := requestStarted s) hHas
    site with ⟨wb, log, hEq, hLog⟩
  rw [hEq]
  exact .starved wb site log s.srv.fault hSite
    (fun event hEvent => Or.inl (hLog event hEvent))
    (Or.inl rfl)

theorem requestInit_outcome
    (hHas : s.srv.sel.Has key.fd interest attached)
    (a : Answers) :
    RequestInit key attached s (requestInit key a s) := by
  show RequestInit key attached s
    (if a.alloc .requestParser = true then
      let t := if a.alloc .requestFirst = true then
          requestStarted s
        else requestInitFailed key .requestFirst
          (requestStarted s)
      if a.alloc .requestSecond = true then t
      else requestInitFailed key .requestSecond t
    else (requestInitFailed key .requestParser
      (requestStarted s)).crash .segv)
  by_cases hParser : a.alloc .requestParser = true
  · rw [if_pos hParser]
    by_cases hFirst : a.alloc .requestFirst = true
    · simp only [hFirst, if_true]
      split
      · exact .ready
      · exact requestInitFailed_starved hHas (by simp)
    simp only [hFirst]
    split
    · exact requestInitFailed_starved hHas (by simp)
    rcases requestInitFailed_eq (s := requestStarted s) hHas
      .requestFirst with ⟨wb, log, hEq, hLog⟩
    have hAgain : (requestInitFailed key .requestFirst
        (requestStarted s)).srv.sel.Has key.fd opWrite
          attached := by
      rw [hEq]
      exact Selector.Has.put_self hHas.1 _
    rcases requestInitFailed_eq hAgain .requestSecond with
      ⟨wb', log', hEq', hLog'⟩
    simp only [Bool.false_eq_true, if_false]
    rw [hEq', hEq]
    simp only [Selector.put_put, List.append_assoc,
      List.cons_append]
    refine .starved wb' .requestFirst
      (log ++ .outOfMemory .requestSecond :: log')
      s.srv.fault (by simp) ?_ (Or.inl rfl)
    intro event hEvent
    rcases List.mem_append.mp hEvent with hBefore | hRest
    · exact Or.inl (hLog event hBefore)
    · rcases List.mem_cons.mp hRest with hSecond | hLast
      · exact Or.inr ⟨_, hSecond⟩
      · exact Or.inl (hLog' event hLast)
  · rw [if_neg hParser]
    rcases requestInitFailed_eq (s := requestStarted s) hHas
      .requestParser with ⟨wb, log, hEq, hLog⟩
    rw [hEq]
    exact .starved wb .requestParser log _ (by simp)
      (fun event hEvent => Or.inl (hLog event hEvent))
      (Or.inr rfl)

end Starting

end Socks5d
