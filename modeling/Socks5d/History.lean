import Socks5d.EventWiring

/-
  What the events of a SOCKS connection add to its history,
  and what connecting to the origin leaves alone.

  Main declarations:
    * `Conn.Grows`
    * `Ev.ofState`, `Ev.ofArrival`
    * `SocksTurn.logs`, `SocksJump.logs`
    * `Conn.Aside`
-/

------------------------------------------------------------
-- Growing Histories
------------------------------------------------------------

namespace Socks5d

namespace Conn

variable {P Q : Ev → Prop}
variable {c d e : Conn}

/- Only events of one kind are added. -/
def Grows
    (P : Ev → Prop)
    (c d : Conn) : Prop :=
  ∃ events, d.log = c.log ++ events ∧
    ∀ event ∈ events, P event

namespace Grows

theorem of_eq
    (h : d.log = c.log) : Grows P c d :=
  ⟨[], by rw [h, List.append_nil],
    fun _ hEvent => nomatch hEvent⟩

theorem single
    {event : Ev}
    (h : d.log = c.log ++ [event])
    (hEvent : P event) : Grows P c d := by
  refine ⟨[event], h, ?_⟩
  intro other hOther
  rw [List.mem_singleton.mp hOther]
  exact hEvent

theorem trans
    (h : Grows P c d)
    (h' : Grows P d e) : Grows P c e := by
  rcases h with ⟨first, hFirst, hP⟩
  rcases h' with ⟨second, hSecond, hP'⟩
  refine ⟨first ++ second, ?_, ?_⟩
  · rw [hSecond, hFirst, List.append_assoc]
  · intro event hEvent
    rcases List.mem_append.mp hEvent with hOld | hNew
    · exact hP event hOld
    · exact hP' event hNew

theorem mono
    (h : Grows P c d)
    (hImp : ∀ event, P event → Q event) : Grows Q c d := by
  rcases h with ⟨events, hEq, hP⟩
  exact ⟨events, hEq, fun event hEvent =>
    hImp event (hP event hEvent)⟩

/- Nothing is ever removed from a history. -/
theorem mem
    (h : Grows P c d)
    {event : Ev}
    (hEvent : event ∈ c.log) : event ∈ d.log := by
  rcases h with ⟨events, hEq, _⟩
  rw [hEq]
  exact List.mem_append_left _ hEvent

/- What was not there before is of the kind. -/
theorem new
    (h : Grows P c d)
    {event : Ev}
    (hEvent : event ∈ d.log) :
    event ∈ c.log ∨ P event := by
  rcases h with ⟨events, hEq, hP⟩
  rw [hEq] at hEvent
  rcases List.mem_append.mp hEvent with hOld | hNew
  · exact Or.inl hOld
  · exact Or.inr (hP event hNew)

/- An extract that does not see the kind stays. -/
theorem filterMap
    {β : Type}
    (h : Grows P c d)
    (f : Ev → Option β)
    (hBlind : ∀ event, P event → f event = none) :
    d.log.filterMap f = c.log.filterMap f := by
  rcases h with ⟨events, hEq, hP⟩
  rw [hEq, List.filterMap_append]
  have hNone : events.filterMap f = [] := by
    rw [List.filterMap_eq_nil_iff]
    intro event hEvent
    exact hBlind event (hP event hEvent)
  rw [hNone, List.append_nil]

end Grows

end Conn

/- Events of connecting and of answering a request. -/
def Ev.ofConnecting : Ev → Prop
| .reply _ => True
| .socket _ _ => True
| .nonblocking _ => True
| .connect _ => True
| .soError _ _ => True
| .access _ _ => True
| _ => False

/- Events that the call of a state may add. -/
def Ev.ofState : Nat → Ev → Prop
| HELLO_READ, .recv _ _ => True
| HELLO_READ, .eof _ _ => True
| HELLO_WRITE, .send _ _ => True
| HELLO_WRITE, .sendError _ => True
| USERPASS_READ, .recv _ _ => True
| USERPASS_READ, .eof _ _ => True
| USERPASS_READ, .credentials _ _ _ _ => True
| USERPASS_WRITE, .send _ _ => True
| USERPASS_WRITE, .sendError _ => True
| REQUEST_READ, .recv _ _ => True
| REQUEST_READ, .eof _ _ => True
| REQUEST_READ, .reply _ => True
| REQUEST_READ, .outOfMemory _ => True
| REQUEST_READ, .resolve _ => True
| REQUEST_RESOLV, .resolved _ => True
| REQUEST_RESOLV, .reply _ => True
| REQUEST_CONNECTING, event => event.ofConnecting
| REQUEST_WRITE, .send _ _ => True
| REQUEST_WRITE, .sendError _ => True
| COPY, .recv _ _ => True
| COPY, .eof _ _ => True
| COPY, .send _ _ => True
| COPY, .sendError _ => True
| COPY, .consumed _ => True
| COPY, .captured _ _ => True
| _, _ => False

/- What `copy_read` searches belongs to `COPY`. -/
theorem Ev.ofDissect.ofCopy
    {event : Ev}
    (h : event.ofDissect) : event.ofState COPY := by
  unfold Ev.ofDissect at h
  split at h
  · trivial
  · trivial
  · exact h.elim

/- Events that entering a state may add after `enter`. -/
def Ev.ofArrival : Nat → Ev → Prop
| HELLO_READ, .helloInit _ => True
| HELLO_READ, .outOfMemory _ => True
| USERPASS_READ, .outOfMemory _ => True
| REQUEST_READ, .outOfMemory _ => True
| REQUEST_READ, .reply _ => True
| REQUEST_CONNECTING, event => event.ofConnecting
| _, _ => False

end Socks5d

------------------------------------------------------------
-- Connecting
------------------------------------------------------------

namespace Socks5d

/- What connecting to the origin leaves alone. -/
structure Conn.Aside (c d : Conn) : Prop where
  service : d.isSocks = c.isSocks
  client : d.clientFd = c.clientFd
  current : d.current = c.current
  hello : d.hello = c.hello
  userpass : d.userpass = c.userpass
  readBuffer : d.readBuffer = c.readBuffer
  authentication : d.authentication = c.authentication
  userIndex : d.userIndex = c.userIndex
  grows : c.Grows Ev.ofConnecting d

namespace Conn.Aside

variable {c d e : Conn}

theorem refl
    (c : Conn) : Aside c c :=
  ⟨rfl, rfl, rfl, rfl, rfl, rfl, rfl, rfl, .of_eq rfl⟩

theorem trans
    (h : Aside c d)
    (h' : Aside d e) : Aside c e where
  service := h'.service.trans h.service
  client := h'.client.trans h.client
  current := h'.current.trans h.current
  hello := h'.hello.trans h.hello
  userpass := h'.userpass.trans h.userpass
  readBuffer := h'.readBuffer.trans h.readBuffer
  authentication := h'.authentication.trans h.authentication
  userIndex := h'.userIndex.trans h.userIndex
  grows := h.grows.trans h'.grows

end Conn.Aside

section Connecting

variable {key : Key}
variable {a : Answers}
variable {s t u : St}
variable {c : Conn}
variable {attached : Attachment}

theorem replied_aside
    (h : c.Aside s.conn)
    (status : SocksReplyStatus) :
    c.Aside (replied s status).conn := by
  rcases replied_eq s status with ⟨wb, log, hEq, hLog⟩
  rw [hEq]
  refine h.trans ⟨rfl, rfl, rfl, rfl, rfl, rfl, rfl, rfl, ?_⟩
  refine ⟨log, rfl, ?_⟩
  intro event hEvent
  rw [hLog event hEvent]
  trivial

theorem answeredWith_conn
    (s : St)
    (attached : Attachment)
    (status : SocksReplyStatus) :
    (answeredWith s attached status).conn =
      (replied s status).conn := by
  unfold answeredWith
  rw [idleOrigin_conn, St.arm_conn]

theorem answeredWith_aside
    (h : c.Aside s.conn)
    (attached : Attachment)
    (status : SocksReplyStatus) :
    c.Aside (answeredWith s attached status).conn := by
  rw [answeredWith_conn]
  exact replied_aside h status

theorem refusedWith_aside
    (h : c.Aside s.conn)
    (attached : Attachment)
    (status : SocksReplyStatus) :
    c.Aside (refusedWith s attached status).conn := by
  rw [refusedWith_conn]
  refine replied_aside (s := { s with
    conn.connStatus := status }) ?_ status
  exact h.trans ⟨rfl, rfl, rfl, rfl, rfl, rfl, rfl, rfl,
    .of_eq rfl⟩

theorem attempted_aside
    (h : c.Aside s.conn)
    (a : Answers) :
    c.Aside (attempted a s).conn :=
  h.trans ⟨rfl, rfl, rfl, rfl, rfl, rfl, rfl, rfl,
    .single rfl trivial⟩

theorem Connection.aside
    {r : St × SocksReplyStatus}
    (h : Connection key a s attached r)
    (hBefore : c.Aside s.conn) : c.Aside r.1.conn := by
  have hTried := attempted_aside hBefore a
  cases h with
  | refused errno hAnswer =>
      refine refusedWith_aside (s := { attempted a s with
        conn.request.status := errnoToSocks (some errno) })
        ?_ _ _
      exact hTried.trans ⟨rfl, rfl, rfl, rfl, rfl, rfl, rfl,
        rfl, .of_eq rfl⟩
  | underway hAnswer hFree => exact hTried
  | blocked hAnswer hTaken =>
      have hRefused := refusedWith_aside
        (s := (attempted a s).arm key.fd opNoop attached)
        hTried attached .generalSocksServerFailure
      exact hRefused.trans ⟨rfl, rfl, rfl, rfl, rfl, rfl, rfl,
        rfl, .of_eq rfl⟩
  | atOnce hAnswer hFree => exact hTried
  | atOnceBlocked hAnswer hTaken =>
      exact refusedWith_aside
        (s := (takeReference key (attempted a s)).arm key.fd
          opRead attached) hTried attached _

theorem aimNext_aside
    (h : c.Aside s.conn)
    (next : Addrinfo)
    (rest : List Addrinfo) :
    c.Aside (aimNext next rest s).conn := by
  rcases aimNext_eq next rest s with ⟨addr, hEq⟩
  rw [hEq]
  exact h.trans ⟨rfl, rfl, rfl, rfl, rfl, rfl, rfl, rfl,
    .of_eq rfl⟩

/- An event of connecting is noted. -/
theorem note_aside
    (h : c.Aside s.conn)
    (event : Ev)
    (hEvent : event.ofConnecting) :
    c.Aside (s.note event).conn :=
  h.trans ⟨rfl, rfl, rfl, rfl, rfl, rfl, rfl, rfl,
    .single rfl hEvent⟩

theorem failedNoted_aside
    (h : c.Aside s.conn)
    (status : SocksReplyStatus) :
    c.Aside (failedNoted s status).conn :=
  h.trans ⟨rfl, rfl, rfl, rfl, rfl, rfl, rfl, rfl,
    .single rfl trivial⟩

theorem ConnectingWrite.aside
    {r : St × Nat}
    (h : ConnectingWrite key a s attached r) :
    s.conn.Aside r.1.conn := by
  have hSelf := Conn.Aside.refl s.conn
  cases h with
  | nextAfterFailure next rest hStatus hNext result hResult =>
      exact hResult.aside (aimNext_aside hSelf next rest)
  | gaveUp hStatus hNone =>
      refine answeredWith_aside ?_ _ _
      rw [dropOrigin_conn]
      exact ⟨rfl, rfl, rfl, rfl, rfl, rfl, rfl, rfl,
        .of_eq rfl⟩
  | noAnswer hStatus hError =>
      exact answeredWith_aside (failedNoted_aside
        (note_aside hSelf (.soError _ _) trivial) _) _ _
  | established hStatus hError hRoom =>
      refine replied_aside (s := Socks5d.established (s.note
        (.soError (some none) (nextAddresses s).length)))
        ?_ _
      refine (note_aside hSelf (.soError (some none)
        (nextAddresses s).length) trivial).trans ?_
      exact ⟨rfl, rfl, rfl, rfl, rfl, rfl, rfl, rfl,
        .single rfl trivial⟩
  | full hStatus hError hRoom =>
      refine (note_aside hSelf (.soError (some none)
        (nextAddresses s).length) trivial).trans ?_
      exact ⟨rfl, rfl, rfl, rfl, rfl, rfl, rfl, rfl,
        .single rfl trivial⟩
  | nextAfterError errno next rest hStatus hError hNext
      result hResult =>
      refine hResult.aside (aimNext_aside ?_ next rest)
      refine (note_aside hSelf (.soError (some (some errno))
        (nextAddresses s).length) trivial).trans ?_
      exact ⟨rfl, rfl, rfl, rfl, rfl, rfl, rfl, rfl,
        .of_eq rfl⟩
  | failed errno hStatus hError hNone =>
      exact answeredWith_aside (failedNoted_aside
        (note_aside hSelf (.soError _ _) trivial) _) _ _

theorem ConnectingInit.aside
    (h : ConnectingInit key a s attached u) :
    s.conn.Aside u.conn := by
  have hStarted : ∀ granted, s.conn.Aside
      (connectingStarted granted s).conn := fun granted =>
    ⟨rfl, rfl, rfl, rfl, rfl, rfl, rfl, rfl,
      .single rfl trivial⟩
  have hOpened : ∀ fd, s.conn.Aside (withSocket key a fd
      (connectingStarted (some fd) s)).conn := fun fd =>
    (hStarted (some fd)).trans ⟨rfl, rfl, rfl, rfl, rfl, rfl,
      rfl, rfl, .single rfl trivial⟩
  cases h with
  | noSocket hNone =>
      refine refusedWith_aside (s := { connectingStarted none
        s with conn.originFd := -1 }) ?_ _ _
      exact (hStarted none).trans ⟨rfl, rfl, rfl, rfl, rfl,
        rfl, rfl, rfl, .of_eq rfl⟩
  | notSet fd hSome hNio =>
      exact refusedWith_aside (hOpened fd) _ _
  | connected fd hSome hNio result hResult =>
      exact (hResult.aside (hOpened fd)).trans
        ⟨rfl, rfl, rfl, rfl, rfl, rfl, rfl, rfl, .of_eq rfl⟩

end Connecting

end Socks5d

------------------------------------------------------------
-- Calls And Jumps
------------------------------------------------------------

namespace Socks5d

section Calls

variable {k : ConnId}
variable {key : Key}
variable {a : Answers}
variable {s t u : St}
variable {attached : Attachment}
variable {r : St × Nat}

theorem HelloRead.logs
    (h : HelloRead key a s attached r) :
    s.conn.Grows (Ev.ofState HELLO_READ) r.1.conn := by
  cases h with
  | failed hFailed => exact .of_eq rfl
  | ended hBytes => exact .single rfl trivial
  | more bytes hBytes hSome hGoing => exact .single rfl trivial
  | refused bytes hBytes wb => exact .single rfl trivial
  | answered bytes hBytes hSome hDone hRoom =>
      exact .single rfl trivial

theorem HelloWrite.logs
    (h : HelloWrite key a s attached r) :
    s.conn.Grows (Ev.ofState HELLO_WRITE) r.1.conn := by
  cases h with
  | failed hSend => exact .single rfl trivial
  | more n hSend hLeft => exact .single rfl trivial
  | refused n hSend hSent hMethod => exact .single rfl trivial
  | userpass n hSend hSent hMethod =>
      exact .single rfl trivial
  | request n hSend hSent hMethod => exact .single rfl trivial

theorem AuthProcess.logs
    (h : AuthProcess s r) :
    s.conn.Grows (Ev.ofState USERPASS_READ) r.1.conn := by
  cases h with
  | accepted username password i userIndex hUser hPass
      hFound =>
      exact .single rfl trivial
  | denied username password => exact .single rfl trivial
  | noEntries => exact .of_eq rfl
  | crashed hMissing => exact .of_eq rfl

theorem AuthRead.logs
    (h : AuthRead key a s attached r) :
    s.conn.Grows (Ev.ofState USERPASS_READ) r.1.conn := by
  have hFed : ∀ bytes, s.conn.Grows
      (Ev.ofState USERPASS_READ)
      ((authFed key bytes s).1.arm key.fd opWrite
        attached).conn := fun bytes => .single rfl trivial
  cases h with
  | failed hFailed => exact .of_eq rfl
  | ended hBytes => exact .single rfl trivial
  | more bytes hBytes hSome hGoing => exact .single rfl trivial
  | rejected bytes hBytes processed hProcess =>
      exact (hFed bytes).trans hProcess.logs
  | answered bytes hBytes hSome hDone processed hProcess =>
      exact (hFed bytes).trans hProcess.logs

theorem AuthWrite.logs
    (h : AuthWrite key a s attached r) :
    s.conn.Grows (Ev.ofState USERPASS_WRITE) r.1.conn := by
  rcases authReply_eq s with ⟨wb, hReply⟩
  cases h with
  | failed hSend =>
      rw [hReply]
      exact .single rfl trivial
  | more n hSend hLeft =>
      rw [hReply]
      exact .single rfl trivial
  | refused n hSend hSent hDenied =>
      rw [hReply]
      exact .single rfl trivial
  | passed n hSend hSent hPassed =>
      rw [hReply]
      exact .single rfl trivial

/- A reply is one event, or none. -/
theorem replied_logs
    {P : Ev → Prop}
    {c : Conn}
    (h : c.Grows P s.conn)
    (status : SocksReplyStatus)
    (hP : P (.reply status)) :
    c.Grows P (replied s status).conn := by
  rcases replied_eq s status with ⟨wb, log, hEq, hLog⟩
  rw [hEq]
  refine h.trans ⟨log, rfl, ?_⟩
  intro event hEvent
  rw [hLog event hEvent]
  exact hP

theorem RequestProcess.logs
    {request : Request}
    (h : RequestProcess key a request s attached r) :
    s.conn.Grows (Ev.ofState REQUEST_READ) r.1.conn := by
  cases h with
  | refused status addrFamily hRequest =>
      refine replied_logs (s := { s with
        conn.request.addrFamily := addrFamily
        conn.request.status := status }) ?_ _ trivial
      exact .of_eq rfl
  | direct addrFamily domain len hType => exact .of_eq rfl
  | noMemory hAlloc =>
      refine replied_logs (s := St.note { s with
          conn.request.addrFamily := socksReqAddrtypeDomain
          conn.request.status := .generalSocksServerFailure }
        (.outOfMemory .resolvKey)) ?_ _ trivial
      exact .single rfl trivial
  | noThread hThread =>
      refine replied_logs (s := { s with
        conn.request.addrFamily := socksReqAddrtypeDomain
        conn.request.status := .generalSocksServerFailure })
        ?_ _ trivial
      exact .of_eq rfl
  | resolving hType hThread => exact .single rfl trivial
  | waiting hType hThread => exact .of_eq rfl

theorem RequestRead.logs
    {p : RequestParser}
    (h : RequestRead key a s p attached r) :
    s.conn.Grows (Ev.ofState REQUEST_READ) r.1.conn := by
  cases h with
  | ended hBytes => exact .single rfl trivial
  | more bytes hBytes hSome hGoing => exact .single rfl trivial
  | processed bytes hBytes hSome hDone _ hResult =>
      have hFed : s.conn.Grows (Ev.ofState REQUEST_READ)
          (requestFed key bytes p s).1.conn :=
        .single rfl trivial
      exact hFed.trans hResult.logs

/- Taking an address leaves the history. -/
theorem takeAddress_log
    (address : Addrinfo)
    (s : St) :
    (takeAddress address s).conn.log = s.conn.log := by
  rcases takeAddress_eq address s with ⟨_, _, _, hEq⟩
  rw [hEq]

theorem RequestResolvDone.logs
    (h : RequestResolvDone key s attached r) :
    s.conn.Grows (Ev.ofState REQUEST_RESOLV) r.1.conn := by
  cases h with
  | failed hList =>
      refine replied_logs (s := {
        s.note (.resolved s.conn.originResolution) with
        conn.connStatus := .generalSocksServerFailure
        conn.request.status := .generalSocksServerFailure })
        ?_ _ trivial
      exact .single rfl trivial
  | first address rest hList =>
      have hTaken := takeAddress_log address
        { s.note (.resolved s.conn.originResolution) with
          conn.resolutionCurrent := address :: rest }
      exact .single hTaken trivial

theorem RequestWrite.logs
    (h : RequestWrite key a s attached r) :
    s.conn.Grows (Ev.ofState REQUEST_WRITE) r.1.conn := by
  cases h with
  | failed hSend => exact .single rfl trivial
  | more n hSend hLeft => exact .single rfl trivial
  | alone n hSend hSent hStatus hOrigin =>
      exact .single rfl trivial
  | relay n hSend hSent hStatus hOrigin =>
      exact .single rfl trivial
  | done n hSend hSent hStatus => exact .single rfl trivial

theorem Relay.logs
    {side : Side}
    (h : Relay side s t) :
    s.conn.Grows (Ev.ofState COPY) t.conn := by
  cases h with
  | ended =>
      have hLog := copyEnded_log side s
      exact .single hLog trivial
  | got bytes hSome hRoom =>
      rcases copyGot_eq side bytes s with
        ⟨m, parser, found, hEq, hFound⟩
      rw [hEq]
      refine ⟨.recv side bytes :: found, rfl, ?_⟩
      intro event hEvent
      rcases List.mem_cons.mp hEvent with hRecv | hRest
      · rw [hRecv]
        trivial
      · exact (hFound event hRest).ofCopy
  | sendFailed =>
      have hLog := copySendFailed_log side s
      exact .single hLog trivial
  | sent n =>
      have hLog := copySent_log side n s
      exact .single hLog trivial

/- The call of a state only adds events of that state. -/
theorem SocksTurn.logs
    (h : SocksTurn k key a s r)
    (hSound : s.srv.sel.Sound)
    (hOwns : Owns k s.srv.sel s.conn) :
    ∃ state, s.conn.current = some state ∧
      s.conn.Grows (Ev.ofState state) r.1.conn := by
  cases h with
  | helloRead hState _ _ _ _ _ hCall =>
      exact ⟨_, hState, hCall.logs⟩
  | helloWrite hState _ _ _ _ _ hCall =>
      exact ⟨_, hState, hCall.logs⟩
  | authRead hState _ _ _ _ hCall =>
      exact ⟨_, hState, hCall.logs⟩
  | authWrite hState _ _ _ _ hCall =>
      exact ⟨_, hState, hCall.logs⟩
  | requestRead hState _ _ _ _ p _ _ hCall =>
      exact ⟨_, hState, hCall.logs⟩
  | requestResolvDone hState _ _ _ p _ _ hCall =>
      exact ⟨_, hState, hCall.logs⟩
  | connectingWrite hState _ _ _ _ _ _ hCall =>
      exact ⟨_, hState, hCall.aside.grows⟩
  | requestWrite hState _ _ _ _ hCall =>
      exact ⟨_, hState, hCall.logs⟩
  | relay hState hCopy hSlots side hSide hFd t hRelay =>
      have hReady := hRelay.ready hSound hOwns hCopy hSlots
      rw [copyFinish_conn hReady.1.fds hReady.2]
      exact ⟨_, hState, hRelay.logs⟩

/- A jump that enters a state notes it first. -/
theorem SocksJump.logs
    {next : Nat}
    (h : SocksJump k key a s next u) :
    (s.conn.current = some next ∧ u = s) ∨
      (s.conn.current ≠ some next ∧
        Conn.Grows (Ev.ofArrival next)
          (entered next s).conn u.conn) := by
  cases h with
  | stay _ hState hNext => exact Or.inl ⟨hState, rfl⟩
  | plain _ hNext hState parser hParser =>
      exact Or.inr ⟨hState, .of_eq rfl⟩
  | userpassRead hState =>
      refine Or.inr ⟨by rw [hState]; decide, ?_⟩
      unfold authReadInit
      split
      · exact .of_eq rfl
      · exact .single rfl trivial
  | requestRead hState _ hInit =>
      refine Or.inr ⟨?_, ?_⟩
      · rcases hState with hHello | hUser
        · rw [hHello]
          decide
        · rw [hUser]
          decide
      · cases hInit with
        | ready => exact .of_eq rfl
        | starved wb site log fault hSite hLog hFault =>
            refine ⟨.outOfMemory site :: log, rfl, ?_⟩
            intro event hEvent
            rcases List.mem_cons.mp hEvent with hNew | hRest
            · rw [hNew]
              trivial
            · rcases hLog event hRest with
                ⟨status, hEq⟩ | ⟨other, hEq⟩
              · rw [hEq]
                trivial
              · rw [hEq]
                trivial
  | connecting hState parser _ hInit =>
      refine Or.inr ⟨?_, hInit.aside.grows⟩
      rcases hState with hRead | hResolv
      · rw [hRead]
        decide
      · rw [hResolv]
        decide
  | copy hState =>
      exact Or.inr ⟨by rw [hState]; decide, .of_eq rfl⟩

end Calls

end Socks5d
