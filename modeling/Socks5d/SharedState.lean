import Socks5d.MngWiring
import Socks5d.History

/-
  What the events of a connection do to the state that all
  connections share, apart from the tables of the selector.

  Main declarations:
    * `SameShared`
    * `Threads`, `SocksEvent.threads`
    * `MngShared`, `MngEvent.shared`
-/

------------------------------------------------------------
-- Handlers Of SOCKS Connections
------------------------------------------------------------

namespace Socks5d

/- Tables of users, settings, threads and jobs are equal. -/
structure SameShared (x y : Server) : Prop where
  users : y.users = x.users
  admins : y.admins = x.admins
  authMethod : y.authMethod = x.authMethod
  dissectors : y.passwordDissectors = x.passwordDissectors
  threads : y.threads = x.threads
  jobs : y.jobs = x.jobs
  lost : y.lost = x.lost

namespace SameShared

variable {x y z : Server}

theorem refl
    (x : Server) : SameShared x x :=
  ⟨rfl, rfl, rfl, rfl, rfl, rfl, rfl⟩

theorem trans
    (h : SameShared x y)
    (h' : SameShared y z) : SameShared x z where
  users := h'.users.trans h.users
  admins := h'.admins.trans h.admins
  authMethod := h'.authMethod.trans h.authMethod
  dissectors := h'.dissectors.trans h.dissectors
  threads := h'.threads.trans h.threads
  jobs := h'.jobs.trans h.jobs
  lost := h'.lost.trans h.lost

/- Selector, counters and fault do not count. -/
theorem of_eq
    {sel : Selector}
    {metrics : Metrics}
    {references handedBack : ConnId → Nat}
    {fault : Option Fault}
    (hEq : y = { x with
      sel := sel
      metrics := metrics
      references := references
      handedBack := handedBack
      fault := fault }) : SameShared x y := by
  rw [hEq]
  exact ⟨rfl, rfl, rfl, rfl, rfl, rfl, rfl⟩

end SameShared

section Handlers

variable {k : ConnId}
variable {key : Key}
variable {a : Answers}
variable {s t u : St}
variable {attached : Attachment}

/- What a handler does before it answers is passed on. -/
theorem replied_shared
    {x : Server}
    (h : SameShared x s.srv)
    (status : SocksReplyStatus) :
    SameShared x (replied s status).srv := by
  rw [replied_srv]
  exact h

theorem SameShared.arm
    {x : Server}
    (h : SameShared x s.srv)
    (fd : Fd)
    (wanted : Interest)
    (attached : Attachment) :
    SameShared x (s.arm fd wanted attached).srv :=
  ⟨h.users, h.admins, h.authMethod, h.dissectors, h.threads,
    h.jobs, h.lost⟩

theorem idleOrigin_shared
    {x : Server}
    (h : SameShared x s.srv) :
    SameShared x (idleOrigin s).srv := by
  rcases idleOrigin_cases s with ⟨hSame, _⟩ |
    ⟨_, _, _, hIdle⟩
  · rw [hSame]
    exact h
  · rw [hIdle]
    exact h.arm _ _ _

theorem answeredWith_shared
    {x : Server}
    (h : SameShared x s.srv)
    (attached : Attachment)
    (status : SocksReplyStatus) :
    SameShared x (answeredWith s attached status).srv :=
  idleOrigin_shared ((replied_shared h status).arm _ _ _)

theorem refusedWith_shared
    {x : Server}
    (h : SameShared x s.srv)
    (attached : Attachment)
    (status : SocksReplyStatus) :
    SameShared x (refusedWith s attached status).srv :=
  answeredWith_shared (s := { s with
    conn.connStatus := status }) h attached status

theorem unregisterFd_shared
    (srv : Server)
    (fd : Fd) :
    SameShared srv (unregisterFd srv fd).1 := by
  unfold unregisterFd
  cases srv.sel.registered? fd with
  | none => exact .refl _
  | some item =>
      cases hData : item.attached.data? with
      | none =>
          simp only [hData]
          exact .of_eq rfl
      | some data =>
          simp only [hData, destroy]
          split
          · exact .of_eq rfl
          · exact .of_eq rfl

theorem dropOrigin_shared
    (s : St) : SameShared s.srv (dropOrigin s).srv := by
  have h := unregisterFd_shared s.srv s.conn.originFd
  exact ⟨h.users, h.admins, h.authMethod, h.dissectors,
    h.threads, h.jobs, h.lost⟩

theorem Connection.shared
    {x : Server}
    (hBefore : SameShared x s.srv)
    {r : St × SocksReplyStatus}
    (h : Connection key a s attached r) :
    SameShared x r.1.srv := by
  have hTried : SameShared x (attempted a s).srv :=
    hBefore.trans (.of_eq rfl)
  have hTaken : SameShared x
      (takeReference key (attempted a s)).srv :=
    hTried.trans (.of_eq rfl)
  cases h with
  | refused errno hAnswer =>
      exact refusedWith_shared
        (s := { attempted a s with
          conn.request.status := errnoToSocks (some errno) })
        hTried _ _
  | underway hAnswer hFree =>
      exact ((hTried.arm _ _ _).arm _ _ _).trans (.of_eq rfl)
  | blocked hAnswer hBlocked =>
      have hRefused := refusedWith_shared
        (hTried.arm key.fd opNoop attached) attached
        .generalSocksServerFailure
      exact ⟨hRefused.users, hRefused.admins,
        hRefused.authMethod, hRefused.dissectors,
        hRefused.threads, hRefused.jobs, hRefused.lost⟩
  | atOnce hAnswer hFree =>
      exact (hTaken.arm _ _ _).arm _ _ _
  | atOnceBlocked hAnswer hBlocked =>
      exact refusedWith_shared
        (hTaken.arm key.fd opRead attached) attached _

theorem aimNext_srv
    (next : Addrinfo)
    (rest : List Addrinfo)
    (s : St) :
    (aimNext next rest s).srv = s.srv := by
  rcases aimNext_eq next rest s with ⟨addr, hEq⟩
  rw [hEq]

theorem aimNext_shared
    {x : Server}
    (h : SameShared x s.srv)
    (next : Addrinfo)
    (rest : List Addrinfo) :
    SameShared x (aimNext next rest s).srv := by
  rw [aimNext_srv]
  exact h

theorem ConnectingWrite.shared
    {r : St × Nat}
    (h : ConnectingWrite key a s attached r) :
    SameShared s.srv r.1.srv := by
  cases h with
  | nextAfterFailure next rest hStatus hNext result hResult =>
      exact hResult.shared (aimNext_shared (.refl _) next rest)
  | gaveUp hStatus hNone =>
      exact answeredWith_shared (dropOrigin_shared s) _ _
  | noAnswer hStatus hError =>
      exact answeredWith_shared (s := failedNoted
        (s.note (.soError none (nextAddresses s).length))
        .generalSocksServerFailure) (.refl _) _ _
  | established hStatus hError hRoom =>
      have hUp : SameShared s.srv (Socks5d.established (s.note
          (.soError (some none)
            (nextAddresses s).length))).srv := .of_eq rfl
      exact ((replied_shared hUp _).arm _ _ _).arm _ _ _
  | full hStatus hError hRoom => exact .of_eq rfl
  | nextAfterError errno next rest hStatus hError hNext
      result hResult =>
      refine hResult.shared (aimNext_shared ?_ next rest)
      exact .refl _
  | failed errno hStatus hError hNone =>
      exact answeredWith_shared (s := failedNoted
        (s.note (.soError (some (some errno))
          (nextAddresses s).length))
        (errnoToSocks (some errno))) (.refl _) _ _

theorem ConnectingInit.shared
    (h : ConnectingInit key a s attached u) :
    SameShared s.srv u.srv := by
  cases h with
  | noSocket hNone =>
      exact refusedWith_shared (s := { connectingStarted none s
        with conn.originFd := -1 }) (.refl _) _ _
  | notSet fd hSome hNio =>
      have hOpened : SameShared s.srv (withSocket key a fd
          (connectingStarted (some fd) s)).srv := .of_eq rfl
      exact refusedWith_shared hOpened _ _
  | connected fd hSome hNio result hResult =>
      have hOpened : SameShared s.srv (withSocket key a fd
          (connectingStarted (some fd) s)).srv := .of_eq rfl
      exact hResult.shared hOpened

theorem RequestInit.shared
    (h : RequestInit key attached s u) :
    SameShared s.srv u.srv := by
  cases h with
  | ready => exact .refl _
  | starved wb site log fault hSite hLog hFault =>
      exact .of_eq rfl

theorem AuthProcess.shared
    {r : St × Nat}
    (h : AuthProcess s r) : SameShared s.srv r.1.srv := by
  cases h <;> exact .of_eq rfl

theorem Relay.shared
    {side : Side}
    (h : Relay side s t) : SameShared s.srv t.srv := by
  cases h with
  | ended => exact .of_eq rfl
  | got bytes hSome hRoom =>
      rcases copyGot_eq side bytes s with
        ⟨m, parser, found, hEq, _⟩
      rw [hEq]
      exact .of_eq rfl
  | sendFailed => exact .of_eq rfl
  | sent n => exact .of_eq rfl

theorem settled_shared
    {x : Server}
    (h : SameShared x s.srv)
    (attached : Attachment)
    (side : Side) :
    SameShared x (settled attached side s).srv :=
  ⟨h.users, h.admins, h.authMethod, h.dissectors, h.threads,
    h.jobs, h.lost⟩

end Handlers

end Socks5d

------------------------------------------------------------
-- Threads
------------------------------------------------------------

namespace Socks5d

/- The request whose resolution an event starts. -/
def Ev.resolve? : Ev → Option Request
| .resolve request => some request
| _ => none

/- The resolutions a connection has started. -/
def Conn.resolves (c : Conn) : List Request :=
  c.log.filterMap Ev.resolve?

/-
  The threads after an event: one may have been started for
  the request that has just been parsed.
-/
inductive Threads
    (key : Key)
    (s u : St) : Prop where
  | same
      (hShared : SameShared s.srv u.srv)
      (hLog : u.conn.resolves = s.conn.resolves)
  | started
      (request : Request)
      (hShared : SameShared { s.srv with
          threads := s.srv.threads ++
            [{ fd := key.fd, data := key.data,
               request := request }] } u.srv)
      (hBefore : s.conn.current = some REQUEST_READ)
      (hNow : u.conn.current = some REQUEST_RESOLV)
      (hClient : u.conn.clientFd = key.fd)
      (hParser : ∃ p, u.conn.request.parser = some p ∧
        p.request = request)
      (hLog : u.conn.resolves = s.conn.resolves ++ [request])

section Threads

variable {k : ConnId}
variable {key : Key}
variable {a : Answers}
variable {s t u : St}
variable {attached : Attachment}

/- Only `REQUEST_READ` starts resolutions. -/
theorem Ev.resolve?_ofState
    {state : Nat}
    (hState : state ≠ REQUEST_READ)
    (event : Ev)
    (h : event.ofState state) : event.resolve? = none := by
  cases event with
  | resolve request =>
      unfold Ev.ofState at h
      split at h
      all_goals first
        | exact absurd rfl hState
        | exact absurd h id
        | simp_all
  | _ => rfl

/- A reply starts no resolution. -/
theorem replied_resolves
    (s : St)
    (status : SocksReplyStatus) :
    (replied s status).conn.resolves = s.conn.resolves :=
  (replied_logs (P := fun event => event.resolve? = none)
    (.of_eq rfl) status rfl).filterMap _ fun _ h => h

/- A processed request starts a thread, or it does not. -/
theorem RequestProcess.shared
    {request : Request}
    {r : St × Nat}
    (h : RequestProcess key a request s attached r) :
    (SameShared s.srv r.1.srv ∧
        r.1.conn.resolves = s.conn.resolves) ∨
      (SameShared { s.srv with
          threads := s.srv.threads ++
            [{ fd := key.fd, data := key.data,
               request := request }] } r.1.srv ∧
        r.2 = REQUEST_RESOLV ∧
        r.1.conn.current = s.conn.current ∧
        r.1.conn.clientFd = s.conn.clientFd ∧
        r.1.conn.request.parser = s.conn.request.parser ∧
        r.1.conn.resolves =
          s.conn.resolves ++ [request]) := by
  have hReplied : ∀ t : St, ∀ status,
      SameShared s.srv t.srv →
      t.conn.resolves = s.conn.resolves →
      SameShared s.srv ((replied t status).arm key.fd opWrite
          attached).srv ∧
        ((replied t status).arm key.fd opWrite
          attached).conn.resolves = s.conn.resolves := by
    intro t status hShared hLog
    exact ⟨(replied_shared hShared _).arm _ _ _,
      (replied_resolves t status).trans hLog⟩
  cases h with
  | refused status addrFamily hRequest =>
      left
      apply hReplied
      · exact .refl _
      · rfl
  | direct addrFamily domain len hType =>
      exact Or.inl ⟨.refl _, rfl⟩
  | noMemory hAlloc =>
      left
      apply hReplied
      · exact .refl _
      · show List.filterMap _ (s.conn.log ++ [_]) = _
        rw [List.filterMap_append]
        exact List.append_nil _
  | noThread hThread =>
      left
      apply hReplied
      · exact .refl _
      · rfl
  | resolving hType hThread =>
      refine Or.inr ⟨.of_eq rfl, rfl, rfl, rfl, rfl, ?_⟩
      show List.filterMap _ (s.conn.log ++ [_]) = _
      rw [List.filterMap_append]
      rfl
  | waiting hType hThread => exact Or.inl ⟨.of_eq rfl, rfl⟩

/- Received bytes start no resolution. -/
theorem requestFed_resolves
    (key : Key)
    (bytes : List UInt8)
    (p : RequestParser)
    (s : St) :
    (requestFed key bytes p s).1.conn.resolves =
      s.conn.resolves := by
  show List.filterMap _ (s.conn.log ++ [_]) = _
  rw [List.filterMap_append]
  exact List.append_nil _

theorem SocksTurn.shared
    {r : St × Nat}
    (h : SocksTurn k key a s r)
    (hSound : s.srv.sel.Sound)
    (hOwns : Owns k s.srv.sel s.conn) :
    (SameShared s.srv r.1.srv ∧
        r.1.conn.resolves = s.conn.resolves) ∨
      ∃ request, SameShared { s.srv with
          threads := s.srv.threads ++
            [{ fd := key.fd, data := key.data,
               request := request }] } r.1.srv ∧
        r.2 = REQUEST_RESOLV ∧
        s.conn.current = some REQUEST_READ ∧
        r.1.conn.current = some REQUEST_READ ∧
        r.1.conn.clientFd = key.fd ∧
        (∃ p, r.1.conn.request.parser = some p ∧
          p.request = request) ∧
        r.1.conn.resolves =
          s.conn.resolves ++ [request] := by
  have hQuiet : s.conn.current ≠ some REQUEST_READ →
      r.1.conn.resolves = s.conn.resolves := by
    intro hState
    rcases h.logs hSound hOwns with ⟨state, hSame, hGrows⟩
    apply hGrows.filterMap
    apply Ev.resolve?_ofState
    intro hEq
    exact hState (hEq ▸ hSame)
  cases h with
  | helloRead hState _ _ _ _ _ hCall =>
      refine Or.inl ⟨?_, hQuiet (by rw [hState]; decide)⟩
      cases hCall <;> exact .of_eq rfl
  | helloWrite hState _ _ _ _ _ hCall =>
      refine Or.inl ⟨?_, hQuiet (by rw [hState]; decide)⟩
      cases hCall <;> exact .of_eq rfl
  | authRead hState _ _ _ _ hCall =>
      refine Or.inl ⟨?_, hQuiet (by rw [hState]; decide)⟩
      cases hCall with
      | failed hFailed => exact .refl _
      | ended hBytes => exact .refl _
      | more bytes hBytes hSome hGoing => exact .refl _
      | rejected bytes hBytes processed hProcess =>
          have hFed : SameShared s.srv
              ((authFed key bytes s).1.arm key.fd opWrite
                (.socks k)).srv := .of_eq rfl
          exact hFed.trans hProcess.shared
      | answered bytes hBytes hSome hDone processed
          hProcess =>
          have hFed : SameShared s.srv
              ((authFed key bytes s).1.arm key.fd opWrite
                (.socks k)).srv := .of_eq rfl
          exact hFed.trans hProcess.shared
  | authWrite hState _ _ _ _ hCall =>
      refine Or.inl ⟨?_, hQuiet (by rw [hState]; decide)⟩
      rcases authReply_eq s with ⟨wb, hReply⟩
      cases hCall <;> (rw [hReply]; exact .of_eq rfl)
  | requestRead hState hFd _ _ _ p _ _ hCall =>
      cases hCall with
      | ended hBytes =>
          refine Or.inl ⟨.refl _, ?_⟩
          show List.filterMap _ (s.conn.log ++ [_]) = _
          rw [List.filterMap_append]
          exact List.append_nil _
      | more bytes hBytes hSome hGoing =>
          exact Or.inl ⟨.refl _, requestFed_resolves ..⟩
      | processed bytes hBytes hSome hDone _ hResult =>
          have hFed := requestFed_resolves key bytes p s
          rcases hResult.shared with ⟨hSame, hLog⟩ |
            ⟨hStarted, hNext, hCurrent, hClient, hParser,
              hLog⟩
          · exact Or.inl ⟨hSame, hLog.trans hFed⟩
          · right
            refine ⟨_, hStarted, hNext, hState,
              hCurrent.trans hState, hClient.trans hFd.symm,
              ⟨_, hParser, rfl⟩, ?_⟩
            rw [hLog, hFed]
  | requestResolvDone hState _ _ _ p _ _ hCall =>
      refine Or.inl ⟨?_, hQuiet (by rw [hState]; decide)⟩
      cases hCall with
      | failed hList =>
          refine (replied_shared ?_ _).arm _ _ _
          exact .refl _
      | first address rest hList =>
          rcases takeAddress_eq address
              { s.note (.resolved s.conn.originResolution)
                with
                conn.resolutionCurrent := address :: rest }
            with ⟨_, _, _, hEq⟩
          rw [hEq]
          exact .refl _
  | connectingWrite hState _ _ _ _ _ _ hCall =>
      exact Or.inl ⟨hCall.shared,
        hQuiet (by rw [hState]; decide)⟩
  | requestWrite hState _ _ _ _ hCall =>
      refine Or.inl ⟨?_, hQuiet (by rw [hState]; decide)⟩
      cases hCall <;> exact .of_eq rfl
  | relay hState hCopy hSlots side hSide hFd t hRelay =>
      refine Or.inl ⟨?_, hQuiet (by rw [hState]; decide)⟩
      have hReady := hRelay.ready hSound hOwns hCopy hSlots
      rcases copyFinish_eq hReady.1.fds hReady.2 side with
        ⟨m, hEq⟩
      rw [hEq]
      exact hRelay.shared.trans (.of_eq rfl)

theorem SocksJump.shared
    {next : Nat}
    (h : SocksJump k key a s next u) :
    SameShared s.srv u.srv := by
  cases h with
  | stay hState hNext => exact .refl _
  | plain hNext hState parser hParser => exact .of_eq rfl
  | userpassRead hState =>
      unfold authReadInit
      split <;> exact .refl _
  | requestRead hState _ hInit =>
      exact hInit.shared
  | connecting hState parser _ hInit =>
      exact hInit.shared
  | copy hState =>
      refine settled_shared ?_ _ _
      exact .refl _

/- Entering a state starts no resolution. -/
theorem SocksJump.resolves
    {next : Nat}
    (h : SocksJump k key a s next u) :
    u.conn.resolves = s.conn.resolves := by
  rcases h.logs with ⟨_, hSame⟩ | ⟨_, hGrows⟩
  · rw [hSame]
  · have hQuiet : u.conn.resolves =
        (entered next s).conn.resolves := by
      apply hGrows.filterMap
      intro event hEvent
      cases event with
      | resolve request =>
          unfold Ev.ofArrival at hEvent
          split at hEvent
          all_goals first
            | exact absurd hEvent id
            | simp_all
      | _ => rfl
    rw [hQuiet]
    show List.filterMap _ (s.conn.log ++ [_]) = _
    rw [List.filterMap_append]
    exact List.append_nil _

theorem doneFd_shared
    (fd : Fd)
    (s : St) : SameShared s.srv (doneFd fd s).srv := by
  have h := unregisterFd_shared s.srv fd
  have hClosed : SameShared s.srv (St.close { s with
      srv := (unregisterFd s.srv fd).1 } fd).srv :=
    ⟨h.users, h.admins, h.authMethod, h.dissectors,
      h.threads, h.jobs, h.lost⟩
  have hCrashed : SameShared s.srv (St.crash { s with
      srv := (unregisterFd s.srv fd).1 } .abort).srv :=
    ⟨h.users, h.admins, h.authMethod, h.dissectors,
      h.threads, h.jobs, h.lost⟩
  unfold doneFd
  split
  · exact .refl _
  · simp only []
    split
    · exact hClosed
    · exact hCrashed

/- Closing leaves the connection as it is. -/
theorem doneFd_conn
    (fd : Fd)
    (s : St) : (doneFd fd s).conn = s.conn := by
  unfold doneFd
  split
  · rfl
  · simp only []
    split
    · rfl
    · rfl

theorem socksv5Done_conn
    (s : St) : (socksv5Done s).conn = s.conn := by
  unfold socksv5Done
  rw [doneFd_conn, doneFd_conn]

theorem SocksEvent.threads
    (h : SocksEvent k key a s t)
    (hSound : s.srv.sel.Sound)
    (hOwns : Owns k s.srv.sel s.conn) :
    Threads key s t := by
  cases h with
  | going r u hTurn hJump hNext =>
      have hMoved := hJump.shared
      have hSilent := hJump.resolves
      rcases hTurn.shared hSound hOwns with ⟨hSame, hLog⟩ |
        ⟨request, hStarted, hResolv, hBefore, hCurrent,
          hClient, hParser, hLog⟩
      · exact .same (hSame.trans hMoved) (hSilent.trans hLog)
      · rcases r with ⟨r, next⟩
        subst hResolv
        have hAll := hStarted.trans hMoved
        cases hJump with
        | stay _ hState hNext =>
            exact absurd (hCurrent.symm.trans hState)
              (show some REQUEST_READ ≠ some REQUEST_RESOLV
                by decide)
        | plain _ hNext hState parser hKept =>
            rcases hParser with ⟨p, hP, hRequest⟩
            exact .started request hAll hBefore rfl hClient
              ⟨p, (hKept rfl).trans hP, hRequest⟩
              (hSilent.trans hLog)
  | ends r u hTurn hJump hNext =>
      have hMoved := hJump.shared
      rcases hTurn.shared hSound hOwns with ⟨hSame, hLog⟩ |
        ⟨request, hStarted, hResolv, _⟩
      · refine .same (((hSame.trans hMoved).trans
          (doneFd_shared _ _)).trans (doneFd_shared _ _)) ?_
        rw [socksv5Done_conn]
        exact hJump.resolves.trans hLog
      · rw [hResolv] at hNext
        exact absurd hNext (by decide)
  | stuck hWhy => exact .same (.of_eq rfl) rfl

end Threads

end Socks5d

------------------------------------------------------------
-- Handlers Of Management Connections
------------------------------------------------------------

namespace Socks5d

/- What an event of a management connection may change. -/
structure MngShared (x y : Server) : Prop where
  admins : y.admins = x.admins
  authMethod : y.authMethod = x.authMethod ∨
    y.authMethod = methodNoAuthenticationRequired ∨
    y.authMethod = methodUsernamePassword
  threads : y.threads = x.threads
  jobs : y.jobs = x.jobs
  lost : y.lost = x.lost

namespace MngShared

variable {x y z : Server}

theorem trans
    (h : MngShared x y)
    (h' : MngShared y z) : MngShared x z where
  admins := h'.admins.trans h.admins
  authMethod := by
    rcases h'.authMethod with hSame | hSet
    · rw [hSame]
      exact h.authMethod
    · exact Or.inr hSet
  threads := h'.threads.trans h.threads
  jobs := h'.jobs.trans h.jobs
  lost := h'.lost.trans h.lost

theorem of_same
    (h : SameShared x y) : MngShared x y :=
  ⟨h.admins, Or.inl h.authMethod, h.threads, h.jobs, h.lost⟩

theorem of_frame
    {s t : St}
    (h : MngFrame s t) : MngShared s.srv t.srv :=
  ⟨h.admins, h.authMethod, h.threads, h.jobs, h.lost⟩

end MngShared

section Management

variable {k : ConnId}
variable {key : Key}
variable {a : Answers}
variable {s t u : St}

theorem MngTurn.shared
    {r : St × Nat}
    (h : MngTurn k key a s r) : MngShared s.srv r.1.srv := by
  cases h with
  | helloRead _ _ _ _ _ hCall =>
      apply MngShared.of_same
      cases hCall <;> exact .of_eq rfl
  | helloWrite _ _ _ _ _ hCall =>
      apply MngShared.of_same
      cases hCall <;> exact .of_eq rfl
  | authRead _ _ _ hCall =>
      apply MngShared.of_same
      cases hCall with
      | failed hFailed => exact .refl _
      | ended hBytes => exact .refl _
      | more bytes hBytes hSome hGoing => exact .refl _
      | rejected bytes hBytes processed hProcess =>
          have hFed : SameShared s.srv
              ((authFed key bytes s).1.arm key.fd opWrite
                (.mng k)).srv := .of_eq rfl
          exact hFed.trans hProcess.shared
      | answered bytes hBytes hSome hDone processed
          hProcess =>
          have hFed : SameShared s.srv
              ((authFed key bytes s).1.arm key.fd opWrite
                (.mng k)).srv := .of_eq rfl
          exact hFed.trans hProcess.shared
  | authWrite _ _ _ hCall =>
      apply MngShared.of_same
      rcases authReply_eq s with ⟨wb, hReply⟩
      cases hCall <;> (rw [hReply]; exact .of_eq rfl)
  | request _ _ _ _ _ hCall =>
      cases hCall with
      | stay t next hFrame hSel hNext => exact .of_frame hFrame
      | writes t hFrame hSel => exact .of_frame hFrame
      | reads t hFrame hSel hIndex => exact .of_frame hFrame
      | ends t next hNext hFrame hSel =>
          exact .of_frame hFrame

theorem MngJump.shared
    {next : Nat}
    (h : MngJump key a s next u) :
    MngShared s.srv u.srv := by
  cases h with
  | stay hState hNext => exact .of_same (.refl _)
  | plain hNext hState => exact .of_same (.of_eq rfl)
  | userpassRead hState =>
      unfold authReadInit
      split <;> exact .of_same (.refl _)
  | request _ hNext hState _ hFrame hSel =>
      have hMoved : MngShared (entered next s).srv u.srv :=
        .of_frame hFrame
      exact hMoved

theorem MngEvent.shared
    (h : MngEvent k key a s t) : MngShared s.srv t.srv := by
  cases h with
  | going r u hTurn hJump hNext =>
      exact hTurn.shared.trans hJump.shared
  | ends r u hTurn hJump hNext =>
      exact (hTurn.shared.trans hJump.shared).trans
        (.of_same (doneFd_shared _ _))

end Management

end Socks5d
