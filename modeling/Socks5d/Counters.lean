import Socks5d.ConnRuns
import Socks5d.Steady
import Socks5d.Library.Tally

/-
  The counters of connections over whole runs: what each event
  adds to them, and what they count.

  Main declarations:
    * `Conn.attempts`, `Conn.established`, `Conn.active`
    * `Quiet`, `Booked`, `AfterCall.jump`
    * `SocksEvent.booked`
    * `Counting`, `counted_preserved`
    * `Counters`, `reachable_counters`
    * `metrics_ordered`, `concurrent_exact`
-/

------------------------------------------------------------
-- What Is Counted
------------------------------------------------------------

namespace Socks5d

/- One call of `connect`. -/
def Ev.isConnect : Ev → Bool
| .connect _ => true
| _ => false

/- `SO_ERROR` was 0, and the connection was counted. -/
def Ev.isEstablished : Ev → Bool
| .soError (some none) _ => true
| _ => false

namespace Conn

/- How often `connection` was called. -/
def attempts (c : Conn) : Nat :=
  c.log.countP Ev.isConnect

/- How often `connecting_write` counted the connection. -/
def established (c : Conn) : Nat :=
  c.log.countP Ev.isEstablished

/- Counted, and not yet taken off by the relay. -/
def active (c : Conn) : Nat :=
  if c.current = some DONE then 0 else c.established

end Conn

/- The counters of connections. -/
def Server.counters
    (srv : Server) : UInt64 × UInt64 × UInt64 × UInt64 :=
  (srv.metrics.historicConnectionsAttempts,
    srv.metrics.historicConnections,
    srv.metrics.concurrentConnections,
    srv.metrics.maxConcurrentConnections)

/- Nothing is counted. -/
structure Quiet (s t : St) : Prop where
  counters : t.srv.counters = s.srv.counters
  attempts : t.conn.attempts = s.conn.attempts
  established : t.conn.established = s.conn.established

/- One more call of `connect`. -/
structure Tried (s t : St) : Prop where
  counters : t.srv.counters =
    (s.srv.counters.1 + 1, s.srv.counters.2)
  attempts : t.conn.attempts = s.conn.attempts + 1
  established : t.conn.established = s.conn.established

/- The connection is counted. -/
structure CountedNow (s t : St) : Prop where
  counters : t.srv.counters =
    ({ s.srv with
      metrics := countConnection s.srv.metrics }).counters
  attempts : t.conn.attempts = s.conn.attempts
  established :
    t.conn.established = s.conn.established + 1

section Quiet

variable {k : ConnId}
variable {key : Key}
variable {a : Answers}
variable {s t u : St}
variable {attached : Attachment}

theorem Quiet.refl
    (s : St) : Quiet s s := ⟨rfl, rfl, rfl⟩

theorem Quiet.trans
    (h : Quiet s t)
    (h' : Quiet t u) : Quiet s u where
  counters := h'.counters.trans h.counters
  attempts := h'.attempts.trans h.attempts
  established := h'.established.trans h.established

theorem Tried.trans
    (h : Tried s t)
    (h' : Quiet t u) : Tried s u where
  counters := h'.counters.trans h.counters
  attempts := h'.attempts.trans h.attempts
  established := h'.established.trans h.established

theorem Tried.after
    (h : Quiet s t)
    (h' : Tried t u) : Tried s u where
  counters := by rw [h'.counters, h.counters]
  attempts := by rw [h'.attempts, h.attempts]
  established := h'.established.trans h.established

theorem CountedNow.trans
    (h : CountedNow s t)
    (h' : Quiet t u) : CountedNow s u where
  counters := h'.counters.trans h.counters
  attempts := h'.attempts.trans h.attempts
  established := h'.established.trans h.established

/- Events that are not counted leave the counts. -/
theorem Conn.Grows.counts
    {P : Ev → Prop}
    {c d : Conn}
    (h : c.Grows P d)
    (hBlind : ∀ event, P event →
      event.isConnect = false ∧
        event.isEstablished = false) :
    d.established = c.established ∧
      d.attempts = c.attempts := by
  rcases h with ⟨events, hLog, hEvents⟩
  have hNone : ∀ f : Ev → Bool,
      (∀ event, P event → f event = false) →
        d.log.countP f = c.log.countP f := by
    intro f hF
    rw [hLog, List.countP_append]
    have hZero : events.countP f = 0 := by
      rw [List.countP_eq_zero]
      intro event hEvent
      rw [hF event (hEvents event hEvent)]
      exact Bool.false_ne_true
    rw [hZero]
    rfl
  exact ⟨hNone _ fun event hEvent => (hBlind event hEvent).2,
    hNone _ fun event hEvent => (hBlind event hEvent).1⟩

theorem Quiet.of_grows
    {P : Ev → Prop}
    (hCounters : t.srv.counters = s.srv.counters)
    (hGrows : s.conn.Grows P t.conn)
    (hBlind : ∀ event, P event →
      event.isConnect = false ∧
        event.isEstablished = false) :
    Quiet s t :=
  ⟨hCounters, (hGrows.counts hBlind).2,
    (hGrows.counts hBlind).1⟩

theorem Quiet.note
    (h : Quiet s t)
    (event : Ev)
    (hConnect : event.isConnect = false)
    (hEstablished : event.isEstablished = false) :
    Quiet s (t.note event) := by
  refine h.trans (.of_grows (P := fun other => other = event)
    rfl (.single rfl rfl) ?_)
  intro other hEq
  rw [hEq]
  exact ⟨hConnect, hEstablished⟩

theorem replied_quiet
    (s : St)
    (status : SocksReplyStatus) :
    Quiet s (replied s status) := by
  rcases replied_eq s status with ⟨wb, log, hEq, hLog⟩
  refine .of_grows (P := fun event => event = .reply status)
    ?_ ?_ ?_
  · rw [hEq]
  · rw [hEq]
    exact ⟨log, rfl, hLog⟩
  · intro event hEvent
    rw [hEvent]
    exact ⟨rfl, rfl⟩

theorem idleOrigin_quiet
    (s : St) : Quiet s (idleOrigin s) := by
  rcases idleOrigin_cases s with ⟨hSame, _⟩ |
    ⟨_, _, _, hIdle⟩
  · rw [hSame]
    exact .refl s
  · rw [hIdle]
    exact ⟨rfl, rfl, rfl⟩

theorem answeredWith_quiet
    (s : St)
    (attached : Attachment)
    (status : SocksReplyStatus) :
    Quiet s (answeredWith s attached status) := by
  have hReplied := replied_quiet s status
  have hArmed : Quiet (replied s status)
      ((replied s status).arm s.conn.clientFd opWrite
        attached) := ⟨rfl, rfl, rfl⟩
  exact (hReplied.trans hArmed).trans (idleOrigin_quiet _)

theorem refusedWith_quiet
    (s : St)
    (attached : Attachment)
    (status : SocksReplyStatus) :
    Quiet s (refusedWith s attached status) := by
  have hStored : Quiet s
      { s with conn.connStatus := status } :=
    ⟨rfl, rfl, rfl⟩
  exact hStored.trans (answeredWith_quiet _ attached status)

theorem unregisterFd_counters
    (srv : Server)
    (fd : Fd) :
    (unregisterFd srv fd).1.counters = srv.counters := by
  unfold unregisterFd
  cases srv.sel.registered? fd with
  | none => rfl
  | some item =>
      cases hData : item.attached.data? with
      | none =>
          simp only [hData]
          rfl
      | some data =>
          simp only [hData, destroy]
          split
          · rfl
          · rfl

theorem dropOrigin_quiet
    (s : St) : Quiet s (dropOrigin s) :=
  ⟨unregisterFd_counters s.srv s.conn.originFd, rfl, rfl⟩

theorem doneFd_quiet
    (fd : Fd)
    (s : St) : Quiet s (doneFd fd s) := by
  refine ⟨?_, by rw [doneFd_conn], by rw [doneFd_conn]⟩
  have hCounters := unregisterFd_counters s.srv fd
  unfold doneFd
  split
  · rfl
  · simp only []
    split
    · exact hCounters
    · exact hCounters

theorem attempted_tried
    (a : Answers)
    (s : St) : Tried s (attempted a s) := by
  refine ⟨rfl, ?_, ?_⟩
  · show List.countP _ (s.conn.log ++ [_]) = _
    rw [List.countP_append]
    rfl
  · show List.countP _ (s.conn.log ++ [_]) = _
    rw [List.countP_append]
    rfl

/- Each call of `connection` is one attempt. -/
theorem Connection.tried
    {r : St × SocksReplyStatus}
    (h : Connection key a s attached r) : Tried s r.1 := by
  have hTried := attempted_tried a s
  cases h with
  | refused errno hAnswer =>
      refine hTried.trans (.trans ?_
        (refusedWith_quiet _ attached _))
      exact ⟨rfl, rfl, rfl⟩
  | underway hAnswer hFree =>
      exact hTried.trans ⟨rfl, rfl, rfl⟩
  | blocked hAnswer hTaken =>
      have hRefused := refusedWith_quiet
        ((attempted a s).arm key.fd opNoop attached) attached
        .generalSocksServerFailure
      exact hTried.trans ⟨hRefused.counters,
        hRefused.attempts, hRefused.established⟩
  | atOnce hAnswer hFree =>
      exact hTried.trans ⟨rfl, rfl, rfl⟩
  | atOnceBlocked hAnswer hTaken =>
      refine hTried.trans (.trans ?_
        (refusedWith_quiet _ attached _))
      exact ⟨rfl, rfl, rfl⟩

theorem aimNext_quiet
    (next : Addrinfo)
    (rest : List Addrinfo)
    (s : St) : Quiet s (aimNext next rest s) := by
  rcases aimNext_eq next rest s with ⟨addr, hEq⟩
  rw [hEq]
  exact ⟨rfl, rfl, rfl⟩

end Quiet

end Socks5d

------------------------------------------------------------
-- What A Call Counts
------------------------------------------------------------

namespace Socks5d

/- The relay takes a connection off the counter. -/
def takenOff (m : Metrics) : Metrics :=
  { m with
    concurrentConnections := m.concurrentConnections - 1 }

/- What the call of a state counts. -/
inductive TurnBooked
    (s : St) : St × Nat → Prop where
  | quiet
      (t : St)
      (next : Nat)
      (hQuiet : Quiet s t)
      (hRelay : next = DONE → s.conn.current ≠ some COPY) :
      TurnBooked s (t, next)
  | tried
      (t : St)
      (hState : s.conn.current = some REQUEST_CONNECTING)
      (hTried : Tried s t) :
      TurnBooked s (t, REQUEST_CONNECTING)
  | counted
      (t : St)
      (next : Nat)
      (hState : s.conn.current = some REQUEST_CONNECTING)
      (hNext : next = REQUEST_WRITE ∨ next = ERROR)
      (hCounted : CountedNow s t) :
      TurnBooked s (t, next)
  | released
      (t u : St)
      (hState : s.conn.current = some COPY)
      (hQuiet : Quiet s t)
      (hCounters : u.srv.counters =
        ({ t.srv with
          metrics := takenOff t.srv.metrics }).counters)
      (hLog : u.conn.log = t.conn.log) :
      TurnBooked s (u, DONE)

section Turns

variable {k : ConnId}
variable {key : Key}
variable {a : Answers}
variable {s t u : St}
variable {attached : Attachment}

/- Only `REQUEST_CONNECTING` counts. -/
theorem Ev.blind_ofState
    {state : Nat}
    (hState : state ≠ REQUEST_CONNECTING)
    (event : Ev)
    (h : event.ofState state) :
    event.isConnect = false ∧
      event.isEstablished = false := by
  cases event with
  | connect attempt =>
      unfold Ev.ofState at h
      split at h
      all_goals first
        | exact absurd rfl hState
        | exact absurd h id
        | simp_all
  | soError result left =>
      unfold Ev.ofState at h
      split at h
      all_goals first
        | exact absurd rfl hState
        | exact absurd h id
        | simp_all
  | _ => exact ⟨rfl, rfl⟩

theorem Ev.blind_ofArrival
    {state : Nat}
    (hState : state ≠ REQUEST_CONNECTING)
    (event : Ev)
    (h : event.ofArrival state) :
    event.isConnect = false ∧
      event.isEstablished = false := by
  cases event with
  | connect attempt =>
      unfold Ev.ofArrival at h
      split at h
      all_goals first
        | exact absurd rfl hState
        | exact absurd h id
        | simp_all
  | soError result left =>
      unfold Ev.ofArrival at h
      split at h
      all_goals first
        | exact absurd rfl hState
        | exact absurd h id
        | simp_all
  | _ => exact ⟨rfl, rfl⟩

theorem established_counted
    (s : St)
    (left : Nat) :
    CountedNow s (Socks5d.established
      (s.note (.soError (some none) left))) := by
  refine ⟨rfl, ?_, ?_⟩
  · show List.countP _ ((s.conn.log ++ [_]) ++ [_]) = _
    rw [List.countP_append, List.countP_append]
    rfl
  · show List.countP _ ((s.conn.log ++ [_]) ++ [_]) = _
    rw [List.countP_append, List.countP_append]
    rfl

/- A failure that is printed and answered counts nothing. -/
theorem connectingFailed_quiet
    (s : St)
    (attached : Attachment)
    (result : Option (Option Errno))
    (status : SocksReplyStatus)
    (hResult : result ≠ some none) :
    Quiet s (answeredWith
      (failedNoted
        (s.note (.soError result (nextAddresses s).length))
        status)
      attached status) := by
  have hSeen : Quiet s (s.note
      (.soError result (nextAddresses s).length)) := by
    refine (Quiet.refl s).note _ rfl ?_
    match result, hResult with
    | none, _ => rfl
    | some (some errno), _ => rfl
    | some none, hBad => exact absurd rfl hBad
  have hStored : Quiet s
      { s.note (.soError result (nextAddresses s).length) with
        conn.connStatus := status } :=
    hSeen.trans ⟨rfl, rfl, rfl⟩
  have hNoted : Quiet s (failedNoted
      (s.note (.soError result (nextAddresses s).length))
      status) := hStored.note _ rfl rfl
  exact hNoted.trans (answeredWith_quiet _ attached status)

theorem ConnectingWrite.booked
    {r : St × Nat}
    (h : ConnectingWrite key a s attached r)
    (hState : s.conn.current = some REQUEST_CONNECTING) :
    TurnBooked s r := by
  have hRelays : s.conn.current ≠ some COPY := by
    rw [hState]
    decide
  cases h with
  | nextAfterFailure next rest hStatus hNext result hResult =>
      exact .tried _ hState
        (.after (aimNext_quiet next rest s) hResult.tried)
  | gaveUp hStatus hNone =>
      exact .quiet _ _ ((dropOrigin_quiet s).trans
        (answeredWith_quiet _ attached _)) (fun _ => hRelays)
  | noAnswer hStatus hError =>
      refine .quiet _ _ (connectingFailed_quiet s attached none
        _ ?_) (fun _ => hRelays)
      exact fun hBad => nomatch hBad
  | established hStatus hError hRoom =>
      have hCounted := (established_counted s
        (nextAddresses s).length).trans (replied_quiet _
          .succeeded)
      exact .counted _ _ hState (Or.inl rfl)
        (hCounted.trans ⟨rfl, rfl, rfl⟩)
  | full hStatus hError hRoom =>
      exact .counted _ _ hState (Or.inr rfl)
        (established_counted s _)
  | nextAfterError errno next rest hStatus hError hNext
      result hResult =>
      have hSeen : Quiet s (s.note (.soError
          (some (some errno)) (nextAddresses s).length)) :=
        (Quiet.refl s).note _ rfl rfl
      have hStored : Quiet s
          { s.note (.soError (some (some errno))
              (nextAddresses s).length) with
            conn.connStatus := errnoToSocks (some errno) } :=
        hSeen.trans ⟨rfl, rfl, rfl⟩
      exact .tried _ hState (.after
        (hStored.trans (aimNext_quiet next rest _))
        hResult.tried)
  | failed errno hStatus hError hNone =>
      refine .quiet _ _ (connectingFailed_quiet s attached
        (some (some errno)) _ ?_) (fun _ => hRelays)
      exact fun hBad => nomatch hBad

/- Entering `REQUEST_CONNECTING` tries at most once. -/
theorem ConnectingInit.booked
    (h : ConnectingInit key a s attached u) :
    Quiet s u ∨ Tried s u := by
  have hStarted : ∀ granted,
      Quiet s (connectingStarted granted s) := by
    intro granted
    have hStored : Quiet s
        { s with conn.connStatus := .succeeded } :=
      ⟨rfl, rfl, rfl⟩
    exact hStored.note _ rfl rfl
  have hOpened : ∀ fd, Quiet s (withSocket key a fd
      (connectingStarted (some fd) s)) := by
    intro fd
    have hStored : Quiet s
        { connectingStarted (some fd) s with
          conn.originFd := fd
          srv.sel := (connectingStarted (some fd)
            s).srv.sel.openFd fd (.origin key.data
              (connectingStarted (some fd)
                s).conn.originDomain) } :=
      (hStarted (some fd)).trans ⟨rfl, rfl, rfl⟩
    exact hStored.note _ rfl rfl
  cases h with
  | noSocket hNone =>
      left
      have hStored : Quiet s
          { connectingStarted none s with
            conn.originFd := -1 } :=
        (hStarted none).trans ⟨rfl, rfl, rfl⟩
      exact hStored.trans (refusedWith_quiet _ attached _)
  | notSet fd hSome hNio =>
      exact Or.inl ((hOpened fd).trans
        (refusedWith_quiet _ attached _))
  | connected fd hSome hNio result hResult =>
      have hTried := hResult.tried.after (hOpened fd)
      exact Or.inr (hTried.trans ⟨rfl, rfl, rfl⟩)

end Turns

end Socks5d

------------------------------------------------------------
-- Every Call
------------------------------------------------------------

namespace Socks5d

section Calls

variable {k : ConnId}
variable {key : Key}
variable {a : Answers}
variable {s t u : St}
variable {side : Side}
variable {attached : Attachment}

/- Relaying counts bytes, but no connections. -/
theorem Relay.quiet
    (h : Relay side s t) : Quiet s t := by
  have hBlind : ∀ event : Ev, event.ofState COPY →
      event.isConnect = false ∧
        event.isEstablished = false :=
    Ev.blind_ofState (by decide)
  refine .of_grows ?_ h.logs hBlind
  cases h with
  | ended => rfl
  | got bytes hSome hRoom =>
      unfold copyGot dissect
      simp only []
      split
      · rfl
      · rfl
  | sendFailed => rfl
  | sent n => rfl

/- The end of a relay, with what it does to the counters. -/
theorem copyFinish_booked
    (hFds : ∀ side,
      (t.conn.copySt side).fd = t.conn.fdOf side)
    (hSlots : t.conn.Slotted attached t.srv.sel)
    (hState : s.conn.current = some COPY)
    (hQuiet : Quiet s t)
    (side : Side) :
    TurnBooked s (copyFinish side t) := by
  have hFirst := copyComputeInterests_eq hFds hSlots side
  have hSecond := copyComputeInterests_eq
    (s := { t with
      srv.sel := t.conn.settle attached side t.srv.sel })
    hFds (hSlots.settle side) side.other
  unfold copyFinish
  simp only [hFirst, hSecond]
  split
  · exact .released t _ hState hQuiet rfl rfl
  · refine .quiet _ _ (hQuiet.trans ⟨rfl, rfl, rfl⟩) ?_
    exact fun hBad => absurd hBad (by decide)

theorem HelloRead.counters
    {r : St × Nat}
    (h : HelloRead key a s attached r) :
    r.1.srv.counters = s.srv.counters := by
  cases h <;> rfl

theorem HelloWrite.counters
    {r : St × Nat}
    (h : HelloWrite key a s attached r) :
    r.1.srv.counters = s.srv.counters := by
  cases h <;> rfl

theorem AuthProcess.counters
    {r : St × Nat}
    (h : AuthProcess s r) :
    r.1.srv.counters = s.srv.counters := by
  cases h <;> rfl

theorem AuthRead.counters
    {r : St × Nat}
    (h : AuthRead key a s attached r) :
    r.1.srv.counters = s.srv.counters := by
  cases h with
  | failed hFailed => rfl
  | ended hBytes => rfl
  | more bytes hBytes hSome hGoing => rfl
  | rejected bytes hBytes processed hProcess =>
      exact hProcess.counters
  | answered bytes hBytes hSome hDone processed hProcess =>
      exact hProcess.counters

theorem AuthWrite.counters
    {r : St × Nat}
    (h : AuthWrite key a s attached r) :
    r.1.srv.counters = s.srv.counters := by
  rcases authReply_eq s with ⟨wb, hReply⟩
  cases h <;> (rw [hReply]; rfl)

theorem RequestProcess.counters
    {request : Request}
    {r : St × Nat}
    (h : RequestProcess key a request s attached r) :
    r.1.srv.counters = s.srv.counters := by
  have hReplied : ∀ (t : St) status,
      t.srv.counters = s.srv.counters →
        ((replied t status).arm key.fd opWrite
          attached).srv.counters = s.srv.counters := by
    intro t status hSame
    exact (replied_quiet t status).counters.trans hSame
  cases h with
  | refused status addrFamily hRequest =>
      apply hReplied
      rfl
  | direct addrFamily domain len hType => rfl
  | noMemory hAlloc =>
      apply hReplied
      rfl
  | noThread hThread =>
      apply hReplied
      rfl
  | resolving hType hThread => rfl
  | waiting hType hThread => rfl

theorem RequestResolvDone.counters
    {r : St × Nat}
    (h : RequestResolvDone key s attached r) :
    r.1.srv.counters = s.srv.counters := by
  cases h with
  | failed hList => exact (replied_quiet _ _).counters
  | first address rest hList =>
      rcases takeAddress_eq address
          { s.note (.resolved s.conn.originResolution) with
            conn.resolutionCurrent := address :: rest } with
        ⟨_, _, _, hEq⟩
      rw [hEq]
      rfl

/- What the call of any state counts. -/
theorem SocksTurn.booked
    {r : St × Nat}
    (h : SocksTurn k key a s r)
    (hSound : s.srv.sel.Sound)
    (hOwns : Owns k s.srv.sel s.conn) :
    TurnBooked s r := by
  have hQuiet : s.conn.current ≠ some REQUEST_CONNECTING ∧
      s.conn.current ≠ some COPY →
      r.1.srv.counters = s.srv.counters →
        TurnBooked s r := by
    intro hState hCounters
    rcases h.logs hSound hOwns with ⟨state, hSame, hGrows⟩
    refine .quiet _ _ (.of_grows hCounters hGrows ?_)
      (fun _ => hState.2)
    apply Ev.blind_ofState
    intro hEq
    exact hState.1 (hEq ▸ hSame)
  cases h with
  | helloRead hState _ _ _ _ _ hCall =>
      exact hQuiet (by rw [hState]; decide) hCall.counters
  | helloWrite hState _ _ _ _ _ hCall =>
      exact hQuiet (by rw [hState]; decide) hCall.counters
  | authRead hState _ _ _ _ hCall =>
      exact hQuiet (by rw [hState]; decide) hCall.counters
  | authWrite hState _ _ _ _ hCall =>
      exact hQuiet (by rw [hState]; decide) hCall.counters
  | requestRead hState _ _ _ _ p _ _ hCall =>
      refine hQuiet (by rw [hState]; decide) ?_
      cases hCall with
      | ended hBytes => rfl
      | more bytes hBytes hSome hGoing => rfl
      | processed bytes hBytes hSome hDone _ hResult =>
          exact hResult.counters
  | requestResolvDone hState _ _ _ _ _ _ hCall =>
      exact hQuiet (by rw [hState]; decide) hCall.counters
  | connectingWrite hState _ _ _ _ _ _ hCall =>
      exact hCall.booked hState
  | requestWrite hState _ _ _ _ hCall =>
      refine hQuiet (by rw [hState]; decide) ?_
      cases hCall <;> rfl
  | relay hState hCopy hSlots side hSide hFd t hRelay =>
      have hReady := hRelay.ready hSound hOwns hCopy hSlots
      exact copyFinish_booked hReady.1.fds hReady.2 hState
        hRelay.quiet side

/- Entering a state is no event to count. -/
theorem entered_quiet
    (state : Nat)
    (s : St) : Quiet s (entered state s) := by
  have hStored : Quiet s
      { s with conn.current := some state } :=
    ⟨rfl, rfl, rfl⟩
  exact hStored.note _ rfl rfl

/- What entering a state counts. -/
theorem SocksJump.booked
    {next : Nat}
    (h : SocksJump k key a s next u) :
    Quiet s u ∨
      (next = REQUEST_CONNECTING ∧
        s.conn.current ≠ some REQUEST_CONNECTING ∧
        Tried s u) := by
  cases h with
  | stay _ hState hNext => exact Or.inl (.refl s)
  | plain _ hNext hState parser hParser fault =>
      left
      have hStored : Quiet s
          { s with
            srv.fault := fault
            conn.request.parser := parser } :=
        ⟨rfl, rfl, rfl⟩
      exact hStored.trans (entered_quiet _ _)
  | userpassRead hState =>
      left
      refine (entered_quiet USERPASS_READ s).trans ?_
      unfold authReadInit
      split
      · exact ⟨rfl, rfl, rfl⟩
      · have hStored : Quiet (entered USERPASS_READ s)
            { entered USERPASS_READ s with
              conn.userpass := {
                failed := true
                torn := a.unset .userpass } } :=
          ⟨rfl, rfl, rfl⟩
        exact hStored.note _ rfl rfl
  | requestRead hState _ hInit =>
      left
      refine (entered_quiet REQUEST_READ s).trans ?_
      cases hInit with
      | ready => exact ⟨rfl, rfl, rfl⟩
      | starved wb site log fault hSite hLog hFault =>
          refine .of_grows (P := fun event =>
            event = .outOfMemory site ∨
              (∃ status, event = .reply status) ∨
              ∃ site, event = .outOfMemory site) rfl
            ⟨_, rfl, ?_⟩ ?_
          · intro event hEvent
            rcases List.mem_cons.mp hEvent with hFirst | hRest
            · exact Or.inl hFirst
            · exact Or.inr (hLog event hRest)
          · intro event hEvent
            rcases hEvent with hEq | ⟨_, hEq⟩ | ⟨_, hEq⟩
            · rw [hEq]
              exact ⟨rfl, rfl⟩
            · rw [hEq]
              exact ⟨rfl, rfl⟩
            · rw [hEq]
              exact ⟨rfl, rfl⟩
  | connecting hState parser _ hInit =>
      have hStored : Quiet s (entered REQUEST_CONNECTING
          { s with conn.request.parser := parser }) := by
        have hParsed : Quiet s
            { s with conn.request.parser := parser } :=
          ⟨rfl, rfl, rfl⟩
        exact hParsed.trans (entered_quiet _ _)
      rcases hInit.booked with hQuiet | hTried
      · exact Or.inl (hStored.trans hQuiet)
      · refine Or.inr ⟨rfl, ?_, hTried.after hStored⟩
        rcases hState with hState | hState
        · rw [hState]
          decide
        · rw [hState]
          decide
  | copy hState =>
      left
      exact (entered_quiet COPY s).trans ⟨rfl, rfl, rfl⟩

end Calls

end Socks5d

------------------------------------------------------------
-- How Far A Connection Is Counted
------------------------------------------------------------

namespace Socks5d

/- Counted, and the reply has not led to `COPY` yet. -/
def ReplyPending (log : List Ev) : Prop :=
  ∃ before left since,
    log = before ++ .soError (some none) left :: since ∧
      .enter COPY ∉ since

/- A send failed while the reply of a counted connection was
   being written. -/
def ReplyLost (log : List Ev) : Prop :=
  ∃ before left since after,
    log = before ++ .soError (some none) left ::
        (since ++ .sendError .client :: after) ∧
      .enter COPY ∉ since

/-
  What a SOCKS connection has counted, state by state. A
  refusal with the status `succeeded` leads to a relay without
  an origin (`alone`), which has nothing to send.
-/
inductive Counting (c : Conn) : Prop where
  | early
      (hState : ∀ state, c.current = some state →
        state < REQUEST_CONNECTING)
      (hNone : c.established = 0)
      (hEmpty : (c.current = some REQUEST_READ ∧
          c.request.status = .succeeded) ∨
        c.current = some REQUEST_RESOLV →
          c.writeBuffer.pending = [])
  | connecting
      (hState : c.current = some REQUEST_CONNECTING)
      (hNone : c.established = 0)
      (hTried : c.connStatus = .succeeded →
        1 ≤ c.attempts ∧ c.writeBuffer.pending = [])
  | answering
      (hState : c.current = some REQUEST_WRITE)
      (hOnce : c.established = 1)
      (hTried : 1 ≤ c.attempts)
      (hStatus : c.connStatus = .succeeded)
      (hOrigin : c.originFd ≠ -1)
      (hPending : ReplyPending c.log)
  | refusing
      (hState : c.current = some REQUEST_WRITE)
      (hNone : c.established = 0)
      (hWhy : c.connStatus ≠ .succeeded ∨ c.originFd = -1)
  | copying
      (hState : c.current = some COPY)
      (hOnce : c.established = 1)
      (hTried : 1 ≤ c.attempts)
      (hOrigin : c.originFd ≠ -1)
  | alone
      (hState : c.current = some COPY)
      (hNone : c.established = 0)
      (hOrigin : c.originFd = -1)
      (hEmpty : c.writeBuffer.pending = [])
      (hWrites : c.clientCopy.interest.write = true)
  | ends
      (hState : c.current = some DONE ∨
        c.current = some ERROR)
      (hOnce : c.established ≤ 1)
      (hTried : c.established ≤ c.attempts)
      (hLost : c.current = some ERROR →
        c.established = 1 → ReplyLost c.log)

/- The same, between the call of a state and `jump`. -/
inductive AfterCall : St × Nat → Prop where
  | early
      (t : St)
      (next : Nat)
      (hNext : next < REQUEST_READ)
      (hNone : t.conn.established = 0) :
      AfterCall (t, next)
  | clean
      (t : St)
      (next : Nat)
      (hNext : next = REQUEST_READ ∨
        next = REQUEST_RESOLV ∨
        (next = REQUEST_CONNECTING ∧
          t.conn.current ≠ some REQUEST_CONNECTING))
      (hNone : t.conn.established = 0)
      (hEmpty : t.conn.writeBuffer.pending = []) :
      AfterCall (t, next)
  | retried
      (t : St)
      (hState : t.conn.current = some REQUEST_CONNECTING)
      (hNone : t.conn.established = 0)
      (hStatus : t.conn.connStatus ≠ .succeeded) :
      AfterCall (t, REQUEST_CONNECTING)
  | refusing
      (t : St)
      (hNone : t.conn.established = 0)
      (hWhy : t.conn.connStatus ≠ .succeeded ∨
        t.conn.originFd = -1) :
      AfterCall (t, REQUEST_WRITE)
  | answering
      (t : St)
      (hOnce : t.conn.established = 1)
      (hTried : 1 ≤ t.conn.attempts)
      (hStatus : t.conn.connStatus = .succeeded)
      (hOrigin : t.conn.originFd ≠ -1)
      (hPending : ReplyPending t.conn.log) :
      AfterCall (t, REQUEST_WRITE)
  | copying
      (t : St)
      (hOnce : t.conn.established = 1)
      (hTried : 1 ≤ t.conn.attempts)
      (hOrigin : t.conn.originFd ≠ -1) :
      AfterCall (t, COPY)
  | alone
      (t : St)
      (hNone : t.conn.established = 0)
      (hOrigin : t.conn.originFd = -1)
      (hEmpty : t.conn.writeBuffer.pending = [])
      (hWrites : t.conn.current = some COPY →
        t.conn.clientCopy.interest.write = true) :
      AfterCall (t, COPY)
  | ends
      (t : St)
      (next : Nat)
      (hNext : next = DONE ∨ next = ERROR)
      (hOnce : t.conn.established ≤ 1)
      (hTried : t.conn.established ≤ t.conn.attempts)
      (hLost : next = ERROR → t.conn.established = 1 →
        ReplyLost t.conn.log)
      (hDone : next = DONE → t.conn.established =
        if t.conn.current = some COPY then 1 else 0) :
      AfterCall (t, next)

section Following

variable {k : ConnId}
variable {key : Key}
variable {a : Answers}
variable {s t u : St}
variable {r : St × Nat}
variable {attached : Attachment}

/- A connection that is over has counted what it had. -/
theorem AfterCall.ended
    (t : St)
    {next : Nat}
    (hNext : next = DONE ∨ next = ERROR)
    (hNone : t.conn.established = 0)
    (hState : t.conn.current ≠ some COPY) :
    AfterCall (t, next) := by
  refine .ends t next hNext ?_ ?_ ?_ ?_
  · rw [hNone]
    exact Nat.zero_le 1
  · rw [hNone]
    exact Nat.zero_le _
  · intro _ hOne
    rw [hNone] at hOne
    exact absurd hOne (by decide)
  · intro _
    rw [if_neg hState]
    exact hNone

theorem ReplyPending.append
    {log : List Ev}
    (h : ReplyPending log)
    {event : Ev}
    (hEvent : event ≠ .enter COPY) :
    ReplyPending (log ++ [event]) := by
  rcases h with ⟨before, left, since, hLog, hNot⟩
  refine ⟨before, left, since ++ [event], ?_, ?_⟩
  · rw [hLog, List.append_assoc, List.cons_append]
  · intro hMem
    rcases List.mem_append.mp hMem with hOld | hNew
    · exact hNot hOld
    · exact hEvent (List.mem_singleton.mp hNew).symm

theorem ReplyPending.lost
    {log : List Ev}
    (h : ReplyPending log) :
    ReplyLost (log ++ [.sendError .client]) := by
  rcases h with ⟨before, left, since, hLog, hNot⟩
  refine ⟨before, left, since, [], ?_, hNot⟩
  rw [hLog, List.append_assoc, List.cons_append]

theorem ReplyLost.append
    {log : List Ev}
    (h : ReplyLost log)
    (events : List Ev) :
    ReplyLost (log ++ events) := by
  rcases h with ⟨before, left, since, after, hLog, hNot⟩
  refine ⟨before, left, since, after ++ events, ?_, hNot⟩
  rw [hLog]
  simp only [List.append_assoc, List.cons_append]

/- What `connection` leaves when it returns `succeeded`. -/
theorem Connection.succeeded
    {result : St × SocksReplyStatus}
    (h : Connection key a s attached result)
    (hStatus : result.2 = .succeeded) :
    result.1.conn.writeBuffer = s.conn.writeBuffer := by
  cases h with
  | refused errno hAnswer =>
      exact absurd hStatus (errnoToSocks_ne errno)
  | underway hAnswer hFree => rfl
  | blocked hAnswer hTaken => nomatch hStatus
  | atOnce hAnswer hFree => rfl
  | atOnceBlocked hAnswer hTaken => nomatch hStatus

theorem refusedWith_connStatus
    (s : St)
    (attached : Attachment)
    (status : SocksReplyStatus) :
    (refusedWith s attached status).conn.connStatus =
      status := by
  rw [refusedWith_conn]
  rcases replied_eq { s with conn.connStatus := status }
      status with ⟨_, _, hEq, _⟩
  rw [hEq]

/- A failed status outlives the attempts that follow. -/
theorem Connection.still_failed
    {result : St × SocksReplyStatus}
    (h : Connection key a s attached result)
    (hStatus : s.conn.connStatus ≠ .succeeded) :
    result.1.conn.connStatus ≠ .succeeded := by
  have hFailure : SocksReplyStatus.generalSocksServerFailure ≠
      .succeeded := by decide
  cases h with
  | refused errno hAnswer =>
      rw [refusedWith_connStatus]
      exact errnoToSocks_ne errno
  | underway hAnswer hFree => exact hStatus
  | blocked hAnswer hTaken =>
      have hSet := refusedWith_connStatus
        ((attempted a s).arm key.fd opNoop attached) attached
        .generalSocksServerFailure
      show (refusedWith _ _ _).conn.connStatus ≠ _
      rw [hSet]
      exact hFailure
  | atOnce hAnswer hFree => exact hStatus
  | atOnceBlocked hAnswer hTaken =>
      rw [refusedWith_connStatus]
      exact hFailure

/- With the status `succeeded`, an attempt is under way. -/
theorem ConnectingInit.underway
    (h : ConnectingInit key a s attached u)
    (hStatus : u.conn.connStatus = .succeeded) :
    Tried s u ∧
      u.conn.writeBuffer = s.conn.writeBuffer := by
  cases h with
  | noSocket hNone =>
      rw [refusedWith_connStatus] at hStatus
      nomatch hStatus
  | notSet fd hSome hNio =>
      rw [refusedWith_connStatus] at hStatus
      nomatch hStatus
  | connected fd hSome hNio result hResult =>
      refine ⟨?_, hResult.succeeded hStatus⟩
      have hStored : Quiet s
          { connectingStarted (some fd) s with
            conn.originFd := fd
            srv.sel := (connectingStarted (some fd)
              s).srv.sel.openFd fd (.origin key.data
                (connectingStarted (some fd)
                  s).conn.originDomain) } := by
        have hStarted : Quiet s
            { s with conn.connStatus := .succeeded } :=
          ⟨rfl, rfl, rfl⟩
        exact (hStarted.note (.socket
          s.conn.originDomain (some fd)) rfl rfl).trans
            ⟨rfl, rfl, rfl⟩
      have hTried := hResult.tried.after
        (hStored.note (.nonblocking a.nio) rfl rfl)
      exact hTried.trans ⟨rfl, rfl, rfl⟩

/- A jump keeps the counts, or there is one more attempt. -/
theorem SocksJump.counts
    {next : Nat}
    (h : SocksJump k key a t next u) :
    u.conn.established = t.conn.established ∧
      t.conn.attempts ≤ u.conn.attempts := by
  rcases h.booked with hQuiet | ⟨_, _, hTried⟩
  · exact ⟨hQuiet.established,
      Nat.le_of_eq hQuiet.attempts.symm⟩
  · refine ⟨hTried.established, ?_⟩
    rw [hTried.attempts]
    exact Nat.le_succ _

/- The state is the same as before. -/
theorem AfterCall.stays
    {next : Nat}
    (h : AfterCall (t, next))
    (hState : t.conn.current = some next)
    (hStays : next ≤ COPY) : Counting t.conn := by
  cases h with
  | early _ _ hNext hNone =>
      refine .early ?_ hNone ?_
      · intro state hCurrent
        rw [hState] at hCurrent
        rw [← Option.some.inj hCurrent]
        exact Nat.lt_trans hNext (by decide)
      · intro hLate
        have hOther : next = REQUEST_READ ∨
            next = REQUEST_RESOLV := by
          rw [hState] at hLate
          rcases hLate with ⟨hRead, _⟩ | hResolv
          · exact Or.inl (Option.some.inj hRead)
          · exact Or.inr (Option.some.inj hResolv)
        rcases hOther with hEq | hEq
        · rw [hEq] at hNext
          exact absurd hNext (by decide)
        · rw [hEq] at hNext
          exact absurd hNext (by decide)
  | clean _ _ hNext hNone hEmpty =>
      refine .early ?_ hNone fun _ => hEmpty
      intro state hCurrent
      rw [hState] at hCurrent
      rw [← Option.some.inj hCurrent]
      rcases hNext with hEq | hEq | ⟨hEq, hNot⟩
      · rw [hEq]
        decide
      · rw [hEq]
        decide
      · rw [hEq] at hState
        exact absurd hState hNot
  | retried _ _ hNone hStatus =>
      exact .connecting hState hNone
        fun hBad => absurd hBad hStatus
  | refusing _ hNone hWhy => exact .refusing hState hNone hWhy
  | answering _ hOnce hTried hStatus hOrigin hPending =>
      exact .answering hState hOnce hTried hStatus hOrigin
        hPending
  | copying _ hOnce hTried hOrigin =>
      exact .copying hState hOnce hTried hOrigin
  | alone _ hNone hOrigin hEmpty hWrites =>
      exact .alone hState hNone hOrigin hEmpty
        (hWrites hState)
  | ends _ _ hNext =>
      rcases hNext with hEq | hEq
      · rw [hEq] at hStays
        exact absurd hStays (by decide)
      · rw [hEq] at hStays
        exact absurd hStays (by decide)

/- The next state has no `on_arrival`. -/
theorem AfterCall.enters
    {next : Nat}
    {fault : Option Fault}
    {parser : Option RequestParser}
    (h : AfterCall (t, next))
    (hHeads : next = HELLO_WRITE ∨ next = USERPASS_WRITE ∨
      next = REQUEST_RESOLV ∨ next = REQUEST_WRITE ∨
      next = DONE ∨ next = ERROR)
    (hIs : u = entered next { t with
      srv.fault := fault
      conn.request.parser := parser })
    (hCounts : u.conn.established = t.conn.established ∧
      t.conn.attempts ≤ u.conn.attempts) :
    Counting u.conn := by
  rcases hCounts with ⟨hEstablished, hAttempts⟩
  subst hIs
  cases h with
  | early _ _ hNext hNone =>
      refine .early ?_ (hEstablished.trans hNone) ?_
      · intro state hCurrent
        rw [← Option.some.inj hCurrent]
        exact Nat.lt_trans hNext (by decide)
      · intro hLate
        have hOther : next = REQUEST_READ ∨
            next = REQUEST_RESOLV := by
          rcases hLate with ⟨hRead, _⟩ | hResolv
          · exact Or.inl (Option.some.inj hRead)
          · exact Or.inr (Option.some.inj hResolv)
        rcases hOther with hEq | hEq
        · rw [hEq] at hNext
          exact absurd hNext (by decide)
        · rw [hEq] at hNext
          exact absurd hNext (by decide)
  | clean _ _ hNext hNone hEmpty =>
      refine .early ?_ (hEstablished.trans hNone)
        fun _ => hEmpty
      intro state hCurrent
      rw [← Option.some.inj hCurrent]
      rcases hNext with hEq | hEq | ⟨hEq, _⟩
      · rw [hEq]
        decide
      · rw [hEq]
        decide
      · rw [hEq] at hHeads
        exact absurd hHeads (by decide)
  | retried => exact absurd hHeads (by decide)
  | refusing _ hNone hWhy =>
      exact .refusing rfl (hEstablished.trans hNone) hWhy
  | answering _ hOnce hTried hStatus hOrigin hPending =>
      exact .answering rfl (hEstablished.trans hOnce)
        (Nat.le_trans hTried hAttempts) hStatus hOrigin
        (hPending.append (by decide))
  | copying => exact absurd hHeads (by decide)
  | alone => exact absurd hHeads (by decide)
  | ends _ _ hNext hOnce hTried hLost =>
      refine .ends ?_ ?_ ?_ ?_
      · rcases hNext with hEq | hEq
        · exact Or.inl (congrArg some hEq)
        · exact Or.inr (congrArg some hEq)
      · rw [hEstablished]
        exact hOnce
      · rw [hEstablished]
        exact Nat.le_trans hTried hAttempts
      · intro hError hOne
        rw [hEstablished] at hOne
        exact (hLost (Option.some.inj hError) hOne).append _

theorem AfterCall.readsUserpass
    (h : AfterCall (t, USERPASS_READ))
    (hEstablished : (authReadInit key a
      (entered USERPASS_READ t)).conn.established =
        t.conn.established) :
    Counting (authReadInit key a
      (entered USERPASS_READ t)).conn := by
  have hEntered : (authReadInit key a
      (entered USERPASS_READ t)).conn.current =
        some USERPASS_READ := by
    unfold authReadInit
    split
    · rfl
    · rfl
  cases h with
  | early _ _ hNext hNone =>
      refine .early ?_ (hEstablished.trans hNone) ?_
      · intro state hCurrent
        rw [hEntered] at hCurrent
        rw [← Option.some.inj hCurrent]
        decide
      · intro hLate
        rw [hEntered] at hLate
        rcases hLate with ⟨hBad, _⟩ | hBad
        · exact absurd hBad (by decide)
        · exact absurd hBad (by decide)
  | clean _ _ hNext =>
      rcases hNext with hBad | hBad | ⟨hBad, _⟩
      · exact absurd hBad (by decide)
      · exact absurd hBad (by decide)
      · exact absurd hBad (by decide)
  | ends _ _ hNext =>
      rcases hNext with hBad | hBad
      · exact absurd hBad (by decide)
      · exact absurd hBad (by decide)

theorem AfterCall.readsRequest
    (h : AfterCall (t, REQUEST_READ))
    (hEstablished : u.conn.established = t.conn.established)
    (hInit : RequestInit key attached
      (entered REQUEST_READ t) u) : Counting u.conn := by
  cases h with
  | early _ _ hNext => exact absurd hNext (by decide)
  | clean _ _ hNext hNone hEmpty =>
      have hCurrent : u.conn.current =
          some REQUEST_READ := by
        cases hInit with
        | ready => rfl
        | starved => rfl
      refine .early ?_ (hEstablished.trans hNone) ?_
      · intro state hOther
        rw [hCurrent] at hOther
        rw [← Option.some.inj hOther]
        decide
      · intro hLate
        rcases hLate with ⟨_, hStatus⟩ | hBad
        · cases hInit with
          | ready => exact hEmpty
          | starved => nomatch hStatus
        · rw [hCurrent] at hBad
          exact absurd hBad (by decide)
  | ends _ _ hNext =>
      rcases hNext with hBad | hBad
      · exact absurd hBad (by decide)
      · exact absurd hBad (by decide)

theorem AfterCall.connects
    {parser : Option RequestParser}
    (h : AfterCall (t, REQUEST_CONNECTING))
    (hState : t.conn.current = some REQUEST_READ ∨
      t.conn.current = some REQUEST_RESOLV)
    (hEstablished : u.conn.established = t.conn.established)
    (hInit : ConnectingInit key a
      (entered REQUEST_CONNECTING
        { t with conn.request.parser := parser })
      attached u) : Counting u.conn := by
  cases h with
  | early _ _ hNext => exact absurd hNext (by decide)
  | clean _ _ hNext hNone hEmpty =>
      refine .connecting hInit.aside.current
        (hEstablished.trans hNone) ?_
      intro hStatus
      rcases hInit.underway hStatus with ⟨hTried, hBuffer⟩
      rw [hTried.attempts, hBuffer]
      exact ⟨Nat.succ_pos _, hEmpty⟩
  | retried _ hHere =>
      rw [hHere] at hState
      exact absurd hState (by decide)
  | ends _ _ hNext =>
      rcases hNext with hBad | hBad
      · exact absurd hBad (by decide)
      · exact absurd hBad (by decide)

theorem AfterCall.copies
    (h : AfterCall (t, COPY))
    (hIs : u = settled attached .origin
      { entered COPY t with
        conn := copyStart (entered COPY t).conn })
    (hCounts : u.conn.established = t.conn.established ∧
      t.conn.attempts ≤ u.conn.attempts) :
    Counting u.conn := by
  rcases hCounts with ⟨hEstablished, hAttempts⟩
  subst hIs
  cases h with
  | early _ _ hNext => exact absurd hNext (by decide)
  | clean _ _ hNext =>
      rcases hNext with hBad | hBad | ⟨hBad, _⟩
      · exact absurd hBad (by decide)
      · exact absurd hBad (by decide)
      · exact absurd hBad (by decide)
  | copying _ hOnce hTried hOrigin =>
      exact .copying rfl (hEstablished.trans hOnce)
        (Nat.le_trans hTried hAttempts) hOrigin
  | alone _ hNone hOrigin hEmpty hWrites =>
      exact .alone rfl (hEstablished.trans hNone) hOrigin
        hEmpty rfl
  | ends _ _ hNext =>
      rcases hNext with hBad | hBad
      · exact absurd hBad (by decide)
      · exact absurd hBad (by decide)

/- `jump` turns what a call leaves into the next state. -/
theorem AfterCall.jump
    {next : Nat}
    (h : AfterCall (t, next))
    (hJump : SocksJump k key a t next u) :
    Counting u.conn := by
  have hCounts := hJump.counts
  cases hJump with
  | stay _ hState hStays => exact h.stays hState hStays
  | plain _ hHeads _ _ _ _ _ =>
      exact h.enters hHeads rfl hCounts
  | userpassRead _ => exact h.readsUserpass hCounts.1
  | requestRead _ _ hInit => exact h.readsRequest hCounts.1 hInit
  | connecting hState _ _ hInit =>
      exact h.connects hState hCounts.1 hInit
  | copy _ => exact h.copies rfl hCounts

/- An attempt that goes on with the next address. -/
theorem retried_after
    {next : Addrinfo}
    {rest : List Addrinfo}
    {result : St × SocksReplyStatus}
    (hState : s.conn.current = some REQUEST_CONNECTING)
    (hNone : s.conn.established = 0)
    (hStatus : s.conn.connStatus ≠ .succeeded)
    (hResult : Connection key a (aimNext next rest s)
      attached result) :
    AfterCall (result.1, REQUEST_CONNECTING) := by
  have hQuiet := aimNext_quiet next rest s
  have hAimed : (aimNext next rest s).conn.connStatus =
      s.conn.connStatus := by
    rcases aimNext_eq next rest s with ⟨addr, hEq⟩
    rw [hEq]
  refine .retried _ ?_ ?_ ?_
  · have hAside := hResult.aside
      (aimNext_aside (.refl s.conn) next rest)
    exact hAside.current.trans hState
  · exact (hResult.tried.established.trans
      hQuiet.established).trans hNone
  · apply hResult.still_failed
    rw [hAimed]
    exact hStatus

theorem answeredWith_connStatus
    (s : St)
    (attached : Attachment)
    (status : SocksReplyStatus) :
    (answeredWith s attached status).conn.connStatus =
      s.conn.connStatus := by
  rw [answeredWith_conn]
  rcases replied_eq s status with ⟨_, _, hEq, _⟩
  rw [hEq]

/- What `connecting_write` leaves. -/
theorem ConnectingWrite.after
    (h : ConnectingWrite key a s attached r)
    (hState : s.conn.current = some REQUEST_CONNECTING)
    (hFd : s.conn.connStatus = .succeeded →
      s.conn.originFd ≠ -1)
    (hNone : s.conn.established = 0)
    (hTried : s.conn.connStatus = .succeeded →
      1 ≤ s.conn.attempts ∧
        s.conn.writeBuffer.pending = []) :
    AfterCall r := by
  have hFailure : ∀ result status, result ≠ some none →
      status ≠ .succeeded →
        AfterCall (answeredWith (failedNoted (s.note
          (.soError result (nextAddresses s).length)) status)
            attached status, REQUEST_WRITE) := by
    intro result status hResult hBad
    have hQuiet := connectingFailed_quiet s attached result
      status hResult
    refine .refusing _ (hQuiet.established.trans hNone)
      (Or.inl ?_)
    rw [answeredWith_connStatus]
    exact hBad
  cases h with
  | nextAfterFailure next rest hStatus hNext result hResult =>
      exact retried_after hState hNone hStatus hResult
  | gaveUp hStatus hNoNext =>
      have hQuiet := (dropOrigin_quiet s).trans
        (answeredWith_quiet _ attached s.conn.connStatus)
      refine .refusing _ (hQuiet.established.trans hNone)
        (Or.inl ?_)
      rw [answeredWith_connStatus]
      exact hStatus
  | noAnswer hStatus hError =>
      apply hFailure
      · exact fun hBad => nomatch hBad
      · decide
  | established hStatus hError hRoom =>
      have hUp := (established_counted s
        (nextAddresses s).length).trans (replied_quiet _
          .succeeded)
      rcases replied_eq (Socks5d.established (s.note (.soError
          (some none) (nextAddresses s).length))) .succeeded
        with ⟨wb, log, hEq, hLog⟩
      refine .answering _ ?_ ?_ ?_ ?_ ?_
      · have hOne := hUp.established
        rw [hNone] at hOne
        exact hOne
      · have hMany := hUp.attempts
        show 1 ≤ (replied _ _).conn.attempts
        rw [hMany]
        exact (hTried hStatus).1
      · show (replied _ _).conn.connStatus = _
        rw [hEq]
        rfl
      · show (replied _ _).conn.originFd ≠ _
        rw [hEq]
        exact hFd hStatus
      · show ReplyPending (replied _ _).conn.log
        rw [hEq]
        refine ⟨s.conn.log, (nextAddresses s).length,
          .access ((s.srv.users.entry
            s.conn.userIndex).name.getD [])
            s.conn.connStatus :: log, ?_, ?_⟩
        · show ((s.conn.log ++ [_]) ++ [_]) ++ log = _
          rw [List.append_assoc, List.append_assoc]
          rfl
        · intro hMem
          rcases List.mem_cons.mp hMem with hBad | hOld
          · nomatch hBad
          · nomatch hLog _ hOld
  | full hStatus hError hRoom =>
      have hEmpty := (hTried hStatus).2
      have hFree : s.conn.writeBuffer.room = rawBuffSize := by
        unfold Buffer.room
        rw [s.conn.writeBuffer.compacted hEmpty, hEmpty]
        rfl
      rw [hFree] at hRoom
      exact absurd hRoom (by decide)
  | nextAfterError errno next rest hStatus hError hNext
      result hResult =>
      have hSeen : Quiet s (s.note (.soError
          (some (some errno)) (nextAddresses s).length)) :=
        (Quiet.refl s).note _ rfl rfl
      refine retried_after (s := { s.note (.soError
          (some (some errno)) (nextAddresses s).length) with
        conn.connStatus := errnoToSocks (some errno) })
        hState ?_ ?_ hResult
      · exact hSeen.established.trans hNone
      · exact errnoToSocks_ne errno
  | failed errno hStatus hError hNoNext =>
      apply hFailure
      · exact fun hBad => nomatch hBad
      · exact errnoToSocks_ne errno

/- Before connecting, nothing has been counted. -/
theorem Counting.none_before
    {c : Conn}
    (h : Counting c)
    {state : Nat}
    (hState : c.current = some state)
    (hBefore : state < REQUEST_CONNECTING) :
    c.established = 0 ∧
      ((state = REQUEST_READ ∧
          c.request.status = .succeeded) ∨
        state = REQUEST_RESOLV →
          c.writeBuffer.pending = []) := by
  have hNot : ∀ late, REQUEST_CONNECTING ≤ late →
      c.current ≠ some late := by
    intro late hLate hBad
    rw [hState] at hBad
    rw [Option.some.inj hBad] at hBefore
    exact absurd hLate (Nat.not_le.mpr hBefore)
  cases h with
  | early _ hNone hEmpty =>
      refine ⟨hNone, fun hLate => hEmpty ?_⟩
      rcases hLate with ⟨hEq, hStatus⟩ | hEq
      · exact Or.inl ⟨hEq ▸ hState, hStatus⟩
      · exact Or.inr (hEq ▸ hState)
  | connecting hBad => exact absurd hBad (hNot _ (by decide))
  | answering hBad => exact absurd hBad (hNot _ (by decide))
  | refusing hBad => exact absurd hBad (hNot _ (by decide))
  | copying hBad => exact absurd hBad (hNot _ (by decide))
  | alone hBad => exact absurd hBad (hNot _ (by decide))
  | ends hBad =>
      rcases hBad with hBad | hBad
      · exact absurd hBad (hNot _ (by decide))
      · exact absurd hBad (hNot _ (by decide))

/- A processed request is answered or goes on. -/
theorem RequestProcess.after
    {request : Request}
    (h : RequestProcess key a request s attached r)
    (hState : s.conn.current = some REQUEST_READ)
    (hOrigin : s.conn.originFd = -1)
    (hNone : r.1.conn.established = 0)
    (hEmpty : s.conn.writeBuffer.pending = []) :
    AfterCall r := by
  have hReplied : ∀ (t : St) status,
      t.conn.originFd = -1 →
      (replied t status).conn.established = 0 →
        AfterCall ((replied t status).arm key.fd opWrite
          attached, REQUEST_WRITE) := by
    intro t status hAlone hZero
    refine .refusing _ hZero (Or.inr ?_)
    rcases replied_eq t status with ⟨_, _, hEq, _⟩
    show (replied t status).conn.originFd = -1
    rw [hEq]
    exact hAlone
  cases h with
  | refused status addrFamily hRequest =>
      exact hReplied _ _ hOrigin hNone
  | direct addrFamily domain len hType =>
      refine .clean _ _ (Or.inr (Or.inr ⟨rfl, ?_⟩)) hNone
        hEmpty
      show s.conn.current ≠ _
      rw [hState]
      decide
  | noMemory hAlloc => exact hReplied _ _ hOrigin hNone
  | noThread hThread => exact hReplied _ _ hOrigin hNone
  | resolving hType hThread =>
      exact .clean _ _ (Or.inr (Or.inl rfl)) hNone hEmpty
  | waiting hType hThread =>
      exact .clean _ _ (Or.inr (Or.inl rfl)) hNone hEmpty

/- The reply of a request goes out, or a send fails. -/
theorem RequestWrite.after
    (h : RequestWrite key a s attached r)
    (hCounting : Counting s.conn)
    (hState : s.conn.current = some REQUEST_WRITE)
    (hSide : s.conn.sideOf key.fd = .client)
    (hEstablished :
      r.1.conn.established = s.conn.established)
    (hAttempts : r.1.conn.attempts = s.conn.attempts) :
    AfterCall r := by
  have hRelays : s.conn.current ≠ some COPY := by
    rw [hState]
    decide
  cases hCounting with
  | early hBefore =>
      exact absurd (hBefore _ hState) (by decide)
  | connecting hBad =>
      rw [hState] at hBad
      exact absurd hBad (by decide)
  | copying hBad =>
      rw [hState] at hBad
      exact absurd hBad (by decide)
  | alone hBad =>
      rw [hState] at hBad
      exact absurd hBad (by decide)
  | ends hBad =>
      rw [hState] at hBad
      exact absurd hBad (by decide)
  | answering _ hOnce hTried hStatus hOrigin hPending =>
      rw [hOnce] at hEstablished
      rw [← hAttempts] at hTried
      cases h with
      | failed hSend =>
          refine .ends _ _ (Or.inr rfl)
            (Nat.le_of_eq hEstablished) ?_ ?_ ?_
          · rw [hEstablished]
            exact hTried
          · intro _ _
            rw [hSide]
            exact hPending.lost
          · intro hBad
            exact absurd hBad (by decide)
      | more n hSend hLeft =>
          exact .answering _ hEstablished hTried hStatus
            hOrigin (hPending.append (by
              exact fun hBad => nomatch hBad))
      | alone n hSend hSent _ hNone =>
          exact absurd hNone hOrigin
      | relay n hSend hSent _ _ =>
          exact .copying _ hEstablished hTried hOrigin
      | done n hSend hSent hBad => exact absurd hStatus hBad
  | refusing _ hNone hWhy =>
      rw [hNone] at hEstablished
      cases h with
      | failed hSend =>
          exact .ended _ (Or.inr rfl) hEstablished hRelays
      | more n hSend hLeft =>
          exact .refusing _ hEstablished hWhy
      | alone n hSend hSent _ hOrigin =>
          refine .alone _ hEstablished hOrigin hSent ?_
          intro hBad
          have hHere : s.conn.current = some COPY := hBad
          rw [hState] at hHere
          exact absurd hHere (by decide)
      | relay n hSend hSent hStatus hOrigin =>
          rcases hWhy with hBad | hBad
          · exact absurd hStatus hBad
          · exact absurd hBad hOrigin
      | done n hSend hSent _ =>
          exact .ended _ (Or.inl rfl) hEstablished hRelays

/- A relay without an origin reads and never ends. -/
theorem relay_alone
    {side : Side}
    (hCopy : Copying s.conn)
    (hSide : s.conn.fdOf side ≠ -1)
    (hAsked : RelayAsked side s t)
    (hOrigin : s.conn.originFd = -1)
    (hEmpty : s.conn.writeBuffer.pending = [])
    (hWrites : s.conn.clientCopy.interest.write = true) :
    side = .client ∧
      t.conn.originFd = -1 ∧
      t.conn.writeBuffer.pending = [] ∧
      t.conn.clientCopy.interest.write = true := by
  cases side with
  | origin => exact absurd hOrigin hSide
  | client =>
      rcases hAsked with ⟨_, hEnded | ⟨bytes, hGot⟩⟩ |
        ⟨hReady, _⟩
      · have hOther : (s.conn.copySt Side.client.other).fd =
            -1 := (hCopy.fds .origin).trans hOrigin
        rcases copyShut_eq .client s.conn Interest.clearRead
          Interest.clearWrite with ⟨client, origin, hEq⟩
        have hSelf : (copyShut Interest.clearRead
            Interest.clearWrite .client s.conn).copySt
              .client =
            { s.conn.copySt .client with
              interest := (s.conn.copySt
                .client).interest.clearRead } :=
          copyShut_self .client s.conn
        have hConn : (copyEnded .client s).conn =
            { copyShut Interest.clearRead Interest.clearWrite
                .client s.conn with
              log := (copyShut Interest.clearRead
                Interest.clearWrite .client s.conn).log ++
                  [.eof .client
                    (s.conn.rb .client).pending] } := rfl
        rw [hEnded, hConn]
        refine ⟨rfl, ?_, ?_, ?_⟩
        · show (copyShut _ _ _ _).originFd = -1
          rw [hEq]
          exact hOrigin
        · show (copyShut _ _ _ _).writeBuffer.pending = []
          rw [hEq]
          exact hEmpty
        · show ((copyShut _ _ _ _).copySt
            .client).interest.write = true
          rw [hSelf]
          exact hWrites
      · rcases copyGot_eq .client bytes s with
          ⟨m, parser, found, hEq, _⟩
        rw [hGot, hEq]
        exact ⟨rfl, hOrigin, hEmpty, hWrites⟩
      · have hSome : (s.conn.wb .client).canRead = true := by
          unfold Conn.copyInterest at hReady
          exact (Bool.and_eq_true_iff.mp hReady).2
        have hBuffer : (s.conn.wb .client) =
            s.conn.writeBuffer := rfl
        rw [hBuffer] at hSome
        unfold Buffer.canRead at hSome
        simp [hEmpty] at hSome

/- What a relay leaves of the account. -/
theorem relay_after
    {side : Side}
    (hCounting : Counting s.conn)
    (hState : s.conn.current = some COPY)
    (hCopy : Copying s.conn)
    (hSide : s.conn.fdOf side ≠ -1)
    (hRelay : Relay side s t)
    (hAsked : RelayAsked side s t)
    (hFds : ∀ side,
      (t.conn.copySt side).fd = t.conn.fdOf side)
    (hSlots : t.conn.Slotted attached t.srv.sel) :
    AfterCall (copyFinish side t) := by
  rcases copyFinish_eq hFds hSlots side with ⟨m, hFinish⟩
  have hEstablished := hRelay.quiet.established
  have hAttempts := hRelay.quiet.attempts
  rw [hFinish]
  cases hCounting with
  | early hBefore =>
      exact absurd (hBefore _ hState) (by decide)
  | connecting hBad =>
      rw [hState] at hBad
      exact absurd hBad (by decide)
  | answering hBad =>
      rw [hState] at hBad
      exact absurd hBad (by decide)
  | refusing hBad =>
      rw [hState] at hBad
      exact absurd hBad (by decide)
  | ends hBad =>
      rw [hState] at hBad
      exact absurd hBad (by decide)
  | copying _ hOnce hTried hOrigin =>
      have hOrigin' : t.conn.originFd ≠ -1 := by
        rw [show t.conn.originFd = s.conn.originFd from
          hRelay.relayed.fds .origin]
        exact hOrigin
      rw [hOnce] at hEstablished
      rw [← hAttempts] at hTried
      split
      · refine .ends _ _ (Or.inl rfl)
          (Nat.le_of_eq hEstablished) ?_ ?_ ?_
        · show t.conn.established ≤ t.conn.attempts
          rw [hEstablished]
          exact hTried
        · intro hBad
          exact absurd hBad (by decide)
        · intro _
          have hHere : t.conn.current = some COPY :=
            hRelay.relayed.current.trans hState
          show t.conn.established =
            if t.conn.current = some COPY then 1 else 0
          rw [if_pos hHere]
          exact hEstablished
      · exact .copying _ hEstablished hTried hOrigin'
  | alone _ hNone hOrigin hEmpty hWrites =>
      rcases relay_alone hCopy hSide hAsked hOrigin hEmpty
        hWrites with ⟨hClient, hOrigin', hEmpty', hWrites'⟩
      have hBusy : (t.conn.copySt side).interest ≠ opNoop := by
        rw [hClient]
        intro hIdle
        have hWrite := congrArg Interest.write hIdle
        rw [show (t.conn.copySt .client).interest.write = true
          from hWrites'] at hWrite
        nomatch hWrite
      rw [if_neg hBusy]
      exact .alone _ (hEstablished.trans hNone) hOrigin'
        hEmpty' fun _ => hWrites'

section Early

/- The counts of a connection that has no origin yet. -/
variable (hSocks : s.conn.isSocks = true)
variable (hZero : r.1.conn.established = 0)
variable (hNow : r.1.conn.current ≠ some COPY)

include hSocks hZero hNow

theorem HelloRead.after
    (h : HelloRead key a s attached r) : AfterCall r := by
  have hError := (Conn.ends_socks hSocks).1
  cases h with
  | failed => exact .ended _ (Or.inr hError) hZero hNow
  | ended => exact .ended _ (Or.inr hError) hZero hNow
  | more => exact .early _ _ (by decide) hZero
  | refused => exact .ended _ (Or.inr hError) hZero hNow
  | answered => exact .early _ _ (by decide) hZero

theorem HelloWrite.after
    (h : HelloWrite key a s attached r) : AfterCall r := by
  rcases Conn.ends_socks hSocks with ⟨hError, hDone⟩
  cases h with
  | failed => exact .ended _ (Or.inr hError) hZero hNow
  | more => exact .early _ _ (by decide) hZero
  | refused => exact .ended _ (Or.inl hDone) hZero hNow
  | userpass => exact .early _ _ (by decide) hZero
  | request n hSend hSent =>
      exact .clean _ _ (Or.inl rfl) hZero hSent

theorem AuthRead.after
    (h : AuthRead key a s attached r) : AfterCall r := by
  have hError := (Conn.ends_socks hSocks).1
  cases h with
  | failed => exact .ended _ (Or.inr hError) hZero hNow
  | ended => exact .ended _ (Or.inr hError) hZero hNow
  | more => exact .early _ _ (by decide) hZero
  | rejected => exact .ended _ (Or.inr hError) hZero hNow
  | answered bytes hBytes hSome hParsed _ hProcess =>
      cases hProcess with
      | accepted => exact .early _ _ (by decide) hZero
      | denied => exact .early _ _ (by decide) hZero
      | noEntries => exact .early _ _ (by decide) hZero
      | crashed => exact .early _ _ (by decide) hZero

theorem AuthWrite.after
    (h : AuthWrite key a s attached r) : AfterCall r := by
  rcases Conn.ends_socks hSocks with ⟨hError, hDone⟩
  rcases authReply_eq s with ⟨wb, hReply⟩
  have hStates : (authReply s).conn.errorState = ERROR ∧
      (authReply s).conn.doneState = DONE := by
    rw [hReply]
    exact ⟨hError, hDone⟩
  cases h with
  | failed => exact .ended _ (Or.inr hStates.1) hZero hNow
  | more => exact .early _ _ (by decide) hZero
  | refused => exact .ended _ (Or.inl hStates.2) hZero hNow
  | passed n hSend hSent =>
      exact .clean _ _ (Or.inl rfl) hZero hSent

end Early

/- The list of addresses is empty, or has a first one. -/
theorem RequestResolvDone.after
    (h : RequestResolvDone key s attached r)
    (hState : s.conn.current = some REQUEST_RESOLV)
    (hZero : r.1.conn.established = 0)
    (hEmpty : s.conn.writeBuffer.pending = []) :
    AfterCall r := by
  cases h with
  | failed hList =>
      refine .refusing _ hZero (Or.inl ?_)
      rcases replied_eq
          { s.note (.resolved s.conn.originResolution)
            with
            conn.connStatus := .generalSocksServerFailure
            conn.request.status :=
              .generalSocksServerFailure }
          .generalSocksServerFailure with
        ⟨_, _, hEq, _⟩
      show (replied _ _).conn.connStatus ≠ _
      rw [hEq]
      exact (by decide : SocksReplyStatus.generalSocksServerFailure ≠
        .succeeded)
  | first address rest hList =>
      rcases takeAddress_eq address
          { s.note (.resolved s.conn.originResolution)
            with
            conn.resolutionCurrent := address :: rest }
        with ⟨_, _, _, hEq⟩
      rw [hEq] at hZero ⊢
      refine .clean _ _ (Or.inr (Or.inr ⟨rfl, ?_⟩)) hZero
        hEmpty
      show s.conn.current ≠ _
      rw [hState]
      decide

/- In `REQUEST_CONNECTING` there is only one account. -/
theorem Counting.connecting_inv
    (h : Counting c)
    (hState : c.current = some REQUEST_CONNECTING) :
    c.established = 0 ∧
      (c.connStatus = .succeeded →
        1 ≤ c.attempts ∧ c.writeBuffer.pending = []) := by
  cases h with
  | connecting _ hZero hTried => exact ⟨hZero, hTried⟩
  | early hBefore =>
      exact absurd (hBefore _ hState) (by decide)
  | answering hBad =>
      rw [hState] at hBad
      exact absurd hBad (by decide)
  | refusing hBad =>
      rw [hState] at hBad
      exact absurd hBad (by decide)
  | copying hBad =>
      rw [hState] at hBad
      exact absurd hBad (by decide)
  | alone hBad =>
      rw [hState] at hBad
      exact absurd hBad (by decide)
  | ends hBad =>
      rw [hState] at hBad
      exact absurd hBad (by decide)

/- What the call of any state leaves of the account. -/
theorem SocksTurn.after
    (h : SocksTurn k key a s r)
    (hSocks : s.conn.isSocks = true)
    (hSound : s.srv.sel.Sound)
    (hOwns : Owns k s.srv.sel s.conn)
    (hCounting : Counting s.conn) : AfterCall r := by
  have hKept : s.conn.current ≠ some REQUEST_CONNECTING →
      r.1.conn.established = s.conn.established ∧
        r.1.conn.attempts = s.conn.attempts := by
    intro hState
    rcases h.logs hSound hOwns with ⟨state, hSame, hGrows⟩
    exact hGrows.counts (Ev.blind_ofState fun hEq =>
      hState (hEq ▸ hSame))
  -- before the attempts there is no origin
  have hEarly : ∀ state, s.conn.current = some state →
      state < REQUEST_CONNECTING →
        r.1.conn.established = 0 ∧
          r.1.conn.current ≠ some COPY := by
    intro state hState hBefore
    constructor
    · have hOther : s.conn.current ≠
          some REQUEST_CONNECTING := by
        intro hBad
        rw [hState] at hBad
        rw [Option.some.inj hBad] at hBefore
        exact Nat.lt_irrefl _ hBefore
      exact (hKept hOther).1.trans
        (hCounting.none_before hState hBefore).1
    · intro hBad
      rw [h.current hSound hOwns, hState] at hBad
      rw [Option.some.inj hBad] at hBefore
      exact absurd hBefore (by decide)
  cases h with
  | helloRead hState _ _ _ _ _ hCall =>
      rcases hEarly _ hState (by decide) with ⟨hZero, hNow⟩
      exact hCall.after hSocks hZero hNow
  | helloWrite hState _ _ _ _ _ hCall =>
      rcases hEarly _ hState (by decide) with ⟨hZero, hNow⟩
      exact hCall.after hSocks hZero hNow
  | authRead hState _ _ _ _ hCall =>
      rcases hEarly _ hState (by decide) with ⟨hZero, hNow⟩
      exact hCall.after hSocks hZero hNow
  | authWrite hState _ _ _ _ hCall =>
      rcases hEarly _ hState (by decide) with ⟨hZero, hNow⟩
      exact hCall.after hSocks hZero hNow
  | requestRead hState hFd hOrigin _ hStatus p _ _ hCall =>
      rcases hEarly _ hState (by decide) with ⟨hZero, hNow⟩
      have hEmpty := (hCounting.none_before hState
        (by decide)).2 (Or.inl ⟨rfl, hStatus⟩)
      cases hCall with
      | ended =>
          exact .ended _ (Or.inr rfl) hZero hNow
      | more => exact .clean _ _ (Or.inl rfl) hZero hEmpty
      | processed bytes hBytes hSome hParsed _ hResult =>
          exact hResult.after hState hOrigin hZero hEmpty
  | requestResolvDone hState _ _ _ _ _ _ hCall =>
      exact hCall.after hState
        (hEarly _ hState (by decide)).1
        ((hCounting.none_before hState
          (by decide)).2 (Or.inr rfl))
  | connectingWrite hState interest _ hKey hClient hFd _
      hCall =>
      rcases hCounting.connecting_inv hState with
        ⟨hZero, hTried⟩
      refine hCall.after hState ?_ hZero hTried
      intro hStatus hBad
      have hValid := hKey.slot.1
      rw [hFd hStatus, hBad] at hValid
      exact absurd hValid (by decide)
  | requestWrite hState hFd _ _ _ hCall =>
      have hSame := hKept (by
        rw [hState]
        decide)
      have hSide : s.conn.sideOf key.fd = .client := by
        rw [hFd]
        exact s.conn.sideOf_fdOf (hOwns.ne hSound) .client
      exact hCall.after hCounting hState hSide hSame.1 hSame.2
  | relay hState hCopy hSlots side hSide hFd t hRelay hAsked =>
      have hReady := hRelay.ready hSound hOwns hCopy hSlots
      exact relay_after hCounting hState hCopy hSide hRelay
        hAsked hReady.1.fds hReady.2

end Following

------------------------------------------------------------
-- Every Connection
------------------------------------------------------------

/- What a connection of either service has counted. -/
structure Counted (c : Conn) : Prop where
  socks : c.isSocks = true → Counting c
  mng : c.isSocks = false →
    c.established = 0 ∧ c.attempts = 0

section Everywhere

variable {k : ConnId}
variable {key : Key}
variable {a : Answers}
variable {s t u : St}
variable {r : St × Nat}

/- Management connections count nothing. -/
theorem Ev.blind_ofMngState
    {state : Nat}
    (event : Ev)
    (h : event.ofMngState state) :
    event.isConnect = false ∧
      event.isEstablished = false := by
  unfold Ev.ofMngState at h
  split at h
  · exact Ev.blind_ofState (by decide) event h
  · exact Ev.blind_ofState (by decide) event h
  · exact Ev.blind_ofState (by decide) event h
  · exact Ev.blind_ofState (by decide) event h
  · cases event with
    | connect attempt => exact h.elim
    | soError result left => exact h.elim
    | _ => exact ⟨rfl, rfl⟩

/- The first event of a connection starts its machine. -/
theorem helloStarted_conn
    (key : Key)
    (a : Answers)
    (s : St) :
    (helloReadInit key a (entered HELLO_READ s)).conn.isSocks =
        s.conn.isSocks ∧
      (helloReadInit key a
        (entered HELLO_READ s)).conn.current =
          some HELLO_READ := by
  unfold helloReadInit
  split
  · exact ⟨rfl, rfl⟩
  · exact ⟨rfl, rfl⟩

theorem helloStarted_quiet
    (key : Key)
    (a : Answers)
    (s : St) :
    Quiet s (helloReadInit key a (entered HELLO_READ s)) := by
  refine (entered_quiet HELLO_READ s).trans ?_
  refine .of_grows (P := fun event =>
    (∃ method, event = .helloInit method) ∨
      event = .outOfMemory .hello) ?_ ?_ ?_
  · unfold helloReadInit
    split
    · rfl
    · rfl
  · unfold helloReadInit
    split
    · exact .single rfl (Or.inl ⟨_, rfl⟩)
    · exact .single rfl (Or.inr rfl)
  · intro event hEvent
    rcases hEvent with ⟨_, hEq⟩ | hEq
    · rw [hEq]
      exact ⟨rfl, rfl⟩
    · rw [hEq]
      exact ⟨rfl, rfl⟩

/- A call and a jump of a management connection. -/
theorem mngMoved_counts
    (hTurn : MngTurn k key a s r)
    (hJump : MngJump key a r.1 r.2 u) :
    u.conn.established = s.conn.established ∧
      u.conn.attempts = s.conn.attempts := by
  rcases hTurn.logs with ⟨state, _, hCall⟩
  have hBefore := hCall.counts Ev.blind_ofMngState
  rcases hJump.logs with ⟨_, hSame⟩ | ⟨_, hArrival⟩
  · rw [hSame]
    exact hBefore
  · have hEntered := entered_quiet r.2 r.1
    have hAfter := hArrival.counts fun event hEvent =>
      @Ev.blind_ofMngState 6 event hEvent
    exact ⟨(hAfter.1.trans hEntered.established).trans
        hBefore.1,
      (hAfter.2.trans hEntered.attempts).trans hBefore.2⟩

theorem counted_preserved :
    Preserved fun _ _ c => Counted c := by
  constructor
  · intro admins k isSocks client
    constructor
    · intro _
      exact .early (fun _ hBad => nomatch hBad) rfl
        fun _ => rfl
    · intro _
      exact ⟨rfl, rfl⟩
  · intro admins k c addresses hState hBefore
    constructor
    · intro hSocks
      rcases (hBefore.socks hSocks).none_before hState
        (by decide) with ⟨hNone, hEmpty⟩
      refine .early ?_ hNone fun _ => hEmpty (Or.inr rfl)
      intro state hCurrent
      have hHere : c.current = some state := hCurrent
      rw [hState] at hHere
      rw [← Option.some.inj hHere]
      decide
    · exact hBefore.mng
  · intro k s request hState hBefore
    have hQuiet := (Quiet.refl s).note
      (.notified k request) rfl rfl
    constructor
    · intro hSocks
      rcases (hBefore.socks hSocks).none_before hState
        (by decide) with ⟨hNone, hEmpty⟩
      refine .early ?_ (hQuiet.established.trans hNone)
        fun _ => hEmpty (Or.inr rfl)
      intro state hCurrent
      have hHere : s.conn.current = some state := hCurrent
      rw [hState] at hHere
      rw [← Option.some.inj hHere]
      decide
    · intro hMng
      rcases hBefore.mng hMng with ⟨hNone, hZero⟩
      exact ⟨hQuiet.established.trans hNone,
        hQuiet.attempts.trans hZero⟩
  · intro k key a s hState hBefore
    have hQuiet := helloStarted_quiet key a s
    rcases helloStarted_conn key a s with
      ⟨hService, hCurrent⟩
    constructor
    · intro hSocks
      rw [hService] at hSocks
      have hNone : s.conn.established = 0 := by
        cases hBefore.socks hSocks with
        | early _ hNone _ => exact hNone
        | connecting hBad =>
            rw [hState] at hBad
            nomatch hBad
        | answering hBad =>
            rw [hState] at hBad
            nomatch hBad
        | refusing hBad =>
            rw [hState] at hBad
            nomatch hBad
        | copying hBad =>
            rw [hState] at hBad
            nomatch hBad
        | alone hBad =>
            rw [hState] at hBad
            nomatch hBad
        | ends hBad =>
            rw [hState] at hBad
            rcases hBad with hBad | hBad
            · nomatch hBad
            · nomatch hBad
      refine .early ?_ (hQuiet.established.trans hNone) ?_
      · intro state hOther
        rw [hCurrent] at hOther
        rw [← Option.some.inj hOther]
        decide
      · intro hLate
        rw [hCurrent] at hLate
        rcases hLate with ⟨hBad, _⟩ | hBad
        · exact absurd hBad (by decide)
        · exact absurd hBad (by decide)
    · intro hMng
      rw [hService] at hMng
      rcases hBefore.mng hMng with ⟨hNone, hZero⟩
      exact ⟨hQuiet.established.trans hNone,
        hQuiet.attempts.trans hZero⟩
  · intro k key a s r u hSocks hSound hOwns hTurn hJump
      hBefore
    constructor
    · intro _
      exact (hTurn.after hSocks hSound hOwns
        (hBefore.socks hSocks)).jump hJump
    · intro hMng
      have hService := hJump.service.trans
        (hTurn.service hSound hOwns)
      rw [hMng, hSocks] at hService
      nomatch hService
  · intro k key a s r u hMng hTurn hJump hBefore
    have hService := hJump.service.trans hTurn.service
    constructor
    · intro hSocks
      rw [hSocks, hMng] at hService
      nomatch hService
    · intro _
      rcases hBefore.mng hMng with ⟨hNone, hZero⟩
      rcases mngMoved_counts hTurn hJump with
        ⟨hEstablished, hAttempts⟩
      exact ⟨hEstablished.trans hNone, hAttempts.trans hZero⟩

end Everywhere

end Socks5d

------------------------------------------------------------
-- What An Event Counts
------------------------------------------------------------

namespace Socks5d

/- What an event does to the counters and to the account. -/
inductive Booked (s t : St) : Prop where
  | quiet
      (hQuiet : Quiet s t)
      (hActive : t.conn.active = s.conn.active)
  | tried
      (hTried : Tried s t)
      (hActive : t.conn.active = s.conn.active)
  | counted
      (hCounted : CountedNow s t)
      (hActive : t.conn.active = s.conn.active + 1)
  | released
      (hCounters : t.srv.counters = ({ s.srv with
        metrics := takenOff s.srv.metrics }).counters)
      (hAttempts : t.conn.attempts = s.conn.attempts)
      (hEstablished :
        t.conn.established = s.conn.established)
      (hActive : s.conn.active = t.conn.active + 1)

section Events

variable {k : ConnId}
variable {key : Key}
variable {a : Answers}
variable {s t u : St}
variable {r : St × Nat}

/- `jump` ends in the state it was given. -/
theorem SocksJump.enters
    {next : Nat}
    (h : SocksJump k key a s next u) :
    u.conn.current = some next := by
  cases h with
  | stay _ hState hNext => exact hState
  | plain _ hNext hState parser hParser => rfl
  | userpassRead hState =>
      unfold authReadInit
      split
      · rfl
      · rfl
  | requestRead hState _ hInit =>
      cases hInit with
      | ready => rfl
      | starved => rfl
  | connecting hState parser _ hInit =>
      exact hInit.aside.current
  | copy hState => rfl

theorem Conn.active_of_not_done
    {c : Conn}
    (h : c.current ≠ some DONE) :
    c.active = c.established := if_neg h

/- No state that is called is the last one. -/
theorem SocksTurn.not_done
    (h : SocksTurn k key a s r) :
    s.conn.current ≠ some DONE := by
  cases h with
  | helloRead hState => rw [hState]; decide
  | helloWrite hState => rw [hState]; decide
  | authRead hState => rw [hState]; decide
  | authWrite hState => rw [hState]; decide
  | requestRead hState => rw [hState]; decide
  | requestResolvDone hState => rw [hState]; decide
  | connectingWrite hState => rw [hState]; decide
  | requestWrite hState => rw [hState]; decide
  | relay hState => rw [hState]; decide

/- `DONE` follows a relay of what is counted, or nothing is. -/
theorem AfterCall.counted_done
    (h : AfterCall (t, DONE)) :
    t.conn.established =
      if t.conn.current = some COPY then 1 else 0 := by
  cases h with
  | early _ _ hBad => exact absurd hBad (by decide)
  | clean _ _ hBad =>
      rcases hBad with hBad | hBad | ⟨hBad, _⟩
      · exact absurd hBad (by decide)
      · exact absurd hBad (by decide)
      · exact absurd hBad (by decide)
  | ends _ _ _ _ _ _ hDone => exact hDone rfl

/- A relay that ends is taken off the counters. -/
theorem Booked.of_released
    {v : St}
    (hQuiet : Quiet s t)
    (hCounters : v.srv.counters = ({ t.srv with
      metrics := takenOff t.srv.metrics }).counters)
    (hLog : v.conn.log = t.conn.log)
    (hStill : Quiet v u)
    (hBefore : s.conn.active = s.conn.established)
    (hOne : v.conn.established = 1)
    (hDone : u.conn.active = 0) : Booked s u := by
  have hMetrics : v.srv.counters = ({ s.srv with
      metrics := takenOff s.srv.metrics }).counters := by
    rw [hCounters]
    have hSum := hQuiet.counters
    unfold Server.counters at hSum ⊢
    simp only [Prod.mk.injEq] at hSum
    simp only [takenOff, hSum]
  have hAttempts : v.conn.attempts = s.conn.attempts := by
    unfold Conn.attempts
    rw [hLog]
    exact hQuiet.attempts
  have hEstablished : v.conn.established =
      s.conn.established := by
    unfold Conn.established
    rw [hLog]
    exact hQuiet.established
  refine .released (hStill.counters.trans hMetrics)
    (hStill.attempts.trans hAttempts)
    (hStill.established.trans hEstablished) ?_
  rw [hBefore, hDone, ← hEstablished, hOne]

/- A call and the jump that follows it. -/
theorem SocksTurn.booked_jump
    (h : SocksTurn k key a s r)
    (hJump : SocksJump k key a r.1 r.2 u)
    (hSocks : s.conn.isSocks = true)
    (hSound : s.srv.sel.Sound)
    (hOwns : Owns k s.srv.sel s.conn)
    (hCounting : Counting s.conn) : Booked s u := by
  have hBefore := Conn.active_of_not_done h.not_done
  have hAfter := h.after hSocks hSound hOwns hCounting
  have hSame := h.current hSound hOwns
  have hEnters := hJump.enters
  have hOpen : r.2 ≠ DONE →
      u.conn.active = u.conn.established := by
    intro hNext
    apply Conn.active_of_not_done
    rw [hEnters]
    exact fun hBad => hNext (Option.some.inj hBad)
  cases h.booked hSound hOwns with
  | quiet t next hQuiet hRelay =>
      rcases hJump.booked with hStill | ⟨hNext, _, hTried⟩
      · have hAll := hQuiet.trans hStill
        refine .quiet hAll ?_
        by_cases hNext : next = DONE
        · -- a connection that ends here was not counted
          subst hNext
          have hOther : t.conn.current ≠ some COPY := by
            rw [show t.conn.current = s.conn.current
              from hSame]
            exact hRelay rfl
          have hZero := hAfter.counted_done
          rw [if_neg hOther, hQuiet.established] at hZero
          have hDone : u.conn.active = 0 := if_pos hEnters
          rw [hDone, hBefore, hZero]
        · rw [hOpen hNext, hBefore, hAll.established]
      · have hAll := hTried.after hQuiet
        refine .tried hAll ?_
        have hOther : next ≠ DONE := by
          rw [show next = REQUEST_CONNECTING from hNext]
          decide
        rw [hOpen hOther, hBefore, hAll.established]
  | tried t hState hTried =>
      rcases hJump.booked with hStill | ⟨_, hNot, _⟩
      · have hAll := hTried.trans hStill
        refine .tried hAll ?_
        have hNext : REQUEST_CONNECTING ≠ DONE := by decide
        rw [hOpen hNext, hBefore, hAll.established]
      · exact absurd (hSame.trans hState) hNot
  | counted t next hState hNext hCounted =>
      have hOther : next ≠ DONE ∧
          next ≠ REQUEST_CONNECTING := by
        rcases hNext with hEq | hEq
        · rw [hEq]
          decide
        · rw [hEq]
          decide
      rcases hJump.booked with hStill | ⟨hBad, _, _⟩
      · have hAll := hCounted.trans hStill
        refine .counted hAll ?_
        rw [hOpen hOther.1, hBefore, hAll.established]
      · exact absurd hBad hOther.2
  | released t v hState hQuiet hCounters hLog =>
      have hStill : Quiet v u := by
        rcases hJump.booked with hStill | ⟨hBad, _, _⟩
        · exact hStill
        · exact absurd (show DONE = REQUEST_CONNECTING
            from hBad) (by decide)
      have hHere : v.conn.current = some COPY :=
        hSame.trans hState
      have hOne := hAfter.counted_done
      rw [if_pos hHere] at hOne
      exact .of_released hQuiet hCounters hLog hStill hBefore
        hOne (if_pos hEnters)

/- Ending a connection counts nothing. -/
theorem Booked.trans
    (h : Booked s t)
    (hQuiet : Quiet t u)
    (hConn : u.conn = t.conn) : Booked s u := by
  cases h with
  | quiet hFirst hActive =>
      refine .quiet (hFirst.trans hQuiet) ?_
      rw [hConn]
      exact hActive
  | tried hTried hActive =>
      refine .tried (hTried.trans hQuiet) ?_
      rw [hConn]
      exact hActive
  | counted hCounted hActive =>
      refine .counted (hCounted.trans hQuiet) ?_
      rw [hConn]
      exact hActive
  | released hCounters hAttempts hEstablished hActive =>
      refine .released (hQuiet.counters.trans hCounters)
        (hQuiet.attempts.trans hAttempts)
        (hQuiet.established.trans hEstablished) ?_
      rw [hConn]
      exact hActive

theorem socksv5Done_quiet
    (s : St) : Quiet s (socksv5Done s) := by
  unfold socksv5Done
  exact (doneFd_quiet _ s).trans (doneFd_quiet _ _)

theorem SocksEvent.booked
    (h : SocksEvent k key a s t)
    (hSocks : s.conn.isSocks = true)
    (hSound : s.srv.sel.Sound)
    (hOwns : Owns k s.srv.sel s.conn)
    (hCounting : Counting s.conn) : Booked s t := by
  cases h with
  | going r u hTurn hJump hNext =>
      exact hTurn.booked_jump hJump hSocks hSound hOwns
        hCounting
  | ends r u hTurn hJump hNext =>
      exact (hTurn.booked_jump hJump hSocks hSound hOwns
        hCounting).trans (socksv5Done_quiet u)
          (socksv5Done_conn u)
  | stuck hWhy => exact .quiet ⟨rfl, rfl, rfl⟩ rfl

end Events

end Socks5d

------------------------------------------------------------
-- The Counters And The Accounts
------------------------------------------------------------

namespace Socks5d

/- A quantity summed over all connections. -/
def World.total
    (w : World)
    (f : Conn → Nat) : Nat :=
  Tally.total f w.conn w.next

/-
  The counters are the sums of the accounts; the maximum is
  one of the values that the live ones have had.
-/
structure Counters (w : World) : Prop where
  attempts : w.srv.metrics.historicConnectionsAttempts =
    UInt64.ofNat (w.total Conn.attempts)
  historic : w.srv.metrics.historicConnections =
    UInt64.ofNat (w.total Conn.established)
  concurrent : w.srv.metrics.concurrentConnections =
    UInt64.ofNat (w.total Conn.active)
  maximum : w.total Conn.attempts < 2 ^ 64 →
    ∃ most, w.srv.metrics.maxConcurrentConnections =
        UInt64.ofNat most ∧
      w.total Conn.active ≤ most ∧
      most ≤ w.total Conn.established

section Totals

variable {w w' : World}
variable {k : ConnId}
variable {t : St}

theorem World.total_put
    (w : World)
    (hOld : k < w.next)
    (t : St)
    (f : Conn → Nat) :
    (w.put k t).total f + f (w.conn k) =
      w.total f + f t.conn :=
  Tally.total_update hOld t.conn

/- What the account of `k` grows by, the sum grows by. -/
theorem World.total_put_add
    (w : World)
    (hOld : k < w.next)
    {f : Conn → Nat}
    {n : Nat}
    (hMore : f t.conn = f (w.conn k) + n) :
    (w.put k t).total f = w.total f + n := by
  have hTotal := w.total_put hOld t f
  omega

/- The accounts of one connection are in order. -/
theorem Counted.bounds
    {c : Conn}
    (h : Counted c) :
    c.active ≤ c.established ∧
      c.established ≤ c.attempts := by
  constructor
  · unfold Conn.active
    split
    · exact Nat.zero_le _
    · exact Nat.le_refl _
  · cases hService : c.isSocks with
    | false =>
        rw [(h.mng hService).1]
        exact Nat.zero_le _
    | true =>
        cases h.socks hService with
        | early _ hNone => rw [hNone]; exact Nat.zero_le _
        | connecting _ hNone =>
            rw [hNone]
            exact Nat.zero_le _
        | answering _ hOnce hTried =>
            rw [hOnce]
            exact hTried
        | refusing _ hNone => rw [hNone]; exact Nat.zero_le _
        | copying _ hOnce hTried => rw [hOnce]; exact hTried
        | alone _ hNone => rw [hNone]; exact Nat.zero_le _
        | ends _ _ hTried => exact hTried

/- The sums are in the same order. -/
theorem totals_ordered
    (h : ∀ k < w.next, Counted (w.conn k)) :
    w.total Conn.active ≤ w.total Conn.established ∧
      w.total Conn.established ≤ w.total Conn.attempts :=
  ⟨Tally.total_le fun k hK => (h k hK).bounds.1,
    Tally.total_le fun k hK => (h k hK).bounds.2⟩

theorem counters_eq
    {x y : Server}
    (h : y.counters = x.counters) :
    y.metrics.historicConnectionsAttempts =
        x.metrics.historicConnectionsAttempts ∧
      y.metrics.historicConnections =
        x.metrics.historicConnections ∧
      y.metrics.concurrentConnections =
        x.metrics.concurrentConnections ∧
      y.metrics.maxConcurrentConnections =
        x.metrics.maxConcurrentConnections := by
  unfold Server.counters at h
  simp only [Prod.mk.injEq] at h
  exact h

/- Counting one more, in 64 bits. -/
theorem ofNat_succ64
    (n : Nat) :
    UInt64.ofNat (n + 1) = UInt64.ofNat n + 1 :=
  UInt64.ofNat_add n 1

/- The greater of two numbers, in 64 bits. -/
theorem ofNat_max64
    {most live : Nat}
    (hMost : most < 2 ^ 64)
    (hLive : live < 2 ^ 64) :
    (if UInt64.ofNat live > UInt64.ofNat most then
      UInt64.ofNat live else UInt64.ofNat most) =
        UInt64.ofNat (max most live) := by
  have hGreater : UInt64.ofNat live > UInt64.ofNat most ↔
      most < live := by
    rw [gt_iff_lt, UInt64.lt_iff_toNat_lt,
      UInt64.toNat_ofNat', UInt64.toNat_ofNat',
      Nat.mod_eq_of_lt hMost, Nat.mod_eq_of_lt hLive]
  by_cases hMore : most < live
  · rw [if_pos (hGreater.mpr hMore),
      Nat.max_eq_right (Nat.le_of_lt hMore)]
  · rw [if_neg (fun hBad => hMore (hGreater.mp hBad)),
      Nat.max_eq_left (Nat.not_lt.mp hMore)]

theorem Counters.put_quiet
    (h : Counters w)
    (hOld : k < w.next)
    (hQuiet : Quiet (w.view k) t)
    (hActive : t.conn.active = (w.conn k).active) :
    Counters (w.put k t) := by
  rcases counters_eq hQuiet.counters with
    ⟨hOne, hTwo, hThree, hFour⟩
  have hSameA : (w.put k t).total Conn.attempts =
      w.total Conn.attempts :=
    w.total_put_add hOld (n := 0) hQuiet.attempts
  have hSameE : (w.put k t).total Conn.established =
      w.total Conn.established :=
    w.total_put_add hOld (n := 0) hQuiet.established
  have hSameL : (w.put k t).total Conn.active =
      w.total Conn.active :=
    w.total_put_add hOld (n := 0) hActive
  refine ⟨?_, ?_, ?_, ?_⟩
  · rw [hSameA]
    exact hOne.trans h.attempts
  · rw [hSameE]
    exact hTwo.trans h.historic
  · rw [hSameL]
    exact hThree.trans h.concurrent
  · rw [hSameA, hSameE, hSameL]
    intro hBound
    rcases h.maximum hBound with ⟨most, hMost, hRest⟩
    exact ⟨most, hFour.trans hMost, hRest⟩

theorem Counters.put_tried
    (h : Counters w)
    (hOld : k < w.next)
    (hTried : Tried (w.view k) t)
    (hActive : t.conn.active = (w.conn k).active) :
    Counters (w.put k t) := by
  rcases counters_eq (x := { w.srv with
      metrics.historicConnectionsAttempts :=
        w.srv.metrics.historicConnectionsAttempts + 1 })
    hTried.counters with ⟨hOne, hTwo, hThree, hFour⟩
  have hNextA : (w.put k t).total Conn.attempts =
      w.total Conn.attempts + 1 :=
    w.total_put_add hOld hTried.attempts
  have hSameE : (w.put k t).total Conn.established =
      w.total Conn.established :=
    w.total_put_add hOld (n := 0) hTried.established
  have hSameL : (w.put k t).total Conn.active =
      w.total Conn.active :=
    w.total_put_add hOld (n := 0) hActive
  refine ⟨?_, ?_, ?_, ?_⟩
  · rw [hNextA, ofNat_succ64, ← h.attempts]
    exact hOne
  · rw [hSameE]
    exact hTwo.trans h.historic
  · rw [hSameL]
    exact hThree.trans h.concurrent
  · rw [hNextA, hSameE, hSameL]
    intro hBound
    rcases h.maximum (Nat.lt_of_succ_lt hBound) with
      ⟨most, hMost, hRest⟩
    exact ⟨most, hFour.trans hMost, hRest⟩

/- Here the greatest number so far may grow. -/
theorem Counters.put_counted
    (h : Counters w)
    (hOld : k < w.next)
    (hCounted : CountedNow (w.view k) t)
    (hActive : t.conn.active = (w.conn k).active + 1)
    (hOrdered : (w.put k t).total Conn.active ≤
        (w.put k t).total Conn.established ∧
      (w.put k t).total Conn.established ≤
        (w.put k t).total Conn.attempts) :
    Counters (w.put k t) := by
  rcases counters_eq hCounted.counters with
    ⟨hOne, hTwo, hThree, hFour⟩
  have hSameA : (w.put k t).total Conn.attempts =
      w.total Conn.attempts :=
    w.total_put_add hOld (n := 0) hCounted.attempts
  have hNextE : (w.put k t).total Conn.established =
      w.total Conn.established + 1 :=
    w.total_put_add hOld hCounted.established
  have hNextL : (w.put k t).total Conn.active =
      w.total Conn.active + 1 :=
    w.total_put_add hOld hActive
  refine ⟨?_, ?_, ?_, ?_⟩
  · rw [hSameA]
    exact hOne.trans h.attempts
  · rw [hNextE, ofNat_succ64, ← h.historic]
    exact hTwo
  · rw [hNextL, ofNat_succ64, ← h.concurrent]
    exact hThree
  · rw [hSameA] at hOrdered ⊢
    rw [hNextE, hNextL] at hOrdered ⊢
    intro hBound
    rcases h.maximum hBound with ⟨most, hMost, hLow, hHigh⟩
    have hNow : w.srv.metrics.concurrentConnections + 1 =
        UInt64.ofNat (w.total Conn.active + 1) := by
      rw [ofNat_succ64, ← h.concurrent]
    have hStored : t.srv.metrics.maxConcurrentConnections =
        if w.srv.metrics.concurrentConnections + 1 >
            w.srv.metrics.maxConcurrentConnections then
          w.srv.metrics.concurrentConnections + 1
        else w.srv.metrics.maxConcurrentConnections :=
      hFour
    rw [hNow, hMost, ofNat_max64 (by omega) (by omega)]
      at hStored
    exact ⟨_, hStored, Nat.le_max_right _ _,
      Nat.max_le.mpr ⟨Nat.le_succ_of_le hHigh, hOrdered.1⟩⟩

theorem Counters.put_released
    (h : Counters w)
    (hOld : k < w.next)
    (hCounters : t.srv.counters = ({ w.srv with
      metrics := takenOff w.srv.metrics }).counters)
    (hAttempts : t.conn.attempts = (w.conn k).attempts)
    (hEstablished :
      t.conn.established = (w.conn k).established)
    (hActive : (w.conn k).active = t.conn.active + 1) :
    Counters (w.put k t) := by
  rcases counters_eq hCounters with
    ⟨hOne, hTwo, hThree, hFour⟩
  have hSameA : (w.put k t).total Conn.attempts =
      w.total Conn.attempts :=
    w.total_put_add hOld (n := 0) hAttempts
  have hSameE : (w.put k t).total Conn.established =
      w.total Conn.established :=
    w.total_put_add hOld (n := 0) hEstablished
  have hLessL : w.total Conn.active =
      (w.put k t).total Conn.active + 1 := by
    have hTotal := w.total_put hOld t Conn.active
    omega
  refine ⟨?_, ?_, ?_, ?_⟩
  · rw [hSameA]
    exact hOne.trans h.attempts
  · rw [hSameE]
    exact hTwo.trans h.historic
  · have hBefore := h.concurrent
    rw [hLessL, ofNat_succ64] at hBefore
    have hStored : t.srv.metrics.concurrentConnections =
        w.srv.metrics.concurrentConnections - 1 := hThree
    rw [hBefore, UInt64.add_sub_cancel] at hStored
    exact hStored
  · rw [hSameA, hSameE]
    intro hBound
    rcases h.maximum hBound with ⟨most, hMost, hLow, hHigh⟩
    refine ⟨most, hFour.trans hMost, ?_, hHigh⟩
    omega

/- An event of one connection keeps the counters right. -/
theorem Counters.put
    (h : Counters w)
    (hOld : k < w.next)
    (hBooked : Booked (w.view k) t)
    (hOrdered : (w.put k t).total Conn.active ≤
        (w.put k t).total Conn.established ∧
      (w.put k t).total Conn.established ≤
        (w.put k t).total Conn.attempts) :
    Counters (w.put k t) := by
  cases hBooked with
  | quiet hQuiet hActive =>
      exact h.put_quiet hOld hQuiet hActive
  | tried hTried hActive =>
      exact h.put_tried hOld hTried hActive
  | counted hCounted hActive =>
      exact h.put_counted hOld hCounted hActive hOrdered
  | released hCounters hAttempts hEstablished hActive =>
      exact h.put_released hOld hCounters hAttempts
        hEstablished hActive

/- Worlds that count the same. -/
theorem Counters.of_same
    (h : Counters w)
    (hNext : w'.next = w.next)
    (hMetrics : w'.srv.metrics = w.srv.metrics)
    (hLog : ∀ k < w.next,
      (w'.conn k).log = (w.conn k).log ∧
        (w'.conn k).current = (w.conn k).current) :
    Counters w' := by
  have hSame : ∀ f : Conn → Nat,
      (∀ c d : Conn, d.log = c.log →
        d.current = c.current → f d = f c) →
        w'.total f = w.total f := by
    intro f hF
    unfold World.total
    rw [hNext]
    apply Tally.total_congr
    intro k hK
    exact hF _ _ (hLog k hK).1 (hLog k hK).2
  have hA := hSame Conn.attempts (by
    intro c d hEq _
    unfold Conn.attempts
    rw [hEq])
  have hE := hSame Conn.established (by
    intro c d hEq _
    unfold Conn.established
    rw [hEq])
  have hL := hSame Conn.active (by
    intro c d hEq hState
    unfold Conn.active Conn.established
    rw [hEq, hState])
  refine ⟨?_, ?_, ?_, ?_⟩
  · rw [hA, hMetrics]
    exact h.attempts
  · rw [hE, hMetrics]
    exact h.historic
  · rw [hL, hMetrics]
    exact h.concurrent
  · rw [hA, hE, hL, hMetrics]
    exact h.maximum

/- A new connection has counted nothing. -/
theorem Counters.accept
    (h : Counters w)
    (isSocks : Bool)
    (client : Fd) :
    Counters (w.accept isSocks client) := by
  have hSame : ∀ f : Conn → Nat,
      f { isSocks, clientFd := client } = 0 →
        (w.accept isSocks client).total f = w.total f := by
    intro f hZero
    have hPush : (w.accept isSocks client).total f =
        w.total f + f { isSocks, clientFd := client } :=
      Tally.total_push _
    rw [hPush, hZero]
    rfl
  have hA := hSame Conn.attempts rfl
  have hE := hSame Conn.established rfl
  have hL := hSame Conn.active rfl
  refine ⟨?_, ?_, ?_, ?_⟩
  · rw [hA]
    exact h.attempts
  · rw [hE]
    exact h.historic
  · rw [hL]
    exact h.concurrent
  · rw [hA, hE, hL]
    exact h.maximum

theorem Booked.after
    {s u : St}
    (h : Booked t u)
    (hQuiet : Quiet s t)
    (hSame : t.conn.active = s.conn.active) :
    Booked s u := by
  cases h with
  | quiet hNext hActive =>
      exact .quiet (hQuiet.trans hNext) (hActive.trans hSame)
  | tried hTried hActive =>
      exact .tried (hTried.after hQuiet) (hActive.trans hSame)
  | counted hCounted hActive =>
      refine .counted ⟨?_, ?_, ?_⟩ ?_
      · rw [hCounted.counters]
        rcases counters_eq hQuiet.counters with
          ⟨hOne, hTwo, hThree, hFour⟩
        unfold Server.counters countConnection
        simp only [hOne, hTwo, hThree, hFour]
      · rw [hCounted.attempts, hQuiet.attempts]
      · rw [hCounted.established, hQuiet.established]
      · rw [hActive, hSame]
  | released hCounters hAttempts hEstablished hActive =>
      refine .released ?_ (hAttempts.trans hQuiet.attempts)
        (hEstablished.trans hQuiet.established) ?_
      · rw [hCounters]
        rcases counters_eq hQuiet.counters with
          ⟨hOne, hTwo, hThree, hFour⟩
        unfold Server.counters takenOff
        simp only [hOne, hTwo, hThree, hFour]
      · rw [← hSame]
        exact hActive

theorem first_quiet
    (states : Nat → StateDefinition)
    (hStates : states HELLO_READ =
      { onArrival := some helloReadInit
        onReadReady := some helloRead })
    (key : Key)
    (a : Answers)
    (s : St) :
    Quiet s (handleFirst states key a s) ∧
      (handleFirst states key a s).conn.active =
        s.conn.active := by
  rw [handleFirst_eq hStates]
  split
  · rename_i hState
    have hQuiet := helloStarted_quiet key a s
    refine ⟨hQuiet, ?_⟩
    rw [Conn.active_of_not_done (by
        rw [(helloStarted_conn key a s).2]
        decide),
      Conn.active_of_not_done (by
        rw [hState]
        exact fun hBad => nomatch hBad)]
    exact hQuiet.established
  · exact ⟨.refl s, rfl⟩

theorem MngTurn.counters
    {key : Key}
    {a : Answers}
    {s : St}
    {r : St × Nat}
    (h : MngTurn k key a s r) :
    r.1.srv.counters = s.srv.counters := by
  cases h with
  | helloRead _ _ _ _ _ hCall => exact hCall.counters
  | helloWrite _ _ _ _ _ hCall => exact hCall.counters
  | authRead _ _ _ hCall => exact hCall.counters
  | authWrite _ _ _ hCall => exact hCall.counters
  | request state hState hRequest hShape _ hCall =>
      have hMetrics : r.1.srv.metrics = s.srv.metrics := by
        cases hCall with
        | stay t next hFrame => exact hFrame.metrics
        | writes t hFrame => exact hFrame.metrics
        | reads t hFrame => exact hFrame.metrics
        | ends t next hNext hFrame => exact hFrame.metrics
      unfold Server.counters
      rw [hMetrics]

theorem MngJump.counters
    {key : Key}
    {a : Answers}
    {s u : St}
    {next : Nat}
    (h : MngJump key a s next u) :
    u.srv.counters = s.srv.counters := by
  cases h with
  | stay _ hState hNext => rfl
  | plain _ hNext hState => rfl
  | userpassRead hState =>
      unfold authReadInit
      split
      · rfl
      · rfl
  | request _ hNext hState _ hFrame =>
      have hMetrics : u.srv.metrics = s.srv.metrics :=
        hFrame.metrics
      unfold Server.counters
      rw [hMetrics]

/- An event of a management connection counts nothing. -/
theorem MngEvent.quiet
    {key : Key}
    {a : Answers}
    {s : St}
    (h : MngEvent k key a s t) : Quiet s t := by
  cases h with
  | going r _ hTurn hJump hNext =>
      have hCounts := mngMoved_counts hTurn hJump
      exact ⟨hJump.counters.trans hTurn.counters, hCounts.2,
        hCounts.1⟩
  | ends r u hTurn hJump hNext =>
      have hCounts := mngMoved_counts hTurn hJump
      have hMoved : Quiet s u :=
        ⟨hJump.counters.trans hTurn.counters, hCounts.2,
          hCounts.1⟩
      exact hMoved.trans (doneFd_quiet _ u)

/- Small steps keep the counters right. -/
theorem Micro.counters
    (hStep : Micro w w')
    (hInv : Inv w)
    (hBefore : ∀ k < w.next, Counted (w.conn k))
    (hAfter : ∀ k < w'.next, Counted (w'.conn k))
    (h : Counters w) : Counters w' := by
  have hOrdered := totals_ordered hAfter
  cases hStep with
  | accepted isSocks client => exact h.accept isSocks client
  | socks k key a interest t hLive hSocks hKey hArmed hEvent
      hAftermath =>
      rcases hInv.first hLive clientStatbl rfl key
        a with ⟨hSrv, hSound, hOwns⟩
      rcases first_quiet clientStatbl rfl key a
        (w.view k) with ⟨hQuiet, hSame⟩
      have hStarted := counted_preserved.started (k := k)
        (s := w.view k) key a clientStatbl rfl
        (hBefore k hLive.1)
      have hService := (first_conn clientStatbl rfl key a
        (w.view k)).trans hSocks
      exact h.put hLive.1 ((hEvent.booked hService hSound
        hOwns (hStarted.socks hService)).after hQuiet hSame)
        hOrdered
  | mng k key a t hLive hMng hEvent hAftermath =>
      rcases first_quiet clientMng rfl key a (w.view k) with
        ⟨hQuiet, hSame⟩
      have hAll := hQuiet.trans hEvent.quiet
      refine h.put hLive.1 (.quiet hAll ?_) hOrdered
      have hOld := hBefore k hLive.1
      have hZero : (w.conn k).established = 0 :=
        (hOld.mng hMng).1
      have hNow : t.conn.established = 0 :=
        hAll.established.trans hZero
      have hIdle : ∀ c : Conn, c.established = 0 →
          c.active = 0 := by
        intro c hNone
        unfold Conn.active
        rw [hNone]
        exact ite_self 0
      exact (hIdle _ hNow).trans (hIdle _ hZero).symm
  | block job rest a t hJobs hWaits hEvent hAftermath =>
      have hNoted : Quiet (w.view job.starter)
          (w.notified job rest) := by
        have hJob : Quiet (w.view job.starter)
            { srv := { w.srv with jobs := rest }
              conn := w.conn job.starter } :=
          ⟨rfl, rfl, rfl⟩
        exact hJob.note _ rfl rfl
      have hCounted := counted_preserved.notified job.starter
        (w.view job.starter) job.request hWaits.state
        (hBefore _ hWaits.accepted)
      have hActive : (w.notified job rest).conn.active =
          (w.view job.starter).conn.active := by
        have hState : (w.conn job.starter).current =
            some REQUEST_RESOLV := hWaits.state
        have hOther : (w.conn job.starter).current ≠
            some DONE := by
          rw [hState]
          decide
        have hNow := Conn.active_of_not_done
          (c := (w.notified job rest).conn) hOther
        have hThen := Conn.active_of_not_done
          (c := (w.view job.starter).conn) hOther
        rw [hNow, hThen]
        exact hNoted.established
      refine h.put hWaits.accepted ?_ hOrdered
      exact (hEvent.booked (s := w.notified job rest)
        hWaits.service hInv.sound
        ((hInv.wired _ hWaits.live).owns.of_eq rfl rfl rfl)
        (hCounted.socks hWaits.service)).after hNoted hActive
  | threadStart i thread p hThread hWaits hParser hRequest =>
      refine h.of_same rfl rfl ?_
      intro j _
      by_cases hEq : j = thread.data
      · rw [hEq]
        simp only [Function.update_self, and_self]
      · simp only [Function.update_of_ne hEq, and_self]
  | threadDone i thread addresses a hThread hWaits =>
      refine h.of_same rfl rfl ?_
      intro j _
      by_cases hEq : j = thread.data
      · rw [hEq]
        simp only [Function.update_self, and_self]
      · simp only [Function.update_of_ne hEq, and_self]

/- The counters are right in every reachable world. -/
theorem reachable_counters
    (hReach : server.Reachable w) :
    Counters w ∧ ∀ k < w.next, Counted (w.conn k) := by
  have hAll := micro_invariant
    (P := fun w => Counters w ∧
      ∀ k < w.next, Counted (w.conn k)) ?_ ?_ hReach
  · exact hAll.2
  · intro w hInit
    constructor
    · have hZero : ∀ f : Conn → Nat, w.total f = 0 := by
        intro f
        unfold World.total Tally.total
        rw [hInit.next]
        rfl
      refine ⟨?_, ?_, ?_, ?_⟩
      · rw [hZero, hInit.metrics]
        rfl
      · rw [hZero, hInit.metrics]
        rfl
      · rw [hZero, hInit.metrics]
        rfl
      · intro _
        refine ⟨0, ?_, ?_, Nat.zero_le _⟩
        · rw [hInit.metrics]
          rfl
        · rw [hZero]
    · intro k hLt
      rw [hInit.next] at hLt
      exact absurd hLt (Nat.not_lt_zero _)
  · intro w w' hInv hBefore hStep
    have hAfter : ∀ k < w'.next, Counted (w'.conn k) :=
      fun k hLt => counted_preserved.change hInv hBefore.2
        (hStep.change hLt)
    exact ⟨hStep.counters hInv hBefore.2 hAfter hBefore.1,
      hAfter⟩

end Totals

------------------------------------------------------------
-- The Order Of The Counters
------------------------------------------------------------

section Ordered

variable {w : World}
variable {k : ConnId}
variable {key : Key}
variable {a : Answers}
variable {s : St}
variable {r : St × Nat}

/- A relay that ends takes a counted connection off. -/
theorem SocksTurn.counted_of_done
    (h : SocksTurn k key a s r)
    (hState : s.conn.current = some COPY)
    (hDone : r.2 = DONE)
    (hSocks : s.conn.isSocks = true)
    (hSound : s.srv.sel.Sound)
    (hOwns : Owns k s.srv.sel s.conn)
    (hCounting : Counting s.conn) :
    s.conn.established = 1 := by
  have hHere := (h.current hSound hOwns).trans hState
  have hAfter := h.after hSocks hSound hOwns hCounting
  have hOne : r.1.conn.established = 1 := by
    rcases r with ⟨t, next⟩
    have hNext : next = DONE := hDone
    subst hNext
    cases hAfter with
    | early _ _ hBad => exact absurd hBad (by decide)
    | clean _ _ hBad =>
        rcases hBad with hBad | hBad | ⟨hBad, _⟩
        · exact absurd hBad (by decide)
        · exact absurd hBad (by decide)
        · exact absurd hBad (by decide)
    | ends _ _ _ _ _ _ hEnd =>
        have hValue := hEnd rfl
        rw [if_pos hHere] at hValue
        exact hValue
  rcases h.logs hSound hOwns with ⟨state, hSame, hGrows⟩
  have hBlind := hGrows.counts (Ev.blind_ofState (by
    intro hEq
    rw [hEq, hState] at hSame
    exact absurd hSame (by decide)))
  exact hBlind.1.symm.trans hOne

/- The counter of live connections is not at zero then. -/
theorem relay_counted
    (hReach : server.Reachable w)
    (hBound : w.total Conn.attempts < 2 ^ 64)
    (hLive : w.Live k)
    (hSocks : (w.conn k).isSocks = true)
    (hState : (w.conn k).current = some COPY)
    (hTurn : SocksTurn k key a (w.view k) r)
    (hDone : r.2 = DONE) :
    w.srv.metrics.concurrentConnections ≠ 0 := by
  rcases reachable_counters hReach with ⟨hCounters, hAll⟩
  have hInv := reachable_inv hReach
  have hOne : (w.conn k).established = 1 :=
    hTurn.counted_of_done hState hDone hSocks hInv.sound
      (hInv.wired k hLive).owns ((hAll k hLive.1).socks hSocks)
  have hActive : (w.conn k).active = 1 := by
    rw [Conn.active_of_not_done (by
      rw [hState]
      decide)]
    exact hOne
  have hSome : 1 ≤ w.total Conn.active := by
    rw [← hActive]
    exact Tally.le_total hLive.1
  have hOrdered := totals_ordered hAll
  intro hZero
  rw [hCounters.concurrent] at hZero
  have hNat := congrArg UInt64.toNat hZero
  rw [UInt64.toNat_ofNat', Nat.mod_eq_of_lt (by omega)]
    at hNat
  exact absurd (hNat ▸ hSome) (by decide)

/-
  With fewer than 2^64 calls of `connect`, the counters are in
  order, and a call of `copy_read` or `copy_write` that ends
  its connection finds the counter of live connections above
  zero.
-/
theorem metrics_ordered
    (hReach : server.Reachable w)
    (hEvents : w.total Conn.attempts < 2 ^ 64) :
    (w.srv.metrics.concurrentConnections ≤
        w.srv.metrics.maxConcurrentConnections ∧
      w.srv.metrics.maxConcurrentConnections ≤
        w.srv.metrics.historicConnections ∧
      w.srv.metrics.historicConnections ≤
        w.srv.metrics.historicConnectionsAttempts) ∧
    ∀ k side a, w.Live k → (w.conn k).isSocks = true →
      (w.conn k).current = some COPY →
      (w.conn k).fdOf side ≠ -1 →
        (((w.conn k).copyInterest side).read = true →
          (copyRead ⟨(w.conn k).fdOf side, k⟩ a
            (w.view k)).2 = DONE →
            w.srv.metrics.concurrentConnections ≠ 0) ∧
        (((w.conn k).copyInterest side).write = true →
          (copyWrite ⟨(w.conn k).fdOf side, k⟩ a
            (w.view k)).2 = DONE →
            w.srv.metrics.concurrentConnections ≠ 0) := by
  rcases reachable_counters hReach with ⟨hCounters, hAll⟩
  rcases totals_ordered hAll with ⟨hLow, hHigh⟩
  rcases hCounters.maximum hEvents with
    ⟨most, hMost, hLive, hSeen⟩
  have hLe : ∀ m n : Nat, m ≤ n → n < 2 ^ 64 →
      UInt64.ofNat m ≤ UInt64.ofNat n := by
    intro m n hOrder hSmall
    rw [UInt64.le_iff_toNat_le, UInt64.toNat_ofNat',
      UInt64.toNat_ofNat', Nat.mod_eq_of_lt (by omega),
      Nat.mod_eq_of_lt (by omega)]
    exact hOrder
  refine ⟨⟨?_, ?_, ?_⟩, ?_⟩
  · rw [hCounters.concurrent, hMost]
    exact hLe _ _ hLive (by omega)
  · rw [hMost, hCounters.historic]
    exact hLe _ _ hSeen (by omega)
  · rw [hCounters.historic, hCounters.attempts]
    exact hLe _ _ hHigh hEvents
  · intro k side a hRuns hSocks hState hSide
    have hInv := reachable_inv hReach
    have hWired := hInv.wired k hRuns
    cases hWired.socks hSocks with
    | copy _ hCopy hSlots hGoing =>
        have hKey : Keyed k ⟨(w.conn k).fdOf side, k⟩
            (w.view k) ((w.conn k).copyInterest side) := by
          refine ⟨rfl, ?_, hSlots side hSide⟩
          cases side with
          | client => exact Or.inl rfl
          | origin => exact Or.inr rfl
        have hPicks := copy_picks (s := w.view k) hInv.sound
          hWired.owns hKey hState hCopy hSlots a
        have hStates : clientStatbl
            ((w.view k).conn.current.getD HELLO_READ) =
              clientStatbl COPY := by
          show clientStatbl
            ((w.conn k).current.getD HELLO_READ) = _
          rw [hState]
          rfl
        constructor
        · intro hRead hDone
          rcases hPicks.1 hRead with ⟨onReady, hReady, hTurn⟩
          rw [hStates] at hReady
          rw [← Option.some.inj hReady] at hTurn
          exact relay_counted hReach hEvents hRuns hSocks
            hState hTurn hDone
        · intro hWrite hDone
          rcases hPicks.2 hWrite with ⟨onReady, hReady, hTurn⟩
          rw [hStates] at hReady
          rw [← Option.some.inj hReady] at hTurn
          exact relay_counted hReach hEvents hRuns hSocks
            hState hTurn hDone
    | fresh hBad => rw [hState] at hBad; nomatch hBad
    | helloRead hBad => rw [hState] at hBad; nomatch hBad
    | helloWrite hBad => rw [hState] at hBad; nomatch hBad
    | userpassRead hBad => rw [hState] at hBad; nomatch hBad
    | userpassWrite hBad => rw [hState] at hBad; nomatch hBad
    | requestRead hBad => rw [hState] at hBad; nomatch hBad
    | requestStarved hBad => rw [hState] at hBad; nomatch hBad
    | resolving hBad => rw [hState] at hBad; nomatch hBad
    | connecting hBad => rw [hState] at hBad; nomatch hBad
    | connectFailed hBad => rw [hState] at hBad; nomatch hBad
    | connectedAtOnce hBad => rw [hState] at hBad; nomatch hBad
    | requestWrite hBad => rw [hState] at hBad; nomatch hBad

theorem copyWorld_ordered :
    copyWorld.srv.metrics.concurrentConnections ≤
        copyWorld.srv.metrics.maxConcurrentConnections ∧
      copyWorld.srv.metrics.maxConcurrentConnections ≤
        copyWorld.srv.metrics.historicConnections ∧
      copyWorld.srv.metrics.historicConnections ≤
        copyWorld.srv.metrics.historicConnectionsAttempts :=
  (metrics_ordered copyWorld_reachable
    (by decide +kernel)).1

end Ordered

end Socks5d

------------------------------------------------------------
-- The Live Connections
------------------------------------------------------------

namespace Socks5d

/-
  Its connection to the origin was established, and
  `socksv5_done` has not terminated it.
-/
def Conn.Relaying (c : Conn) : Prop :=
  c.isSocks = true ∧ 1 ≤ c.established ∧ ¬ c.Closed

instance (c : Conn) : Decidable c.Relaying := by
  unfold Conn.Relaying
  infer_instance

/- How many such connections there are. -/
def World.relaying (w : World) : Nat :=
  ((Finset.range w.next).filter
    fun k => (w.conn k).Relaying).card

section Live

variable {w : World}
variable {k : ConnId}

/- Without a lost reply, the account tells who is live. -/
theorem Counted.active_eq
    {c : Conn}
    (h : Counted c)
    (hSent : ¬ ReplyLost c.log) :
    c.active = if c.Relaying then 1 else 0 := by
  have hZero : c.established = 0 →
      c.active = if c.Relaying then 1 else 0 := by
    intro hNone
    have hNot : ¬ c.Relaying := by
      intro hBad
      have hOne := hBad.2.1
      rw [hNone] at hOne
      exact absurd hOne (by decide)
    rw [if_neg hNot]
    unfold Conn.active
    rw [hNone]
    exact ite_self 0
  have hOpen : ∀ state, c.isSocks = true →
      c.established = 1 → c.current = some state →
      state < DONE →
        c.active = if c.Relaying then 1 else 0 := by
    intro state hSocks hOnce hState hBefore
    have hNot : ∀ late, DONE ≤ late →
        c.current ≠ some late := by
      intro late hLate hBad
      rw [hState] at hBad
      rw [Option.some.inj hBad] at hBefore
      exact absurd hLate (Nat.not_le.mpr hBefore)
    have hLive : c.Relaying := by
      refine ⟨hSocks, Nat.le_of_eq hOnce.symm, ?_⟩
      unfold Conn.Closed Conn.doneState Conn.errorState
      rw [hSocks]
      intro hBad
      rcases hBad with hBad | hBad
      · exact hNot _ (Nat.le_refl _) hBad
      · exact hNot _ (by decide) hBad
    rw [if_pos hLive, Conn.active_of_not_done
      (hNot _ (Nat.le_refl _))]
    exact hOnce
  cases hService : c.isSocks with
  | false => exact hZero (h.mng hService).1
  | true =>
      cases h.socks hService with
      | early _ hNone => exact hZero hNone
      | connecting _ hNone => exact hZero hNone
      | refusing _ hNone => exact hZero hNone
      | alone _ hNone => exact hZero hNone
      | answering hState hOnce =>
          exact hOpen _ hService hOnce hState (by decide)
      | copying hState hOnce =>
          exact hOpen _ hService hOnce hState (by decide)
      | ends hState hOnce hTried hLost =>
          rcases hState with hDone | hError
          · have hNot : ¬ c.Relaying := by
              intro hBad
              apply hBad.2.2
              left
              unfold Conn.doneState
              rw [hService]
              exact hDone
            rw [if_neg hNot]
            exact if_pos hDone
          · by_cases hOne : c.established = 1
            · exact absurd (hLost hError hOne) hSent
            · exact hZero (by omega)

/- The client of a running connection has its own slot. -/
theorem relaying_slot
    (hReach : server.Reachable w)
    (hOld : k < w.next)
    (hLive : (w.conn k).Relaying) :
    ∃ interest, w.srv.sel.Has (w.conn k).clientFd interest
      (.socks k) := by
  have hInv := reachable_inv hReach
  have hWired := hInv.wired k ⟨hOld, hLive.2.2⟩
  apply (hWired.socks hLive.1).client_has
  intro hBad
  have hOpen := hInv.sound.nonneg _ _ hWired.owns.client
  rw [hBad] at hOpen
  exact absurd hOpen (by decide)

/- There are no more of them than descriptors. -/
theorem relaying_le
    (hReach : server.Reachable w) :
    w.relaying ≤ 1024 := by
  have hSlot : ∀ k ∈ (Finset.range w.next).filter
      (fun k => (w.conn k).Relaying),
      ∃ interest, w.srv.sel.Has (w.conn k).clientFd interest
        (.socks k) := by
    intro k hK
    rw [Finset.mem_filter, Finset.mem_range] at hK
    exact relaying_slot hReach hK.1 hK.2
  have hCard := Finset.card_le_card_of_injOn
    (s := (Finset.range w.next).filter
      fun k => (w.conn k).Relaying)
    (t := Finset.range 1024)
    (fun k => ((w.conn k).clientFd : Int).toNat) ?_ ?_
  · rw [Finset.card_range] at hCard
    exact hCard
  · intro k hK
    rcases hSlot k hK with ⟨interest, hHas⟩
    have hValid := of_decide_eq_true hHas.1
    have hNat : ((w.conn k).clientFd : Int).toNat <
        1024 := (Int.toNat_lt hValid.1).mpr hValid.2
    exact Finset.mem_coe.mpr (Finset.mem_range.mpr hNat)
  · intro i hI j hJ hEq
    rcases hSlot i hI with ⟨_, hFirst⟩
    rcases hSlot j hJ with ⟨_, hSecond⟩
    have hLow := of_decide_eq_true hFirst.1
    have hLow' := of_decide_eq_true hSecond.1
    have hSame : (w.conn i).clientFd =
        (w.conn j).clientFd := by
      have hNat : ((w.conn i).clientFd : Int).toNat =
          ((w.conn j).clientFd : Int).toNat := hEq
      have hBack := congrArg Int.ofNat hNat
      calc (w.conn i).clientFd
          = ((w.conn i).clientFd : Int).toNat :=
            (Int.toNat_of_nonneg hLow.1).symm
        _ = ((w.conn j).clientFd : Int).toNat := hBack
        _ = (w.conn j).clientFd :=
            Int.toNat_of_nonneg hLow'.1
    rw [hSame] at hFirst
    have hOwner := (hFirst.unique hSecond).2
    injection hOwner

/-
  As long as no send has failed while the reply of a counted
  connection was being written, the counter of live
  connections is their number.
-/
theorem concurrent_exact
    (hReach : server.Reachable w)
    (hSent : ∀ k < w.next, ¬ ReplyLost (w.conn k).log) :
    w.srv.metrics.concurrentConnections.toNat =
      w.relaying := by
  rcases reachable_counters hReach with ⟨hCounters, hAll⟩
  have hTotal : w.total Conn.active = w.relaying := by
    unfold World.total World.relaying
    rw [← Tally.total_eq_card]
    apply Tally.total_congr
    intro k hK
    exact (hAll k hK).active_eq (hSent k hK)
  have hFew := relaying_le hReach
  rw [hCounters.concurrent, hTotal, UInt64.toNat_ofNat',
    Nat.mod_eq_of_lt (by omega)]

/- One connection that is being relayed is counted. -/
theorem copyWorld_exact :
    copyWorld.srv.metrics.concurrentConnections.toNat =
      copyWorld.relaying := by
  refine concurrent_exact copyWorld_reachable ?_
  intro k hK hLost
  rcases hLost with ⟨before, left, since, after, hLog, _⟩
  have hNext : copyWorld.next = 1 := by decide +kernel
  rw [hNext] at hK
  have hZero : k = 0 := Nat.lt_one_iff.mp hK
  have hNone : Ev.sendError .client ∉
      (copyWorld.conn 0).log := by decide +kernel
  rw [hZero] at hLog
  apply hNone
  rw [hLog]
  simp

/- A client that goes away before it gets its reply. -/
def lostReplyRun : List Label := [
  .read 3 { accept := some 5 },
  .read 5 { recv := some [5, 1, 0] },
  .write 5 { send := some 100 },
  .read 5 {
    recv := some [5, 1, 0, 1, 127, 0, 0, 1, 0, 80]
    socket := some 6 },
  .write 6 {},
  .write 5 { send := none }]

/- The connection is gone, but still counted. -/
theorem lostReplyRun_counted :
    ¬ ∀ w, server.Reachable w →
      w.srv.metrics.concurrentConnections.toNat =
        w.relaying := by
  intro hAll
  have hReach := reachable_runTo lostReplyRun
    (.init (smallServer_initial ⟨fun _ => {}, 0⟩
      ⟨fun _ => {}, 0⟩ (by decide) (Or.inl rfl)))
  exact absurd (hAll _ hReach) (by decide +kernel)

end Live

end Socks5d
