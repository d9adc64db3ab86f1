import Socks5d.Replies
import Socks5d.RequestAnswers

/-
  What `request_write` decides once the reply is sent: it
  reads `orig.conn.status`, which not every place that stores
  a failure reply has set.

  Main declarations:
    * `Conn.Acknowledged`, `Conn.TakenOn`
    * `Verdict`, `ReplyAccount`
    * `relay_decided_iff`
-/

------------------------------------------------------------
-- Replies And Requests That Are Taken On
------------------------------------------------------------

namespace Socks5d

/-
  The reply sent last carries the status 0x00, and there is
  an origin whose connection was established.
-/
def Conn.Acknowledged (c : Conn) : Prop :=
  c.stored.getLast? = some .succeeded ∧
    1 ≤ c.established ∧ c.originFd ≠ -1

/-
  `request_process` has not refused the request: a name is
  resolved, or a connection is tried.
-/
def Conn.TakenOn (c : Conn) : Prop :=
  .enter REQUEST_RESOLV ∈ c.log ∨
    .enter REQUEST_CONNECTING ∈ c.log

/- The requests that `request_process` takes on. -/
def Request.Takeable
    (request : Request)
    (a : Answers) : Prop :=
  request.cmd = socksReqCmdConnect ∧
    (request.destAddrType = socksReqAddrtypeIpv4 ∨
      request.destAddrType = socksReqAddrtypeIpv6 ∨
      request.destAddrType = socksReqAddrtypeDomain ∧
        a.alloc .resolvKey = true ∧ a.pthreadCreate ≠ -1)

section Taking

variable {k : ConnId}
variable {key : Key}
variable {a : Answers}
variable {s u : St}
variable {r : St × Nat}
variable {c d : Conn}

/- Only the entries of two states matter. -/
theorem Conn.TakenOn.grows
    {P : Ev → Prop}
    (h : c.TakenOn)
    (hGrows : c.Grows P d) : d.TakenOn :=
  h.imp hGrows.mem hGrows.mem

theorem takenOn_of_grows
    {P : Ev → Prop}
    (hGrows : c.Grows P d)
    (hPlain : ∀ event, P event → event.isEnter = false) :
    d.TakenOn ↔ c.TakenOn := by
  have hOld : ∀ state, .enter state ∈ d.log →
      .enter state ∈ c.log := by
    intro state hIn
    rcases hGrows.new hIn with hOld | hNew
    · exact hOld
    · nomatch hPlain _ hNew
  exact ⟨fun h => h.imp (hOld _) (hOld _),
    fun h => h.grows hGrows⟩

/- A call enters no state. -/
theorem SocksTurn.takenOn
    (h : SocksTurn k key a s r)
    (hSound : s.srv.sel.Sound)
    (hOwns : Owns k s.srv.sel s.conn) :
    r.1.conn.TakenOn ↔ s.conn.TakenOn := by
  rcases h.logs hSound hOwns with ⟨state, _, hGrows⟩
  exact takenOn_of_grows hGrows fun _ => Ev.ofState_isEnter

/- Entering one of the two takes the request on. -/
theorem entered_takenOn
    (next : Nat)
    (s : St) :
    (entered next s).conn.TakenOn ↔ s.conn.TakenOn ∨
      next = REQUEST_RESOLV ∨ next = REQUEST_CONNECTING := by
  have hLog : (entered next s).conn.log =
      s.conn.log ++ [.enter next] := rfl
  have hIn : ∀ state,
      .enter state ∈ (entered next s).conn.log ↔
        .enter state ∈ s.conn.log ∨ next = state := by
    intro state
    rw [hLog, List.mem_append, List.mem_singleton,
      Ev.enter.injEq]
    exact or_congr_right eq_comm
  unfold Conn.TakenOn
  rw [hIn, hIn]
  exact or_or_or_comm

theorem SocksJump.takenOn
    {next : Nat}
    (h : SocksJump k key a s next u) :
    u.conn.TakenOn ↔ s.conn.TakenOn ∨
      (s.conn.current ≠ some next ∧
        (next = REQUEST_RESOLV ∨
          next = REQUEST_CONNECTING)) := by
  rcases h.logs with ⟨hState, hSame⟩ | ⟨hOther, hEnters⟩
  · rw [hSame]
    exact (or_iff_left fun hBad => hBad.1 hState).symm
  · rw [takenOn_of_grows hEnters fun _ hEvent =>
      (Ev.ofArrival_idle hEvent).2, entered_takenOn]
    exact or_congr_right (and_iff_right hOther).symm

/- Whether a request is taken on depends on what it is. -/
theorem requestProcess_takes_iff
    (key : Key)
    (a : Answers)
    (request : Request)
    (s : St) :
    ((requestProcess key a request s).2 = REQUEST_RESOLV ∨
      (requestProcess key a request s).2 =
        REQUEST_CONNECTING) ↔ request.Takeable a := by
  unfold Request.Takeable requestProcess
  by_cases hCmd : request.cmd ≠ socksReqCmdConnect
  · rw [if_pos hCmd]
    constructor
    · rintro (hBad | hBad) <;> nomatch hBad
    · exact fun hBad => absurd hBad.1 hCmd
  rw [if_neg hCmd]
  have hConnect := not_not.mp hCmd
  by_cases hFour : request.destAddrType =
      socksReqAddrtypeIpv4
  · rw [if_pos hFour]
    exact ⟨fun _ => ⟨hConnect, Or.inl hFour⟩,
      fun _ => Or.inr rfl⟩
  rw [if_neg hFour]
  by_cases hSix : request.destAddrType =
      socksReqAddrtypeIpv6
  · rw [if_pos hSix]
    exact ⟨fun _ => ⟨hConnect, Or.inr (Or.inl hSix)⟩,
      fun _ => Or.inr rfl⟩
  rw [if_neg hSix]
  by_cases hDomain : request.destAddrType =
      socksReqAddrtypeDomain
  · rw [if_pos hDomain]
    unfold requestProcessDomain
    by_cases hAlloc : a.alloc .resolvKey = true
    · rw [if_pos hAlloc]
      by_cases hThread : a.pthreadCreate = -1
      · rw [if_pos hThread]
        constructor
        · rintro (hBad | hBad) <;> nomatch hBad
        · rintro ⟨_, hBad | hBad | hBad⟩
          · exact absurd hBad hFour
          · exact absurd hBad hSix
          · exact absurd hThread hBad.2.2
      · rw [if_neg hThread]
        exact ⟨fun _ => ⟨hConnect, Or.inr (Or.inr
          ⟨hDomain, hAlloc, hThread⟩)⟩, fun _ => Or.inl rfl⟩
    · rw [if_neg hAlloc]
      constructor
      · rintro (hBad | hBad) <;> nomatch hBad
      · rintro ⟨_, hBad | hBad | hBad⟩
        · exact absurd hBad hFour
        · exact absurd hBad hSix
        · exact absurd hBad.2.1 hAlloc
  · rw [if_neg hDomain]
    constructor
    · rintro (hBad | hBad) <;> nomatch hBad
    · rintro ⟨_, hBad | hBad | hBad⟩
      · exact absurd hBad hFour
      · exact absurd hBad hSix
      · exact absurd hBad.1 hDomain

end Taking

end Socks5d

------------------------------------------------------------
-- The Account Of The Status
------------------------------------------------------------

namespace Socks5d

/-
  What `request_write` will find: without an established
  connection the status tells whether the request was taken
  on, and with one the reply is 0x00.
-/
inductive Verdict (c : Conn) : Prop where
  | refused
      (hNone : c.established = 0)
      (hStatus : c.connStatus ≠ .succeeded ↔ c.TakenOn)
  | acknowledged
      (hOnce : 1 ≤ c.established)
      (hTaken : c.TakenOn)
      (hLast : c.stored.getLast? = some .succeeded)

/- What a call leaves for the next state. -/
inductive Judged (c : Conn) : Nat → Prop where
  | early
      (next : Nat)
      (hNext : next < REQUEST_RESOLV)
      (hStatus : c.connStatus = .succeeded)
      (hNot : ¬ c.TakenOn) :
      Judged c next
  | takenOn
      (next : Nat)
      (hNext : next = REQUEST_RESOLV ∨
        next = REQUEST_CONNECTING)
      (hIn : c.TakenOn ∨ c.current ≠ some next) :
      Judged c next
  | answered
      (hVerdict : Verdict c) :
      Judged c REQUEST_WRITE
  | late
      (next : Nat)
      (hNext : REQUEST_WRITE < next) :
      Judged c next

/- The status of a SOCKS connection in every state. -/
structure ReplyAccount (c : Conn) : Prop where
  early : (∀ state, c.current = some state →
    state < REQUEST_RESOLV) →
      c.connStatus = .succeeded ∧ ¬ c.TakenOn
  takenOn : c.current = some REQUEST_RESOLV ∨
    c.current = some REQUEST_CONNECTING → c.TakenOn
  answered : c.current = some REQUEST_WRITE → Verdict c

section Calls

variable {k : ConnId}
variable {key : Key}
variable {a : Answers}
variable {s t u : St}
variable {r : St × Nat}
variable {c d : Conn}
variable {attached : Attachment}

/- A verdict looks at nothing else. -/
theorem Verdict.of_same
    (h : Verdict c)
    (hEstablished : d.established = c.established)
    (hStatus : d.connStatus = c.connStatus)
    (hTaken : d.TakenOn ↔ c.TakenOn)
    (hStored : d.stored = c.stored) : Verdict d := by
  cases h with
  | refused hNone hIff =>
      refine .refused (hEstablished.trans hNone) ?_
      rw [hStatus, hTaken]
      exact hIff
  | acknowledged hOnce hIn hLast =>
      refine .acknowledged ?_ (hTaken.mpr hIn) ?_
      · rw [hEstablished]
        exact hOnce
      · rw [hStored]
        exact hLast

theorem replied_status
    (s : St)
    (status : SocksReplyStatus) :
    (replied s status).conn.connStatus =
      s.conn.connStatus :=
  (replied_fields s status).2.2.2.2

/- A refused request that the status does not show. -/
theorem RequestProcess.judged
    {request : Request}
    (h : RequestProcess key a request s attached r)
    (hState : s.conn.current = some REQUEST_READ)
    (hStatus : s.conn.connStatus = .succeeded)
    (hNot : ¬ r.1.conn.TakenOn)
    (hNone : r.1.conn.established = 0) :
    Judged r.1.conn r.2 := by
  have hOther : ∀ next, next ≠ REQUEST_READ →
      s.conn.current ≠ some next := by
    intro next hNext hBad
    exact hNext (Option.some.inj (hBad.symm.trans hState))
  -- a failure reply that leaves the status as it was
  have hRefused : r.1.conn.connStatus = .succeeded →
      Judged r.1.conn REQUEST_WRITE := by
    intro hStill
    exact .answered (.refused hNone
      ⟨fun hBad => absurd hStill hBad,
        fun hBad => absurd hBad hNot⟩)
  cases h with
  | refused status addrFamily hRequest =>
      exact hRefused ((replied_status _ _).trans hStatus)
  | direct addrFamily domain len hType =>
      exact .takenOn _ (Or.inr rfl)
        (Or.inr (hOther REQUEST_CONNECTING (by decide)))
  | noMemory hAlloc =>
      exact hRefused ((replied_status _ _).trans hStatus)
  | noThread hThread =>
      exact hRefused ((replied_status _ _).trans hStatus)
  | resolving hType hThread =>
      exact .takenOn _ (Or.inl rfl)
        (Or.inr (hOther REQUEST_RESOLV (by decide)))
  | waiting hType hThread =>
      exact .takenOn _ (Or.inl rfl)
        (Or.inr (hOther REQUEST_RESOLV (by decide)))

/- A list without addresses sets the status. -/
theorem RequestResolvDone.judged
    (h : RequestResolvDone key s attached r)
    (hTaken : r.1.conn.TakenOn)
    (hNone : r.1.conn.established = 0) :
    Judged r.1.conn r.2 := by
  cases h with
  | failed hList =>
      refine .answered (.refused hNone ⟨fun _ => hTaken,
        fun _ => ?_⟩)
      show (replied _ _).conn.connStatus ≠ _
      rw [replied_status]
      exact fun hBad => nomatch hBad
  | first address rest hList =>
      exact .takenOn _ (Or.inr rfl) (Or.inl hTaken)

/- What the counters say about a reply to be sent. -/
theorem AfterCall.uncounted
    (h : AfterCall (t, REQUEST_WRITE))
    (hStatus : t.conn.connStatus ≠ .succeeded) :
    t.conn.established = 0 := by
  cases h with
  | early _ _ hBad => exact absurd hBad (by decide)
  | clean _ _ hBad =>
      rcases hBad with hBad | hBad | ⟨hBad, _⟩ <;> nomatch hBad
  | refusing _ hNone => exact hNone
  | answering _ _ _ hGood => exact absurd hGood hStatus
  | ends _ _ hBad => rcases hBad with hBad | hBad <;> nomatch hBad

/- Every failure of connecting sets the status. -/
theorem ConnectingWrite.judged
    (h : ConnectingWrite key a s attached r)
    (hTaken : r.1.conn.TakenOn)
    (hAfter : AfterCall r) :
    Judged r.1.conn r.2 := by
  -- an answer with a failure in the status
  have hFailed : ∀ t, r = (t, REQUEST_WRITE) →
      t.conn.connStatus ≠ .succeeded →
        Judged r.1.conn r.2 := by
    rintro t rfl hStatus
    exact .answered (.refused (hAfter.uncounted hStatus)
      ⟨fun _ => hTaken, fun _ => hStatus⟩)
  have hGeneral : SocksReplyStatus.generalSocksServerFailure ≠
      .succeeded := by decide
  cases h with
  | nextAfterFailure =>
      exact .takenOn _ (Or.inr rfl) (Or.inl hTaken)
  | nextAfterError =>
      exact .takenOn _ (Or.inr rfl) (Or.inl hTaken)
  | full =>
      exact .late _ (show REQUEST_WRITE < ERROR by decide)
  | gaveUp hStatus hNone =>
      refine hFailed _ rfl ?_
      rw [answeredWith_conn, replied_status, dropOrigin_conn]
      exact hStatus
  | noAnswer hStatus hError =>
      refine hFailed _ rfl ?_
      rw [answeredWith_conn, replied_status]
      exact hGeneral
  | failed errno hStatus hError hNone =>
      refine hFailed _ rfl ?_
      rw [answeredWith_conn, replied_status]
      exact errnoToSocks_ne errno
  | established hStatus hError hRoom =>
      have hCounted := established_counted s
        (nextAddresses s).length
      have hStored := replied_stored
        (s := Socks5d.established (s.note (.soError (some none)
          (nextAddresses s).length))) .succeeded hRoom
      have hReplied := replied_quiet (Socks5d.established
        (s.note (.soError (some none)
          (nextAddresses s).length))) .succeeded
      refine .answered (.acknowledged ?_ hTaken ?_)
      · show 1 ≤ (replied _ _).conn.established
        rw [hReplied.established, hCounted.established]
        exact Nat.le_add_left _ _
      · show (replied _ _).conn.stored.getLast? = _
        rw [hStored.1, List.getLast?_concat]

/- Until the request, no call touches the status. -/
theorem HelloRead.connStatus
    (h : HelloRead key a s attached r) :
    r.1.conn.connStatus = s.conn.connStatus := by
  cases h <;> rfl

theorem HelloWrite.connStatus
    (h : HelloWrite key a s attached r) :
    r.1.conn.connStatus = s.conn.connStatus := by
  cases h <;> rfl

theorem AuthProcess.connStatus
    (h : AuthProcess s r) :
    r.1.conn.connStatus = s.conn.connStatus := by
  cases h <;> rfl

theorem AuthRead.connStatus
    (h : AuthRead key a s attached r) :
    r.1.conn.connStatus = s.conn.connStatus := by
  cases h with
  | failed hFailed => rfl
  | ended hBytes => rfl
  | more bytes hBytes hSome hGoing => rfl
  | rejected bytes hBytes processed hProcess =>
      exact hProcess.connStatus
  | answered bytes hBytes hSome hDone processed hProcess =>
      exact hProcess.connStatus

theorem AuthWrite.connStatus
    (h : AuthWrite key a s attached r) :
    r.1.conn.connStatus = s.conn.connStatus := by
  rcases authReply_eq s with ⟨wb, hReply⟩
  cases h <;> (rw [hReply]; rfl)

/- An end of the connection is behind the answer. -/
theorem Judged.ends
    (hSocks : d.isSocks = true) :
    Judged c d.errorState ∧ Judged c d.doneState := by
  rw [(Conn.ends_socks hSocks).1, (Conn.ends_socks hSocks).2]
  exact ⟨.late _ (by decide), .late _ (by decide)⟩

section Early

variable (hSocks : s.conn.isSocks = true)
variable (hStatus : s.conn.connStatus = .succeeded)
variable (hNot : ¬ r.1.conn.TakenOn)

include hSocks hStatus hNot

theorem HelloRead.judged
    (h : HelloRead key a s attached r) :
    Judged r.1.conn r.2 := by
  have hNow := h.connStatus.trans hStatus
  cases h with
  | failed => exact (Judged.ends hSocks).1
  | ended => exact (Judged.ends hSocks).1
  | refused => exact (Judged.ends hSocks).1
  | more => exact .early HELLO_READ (by decide) hNow hNot
  | answered => exact .early HELLO_WRITE (by decide) hNow hNot

theorem HelloWrite.judged
    (h : HelloWrite key a s attached r) :
    Judged r.1.conn r.2 := by
  have hNow := h.connStatus.trans hStatus
  cases h with
  | failed => exact (Judged.ends hSocks).1
  | refused => exact (Judged.ends hSocks).2
  | more => exact .early HELLO_WRITE (by decide) hNow hNot
  | userpass =>
      exact .early USERPASS_READ (by decide) hNow hNot
  | request => exact .early REQUEST_READ (by decide) hNow hNot

theorem AuthRead.judged
    (h : AuthRead key a s attached r) :
    Judged r.1.conn r.2 := by
  have hNow := h.connStatus.trans hStatus
  cases h with
  | failed => exact (Judged.ends hSocks).1
  | ended => exact (Judged.ends hSocks).1
  | rejected => exact (Judged.ends hSocks).1
  | more => exact .early USERPASS_READ (by decide) hNow hNot
  | answered _ _ _ _ _ hProcess =>
      cases hProcess with
      | _ => exact .early USERPASS_WRITE (by decide) hNow hNot

theorem AuthWrite.judged
    (h : AuthWrite key a s attached r) :
    Judged r.1.conn r.2 := by
  have hNow := h.connStatus.trans hStatus
  have hReply : (authReply s).conn.isSocks = true := by
    rcases authReply_eq s with ⟨wb, hReply⟩
    rw [hReply]
    exact hSocks
  cases h with
  | failed => exact (Judged.ends hReply).1
  | refused => exact (Judged.ends hReply).2
  | more => exact .early USERPASS_WRITE (by decide) hNow hNot
  | passed => exact .early REQUEST_READ (by decide) hNow hNot

end Early

theorem RequestRead.judged
    {p : RequestParser}
    (h : RequestRead key a s p attached r)
    (hState : s.conn.current = some REQUEST_READ)
    (hStatus : s.conn.connStatus = .succeeded)
    (hNot : ¬ r.1.conn.TakenOn)
    (hNone : r.1.conn.established = 0) :
    Judged r.1.conn r.2 := by
  cases h with
  | ended =>
      exact .late _ (show REQUEST_WRITE < ERROR by decide)
  | more => exact .early REQUEST_READ (by decide) hStatus hNot
  | processed bytes _ _ _ _ hResult =>
      exact hResult.judged hState hStatus hNot hNone

/- The reply that is on its way stays the verdict. -/
theorem RequestWrite.judged
    (h : RequestWrite key a s attached r)
    (hTaken : r.1.conn.TakenOn ↔ s.conn.TakenOn)
    (hVerdict : Verdict s.conn) : Judged r.1.conn r.2 := by
  cases h with
  | failed =>
      exact .late _ (show REQUEST_WRITE < ERROR by decide)
  | alone =>
      exact .late _ (show REQUEST_WRITE < COPY by decide)
  | relay =>
      exact .late _ (show REQUEST_WRITE < COPY by decide)
  | done =>
      exact .late _ (show REQUEST_WRITE < DONE by decide)
  | more n hSend hLeft =>
      have hGrows : s.conn.Grows (Ev.ofState REQUEST_WRITE)
          (sendPending key n s).conn := .single rfl trivial
      exact .answered (hVerdict.of_same
        (hGrows.counts (Ev.blind_ofState (by decide))).1
        rfl hTaken
        (hGrows.mono fun event hEvent =>
          Ev.ofState_aside hEvent
            (Or.inr (Nat.le_refl _))).aside.1)

theorem copyFinish_judged
    (c : Conn)
    (side : Side)
    (t : St) : Judged c (copyFinish side t).2 := by
  apply Judged.late
  unfold copyFinish
  dsimp only
  split
  · show REQUEST_WRITE < DONE
    decide
  · show REQUEST_WRITE < COPY
    decide

/- The call of any state leaves the account in order. -/
theorem SocksTurn.judged
    (h : SocksTurn k key a s r)
    (hSocks : s.conn.isSocks = true)
    (hSound : s.srv.sel.Sound)
    (hOwns : Owns k s.srv.sel s.conn)
    (hCounting : Counting s.conn)
    (hAccount : ReplyAccount s.conn) :
    Judged r.1.conn r.2 := by
  have hTaken := h.takenOn hSound hOwns
  have hAfter := h.after hSocks hSound hOwns hCounting
  have hIs : ∀ state other, s.conn.current = some state →
      s.conn.current = some other → other = state :=
    fun state other hState hOther =>
      Option.some.inj (hOther.symm.trans hState)
  -- the handshake, and the request until it is complete
  have hEarly : ∀ state, s.conn.current = some state →
      state < REQUEST_RESOLV →
        s.conn.connStatus = .succeeded ∧
          ¬ r.1.conn.TakenOn := by
    intro state hState hBefore
    rcases hAccount.early (fun other hOther => by
      rw [hIs _ _ hState hOther]
      exact hBefore) with ⟨hStatus, hNot⟩
    exact ⟨hStatus, fun hBad => hNot (hTaken.mp hBad)⟩
  have hNone : ∀ state, s.conn.current = some state →
      state < REQUEST_CONNECTING →
        r.1.conn.established = 0 := by
    intro state hState hBefore
    rcases h.logs hSound hOwns with ⟨here, hHere, hGrows⟩
    have hSame := hGrows.counts (Ev.blind_ofState (by
      rw [hIs _ _ hState hHere]
      exact Nat.ne_of_lt hBefore))
    exact hSame.1.trans
      (hCounting.none_before hState hBefore).1
  cases h with
  | helloRead hState _ _ _ _ _ hCall =>
      have hBefore := hEarly _ hState (by decide)
      exact hCall.judged hSocks hBefore.1 hBefore.2
  | helloWrite hState _ _ _ _ _ hCall =>
      have hBefore := hEarly _ hState (by decide)
      exact hCall.judged hSocks hBefore.1 hBefore.2
  | authRead hState _ _ _ _ hCall =>
      have hBefore := hEarly _ hState (by decide)
      exact hCall.judged hSocks hBefore.1 hBefore.2
  | authWrite hState _ _ _ _ hCall =>
      have hBefore := hEarly _ hState (by decide)
      exact hCall.judged hSocks hBefore.1 hBefore.2
  | requestRead hState _ _ _ _ p _ _ hCall =>
      have hBefore := hEarly _ hState (by decide)
      exact hCall.judged hState hBefore.1 hBefore.2
        (hNone _ hState (by decide))
  | requestResolvDone hState _ _ _ p _ _ hCall =>
      exact hCall.judged
        (hTaken.mpr (hAccount.takenOn (Or.inl hState)))
        (hNone _ hState (by decide))
  | connectingWrite hState interest _ hKey _ hFd _ hCall =>
      exact hCall.judged
        (hTaken.mpr (hAccount.takenOn (Or.inr hState))) hAfter
  | requestWrite hState _ _ _ _ hCall =>
      exact hCall.judged hTaken (hAccount.answered hState)
  | relay hState _ _ side _ _ t =>
      exact copyFinish_judged _ side t

/- Only `connecting_init` sets the status on arrival. -/
theorem SocksJump.connStatus
    {next : Nat}
    (h : SocksJump k key a s next u)
    (hNext : next ≠ REQUEST_CONNECTING) :
    u.conn.connStatus = s.conn.connStatus := by
  cases h with
  | stay => rfl
  | plain => rfl
  | userpassRead hState =>
      unfold authReadInit
      split
      · rfl
      · rfl
  | requestRead hState _ hInit => cases hInit <;> rfl
  | connecting => exact absurd rfl hNext
  | copy => rfl

/- The next state is entered with the account in order. -/
theorem Judged.jump
    (h : Judged s.conn r.2)
    (hJump : SocksJump k key a s r.2 u) :
    ReplyAccount u.conn := by
  have hTaken := hJump.takenOn
  have hNow := hJump.enters
  generalize r.2 = next at h hJump hTaken hNow
  have hIs : ∀ state, u.conn.current = some state →
      state = next := fun state hState =>
    Option.some.inj (hState.symm.trans hNow)
  -- neither of the two states is entered
  have hStill : next ≠ REQUEST_RESOLV →
      next ≠ REQUEST_CONNECTING →
        (u.conn.TakenOn ↔ s.conn.TakenOn) := by
    intro hResolv hConnecting
    rw [hTaken]
    refine or_iff_left ?_
    rintro ⟨_, hBad | hBad⟩
    · exact hResolv hBad
    · exact hConnecting hBad
  cases h with
  | early _ hNext hStatus hNot =>
      constructor
      · intro _
        have hOther : next ≠ REQUEST_CONNECTING :=
          Nat.ne_of_lt (Nat.lt_succ_of_lt hNext)
        refine ⟨(hJump.connStatus hOther).trans hStatus, ?_⟩
        rw [hStill (Nat.ne_of_lt hNext) hOther]
        exact hNot
      · rintro (hBad | hBad)
        all_goals rw [← hIs _ hBad] at hNext; nomatch hNext
      · intro hBad
        rw [← hIs _ hBad] at hNext
        nomatch hNext
  | takenOn _ hNext hIn =>
      have hLate : ¬ next < REQUEST_RESOLV := by
        rcases hNext with hNext | hNext
        all_goals rw [hNext]; decide
      constructor
      · intro hAll
        exact absurd (hAll _ hNow) hLate
      · intro _
        rw [hTaken]
        by_cases hOld : s.conn.TakenOn
        · exact Or.inl hOld
        · exact Or.inr ⟨hIn.resolve_left hOld, hNext⟩
      · intro hBad
        rw [← hIs _ hBad] at hNext
        rcases hNext with hNext | hNext <;> nomatch hNext
  | answered hVerdict =>
      have hSame := hJump.connStatus (by decide)
      have hTakenOn := hStill (by decide) (by decide)
      constructor
      · intro hAll
        exact absurd (hAll _ hNow) (by decide)
      · rintro (hBad | hBad)
        all_goals nomatch hIs _ hBad
      · intro _
        cases hJump with
        | stay => exact hVerdict
        | plain _ _ _ parser =>
            refine hVerdict.of_same ?_ hSame hTakenOn ?_
            · exact (Conn.Grows.counts
                (P := fun event => event.isConnect = false ∧
                  event.isEstablished = false)
                (.single rfl ⟨rfl, rfl⟩)
                fun _ hEvent => hEvent).1
            · exact Conn.Grows.filterMap
                (P := fun event => event.status? = none)
                (.single rfl rfl) _ fun _ hEvent => hEvent
  | late _ hNext =>
      constructor
      · intro hAll
        exact absurd (Nat.lt_trans (hAll _ hNow)
          (by decide : REQUEST_RESOLV < REQUEST_WRITE))
          (Nat.lt_asymm hNext)
      · rintro (hBad | hBad)
        all_goals rw [← hIs _ hBad] at hNext; nomatch hNext
      · intro hBad
        rw [← hIs _ hBad] at hNext
        exact absurd hNext (Nat.lt_irrefl _)

/- Every event keeps the account of the status. -/
theorem replyAccount_preserved :
    Preserved fun _ _ c => Counted c ∧
      (c.isSocks = true → ReplyAccount c) := by
  constructor
  · intro admins k isSocks client
    refine ⟨counted_preserved.born admins k isSocks client,
      fun _ => ⟨fun _ => ⟨rfl, ?_⟩, ?_, ?_⟩⟩
    · rintro (hBad | hBad) <;> exact List.not_mem_nil hBad
    · rintro (hBad | hBad) <;> nomatch hBad
    · intro hBad
      nomatch hBad
  · intro admins k c addresses hState hBefore
    refine ⟨counted_preserved.resolution admins k c addresses
      hState hBefore.1, fun hSocks => ?_⟩
    have h := hBefore.2 hSocks
    exact ⟨h.early, h.takenOn, fun hBad =>
      nomatch hState.symm.trans hBad⟩
  · intro k s request hState hBefore
    refine ⟨counted_preserved.notified k s request hState
      hBefore.1, fun hSocks => ?_⟩
    have h := hBefore.2 hSocks
    have hTaken : (s.note (.notified k
        request)).conn.TakenOn := by
      refine (h.takenOn (Or.inl hState)).grows
        (P := fun _ => True) (.single rfl trivial)
    refine ⟨fun hAll => ?_, fun _ => hTaken, fun hBad =>
      nomatch hState.symm.trans hBad⟩
    exact absurd (hAll _ hState) (Nat.lt_irrefl _)
  · intro k key a s hState hBefore
    refine ⟨counted_preserved.first k key a s hState
      hBefore.1, fun hSocks => ?_⟩
    have hService : s.conn.isSocks = true := by
      unfold helloReadInit at hSocks
      split at hSocks
      · exact hSocks
      · exact hSocks
    rcases (hBefore.2 hService).early (fun state hBad =>
      nomatch hState.symm.trans hBad) with ⟨hStatus, hNot⟩
    have hNow : (helloReadInit key a
        (entered HELLO_READ s)).conn.current =
          some HELLO_READ := by
      unfold helloReadInit
      split <;> rfl
    have hSame : (helloReadInit key a
        (entered HELLO_READ s)).conn.connStatus =
          s.conn.connStatus := by
      unfold helloReadInit
      split <;> rfl
    have hGrows : (entered HELLO_READ s).conn.Grows
        (fun event => event.isEnter = false)
        (helloReadInit key a
          (entered HELLO_READ s)).conn := by
      unfold helloReadInit
      split
      · exact .single rfl rfl
      · exact .single rfl rfl
    refine ⟨fun _ => ⟨hSame.trans hStatus, ?_⟩, ?_, ?_⟩
    · rw [takenOn_of_grows hGrows fun _ hEvent => hEvent,
        entered_takenOn]
      rintro (hBad | hBad | hBad)
      · exact hNot hBad
      · nomatch hBad
      · nomatch hBad
    · rintro (hBad | hBad) <;> nomatch hNow.symm.trans hBad
    · intro hBad
      nomatch hNow.symm.trans hBad
  · intro k key a s r u hSocks hSound hOwns hTurn hJump
      hBefore
    refine ⟨counted_preserved.socks k key a s r u hSocks
      hSound hOwns hTurn hJump hBefore.1, fun _ => ?_⟩
    exact (hTurn.judged hSocks hSound hOwns
      (hBefore.1.socks hSocks) (hBefore.2 hSocks)).jump hJump
  · intro k key a s r u hMng hTurn hJump hBefore
    refine ⟨counted_preserved.mng k key a s r u hMng hTurn
      hJump hBefore.1, fun hSocks => ?_⟩
    have hService := hJump.service.trans hTurn.service
    rw [hService, hMng] at hSocks
    nomatch hSocks

end Calls

section Runs

variable {w : World}
variable {k : ConnId}
variable {a : Answers}
variable {n : Nat}

/- Where `request_write` goes when all has been sent. -/
theorem requestWrite_next
    (key : Key)
    (s : St)
    (hSend : a.send = some n)
    (hAll : s.conn.writeBuffer.pending.length ≤ n) :
    (requestWrite key a s).2 =
      if s.conn.connStatus = .succeeded then COPY
      else DONE := by
  have hSent : (sendPending key n
      s).conn.writeBuffer.canRead = false := by
    rw [Buffer.canRead_eq_false_iff,
      (sendPending_wire key n s).2.1]
    exact List.drop_eq_nil_of_le hAll
  have hSame : (sendPending key n s).conn.connStatus =
      s.conn.connStatus := rfl
  unfold requestWrite
  rw [hSend]
  simp only [hSent, Bool.false_eq_true, if_false, hSame]
  split
  · rfl
  · rfl

/- The status after a reply, of a request taken on. -/
theorem verdict_iff
    (hReach : server.Reachable w)
    (hOld : k < w.next)
    (hSocks : (w.conn k).isSocks = true)
    (hState : (w.conn k).current = some REQUEST_WRITE) :
    ((w.conn k).connStatus = .succeeded ↔
        (w.conn k).Acknowledged) ↔ (w.conn k).TakenOn := by
  have hKept := conn_invariant replyAccount_preserved hReach
    hOld
  have hCounting := hKept.1.socks hSocks
  have hOver : ∀ state, (w.conn k).current = some state →
      state = REQUEST_WRITE := fun state hHere =>
    Option.some.inj (hHere.symm.trans hState)
  cases (hKept.2 hSocks).answered hState with
  | refused hNone hStatus =>
      have hNot : ¬ (w.conn k).Acknowledged := by
        intro hBad
        have hOnce := hBad.2.1
        rw [hNone] at hOnce
        nomatch hOnce
      rw [← hStatus]
      constructor
      · exact fun h hGood => hNot (h.mp hGood)
      · exact fun h => ⟨fun hGood => absurd hGood h,
          fun hBad => absurd hBad hNot⟩
  | acknowledged hOnce hTaken hLast =>
      have hCounted : (w.conn k).connStatus = .succeeded ∧
          (w.conn k).originFd ≠ -1 := by
        cases hCounting with
        | early hBad => nomatch hBad _ hState
        | connecting hBad => nomatch hOver _ hBad
        | answering _ _ _ hStatus hOrigin =>
            exact ⟨hStatus, hOrigin⟩
        | refusing _ hNone =>
            rw [hNone] at hOnce
            nomatch hOnce
        | copying hBad => nomatch hOver _ hBad
        | alone hBad => nomatch hOver _ hBad
        | ends hBad =>
            rcases hBad with hBad | hBad <;>
              nomatch hOver _ hBad
      exact ⟨fun _ => hTaken, fun _ =>
        ⟨fun _ => ⟨hLast, hOnce, hCounted.2⟩,
          fun _ => hCounted.1⟩⟩

/-
  In every reachable state in which the last bytes of the
  reply are sent: `request_write` returns `COPY` exactly after
  a reply 0x00 with an established origin, and `DONE` after
  any other, if and only if `request_process` has taken the
  request on.
-/
theorem relay_decided_iff
    (w : World)
    (k : ConnId)
    (key : Key)
    (a : Answers)
    (n : Nat)
    (hReach : server.Reachable w)
    (hOld : k < w.next)
    (hSocks : (w.conn k).isSocks = true)
    (hState : (w.conn k).current = some REQUEST_WRITE)
    (hSend : a.send = some n)
    (hAll : (w.conn k).writeBuffer.pending.length ≤ n) :
    let next := (requestWrite key a (w.view k)).2
    ((next = COPY ↔ (w.conn k).Acknowledged) ∧
        (¬ (w.conn k).Acknowledged → next = DONE)) ↔
      (w.conn k).TakenOn := by
  intro next
  have hNext : next =
      if (w.conn k).connStatus = .succeeded then COPY
      else DONE :=
    requestWrite_next key (w.view k) hSend hAll
  have hCopy : next = COPY ↔
      (w.conn k).connStatus = .succeeded := by
    rw [hNext]
    split
    · rename_i hGood
      exact ⟨fun _ => hGood, fun _ => rfl⟩
    · rename_i hFailed
      constructor
      · exact fun hBad => nomatch hBad
      · exact fun hBad => absurd hBad hFailed
  rw [← verdict_iff hReach hOld hSocks hState, hCopy]
  constructor
  · exact fun h => h.1
  · intro h
    refine ⟨h, fun hNot => ?_⟩
    rw [hNext, if_neg fun hGood => hNot (h.mp hGood)]

end Runs

/- A connection that is up, with the reply to be sent. -/
def answeredWorld : World :=
  runTo (copyRun.take 5) searchingServer

theorem relay_decided_iff_answered :
    (answeredWorld.conn 0).stored = [.succeeded] ∧
      ((((requestWrite ⟨5, 0⟩ { send := some 100 }
          (answeredWorld.view 0)).2 = COPY ↔
            (answeredWorld.conn 0).Acknowledged) ∧
        (¬ (answeredWorld.conn 0).Acknowledged →
          (requestWrite ⟨5, 0⟩ { send := some 100 }
            (answeredWorld.view 0)).2 = DONE)) ↔
        (answeredWorld.conn 0).TakenOn) :=
  ⟨by decide +kernel,
    relay_decided_iff answeredWorld 0 ⟨5, 0⟩
      { send := some 100 } 100
      (reachable_runTo _ (.init searchingServer_initial))
      (by decide +kernel) (by decide +kernel)
      (by decide +kernel) rfl (by decide +kernel)⟩

/- There is no memory for the key of the resolver. -/
def keylessRun : List Label := [
  .read 3 { accept := some 5 },
  .read 5 { recv := some [5, 1, 0] },
  .write 5 { send := some 100 },
  .read 5 {
    recv := some [5, 1, 0, 3, 1, 0x61, 0, 80]
    alloc := fun site => decide (site ≠ .resolvKey) }]

/- The request is answered with 0x01 and then relayed. -/
theorem refused_request_relays :
    let w := runTo keylessRun searchingServer
    server.Reachable w ∧ (w.conn 0).isSocks = true ∧
      (w.conn 0).current = some REQUEST_WRITE ∧
      (w.conn 0).stored = [.generalSocksServerFailure] ∧
      ¬ (w.conn 0).Acknowledged ∧
      (requestWrite ⟨5, 0⟩ { send := some 100 }
        (w.view 0)).2 = COPY := by
  intro w
  have hOrigin : (w.conn 0).originFd = -1 := by
    decide +kernel
  exact ⟨reachable_runTo _ (.init searchingServer_initial),
    by decide +kernel, by decide +kernel, by decide +kernel,
    fun hBad => hBad.2.2 hOrigin, by decide +kernel⟩

end Socks5d
