import Socks5d.ServiceWiring

/-
  Events of a SOCKS connection: entering a state and closing
  keep its slots as they should be.

  Main declarations:
    * `socks_jump`, `socks_done`
    * `SocksEvent`, `Aftermath`, `Served`
    * `socks_read`, `socks_write`, `socks_block`
-/

------------------------------------------------------------
-- Entering A State
------------------------------------------------------------

namespace Socks5d

section Entering

variable {k : ConnId}
variable {key : Key}
variable {s t : St}
variable {interest : Interest}
variable {attached : Attachment}

/- Answering keeps the state. -/
theorem answeredWith_current
    (s : St)
    (attached : Attachment)
    (status : SocksReplyStatus) :
    (answeredWith s attached status).conn.current =
      s.conn.current := by
  unfold answeredWith
  rw [idleOrigin_conn]
  exact (replied_fields s status).1

theorem Connection.current
    {a : Answers}
    {r : St × SocksReplyStatus}
    (h : Connection key a s attached r) :
    r.1.conn.current = s.conn.current := by
  cases h with
  | refused errno hAnswer =>
      exact answeredWith_current _ _ _
  | underway hAnswer hFree => rfl
  | blocked hAnswer hTaken =>
      exact answeredWith_current _ _ _
  | atOnce hAnswer hFree => rfl
  | atOnceBlocked hAnswer hTaken =>
      exact answeredWith_current _ _ _

theorem aimNext_current
    (next : Addrinfo)
    (rest : List Addrinfo)
    (s : St) :
    (aimNext next rest s).conn.current = s.conn.current := by
  rcases aimNext_eq next rest s with ⟨addr, hEq⟩
  rw [hEq]

theorem ConnectingWrite.current
    {a : Answers}
    {r : St × Nat}
    (h : ConnectingWrite key a s attached r) :
    r.1.conn.current = s.conn.current := by
  cases h with
  | nextAfterFailure next rest hStatus hNext result hResult =>
      exact hResult.current.trans (aimNext_current _ _ _)
  | gaveUp hStatus hNone => exact answeredWith_current _ _ _
  | noAnswer hStatus hError =>
      exact answeredWith_current _ _ _
  | established hStatus hError hRoom =>
      exact (replied_fields _ _).1
  | full hStatus hError hRoom => rfl
  | nextAfterError errno next rest hStatus hError hNext
      result hResult =>
      exact hResult.current.trans (aimNext_current _ _ _)
  | failed errno hStatus hError hNone =>
      exact answeredWith_current _ _ _

/- The connection after `copyFinish` is the one before. -/
theorem copyFinish_conn
    (hFds : ∀ side,
      (t.conn.copySt side).fd = t.conn.fdOf side)
    (hSlots : t.conn.Slotted attached t.srv.sel)
    (side : Side) :
    (copyFinish side t).1.conn = t.conn := by
  rcases copyFinish_eq hFds hSlots side with ⟨m, hEq⟩
  rw [hEq]
  rfl

/- A call leaves both sides with their descriptors. -/
theorem Relay.ready
    (hSound : s.srv.sel.Sound)
    (hOwns : Owns k s.srv.sel s.conn)
    (hCopy : Copying s.conn)
    (hSlots : ∀ side, s.conn.fdOf side ≠ -1 →
      s.srv.sel.Has (s.conn.fdOf side)
        (s.conn.copyInterest side) (.socks k))
    {side : Side}
    (hRelay : Relay side s t) :
    Copying t.conn ∧ t.conn.Slotted (.socks k) t.srv.sel := by
  have hRelayed := hRelay.relayed
  constructor
  · apply hRelayed.copying _ hCopy
    rw [show t.conn.clientFd = s.conn.clientFd from
      hRelayed.fds .client]
    exact hOwns.client_ne hSound
  · intro at_ hAt
    rw [hRelayed.fds] at hAt ⊢
    rw [hRelayed.sel]
    exact ⟨_, hSlots at_ hAt⟩

/- A call of a state keeps that state. -/
theorem SocksTurn.current
    {a : Answers}
    {r : St × Nat}
    (h : SocksTurn k key a s r)
    (hSound : s.srv.sel.Sound)
    (hOwns : Owns k s.srv.sel s.conn) :
    r.1.conn.current = s.conn.current := by
  cases h with
  | helloRead _ _ _ _ _ _ hCall => cases hCall <;> rfl
  | helloWrite _ _ _ _ _ _ hCall => cases hCall <;> rfl
  | authRead _ _ _ _ _ hCall => exact hCall.stays.current
  | authWrite _ _ _ _ _ hCall => exact hCall.stays.current
  | requestRead _ _ _ _ _ p _ _ hCall =>
      cases hCall with
      | ended hBytes => rfl
      | more bytes hBytes hSome hGoing => rfl
      | processed bytes hBytes hSome hDone _ hResult =>
          cases hResult with
          | refused status addrFamily hRequest =>
              exact (replied_fields _ _).1
          | direct addrFamily domain len hType => rfl
          | noMemory hAlloc => exact (replied_fields _ _).1
          | noThread hThread => exact (replied_fields _ _).1
          | resolving hType hThread => rfl
          | waiting hType hThread => rfl
  | requestResolvDone _ _ _ _ p _ _ hCall =>
      cases hCall with
      | failed hList => exact (replied_fields _ _).1
      | first address rest hList =>
          rcases takeAddress_eq address
              { s.note (.resolved s.conn.originResolution)
                with
                conn.resolutionCurrent := address :: rest }
            with ⟨_, _, _, hEq⟩
          rw [hEq]
          rfl
  | connectingWrite hState _ _ hKey hClient hFd _ hCall =>
      exact hCall.current
  | requestWrite _ _ _ _ _ hCall => cases hCall <;> rfl
  | relay hState hCopy hSlots side hSide hFd t hRelay =>
      have hReady := hRelay.ready hSound hOwns hCopy hSlots
      rw [copyFinish_conn hReady.1.fds hReady.2]
      exact hRelay.relayed.current

/- Up to the request only the client has a slot. -/
theorem SocksTurn.key_client
    {a : Answers}
    {r : St × Nat}
    (h : SocksTurn k key a s r)
    (hConnecting : s.conn.current ≠
      some REQUEST_CONNECTING)
    (hCopying : s.conn.current ≠ some COPY) :
    key.fd = s.conn.clientFd := by
  cases h with
  | helloRead _ hFd => exact hFd
  | helloWrite _ hFd => exact hFd
  | authRead _ hFd => exact hFd
  | authWrite _ hFd => exact hFd
  | requestRead _ hFd => exact hFd
  | requestResolvDone _ hFd => exact hFd
  | connectingWrite hState => exact absurd hState hConnecting
  | requestWrite _ hFd => exact hFd
  | relay hState => exact absurd hState hCopying

/-
  A departure may only forget the parser of the request, and
  find the one of the credentials torn.
-/
theorem depart_socks
    (key : Key)
    (hParser : s.conn.current = some REQUEST_READ →
      ∃ p, s.conn.request.parser = some p) :
    ∃ parser fault, depart clientStatbl key s =
        { s with
          srv.fault := fault
          conn.request.parser := parser } ∧
      TornFault s USERPASS_READ s.conn.userpass.torn fault ∧
      (s.conn.current ≠ some REQUEST_CONNECTING →
        ∀ p, s.conn.request.parser = some p →
          p.request.destAddrType = socksReqAddrtypeDomain →
            parser = some p) := by
  unfold depart
  cases hState : s.conn.current with
  | none => exact ⟨s.conn.request.parser, s.srv.fault, rfl,
      .same, fun _ _ hSame _ => hSame⟩
  | some state =>
      match state with
      | USERPASS_READ =>
          show ∃ parser fault, authReadClose key s = _ ∧ _
          unfold authReadClose
          split
          · rename_i hTorn
            exact ⟨s.conn.request.parser, _, rfl,
              .torn hState hTorn, fun _ _ hSame _ => hSame⟩
          · exact ⟨s.conn.request.parser, s.srv.fault, rfl,
              .same, fun _ _ hSame _ => hSame⟩
      | REQUEST_READ =>
          rcases hParser hState with ⟨p, hSome⟩
          show ∃ parser fault, requestClose key s = _ ∧ _
          unfold requestClose
          simp only [hSome]
          split
          · rename_i hType
            refine ⟨none, s.srv.fault, rfl, .same, ?_⟩
            intro _ q hQ hDomain
            rw [Option.some.inj hQ] at hType
            exact absurd hDomain hType
          · exact ⟨s.conn.request.parser, s.srv.fault, rfl,
              .same, fun _ _ hSame _ => hSome.trans hSame⟩
      | REQUEST_CONNECTING =>
          exact ⟨none, s.srv.fault, rfl, .same,
            fun hBad => absurd rfl hBad⟩
      | HELLO_READ | HELLO_WRITE | USERPASS_WRITE
      | REQUEST_RESOLV | REQUEST_WRITE | COPY | n + 9 =>
          exact ⟨s.conn.request.parser, s.srv.fault, rfl,
            .same, fun _ _ hSame _ => hSame⟩

end Entering

end Socks5d

------------------------------------------------------------
-- Jumping
------------------------------------------------------------

namespace Socks5d

/-
  Where a jump ends: in a state that goes on, or in `DONE` or
  `ERROR` with its slots still there.
-/
def Landed
    (k : ConnId)
    (s : St)
    (next : Nat) : Prop :=
  (next ≤ COPY ∧ s.conn.current = some next ∧
      SocksShape k s.srv.sel s.conn) ∨
    ((next = DONE ∨ next = ERROR) ∧
      s.conn.current = some next ∧
      s.conn.Slotted (.socks k) s.srv.sel)

section Jumping

variable {k : ConnId}
variable {key : Key}
variable {a : Answers}
variable {s t : St}
variable {next : Nat}

theorem jump_enters
    (hSocks : t.conn.isSocks = true)
    (hNext : next ≤ ERROR)
    (hState : t.conn.current ≠ some next) :
    jump clientStatbl next key a t =
      arrive clientStatbl next key a
        (depart clientStatbl key t) := by
  have hMax : t.conn.maxState = ERROR := by
    simp [Conn.maxState, hSocks]
  unfold jump
  rw [hMax, if_neg (Nat.not_lt.mpr hNext), if_neg hState]

theorem jump_stays
    (hSocks : t.conn.isSocks = true)
    (hNext : next ≤ ERROR)
    (hState : t.conn.current = some next) :
    jump clientStatbl next key a t = t := by
  have hMax : t.conn.maxState = ERROR := by
    simp [Conn.maxState, hSocks]
  unfold jump
  rw [hMax, if_neg (Nat.not_lt.mpr hNext), if_pos hState]

/- Entering a state without an arrival moves nothing. -/
theorem entered_handled
    (h : Handled k s t)
    (next : Nat)
    (parser : Option RequestParser)
    {fault : Option Fault}
    (hFault : fault = some .abort →
      t.srv.fault = some .abort) :
    Handled k s (entered next
      { t with
        srv.fault := fault
        conn.request.parser := parser }) :=
  h.of_eq rfl rfl rfl rfl hFault

theorem requestInit_current
    {u : St}
    (hInit : RequestInit key (.socks k) t u) :
    u.conn.current = t.conn.current := by
  cases hInit <;> rfl

theorem requestInit_handled
    (h : Handled k s t)
    (hSound : s.srv.sel.Sound)
    (hState : t.conn.current = some REQUEST_READ)
    (hOrigin : t.conn.originFd = -1)
    (hFd : key.fd = t.conn.clientFd)
    (hClient : t.srv.sel.Has t.conn.clientFd opRead
      (.socks k))
    {u : St}
    (hInit : RequestInit key (.socks k) t u) :
    Handled k s u ∧ SocksShape k u.srv.sel u.conn := by
  cases hInit with
  | ready =>
      exact ⟨h.of_eq rfl rfl rfl rfl id, .requestRead hState
        hOrigin hClient rfl requestParserInit rfl⟩
  | starved wb site log fault hSite hLog hFault =>
      rw [hFd]
      constructor
      · refine (h.arm_client hSound hClient opWrite).of_eq
          rfl rfl rfl rfl ?_
        intro hAbort
        rcases hFault with hSame | hSegv
        · exact hSame.symm.trans hAbort
        · exact calm_crash t (show Fault.segv ≠ .abort by
            decide) (hSegv.symm.trans hAbort)
      · refine .requestStarved hState hOrigin
          (Selector.Has.put_self hClient.1 _) ⟨site, ?_, hSite⟩
        exact List.mem_append_right _ List.mem_cons_self

theorem copyInit_handled
    (h : Handled k s t)
    (hSound : s.srv.sel.Sound)
    (hState : t.conn.current = some COPY)
    (hSlots : t.conn.Slotted (.socks k) t.srv.sel) :
    Handled k s (settled (.socks k) .origin
        { t with conn := copyStart t.conn }) ∧
      SocksShape k
        (settled (.socks k) .origin
          { t with conn := copyStart t.conn }).srv.sel
        (copyStart t.conn) := by
  have hNe := h.owns.ne (h.moves.sound hSound)
  have hStarted : Handled k s
      { t with conn := copyStart t.conn } :=
    h.of_eq rfl rfl rfl rfl id
  have hSlots' : (copyStart t.conn).Slotted (.socks k)
      t.srv.sel := by
    intro side hFd
    rw [copyStart_fdOf] at hFd ⊢
    exact hSlots side hFd
  refine ⟨settled_handled hStarted hSound hSlots' .origin, ?_⟩
  refine .copy hState ⟨?_, ?_⟩ ?_ ?_
  · intro side
    rw [copyStart_fds, copyStart_fdOf]
  · intro _ side
    cases side <;> rfl
  · intro side hFd
    exact settled_has (t := { t with
      conn := copyStart t.conn }) hNe hSlots' .origin side hFd
  · intro side _
    cases side <;> exact fun hBad => nomatch hBad

/- `connecting_init` stays in the state it enters. -/
theorem connectingInit_current
    {u : St}
    (hInit : ConnectingInit key a t (.socks k) u) :
    u.conn.current = t.conn.current := by
  cases hInit with
  | noSocket hNone => exact answeredWith_current _ _ _
  | notSet fd hSome hNio => exact answeredWith_current _ _ _
  | connected fd hSome hNio result hResult =>
      exact hResult.current

/- Jumping to a state that has no arrival. -/
theorem socks_jump_plain
    (key : Key)
    (a : Answers)
    (next : Nat)
    (h : Handled k s t)
    (hSocks : t.conn.isSocks = true)
    (hNext : next = HELLO_WRITE ∨ next = USERPASS_WRITE ∨
      next = REQUEST_RESOLV ∨ next = REQUEST_WRITE ∨
      next = DONE ∨ next = ERROR)
    (hState : t.conn.current ≠ some next)
    (hParser : t.conn.current = some REQUEST_READ →
      ∃ p, t.conn.request.parser = some p)
    (hKeep : next = REQUEST_RESOLV →
      t.conn.current ≠ some REQUEST_CONNECTING ∧
      ∃ p, t.conn.request.parser = some p ∧
        p.request.destAddrType = socksReqAddrtypeDomain) :
    ∃ parser fault,
      jump clientStatbl next key a t = entered next
        { t with
          srv.fault := fault
          conn.request.parser := parser } ∧
      SocksJump k key a t next
        (jump clientStatbl next key a t) ∧
      Handled k s (jump clientStatbl next key a t) ∧
      (next = REQUEST_RESOLV →
        parser = t.conn.request.parser) := by
  rcases depart_socks key hParser with
    ⟨parser, fault, hDepart, hFault, hSame⟩
  have hKept : next = REQUEST_RESOLV →
      parser = t.conn.request.parser := by
    intro hResolv
    rcases hKeep hResolv with ⟨hNe, p, hP, hDomain⟩
    rw [hSame hNe p hP hDomain, hP]
  have hLe : next ≤ ERROR := by
    rcases hNext with rfl | rfl | rfl | rfl | rfl | rfl
    all_goals decide
  have hJump : jump clientStatbl next key a t =
      entered next
        { t with
          srv.fault := fault
          conn.request.parser := parser } := by
    rw [jump_enters hSocks hLe hState, hDepart]
    rcases hNext with rfl | rfl | rfl | rfl | rfl | rfl
    all_goals rfl
  refine ⟨parser, fault, hJump, ?_, ?_, hKept⟩
  · rw [hJump]
    exact .plain next hNext hState parser hKept fault hFault
  · rw [hJump]
    exact entered_handled h next parser hFault.calm

/- What a jump comes to: its step, what it keeps, its end. -/
def Jumps
    (k : ConnId)
    (key : Key)
    (a : Answers)
    (s t : St)
    (next : Nat) : Prop :=
  SocksJump k key a t next (jump clientStatbl next key a t) ∧
    Handled k s (jump clientStatbl next key a t) ∧
    Landed k (jump clientStatbl next key a t) next

/- A jump to a state without an arrival, and its shape. -/
theorem jumps_plain
    (key : Key)
    (a : Answers)
    (h : Handled k s t)
    (hSocks : t.conn.isSocks = true)
    (hLe : next ≤ COPY)
    (hNext : next = HELLO_WRITE ∨ next = USERPASS_WRITE ∨
      next = REQUEST_RESOLV ∨ next = REQUEST_WRITE ∨
      next = DONE ∨ next = ERROR)
    (hState : t.conn.current ≠ some next)
    (hParser : t.conn.current = some REQUEST_READ →
      ∃ p, t.conn.request.parser = some p)
    (hKeep : next = REQUEST_RESOLV →
      t.conn.current ≠ some REQUEST_CONNECTING ∧
      ∃ p, t.conn.request.parser = some p ∧
        p.request.destAddrType = socksReqAddrtypeDomain)
    (hShape : ∀ parser, (next = REQUEST_RESOLV →
        parser = t.conn.request.parser) →
      SocksShape k t.srv.sel (entered next
        { t with conn.request.parser := parser }).conn) :
    Jumps k key a s t next := by
  rcases socks_jump_plain key a next h hSocks hNext hState
    hParser hKeep with ⟨parser, fault, hJump, hStep, hKept, hSame⟩
  refine ⟨hStep, hKept, Or.inl ⟨hLe, ?_⟩⟩
  rw [hJump]
  exact ⟨rfl, hShape parser hSame⟩

theorem jumps_userpassRead
    (key : Key)
    (a : Answers)
    (h : Handled k s t)
    (hSocks : t.conn.isSocks = true)
    (hState : t.conn.current = some HELLO_WRITE)
    (hOrigin : t.conn.originFd = -1)
    (hClient : t.srv.sel.Has t.conn.clientFd opRead
      (.socks k)) : Jumps k key a s t USERPASS_READ := by
  have hNe : t.conn.current ≠ some USERPASS_READ := by
    rw [hState]
    decide
  have hDepart : depart clientStatbl key t = t := by
    unfold depart
    rw [hState]
    rfl
  have hJump : jump clientStatbl USERPASS_READ key a t =
      authReadInit key a (entered USERPASS_READ t) := by
    rw [jump_enters hSocks (by decide) hNe, hDepart]
    rfl
  unfold Jumps
  rw [hJump]
  refine ⟨.userpassRead hState, ?_, Or.inl ⟨by decide, ?_⟩⟩
  · unfold authReadInit
    split
    · exact h.of_eq rfl rfl rfl rfl id
    · exact h.of_eq rfl rfl rfl rfl id
  · unfold authReadInit
    split
    · exact ⟨rfl, .userpassRead rfl hOrigin hClient⟩
    · exact ⟨rfl, .userpassRead rfl hOrigin hClient⟩

theorem jumps_requestRead
    (key : Key)
    (a : Answers)
    (h : Handled k s t)
    (hSound : s.srv.sel.Sound)
    (hSocks : t.conn.isSocks = true)
    (hState : t.conn.current = some HELLO_WRITE ∨
      t.conn.current = some USERPASS_WRITE)
    (hOrigin : t.conn.originFd = -1)
    (hKey : key.fd = t.conn.clientFd)
    (hClient : t.srv.sel.Has t.conn.clientFd opRead
      (.socks k)) : Jumps k key a s t REQUEST_READ := by
  have hNe : t.conn.current ≠ some REQUEST_READ := by
    rcases hState with hHello | hUser
    · rw [hHello]
      decide
    · rw [hUser]
      decide
  have hDepart : depart clientStatbl key t = t := by
    unfold depart
    rcases hState with hHello | hUser
    · rw [hHello]
      rfl
    · rw [hUser]
      rfl
  have hJump : jump clientStatbl REQUEST_READ key a t =
      requestInit key a (entered REQUEST_READ t) := by
    rw [jump_enters hSocks (by decide) hNe, hDepart]
    rfl
  unfold Jumps
  rw [hJump]
  have hSlot := hClient
  rw [← hKey] at hSlot
  have hInit := requestInit_outcome
    (s := entered REQUEST_READ t) hSlot a
  have hEntered : Handled k s (entered REQUEST_READ t) :=
    h.of_eq rfl rfl rfl rfl id
  rcases requestInit_handled hEntered hSound rfl hOrigin
      hKey hClient hInit with ⟨hKept, hShape⟩
  exact ⟨.requestRead hState _ hInit, hKept,
    Or.inl ⟨by decide, requestInit_current hInit, hShape⟩⟩

theorem jumps_connecting
    (a : Answers)
    (h : Handled k s t)
    (hSound : s.srv.sel.Sound)
    (hSocks : t.conn.isSocks = true)
    (hState : t.conn.current = some REQUEST_READ ∨
      t.conn.current = some REQUEST_RESOLV)
    (hParser : ∃ p, t.conn.request.parser = some p)
    (hOrigin : t.conn.originFd = -1)
    (hData : key.data = k)
    (hKey : key.fd = t.conn.clientFd)
    {interest : Interest}
    (hClient : t.srv.sel.Has t.conn.clientFd interest
      (.socks k)) :
    Jumps k key a s t REQUEST_CONNECTING := by
  have hNe : t.conn.current ≠ some REQUEST_CONNECTING := by
    rcases hState with hRead | hResolv
    · rw [hRead]
      decide
    · rw [hResolv]
      decide
  have hOther : t.conn.current ≠ some USERPASS_READ := by
    rcases hState with hRead | hResolv
    · rw [hRead]
      decide
    · rw [hResolv]
      decide
  rcases depart_socks (s := t) key (fun _ => hParser) with
    ⟨parser, fault, hDepart, hFault, _⟩
  rw [hFault.eq_of_ne hOther] at hDepart
  have hJump : jump clientStatbl REQUEST_CONNECTING key a t =
      connectingInit key a (entered REQUEST_CONNECTING
        { t with conn.request.parser := parser }) := by
    rw [jump_enters hSocks (by decide) hNe, hDepart]
    rfl
  unfold Jumps
  rw [hJump]
  have hSlot := hClient
  rw [← hKey] at hSlot
  have hInit := connectingInit_outcome
    (s := entered REQUEST_CONNECTING
      { t with conn.request.parser := parser })
    hSlot hClient a
  have hEntered := entered_handled h REQUEST_CONNECTING
    parser (fun hAbort : t.srv.fault = some .abort => hAbort)
  rcases connectingInit_handled hEntered hSound rfl
      hOrigin ⟨hData, Or.inl hKey, hSlot⟩ hClient hInit
    with ⟨hKept, hShape⟩
  exact ⟨.connecting hState parser _ hInit, hKept,
    Or.inl ⟨by decide, connectingInit_current hInit, hShape⟩⟩

theorem jumps_copy
    (key : Key)
    (a : Answers)
    (h : Handled k s t)
    (hSound : s.srv.sel.Sound)
    (hSocks : t.conn.isSocks = true)
    (hState : t.conn.current = some REQUEST_WRITE)
    (hSlots : t.conn.Slotted (.socks k) t.srv.sel) :
    Jumps k key a s t COPY := by
  have hNe : t.conn.current ≠ some COPY := by
    rw [hState]
    decide
  have hDepart : depart clientStatbl key t = t := by
    unfold depart
    rw [hState]
    rfl
  have hJump : jump clientStatbl COPY key a t =
      copyInit key a (entered COPY t) := by
    rw [jump_enters hSocks (by decide) hNe, hDepart]
    rfl
  unfold Jumps
  rw [hJump, copyInit_eq (s := entered COPY t) hSlots]
  have hEntered : Handled k s (entered COPY t) :=
    h.of_eq rfl rfl rfl rfl id
  rcases copyInit_handled hEntered hSound rfl hSlots with
    ⟨hKept, hShape⟩
  exact ⟨.copy hState, hKept,
    Or.inl ⟨Nat.le_refl _, rfl, hShape⟩⟩

theorem jumps_ends
    (key : Key)
    (a : Answers)
    (h : Handled k s t)
    (hSocks : t.conn.isSocks = true)
    (hNext : next = DONE ∨ next = ERROR)
    (hState : t.conn.current ≠ some DONE ∧
      t.conn.current ≠ some ERROR)
    (hParser : t.conn.current = some REQUEST_READ →
      ∃ p, t.conn.request.parser = some p)
    (hSlots : t.conn.Slotted (.socks k) t.srv.sel) :
    Jumps k key a s t next := by
  have hNe : t.conn.current ≠ some next := by
    rcases hNext with hDone | hError
    · rw [hDone]
      exact hState.1
    · rw [hError]
      exact hState.2
  have hPlain : next = HELLO_WRITE ∨
      next = USERPASS_WRITE ∨ next = REQUEST_RESOLV ∨
      next = REQUEST_WRITE ∨ next = DONE ∨
      next = ERROR := by
    rcases hNext with hDone | hError
    · simp [hDone]
    · simp [hError]
  rcases socks_jump_plain key a next h hSocks
      hPlain hNe hParser (by
        intro hBad
        rw [hBad] at hNext
        exact absurd hNext (by decide)) with
    ⟨parser, fault, hJump, hStep, hKept, _⟩
  refine ⟨hStep, hKept, Or.inr ⟨hNext, ?_⟩⟩
  rw [hJump]
  exact ⟨rfl, hSlots⟩

/- By the cases of where a handler heads for. -/
theorem socks_jump
    (key : Key)
    (a : Answers)
    (h : Handled k s t)
    (hSound : s.srv.sel.Sound)
    (hSocks : t.conn.isSocks = true)
    (hHeading : SocksHeading k t.srv.sel t.conn next)
    (hData : key.data = k)
    (hFd : t.conn.current ≠ some REQUEST_CONNECTING →
      t.conn.current ≠ some COPY →
        key.fd = t.conn.clientFd) :
    SocksJump k key a t next
        (jump clientStatbl next key a t) ∧
      Handled k s (jump clientStatbl next key a t) ∧
      Landed k (jump clientStatbl next key a t) next := by
  have hKey : ∀ state, t.conn.current = some state →
      state ≠ REQUEST_CONNECTING → state ≠ COPY →
        key.fd = t.conn.clientFd := by
    intro state hState hConnecting hCopying
    apply hFd
    · rw [hState]
      exact fun hBad => hConnecting (Option.some.inj hBad)
    · rw [hState]
      exact fun hBad => hCopying (Option.some.inj hBad)
  cases hHeading with
  | stay _ hState hNext hShape =>
      rw [jump_stays hSocks (Nat.le_trans hNext (by decide))
        hState]
      exact ⟨.stay next hState hNext, h,
        Or.inl ⟨hNext, hState, hShape⟩⟩
  | helloWrite hState hOrigin hClient hHello =>
      refine jumps_plain key a h hSocks (by decide) (by simp)
        (by rw [hState]; decide) ?_ ?_ ?_
      · exact fun hBad => nomatch hState.symm.trans hBad
      · exact fun hBad => absurd hBad (by decide)
      · exact fun parser _ =>
          .helloWrite rfl hOrigin hClient hHello
  | userpassRead hState hOrigin hClient =>
      exact jumps_userpassRead key a h hSocks hState hOrigin
        hClient
  | userpassWrite hState hOrigin hClient =>
      refine jumps_plain key a h hSocks (by decide) (by simp)
        (by rw [hState]; decide) ?_ ?_ ?_
      · exact fun hBad => nomatch hState.symm.trans hBad
      · exact fun hBad => absurd hBad (by decide)
      · exact fun parser _ =>
          .userpassWrite rfl hOrigin hClient
  | requestRead hState hOrigin hClient =>
      have hSlot : key.fd = t.conn.clientFd :=
        hState.elim
          (fun hHello => hKey _ hHello (by decide) (by decide))
          fun hUser => hKey _ hUser (by decide) (by decide)
      exact jumps_requestRead key a h hSound hSocks hState
        hOrigin hSlot hClient
  | resolving hState hOrigin hClient p hParser hType =>
      refine jumps_plain key a h hSocks (by decide) (by simp)
        (by rw [hState]; decide) (fun _ => ⟨p, hParser⟩) ?_ ?_
      · exact fun _ => ⟨by rw [hState]; decide, p, hParser,
          hType⟩
      · exact fun parser hSame => .resolving rfl hOrigin
          hClient p ((hSame rfl).trans hParser)
  | connecting hState hParser hOrigin interest hClient =>
      have hSlot : key.fd = t.conn.clientFd :=
        hState.elim
          (fun hRead => hKey _ hRead (by decide) (by decide))
          fun hResolv => hKey _ hResolv (by decide) (by decide)
      exact jumps_connecting a h hSound hSocks hState hParser
        hOrigin hData hSlot hClient
  | requestWrite hState hParser hClient hOrigin =>
      have hNe : t.conn.current ≠ some REQUEST_WRITE := by
        rcases hState with hState | hState | hState
        all_goals (rw [hState]; decide)
      refine jumps_plain key a h hSocks (by decide) (by simp)
        hNe hParser ?_ ?_
      · exact fun hBad => absurd hBad (by decide)
      · exact fun parser _ =>
          .requestWrite rfl hClient hOrigin
  | copy hState hSlots =>
      exact jumps_copy key a h hSound hSocks hState hSlots
  | ends _ hNext hState hParser hSlots =>
      exact jumps_ends key a h hSocks hNext hState hParser
        hSlots

end Jumping

end Socks5d

------------------------------------------------------------
-- Closing
------------------------------------------------------------

namespace Socks5d

/- Connection `k` has closed what it had open. -/
structure Released
    (k : ConnId)
    (s t : St) : Prop where
  moves : s.srv.sel.Moves k t.srv.sel
  none : ∀ fd holder, t.srv.sel.opened fd = some holder →
    holder.conn? ≠ some k
  service : t.conn.isSocks = s.conn.isSocks
  calm : Calm s t

/- What one turn of the closing loop does. -/
structure DoneFd
    (k : ConnId)
    (fd : Fd)
    (s t : St) : Prop where
  moves : s.srv.sel.Moves k t.srv.sel
  closed : fd ≠ -1 → t.srv.sel.opened fd = Option.none
  opened : ∀ other, other ≠ fd →
    t.srv.sel.opened other = s.srv.sel.opened other
  fds : ∀ other, other ≠ fd →
    t.srv.sel.fds other = s.srv.sel.fds other
  conn : t.conn = s.conn
  fault : t.srv.fault = s.srv.fault

section Closing

variable {k : ConnId}
variable {s t u : St}
variable {fd : Fd}

theorem doneFd_done
    (fd : Fd)
    (hMine : s.srv.sel.Mine k fd)
    (hSlot : fd ≠ -1 → ∃ interest attached,
      s.srv.sel.Has fd interest attached) :
    DoneFd k fd s (doneFd fd s) := by
  unfold doneFd
  by_cases hNone : fd = -1
  · rw [if_pos hNone]
    exact ⟨.refl k _, fun h => absurd hNone h,
      fun _ _ => rfl, fun _ _ => rfl, rfl, rfl⟩
  · rw [if_neg hNone]
    rcases hSlot hNone with ⟨interest, attached, hHas⟩
    rcases unregisterFd_cases s.srv fd with
      ⟨_, hMissing⟩ | ⟨_, _, _, hDone, hClear⟩
    · exact absurd hHas (hMissing interest attached)
    · simp only [hDone, if_true]
      have hSel : (St.close { s with
          srv := (unregisterFd s.srv fd).1 } fd).srv.sel =
            (s.srv.sel.clear fd).close fd := by
        show (unregisterFd s.srv fd).1.sel.close fd = _
        rw [hClear]
      refine ⟨?_, ?_, ?_, ?_, rfl, unregisterFd_fault _ _⟩
      · rw [hSel]
        refine (Selector.Moves.clear hMine).trans
          (.close hMine ?_)
        intro item hItem
        rw [Selector.clear_fds_self] at hItem
        cases hItem
      · intro _
        rw [hSel, Selector.close_opened_self]
      · intro other hNe
        rw [hSel, Selector.close_opened_of_ne hNe]
        rfl
      · intro other hNe
        rw [hSel, Selector.close_fds,
          Selector.clear_fds_of_ne hNe]

/- `socksv5_done` closes both descriptors. -/
theorem socks_done
    (h : Handled k s u)
    (hSound : s.srv.sel.Sound)
    (hSlots : u.conn.Slotted (.socks k) u.srv.sel) :
    Released k s (socksv5Done u) ∧
      (socksv5Done u).conn = u.conn := by
  have hSound' := h.moves.sound hSound
  have hNe := h.owns.ne hSound'
  have hClient := doneFd_done u.conn.clientFd
    h.owns.mine_client (fun hFd => by
      rcases hSlots .client hFd with ⟨i, hHas⟩
      exact ⟨i, _, hHas⟩)
  have hOrigin := doneFd_done (k := k)
    (s := doneFd u.conn.clientFd u) u.conn.originFd
    (by
      intro holder hOpen
      rw [hClient.opened _ (Ne.symm hNe)] at hOpen
      exact h.owns.mine_origin hSound' holder hOpen)
    (by
      intro hFd
      rcases hSlots .origin hFd with ⟨i, hValid, hItem⟩
      refine ⟨i, .socks k, hValid, ?_⟩
      rw [hClient.fds _ (Ne.symm hNe)]
      exact hItem)
  unfold socksv5Done
  have hConn := hOrigin.conn.trans hClient.conn
  refine ⟨⟨?_, ?_, ?_, ?_⟩, hConn⟩
  · exact h.moves.trans (hClient.moves.trans hOrigin.moves)
  · intro fd holder hOpen hMine
    by_cases hIsOrigin : fd = u.conn.originFd
    · by_cases hNone : u.conn.originFd = -1
      · have hNonneg := (hOrigin.moves.sound
          (hClient.moves.sound hSound')).nonneg _ _ hOpen
        rw [hIsOrigin, hNone] at hNonneg
        exact absurd hNonneg (by decide)
      · rw [hIsOrigin, hOrigin.closed hNone] at hOpen
        cases hOpen
    · rw [hOrigin.opened fd hIsOrigin] at hOpen
      by_cases hIsClient : fd = u.conn.clientFd
      · rw [hIsClient, hClient.closed
          (h.owns.client_ne hSound')] at hOpen
        cases hOpen
      · rw [hClient.opened fd hIsClient] at hOpen
        rcases h.owns.only fd holder hOpen hMine with
          hBad | hBad
        · exact hIsClient hBad
        · exact hIsOrigin hBad
  · rw [hConn]
    exact h.service
  · intro hFault
    exact h.calm ((hOrigin.fault.trans hClient.fault).symm.trans
      hFault)

end Closing

end Socks5d

------------------------------------------------------------
-- Events
------------------------------------------------------------

namespace Socks5d

/-
  An event of a SOCKS connection: a call and a jump, and the
  connection is closed in `DONE` and `ERROR`; or a state
  without a handler.
-/
inductive SocksEvent
    (k : ConnId)
    (key : Key)
    (a : Answers)
    (s : St) : St → Prop where
  | going
      (r : St × Nat)
      (u : St)
      (hTurn : SocksTurn k key a s r)
      (hJump : SocksJump k key a r.1 r.2 u)
      (hNext : r.2 ≤ COPY) :
      SocksEvent k key a s u
  | ends
      (r : St × Nat)
      (u : St)
      (hTurn : SocksTurn k key a s r)
      (hJump : SocksJump k key a r.1 r.2 u)
      (hNext : r.2 = DONE ∨ r.2 = ERROR) :
      SocksEvent k key a s (socksv5Done u)
  | stuck
      (hWhy : RequestStarved s.conn ∨
        ConnectedAtOnce s.conn) :
      SocksEvent k key a s (s.crash .abort)

/- What an event leaves of a connection. -/
inductive Aftermath
    (k : ConnId)
    (s t : St) : Prop where
  | going
      (hKept : Handled k s t)
      (hGoing : ¬ t.conn.Closed)
      (hWired : Wired k t.srv.sel t.conn)
  | ends
      (hReleased : Released k s t)
      (hClosed : t.conn.Closed)
  | stuck
      (hEq : t = s.crash .abort)
      (hWhy : RequestStarved s.conn ∨
        ConnectedAtOnce s.conn)

section Events

variable {k : ConnId}
variable {key : Key}
variable {a : Answers}
variable {s t : St}
variable {interest : Interest}
variable {ready : StateDefinition → Option Handler}

/- A state that goes on is not a closed one. -/
theorem not_closed_of_le
    {c : Conn}
    {state : Nat}
    (hSocks : c.isSocks = true)
    (hState : c.current = some state)
    (hLe : state ≤ COPY) : ¬ c.Closed := by
  unfold Conn.Closed Conn.doneState Conn.errorState
  rw [hState, hSocks]
  rintro (hDone | hError)
  · rw [Option.some.inj hDone] at hLe
    exact absurd hLe (by decide)
  · rw [Option.some.inj hError] at hLe
    exact absurd hLe (by decide)

/- The first event starts the machine. -/
theorem socks_first
    (hOwns : Owns k s.srv.sel s.conn)
    (hSocks : s.conn.isSocks = true)
    (hShape : SocksShape k s.srv.sel s.conn)
    (hAuth : s.srv.authMethod =
        methodNoAuthenticationRequired ∨
      s.srv.authMethod = methodUsernamePassword)
    (key : Key)
    (a : Answers) :
    (s.conn.current ≠ none ∧
        handleFirst clientStatbl key a s = s) ∨
      (s.conn.current = none ∧
        handleFirst clientStatbl key a s =
          helloReadInit key a (entered HELLO_READ s) ∧
        Handled k s (handleFirst clientStatbl key a s) ∧
        SocksShape k
          (handleFirst clientStatbl key a s).srv.sel
          (handleFirst clientStatbl key a s).conn) := by
  by_cases hState : s.conn.current = none
  · right
    have hFirst : handleFirst clientStatbl key a s =
        helloReadInit key a (entered HELLO_READ s) := by
      rw [handleFirst_eq rfl, if_pos hState]
    have hKept : Handled k s (entered HELLO_READ s) :=
      (Handled.refl hOwns).of_eq rfl rfl rfl rfl id
    have hSlots : s.conn.originFd = -1 ∧
        s.srv.sel.Has s.conn.clientFd opRead (.socks k) := by
      cases hShape with
      | fresh _ hOrigin hClient => exact ⟨hOrigin, hClient⟩
      | helloRead hOther
      | helloWrite hOther
      | userpassRead hOther
      | userpassWrite hOther
      | requestRead hOther
      | requestStarved hOther
      | resolving hOther
      | connecting hOther
      | connectFailed hOther
      | connectedAtOnce hOther
      | requestWrite hOther
      | copy hOther =>
          rw [hState] at hOther
          cases hOther
    refine ⟨hState, hFirst, ?_⟩
    rw [hFirst]
    unfold helloReadInit
    split
    · refine ⟨hKept.of_eq rfl rfl rfl rfl id, ?_⟩
      refine .helloRead rfl hSlots.1 hSlots.2 ⟨?_, Or.inl rfl⟩
      show (if s.conn.isSocks = true then _ else _) = _ ∨
        (if s.conn.isSocks = true then _ else _) = _
      rw [if_pos hSocks]
      exact hAuth
    · refine ⟨hKept.of_eq rfl rfl rfl rfl id, ?_⟩
      exact .helloRead rfl hSlots.1 hSlots.2
        ⟨Or.inl rfl, Or.inl rfl⟩
  · left
    exact ⟨hState, by
      unfold handleFirst
      rw [if_neg hState]⟩

/-
  How an event after the start of the machine is served: a
  handler of the state is called, or there is none.
-/
inductive Served
    (ready : StateDefinition → Option Handler)
    (k : ConnId)
    (key : Key)
    (a : Answers)
    (s : St) : Prop where
  | picks
      (hKept : Handled k s (handleFirst clientStatbl key a s))
      (hPicks : Picks ready k key a
        (handleFirst clientStatbl key a s))
  | stuck
      (hSame : handleFirst clientStatbl key a s = s)
      (hStuck : Stuck ready s)

/- What `stm_handler_read` and its siblings leave. -/
theorem Picks.handled
    (hSound : s.srv.sel.Sound)
    (hSocks : s.conn.isSocks = true)
    (hData : key.data = k)
    (hKept : Handled k s (handleFirst clientStatbl key a s))
    (hPicks : Picks ready k key a
      (handleFirst clientStatbl key a s)) :
    ∃ r, SocksTurn k key a (handleFirst clientStatbl key a s)
        r ∧
      SocksJump k key a r.1 r.2
        (stmHandler ready clientStatbl key a s).1 ∧
      (stmHandler ready clientStatbl key a s).2 = r.2 ∧
      Handled k s (stmHandler ready clientStatbl key a s).1 ∧
      Landed k (stmHandler ready clientStatbl key a s).1
        r.2 := by
  rcases hPicks with ⟨onReady, hReady, hTurn⟩
  have hSound' := hKept.moves.sound hSound
  have hSocks' := hKept.service.trans hSocks
  have hCall := hTurn.heading hSound' hKept.owns hSocks'
  have hCurrent := hTurn.current hSound' hKept.owns
  have hAll := hKept.trans hCall.1
  rcases socks_jump key a hAll hSound
      (hCall.1.service.trans hSocks') hCall.2 hData
      (by
        rw [hCurrent, hCall.1.client]
        exact hTurn.key_client) with
    ⟨hJump, hLeft, hLanded⟩
  unfold stmHandler
  simp only [hReady]
  exact ⟨_, hTurn, hJump, rfl, hLeft, hLanded⟩

/- An event whose handler is called. -/
theorem SocksEvent.of_picks
    (hSound : s.srv.sel.Sound)
    (hSocks : s.conn.isSocks = true)
    (hData : key.data = k)
    (hKept : Handled k s (handleFirst clientStatbl key a s))
    (hPicks : Picks ready k key a
      (handleFirst clientStatbl key a s)) :
    SocksEvent k key a (handleFirst clientStatbl key a s)
        (socksv5Event ready key a s) ∧
      Aftermath k s (socksv5Event ready key a s) := by
  rcases hPicks.handled hSound hSocks hData hKept with
    ⟨r, hTurn, hJump, hEq, hLeft, hLanded⟩
  have hSocksLeft := hLeft.service.trans hSocks
  unfold socksv5Event
  simp only [hEq]
  rcases hLanded with ⟨hNext, hState, hShape⟩ |
    ⟨hNext, hState, hSlots⟩
  · have hNot : ¬ (r.2 = ERROR ∨ r.2 = DONE) := by
      rintro (hError | hDone)
      · rw [hError] at hNext
        exact absurd hNext (by decide)
      · rw [hDone] at hNext
        exact absurd hNext (by decide)
    rw [if_neg hNot]
    refine ⟨.going _ _ hTurn hJump hNext, .going hLeft ?_ ?_⟩
    · exact not_closed_of_le hSocksLeft hState hNext
    · refine ⟨hLeft.owns, fun _ => hShape, ?_⟩
      intro hMng
      rw [hSocksLeft] at hMng
      cases hMng
  · rw [if_pos hNext.symm]
    rcases socks_done hLeft hSound hSlots with
      ⟨hReleased, hConn⟩
    refine ⟨.ends _ _ hTurn hJump hNext,
      .ends hReleased ?_⟩
    rw [hConn]
    unfold Conn.Closed Conn.doneState Conn.errorState
    rw [hState, hSocksLeft]
    rcases hNext with hDone | hError
    · rw [hDone]
      exact Or.inl rfl
    · rw [hError]
      exact Or.inr rfl

/- An event that finds no handler. -/
theorem SocksEvent.of_stuck
    (hStarted : handleFirst clientStatbl key a s = s)
    (hStuck : Stuck ready s) :
    SocksEvent k key a s (socksv5Event ready key a s) ∧
      Aftermath k s (socksv5Event ready key a s) := by
  have hEvent : socksv5Event ready key a s =
      s.crash .abort := by
    unfold socksv5Event stmHandler
    simp only [hStarted, hStuck.1]
    rfl
  rw [hEvent]
  exact ⟨.stuck hStuck.2, .stuck rfl hStuck.2⟩

/- Either way the event is one of those described above. -/
theorem Served.event
    (h : Served ready k key a s)
    (hSound : s.srv.sel.Sound)
    (hSocks : s.conn.isSocks = true)
    (hData : key.data = k) :
    SocksEvent k key a (handleFirst clientStatbl key a s)
        (socksv5Event ready key a s) ∧
      Aftermath k s (socksv5Event ready key a s) := by
  cases h with
  | picks hKept hPicks =>
      exact SocksEvent.of_picks hSound hSocks hData hKept
        hPicks
  | stuck hSame hStuck =>
      rw [hSame]
      exact SocksEvent.of_stuck hSame hStuck

end Events

end Socks5d

namespace Socks5d

section Serving

variable {k : ConnId}
variable {key : Key}
variable {s : St}
variable {interest : Interest}

/- An event after the machine has started, if it has to. -/
theorem socks_served
    {ready : StateDefinition → Option Handler}
    (hSound : s.srv.sel.Sound)
    (hOwns : Owns k s.srv.sel s.conn)
    (hSocks : s.conn.isSocks = true)
    (hShape : SocksShape k s.srv.sel s.conn)
    (hAuth : s.srv.authMethod =
        methodNoAuthenticationRequired ∨
      s.srv.authMethod = methodUsernamePassword)
    (hKey : Keyed k key s interest)
    (a : Answers)
    (hServed : ∀ t : St, t.srv.sel.Sound →
      Owns k t.srv.sel t.conn →
      SocksShape k t.srv.sel t.conn →
      t.conn.current ≠ none →
      Keyed k key t interest →
      (t = s ∨ t.conn.current = some HELLO_READ) →
        Picks ready k key a t ∨ Stuck ready t)
    (hHello : s.conn.current = none →
      ready (clientStatbl HELLO_READ) ≠ none) :
    Served ready k key a s := by
  rcases socks_first hOwns hSocks hShape hAuth key a with
    ⟨hSome, hSame⟩ | ⟨hNone, hFirst, hKept, hStarted⟩
  · rcases hServed s hSound hOwns hShape hSome hKey
        (Or.inl rfl) with hPicks | hStuck
    · exact .picks (hSame.symm ▸ .refl hOwns)
        (hSame.symm ▸ hPicks)
    · exact .stuck hSame hStuck
  · have hSel : (handleFirst clientStatbl key a s).srv.sel =
        s.srv.sel := by
      rw [hFirst]
      unfold helloReadInit
      split <;> rfl
    have hFds : (handleFirst clientStatbl key a
          s).conn.clientFd = s.conn.clientFd ∧
        (handleFirst clientStatbl key a s).conn.originFd =
          s.conn.originFd := by
      rw [hFirst]
      unfold helloReadInit
      split <;> exact ⟨rfl, rfl⟩
    have hCurrent : (handleFirst clientStatbl key a
        s).conn.current = some HELLO_READ := by
      rw [hFirst]
      unfold helloReadInit
      split <;> rfl
    have hKey' : Keyed k key
        (handleFirst clientStatbl key a s) interest := by
      refine ⟨hKey.data, ?_, ?_⟩
      · rw [hFds.1, hFds.2]
        exact hKey.fd
      · rw [hSel]
        exact hKey.slot
    rcases hServed _ (hKept.moves.sound hSound) hKept.owns
        hStarted (by rw [hCurrent]; decide) hKey'
        (Or.inr hCurrent) with hPicks | hStuck
    · exact .picks hKept hPicks
    · have hNo := hStuck.1
      rw [hCurrent] at hNo
      exact absurd hNo (hHello hNone)

theorem socks_read
    (hSound : s.srv.sel.Sound)
    (hOwns : Owns k s.srv.sel s.conn)
    (hSocks : s.conn.isSocks = true)
    (hShape : SocksShape k s.srv.sel s.conn)
    (hAuth : s.srv.authMethod =
        methodNoAuthenticationRequired ∨
      s.srv.authMethod = methodUsernamePassword)
    (hKey : Keyed k key s interest)
    (hReady : interest.read = true)
    (a : Answers) :
    Served StateDefinition.onReadReady k key a s := by
  refine socks_served hSound hOwns hSocks hShape hAuth hKey a
    ?_ ?_
  · intro t hSound' hOwns' hShape' hSome hKey' _
    exact socks_picks_read hSound' hOwns' hShape' hSome hKey'
      hReady a
  · intro _ hNo
    cases hNo

theorem socks_write
    (hSound : s.srv.sel.Sound)
    (hOwns : Owns k s.srv.sel s.conn)
    (hSocks : s.conn.isSocks = true)
    (hShape : SocksShape k s.srv.sel s.conn)
    (hAuth : s.srv.authMethod =
        methodNoAuthenticationRequired ∨
      s.srv.authMethod = methodUsernamePassword)
    (hKey : Keyed k key s interest)
    (hReady : interest.write = true)
    (a : Answers) :
    Served StateDefinition.onWriteReady k key a s := by
  refine socks_served hSound hOwns hSocks hShape hAuth hKey a
    ?_ ?_
  · intro t hSound' hOwns' hShape' hSome hKey' _
    exact socks_picks_write hSound' hOwns' hShape' hSome
      hKey' hReady a
  · intro hNone _
    cases hShape with
    | fresh _ hOrigin hClient =>
        rw [hKey.interest_alone hOrigin hClient] at hReady
        cases hReady
    | helloRead hOther
    | helloWrite hOther
    | userpassRead hOther
    | userpassWrite hOther
    | requestRead hOther
    | requestStarved hOther
    | resolving hOther
    | connecting hOther
    | connectFailed hOther
    | connectedAtOnce hOther
    | requestWrite hOther
    | copy hOther =>
        rw [hNone] at hOther
        cases hOther

theorem socks_block
    (hOwns : Owns k s.srv.sel s.conn)
    (hShape : SocksShape k s.srv.sel s.conn)
    (hState : s.conn.current = some REQUEST_RESOLV)
    (hFd : key.fd = s.conn.clientFd)
    (a : Answers) :
    handleFirst clientStatbl key a s = s ∧
      Served StateDefinition.onBlockReady k key a s := by
  have hSome : s.conn.current ≠ none := by
    rw [hState]
    exact Option.some_ne_none _
  have hSame : handleFirst clientStatbl key a s = s := by
    unfold handleFirst
    rw [if_neg hSome]
  refine ⟨hSame, .picks ?_ ?_⟩
  · rw [hSame]
    exact .refl hOwns
  · rw [hSame]
    exact socks_picks_block hShape hState hFd a

end Serving

end Socks5d
