import Socks5d.EventWiring

/-
  Events of a management connection keep its slot as it
  should be.

  Main declarations:
    * `MngFrame`, `MngCall`
    * `MngTurn`, `MngJump`
    * `MngEvent`, `MngServed`
    * `mng_read`, `mng_write`
-/

------------------------------------------------------------
-- Handlers Of Management Requests
------------------------------------------------------------

namespace Socks5d

/- An event that a management request may log. -/
def Ev.ofMng : Ev → Prop
| .recv _ _ => True
| .eof _ _ => True
| .send _ _ => True
| .sendError _ => True
| .outOfMemory _ => True
| _ => False

/-
  What the handlers of management requests leave alone, apart
  from the slot of their client.
-/
structure MngFrame (s t : St) : Prop where
  client : t.conn.clientFd = s.conn.clientFd
  origin : t.conn.originFd = s.conn.originFd
  service : t.conn.isSocks = s.conn.isSocks
  current : t.conn.current = s.conn.current
  authentication :
    t.conn.authentication = s.conn.authentication
  admins : t.srv.admins = s.srv.admins
  authMethod : t.srv.authMethod = s.srv.authMethod ∨
    t.srv.authMethod = methodNoAuthenticationRequired ∨
    t.srv.authMethod = methodUsernamePassword
  threads : t.srv.threads = s.srv.threads
  jobs : t.srv.jobs = s.srv.jobs
  lost : t.srv.lost = s.srv.lost
  references : t.srv.references = s.srv.references
  handedBack : t.srv.handedBack = s.srv.handedBack
  metrics : t.srv.metrics = s.srv.metrics
  calm : Calm s t
  log : ∃ events, t.conn.log = s.conn.log ++ events ∧
    ∀ event ∈ events, event.ofMng

namespace MngFrame

variable {s t u : St}

theorem refl
    (s : St) : MngFrame s s where
  client := rfl
  origin := rfl
  service := rfl
  current := rfl
  authentication := rfl
  admins := rfl
  authMethod := Or.inl rfl
  threads := rfl
  jobs := rfl
  lost := rfl
  references := rfl
  handedBack := rfl
  metrics := rfl
  calm := id
  log := ⟨[], by simp, fun _ hEvent => nomatch hEvent⟩

theorem trans
    (h : MngFrame s t)
    (h' : MngFrame t u) : MngFrame s u where
  client := h'.client.trans h.client
  origin := h'.origin.trans h.origin
  service := h'.service.trans h.service
  current := h'.current.trans h.current
  authentication := h'.authentication.trans h.authentication
  admins := h'.admins.trans h.admins
  authMethod := by
    rcases h'.authMethod with hSame | hSet
    · rw [hSame]
      exact h.authMethod
    · exact Or.inr hSet
  threads := h'.threads.trans h.threads
  jobs := h'.jobs.trans h.jobs
  lost := h'.lost.trans h.lost
  references := h'.references.trans h.references
  handedBack := h'.handedBack.trans h.handedBack
  metrics := h'.metrics.trans h.metrics
  calm := fun hFault => h.calm (h'.calm hFault)
  log := by
    rcases h.log with ⟨first, hFirst, hMng⟩
    rcases h'.log with ⟨second, hSecond, hMng'⟩
    refine ⟨first ++ second, ?_, ?_⟩
    · rw [hSecond, hFirst, List.append_assoc]
    · intro event hEvent
      rcases List.mem_append.mp hEvent with hOld | hNew
      · exact hMng event hOld
      · exact hMng' event hNew

/- Requests, buffers and the history may change. -/
theorem of_conn
    (s : St)
    (sel : Selector)
    (rb wb : Buffer rawBuffSize)
    (m : MngRequestSt)
    (events : List Ev)
    (hEvents : ∀ event ∈ events, event.ofMng) :
    MngFrame s { s with
      srv.sel := sel
      conn.readBuffer := rb
      conn.writeBuffer := wb
      conn.mngRequest := m
      conn.log := s.conn.log ++ events } :=
  ⟨rfl, rfl, rfl, rfl, rfl, rfl, Or.inl rfl, rfl, rfl, rfl,
    rfl, rfl, rfl, id, ⟨events, rfl, hEvents⟩⟩

/- So may what all connections share. -/
theorem of_srv
    (s : St)
    (users : UserTable)
    (authMethod passwordDissectors : UInt8)
    (hAuth : authMethod = s.srv.authMethod ∨
      authMethod = methodNoAuthenticationRequired ∨
      authMethod = methodUsernamePassword) :
    MngFrame s { s with
      srv.users := users
      srv.authMethod := authMethod
      srv.passwordDissectors := passwordDissectors } :=
  ⟨rfl, rfl, rfl, rfl, rfl, rfl, hAuth, rfl, rfl, rfl, rfl,
    rfl, rfl, id,
    ⟨[], by simp, fun _ hEvent => nomatch hEvent⟩⟩

/- The process may end, but not by `abort`. -/
theorem of_crash
    (s : St)
    {fault : Fault}
    (hFault : fault ≠ .abort) : MngFrame s (s.crash fault) :=
  ⟨rfl, rfl, rfl, rfl, rfl, rfl, Or.inl rfl, rfl, rfl, rfl,
    rfl, rfl, rfl, calm_crash s hFault,
    ⟨[], by simp [St.crash], fun _ hEvent => nomatch hEvent⟩⟩

end MngFrame

section Marshalling

variable {s : St}

theorem marshal_frame
    (s : St)
    (need : Nat)
    (bytes : List UInt8) :
    MngFrame s (marshal s need bytes) ∧
      (marshal s need bytes).srv.sel = s.srv.sel ∧
      (marshal s need bytes).conn.mngRequest =
        s.conn.mngRequest := by
  unfold marshal
  split
  · exact ⟨.refl s, rfl, rfl⟩
  · exact ⟨⟨rfl, rfl, rfl, rfl, rfl, rfl, Or.inl rfl, rfl,
      rfl, rfl, rfl, rfl, rfl, id, ⟨[], by simp,
        fun _ hEvent => nomatch hEvent⟩⟩, rfl, rfl⟩

theorem listUsers_frame
    (s : St) :
    MngFrame s (listUsersMngRequestMarshall s) ∧
      (listUsersMngRequestMarshall s).srv.sel = s.srv.sel ∧
      (listUsersMngRequestMarshall s).conn.mngRequest =
        s.conn.mngRequest := by
  unfold listUsersMngRequestMarshall
  simp only []
  split
  · split
    · exact ⟨.of_crash s (by decide), rfl, rfl⟩
    · exact marshal_frame _ _ _
  · exact ⟨.refl s, rfl, rfl⟩

/- The index decides where `process_mng_index` goes. -/
theorem processMngIndex_frame
    (s : St)
    (index : MngIndex) :
    MngFrame s (processMngIndex s index).1 ∧
      (processMngIndex s index).1.srv.sel = s.srv.sel ∧
      (processMngIndex s index).1.conn.mngRequest =
        s.conn.mngRequest ∧
      ((processMngIndex s index).2 = MNG_REQUEST_WRITE ∨
        ((processMngIndex s index).2 = MNG_REQUEST_READ ∧
          (index = MngIndex.addUser ∨
            index = MngIndex.deleteUser ∨
            index = MngIndex.disableAuth ∨
            index = MngIndex.disablePasswordDissectors)) ∨
        (processMngIndex s index).2 = MNG_ERROR) := by
  unfold processMngIndex
  simp only []
  split
  · exact ⟨(marshal_frame _ _ _).1, (marshal_frame _ _ _).2.1,
      (marshal_frame _ _ _).2.2, Or.inl rfl⟩
  · exact ⟨(listUsers_frame _).1, (listUsers_frame _).2.1,
      (listUsers_frame _).2.2, Or.inl rfl⟩
  all_goals first
    | exact ⟨(marshal_frame _ _ _).1,
        (marshal_frame _ _ _).2.1,
        (marshal_frame _ _ _).2.2, Or.inl rfl⟩
    | exact ⟨.refl s, rfl, rfl,
        Or.inr (Or.inl ⟨rfl, by simp⟩)⟩
    | exact ⟨.refl s, rfl, rfl, Or.inr (Or.inr rfl)⟩

theorem processMngParamsRequest_frame
    (s : St) :
    MngFrame s (processMngParamsRequest s) ∧
      (processMngParamsRequest s).srv.sel = s.srv.sel := by
  unfold processMngParamsRequest
  simp only []
  split
  · split
    · exact ⟨(marshal_frame _ _ _).1,
        (marshal_frame _ _ _).2.1⟩
    · exact ⟨(MngFrame.of_srv s _ _ _ (Or.inl rfl)).trans
          (marshal_frame _ _ _).1, (marshal_frame _ _ _).2.1⟩
  · split
    · exact ⟨.of_crash s (by decide), rfl⟩
    · exact ⟨(MngFrame.of_srv s _ _ _ (Or.inl rfl)).trans
          (marshal_frame _ _ _).1, (marshal_frame _ _ _).2.1⟩
  · refine ⟨(MngFrame.of_srv s s.srv.users _
          s.srv.passwordDissectors (Or.inr ?_)).trans
        (marshal_frame _ _ _).1, (marshal_frame _ _ _).2.1⟩
    unfold disableAuth
    split
    · exact Or.inr rfl
    · exact Or.inl rfl
  · exact ⟨(MngFrame.of_srv s _ _ _ (Or.inl rfl)).trans
        (marshal_frame _ _ _).1, (marshal_frame _ _ _).2.1⟩
  · exact ⟨(marshal_frame _ _ _).1,
      (marshal_frame _ _ _).2.1⟩

end Marshalling

/- What a handler of management requests leaves. -/
inductive MngCall
    (key : Key)
    (attached : Attachment)
    (s : St) : St × Nat → Prop where
  | stay
      (t : St)
      (next : Nat)
      (hFrame : MngFrame s t)
      (hSel : t.srv.sel = s.srv.sel)
      (hNext : s.conn.current = some next) :
      MngCall key attached s (t, next)
  | writes
      (t : St)
      (hFrame : MngFrame s t)
      (hSel : t.srv.sel =
        s.srv.sel.put key.fd ⟨opWrite, attached⟩) :
      MngCall key attached s (t, MNG_REQUEST_WRITE)
  | reads
      (t : St)
      (hFrame : MngFrame s t)
      (hSel : t.srv.sel =
        s.srv.sel.put key.fd ⟨opRead, attached⟩)
      (hIndex : t.conn.mngRequest.index = MngIndex.addUser ∨
        t.conn.mngRequest.index = MngIndex.deleteUser ∨
        t.conn.mngRequest.index = MngIndex.disableAuth ∨
        t.conn.mngRequest.index =
          MngIndex.disablePasswordDissectors) :
      MngCall key attached s (t, MNG_REQUEST_READ)
  | ends
      (t : St)
      (next : Nat)
      (hNext : next = MNG_DONE ∨ next = MNG_ERROR)
      (hFrame : MngFrame s t)
      (hSel : t.srv.sel = s.srv.sel ∨ t.srv.sel =
        s.srv.sel.put key.fd ⟨opWrite, attached⟩) :
      MngCall key attached s (t, next)

section Requests

variable {key : Key}
variable {s t : St}
variable {interest : Interest}
variable {attached : Attachment}

theorem setInterestKey_eq
    (hHas : s.srv.sel.Has key.fd interest attached)
    (hSel : t.srv.sel = s.srv.sel)
    (wanted : Interest)
    (next : Nat) :
    setInterestKey key wanted next t =
      (t.arm key.fd wanted attached, next) := by
  have hHas' : t.srv.sel.Has key.fd interest attached := by
    rw [hSel]
    exact hHas
  unfold setInterestKey
  rw [St.setInterest_of_has hHas']
  rfl

/- Arming a slot changes nothing else. -/
theorem MngFrame.arm
    (h : MngFrame s t)
    (fd : Fd)
    (wanted : Interest)
    (attached : Attachment) :
    MngFrame s (t.arm fd wanted attached) :=
  h.trans ⟨rfl, rfl, rfl, rfl, rfl, rfl, Or.inl rfl, rfl,
    rfl, rfl, rfl, rfl, rfl, id, ⟨[], by simp,
      fun _ hEvent => nomatch hEvent⟩⟩

theorem mngRefuse_call
    (hHas : s.srv.sel.Has key.fd interest attached)
    (h : MngFrame s t)
    (hSel : t.srv.sel = s.srv.sel)
    (status : MngReplyStatus) :
    MngCall key attached s (mngRefuse key status t) := by
  have hMarshal := marshal_frame
    { t with conn.mngRequest.status := status } 1
    [status.code]
  unfold mngRefuse statusMngMarshal
  rw [setInterestKey_eq hHas (hMarshal.2.1.trans hSel)]
  refine .writes _ (MngFrame.arm ?_ _ _ _) ?_
  · refine h.trans (MngFrame.trans ?_ hMarshal.1)
    exact ⟨rfl, rfl, rfl, rfl, rfl, rfl, Or.inl rfl, rfl, rfl,
      rfl, rfl, rfl, rfl, id, ⟨[], by simp,
        fun _ hEvent => nomatch hEvent⟩⟩
  · rw [St.arm_sel, hMarshal.2.1, hSel]

/- One event of the history is for these handlers. -/
theorem Ev.ofMng_single
    {event : Ev}
    (h : event.ofMng) :
    ∀ other ∈ [event], other.ofMng := by
  intro other hOther
  rw [List.mem_singleton.mp hOther]
  exact h

theorem note_frame
    (s : St)
    {event : Ev}
    (h : event.ofMng) : MngFrame s (s.note event) :=
  MngFrame.of_conn s s.srv.sel _ _ _ [event]
    (Ev.ofMng_single h)

theorem mngRequestIndexRead_call
    (hHas : s.srv.sel.Has key.fd interest attached)
    (hState : s.conn.current = some MNG_REQUEST_READ_INDEX)
    (a : Answers) :
    MngCall key attached s (mngRequestIndexRead key a s) := by
  unfold mngRequestIndexRead
  split
  · exact mngRefuse_call hHas (.refl s) rfl _
  split
  · exact mngRefuse_call hHas (.refl s) rfl _
  simp only []
  split
  · exact .ends _ _ (Or.inr rfl) (note_frame s trivial)
      (Or.inl rfl)
  generalize consume (s.conn.readBuffer.writeAdv
    ((a.recv.getD []).take 1)) s.conn.mngRequest.parser = fed
  have hRead : ∀ m, MngFrame s (St.note { s with
        conn.readBuffer := fed.buffer
        conn.mngRequest := m }
      (.recv (s.conn.sideOf key.fd)
        ((a.recv.getD []).take 1))) := fun m =>
    MngFrame.of_conn s s.srv.sel _ _ m [_]
      (Ev.ofMng_single trivial)
  split
  · split
    · exact mngRefuse_call hHas (hRead _) rfl _
    · generalize hIndex : ((fed.parser.resultAt 0).getD
        []).getD 0 0 = index
      have hProcess := processMngIndex_frame
        { St.note { s with
              conn.readBuffer := fed.buffer
              conn.mngRequest.parser := fed.parser }
            (.recv (s.conn.sideOf key.fd)
              ((a.recv.getD []).take 1)) with
          conn.mngRequest.index := index } index
      rcases hProcess with
        ⟨hFrame, hSel, hRequest, hWrite | ⟨hReads, hMembers⟩
          | hError⟩
      · rw [if_pos hWrite, hWrite,
          setInterestKey_eq hHas hSel]
        refine .writes _ (((hRead _).trans hFrame).arm _ _ _)
          ?_
        rw [St.arm_sel, hSel]
        rfl
      · rw [if_neg (by rw [hReads]; decide), if_pos hReads,
          hReads, setInterestKey_eq hHas hSel]
        refine .reads _ (((hRead _).trans hFrame).arm _ _ _)
          ?_ ?_
        · rw [St.arm_sel, hSel]
          rfl
        · rw [St.arm_conn, hRequest]
          exact hMembers
      · rw [if_neg (by rw [hError]; decide),
          if_neg (by rw [hError]; decide)]
        have hOver : MngCall key attached s (_, _) :=
          .ends _ _ (Or.inr hError)
            ((hRead _).trans hFrame) (Or.inl hSel)
        exact hOver
  · exact .stay _ _ (hRead _) rfl hState

theorem mngRequestRead_call
    (hHas : s.srv.sel.Has key.fd interest attached)
    (hState : s.conn.current = some MNG_REQUEST_READ)
    (a : Answers) :
    MngCall key attached s (mngRequestRead key a s) := by
  unfold mngRequestRead
  split
  · exact mngRefuse_call hHas (.refl s) rfl _
  simp only []
  split
  · exact .ends _ _ (Or.inr rfl) (note_frame s trivial)
      (Or.inl rfl)
  generalize consume (s.conn.readBuffer.writeAdv
    (s.recvBytes a)) s.conn.mngRequest.parser = fed
  have hRead : ∀ m, MngFrame s (St.note { s with
        conn.readBuffer := fed.buffer
        conn.mngRequest := m }
      (.recv (s.conn.sideOf key.fd) (s.recvBytes a))) :=
    fun m => MngFrame.of_conn s s.srv.sel _ _ m [_]
      (Ev.ofMng_single trivial)
  split
  · have hSet := St.setInterest_of_has
      (s := St.note { s with
          conn.readBuffer := fed.buffer
          conn.mngRequest.parser := fed.parser }
        (.recv (s.conn.sideOf key.fd) (s.recvBytes a)))
      hHas opWrite
    simp only [hSet, if_true]
    have hArmed := (hRead { s.conn.mngRequest with
      parser := fed.parser }).arm key.fd opWrite attached
    split
    · exact .ends _ _ (Or.inr rfl) hArmed (Or.inr rfl)
    · have hProcess := processMngParamsRequest_frame
        ((St.note { s with
            conn.readBuffer := fed.buffer
            conn.mngRequest.parser := fed.parser }
          (.recv (s.conn.sideOf key.fd)
            (s.recvBytes a))).arm key.fd opWrite attached)
      exact .writes _ (hArmed.trans hProcess.1)
        (hProcess.2.trans rfl)
  · exact .stay _ _ (hRead _) rfl hState

theorem mngRequestWrite_call
    (hState : s.conn.current = some MNG_REQUEST_WRITE)
    (a : Answers) :
    MngCall key attached s (mngRequestWrite key a s) := by
  unfold mngRequestWrite
  cases a.send with
  | none =>
      exact .ends _ _ (Or.inr rfl) (note_frame s trivial)
        (Or.inl rfl)
  | some n =>
      have hSent : MngFrame s (sendPending key n s) :=
        MngFrame.of_conn s s.srv.sel _ _ _ [_]
          (Ev.ofMng_single trivial)
      simp only []
      split
      · exact .stay _ _ hSent rfl hState
      · exact .ends _ _ (Or.inl rfl) hSent (Or.inl rfl)

end Requests

end Socks5d

------------------------------------------------------------
-- What A Handler Call Is
------------------------------------------------------------

namespace Socks5d

/- The handlers of the three request states. -/
inductive MngHandled
    (key : Key)
    (a : Answers)
    (s : St) : Nat → St × Nat → Prop where
  | index : MngHandled key a s MNG_REQUEST_READ_INDEX
      (mngRequestIndexRead key a s)
  | params : MngHandled key a s MNG_REQUEST_READ
      (mngRequestRead key a s)
  | answer : MngHandled key a s MNG_REQUEST_WRITE
      (mngRequestWrite key a s)

/- The `on_arrival` of the two states that read requests. -/
inductive MngInit
    (key : Key)
    (a : Answers)
    (s : St) : Nat → St → Prop where
  | index : MngInit key a s MNG_REQUEST_READ_INDEX
      (mngRequestIndexInit key a
        (entered MNG_REQUEST_READ_INDEX s))
  | params : MngInit key a s MNG_REQUEST_READ
      (mngRequestInit key a (entered MNG_REQUEST_READ s))

/-
  The call that the current state picks for an event of a
  management connection, with what it returns.
-/
inductive MngTurn
    (k : ConnId)
    (key : Key)
    (a : Answers)
    (s : St) : St × Nat → Prop where
  | helloRead
      (hState : s.conn.current = some HELLO_READ)
      (hClient : s.srv.sel.Has s.conn.clientFd opRead
        (.mng k))
      (hHello : s.conn.hello.parser.Offers)
      (hMethod : s.conn.hello.parser.method =
          mngAuthMethod ∨
        s.conn.hello.failed = true)
      (r : St × Nat)
      (hCall : HelloRead key a s (.mng k) r) :
      MngTurn k key a s r
  | helloWrite
      (hState : s.conn.current = some HELLO_WRITE)
      (hClient : s.srv.sel.Has s.conn.clientFd opWrite
        (.mng k))
      (hHello : s.conn.hello.parser.Offers)
      (hMethod : s.conn.hello.parser.method = mngAuthMethod)
      (r : St × Nat)
      (hCall : HelloWrite key a s (.mng k) r) :
      MngTurn k key a s r
  | authRead
      (hState : s.conn.current = some USERPASS_READ)
      (hClient : s.srv.sel.Has s.conn.clientFd opRead
        (.mng k))
      (r : St × Nat)
      (hCall : AuthRead key a s (.mng k) r) :
      MngTurn k key a s r
  | authWrite
      (hState : s.conn.current = some USERPASS_WRITE)
      (hClient : s.srv.sel.Has s.conn.clientFd opWrite
        (.mng k))
      (r : St × Nat)
      (hCall : AuthWrite key a s (.mng k) r) :
      MngTurn k key a s r
  | request
      (state : Nat)
      (hState : s.conn.current = some state)
      (hRequest : state = MNG_REQUEST_READ_INDEX ∨
        state = MNG_REQUEST_READ ∨
        state = MNG_REQUEST_WRITE)
      (hShape : MngShape k s.srv.sel s.conn)
      (r : St × Nat)
      (hCall : MngCall key (.mng k) s r)
      (hHandled : MngHandled key a s state r)
      (hFd : key.fd = s.conn.clientFd) :
      MngTurn k key a s r

/- What `jump` does for a management connection. -/
inductive MngJump
    (key : Key)
    (a : Answers)
    (s : St) : Nat → St → Prop where
  | stay
      (next : Nat)
      (hState : s.conn.current = some next)
      (hNext : next ≤ MNG_REQUEST_WRITE) :
      MngJump key a s next s
  /- the next state has no `on_arrival` -/
  | plain
      (next : Nat)
      (hNext : next = HELLO_WRITE ∨ next = USERPASS_WRITE ∨
        next = MNG_REQUEST_WRITE ∨ next = MNG_DONE ∨
        next = MNG_ERROR)
      (hState : s.conn.current ≠ some next)
      (fault : Option Fault)
      (hFault : TornFault s USERPASS_READ
          s.conn.userpass.torn fault ∨
        TornFault s MNG_REQUEST_READ
          s.conn.mngRequest.torn fault) :
      MngJump key a s next
        (entered next { s with srv.fault := fault })
  | userpassRead
      (hState : s.conn.current ≠ some USERPASS_READ) :
      MngJump key a s USERPASS_READ
        (authReadInit key a (entered USERPASS_READ s))
  | request
      (next : Nat)
      (hNext : next = MNG_REQUEST_READ_INDEX ∨
        next = MNG_REQUEST_READ)
      (hState : s.conn.current ≠ some next)
      (u : St)
      (hFrame : MngFrame (entered next s) u)
      (hSel : u.srv.sel = s.srv.sel)
      (hInit : MngInit key a s next u) :
      MngJump key a s next u

section Heading

variable {k data : ConnId}
variable {a : Answers}
variable {s t : St}
variable {r : St × Nat}

theorem mng_helloRead
    (hSound : s.srv.sel.Sound)
    (hOwns : Owns k s.srv.sel s.conn)
    (hMng : s.conn.isSocks = false)
    (hState : s.conn.current = some HELLO_READ)
    (hClient : s.srv.sel.Has s.conn.clientFd opRead
      (.mng k))
    (hHello : s.conn.hello.parser.Offers)
    (hMethod : s.conn.hello.parser.method = mngAuthMethod ∨
      s.conn.hello.failed = true)
    (hRead : HelloRead ⟨s.conn.clientFd, data⟩ a s (.mng k)
      r) :
    Handled k s r.1 ∧
      MngHeading k r.1.srv.sel r.1.conn r.2 := by
  have hError : s.conn.errorState = MNG_ERROR := by
    simp [Conn.errorState, hMng]
  cases hRead with
  | failed hFailed =>
      rw [hError]
      exact ⟨.refl hOwns, .over_client (Or.inr rfl) hState
        (by decide) hClient⟩
  | ended hBytes =>
      rw [hError]
      exact ⟨note_handled hOwns _, .over_client (Or.inr rfl)
        hState (by decide) hClient⟩
  | more bytes hBytes hSome hGoing =>
      refine ⟨helloFed_handled hOwns _ bytes, ?_⟩
      refine .stay HELLO_READ hState (by decide)
        (.helloRead hState hClient
          (helloFed_offers _ bytes hHello) ?_)
      rw [helloFed_method]
      exact hMethod
  | refused bytes hBytes wb =>
      have hFed := helloFed_handled hOwns
        ⟨s.conn.clientFd, data⟩ bytes
      have hArmed := armed_handled hFed hSound rfl hClient
        opWrite
      rw [hError]
      exact ⟨hArmed.1.of_eq rfl rfl rfl rfl id,
        .over_client (Or.inr rfl) hState (by decide)
          hArmed.2⟩
  | answered bytes hBytes hSome hDone hRoom hFine =>
      have hFed := helloFed_handled hOwns
        ⟨s.conn.clientFd, data⟩ bytes
      have hArmed := armed_handled hFed hSound rfl hClient
        opWrite
      refine ⟨hArmed.1.of_eq rfl rfl rfl rfl id,
        .helloWrite hState hArmed.2
          (helloFed_offers ⟨s.conn.clientFd, data⟩ bytes
            hHello) ?_⟩
      refine (helloFed_method ⟨s.conn.clientFd, data⟩ bytes
        s).trans ?_
      rcases hMethod with hUser | hFailed
      · exact hUser
      · rw [hFine] at hFailed
        cases hFailed

theorem mng_helloWrite
    (hSound : s.srv.sel.Sound)
    (hOwns : Owns k s.srv.sel s.conn)
    (hMng : s.conn.isSocks = false)
    (hState : s.conn.current = some HELLO_WRITE)
    (hClient : s.srv.sel.Has s.conn.clientFd opWrite
      (.mng k))
    (hHello : s.conn.hello.parser.Offers)
    (hMethod : s.conn.hello.parser.method = mngAuthMethod)
    (hWrite : HelloWrite ⟨s.conn.clientFd, data⟩ a s (.mng k)
      r) :
    Handled k s r.1 ∧
      MngHeading k r.1.srv.sel r.1.conn r.2 := by
  cases hWrite with
  | failed hSend =>
      rw [show s.conn.errorState = MNG_ERROR by
        simp [Conn.errorState, hMng]]
      exact ⟨note_handled hOwns _, .over_client (Or.inr rfl)
        hState (by decide) hClient⟩
  | more n hSend hLeft =>
      refine ⟨sendPending_handled hOwns _ n, ?_⟩
      exact .stay HELLO_WRITE hState (by decide)
        (.helloWrite hState hClient hHello hMethod)
  | refused n hSend hSent hNone =>
      rw [show s.conn.doneState = MNG_DONE by
        simp [Conn.doneState, hMng]]
      exact ⟨sendPending_handled hOwns _ n, .over_client
        (Or.inl rfl) hState (by decide) hClient⟩
  | userpass n hSend hSent hUser =>
      have hFed := sendPending_handled hOwns
        ⟨s.conn.clientFd, data⟩ n
      have hArmed := armed_handled hFed hSound rfl hClient
        opRead
      refine ⟨hArmed.1, .reads USERPASS_READ ?_ ?_ (by simp)
        (fun hBad => absurd hBad (by decide)) hArmed.2⟩
      · show s.conn.current ≠ _
        rw [hState]
        decide
      · show s.conn.current ≠ _ ∧ s.conn.current ≠ _
        rw [hState]
        decide
  | request n hSend hSent hOpen =>
      -- this service only looks for user and password
      rcases hHello.2 with hNone | hFound
      · rw [show s.conn.hello.method = _ from hNone] at hOpen
        exact absurd hOpen (by decide)
      · rw [show s.conn.hello.method = _ from hFound,
          hMethod] at hOpen
        exact absurd hOpen (by decide)

theorem mng_authRead
    (hSound : s.srv.sel.Sound)
    (hOwns : Owns k s.srv.sel s.conn)
    (hMng : s.conn.isSocks = false)
    (hState : s.conn.current = some USERPASS_READ)
    (hClient : s.srv.sel.Has s.conn.clientFd opRead
      (.mng k))
    (hRead : AuthRead ⟨s.conn.clientFd, data⟩ a s (.mng k)
      r) :
    Handled k s r.1 ∧
      MngHeading k r.1.srv.sel r.1.conn r.2 := by
  have hError : s.conn.errorState = MNG_ERROR := by
    simp [Conn.errorState, hMng]
  cases hRead with
  | failed hFailed =>
      rw [hError]
      exact ⟨.refl hOwns, .over_client (Or.inr rfl) hState
        (by decide) hClient⟩
  | ended hBytes =>
      rw [hError]
      exact ⟨note_handled hOwns _, .over_client (Or.inr rfl)
        hState (by decide) hClient⟩
  | more bytes hBytes hSome hGoing =>
      refine ⟨authFed_handled hOwns _ bytes, ?_⟩
      exact .stay USERPASS_READ hState (by decide)
        (.reading USERPASS_READ hState (by simp) hClient)
  | rejected bytes hBytes processed hProcess =>
      rcases authProcess_handled hSound hOwns hClient bytes
          hProcess with ⟨hKept, hHas, hSame, _, _⟩
      rw [hError]
      exact ⟨hKept, .over_client (Or.inr rfl)
        (hSame.trans hState) (by decide) hHas⟩
  | answered bytes hBytes hSome hDone processed hProcess =>
      rcases authProcess_handled hSound hOwns hClient bytes
          hProcess with ⟨hKept, hHas, hSame, _, hNext⟩
      rw [hNext]
      refine ⟨hKept, .writes USERPASS_WRITE ?_ (by simp)
        hHas⟩
      rw [hSame, hState]
      decide

theorem mng_authWrite
    (hSound : s.srv.sel.Sound)
    (hOwns : Owns k s.srv.sel s.conn)
    (hMng : s.conn.isSocks = false)
    (hState : s.conn.current = some USERPASS_WRITE)
    (hClient : s.srv.sel.Has s.conn.clientFd opWrite
      (.mng k))
    (hWrite : AuthWrite ⟨s.conn.clientFd, data⟩ a s (.mng k)
      r) :
    Handled k s r.1 ∧
      MngHeading k r.1.srv.sel r.1.conn r.2 := by
  rcases authReply_eq s with ⟨wb, hReply⟩
  have hKept := authReply_handled hOwns
  cases hWrite with
  | failed hSend =>
      rw [hReply] at hKept ⊢
      rw [show Conn.errorState _ = MNG_ERROR by
        simp [Conn.errorState, hMng]]
      exact ⟨hKept.of_eq rfl rfl rfl rfl id, .over_client
        (Or.inr rfl) hState (by decide) hClient⟩
  | more n hSend hLeft =>
      rw [hReply] at hKept ⊢
      refine ⟨hKept.of_eq rfl rfl rfl rfl id, ?_⟩
      exact .stay USERPASS_WRITE hState (by decide)
        (.writing USERPASS_WRITE hState (by simp) hClient)
  | refused n hSend hSent hDenied =>
      rw [hReply] at hKept ⊢
      rw [show Conn.doneState _ = MNG_DONE by
        simp [Conn.doneState, hMng]]
      exact ⟨hKept.of_eq rfl rfl rfl rfl id, .over_client
        (Or.inl rfl) hState (by decide) hClient⟩
  | passed n hSend hSent hPassed =>
      rw [hReply] at hKept ⊢
      have hFed : Handled k s (sendPending
          ⟨s.conn.clientFd, data⟩ n
          { s with conn.writeBuffer := wb }) :=
        hKept.of_eq rfl rfl rfl rfl id
      have hArmed := armed_handled hFed hSound rfl hClient
        opRead
      refine ⟨hArmed.1, .reads MNG_REQUEST_READ_INDEX ?_ ?_
        (by simp) (fun hBad => absurd hBad (by decide))
        hArmed.2⟩
      · show s.conn.current ≠ _
        rw [hState]
        decide
      · show s.conn.current ≠ _ ∧ s.conn.current ≠ _
        rw [hState]
        decide

/- What is known of the slot of a management request. -/
theorem MngShape.of_request
    {sel : Selector}
    {c : Conn}
    {state : Nat}
    (h : MngShape k sel c)
    (hState : c.current = some state)
    (hRequest : state = MNG_REQUEST_READ_INDEX ∨
      state = MNG_REQUEST_READ ∨
      state = MNG_REQUEST_WRITE) :
    (state ≠ MNG_REQUEST_WRITE ∧
        sel.Has c.clientFd opRead (.mng k)) ∨
      (state = MNG_REQUEST_WRITE ∧
        sel.Has c.clientFd opWrite (.mng k)) := by
  cases h with
  | fresh hOther =>
      rw [hState] at hOther
      cases hOther
  | helloRead hOther
  | helloWrite hOther =>
      have hEq := Option.some.inj (hState.symm.trans hOther)
      rw [hEq] at hRequest
      exact absurd hRequest (by decide)
  | reading other hOther hReads hClient =>
      have hEq := Option.some.inj (hState.symm.trans hOther)
      left
      refine ⟨?_, hClient⟩
      rw [hEq]
      rcases hReads with h | h | h
      all_goals (rw [h]; decide)
  | writing other hOther hWrites hClient =>
      have hEq := Option.some.inj (hState.symm.trans hOther)
      right
      refine ⟨?_, hClient⟩
      rw [hEq]
      rcases hWrites with h | h
      · rw [← hEq] at h
        rw [h] at hRequest
        exact absurd hRequest (by decide)
      · exact h

/- A handler of management requests. -/
theorem mng_request
    (hSound : s.srv.sel.Sound)
    (hOwns : Owns k s.srv.sel s.conn)
    {state : Nat}
    (hState : s.conn.current = some state)
    (hRequest : state = MNG_REQUEST_READ_INDEX ∨
      state = MNG_REQUEST_READ ∨ state = MNG_REQUEST_WRITE)
    (hShape : MngShape k s.srv.sel s.conn)
    (hCall : MngCall ⟨s.conn.clientFd, data⟩ (.mng k) s r) :
    Handled k s r.1 ∧
      MngHeading k r.1.srv.sel r.1.conn r.2 := by
  have hSlot : ∃ i, s.srv.sel.Has s.conn.clientFd i
      (.mng k) := by
    rcases hShape.of_request hState hRequest with
      ⟨_, hHas⟩ | ⟨_, hHas⟩
    · exact ⟨_, hHas⟩
    · exact ⟨_, hHas⟩
  rcases hSlot with ⟨interest, hClient⟩
  have hPut : ∀ t wanted, MngFrame s t →
      t.srv.sel = s.srv.sel.put s.conn.clientFd
        ⟨wanted, .mng k⟩ →
      Handled k s t ∧ t.srv.sel.Has t.conn.clientFd wanted
        (.mng k) := by
    intro t wanted hFrame hSel
    have hArmed := (Handled.refl hOwns).arm_client hSound
      hClient wanted
    refine ⟨hArmed.of_eq hSel hFrame.client hFrame.origin
      hFrame.service hFrame.calm, ?_⟩
    rw [hSel, hFrame.client]
    exact Selector.Has.put_self hClient.1 _
  cases hCall with
  | stay t next hFrame hSel hNext =>
      refine ⟨(Handled.refl hOwns).of_eq hSel hFrame.client
        hFrame.origin hFrame.service hFrame.calm, ?_⟩
      have hEq := Option.some.inj (hNext.symm.trans hState)
      have hSame : t.conn.current = some next :=
        hFrame.current.trans hNext
      have hLe : next ≤ MNG_REQUEST_WRITE := by
        rw [hEq]
        rcases hRequest with h | h | h
        all_goals (subst h; decide)
      refine .stay next hSame hLe ?_
      have hHas := hShape.of_request hState hRequest
      rw [← hSel, ← hFrame.client, ← hEq] at hHas
      rw [← hEq] at hRequest
      rcases hHas with ⟨hNe, hHas⟩ | ⟨hWrite, hHas⟩
      · refine .reading next hSame (Or.inr ?_) hHas
        rcases hRequest with h | h | h
        · exact Or.inl h
        · exact Or.inr h
        · exact absurd h hNe
      · exact .writing next hSame (Or.inr hWrite) hHas
  | writes t hFrame hSel =>
      rcases hPut t opWrite hFrame hSel with ⟨hKept, hHas⟩
      refine ⟨hKept, ?_⟩
      by_cases hSame : t.conn.current =
          some MNG_REQUEST_WRITE
      · exact .stay _ hSame (Nat.le_refl _)
          (.writing _ hSame (Or.inr rfl) hHas)
      · exact .writes _ hSame (Or.inr rfl) hHas
  | reads t hFrame hSel hIndex =>
      rcases hPut t opRead hFrame hSel with ⟨hKept, hHas⟩
      refine ⟨hKept, ?_⟩
      by_cases hSame : t.conn.current =
          some MNG_REQUEST_READ
      · exact .stay MNG_REQUEST_READ hSame (by decide)
          (.reading _ hSame (Or.inr (Or.inr rfl)) hHas)
      · refine .reads _ hSame ⟨?_, hSame⟩
          (Or.inr (Or.inr rfl)) (fun _ => hIndex) hHas
        rw [hFrame.current, hState]
        rcases hRequest with h | h | h
        all_goals (subst h; decide)
  | ends t next hNext hFrame hSel =>
      have hBefore : t.conn.current = some state :=
        hFrame.current.trans hState
      have hLt : state < MNG_DONE := by
        rcases hRequest with h | h | h
        all_goals (subst h; decide)
      rcases hSel with hSame | hArmed
      · refine ⟨(Handled.refl hOwns).of_eq hSame
          hFrame.client hFrame.origin hFrame.service
          hFrame.calm, ?_⟩
        rw [← hSame, ← hFrame.client] at hClient
        exact .over_client hNext hBefore hLt hClient
      · rcases hPut t opWrite hFrame hArmed with
          ⟨hKept, hHas⟩
        exact ⟨hKept, .over_client hNext hBefore hLt hHas⟩

end Heading

end Socks5d

namespace Socks5d

section Turning

variable {k : ConnId}
variable {key : Key}
variable {a : Answers}
variable {s : St}
variable {r : St × Nat}

/- Every call leaves the slot as its next state needs. -/
theorem MngTurn.heading
    (h : MngTurn k key a s r)
    (hSound : s.srv.sel.Sound)
    (hOwns : Owns k s.srv.sel s.conn)
    (hMng : s.conn.isSocks = false)
    (hFd : key.fd = s.conn.clientFd) :
    Handled k s r.1 ∧
      MngHeading k r.1.srv.sel r.1.conn r.2 := by
  rcases key with ⟨fd, data⟩
  subst hFd
  cases h with
  | helloRead hState hClient hHello hMethod _ hCall =>
      exact mng_helloRead hSound hOwns hMng hState hClient
        hHello hMethod hCall
  | helloWrite hState hClient hHello hMethod _ hCall =>
      exact mng_helloWrite hSound hOwns hMng hState hClient
        hHello hMethod hCall
  | authRead hState hClient _ hCall =>
      exact mng_authRead hSound hOwns hMng hState hClient
        hCall
  | authWrite hState hClient _ hCall =>
      exact mng_authWrite hSound hOwns hMng hState hClient
        hCall
  | request state hState hRequest hShape _ hCall =>
      exact mng_request hSound hOwns hState hRequest hShape
        hCall

/- A call of a state keeps that state. -/
theorem MngTurn.current
    (h : MngTurn k key a s r) :
    r.1.conn.current = s.conn.current := by
  cases h with
  | helloRead _ _ _ _ _ hCall => cases hCall <;> rfl
  | helloWrite _ _ _ _ _ hCall => cases hCall <;> rfl
  | authRead _ _ _ hCall => exact hCall.stays.current
  | authWrite _ _ _ hCall => exact hCall.stays.current
  | request _ _ _ _ _ hCall =>
      cases hCall with
      | stay t next hFrame hSel hNext => exact hFrame.current
      | writes t hFrame hSel => exact hFrame.current
      | reads t hFrame hSel hIndex => exact hFrame.current
      | ends t next hNext hFrame hSel =>
          exact hFrame.current

end Turning

end Socks5d

------------------------------------------------------------
-- Which Call An Event Picks
------------------------------------------------------------

namespace Socks5d

section Picking

variable {k : ConnId}
variable {key : Key}
variable {s : St}
variable {interest : Interest}

/- A handler of the state is called and returns. -/
def MngPicks
    (ready : StateDefinition → Option Handler)
    (k : ConnId)
    (key : Key)
    (a : Answers)
    (s : St) : Prop :=
  ∃ onReady,
    ready (clientMng
      (s.conn.current.getD HELLO_READ)) = some onReady ∧
    MngTurn k key a s (onReady key a s)

theorem mng_picks_read
    (hShape : MngShape k s.srv.sel s.conn)
    (hSome : s.conn.current ≠ none)
    (hFd : key.fd = s.conn.clientFd)
    (hSlot : s.srv.sel.Has key.fd interest (.mng k))
    (hReady : interest.read = true)
    (a : Answers) :
    MngPicks StateDefinition.onReadReady k key a s := by
  have hInterest : ∀ wanted, s.srv.sel.Has s.conn.clientFd
      wanted (.mng k) → interest = wanted := by
    intro wanted hClient
    rw [← hFd] at hClient
    exact (hSlot.unique hClient).1
  have hKept := hShape
  cases hShape with
  | fresh hState hClient => exact absurd hState hSome
  | helloRead hState hClient hHello hMethod =>
      refine ⟨helloRead, by rw [hState]; rfl, ?_⟩
      exact .helloRead hState hClient hHello hMethod _
        (helloRead_outcome hSlot a)
  | helloWrite hState hClient hHello hMethod =>
      rw [hInterest _ hClient] at hReady
      cases hReady
  | reading state hState hReads hClient =>
      rcases hReads with h | h | h
      · subst h
        refine ⟨authRead, by rw [hState]; rfl, ?_⟩
        exact .authRead hState hClient _
          (authRead_outcome hSlot a)
      · subst h
        refine ⟨mngRequestIndexRead, by rw [hState]; rfl, ?_⟩
        exact .request _ hState (Or.inl rfl) hKept _
          (mngRequestIndexRead_call hSlot hState a) .index hFd
      · subst h
        refine ⟨mngRequestRead, by rw [hState]; rfl, ?_⟩
        exact .request _ hState (Or.inr (Or.inl rfl)) hKept _
          (mngRequestRead_call hSlot hState a) .params hFd
  | writing state hState hWrites hClient =>
      rw [hInterest _ hClient] at hReady
      cases hReady

theorem mng_picks_write
    (hShape : MngShape k s.srv.sel s.conn)
    (hFd : key.fd = s.conn.clientFd)
    (hSlot : s.srv.sel.Has key.fd interest (.mng k))
    (hReady : interest.write = true)
    (a : Answers) :
    MngPicks StateDefinition.onWriteReady k key a s := by
  have hInterest : ∀ wanted, s.srv.sel.Has s.conn.clientFd
      wanted (.mng k) → interest = wanted := by
    intro wanted hClient
    rw [← hFd] at hClient
    exact (hSlot.unique hClient).1
  have hKept := hShape
  cases hShape with
  | fresh hState hClient =>
      rw [hInterest _ hClient] at hReady
      cases hReady
  | helloRead hState hClient hHello hMethod =>
      rw [hInterest _ hClient] at hReady
      cases hReady
  | helloWrite hState hClient hHello hMethod =>
      refine ⟨helloWrite, by rw [hState]; rfl, ?_⟩
      exact .helloWrite hState hClient hHello hMethod _
        (helloWrite_outcome hSlot hHello.known a)
  | reading state hState hReads hClient =>
      rw [hInterest _ hClient] at hReady
      cases hReady
  | writing state hState hWrites hClient =>
      rcases hWrites with h | h
      · subst h
        refine ⟨authWrite, by rw [hState]; rfl, ?_⟩
        exact .authWrite hState hClient _
          (authWrite_outcome hSlot a)
      · subst h
        refine ⟨mngRequestWrite, by rw [hState]; rfl, ?_⟩
        exact .request _ hState (Or.inr (Or.inr rfl)) hKept _
          (mngRequestWrite_call hState a) .answer hFd

end Picking

end Socks5d

------------------------------------------------------------
-- Jumping
------------------------------------------------------------

namespace Socks5d

/- Where a jump of a management connection ends. -/
def MngLanded
    (k : ConnId)
    (s : St)
    (next : Nat) : Prop :=
  (next ≤ MNG_REQUEST_WRITE ∧ s.conn.current = some next ∧
      MngShape k s.srv.sel s.conn) ∨
    ((next = MNG_DONE ∨ next = MNG_ERROR) ∧
      s.conn.current = some next ∧
      ∃ interest, s.srv.sel.Has s.conn.clientFd interest
        (.mng k))

section Jumping

variable {k : ConnId}
variable {key : Key}
variable {a : Answers}
variable {s t : St}
variable {next : Nat}

/- A departure may only find a parser torn. -/
theorem depart_mng
    (key : Key)
    (s : St) :
    ∃ fault, depart clientMng key s =
        { s with srv.fault := fault } ∧
      (TornFault s USERPASS_READ s.conn.userpass.torn
          fault ∨
        TornFault s MNG_REQUEST_READ s.conn.mngRequest.torn
          fault) := by
  unfold depart
  cases hState : s.conn.current with
  | none => exact ⟨s.srv.fault, rfl, Or.inl .same⟩
  | some state =>
      match state with
      | USERPASS_READ =>
          show ∃ fault, authReadClose key s = _ ∧ _
          unfold authReadClose
          split
          · rename_i hTorn
            exact ⟨_, rfl, Or.inl (.torn hState hTorn)⟩
          · exact ⟨s.srv.fault, rfl, Or.inl .same⟩
      | MNG_REQUEST_READ =>
          show ∃ fault, mngRequestClose key s = _ ∧ _
          unfold mngRequestClose
          split
          · rename_i hTorn
            exact ⟨_, rfl, Or.inr (.torn hState hTorn)⟩
          · exact ⟨s.srv.fault, rfl, Or.inl .same⟩
      | HELLO_READ | HELLO_WRITE | USERPASS_WRITE
      | MNG_REQUEST_READ_INDEX | MNG_REQUEST_WRITE | n + 7 =>
          exact ⟨s.srv.fault, rfl, Or.inl .same⟩

theorem depart_mng_same
    (key : Key)
    (hFrom : t.conn.current ≠ some USERPASS_READ ∧
      t.conn.current ≠ some MNG_REQUEST_READ) :
    depart clientMng key t = t := by
  rcases depart_mng key t with ⟨fault, hDepart, hFault⟩
  have hSame : fault = t.srv.fault := hFault.elim
    (fun hUser => hUser.eq_of_ne hFrom.1)
    fun hParams => hParams.eq_of_ne hFrom.2
  rw [hDepart, hSame]

/- A whole parser is given back, and no more. -/
theorem depart_mng_whole
    (key : Key)
    (hUser : t.conn.current ≠ some USERPASS_READ)
    (hWhole : t.conn.mngRequest.torn = false) :
    depart clientMng key t = t := by
  rcases depart_mng key t with ⟨fault, hDepart, hFault⟩
  have hSame : fault = t.srv.fault := hFault.elim
    (fun hHere => hHere.eq_of_ne hUser)
    fun hParams => hParams.eq_of_whole hWhole
  rw [hDepart, hSame]

theorem jump_mng
    (hMng : t.conn.isSocks = false)
    (hNext : next ≤ MNG_ERROR) :
    jump clientMng next key a t =
      if t.conn.current = some next then t
      else arrive clientMng next key a
        (depart clientMng key t) := by
  have hMax : t.conn.maxState = MNG_ERROR := by
    simp [Conn.maxState, hMng]
  unfold jump
  rw [hMax, if_neg (Nat.not_lt.mpr hNext)]

/- Jumping to a state that has no arrival. -/
theorem mng_jump_plain
    (key : Key)
    (a : Answers)
    (next : Nat)
    (h : Handled k s t)
    (hMng : t.conn.isSocks = false)
    (hNext : next = HELLO_WRITE ∨ next = USERPASS_WRITE ∨
      next = MNG_REQUEST_WRITE ∨ next = MNG_DONE ∨
      next = MNG_ERROR)
    (hState : t.conn.current ≠ some next) :
    ∃ fault,
      jump clientMng next key a t =
        entered next { t with srv.fault := fault } ∧
      MngJump key a t next (jump clientMng next key a t) ∧
      Handled k s (jump clientMng next key a t) := by
  rcases depart_mng key t with ⟨fault, hDepart, hFault⟩
  have hLe : next ≤ MNG_ERROR := by
    rcases hNext with rfl | rfl | rfl | rfl | rfl
    all_goals decide
  have hJump : jump clientMng next key a t =
      entered next { t with srv.fault := fault } := by
    rw [jump_mng hMng hLe, if_neg hState, hDepart]
    rcases hNext with rfl | rfl | rfl | rfl | rfl
    all_goals rfl
  refine ⟨fault, hJump, ?_, ?_⟩
  · rw [hJump]
    exact .plain next hNext hState fault hFault
  · rw [hJump]
    exact h.of_eq rfl rfl rfl rfl fun hAbort =>
      hFault.elim (fun hUser => hUser.calm hAbort)
        fun hParams => hParams.calm hAbort

theorem mngParserInit_frame
    (a : Answers)
    (site : AllocSite)
    (blocks : List Block)
    (s : St) :
    MngFrame s (mngParserInit a site blocks s) ∧
      (mngParserInit a site blocks s).srv.sel =
        s.srv.sel := by
  unfold mngParserInit
  split
  · exact ⟨⟨rfl, rfl, rfl, rfl, rfl, rfl, Or.inl rfl, rfl,
      rfl, rfl, rfl, rfl, rfl, id, ⟨[], by simp,
        fun _ hEvent => nomatch hEvent⟩⟩, rfl⟩
  · exact ⟨MngFrame.of_conn s s.srv.sel _ _ _ [_]
      (Ev.ofMng_single trivial), rfl⟩

theorem mngRequestInit_frame
    (key : Key)
    (a : Answers)
    {s : St}
    (hIndex : s.conn.mngRequest.index = MngIndex.addUser ∨
      s.conn.mngRequest.index = MngIndex.deleteUser ∨
      s.conn.mngRequest.index = MngIndex.disableAuth ∨
      s.conn.mngRequest.index =
        MngIndex.disablePasswordDissectors) :
    MngFrame s (mngRequestInit key a s) ∧
      (mngRequestInit key a s).srv.sel = s.srv.sel := by
  unfold mngRequestInit
  rcases hIndex with h | h | h | h
  · rw [h]
    exact mngParserInit_frame _ _ _ _
  · rw [h]
    exact mngParserInit_frame _ _ _ _
  · rw [h]
    exact mngParserInit_frame _ _ _ _
  · rw [h]
    exact mngParserInit_frame _ _ _ _

/- The client keeps its slot. -/
theorem MngFrame.has_client
    {attached : Attachment}
    {interest : Interest}
    (h : MngFrame s t)
    (hSel : t.srv.sel = s.srv.sel)
    (hClient : s.srv.sel.Has s.conn.clientFd interest
      attached) :
    t.srv.sel.Has t.conn.clientFd interest attached := by
  rw [hSel, h.client]
  exact hClient

theorem mng_jump
    (key : Key)
    (a : Answers)
    (h : Handled k s t)
    (hMng : t.conn.isSocks = false)
    (hHeading : MngHeading k t.srv.sel t.conn next) :
    MngJump key a t next (jump clientMng next key a t) ∧
      Handled k s (jump clientMng next key a t) ∧
      MngLanded k (jump clientMng next key a t) next := by
  have hEntered : Handled k s (entered next t) :=
    h.of_eq rfl rfl rfl rfl id
  cases hHeading with
  | stay _ hState hNext hShape =>
      rw [jump_mng hMng (Nat.le_trans hNext (by decide)),
        if_pos hState]
      exact ⟨.stay next hState hNext, h,
        Or.inl ⟨hNext, hState, hShape⟩⟩
  | helloWrite hState hClient hHello hMethod =>
      have hNe : t.conn.current ≠ some HELLO_WRITE := by
        rw [hState]
        decide
      rcases mng_jump_plain key a HELLO_WRITE h hMng (by simp)
        hNe with ⟨fault, hJump, hStep, hKept⟩
      refine ⟨hStep, hKept, Or.inl ⟨by decide, ?_⟩⟩
      rw [hJump]
      exact ⟨rfl, .helloWrite rfl hClient hHello hMethod⟩
  | reads _ hState hFrom hReads hIndex hClient =>
      rcases hReads with hNext | hNext | hNext
      · subst hNext
        rw [jump_mng hMng (by decide), if_neg hState,
          depart_mng_same key hFrom]
        have hArrive : arrive clientMng USERPASS_READ key a
            t = authReadInit key a
              (entered USERPASS_READ t) := rfl
        rw [hArrive]
        refine ⟨.userpassRead hState, ?_,
          Or.inl ⟨by decide, ?_⟩⟩
        · unfold authReadInit
          split
          · exact hEntered.of_eq rfl rfl rfl rfl id
          · exact hEntered.of_eq rfl rfl rfl rfl id
        · unfold authReadInit
          split
          · exact ⟨rfl, .reading _ rfl (Or.inl rfl) hClient⟩
          · exact ⟨rfl, .reading _ rfl (Or.inl rfl) hClient⟩
      · subst hNext
        rw [jump_mng hMng (by decide), if_neg hState,
          depart_mng_same key hFrom]
        have hInit := mngParserInit_frame a .mngIndex
          mngRequestIndexBlocks
          (entered MNG_REQUEST_READ_INDEX t)
        have hCurrent := hInit.1.current
        refine ⟨.request _ (Or.inl rfl) hState _ hInit.1
          hInit.2 .index, hEntered.of_eq hInit.2 hInit.1.client
            hInit.1.origin hInit.1.service hInit.1.calm,
          Or.inl ⟨by decide, hCurrent, ?_⟩⟩
        exact .reading _ hCurrent (Or.inr (Or.inl rfl))
          (hInit.1.has_client hInit.2 hClient)
      · subst hNext
        rw [jump_mng hMng (by decide), if_neg hState,
          depart_mng_same key hFrom]
        have hInit := mngRequestInit_frame key a
          (s := entered MNG_REQUEST_READ t) (hIndex rfl)
        have hCurrent := hInit.1.current
        refine ⟨.request _ (Or.inr rfl) hState _ hInit.1
          hInit.2 .params, hEntered.of_eq hInit.2 hInit.1.client
            hInit.1.origin hInit.1.service hInit.1.calm,
          Or.inl ⟨by decide, hCurrent, ?_⟩⟩
        exact .reading _ hCurrent (Or.inr (Or.inr rfl))
          (hInit.1.has_client hInit.2 hClient)
  | writes _ hState hWrites hClient =>
      have hLe : next ≤ MNG_REQUEST_WRITE := by
        rcases hWrites with rfl | rfl
        all_goals decide
      rcases mng_jump_plain key a next h hMng (by tauto)
        hState with ⟨fault, hJump, hStep, hKept⟩
      refine ⟨hStep, hKept, Or.inl ⟨hLe, ?_⟩⟩
      rw [hJump]
      exact ⟨rfl, .writing _ rfl hWrites hClient⟩
  | ends _ hNext hState interest hClient =>
      have hNe : t.conn.current ≠ some next := by
        rcases hNext with rfl | rfl
        · exact hState.1
        · exact hState.2
      rcases mng_jump_plain key a next h hMng (by tauto) hNe
        with ⟨fault, hJump, hStep, hKept⟩
      refine ⟨hStep, hKept, Or.inr ⟨hNext, ?_⟩⟩
      rw [hJump]
      exact ⟨rfl, interest, hClient⟩

end Jumping

end Socks5d

------------------------------------------------------------
-- Events
------------------------------------------------------------

namespace Socks5d

/- An event of a management connection. -/
inductive MngEvent
    (k : ConnId)
    (key : Key)
    (a : Answers)
    (s : St) : St → Prop where
  | going
      (r : St × Nat)
      (u : St)
      (hTurn : MngTurn k key a s r)
      (hJump : MngJump key a r.1 r.2 u)
      (hNext : r.2 ≤ MNG_REQUEST_WRITE) :
      MngEvent k key a s u
  | ends
      (r : St × Nat)
      (u : St)
      (hTurn : MngTurn k key a s r)
      (hJump : MngJump key a r.1 r.2 u)
      (hNext : r.2 = MNG_DONE ∨ r.2 = MNG_ERROR) :
      MngEvent k key a s (mngDone u)

section Events

variable {k : ConnId}
variable {key : Key}
variable {a : Answers}
variable {s t u : St}
variable {interest : Interest}
variable {ready : StateDefinition → Option Handler}

/- No call or jump opens an origin. -/
theorem MngTurn.originFd
    {r : St × Nat}
    (h : MngTurn k key a s r) :
    r.1.conn.originFd = s.conn.originFd := by
  cases h with
  | helloRead _ _ _ _ _ hCall => cases hCall <;> rfl
  | helloWrite _ _ _ _ _ hCall => cases hCall <;> rfl
  | authRead _ _ _ hCall => exact hCall.stays.origin
  | authWrite _ _ _ hCall => exact hCall.stays.origin
  | request _ _ _ _ _ hCall =>
      cases hCall with
      | stay t next hFrame hSel hNext => exact hFrame.origin
      | writes t hFrame hSel => exact hFrame.origin
      | reads t hFrame hSel hIndex => exact hFrame.origin
      | ends t next hNext hFrame hSel =>
          exact hFrame.origin

theorem MngJump.originFd
    {next : Nat}
    (h : MngJump key a s next u) :
    u.conn.originFd = s.conn.originFd := by
  cases h with
  | stay hState hNext => rfl
  | plain hNext hState => rfl
  | userpassRead hState =>
      unfold authReadInit
      split <;> rfl
  | request _ hNext hState _ hFrame hSel =>
      exact hFrame.origin

/- `mng_done` closes the client. -/
theorem mng_done
    (h : Handled k s u)
    (hSound : s.srv.sel.Sound)
    (hOrigin : u.conn.originFd = -1)
    (hClient : ∃ interest attached,
      u.srv.sel.Has u.conn.clientFd interest attached) :
    Released k s (mngDone u) ∧
      (mngDone u).conn = u.conn := by
  have hSound' := h.moves.sound hSound
  have hDone := doneFd_done _ h.owns.mine_client
    (fun _ => hClient)
  unfold mngDone
  refine ⟨⟨h.moves.trans hDone.moves, ?_, ?_, ?_⟩,
    hDone.conn⟩
  · intro fd holder hOpen hMine
    by_cases hIsClient : fd = u.conn.clientFd
    · rw [hIsClient, hDone.closed
        (h.owns.client_ne hSound')] at hOpen
      cases hOpen
    · rw [hDone.opened fd hIsClient] at hOpen
      rcases h.owns.only fd holder hOpen hMine with
        hBad | hBad
      · exact hIsClient hBad
      · have hNonneg := hSound'.nonneg _ _ hOpen
        rw [hBad, hOrigin] at hNonneg
        exact absurd hNonneg (by decide)
  · rw [hDone.conn]
    exact h.service
  · intro hFault
    exact h.calm (hDone.fault.symm.trans hFault)

/- A state that goes on is not a closed one. -/
theorem mng_not_closed_of_le
    {c : Conn}
    {state : Nat}
    (hMng : c.isSocks = false)
    (hState : c.current = some state)
    (hLe : state ≤ MNG_REQUEST_WRITE) : ¬ c.Closed := by
  unfold Conn.Closed Conn.doneState Conn.errorState
  rw [hState, hMng]
  rintro (hDone | hError)
  · rw [Option.some.inj hDone] at hLe
    exact absurd hLe (by decide)
  · rw [Option.some.inj hError] at hLe
    exact absurd hLe (by decide)

/- The first event starts the machine. -/
theorem mng_first
    (hOwns : Owns k s.srv.sel s.conn)
    (hMng : s.conn.isSocks = false)
    (hShape : MngShape k s.srv.sel s.conn)
    (key : Key)
    (a : Answers) :
    (s.conn.current ≠ none ∧
        handleFirst clientMng key a s = s) ∨
      (s.conn.current = none ∧
        handleFirst clientMng key a s =
          helloReadInit key a (entered HELLO_READ s) ∧
        Handled k s (handleFirst clientMng key a s) ∧
        MngShape k (handleFirst clientMng key a s).srv.sel
          (handleFirst clientMng key a s).conn) := by
  by_cases hState : s.conn.current = none
  · right
    have hFirst : handleFirst clientMng key a s =
        helloReadInit key a (entered HELLO_READ s) := by
      rw [handleFirst_eq rfl, if_pos hState]
    have hKept : Handled k s (entered HELLO_READ s) :=
      (Handled.refl hOwns).of_eq rfl rfl rfl rfl id
    have hSlot : s.srv.sel.Has s.conn.clientFd opRead
        (.mng k) := by
      cases hShape with
      | fresh _ hClient => exact hClient
      | helloRead hOther
      | helloWrite hOther
      | reading _ hOther
      | writing _ hOther =>
          rw [hState] at hOther
          cases hOther
    refine ⟨hState, hFirst, ?_⟩
    rw [hFirst]
    unfold helloReadInit
    split
    · refine ⟨hKept.of_eq rfl rfl rfl rfl id, ?_⟩
      have hMethod : (if s.conn.isSocks = true then
          s.srv.authMethod else mngAuthMethod) =
            mngAuthMethod := by
        rw [hMng]
        rfl
      exact .helloRead rfl hSlot
        ⟨Or.inr hMethod, Or.inl rfl⟩ (Or.inl hMethod)
    · refine ⟨hKept.of_eq rfl rfl rfl rfl id, ?_⟩
      exact .helloRead rfl hSlot
        ⟨Or.inl rfl, Or.inl rfl⟩ (Or.inr rfl)
  · left
    exact ⟨hState, by
      unfold handleFirst
      rw [if_neg hState]⟩

/- The handler that serves an event. -/
structure MngServed
    (ready : StateDefinition → Option Handler)
    (k : ConnId)
    (key : Key)
    (a : Answers)
    (s : St) : Prop where
  kept : Handled k s (handleFirst clientMng key a s)
  fd : key.fd = (handleFirst clientMng key a s).conn.clientFd
  origin : (handleFirst clientMng key a s).conn.originFd =
    s.conn.originFd
  picks : MngPicks ready k key a
    (handleFirst clientMng key a s)

/- What `stm_handler_read` and its siblings leave. -/
theorem MngServed.handled
    (h : MngServed ready k key a s)
    (hSound : s.srv.sel.Sound)
    (hMng : s.conn.isSocks = false) :
    ∃ r, MngTurn k key a (handleFirst clientMng key a s) r ∧
      MngJump key a r.1 r.2
        (stmHandler ready clientMng key a s).1 ∧
      (stmHandler ready clientMng key a s).2 = r.2 ∧
      Handled k s (stmHandler ready clientMng key a s).1 ∧
      MngLanded k (stmHandler ready clientMng key a s).1
        r.2 := by
  rcases h.picks with ⟨onReady, hReady, hTurn⟩
  have hSound' := h.kept.moves.sound hSound
  have hMng' := h.kept.service.trans hMng
  have hCall := hTurn.heading hSound' h.kept.owns hMng' h.fd
  have hAll := h.kept.trans hCall.1
  rcases mng_jump key a hAll
      (hCall.1.service.trans hMng') hCall.2 with
    ⟨hJump, hLeft, hLanded⟩
  unfold stmHandler
  simp only [hReady]
  exact ⟨_, hTurn, hJump, rfl, hLeft, hLanded⟩

/- An event whose handler is called. -/
theorem MngServed.event
    (h : MngServed ready k key a s)
    (hSound : s.srv.sel.Sound)
    (hMng : s.conn.isSocks = false)
    (hOrigin : s.conn.originFd = -1) :
    MngEvent k key a (handleFirst clientMng key a s)
        (mngEvent ready key a s) ∧
      Aftermath k s (mngEvent ready key a s) := by
  rcases h.handled hSound hMng with
    ⟨r, hTurn, hJump, hEq, hLeft, hLanded⟩
  have hNone := (hJump.originFd.trans
    (hTurn.originFd.trans h.origin)).trans hOrigin
  have hMngLeft := hLeft.service.trans hMng
  unfold mngEvent
  simp only [hEq]
  rcases hLanded with ⟨hNext, hState, hShape⟩ |
    ⟨hNext, hState, interest, hSlot⟩
  · have hNot : ¬ (r.2 = MNG_ERROR ∨ r.2 = MNG_DONE) := by
      rintro (hError | hDone)
      · rw [hError] at hNext
        exact absurd hNext (by decide)
      · rw [hDone] at hNext
        exact absurd hNext (by decide)
    rw [if_neg hNot]
    refine ⟨.going _ _ hTurn hJump hNext, .going hLeft ?_ ?_⟩
    · exact mng_not_closed_of_le hMngLeft hState hNext
    · refine ⟨hLeft.owns, ?_, fun _ => ⟨hNone, hShape⟩⟩
      intro hSocks
      rw [hMngLeft] at hSocks
      cases hSocks
  · rw [if_pos hNext.symm]
    rcases mng_done hLeft hSound hNone ⟨_, _, hSlot⟩ with
      ⟨hReleased, hConn⟩
    refine ⟨.ends _ _ hTurn hJump hNext,
      .ends hReleased ?_⟩
    rw [hConn]
    unfold Conn.Closed Conn.doneState Conn.errorState
    rw [hState, hMngLeft]
    rcases hNext with hDone | hError
    · rw [hDone]
      exact Or.inl rfl
    · rw [hError]
      exact Or.inr rfl

/- An event after the machine has started, if it has to. -/
theorem mng_served
    (hOwns : Owns k s.srv.sel s.conn)
    (hMng : s.conn.isSocks = false)
    (hShape : MngShape k s.srv.sel s.conn)
    (hFd : key.fd = s.conn.clientFd)
    (hSlot : s.srv.sel.Has key.fd interest (.mng k))
    (a : Answers)
    (hServed : ∀ t : St, MngShape k t.srv.sel t.conn →
      t.conn.current ≠ none →
      key.fd = t.conn.clientFd →
      t.srv.sel.Has key.fd interest (.mng k) →
        MngPicks ready k key a t) :
    MngServed ready k key a s := by
  rcases mng_first hOwns hMng hShape key a with
    ⟨hSome, hSame⟩ | ⟨hNone, hFirst, hKept, hStarted⟩
  · refine ⟨?_, ?_, ?_, ?_⟩
    · rw [hSame]
      exact .refl hOwns
    · rw [hSame]
      exact hFd
    · rw [hSame]
    · rw [hSame]
      exact hServed s hShape hSome hFd hSlot
  · have hSel : (handleFirst clientMng key a s).srv.sel =
        s.srv.sel := by
      rw [hFirst]
      unfold helloReadInit
      split <;> rfl
    have hSame : (handleFirst clientMng key a
          s).conn.originFd = s.conn.originFd := by
      rw [hFirst]
      unfold helloReadInit
      split <;> rfl
    have hCurrent : (handleFirst clientMng key a
        s).conn.current = some HELLO_READ := by
      rw [hFirst]
      unfold helloReadInit
      split <;> rfl
    have hFd' : key.fd = (handleFirst clientMng key a
        s).conn.clientFd := by
      rw [hKept.client]
      exact hFd
    have hSlot' : (handleFirst clientMng key a
        s).srv.sel.Has key.fd interest (.mng k) := by
      rw [hSel]
      exact hSlot
    exact ⟨hKept, hFd', hSame, hServed _ hStarted
      (by rw [hCurrent]; decide) hFd' hSlot'⟩

theorem mng_read
    (hOwns : Owns k s.srv.sel s.conn)
    (hMng : s.conn.isSocks = false)
    (hShape : MngShape k s.srv.sel s.conn)
    (hFd : key.fd = s.conn.clientFd)
    (hSlot : s.srv.sel.Has key.fd interest (.mng k))
    (hReady : interest.read = true)
    (a : Answers) :
    MngServed StateDefinition.onReadReady k key a s :=
  mng_served hOwns hMng hShape hFd hSlot a
    fun _ hShape' hSome hFd' hSlot' =>
      mng_picks_read hShape' hSome hFd' hSlot' hReady a

theorem mng_write
    (hOwns : Owns k s.srv.sel s.conn)
    (hMng : s.conn.isSocks = false)
    (hShape : MngShape k s.srv.sel s.conn)
    (hFd : key.fd = s.conn.clientFd)
    (hSlot : s.srv.sel.Has key.fd interest (.mng k))
    (hReady : interest.write = true)
    (a : Answers) :
    MngServed StateDefinition.onWriteReady k key a s :=
  mng_served hOwns hMng hShape hFd hSlot a
    fun _ hShape' _ hFd' hSlot' =>
      mng_picks_write hShape' hFd' hSlot' hReady a

end Events

end Socks5d
