import Socks5d.Admission
import Socks5d.MngReplies

/-
  The settings as the sequence of what administrators asked
  for: the server against a list of whole requests that are
  applied one after the other.

  Main declarations:
    * `MngTrail`, `MngEvent.carries`
    * `adjustments`, `Adjusts`, `Adjusted`
    * `settings_sequential`
-/

------------------------------------------------------------
-- The Trail Of A Request
------------------------------------------------------------

namespace Socks5d

/-
  What the history of a management connection says of its
  request: the unread bytes are the last ones received, the
  request that is being read stands right before them, and
  one that was carried out came from an administrator.
-/
structure MngTrail
    (admins : UserTable)
    (c : Conn) : Prop where
  unread : c.readBuffer.pending <:+ bytesRead c.log
  answering : .enter MNG_REQUEST_WRITE ∈ c.log →
    ∃ state, c.current = some state ∧
      MNG_REQUEST_WRITE ≤ state
  reading : c.current = some MNG_REQUEST_READ →
    c.mngRequest.status = .succeeded →
      ∃ fed, ParamsGoing fed c.mngRequest ∧
        (c.mngRequest.index :: fed) ++ c.readBuffer.pending <:+
          bytesRead c.log
  carried : ∀ r, c.carriedOut = some r →
    Admitted c.log admins.entries ∧
      r.bytes <:+: bytesRead c.log

/-
  The request is carried out now, and answered with its
  status, or nothing of it changes.
-/
def Carries (s t : St) : Prop :=
  (t.conn.carriedOut = s.conn.carriedOut ∧
    t.srv.settings = s.srv.settings) ∨
  (s.conn.carriedOut = none ∧
    ∃ r, t.conn.carriedOut = some r ∧
      t.srv.policy = s.srv.policy.apply r ∧
      StatusSaid s.srv.policy r s.conn t.conn)

section Trails

variable {admins : UserTable}
variable {k : ConnId}
variable {key : Key}
variable {a : Answers}
variable {s t u : St}
variable {c d : Conn}
variable {r : St × Nat}
variable {used : List UInt8}
variable {next state : Nat}

theorem carriedOut_of_not_entered
    (h : .enter MNG_REQUEST_WRITE ∉ c.log) :
    c.carriedOut = none :=
  if_neg fun hAll => h hAll.2.2

theorem carriedOut_of_not_asked
    (h : c.mngRequest.status = .succeeded →
      c.mngRequest.asked = none) : c.carriedOut = none := by
  unfold Conn.carriedOut
  split
  · rename_i hAll
    exact h hAll.2.1
  · rfl

theorem MngTrail.early
    (h : MngTrail admins c)
    (hState : c.current = some state)
    (hEarly : state < MNG_REQUEST_WRITE) :
    .enter MNG_REQUEST_WRITE ∉ c.log := by
  intro hEntered
  rcases h.answering hEntered with ⟨late, hLate, hLe⟩
  rw [hState] at hLate
  rw [← Option.some.inj hLate] at hLe
  exact absurd hEarly (Nat.not_lt.mpr hLe)

/- What `jump` leaves of a connection. -/
structure Jumped
    (c d : Conn)
    (next : Nat) : Prop where
  read : bytesRead d.log = bytesRead c.log
  buffer : d.readBuffer = c.readBuffer
  kept : ∀ event ∈ c.log, event ∈ d.log
  enter : .enter MNG_REQUEST_WRITE ∈ d.log →
    .enter MNG_REQUEST_WRITE ∈ c.log ∨
      (next = MNG_REQUEST_WRITE ∧ c.current ≠ some next)
  entered : next = MNG_REQUEST_WRITE →
    c.current ≠ some next → .enter MNG_REQUEST_WRITE ∈ d.log
  service : d.isSocks = c.isSocks
  current : d.current = some next
  request : next ≠ MNG_REQUEST_READ_INDEX →
    next ≠ MNG_REQUEST_READ → d.mngRequest = c.mngRequest

/- A state is entered, and its `on_arrival` is run. -/
theorem Jumped.of_events
    (events : List Ev)
    (hLog : d.log = c.log ++ .enter next :: events)
    (hMemory : ∀ event ∈ events, ∃ site,
      event = .outOfMemory site)
    (hState : c.current ≠ some next)
    (hBuffer : d.readBuffer = c.readBuffer)
    (hService : d.isSocks = c.isSocks)
    (hCurrent : d.current = some next)
    (hRequest : next ≠ MNG_REQUEST_READ_INDEX →
      next ≠ MNG_REQUEST_READ →
        d.mngRequest = c.mngRequest) :
    Jumped c d next := by
  have hNone : bytesRead (.enter next :: events) = [] := by
    apply flatMap_nil
    intro event hEvent
    rcases List.mem_cons.mp hEvent with rfl | hLater
    · rfl
    · rcases hMemory event hLater with ⟨site, rfl⟩
      rfl
  refine ⟨?_, hBuffer, ?_, ?_, ?_, hService, hCurrent,
    hRequest⟩
  · rw [hLog, bytesRead_append, hNone, List.append_nil]
  · intro event hEvent
    rw [hLog]
    exact List.mem_append_left _ hEvent
  · intro hEntered
    rw [hLog] at hEntered
    rcases List.mem_append.mp hEntered with hOld | hNew
    · exact Or.inl hOld
    · rcases List.mem_cons.mp hNew with hIs | hLater
      · exact Or.inr ⟨(Ev.enter.inj hIs).symm, hState⟩
      · rcases hMemory _ hLater with ⟨site, hBad⟩
        nomatch hBad
  · intro hNext _
    rw [hLog, ← hNext]
    exact List.mem_append_right _ List.mem_cons_self

theorem MngJump.jumped
    (h : MngJump key a s next u) :
    Jumped s.conn u.conn next := by
  have hNone : ∀ event ∈ ([] : List Ev), ∃ site,
      event = .outOfMemory site := fun _ hBad => nomatch hBad
  have hOne : ∀ place, ∀ event ∈ [Ev.outOfMemory place],
      ∃ site, event = .outOfMemory site := by
    intro place event hEvent
    exact ⟨place, List.mem_singleton.mp hEvent⟩
  have hInit : ∀ site blocks (t : St),
      (mngParserInit a site blocks t).conn.readBuffer =
          t.conn.readBuffer ∧
        ∃ events, (mngParserInit a site blocks t).conn.log =
            t.conn.log ++ events ∧
          ∀ event ∈ events, ∃ site,
            event = .outOfMemory site := by
    intro site blocks t
    unfold mngParserInit
    split
    · exact ⟨rfl, [], (List.append_nil _).symm, hNone⟩
    · exact ⟨rfl, [_], rfl, hOne _⟩
  cases h with
  | stay _ hState hNext =>
      exact ⟨rfl, rfl, fun _ hEvent => hEvent, Or.inl,
        fun _ hBad => absurd hState hBad, rfl, hState,
        fun _ _ => rfl⟩
  | plain _ hNext hState =>
      exact .of_events [] rfl hNone hState rfl rfl rfl
        fun _ _ => rfl
  | userpassRead hState =>
      unfold authReadInit
      split
      · exact .of_events [] rfl hNone hState rfl rfl rfl
          fun _ _ => rfl
      · refine .of_events [.outOfMemory .userpass] ?_
          (hOne _) hState rfl rfl rfl fun _ _ => rfl
        exact List.append_assoc _ _ _
  | request _ hNext hState _ hFrame _ hEnters =>
      have hBoth : u.conn.readBuffer = s.conn.readBuffer ∧
          ∃ events, u.conn.log = s.conn.log ++
              .enter next :: events ∧
            ∀ event ∈ events, ∃ site,
              event = .outOfMemory site := by
        have hFrom : ∀ t : St,
            t.conn.readBuffer = s.conn.readBuffer →
            (∃ events, t.conn.log =
                (entered next s).conn.log ++ events ∧
              ∀ event ∈ events, ∃ site,
                event = .outOfMemory site) →
            t.conn.readBuffer = s.conn.readBuffer ∧
              ∃ events, t.conn.log = s.conn.log ++
                  .enter next :: events ∧
                ∀ event ∈ events, ∃ site,
                  event = .outOfMemory site := by
          intro t hBuffer hLog
          rcases hLog with ⟨events, hLog, hMemory⟩
          refine ⟨hBuffer, events, ?_, hMemory⟩
          exact hLog.trans (List.append_assoc _ _ _)
        cases hEnters with
        | index => exact hFrom _ (hInit _ _ _).1 (hInit _ _ _).2
        | params =>
            unfold mngRequestInit
            split
            · exact hFrom _ (hInit _ _ _).1 (hInit _ _ _).2
            · exact hFrom _ (hInit _ _ _).1 (hInit _ _ _).2
            · exact hFrom _ (hInit _ _ _).1 (hInit _ _ _).2
            · exact hFrom _ (hInit _ _ _).1 (hInit _ _ _).2
            · exact hFrom _ rfl ⟨[], (List.append_nil _).symm,
                hNone⟩
      rcases hBoth with ⟨hBuffer, events, hLog, hMemory⟩
      refine .of_events events hLog hMemory hState hBuffer
        hFrame.service hFrame.current ?_
      intro hIndex hRead
      rcases hNext with hBad | hBad
      · exact absurd hBad hIndex
      · exact absurd hBad hRead

/- A jump after which nothing has been carried out. -/
theorem MngTrail.quiet
    (h : MngTrail admins s.conn)
    (hReads : Reads s.conn r.1.conn used)
    (hJumped : Jumped r.1.conn u.conn r.2)
    (hAnswer : r.2 < MNG_REQUEST_WRITE →
      .enter MNG_REQUEST_WRITE ∉ s.conn.log)
    (hReading : r.2 = MNG_REQUEST_READ →
      u.conn.mngRequest.status = .succeeded →
        ∃ fed, ParamsGoing fed u.conn.mngRequest ∧
          (u.conn.mngRequest.index :: fed) ++
              u.conn.readBuffer.pending <:+
            bytesRead u.conn.log)
    (hNone : u.conn.carriedOut = none) :
    MngTrail admins u.conn := by
  refine ⟨?_, ?_, ?_, ?_⟩
  · rw [hJumped.buffer, hJumped.read]
    exact hReads.unread h.unread
  · intro hEntered
    refine ⟨r.2, hJumped.current, ?_⟩
    rcases hJumped.enter hEntered with hOld | ⟨hNew, _⟩
    · rw [hReads.enter] at hOld
      by_contra hEarly
      exact hAnswer (Nat.not_le.mp hEarly) hOld
    · exact Nat.le_of_eq hNew.symm
  · intro hState
    rw [hJumped.current] at hState
    exact hReading (Option.some.inj hState)
  · intro r hSome
    rw [hNone] at hSome
    nomatch hSome

/- Before the answer nothing has been carried out. -/
theorem Jumped.not_carried
    (hReads : Reads s.conn r.1.conn used)
    (hJumped : Jumped r.1.conn u.conn r.2)
    (hEarly : .enter MNG_REQUEST_WRITE ∉ s.conn.log)
    (hNext : r.2 ≠ MNG_REQUEST_WRITE) :
    u.conn.carriedOut = none := by
  apply carriedOut_of_not_entered
  intro hEntered
  rcases hJumped.enter hEntered with hOld | ⟨hNew, _⟩
  · exact hEarly ((hReads.enter _).mp hOld)
  · exact hNext hNew

/- A call of the handshake of a management connection. -/
theorem MngTurn.handshake
    (h : MngTurn k key a s r)
    (hState : s.conn.current = some state)
    (hEarly : state < MNG_REQUEST_READ_INDEX)
    (hMng : s.conn.isSocks = false) :
    (∃ used, Reads s.conn r.1.conn used) ∧
      (r.2 ≤ MNG_REQUEST_READ_INDEX ∨
        r.2 = MNG_DONE ∨ r.2 = MNG_ERROR) := by
  have hLe : ∀ next, Nat.ble next MNG_REQUEST_READ_INDEX =
      true → next ≤ MNG_REQUEST_READ_INDEX :=
    fun _ => Nat.le_of_ble_eq_true
  have hError : s.conn.errorState = MNG_ERROR := by
    simp [Conn.errorState, hMng]
  have hDone : s.conn.doneState = MNG_DONE := by
    simp [Conn.doneState, hMng]
  cases h with
  | helloRead _ _ _ _ _ hCall =>
      cases hCall with
      | failed => exact ⟨⟨[], .refl _⟩, Or.inr (Or.inr hError)⟩
      | ended =>
          exact ⟨⟨[], eof_reads _ _ _⟩, Or.inr (Or.inr hError)⟩
      | more bytes hBytes =>
          exact ⟨helloFed_reads key hBytes, Or.inl (hLe _ rfl)⟩
      | refused bytes hBytes wb =>
          rcases helloFed_reads key hBytes with
            ⟨used, hReads⟩
          exact ⟨⟨used, hReads.of_eq rfl rfl⟩,
            Or.inr (Or.inr hError)⟩
      | answered bytes hBytes =>
          rcases helloFed_reads key hBytes with
            ⟨used, hReads⟩
          exact ⟨⟨used, hReads.of_eq rfl rfl⟩,
            Or.inl (hLe _ rfl)⟩
  | helloWrite _ _ _ _ _ hCall =>
      cases hCall with
      | failed =>
          exact ⟨⟨[], sendError_reads _ _⟩,
            Or.inr (Or.inr hError)⟩
      | more n =>
          exact ⟨⟨[], sendPending_reads _ _ _⟩,
            Or.inl (hLe _ rfl)⟩
      | refused n =>
          exact ⟨⟨[], sendPending_reads _ _ _⟩,
            Or.inr (Or.inl hDone)⟩
      | userpass n =>
          exact ⟨⟨[], (sendPending_reads key n s).of_eq rfl
            rfl⟩, Or.inl (hLe _ rfl)⟩
      | request n =>
          exact ⟨⟨[], (sendPending_reads key n s).of_eq rfl
            rfl⟩, Or.inl (hLe _ rfl)⟩
  | authRead _ _ _ hCall =>
      cases hCall with
      | failed => exact ⟨⟨[], .refl _⟩, Or.inr (Or.inr hError)⟩
      | ended =>
          exact ⟨⟨[], eof_reads _ _ _⟩, Or.inr (Or.inr hError)⟩
      | more bytes hBytes =>
          exact ⟨authFed_reads key hBytes, Or.inl (hLe _ rfl)⟩
      | rejected bytes hBytes processed hProcess =>
          rcases authFed_reads key hBytes with
            ⟨used, hReads⟩
          exact ⟨⟨_, (hReads.of_eq rfl rfl).trans
            hProcess.reads⟩, Or.inr (Or.inr hError)⟩
      | answered bytes hBytes _ _ processed hProcess =>
          rcases authFed_reads key hBytes with
            ⟨used, hReads⟩
          refine ⟨⟨_, (hReads.of_eq rfl rfl).trans
            hProcess.reads⟩, Or.inl ?_⟩
          cases hProcess <;> exact hLe _ rfl
  | authWrite _ _ _ hCall =>
      rcases authReply_eq s with ⟨wb, hReply⟩
      have hReplied : Reads s.conn (authReply s).conn [] := by
        rw [hReply]
        exact (Reads.refl s.conn).of_eq rfl rfl
      have hErrorToo : (authReply s).conn.errorState =
          MNG_ERROR := by
        rw [hReply]
        exact hError
      have hDoneToo : (authReply s).conn.doneState =
          MNG_DONE := by
        rw [hReply]
        exact hDone
      cases hCall with
      | failed =>
          exact ⟨⟨_, hReplied.trans (sendError_reads _ _)⟩,
            Or.inr (Or.inr hErrorToo)⟩
      | more n =>
          exact ⟨⟨_, hReplied.trans (sendPending_reads key n
            _)⟩, Or.inl (hLe _ rfl)⟩
      | refused n =>
          exact ⟨⟨_, hReplied.trans (sendPending_reads key n
            _)⟩, Or.inr (Or.inl hDoneToo)⟩
      | passed n =>
          exact ⟨⟨_, hReplied.trans ((sendPending_reads key n
            _).of_eq rfl rfl)⟩, Or.inl (hLe _ rfl)⟩
  | request other hOther hRequest =>
      rw [hState] at hOther
      rw [Option.some.inj hOther] at hEarly
      rcases hRequest with hIs | hIs | hIs
      · rw [hIs] at hEarly
        exact absurd hEarly (by decide)
      · rw [hIs] at hEarly
        exact absurd hEarly (by decide)
      · rw [hIs] at hEarly
        exact absurd hEarly (by decide)

/- Who stays in a state does nothing more. -/
theorem MngJump.stays
    (h : MngJump key a s next u)
    (hState : s.conn.current = some next) : u = s := by
  cases h with
  | stay => rfl
  | plain _ _ hNot => exact absurd hState hNot
  | userpassRead hNot => exact absurd hState hNot
  | request _ _ hNot => exact absurd hState hNot

/- The parameters are read with a fresh parser. -/
theorem MngJump.params_start
    (h : MngJump key a s next u)
    (hNext : next = MNG_REQUEST_READ)
    (hState : s.conn.current ≠ some next)
    {blocks : List Block}
    (hBlocks : mngParamsBlocks s.conn.mngRequest.index =
      some blocks) :
    u.conn.mngRequest.index = s.conn.mngRequest.index ∧
      (u.conn.mngRequest.status = .succeeded →
        ParamsGoing [] u.conn.mngRequest) := by
  cases h with
  | stay _ hStays => exact absurd hStays hState
  | plain _ hPlain =>
      rw [hNext] at hPlain
      rcases hPlain with h | h | h | h | h <;> nomatch h
  | userpassRead => nomatch hNext
  | request _ _ _ _ _ _ hEnters =>
      cases hEnters with
      | index => nomatch hNext
      | params =>
          rw [mngRequestInit_eq (s := entered MNG_REQUEST_READ
            s) hBlocks]
          unfold mngParserInit
          split
          · exact ⟨rfl, fun _ => mngParams_start hBlocks rfl
              rfl⟩
          · exact ⟨rfl, fun hBad => nomatch hBad⟩

/- A call of `mng_request_index_read`, and the jump. -/
theorem IndexRead.carries
    (h : IndexRead s.conn r)
    (hTurn : MngTurn k key a s r)
    (hState : s.conn.current = some MNG_REQUEST_READ_INDEX)
    (hTrail : MngTrail admins s.conn)
    (hSettings : r.1.srv.settings = s.srv.settings)
    (hJump : MngJump key a r.1 r.2 u) :
    MngTrail admins u.conn ∧ Carries s u := by
  have hEarly := hTrail.early hState (by decide)
  have hJumped := hJump.jumped
  have hCurrent : r.1.conn.current =
      some MNG_REQUEST_READ_INDEX :=
    hTurn.current.trans hState
  rcases h.reads with ⟨used, hReads, hUsed⟩
  have hNone : u.conn.carriedOut = none := by
    by_cases hWrite : r.2 = MNG_REQUEST_WRITE
    · apply carriedOut_of_not_asked
      rw [hJumped.request (by rw [hWrite]; decide)
        (by rw [hWrite]; decide)]
      intro hStatus
      exact asked_of_params_none (h.answers hWrite hStatus)
    · exact hJumped.not_carried hReads hEarly hWrite
  refine ⟨hTrail.quiet hReads hJumped (fun _ => hEarly) ?_
    hNone, Or.inl ⟨?_, hJump.settings.trans hSettings⟩⟩
  · intro hNext hStatus
    have hMoves : r.1.conn.current ≠ some r.2 := by
      rw [hCurrent, hNext]
      decide
    rcases hTurn.heads (Or.inr hNext) hMoves with
      ⟨hBad, _⟩ | ⟨_, blocks, hBlocks⟩
    · nomatch hNext.symm.trans hBad
    · rcases hJump.params_start hNext hMoves hBlocks with
        ⟨hIndex, hStart⟩
      refine ⟨[], hStart hStatus, ?_⟩
      have hSuffix := hReads.suffix [] hTrail.unread
      rw [hUsed hNext] at hSuffix
      rw [hIndex, hJumped.buffer, hJumped.read]
      exact hSuffix
  · rw [hNone, carriedOut_of_not_entered hEarly]

/- A call of `mng_request_write`, and the jump. -/
theorem mngRequestWrite_carries
    (hState : s.conn.current = some MNG_REQUEST_WRITE)
    (hTrail : MngTrail admins s.conn)
    (hTurn : MngTurn k key a s (mngRequestWrite key a s))
    (hJump : MngJump key a (mngRequestWrite key a s).1
      (mngRequestWrite key a s).2 u) :
    MngTrail admins u.conn ∧ Carries s u := by
  have hCall : Reads s.conn (mngRequestWrite key a s).1.conn
        [] ∧
      (mngRequestWrite key a s).1.conn.mngRequest =
        s.conn.mngRequest ∧
      MNG_REQUEST_WRITE ≤ (mngRequestWrite key a s).2 := by
    unfold mngRequestWrite
    split
    · exact ⟨sendError_reads _ _, rfl,
        (by decide : MNG_REQUEST_WRITE ≤ MNG_ERROR)⟩
    · dsimp only
      split
      · exact ⟨sendPending_reads _ _ _, rfl, Nat.le_refl _⟩
      · exact ⟨sendPending_reads _ _ _, rfl,
          (by decide : MNG_REQUEST_WRITE ≤ MNG_DONE)⟩
  have hCurrent := hTurn.current.trans hState
  have hService := hTurn.service
  have hSettings : u.srv.settings = s.srv.settings :=
    hJump.settings.trans (mngRequestWrite_settings _ _ _)
  generalize mngRequestWrite key a s = r
    at hCall hCurrent hService hJump
  rcases hCall with ⟨hReads, hRequest, hLate⟩
  have hJumped := hJump.jumped
  have hMng : u.conn.mngRequest = s.conn.mngRequest := by
    refine (hJumped.request ?_ ?_).trans hRequest
    · intro hBad
      rw [hBad] at hLate
      exact absurd hLate (by decide)
    · intro hBad
      rw [hBad] at hLate
      exact absurd hLate (by decide)
  have hEnter : .enter MNG_REQUEST_WRITE ∈ u.conn.log ↔
      .enter MNG_REQUEST_WRITE ∈ s.conn.log := by
    constructor
    · intro hIn
      rcases hJumped.enter hIn with hOld | ⟨hNext, hMoves⟩
      · exact (hReads.enter _).mp hOld
      · rw [hNext] at hMoves
        exact absurd hCurrent hMoves
    · intro hIn
      exact hJumped.kept _ ((hReads.enter _).mpr hIn)
  have hSame : u.conn.carriedOut = s.conn.carriedOut := by
    unfold Conn.carriedOut
    simp only [hMng, hEnter, hJumped.service, hService]
  refine ⟨⟨?_, ?_, ?_, ?_⟩, Or.inl ⟨hSame, hSettings⟩⟩
  · rw [hJumped.buffer, hJumped.read]
    exact hReads.unread hTrail.unread
  · intro _
    exact ⟨r.2, hJumped.current, hLate⟩
  · intro hReading
    rw [hJumped.current] at hReading
    rw [Option.some.inj hReading] at hLate
    exact absurd hLate (by decide)
  · intro r' hCarried
    rw [hSame] at hCarried
    rcases hTrail.carried r' hCarried with ⟨hAdmit, hBytes⟩
    refine ⟨hAdmit.mono fun event hEvent =>
      hJumped.kept _ (hReads.mem hEvent), ?_⟩
    rw [hJumped.read]
    rcases hReads.log with ⟨events, hLog, _⟩
    rw [hLog, bytesRead_append]
    exact hBytes.trans (List.prefix_append _ _).isInfix

/- Carrying a request out only stores an answer. -/
theorem processMngParamsRequest_answers
    (s : St) :
    ∃ wb, (processMngParamsRequest s).conn =
      { s.conn with writeBuffer := wb } := by
  unfold processMngParamsRequest
  dsimp only
  split
  · split
    · exact marshal_conn _ _ _
    · exact marshal_conn _ _ _
  · split
    · exact ⟨s.conn.writeBuffer, rfl⟩
    · exact marshal_conn _ _ _
  · exact marshal_conn _ _ _
  · exact marshal_conn _ _ _
  · exact marshal_conn _ _ _

/- The parameters are complete, and the request is done. -/
theorem mngApplied_carries
    {attached : Attachment}
    {fed : List UInt8}
    (hState : s.conn.current = some MNG_REQUEST_READ)
    (hMng : s.conn.isSocks = false)
    (hTrail : MngTrail admins s.conn)
    (hAdmitted : Admitted s.conn.log admins.entries)
    (hStatus : s.conn.mngRequest.status = .succeeded)
    (hDone : (mngFed key (s.recvBytes a)
      s).conn.mngRequest.parser.current = .doneRead)
    (hFed : ParamsGoing fed s.conn.mngRequest)
    (hBytes : (s.conn.mngRequest.index :: fed) ++
        s.conn.readBuffer.pending <:+
      bytesRead s.conn.log)
    (hJump : MngJump key a
      (processMngParamsRequest ((mngFed key (s.recvBytes a)
        s).arm key.fd opWrite attached)) MNG_REQUEST_WRITE
      u) :
    MngTrail admins u.conn ∧ Carries s u := by
  have hEarly := hTrail.early hState (by decide)
  rcases hFed.fed key a with
    ⟨blocks, used, hBlocks, hSplit, hProgress⟩
  let before : St := (mngFed key (s.recvBytes a) s).arm
    key.fd opWrite attached
  have hReads : Reads s.conn before.conn used :=
    .recv rfl hSplit
  have hIndex : before.conn.mngRequest.index =
      s.conn.mngRequest.index := rfl
  rcases asked_of_message (m := before.conn.mngRequest)
    hBlocks hProgress hDone with
    ⟨asked, hAsked, hMessage, _, error, hParser⟩
  have hPolicy := processMngParamsRequest_policy (s := before)
    hAsked.symm hParser
  rcases processMngParamsRequest_answers before with
    ⟨wb, hAnswer⟩
  have hJumped := hJump.jumped
  change Jumped (processMngParamsRequest before).conn u.conn
    MNG_REQUEST_WRITE at hJumped
  have hAfter : Reads s.conn
      (processMngParamsRequest before).conn used := by
    apply hReads.of_eq
    · rw [hAnswer]
    · rw [hAnswer]
  have hCurrent : (processMngParamsRequest
      before).conn.current ≠ some MNG_REQUEST_WRITE := by
    rw [hAnswer]
    show s.conn.current ≠ _
    rw [hState]
    decide
  have hRequest : u.conn.mngRequest =
      before.conn.mngRequest := by
    rw [hJumped.request (by decide) (by decide), hAnswer]
  have hService : u.conn.isSocks = false := by
    rw [hJumped.service, hAnswer]
    exact hMng
  have hCarried : u.conn.carriedOut = some asked := by
    unfold Conn.carriedOut
    rw [if_pos ⟨hService, by rw [hRequest]; exact hStatus,
      hJumped.entered rfl hCurrent⟩, hRequest]
    exact asked_of_parserAt hAsked.symm hParser
  refine ⟨⟨?_, ?_, ?_, ?_⟩, Or.inr ⟨carriedOut_of_not_entered
    hEarly, asked, hCarried, ?_, hState, hJumped.current,
      ?_⟩⟩
  · rw [hJumped.buffer, hJumped.read]
    exact hAfter.unread hTrail.unread
  · intro _
    exact ⟨_, hJumped.current, Nat.le_refl _⟩
  · intro hReading
    nomatch hJumped.current.symm.trans hReading
  · intro other hOther
    rw [hCarried] at hOther
    rw [← Option.some.inj hOther]
    refine ⟨hAdmitted.mono fun event hEvent =>
      hJumped.kept _ (hAfter.mem hEvent), ?_⟩
    have hSuffix := hAfter.suffix _ hBytes
    rw [hJumped.read]
    refine List.IsInfix.trans ?_ hSuffix.isInfix
    unfold Adjustment.bytes
    rw [hAsked, hIndex, ← hMessage]
    exact (List.prefix_append _ _).isInfix
  · rw [Server.policy_of_settings hJump.settings]
    exact hPolicy
  · rcases processMngParamsRequest_replied (s := before)
      hAsked.symm hParser with ⟨part, hPart, hSaid⟩
    have hQuiet : Silent s.conn before.conn :=
      .single rfl rfl rfl
    refine ⟨part, hPart, hJump.silent.replied.trans
      (hSaid.trans ?_)⟩
    rw [hQuiet.replied]

/- A call of `mng_request_read`, and the jump. -/
theorem ParamsRead.carries
    {attached : Attachment}
    (h : ParamsRead key a s attached r)
    (hTurn : MngTurn k key a s r)
    (hState : s.conn.current = some MNG_REQUEST_READ)
    (hMng : s.conn.isSocks = false)
    (hTrail : MngTrail admins s.conn)
    (hAdmitted : Admitted s.conn.log admins.entries)
    (hJump : MngJump key a r.1 r.2 u) :
    MngTrail admins u.conn ∧ Carries s u := by
  have hEarly := hTrail.early hState (by decide)
  have hBefore := carriedOut_of_not_entered hEarly
  have hJumped := hJump.jumped
  have hCurrent := hTurn.current.trans hState
  have hKept : r.1.srv.settings = s.srv.settings →
      u.conn.carriedOut = none → Carries s u :=
    fun hSame hNone => Or.inl
      ⟨hNone.trans hBefore.symm, hJump.settings.trans hSame⟩
  -- a call after which the connection ends
  have hEnds : ∀ used, Reads s.conn r.1.conn used →
      r.2 = MNG_ERROR → r.1.srv.settings = s.srv.settings →
        MngTrail admins u.conn ∧ Carries s u := by
    intro used hReads hError hSame
    have hNone := hJumped.not_carried hReads hEarly (by
      rw [hError]
      decide)
    refine ⟨hTrail.quiet hReads hJumped (fun _ => hEarly) ?_
      hNone, hKept hSame hNone⟩
    intro hBad
    nomatch hError.symm.trans hBad
  cases h with
  | refused hStatus =>
      rcases mngRefuse_conn key s.conn.mngRequest.status s with
        ⟨⟨wb, hConn⟩, hNext⟩
      have hReads : Reads s.conn (mngRefuse key
          s.conn.mngRequest.status s).1.conn [] := by
        apply (Reads.refl s.conn).of_eq
        · rw [hConn]
        · rw [hConn]
      have hNone : u.conn.carriedOut = none := by
        apply carriedOut_of_not_asked
        rw [hJumped.request, hConn]
        · exact fun hBad => absurd hBad hStatus
        · rcases hNext with hIs | hIs
          · rw [hIs]
            decide
          · rw [hIs]
            decide
        · rcases hNext with hIs | hIs
          · rw [hIs]
            decide
          · rw [hIs]
            decide
      refine ⟨hTrail.quiet hReads hJumped (fun _ => hEarly) ?_
        hNone, hKept (mngRefuse_settings _ _ _) hNone⟩
      intro hBad
      rw [hBad] at hNext
      rcases hNext with hIs | hIs
      · nomatch hIs
      · nomatch hIs
  | ended hStatus hBytes =>
      exact hEnds [] (eof_reads _ _ _) rfl rfl
  | failed hStatus hError =>
      rcases recv_split (s := s) (a := a) Parser.reader
        s.conn.mngRequest.parser rfl with ⟨used, hSplit⟩
      exact hEnds used (.recv rfl hSplit) rfl rfl
  | more hStatus hSome hGoing =>
      rcases hTrail.reading hState hStatus with
        ⟨fed, hFed, hBytes⟩
      rcases hFed.fed key a with
        ⟨blocks, used, hBlocks, hSplit, hProgress⟩
      have hReads : Reads s.conn
          (mngFed key (s.recvBytes a) s).conn used :=
        .recv rfl hSplit
      have hNone := hJumped.not_carried
        (r := (mngFed key (s.recvBytes a) s,
          MNG_REQUEST_READ)) hReads hEarly
          (fun hBad => nomatch hBad)
      refine ⟨hTrail.quiet (r := (mngFed key (s.recvBytes a)
        s, MNG_REQUEST_READ)) hReads hJumped
          (fun _ => hEarly) ?_ hNone, hKept rfl hNone⟩
      intro _ _
      have hStill := hJump.stays hCurrent
      subst hStill
      exact ⟨fed ++ used, ⟨⟨blocks, hBlocks, hProgress⟩,
        hGoing⟩, hReads.suffix _ hBytes⟩
  | applied hStatus hSome hDone =>
      rcases hTrail.reading hState hStatus with
        ⟨fed, hFed, hBytes⟩
      exact mngApplied_carries hState hMng hTrail hAdmitted
        hStatus hDone hFed hBytes hJump

/- A call and the jump that follows it. -/
theorem MngTurn.carries
    (h : MngTurn k key a s r)
    (hMng : s.conn.isSocks = false)
    (hTrail : MngTrail admins s.conn)
    (hIndex : IndexAwaited s.conn)
    (hAdmitted : ∀ state, s.conn.current = some state →
      Managing state → Admitted s.conn.log admins.entries)
    (hJump : MngJump key a r.1 r.2 u) :
    MngTrail admins u.conn ∧ Carries s u := by
  have hHandshake : ∀ state, s.conn.current = some state →
      state < MNG_REQUEST_READ_INDEX →
      r.1.srv.settings = s.srv.settings →
        MngTrail admins u.conn ∧ Carries s u := by
    intro state hState hBefore hSettings
    rcases h.handshake hState hBefore hMng with
      ⟨⟨used, hReads⟩, hNext⟩
    have hEarly := hTrail.early hState
      (Nat.lt_trans hBefore (by decide))
    have hNot : r.2 ≠ MNG_REQUEST_WRITE ∧
        r.2 ≠ MNG_REQUEST_READ := by
      rcases hNext with hLe | hIs | hIs
      · constructor
        · intro hBad
          rw [hBad] at hLe
          exact absurd hLe (by decide)
        · intro hBad
          rw [hBad] at hLe
          exact absurd hLe (by decide)
      · rw [hIs]
        decide
      · rw [hIs]
        decide
    have hNone := hJump.jumped.not_carried hReads hEarly
      hNot.1
    refine ⟨hTrail.quiet hReads hJump.jumped
      (fun _ => hEarly) (fun hBad => absurd hBad hNot.2) hNone,
      Or.inl ⟨?_, hJump.settings.trans hSettings⟩⟩
    rw [hNone, carriedOut_of_not_entered hEarly]
  have hTurn := h
  cases h with
  | helloRead hState _ _ _ _ hCall =>
      refine hHandshake _ hState (by decide) ?_
      cases hCall <;> rfl
  | helloWrite hState _ _ _ _ hCall =>
      refine hHandshake _ hState (by decide) ?_
      cases hCall <;> rfl
  | authRead hState _ _ hCall =>
      refine hHandshake _ hState (by decide) ?_
      cases hCall with
      | rejected bytes hBytes processed hProcess =>
          exact hProcess.shared.settings
      | answered bytes hBytes hSome hDone processed
          hProcess =>
          exact hProcess.shared.settings
      | _ => rfl
  | authWrite hState _ _ hCall =>
      refine hHandshake _ hState (by decide) ?_
      rcases authReply_eq s with ⟨wb, hReply⟩
      cases hCall <;> (rw [hReply]; rfl)
  | request state hState _ hShape _ _ hHandled hFd =>
      cases hHandled with
      | index =>
          exact (mngRequestIndexRead_index
            (hIndex hMng hState)).carries hTurn hState hTrail
              (mngRequestIndexRead_settings _ _ _) hJump
      | params =>
          rcases hShape.client_has with ⟨interest, hClient⟩
          rw [← hFd] at hClient
          exact (mngRequestRead_outcome hClient a).carries hTurn
            hState hMng hTrail
              (hAdmitted _ hState (Or.inr (Or.inl rfl))) hJump
      | answer =>
          exact mngRequestWrite_carries hState hTrail hTurn
            hJump

/- An event that reads nothing and enters nothing. -/
theorem MngTrail.note
    (h : MngTrail admins c)
    (event : Ev)
    (hRead : event.read = [])
    (hEnter : ∀ state, event ≠ .enter state)
    (hLog : d = { c with log := c.log ++ [event] }) :
    MngTrail admins d := by
  subst hLog
  have hBytes : bytesRead (c.log ++ [event]) =
      bytesRead c.log := by
    rw [bytesRead_append]
    show bytesRead c.log ++ (event.read ++ []) = _
    rw [hRead, List.append_nil]
    exact List.append_nil _
  have hSame : .enter MNG_REQUEST_WRITE ∈ c.log ++ [event] ↔
      .enter MNG_REQUEST_WRITE ∈ c.log := by
    rw [List.mem_append, List.mem_singleton]
    exact or_iff_left fun hBad => hEnter _ hBad.symm
  refine ⟨?_, ?_, ?_, ?_⟩
  · rw [hBytes]
    exact h.unread
  · rw [hSame]
    exact h.answering
  · rw [hBytes]
    exact h.reading
  · intro r hCarried
    have hOld : c.carriedOut = some r := by
      unfold Conn.carriedOut at hCarried ⊢
      simpa only [hSame] using hCarried
    rcases h.carried r hOld with ⟨hAdmitted, hInfix⟩
    rw [hBytes]
    exact ⟨hAdmitted.mono fun _ hEvent =>
      List.mem_append_left _ hEvent, hInfix⟩

/- The first state is entered with an empty history. -/
theorem MngTrail.first
    (h : MngTrail admins s.conn)
    (hState : s.conn.current = none)
    (key : Key)
    (a : Answers) :
    MngTrail admins
      (helloReadInit key a (entered HELLO_READ s)).conn := by
  have hEarly : .enter MNG_REQUEST_WRITE ∉ s.conn.log := by
    intro hEntered
    rcases h.answering hEntered with ⟨state, hBad, _⟩
    rw [hState] at hBad
    nomatch hBad
  have hInit : ∃ event, event.read = [] ∧
      (∀ state, event ≠ .enter state) ∧
      (helloReadInit key a (entered HELLO_READ s)).conn.log =
        s.conn.log ++ [.enter HELLO_READ, event] ∧
      (helloReadInit key a
        (entered HELLO_READ s)).conn.readBuffer =
          s.conn.readBuffer ∧
      (helloReadInit key a
        (entered HELLO_READ s)).conn.current =
          some HELLO_READ := by
    unfold helloReadInit
    split
    · exact ⟨.helloInit s.srv.authMethod, rfl,
        (fun _ hBad => nomatch hBad),
        List.append_assoc _ _ _, rfl, rfl⟩
    · exact ⟨.outOfMemory .hello, rfl,
        (fun _ hBad => nomatch hBad),
        List.append_assoc _ _ _, rfl, rfl⟩
  rcases hInit with
    ⟨event, hRead, hEnter, hLog, hBuffer, hCurrent⟩
  have hNot : .enter MNG_REQUEST_WRITE ∉ (helloReadInit key a
      (entered HELLO_READ s)).conn.log := by
    rw [hLog]
    intro hBad
    rcases List.mem_append.mp hBad with hOld | hNew
    · exact hEarly hOld
    · rcases List.mem_cons.mp hNew with hBad | hLast
      · nomatch hBad
      · exact hEnter _ (List.mem_singleton.mp hLast).symm
  refine ⟨?_, fun hBad => absurd hBad hNot, ?_, ?_⟩
  · rw [hBuffer, hLog, bytesRead_append]
    refine h.unread.trans ?_
    have hNone : bytesRead [.enter HELLO_READ, event] = [] := by
      show [] ++ (event.read ++ []) = []
      rw [hRead]
      rfl
    rw [hNone, List.append_nil]
  · intro hBad
    nomatch hCurrent.symm.trans hBad
  · intro r hBad
    rw [carriedOut_of_not_entered hNot] at hBad
    nomatch hBad

/-
  What is kept of a management connection: how it waits for
  an index, how it was admitted, and its trail.
-/
def MngKept
    (admins : UserTable)
    (_ : ConnId)
    (c : Conn) : Prop :=
  IndexAwaited c ∧
    (c.isSocks = false → MngAdmission admins c) ∧
      (c.isSocks = false → MngTrail admins c)

theorem mngKept_preserved : Preserved MngKept := by
  have hIndex := indexAwaited_preserved
  have hAdmission := mngAdmission_preserved
  constructor
  · intro admins k isSocks client
    refine ⟨hIndex.born admins k isSocks client,
      hAdmission.born admins k isSocks client, fun _ => ?_⟩
    refine ⟨List.nil_suffix, (fun hBad => nomatch hBad),
      (fun hBad => nomatch hBad), ?_⟩
    intro r hBad
    rw [carriedOut_of_not_entered List.not_mem_nil] at hBad
    nomatch hBad
  · intro admins k c addresses hState hBefore
    refine ⟨hIndex.resolution admins k c addresses hState
      hBefore.1, hAdmission.resolution admins k c addresses
        hState hBefore.2.1, fun hMng => ?_⟩
    have hHere := hBefore.2.2 hMng
    exact ⟨hHere.unread, hHere.answering, hHere.reading,
      hHere.carried⟩
  · intro k s request hState hBefore
    refine ⟨hIndex.notified k s request hState hBefore.1,
      hAdmission.notified k s request hState hBefore.2.1,
      fun hMng => ?_⟩
    exact (hBefore.2.2 hMng).note (.notified k request) rfl
      (fun _ hBad => nomatch hBad) rfl
  · intro k key a s hState hBefore
    refine ⟨hIndex.first k key a s hState hBefore.1,
      hAdmission.first k key a s hState hBefore.2.1,
      fun hMng => ?_⟩
    refine (hBefore.2.2 ?_).first hState key a
    unfold helloReadInit at hMng
    split at hMng
    · exact hMng
    · exact hMng
  · intro k key a s r u hSocks hSound hOwns hTurn hJump hBefore
    refine ⟨hIndex.socks k key a s r u hSocks hSound hOwns
      hTurn hJump hBefore.1, hAdmission.socks k key a s r u
        hSocks hSound hOwns hTurn hJump hBefore.2.1,
      fun hMng => ?_⟩
    have hService := hJump.service.trans
      (hTurn.service hSound hOwns)
    rw [hMng, hSocks] at hService
    nomatch hService
  · intro k key a s r u hMng hTurn hJump hBefore
    refine ⟨hIndex.mng k key a s r u hMng hTurn hJump hBefore.1,
      hAdmission.mng k key a s r u hMng hTurn hJump
        hBefore.2.1, fun _ => ?_⟩
    exact (hTurn.carries hMng (hBefore.2.2 hMng) hBefore.1
      (hBefore.2.1 hMng).inside hJump).1

/- An event of a management connection. -/
theorem MngEvent.carries
    (h : MngEvent k key a s t)
    (hMng : s.conn.isSocks = false)
    (hKept : MngKept admins k s.conn) : Carries s t := by
  cases h with
  | going r _ hTurn hJump hNext =>
      exact (hTurn.carries hMng (hKept.2.2 hMng) hKept.1
        (hKept.2.1 hMng).inside hJump).2
  | ends r u hTurn hJump hNext =>
      have hCarries := (hTurn.carries hMng (hKept.2.2 hMng)
        hKept.1 (hKept.2.1 hMng).inside hJump).2
      have hDone : (mngDone u).srv.settings =
          u.srv.settings :=
        (doneFd_shared u.conn.clientFd u).settings
      unfold Carries
      rw [mngDone_conn, Server.policy_of_settings hDone, hDone]
      exact hCarries

end Trails

end Socks5d

------------------------------------------------------------
-- The Settings Over A Run
------------------------------------------------------------

namespace Socks5d

namespace World

/- The request of an accepted connection that is done. -/
def carried
    (w : World)
    (k : ConnId) : Option Adjustment :=
  if k < w.next then (w.conn k).carriedOut else none

/- The connection whose slot an event is on. -/
def served (w : World) :
    Label → Option ConnId
| .read fd _ =>
    (w.srv.sel.fds fd).bind fun item => item.attached.data?
| .write fd _ =>
    (w.srv.sel.fds fd).bind fun item => item.attached.data?
| _ => none

/- The request that a connection completes in a step. -/
def completed
    (w w' : World)
    (k : ConnId) : Option (ConnId × Adjustment) :=
  if w.carried k = none then
    (w'.carried k).map fun r => (k, r)
  else none

end World

/- The requests completed in a run, in their order. -/
def adjustments :
    List Label → World → List (ConnId × Adjustment)
| [], _ => []
| l :: rest, w =>
    let next := if Enabled w l then exec w l else w
    ((w.served l).bind (w.completed next)).toList ++
      adjustments rest next

/- The policy after some requests. -/
def Policy.applyAll
    (p : Policy)
    (requests : List (ConnId × Adjustment)) : Policy :=
  requests.foldl (fun p request => p.apply request.2) p

/- A step completes no request, or one. -/
inductive Adjusts (w w' : World) :
    Option (ConnId × Adjustment) → Prop where
  | none
      (hCarried : w'.carried = w.carried)
      (hPolicy : w'.srv.policy = w.srv.policy) :
      Adjusts w w' none
  | some
      (k : ConnId)
      (r : Adjustment)
      (hOld : k < w.next)
      (hBefore : w.carried k = none)
      (hCarried : w'.carried =
        Function.update w.carried k (some r))
      (hPolicy : w'.srv.policy = w.srv.policy.apply r) :
      Adjusts w w' (some (k, r))

section Runs

variable {w w' v : World}
variable {k : ConnId}
variable {fd : Fd}
variable {item : Item}

/- Only one connection is changed, and it carries the same. -/
theorem carried_put
    (h : k < w.next)
    (t : St) :
    (w.put k t).carried =
      Function.update w.carried k t.conn.carriedOut := by
  funext j
  unfold World.carried
  show (if j < w.next then _ else _) = _
  by_cases hSame : j = k
  · subst hSame
    rw [if_pos h, Function.update_self, w.put_conn_self]
  · rw [Function.update_of_ne hSame, w.put_conn_of_ne _ hSame]

theorem carried_put_same
    (h : k < w.next)
    {t : St}
    (hSame : t.conn.carriedOut = (w.conn k).carriedOut) :
    (w.put k t).carried = w.carried := by
  rw [carried_put h, hSame]
  have hIs : (w.conn k).carriedOut = w.carried k :=
    (if_pos h).symm
  rw [hIs, Function.update_eq_self]

/- A SOCKS connection carries nothing out. -/
theorem carriedOut_socks
    {c : Conn}
    (h : c.isSocks = true) : c.carriedOut = none := by
  apply if_neg
  rintro ⟨hMng, _⟩
  rw [h] at hMng
  nomatch hMng

theorem carried_socks
    (h : k < w.next)
    (hSocks : (w.conn k).isSocks = true)
    {t : St}
    (hStill : t.conn.isSocks = true) :
    (w.put k t).carried = w.carried := by
  apply carried_put_same h
  rw [carriedOut_socks hStill, carriedOut_socks hSocks]

/- A list of addresses is no part of a request. -/
theorem carried_resolution
    (j : ConnId)
    (addresses : List Addrinfo)
    (srv : Server) :
    World.carried { w with
      srv := srv
      conn := Function.update w.conn j
        { w.conn j with originResolution := addresses } } =
      w.carried := by
  funext i
  unfold World.carried
  show (if i < w.next then _ else _) = _
  by_cases hSame : i = j
  · subst hSame
    dsimp only
    rw [Function.update_self]
    rfl
  · dsimp only
    rw [Function.update_of_ne hSame]

/- A new connection has carried nothing out. -/
theorem carried_accept
    (isSocks : Bool)
    (client : Fd) :
    (w.accept isSocks client).carried = w.carried := by
  funext j
  unfold World.carried
  show (if j < w.next + 1 then
      (Function.update w.conn w.next _ j).carriedOut
    else none) = _
  by_cases hNew : j = w.next
  · subst hNew
    rw [Function.update_self, if_pos (Nat.lt_succ_self _),
      if_neg (Nat.lt_irrefl _)]
    exact carriedOut_of_not_entered List.not_mem_nil
  · rw [Function.update_of_ne hNew]
    by_cases hOld : j < w.next
    · rw [if_pos hOld, if_pos (Nat.lt_succ_of_lt hOld)]
    · rw [if_neg hOld, if_neg fun hLt =>
        (Nat.lt_succ_iff_lt_or_eq.mp hLt).elim hOld hNew]

theorem helloReadInit_current
    (key : Key)
    (a : Answers)
    (s : St) :
    (helloReadInit key a (entered HELLO_READ s)).conn.current =
      some HELLO_READ := by
  unfold helloReadInit
  split
  · rfl
  · rfl

/- The first state has nothing to do with a request. -/
theorem first_carriedOut
    {s : St}
    (hMng : s.conn.isSocks = false)
    {admins : UserTable}
    (hKept : MngKept admins k s.conn)
    (key : Key)
    (a : Answers) :
    (handleFirst clientMng key a s).conn.carriedOut =
      s.conn.carriedOut := by
  rw [handleFirst_eq rfl]
  split
  · rename_i hState
    have hTrail := hKept.2.2 hMng
    have hLater := hTrail.first hState key a
    rw [carriedOut_of_not_entered (hLater.early
      (helloReadInit_current key a s) (by decide))]
    symm
    apply carriedOut_of_not_entered
    intro hEntered
    rcases hTrail.answering hEntered with ⟨state, hBad, _⟩
    rw [hState] at hBad
    nomatch hBad
  · rfl

/- A small step completes no request, or one. -/
theorem Micro.adjusts
    (h : Micro w w')
    (hInv : Inv w)
    (hKept : ∀ k < w.next,
      MngKept w.srv.admins k (w.conn k)) :
    ∃ request, Adjusts w w' request := by
  cases h with
  | accepted isSocks client =>
      exact ⟨none, .none (carried_accept isSocks client) rfl⟩
  | socks k key a interest t hLive hSocks hKey hArmed hEvent
      hAfter =>
      rcases hInv.first hLive clientStatbl rfl key
        a with ⟨hSrv, hSound, hOwns⟩
      have hSettings : t.srv.settings = w.srv.settings := by
        rw [← hSrv]
        cases hEvent.threads hSound hOwns with
        | same hSame => exact hSame.settings
        | started request hSame => exact hSame.settings
      refine ⟨none, .none (carried_socks hLive.1 hSocks ?_)
        (Server.policy_of_settings hSettings)⟩
      rw [hEvent.service hSound hOwns,
        first_conn clientStatbl rfl]
      exact hSocks
  | mng k key a t hLive hMng hEvent hAfter =>
      rcases hInv.first hLive clientMng rfl key a
        with ⟨hSrv, _⟩
      have hStarted := mngKept_preserved.started
        (s := w.view k) key a clientMng rfl (hKept k hLive.1)
      have hSame := first_carriedOut (s := w.view k) hMng
        (hKept k hLive.1) key a
      have hService := (first_conn clientMng rfl key a
        (w.view k)).trans hMng
      rcases hEvent.carries hService hStarted with
        ⟨hCarried, hSettings⟩ | ⟨hNone, r, hSome, hPolicy, _⟩
      · refine ⟨none, .none (carried_put_same hLive.1
          (hCarried.trans hSame)) ?_⟩
        apply Server.policy_of_settings
        rw [← hSrv]
        exact hSettings
      · refine ⟨some (k, r), .some k r hLive.1 ?_ ?_ ?_⟩
        · rw [hSame] at hNone
          exact (if_pos hLive.1).trans hNone
        · rw [carried_put hLive.1, hSome]
        · rw [← hSrv]
          exact hPolicy
  | block job rest a t hJobs hWaits hEvent hAfter =>
      have hOwns := (hInv.wired _ hWaits.live).owns
      have hNoted : Owns job.starter
          (w.notified job rest).srv.sel
          (w.notified job rest).conn :=
        hOwns.of_eq rfl rfl rfl
      have hSettings : t.srv.settings = w.srv.settings := by
        cases hEvent.threads hInv.sound hNoted with
        | same hSame => exact hSame.settings
        | started request hSame => exact hSame.settings
      refine ⟨none, .none (carried_socks hWaits.accepted
        hWaits.service ?_)
          (Server.policy_of_settings hSettings)⟩
      rw [hEvent.service hInv.sound hNoted]
      exact hWaits.service
  | threadStart i t p =>
      exact ⟨none, .none (carried_resolution _ _ _) rfl⟩
  | threadDone i t addresses a =>
      exact ⟨none, .none (carried_resolution _ _ _) rfl⟩

/- What is kept of every management connection. -/
theorem reachable_kept
    (h : server.Reachable w) :
    ∀ k < w.next, MngKept w.srv.admins k (w.conn k) :=
  fun _ hOld => conn_invariant mngKept_preserved h hOld

theorem Micro.kept
    (h : Micro w w')
    (hInv : Inv w)
    (hKept : ∀ k < w.next,
      MngKept w.srv.admins k (w.conn k)) :
    ∀ k < w'.next, MngKept w'.srv.admins k (w'.conn k) := by
  intro k hLt
  rw [h.admins hInv]
  exact mngKept_preserved.change hInv hKept (h.change hLt)

/- Notifications complete no request. -/
theorem Inv.loop_adjusts
    (h : Inv w)
    (hKept : ∀ k < w.next,
      MngKept w.srv.admins k (w.conn k))
    (a : Nat → Answers)
    (turns : Nat) :
    (notificationLoop a turns w).carried = w.carried ∧
      (notificationLoop a turns w).srv.policy =
        w.srv.policy := by
  refine Inv.loop_rule
    (P := fun v => ∀ k < v.next,
      MngKept v.srv.admins k (v.conn k))
    (R := fun v u => u.carried = v.carried ∧
      u.srv.policy = v.srv.policy)
    (fun _ => ⟨rfl, rfl⟩) ?_ h hKept a turns
  intro v job rest answers hInv hBefore hJobs
  have hTurn := hInv.block_micro hJobs answers
  refine ⟨hTurn.kept hInv hBefore, ?_⟩
  intro u hAfter
  have hWaits := hInv.jobs job (by
    rw [hJobs]
    exact List.mem_cons_self)
  have hSame : (handleBlockTurn answers v).carried =
      v.carried := by
    have hStill := hTurn.service hInv hWaits.accepted
    rw [hInv.block_turn hJobs answers] at hStill ⊢
    apply carried_socks hWaits.accepted hWaits.service
    rw [v.put_conn_self] at hStill
    exact hStill.trans hWaits.service
  have hPolicy := Server.policy_of_settings
    (hInv.block_settings
      (fun k hLt hMng hState hStatus => by
        rcases ((hBefore k hLt).2.2 hMng).reading hState
          hStatus with ⟨fed, hFed, _⟩
        exact ⟨fed, hFed⟩) hJobs answers)
  exact ⟨hAfter.1.trans hSame, hAfter.2.trans hPolicy⟩

/- A request is completed on a slot of its connection. -/
theorem Inv.served_of_changed
    (h : Inv w)
    (hKept : ∀ k < w.next,
      MngKept w.srv.admins k (w.conn k))
    {l : Label}
    (hOld : k < w.next)
    (hNext : k < (exec w l).next)
    (hChanged : (exec w l).carried k ≠ w.carried k) :
    w.served l = some k := by
  have hConn : (exec w l).conn k ≠ w.conn k := by
    intro hSame
    apply hChanged
    unfold World.carried
    rw [if_pos hOld, if_pos hNext, hSame]
  cases l with
  | read fd a =>
      unfold exec at hConn
      cases hItem : w.srv.sel.fds fd with
      | none =>
          simp only [hItem] at hConn
          exact absurd rfl hConn
      | some item =>
          have hServed : w.served (.read fd a) =
              item.attached.data? := by
            simp only [World.served, hItem, Option.bind_some]
          rw [hServed]
          simp only [hItem] at hConn
          by_contra hOther
          exact hConn (handleRead_conn hOld hOther a)
  | write fd a =>
      unfold exec at hConn
      cases hItem : w.srv.sel.fds fd with
      | none =>
          simp only [hItem] at hConn
          exact absurd rfl hConn
      | some item =>
          have hServed : w.served (.write fd a) =
              item.attached.data? := by
            simp only [World.served, hItem, Option.bind_some]
          rw [hServed]
          simp only [hItem] at hConn
          by_contra hOther
          exact hConn (handleWrite_conn hOther a)
  | notify a =>
      exfalso
      apply hChanged
      exact congrFun (h.loop_adjusts hKept a _).1 k
  | threadStart i =>
      exfalso
      apply hChanged
      show (requestResolvBlocking i w).carried k = _
      unfold requestResolvBlocking
      split
      · rfl
      · split
        · rfl
        · exact congrFun (carried_resolution _ _ _) k
  | threadDone i addresses a =>
      exfalso
      apply hChanged
      show (requestResolvNotify i addresses a w).carried k = _
      unfold requestResolvNotify
      split
      · rfl
      · exact congrFun (carried_resolution _ _ _) k

/- The step that an event is adjusts as it is recorded. -/
theorem Inv.exec_adjusts
    (h : Inv w)
    (hKept : ∀ k < w.next,
      MngKept w.srv.admins k (w.conn k))
    {l : Label}
    (hEnabled : Enabled w l = true) :
    Adjusts w (exec w l)
      ((w.served l).bind (w.completed (exec w l))) := by
  have hNone : (exec w l).carried = w.carried →
      (w.served l).bind (w.completed (exec w l)) = none := by
    intro hSame
    cases w.served l with
    | none => rfl
    | some k =>
        show w.completed (exec w l) k = none
        unfold World.completed
        rw [hSame]
        by_cases hCarried : w.carried k = none
        · rw [if_pos hCarried, hCarried]
          rfl
        · rw [if_neg hCarried]
  rcases h.exec_micro hEnabled with
    ⟨a, rfl⟩ | hSame | hStep
  · have hLoop := h.loop_adjusts hKept a w.srv.jobs.length
    exact .none hLoop.1 hLoop.2
  · have hCarried : (exec w l).carried = w.carried := by
      rw [hSame]
    rw [hNone hCarried]
    exact .none hCarried (by rw [hSame])
  · rcases hStep.adjusts h hKept with ⟨request, hAdjusts⟩
    have hWhole := hAdjusts
    cases hAdjusts with
    | none hCarried hPolicy =>
        rw [hNone hCarried]
        exact hWhole
    | some k r hOld hBefore hCarried hPolicy =>
        have hNow : (exec w l).carried k = some r := by
          rw [hCarried, Function.update_self]
        have hServed : w.served l = some k := by
          apply h.served_of_changed hKept hOld
          · exact Nat.lt_of_lt_of_le hOld hStep.next_le
          · rw [hNow, hBefore]
            exact Option.some_ne_none r
        have hCompleted : w.completed (exec w l) k =
            some (k, r) := by
          unfold World.completed
          rw [if_pos hBefore, hNow]
          rfl
        rw [hServed]
        show Adjusts w (exec w l) (w.completed (exec w l) k)
        rw [hCompleted]
        exact hWhole

/- What the requests of a run have made of the world. -/
structure Adjusted
    (w v : World)
    (requests : List (ConnId × Adjustment)) : Prop where
  policy : v.srv.policy = w.srv.policy.applyAll requests
  once : (requests.map Prod.fst).Nodup
  fresh : ∀ request ∈ requests, w.carried request.1 = none
  exact : ∀ k r, v.carried k = some r ↔
    w.carried k = some r ∨ (k, r) ∈ requests

/- One more step in front of a run. -/
theorem Adjusted.cons
    {request : Option (ConnId × Adjustment)}
    {requests : List (ConnId × Adjustment)}
    (hFirst : Adjusts w w' request)
    (hRest : Adjusted w' v requests) :
    Adjusted w v (request.toList ++ requests) := by
  cases hFirst with
  | none hCarried hPolicy =>
      refine ⟨?_, hRest.once, ?_, ?_⟩
      · rw [hRest.policy, hPolicy]
        rfl
      · intro request hIn
        rw [← hCarried]
        exact hRest.fresh request hIn
      · intro k r
        rw [hRest.exact, hCarried]
        rfl
  | some k r hOld hBefore hCarried hPolicy =>
      have hNot : k ∉ requests.map Prod.fst := by
        intro hIn
        rcases List.mem_map.mp hIn with
          ⟨request, hRequest, rfl⟩
        have hFresh := hRest.fresh request hRequest
        rw [hCarried, Function.update_self] at hFresh
        nomatch hFresh
      have hOther : ∀ j, j ≠ k →
          w'.carried j = w.carried j := by
        intro j hNe
        rw [hCarried, Function.update_of_ne hNe]
      refine ⟨?_, List.nodup_cons.mpr ⟨hNot, hRest.once⟩, ?_,
        ?_⟩
      · rw [hRest.policy, hPolicy]
        rfl
      · intro request hIn
        rcases List.mem_cons.mp hIn with rfl | hLater
        · exact hBefore
        · have hFresh := hRest.fresh request hLater
          have hNe : request.1 ≠ k := by
            intro hSame
            apply hNot
            rw [← hSame]
            exact List.mem_map_of_mem hLater
          rw [← hOther _ hNe]
          exact hFresh
      · intro j r'
        rw [hRest.exact]
        by_cases hSame : j = k
        · subst hSame
          rw [hCarried, Function.update_self, hBefore]
          constructor
          · rintro (hIs | hLater)
            · right
              rw [← Option.some.inj hIs]
              exact List.mem_cons_self
            · exact Or.inr (List.mem_cons_of_mem _ hLater)
          · rintro (hBad | hIn)
            · nomatch hBad
            · rcases List.mem_cons.mp hIn with hIs | hLater
              · left
                rw [(Prod.mk.inj hIs).2]
              · exact Or.inr hLater
        · rw [hOther j hSame]
          apply or_congr_right
          show _ ↔ (j, r') ∈ (k, r) :: requests
          rw [List.mem_cons]
          refine ⟨Or.inr, fun hEither => ?_⟩
          rcases hEither with hBad | hLater
          · exact absurd (Prod.mk.inj hBad).1 hSame
          · exact hLater

/- A whole run adjusts as it is recorded. -/
theorem adjusted_runTo
    (labels : List Label)
    (h : server.Reachable w) :
    Adjusted w (runTo labels w) (adjustments labels w) := by
  induction labels generalizing w with
  | nil =>
      refine ⟨rfl, List.nodup_nil, ?_, ?_⟩
      · intro request hBad
        nomatch hBad
      · intro k r
        exact (or_iff_left List.not_mem_nil).symm
  | cons l rest ih =>
      unfold runTo adjustments
      by_cases hEnabled : Enabled w l = true
      · simp only [if_pos hEnabled]
        have hStep := (reachable_inv h).exec_adjusts
          (reachable_kept h) hEnabled
        exact .cons hStep (ih (h.step ⟨hEnabled, rfl⟩))
      · simp only [if_neg hEnabled]
        have hNone : (w.served l).bind (w.completed w) =
            none := by
          cases w.served l with
          | none => rfl
          | some k =>
              show w.completed w k = none
              unfold World.completed
              by_cases hCarried : w.carried k = none
              · rw [if_pos hCarried, hCarried]
                rfl
              · rw [if_neg hCarried]
        rw [hNone]
        exact ih h

/- From the start on, no completed request is missing. -/
theorem mem_adjustments
    (hInit : Initial w)
    (labels : List Label)
    (k : ConnId)
    (r : Adjustment) :
    (k, r) ∈ adjustments labels w ↔
      k < (runTo labels w).next ∧
        ((runTo labels w).conn k).carriedOut = some r := by
  have hStart : w.carried k = none := by
    apply if_neg
    rw [hInit.next]
    exact Nat.not_lt_zero k
  have hSome := (adjusted_runTo labels
    (.init hInit)).exact k r
  rw [hStart, or_iff_right (fun hBad => nomatch hBad)]
    at hSome
  rw [← hSome]
  unfold World.carried
  by_cases hLt : k < (runTo labels w).next
  · rw [if_pos hLt]
    exact ⟨fun hIs => ⟨hLt, hIs⟩, And.right⟩
  · rw [if_neg hLt]
    exact ⟨fun hBad => (nomatch hBad),
      fun hBad => absurd hBad.1 hLt⟩

/-
  Over every run the users, `auth_method` and
  `password_dissectors` are what the completed requests make
  of them one after the other. Each is of a management
  connection of its own, which an administrator logged in on
  and on which its bytes arrived in a row; and no request
  that was carried out is missing.
-/
theorem settings_sequential
    (hInit : Initial w)
    (labels : List Label) :
    (runTo labels w).srv.policy =
        w.srv.policy.applyAll (adjustments labels w) ∧
      ((adjustments labels w).map Prod.fst).Nodup ∧
      (∀ k r, (k, r) ∈ adjustments labels w ↔
        k < (runTo labels w).next ∧
          ((runTo labels w).conn k).carriedOut = some r) ∧
      ∀ request ∈ adjustments labels w,
        Admitted ((runTo labels w).conn request.1).log
            (runTo labels w).srv.admins.entries ∧
          request.2.bytes <:+: bytesRead
            ((runTo labels w).conn request.1).log := by
  have hReach : server.Reachable w := .init hInit
  have hAdjusted := adjusted_runTo labels hReach
  have hKept := reachable_kept (reachable_runTo labels hReach)
  refine ⟨hAdjusted.policy, hAdjusted.once,
    mem_adjustments hInit labels, ?_⟩
  rintro ⟨k, r⟩ hIn
  rcases (mem_adjustments hInit labels k r).mp hIn with
    ⟨hLt, hCarried⟩
  have hMng : ((runTo labels w).conn k).isSocks = false := by
    by_contra hSocks
    rw [Bool.not_eq_false] at hSocks
    rw [carriedOut_socks hSocks] at hCarried
    nomatch hCarried
  exact ((hKept k hLt).2.2 hMng).carried r hCarried

/- A server with the administrator `a`. -/
def oneAdminServer : World :=
  smallServer methodUsernamePassword ⟨fun _ => {}, 0⟩
    (addUser ⟨fun _ => {}, 0⟩ [0x61] [0x62])

/- Who logs in and turns authentication off. -/
def offRun : List Label :=
  disableAuthRun ++ [.read 5 { recv := some [1] }]

theorem settings_sequential_off :
    adjustments offRun oneAdminServer = [(0, .disableAuth 1)] ∧
      (runTo offRun oneAdminServer).srv.policy.authMethod =
        methodNoAuthenticationRequired := by
  have hRequests : adjustments offRun oneAdminServer =
      [(0, .disableAuth 1)] := by decide +kernel
  refine ⟨hRequests, ?_⟩
  rw [(settings_sequential (w := oneAdminServer)
    (smallServer_initial _ _ (by decide) (Or.inr rfl)) offRun).1,
    hRequests]
  rfl

end Runs

end Socks5d
