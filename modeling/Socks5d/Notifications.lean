import Socks5d.ConnRuns

/-
  Resolver notifications: every resolution that was started
  is reported once, to the connection that started it.

  Main declarations:
    * `pendingOf`, `Conn.notifications`, `Books`
    * `Micro.booked`, `reachable_booked`
    * `Label.JobMade`, `Inv.exec_lost`
    * `Resolving`, `reachable_resolving`
-/

------------------------------------------------------------
-- Pending Work
------------------------------------------------------------

namespace Socks5d

/- What is pending for one owner. -/
def pendingOf
    {ι ρ : Type}
    [DecidableEq ι]
    (i : ι)
    (work : List (ι × ρ)) : List ρ :=
  (work.filter fun entry => entry.1 = i).map Prod.snd

section Pending

variable {ι ρ : Type}
variable [DecidableEq ι]
variable {i : ι}
variable {r : ρ}
variable {work more : List (ι × ρ)}

theorem pendingOf_eq_nil
    (h : i ∉ work.map Prod.fst) : pendingOf i work = [] := by
  unfold pendingOf
  rw [List.map_eq_nil_iff, List.filter_eq_nil_iff]
  intro entry hEntry hOwner
  apply h
  rw [← of_decide_eq_true hOwner]
  exact List.mem_map_of_mem hEntry

/- An owner that occurs once has one thing pending. -/
theorem pendingOf_eq_single
    (hOnce : (work.map Prod.fst).Nodup)
    (h : (i, r) ∈ work) : pendingOf i work = [r] := by
  induction work with
  | nil => cases h
  | cons entry rest ih =>
      rw [List.map_cons, List.nodup_cons] at hOnce
      unfold pendingOf
      rcases List.mem_cons.mp h with hHere | hThere
      · rw [← hHere] at hOnce ⊢
        rw [List.filter_cons_of_pos (by simp), List.map_cons]
        have hRest := pendingOf_eq_nil hOnce.1
        unfold pendingOf at hRest
        rw [hRest]
      · have hNe : ¬ entry.1 = i := by
          intro hEq
          apply hOnce.1
          rw [hEq]
          exact List.mem_map_of_mem (f := Prod.fst) hThere
        rw [List.filter_cons_of_neg (by simpa using hNe)]
        exact ih hOnce.2 hThere

/- The order of the work does not matter. -/
theorem pendingOf_perm
    (hPerm : work.Perm more)
    (hOnce : (work.map Prod.fst).Nodup) :
    pendingOf i more = pendingOf i work := by
  by_cases hMem : i ∈ work.map Prod.fst
  · rcases List.mem_map.mp hMem with ⟨⟨j, r⟩, hEntry, rfl⟩
    rw [pendingOf_eq_single hOnce hEntry]
    apply pendingOf_eq_single
    · exact (hPerm.map Prod.fst).nodup_iff.mp hOnce
    · exact hPerm.mem_iff.mp hEntry
  · rw [pendingOf_eq_nil hMem, pendingOf_eq_nil]
    intro hBad
    exact hMem ((hPerm.map Prod.fst).mem_iff.mpr hBad)

end Pending

/- The notification that an event records. -/
def Ev.notified? : Ev → Option (ConnId × Request)
| .notified starter request => some (starter, request)
| _ => none

/- The notifications that a connection was given. -/
def Conn.notifications
    (c : Conn) : List (ConnId × Request) :=
  c.log.filterMap Ev.notified?

/-
  The resolutions that have not been reported, with their
  starters: a thread or a job is under way, or the job was
  lost.
-/
def Server.started
    (srv : Server) : List (ConnId × Request) :=
  (srv.threads.map fun t => (t.data, t.request)) ++
    srv.owed.map fun job => (job.starter, job.request)

theorem Server.started_fst
    (srv : Server) :
    srv.started.map Prod.fst = srv.waiting := by
  unfold Server.started Server.waiting
  rw [List.map_append, List.map_map, List.map_map]
  rfl

/-
  What connection `k` has started was reported to it, in
  order, or is under way, or its job was lost.
-/
structure Books
    (k : ConnId)
    (srv : Server)
    (c : Conn) : Prop where
  balance : c.resolves =
    c.notifications.map Prod.snd ++ pendingOf k srv.started
  own : ∀ n ∈ c.notifications, n.1 = k

/- What a thread has copied is what it was started for. -/
def Thread.Faithful (t : Thread) : Prop :=
  t.host = none ∨ t.host =
    some (t.request.host.take t.request.fqdnSize,
      t.request.destPort)

end Socks5d

------------------------------------------------------------
-- Events
------------------------------------------------------------

namespace Socks5d

section Events

variable {k : ConnId}
variable {key : Key}
variable {a : Answers}
variable {s t u : St}
variable {attached : Attachment}

/- Events that neither start nor report a resolution. -/
def Ev.Unresolved (event : Ev) : Prop :=
  event.resolve? = none ∧ event.notified? = none

theorem Ev.notified?_ofState
    (state : Nat)
    {event : Ev}
    (h : event.ofState state) : event.notified? = none := by
  cases event with
  | notified starter request =>
      unfold Ev.ofState at h
      split at h <;> first | exact h.elim | trivial
  | _ => rfl

theorem Ev.notified?_ofArrival
    (state : Nat)
    {event : Ev}
    (h : event.ofArrival state) :
    event.notified? = none := by
  cases event with
  | notified starter request =>
      unfold Ev.ofArrival at h
      split at h <;> first | exact h.elim | trivial
  | _ => rfl

theorem Ev.unresolved_ofMng
    {event : Ev}
    (h : event.ofMng) : event.Unresolved := by
  cases event with
  | notified starter request => exact h.elim
  | resolve request => exact h.elim
  | _ => exact ⟨rfl, rfl⟩

theorem Ev.unresolved_ofMngState
    {state : Nat}
    {event : Ev}
    (h : event.ofMngState state) : event.Unresolved := by
  unfold Ev.ofMngState at h
  cases event with
  | notified starter request =>
      split at h <;> exact h.elim
  | resolve request =>
      split at h <;> exact h.elim
  | _ => exact ⟨rfl, rfl⟩

/- Handlers report nothing: only the selector does. -/
theorem SocksEvent.notifications
    (h : SocksEvent k key a s t)
    (hSound : s.srv.sel.Sound)
    (hOwns : Owns k s.srv.sel s.conn) :
    t.conn.notifications = s.conn.notifications := by
  have hBoth : ∀ r u, SocksTurn k key a s r →
      SocksJump k key a r.1 r.2 u →
        u.conn.notifications = s.conn.notifications := by
    intro r u hTurn hJump
    rcases hTurn.logs hSound hOwns with ⟨state, _, hCall⟩
    have hCalled := hCall.filterMap Ev.notified?
      fun event hEvent => Ev.notified?_ofState state hEvent
    rcases hJump.logs with ⟨_, hSame⟩ | ⟨_, hArrival⟩
    · rw [hSame]
      exact hCalled
    · have hArrived := hArrival.filterMap Ev.notified?
        fun event hEvent =>
          Ev.notified?_ofArrival _ hEvent
      refine Eq.trans hArrived (Eq.trans ?_ hCalled)
      show (r.1.conn.log ++ [_]).filterMap Ev.notified? = _
      rw [List.filterMap_append]
      exact List.append_nil _
  cases h with
  | going r u hTurn hJump hNext => exact hBoth r _ hTurn hJump
  | ends r u hTurn hJump hNext =>
      rw [socksv5Done_conn]
      exact hBoth r u hTurn hJump
  | stuck hWhy => rfl

/- Management connections resolve nothing. -/
theorem MngEvent.unresolved
    (h : MngEvent k key a s t) :
    t.conn.notifications = s.conn.notifications ∧
      t.conn.resolves = s.conn.resolves := by
  have hBoth : ∀ r u, MngTurn k key a s r →
      MngJump key a r.1 r.2 u →
        u.conn.notifications = s.conn.notifications ∧
          u.conn.resolves = s.conn.resolves := by
    intro r u hTurn hJump
    rcases hTurn.logs with ⟨state, _, hCall⟩
    have hCalled := hCall.filterMap Ev.notified?
      fun event hEvent =>
        (Ev.unresolved_ofMngState hEvent).2
    have hCalled' := hCall.filterMap Ev.resolve?
      fun event hEvent =>
        (Ev.unresolved_ofMngState hEvent).1
    rcases hJump.logs with ⟨_, hSame⟩ | ⟨_, hArrival⟩
    · rw [hSame]
      exact ⟨hCalled, hCalled'⟩
    · have hArrived := hArrival.filterMap Ev.notified?
        fun event hEvent => (Ev.unresolved_ofMng hEvent).2
      have hArrived' := hArrival.filterMap Ev.resolve?
        fun event hEvent => (Ev.unresolved_ofMng hEvent).1
      constructor
      · refine Eq.trans hArrived (Eq.trans ?_ hCalled)
        show (r.1.conn.log ++ [_]).filterMap _ = _
        rw [List.filterMap_append]
        exact List.append_nil _
      · refine Eq.trans hArrived' (Eq.trans ?_ hCalled')
        show (r.1.conn.log ++ [_]).filterMap _ = _
        rw [List.filterMap_append]
        exact List.append_nil _
  cases h with
  | going r u hTurn hJump hNext => exact hBoth r _ hTurn hJump
  | ends r u hTurn hJump hNext =>
      rw [mngDone_conn]
      exact hBoth r u hTurn hJump

/- Starting the machine resolves nothing. -/
theorem first_unresolved
    (states : Nat → StateDefinition)
    (hStates : states HELLO_READ =
      { onArrival := some helloReadInit
        onReadReady := some helloRead })
    (key : Key)
    (a : Answers)
    (s : St) :
    (handleFirst states key a s).conn.notifications =
        s.conn.notifications ∧
      (handleFirst states key a s).conn.resolves =
        s.conn.resolves := by
  have hTwo : ∀ first second : Ev, first.Unresolved →
      second.Unresolved →
      ((s.conn.log ++ [first]) ++ [second]).filterMap
          Ev.notified? = s.conn.log.filterMap Ev.notified? ∧
        ((s.conn.log ++ [first]) ++ [second]).filterMap
          Ev.resolve? = s.conn.log.filterMap Ev.resolve? := by
    intro first second hFirst hSecond
    simp [List.filterMap_append, hFirst.1, hFirst.2,
      hSecond.1, hSecond.2]
  rw [handleFirst_eq hStates]
  split
  · unfold helloReadInit
    split
    · exact hTwo (.enter HELLO_READ)
        (.helloInit s.srv.authMethod) ⟨rfl, rfl⟩ ⟨rfl, rfl⟩
    · exact hTwo (.enter HELLO_READ) (.outOfMemory .hello)
        ⟨rfl, rfl⟩ ⟨rfl, rfl⟩
  · exact ⟨rfl, rfl⟩

end Events

section Faults

variable {k : ConnId}
variable {key : Key}
variable {a : Answers}
variable {s t u : St}
variable {attached : Attachment}

/- Answering does not end the process. -/
theorem replied_fault
    (s : St)
    (status : SocksReplyStatus) :
    (replied s status).srv.fault = s.srv.fault := by
  rw [replied_srv]

theorem answeredWith_fault
    (s : St)
    (attached : Attachment)
    (status : SocksReplyStatus) :
    (answeredWith s attached status).srv.fault =
      s.srv.fault := by
  unfold answeredWith
  rcases idleOrigin_cases ((replied s status).arm
      s.conn.clientFd opWrite attached) with
    ⟨hSame, _⟩ | ⟨_, _, _, hIdle⟩
  · rw [hSame]
    exact replied_fault s status
  · rw [hIdle]
    exact replied_fault s status

theorem refusedWith_fault
    (s : St)
    (attached : Attachment)
    (status : SocksReplyStatus) :
    (refusedWith s attached status).srv.fault =
      s.srv.fault :=
  answeredWith_fault _ _ _

theorem Connection.fault
    {r : St × SocksReplyStatus}
    (h : Connection key a s attached r) :
    r.1.srv.fault = s.srv.fault := by
  cases h with
  | refused errno hAnswer => exact refusedWith_fault _ _ _
  | underway hAnswer hFree => rfl
  | blocked hAnswer hBlocked => exact refusedWith_fault _ _ _
  | atOnce hAnswer hFree => rfl
  | atOnceBlocked hAnswer hBlocked =>
      exact refusedWith_fault _ _ _

theorem ConnectingInit.fault
    (h : ConnectingInit key a s attached u) :
    u.srv.fault = s.srv.fault := by
  cases h with
  | noSocket hNone => exact refusedWith_fault _ _ _
  | notSet fd hSome hNio => exact refusedWith_fault _ _ _
  | connected fd hSome hNio result hResult =>
      exact hResult.fault

/- What a notification calls does not end the process. -/
theorem SocksTurn.resolv_fault
    {r : St × Nat}
    (h : SocksTurn k key a s r)
    (hState : s.conn.current = some REQUEST_RESOLV) :
    r.1.srv.fault = s.srv.fault ∧
      r.1.conn.current = some REQUEST_RESOLV ∧
      (r.2 = REQUEST_WRITE ∨ r.2 = REQUEST_CONNECTING) := by
  cases h with
  | requestResolvDone _ _ _ _ p _ _ hCall =>
      cases hCall with
      | failed hList =>
          refine ⟨replied_fault _ _, ?_, Or.inl rfl⟩
          exact (replied_fields _ _).1.trans hState
      | first address rest hList =>
          rcases takeAddress_eq address
              { s.note (.resolved s.conn.originResolution)
                with
                conn.resolutionCurrent := address :: rest }
            with ⟨_, _, _, hEq⟩
          rw [hEq]
          exact ⟨rfl, hState, Or.inr rfl⟩
  | helloRead hOther
  | helloWrite hOther
  | authRead hOther
  | authWrite hOther
  | requestRead hOther
  | connectingWrite hOther
  | requestWrite hOther
  | relay hOther =>
      exact absurd (hOther.symm.trans hState) (by decide)

theorem SocksJump.resolv_fault
    {next : Nat}
    (h : SocksJump k key a s next u)
    (hState : s.conn.current = some REQUEST_RESOLV)
    (hNext : next = REQUEST_WRITE ∨
      next = REQUEST_CONNECTING) :
    u.srv.fault = s.srv.fault := by
  cases h with
  | stay _ hOther => rfl
  | plain _ _ _ _ _ fault hFault =>
      apply hFault.eq_of_ne
      rw [hState]
      decide
  | userpassRead hOther =>
      exact absurd (hOther.symm.trans hState) (by decide)
  | requestRead hOther =>
      rcases hNext with hBad | hBad
      all_goals exact absurd hBad (by decide)
  | connecting hBefore parser _ hInit => exact hInit.fault
  | copy hOther =>
      exact absurd (hOther.symm.trans hState) (by decide)

/- Delivering a notification does not end the process. -/
theorem Served.block_fault
    (h : Served StateDefinition.onBlockReady k key a s)
    (hSound : s.srv.sel.Sound)
    (hSocks : s.conn.isSocks = true)
    (hData : key.data = k)
    (hSame : handleFirst clientStatbl key a s = s)
    (hState : s.conn.current = some REQUEST_RESOLV) :
    (socksv5Event StateDefinition.onBlockReady key a
      s).srv.fault = s.srv.fault := by
  cases h with
  | picks hKept hPicks =>
      rcases hPicks.handled hSound hSocks hData hKept with
        ⟨r, hTurn, hJump, hEq, _⟩
      rw [hSame] at hTurn
      rcases hTurn.resolv_fault hState with
        ⟨hFault, hCurrent, hNext⟩
      have hNot : ¬ (r.2 = ERROR ∨ r.2 = DONE) := by
        rcases hNext with hIs | hIs
        all_goals
          rw [hIs]
          decide
      unfold socksv5Event
      simp only [hEq]
      rw [if_neg hNot]
      exact (hJump.resolv_fault hCurrent hNext).trans hFault
  | stuck _ hStuck =>
      have hBad := hStuck.1
      rw [hState] at hBad
      exact absurd hBad (fun hNone => nomatch hNone)

end Faults

end Socks5d

------------------------------------------------------------
-- Small Steps
------------------------------------------------------------

namespace Socks5d

section Stepping

variable {w w' : World}
variable {k : ConnId}

/- The books of all connections, and what threads hold. -/
def World.Booked (w : World) : Prop :=
  (∀ k < w.next, Books k w.srv (w.conn k)) ∧
    ∀ t ∈ w.srv.threads, t.Faithful

/- Nothing has been started or reported, here or there. -/
theorem Books.of_eq
    {srv srv' : Server}
    {c d : Conn}
    (h : Books k srv c)
    (hStarted : pendingOf k srv'.started =
      pendingOf k srv.started)
    (hResolves : d.resolves = c.resolves)
    (hNotified : d.notifications = c.notifications) :
    Books k srv' d where
  balance := by
    rw [hStarted, hResolves, hNotified]
    exact h.balance
  own := by
    rw [hNotified]
    exact h.own

theorem Server.started_of_eq
    {srv srv' : Server}
    (hThreads : srv'.threads = srv.threads)
    (hJobs : srv'.jobs = srv.jobs)
    (hLost : srv'.lost = srv.lost) :
    srv'.started = srv.started := by
  unfold Server.started Server.owed
  rw [hThreads, hJobs, hLost]

/- A connection that is no starter has nothing pending. -/
theorem Server.pendingOf_not
    {srv : Server}
    (h : k ∉ srv.waiting) :
    pendingOf k srv.started = [] := by
  apply pendingOf_eq_nil
  rw [srv.started_fst]
  exact h

theorem Micro.booked_socks
    (hInv : Inv w)
    (h : w.Booked)
    {key : Key}
    {a : Answers}
    {interest : Interest}
    {t : St}
    (hLive : w.Live k)
    (hKey : Keyed k key (w.view k) interest)
    (hArmed : interest ≠ opNoop)
    (hEvent : SocksEvent k key a
      (handleFirst clientStatbl key a (w.view k)) t) :
    (w.put k t).Booked := by
  rcases hInv.first hLive clientStatbl rfl key a
    with ⟨hSrv, hSound, hOwns⟩
  rcases first_unresolved clientStatbl rfl key a (w.view k)
    with ⟨hNoted, hResolves⟩
  have hAll := hEvent.notifications hSound hOwns
  have hMine : Books k w.srv (w.conn k) := h.1 k hLive.1
  have hNot := hInv.not_waiting hKey hArmed
  cases hEvent.threads hSound hOwns with
  | same hSame hLog =>
      have hThreads : t.srv.threads = w.srv.threads := by
        rw [hSame.threads, hSrv]
      have hJobs : t.srv.jobs = w.srv.jobs := by
        rw [hSame.jobs, hSrv]
      have hLost : t.srv.lost = w.srv.lost := by
        rw [hSame.lost, hSrv]
      have hStarted := Server.started_of_eq hThreads hJobs
        hLost
      constructor
      · intro j hLt
        by_cases hEq : j = k
        · subst hEq
          rw [w.put_conn_self]
          exact hMine.of_eq (congrArg (pendingOf j) hStarted)
            (hLog.trans hResolves) (hAll.trans hNoted)
        · rw [w.put_conn_of_ne t hEq]
          exact (h.1 j hLt).of_eq
            (congrArg (pendingOf j) hStarted) rfl rfl
      · intro x hX
        exact h.2 x (hThreads ▸ hX)
  | started request hSame hBefore hNow hFd hParser hLog =>
      have hThreads : t.srv.threads = w.srv.threads ++
          [{ fd := key.fd, data := key.data,
             request := request }] := by
        rw [hSame.threads, hSrv]
      have hOwed : t.srv.owed = w.srv.owed := by
        unfold Server.owed
        rw [hSame.jobs, hSame.lost, hSrv]
      have hPerm : ((k, request) :: w.srv.started).Perm
          t.srv.started := by
        unfold Server.started
        rw [hThreads, hOwed, List.map_append,
          List.append_assoc, List.map_singleton, hKey.data]
        exact (List.perm_middle).symm
      have hOnce : (((k, request) ::
          w.srv.started).map Prod.fst).Nodup := by
        rw [List.map_cons, w.srv.started_fst,
          List.nodup_cons]
        exact ⟨hNot, hInv.once⟩
      constructor
      · intro j hLt
        show Books j t.srv _
        by_cases hEq : j = k
        · subst hEq
          rw [w.put_conn_self]
          constructor
          · rw [hLog, hResolves, hAll, hNoted,
              pendingOf_perm hPerm hOnce,
              pendingOf_eq_single hOnce List.mem_cons_self]
            have hBalance := hMine.balance
            rw [Server.pendingOf_not hNot,
              List.append_nil] at hBalance
            exact congrArg (· ++ [request]) hBalance
          · rw [hAll, hNoted]
            exact hMine.own
        · rw [w.put_conn_of_ne t hEq]
          refine (h.1 j hLt).of_eq ?_ rfl rfl
          rw [pendingOf_perm hPerm hOnce]
          unfold pendingOf
          rw [List.filter_cons_of_neg
            (by simpa using fun hBad => hEq hBad.symm)]
      · intro x hX
        have hX' : x ∈ t.srv.threads := hX
        rw [hThreads] at hX'
        rcases List.mem_append.mp hX' with hOld | hNew
        · exact h.2 x hOld
        · rw [List.mem_singleton.mp hNew]
          exact Or.inl rfl

theorem Micro.booked_block
    (hInv : Inv w)
    (h : w.Booked)
    {job : BlockingJob}
    {rest : List BlockingJob}
    {a : Answers}
    {t : St}
    (hJobs : w.srv.jobs = job :: rest)
    (hWaits : Waits w job.starter job.fd job.request)
    (hEvent : SocksEvent job.starter ⟨job.fd, job.starter⟩ a
      (w.notified job rest) t) :
    (w.put job.starter t).Booked := by
  have hOwns : Owns job.starter (w.notified job rest).srv.sel
      (w.notified job rest).conn :=
    (hInv.wired _ hWaits.live).owns.of_eq rfl rfl rfl
  have hMine : Books job.starter w.srv
      (w.conn job.starter) := h.1 _ hWaits.accepted
  have hAll := hEvent.notifications hInv.sound hOwns
  have hNoted : (w.notified job rest).conn.notifications =
      (w.conn job.starter).notifications ++
        [(job.starter, job.request)] := by
    show (_ ++ [_]).filterMap Ev.notified? = _
    rw [List.filterMap_append]
    rfl
  have hSilent : (w.notified job rest).conn.resolves =
      (w.conn job.starter).resolves := by
    show (_ ++ [_]).filterMap Ev.resolve? = _
    rw [List.filterMap_append]
    exact List.append_nil _
  have hOnce := hInv.once
  rw [← w.srv.started_fst] at hOnce
  rcases hEvent.threads hInv.sound hOwns with
    ⟨hSame, hLog⟩ | ⟨request, _, hBefore⟩
  · have hStarted : ((job.starter, job.request) ::
        t.srv.started).Perm w.srv.started := by
      unfold Server.started Server.owed
      rw [hSame.threads, hSame.jobs, hSame.lost, hJobs,
        List.cons_append, List.map_cons]
      exact (List.perm_middle).symm
    have hOnce' : (((job.starter, job.request) ::
        t.srv.started).map Prod.fst).Nodup :=
      (hStarted.map Prod.fst).nodup_iff.mpr hOnce
    have hGone : pendingOf job.starter t.srv.started = [] := by
      apply pendingOf_eq_nil
      rw [List.map_cons, List.nodup_cons] at hOnce'
      exact hOnce'.1
    constructor
    · intro j hLt
      show Books j t.srv _
      by_cases hEq : j = job.starter
      · rw [hEq, w.put_conn_self]
        constructor
        · have hBalance := hMine.balance
          rw [pendingOf_eq_single hOnce (hStarted.mem_iff.mp
            List.mem_cons_self)] at hBalance
          rw [hLog, hSilent, hAll, hNoted, hGone,
            List.append_nil, List.map_append]
          exact hBalance
        · rw [hAll, hNoted]
          intro n hN
          rcases List.mem_append.mp hN with hOld | hNew
          · exact hMine.own n hOld
          · rw [List.mem_singleton.mp hNew]
      · rw [w.put_conn_of_ne t hEq]
        refine (h.1 j hLt).of_eq ?_ rfl rfl
        rw [pendingOf_perm hStarted hOnce']
        unfold pendingOf
        rw [List.filter_cons_of_neg
          (by simpa using fun hBad => hEq hBad.symm)]
    · intro x hX
      exact h.2 x (hSame.threads ▸ hX)
  · exact absurd (hBefore.symm.trans hWaits.state)
      (by decide)

/- The two halves of a thread keep the books. -/
theorem Micro.booked_thread
    (hInv : Inv w)
    (h : w.Booked)
    {starter : ConnId}
    {threads : List Thread}
    {jobs lost : List BlockingJob}
    (addresses : List Addrinfo)
    (hPerm : w.srv.started.Perm { w.srv with
      threads := threads
      jobs := jobs
      lost := lost }.started)
    (hFaithful : ∀ t ∈ threads, t.Faithful) :
    World.Booked { w with
      srv.threads := threads
      srv.jobs := jobs
      srv.lost := lost
      conn := Function.update w.conn starter
        { w.conn starter with
          originResolution := addresses } } := by
  have hOnce := hInv.once
  rw [← w.srv.started_fst] at hOnce
  refine ⟨?_, hFaithful⟩
  intro j hLt
  by_cases hEq : j = starter
  · subst hEq
    show Books j _ (Function.update w.conn j _ j)
    rw [Function.update_self]
    exact (h.1 j hLt).of_eq (pendingOf_perm hPerm hOnce) rfl
      rfl
  · show Books j _ (Function.update w.conn starter _ j)
    rw [Function.update_of_ne hEq]
    exact (h.1 j hLt).of_eq (pendingOf_perm hPerm hOnce) rfl
      rfl

theorem Micro.booked
    (hInv : Inv w)
    (h : w.Booked)
    (hStep : Micro w w') : w'.Booked := by
  cases hStep with
  | accepted isSocks client hNonneg hFree hUnused =>
      refine ⟨?_, h.2⟩
      intro j hLt
      by_cases hEq : j = w.next
      · subst hEq
        have hNot : w.next ∉ w.srv.waiting := by
          intro hBad
          rcases hInv.waits hBad with ⟨fd, request, hWaits⟩
          exact Nat.lt_irrefl _ hWaits.accepted
        have hSelf : (w.accept isSocks client).conn w.next =
            { isSocks, clientFd := client } :=
          Function.update_self _ _ _
        rw [hSelf]
        have hNone : pendingOf w.next
            (w.accept isSocks client).srv.started = [] :=
          Server.pendingOf_not hNot
        constructor
        · rw [hNone]
          rfl
        · intro n hN
          cases hN
      · have hOther : (w.accept isSocks client).conn j =
            w.conn j := Function.update_of_ne hEq _ _
        have hOld := (Nat.lt_succ_iff_lt_or_eq.mp
          hLt).resolve_right hEq
        rw [hOther]
        exact (h.1 j hOld).of_eq rfl rfl rfl
  | socks k key a interest t hLive hSocks hKey hArmed hEvent
      hAfter =>
      exact Micro.booked_socks hInv h hLive hKey hArmed hEvent
  | mng k key a t hLive hMng hEvent hAfter =>
      rcases hInv.first hLive clientMng rfl key a
        with ⟨hSrv, _⟩
      rcases first_unresolved clientMng rfl key a (w.view k)
        with ⟨hNoted, hResolves⟩
      rcases hEvent.unresolved with ⟨hNoted', hResolves'⟩
      have hThreads : t.srv.threads = w.srv.threads := by
        rw [hEvent.shared.threads, hSrv]
      have hJobs : t.srv.jobs = w.srv.jobs := by
        rw [hEvent.shared.jobs, hSrv]
      have hLost : t.srv.lost = w.srv.lost := by
        rw [hEvent.shared.lost, hSrv]
      have hStarted := Server.started_of_eq hThreads hJobs
        hLost
      constructor
      · intro j hLt
        by_cases hEq : j = k
        · subst hEq
          rw [w.put_conn_self]
          exact (h.1 j hLt).of_eq
            (congrArg (pendingOf j) hStarted)
            (hResolves'.trans hResolves)
            (hNoted'.trans hNoted)
        · rw [w.put_conn_of_ne t hEq]
          exact (h.1 j hLt).of_eq
            (congrArg (pendingOf j) hStarted) rfl rfl
      · intro x hX
        exact h.2 x (hThreads ▸ hX)
  | block job rest a t hJobs hWaits hEvent hAfter =>
      exact Micro.booked_block hInv h hJobs hWaits hEvent
  | threadStart i t p hThread hWaits hParser hRequest =>
      refine Micro.booked_thread hInv h [] ?_ ?_
      · unfold Server.started
        show List.Perm (_ ++ _)
          ((w.srv.threads.set i _).map _ ++ _)
        rw [Thread.map_set (u := { t with
          host := some (p.request.host.take
            p.request.fqdnSize, p.request.destPort) })
          _ hThread rfl]
        exact .refl _
      · intro x hX
        rcases List.mem_or_eq_of_mem_set hX with hOld | hNew
        · exact h.2 x hOld
        · rw [hNew]
          right
          show some _ = some _
          rw [hRequest]
  | threadDone i t addresses a hThread hWaits =>
      refine Micro.booked_thread hInv h addresses ?_ ?_
      · exact (Server.notify_perm
          (fun t => (t.data, t.request))
          (fun job => (job.starter, job.request))
          (fun _ => rfl) hThread a).symm
      · intro x hX
        exact h.2 x (List.mem_of_mem_eraseIdx hX)

/- In every reachable world the books are in order. -/
theorem reachable_booked
    (hReach : server.Reachable w) : Inv w ∧ w.Booked := by
  apply micro_invariant ?_ ?_ hReach
  · intro w hInit
    constructor
    · intro k hLt
      rw [hInit.next] at hLt
      exact absurd hLt (Nat.not_lt_zero _)
    · intro t hT
      rw [hInit.threads] at hT
      cases hT
  · intro w w' hInv hBooked hStep
    exact hStep.booked hInv hBooked

end Stepping

end Socks5d

------------------------------------------------------------
-- Jobs That Are Lost
------------------------------------------------------------

namespace Socks5d

/- There is memory for the job of a thread that ends. -/
def Label.JobMade : Label → Prop
| .threadDone _ _ a => a.alloc .blockingJob = true
| _ => True

/- The server where there is always memory for a job. -/
def jobServer : Machine World Label where
  init := Initial
  step w l w' := server.step w l w' ∧ l.JobMade

section Losing

variable {w w' : World}
variable {fd : Fd}
variable {a : Answers}

theorem Threads.lost
    {key : Key}
    {s u : St}
    (h : Threads key s u) : u.srv.lost = s.srv.lost := by
  cases h with
  | same hShared => exact hShared.lost
  | started request hShared => exact hShared.lost

/- An event on a descriptor loses no job. -/
theorem Dispatch.lost
    (h : Dispatch w fd a w')
    (hInv : Inv w) : w'.srv.lost = w.srv.lost := by
  cases h with
  | accept isSocks =>
      rcases passiveAccept_cases isSocks a w with hSame |
        ⟨client, _, _, _, _, hEq⟩
      · rw [hSame]
      · rw [hEq]
        rfl
  | socks k interest t hLive hSocks hKey hArmed hEvent =>
      rcases hInv.first hLive clientStatbl rfl ⟨fd, k⟩ a with
        ⟨hSrv, hSound, hOwns⟩
      exact (hEvent.threads hSound hOwns).lost.trans
        (congrArg Server.lost hSrv)
  | mng k t hLive hMng hEvent =>
      rcases hInv.first hLive clientMng rfl ⟨fd, k⟩ a with
        ⟨hSrv, _⟩
      exact hEvent.shared.lost.trans
        (congrArg Server.lost hSrv)

/- Nor do the notifications. -/
theorem Inv.loop_lost
    (h : Inv w)
    (a : Nat → Answers)
    (turns : Nat) :
    (notificationLoop a turns w).srv.lost = w.srv.lost := by
  refine Inv.loop_rule (P := fun _ => True)
    (R := fun v u => u.srv.lost = v.srv.lost) (fun _ => rfl)
    ?_ h trivial a turns
  intro v job rest answers hInv _ hJobs
  refine ⟨trivial, fun u hRest => hRest.trans ?_⟩
  rcases hInv.block_event hJobs answers with
    ⟨t, hTurn, hWaits, hEvent, _⟩
  have hOwns := (hInv.wired _ hWaits.live).owns
  rw [hTurn]
  exact (hEvent.threads hInv.sound
    (hOwns.of_eq rfl rfl rfl)).lost

/- Only the end of a thread does, for want of memory. -/
theorem Inv.exec_lost
    (h : Inv w)
    {l : Label}
    (hEnabled : Enabled w l = true)
    (hMade : l.JobMade) :
    (exec w l).srv.lost = w.srv.lost := by
  cases l with
  | read fd a =>
      rcases h.exec_read hEnabled with hSame | hDispatch
      · rw [hSame]
      · exact hDispatch.lost h
  | write fd a =>
      rcases h.exec_write hEnabled with hSame | hDispatch
      · rw [hSame]
      · exact hDispatch.lost h
  | notify a => exact h.loop_lost a _
  | threadStart i =>
      show (requestResolvBlocking i w).srv.lost = _
      unfold requestResolvBlocking
      split
      · rfl
      · split
        · rfl
        · rfl
  | threadDone i addresses a =>
      show (requestResolvNotify i addresses a w).srv.lost = _
      unfold requestResolvNotify
      split
      · rfl
      · exact if_pos hMade

end Losing

end Socks5d

------------------------------------------------------------
-- Whole Runs
------------------------------------------------------------

namespace Socks5d

/-
  The starter of a thread or a job still waits for it, in
  `REQUEST_RESOLV`, with the request it was started for, and
  the descriptor is still its client's.
-/
structure Pending
    (w : World)
    (k : ConnId)
    (fd : Fd)
    (request : Request) : Prop where
  waits : Waits w k fd request
  slot : w.srv.sel.registered? fd =
    some ⟨opNoop, .socks k⟩
  held : w.srv.sel.opened fd = some (.client k)

/- What holds of resolutions in a world. -/
structure Resolving (w : World) : Prop where
  threads : ∀ t ∈ w.srv.threads,
    Pending w t.data t.fd t.request ∧ t.Faithful
  jobs : ∀ job ∈ w.srv.jobs,
    Pending w job.starter job.fd job.request
  books : ∀ k < w.next, Books k w.srv (w.conn k)
  /- the first job reaches its starter -/
  turn : ∀ job rest a, w.srv.jobs = job :: rest →
    handleBlockTurn a w = w.put job.starter
        (socksv5Event StateDefinition.onBlockReady
          ⟨job.fd, job.starter⟩ a (w.notified job rest)) ∧
      (clientStatbl ((w.conn job.starter).current.getD
        HELLO_READ)).onBlockReady = some requestResolvDone
  /- the loop delivers all jobs, and the process goes on -/
  drained : ∀ a, w.srv.fault = none →
    (exec w (.notify a)).srv.jobs = [] ∧
      (exec w (.notify a)).srv.fault = none
  /- a thread finds the request of its starter -/
  started : ∀ i, (exec w (.threadStart i)).srv.fault =
    w.srv.fault
  /- a thread that ends leaves its job, and its addresses -/
  finished : ∀ i t addresses a, w.srv.threads[i]? = some t →
    a.alloc .blockingJob = true →
      (exec w (.threadDone i addresses a)).srv.threads =
          w.srv.threads.eraseIdx i ∧
        (exec w (.threadDone i addresses a)).srv.jobs =
          t.job :: w.srv.jobs ∧
        ((exec w (.threadDone i addresses a)).conn
          t.data).originResolution = addresses
  /- a job is lost only where there was no memory for it -/
  spared : ∀ l, Enabled w l = true → l.JobMade →
    (exec w l).srv.lost = w.srv.lost

section Runs

variable {w : World}

theorem Waits.pending
    {k : ConnId}
    {fd : Fd}
    {request : Request}
    (h : Waits w k fd request)
    (hInv : Inv w) : Pending w k fd request := by
  have hWired := hInv.wired k h.live
  rcases (hWired.socks h.service).of_resolving h.state with
    ⟨_, hClient, _⟩
  have hHeld := hWired.owns.client
  rw [h.client] at hClient hHeld
  exact ⟨h, hClient.registered, hHeld⟩

/- A turn of the loop takes one job off the list. -/
theorem Inv.turn
    (h : Inv w)
    {job : BlockingJob}
    {rest : List BlockingJob}
    (hJobs : w.srv.jobs = job :: rest)
    (a : Answers) :
    (handleBlockTurn a w).srv.jobs = rest ∧
      (handleBlockTurn a w).srv.fault = w.srv.fault := by
  have hWaits := h.jobs job (by
    rw [hJobs]
    exact List.mem_cons_self)
  have hWired := h.wired _ hWaits.live
  rcases (hWired.socks hWaits.service).of_resolving
    hWaits.state with ⟨hOrigin, hClient, p, hParser⟩
  have hOwns : Owns job.starter (w.notified job rest).srv.sel
      (w.notified job rest).conn :=
    hWired.owns.of_eq rfl rfl rfl
  have hFd : (⟨job.fd, job.starter⟩ : Key).fd =
      (w.notified job rest).conn.clientFd :=
    hWaits.client.symm
  rcases socks_block (s := w.notified job rest) hOwns
    (.resolving hWaits.state hOrigin hClient p hParser)
    hWaits.state hFd a with ⟨hSame, hServed⟩
  have hEvent := hServed.event h.sound hWaits.service rfl
  rw [hSame] at hEvent
  rw [h.block_turn hJobs]
  constructor
  · cases hEvent.1.threads h.sound hOwns with
    | same hShared => exact hShared.jobs
    | started request hShared => exact hShared.jobs
  · exact hServed.block_fault h.sound hWaits.service rfl
      hSame hWaits.state

theorem Inv.drained
    (h : Inv w)
    (a : Nat → Answers)
    (hFault : w.srv.fault = none) :
    (notificationLoop a w.srv.jobs.length w).srv.jobs = [] ∧
      (notificationLoop a w.srv.jobs.length
        w).srv.fault = none := by
  -- the turns that are left are the jobs that are left
  have hAll : ∀ turns (w : World), Inv w →
      w.srv.fault = none → w.srv.jobs.length = turns →
      (notificationLoop a turns w).srv.jobs = [] ∧
        (notificationLoop a turns w).srv.fault = none := by
    intro turns
    induction turns with
    | zero =>
        intro w _ hFault hLength
        exact ⟨List.length_eq_zero_iff.mp hLength, hFault⟩
    | succ turns ih =>
        intro w hInv hFault hLength
        unfold notificationLoop
        rw [if_pos hFault]
        cases hJobs : w.srv.jobs with
        | nil =>
            rw [hJobs] at hLength
            cases hLength
        | cons job rest =>
            rcases hInv.turn hJobs (a turns) with
              ⟨hRest, hSame⟩
            apply ih
            · exact (hInv.block_micro hJobs (a turns)).inv hInv
            · exact hSame.trans hFault
            · rw [hRest]
              rw [hJobs] at hLength
              exact Nat.succ.inj hLength
  exact hAll _ w h hFault rfl

theorem jobServer_reachable
    (h : jobServer.Reachable w) : server.Reachable w :=
  h.invariant (fun _ hInit => .init hInit)
    fun _ _ _ hReach hStep => hReach.step hStep.1

/- By induction on the run. -/
theorem jobServer_lost
    (h : jobServer.Reachable w) : w.srv.lost = [] := by
  refine h.strengthen (P := fun v => v.srv.lost = [])
    (Q := server.Reachable)
    (fun _ => jobServer_reachable) ?_ ?_
  · exact fun v hInit => hInit.lost
  · rintro v l v' hV hNone ⟨⟨hEnabled, hEq⟩, hMade⟩
    rw [hEq, (reachable_inv hV).exec_lost hEnabled hMade]
    exact hNone

/-
  For any number of connections and any interleaving of
  events, threads and notifications. With memory for every
  job nothing is lost.
-/
theorem reachable_resolving
    (hReach : server.Reachable w) :
    Resolving w ∧
      (jobServer.Reachable w → w.srv.lost = []) := by
  rcases reachable_booked hReach with ⟨hInv, hBooked⟩
  refine ⟨⟨?_, ?_, hBooked.1, ?_, ?_, ?_, ?_, ?_⟩,
    jobServer_lost⟩
  · intro t hT
    exact ⟨(hInv.threads t hT).pending hInv, hBooked.2 t hT⟩
  · intro job hJob
    exact (hInv.jobs job hJob).pending hInv
  · intro job rest a hJobs
    refine ⟨hInv.block_turn hJobs a, ?_⟩
    have hWaits := hInv.jobs job (by
      rw [hJobs]
      exact List.mem_cons_self)
    rw [hWaits.state]
    rfl
  · intro a hFault
    exact hInv.drained a hFault
  · intro i
    show (requestResolvBlocking i w).srv.fault = _
    unfold requestResolvBlocking
    cases hThread : w.srv.threads[i]? with
    | none => rfl
    | some t =>
        rcases (hInv.threads t
          (List.mem_of_getElem? hThread)).parser with
          ⟨p, hParser, _⟩
        simp only [hParser]
  · intro i t addresses a hThread hMemory
    show (requestResolvNotify i addresses a
        w).srv.threads = _ ∧
      (requestResolvNotify i addresses a w).srv.jobs = _ ∧
      ((requestResolvNotify i addresses a w).conn
        t.data).originResolution = _
    unfold requestResolvNotify
    simp only [hThread]
    refine ⟨rfl, if_pos hMemory, ?_⟩
    rw [Function.update_self]
  · exact fun l hEnabled => hInv.exec_lost hEnabled

end Runs

/- A client that asks for a name. -/
def resolvRun : List Label := [
  .read 3 { accept := some 5 },
  .read 5 { recv := some [5, 1, 0] },
  .write 5 { send := some 100 },
  .read 5 { recv := some [5, 1, 0, 3, 1, 97, 0, 80] },
  .threadStart 0,
  .threadDone 0 [] {}]

/- The world that this run leads to. -/
def resolvWorld : World :=
  runTo resolvRun (smallServer 0 ⟨fun _ => {}, 0⟩
    ⟨fun _ => {}, 0⟩)

theorem resolvRun_resolving :
    Resolving resolvWorld ∧
      (jobServer.Reachable resolvWorld →
        resolvWorld.srv.lost = []) :=
  reachable_resolving (reachable_runTo resolvRun
    (.init (smallServer_initial _ _ (by decide) (Or.inl rfl))))

example : resolvWorld.srv.jobs.length = 1 := by
  decide +kernel

end Socks5d
