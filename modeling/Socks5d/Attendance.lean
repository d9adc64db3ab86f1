import Socks5d.CopyProgress
import Socks5d.Fallback
import Socks5d.Lifecycle
import Socks5d.Notifications

/-
  Which connections the loop of `main` still gets to: those
  that `select` waits for, and those that wait for a thread or
  a job. The others are left alone for good, with their
  descriptors open.

  Main declarations:
    * `Label.Concerns`, `World.Attended`, `World.Stranded`
    * `Inv.attended_iff`, `concerned_iff`
    * `Unmade`, `World.Unreported`, `reachable_unmade`
    * `Micro.unattended`, `stranded_forever`
    * `threadedServer`, `taken_on_concerned`
-/

------------------------------------------------------------
-- Attended And Stranded
------------------------------------------------------------

namespace Socks5d

/- The event would be handled for connection `k`. -/
inductive Label.Concerns
    (w : World)
    (k : ConnId) : Label → Prop where
  | read
      {fd : Fd}
      {item : Item}
      (a : Answers)
      (hItem : w.srv.sel.fds fd = some item)
      (hData : item.attached.data? = some k) :
      Label.Concerns w k (.read fd a)
  | write
      {fd : Fd}
      {item : Item}
      (a : Answers)
      (hItem : w.srv.sel.fds fd = some item)
      (hData : item.attached.data? = some k) :
      Label.Concerns w k (.write fd a)
  | notify
      {job : BlockingJob}
      (a : Nat → Answers)
      (hJob : job ∈ w.srv.jobs)
      (hStarter : job.starter = k) :
      Label.Concerns w k (.notify a)
  | threadStart
      {i : Nat}
      {t : Thread}
      (hThread : w.srv.threads[i]? = some t)
      (hData : t.data = k) :
      Label.Concerns w k (.threadStart i)
  | threadDone
      {i : Nat}
      {t : Thread}
      (addresses : List Addrinfo)
      (a : Answers)
      (hThread : w.srv.threads[i]? = some t)
      (hData : t.data = k) :
      Label.Concerns w k (.threadDone i addresses a)

/- A slot of the connection waits, or a thread or a job. -/
def World.Attended
    (w : World)
    (k : ConnId) : Prop :=
  (∃ fd item, w.srv.sel.fds fd = some item ∧
      item.attached.data? = some k ∧
      item.interest ≠ opNoop) ∨
    k ∈ w.srv.starters

/-
  The three ways to be forgotten: `pthread_create` has
  answered an error number, which `request_process` takes for
  a thread; there was no memory for the job of the thread,
  which `request_resolv_blocking` does not look at; or a relay
  without an origin has nothing left to do.
-/
inductive World.Stranded
    (w : World)
    (k : ConnId) : Prop where
  | unthreaded
      (hService : (w.conn k).isSocks = true)
      (hState : (w.conn k).current = some REQUEST_RESOLV)
      (hNone : k ∉ w.srv.waiting)
  | lost
      (hService : (w.conn k).isSocks = true)
      (hState : (w.conn k).current = some REQUEST_RESOLV)
      (hLost : k ∈ w.srv.lost.map BlockingJob.starter)
  | alone
      (hService : (w.conn k).isSocks = true)
      (hState : (w.conn k).current = some COPY)
      (hOrigin : (w.conn k).originFd = -1)
      (hIdle : (w.conn k).copyInterest .client = opNoop)

section Attending

variable {w w' : World}
variable {k : ConnId}
variable {fd : Fd}
variable {item : Item}
variable {interest : Interest}

theorem Interest.ne_noop_iff
    (interest : Interest) :
    interest ≠ opNoop ↔
      interest.read = true ∨ interest.write = true := by
  rcases interest with ⟨read, write⟩
  cases read <;> cases write <;> decide

/- While the process runs, an attended one has an event. -/
theorem World.attended_iff_concerns
    (hFault : w.srv.fault = none) :
    w.Attended k ↔
      ∃ l, Enabled w l = true ∧ l.Concerns w k := by
  constructor
  · rintro (⟨fd, item, hItem, hData, hArmed⟩ | hStarter)
    · rcases item.interest.ne_noop_iff.mp hArmed with
        hRead | hWrite
      · refine ⟨.read fd {}, ?_, .read _ hItem hData⟩
        simp [Enabled, hFault, hItem, hRead]
      · refine ⟨.write fd {}, ?_, .write _ hItem hData⟩
        simp [Enabled, hFault, hItem, hWrite]
    · rcases List.mem_append.mp hStarter with hThread | hJob
      · rcases List.mem_map.mp hThread with ⟨t, hMem, hData⟩
        rcases List.mem_iff_getElem?.mp hMem with ⟨i, hAt⟩
        cases hHost : t.host with
        | none =>
            refine ⟨.threadStart i, ?_,
              .threadStart hAt hData⟩
            simp [Enabled, hFault, hAt, hHost]
        | some host =>
            refine ⟨.threadDone i [] {}, ?_,
              .threadDone _ _ hAt hData⟩
            simp [Enabled, hFault, hAt, hHost]
      · rcases List.mem_map.mp hJob with ⟨job, hMem, hData⟩
        refine ⟨.notify fun _ => {}, ?_,
          .notify _ hMem hData⟩
        simp [Enabled, hFault]
  · rintro ⟨l, hEnabled, hConcerns⟩
    cases hConcerns with
    | @read fd item a hItem hData =>
        simp only [Enabled, hFault, hItem, Option.any_some,
          Option.isNone_none, Bool.true_and] at hEnabled
        exact Or.inl ⟨fd, item, hItem, hData,
          item.interest.ne_noop_iff.mpr (Or.inl hEnabled)⟩
    | @write fd item a hItem hData =>
        simp only [Enabled, hFault, hItem, Option.any_some,
          Option.isNone_none, Bool.true_and] at hEnabled
        exact Or.inl ⟨fd, item, hItem, hData,
          item.interest.ne_noop_iff.mpr (Or.inr hEnabled)⟩
    | notify a hJob hStarter =>
        exact Or.inr (List.mem_append_right _
          (List.mem_map.mpr ⟨_, hJob, hStarter⟩))
    | threadStart hThread hData =>
        exact Or.inr (List.mem_append_left _ (List.mem_map.mpr
          ⟨_, List.mem_of_getElem? hThread, hData⟩))
    | threadDone addresses a hThread hData =>
        exact Or.inr (List.mem_append_left _ (List.mem_map.mpr
          ⟨_, List.mem_of_getElem? hThread, hData⟩))

theorem World.Attended.of_slot
    {attached : Attachment}
    (hHas : w.srv.sel.Has fd interest attached)
    (hData : attached.data? = some k)
    (hArmed : interest ≠ opNoop) : w.Attended k :=
  Or.inl ⟨fd, _, hHas.2, hData, hArmed⟩

end Attending

end Socks5d

------------------------------------------------------------
-- Every Connection Is One Or The Other
------------------------------------------------------------

namespace Socks5d

section Shapes

variable {w w' : World}
variable {k : ConnId}

/- An armed slot of a SOCKS connection is one of its two. -/
theorem Inv.armed_key
    (h : Inv w)
    (hSocks : (w.conn k).isSocks = true)
    {fd : Fd}
    {item : Item}
    (hItem : w.srv.sel.fds fd = some item)
    (hData : item.attached.data? = some k)
    (hArmed : item.interest ≠ opNoop) :
    Keyed k ⟨fd, k⟩ (w.view k) item.interest := by
  cases h.armed hItem hArmed with
  | listener hNone => exact nomatch hNone.symm.trans hData
  | socks j hLive hService hAttached hKey =>
      rw [hAttached] at hData
      rw [← Option.some.inj hData]
      exact hKey
  | mng j hLive hMng hAttached =>
      rw [hAttached] at hData
      rw [← Option.some.inj hData, hMng] at hSocks
      cases hSocks

/- A connection with a single slot that waits for nothing. -/
theorem Inv.attended_alone
    (h : Inv w)
    (hSocks : (w.conn k).isSocks = true)
    (hOrigin : (w.conn k).originFd = -1)
    {interest : Interest}
    (hClient : w.srv.sel.Has (w.conn k).clientFd interest
      (.socks k)) :
    w.Attended k ↔
      interest ≠ opNoop ∨ k ∈ w.srv.starters := by
  constructor
  · rintro (⟨fd, item, hItem, hData, hArmed⟩ | hStarter)
    · have hKey := h.armed_key hSocks hItem hData hArmed
      have hSame := hKey.interest_alone hOrigin hClient
      exact Or.inl (hSame ▸ hArmed)
    · exact Or.inr hStarter
  · rintro (hArmed | hStarter)
    · exact .of_slot hClient rfl hArmed
    · exact Or.inr hStarter

/- A relay with both sides always waits for something. -/
theorem Copying.attended
    (hCopy : Copying (w.conn k))
    (hOrigin : (w.conn k).originFd ≠ -1)
    (hSlots : ∀ side, w.srv.sel.Has ((w.conn k).fdOf side)
      ((w.conn k).copyInterest side) (.socks k))
    (hGoing : ((w.conn k).copySt .client).interest ≠
      opNoop) : w.Attended k := by
  have hProgress := hCopy.progress hOrigin hSlots
  have hOpen : ∃ source, (w.conn k).DirectionOpen source := by
    rcases (Interest.ne_noop_iff _).mp hGoing with
      hRead | hWrite
    · exact ⟨.client, hRead,
        (hProgress.coupled .client).mp hRead⟩
    · exact ⟨.origin, (hProgress.coupled .origin).mpr hWrite,
        hWrite⟩
  rcases hOpen with ⟨source, hSource⟩
  rcases hProgress.served source hSource with hRead | hWrite
  · have hReads := (hSlots source).armedRead_iff.mp hRead
    exact .of_slot (hSlots source) rfl
      ((Interest.ne_noop_iff _).mpr (Or.inl hReads))
  · have hWrites :=
      (hSlots source.other).armedWrite_iff.mp hWrite
    exact .of_slot (hSlots source.other) rfl
      ((Interest.ne_noop_iff _).mpr (Or.inr hWrites))

theorem MngShape.attended
    (h : MngShape k w.srv.sel (w.conn k)) :
    w.Attended k := by
  cases h with
  | fresh _ hClient => exact .of_slot hClient rfl (by decide)
  | helloRead _ hClient =>
      exact .of_slot hClient rfl (by decide)
  | helloWrite _ hClient =>
      exact .of_slot hClient rfl (by decide)
  | reading _ _ _ hClient =>
      exact .of_slot hClient rfl (by decide)
  | writing _ _ _ hClient =>
      exact .of_slot hClient rfl (by decide)

/- Only two states can leave a connection without an event. -/
theorem World.Stranded.state
    (h : w.Stranded k) :
    (w.conn k).isSocks = true ∧
      ((w.conn k).current = some REQUEST_RESOLV ∨
        (w.conn k).current = some COPY) := by
  cases h with
  | unthreaded hService hState
  | lost hService hState => exact ⟨hService, Or.inl hState⟩
  | alone hService hState => exact ⟨hService, Or.inr hState⟩

theorem World.Stranded.not_of_state
    {state : Nat}
    (hState : (w.conn k).current = some state)
    (hResolv : state ≠ REQUEST_RESOLV)
    (hCopy : state ≠ COPY) : ¬ w.Stranded k := by
  intro h
  rcases h.state.2 with hOther | hOther
  · exact hResolv (Option.some.inj (hState.symm.trans hOther))
  · exact hCopy (Option.some.inj (hState.symm.trans hOther))

/- A slot that waits, in a state that is never forgotten. -/
theorem World.attended_iff_of_slot
    {state : Nat}
    {fd : Fd}
    {interest : Interest}
    (hState : (w.conn k).current = some state)
    (hHas : w.srv.sel.Has fd interest (.socks k))
    (hArmed : interest ≠ opNoop)
    (hResolv : state ≠ REQUEST_RESOLV)
    (hCopy : state ≠ COPY) :
    w.Attended k ↔ ¬ w.Stranded k :=
  iff_of_true (.of_slot hHas rfl hArmed)
    (World.Stranded.not_of_state hState hResolv hCopy)

/- By the shape of the connection. -/
theorem Inv.attended_iff
    (h : Inv w)
    (hLive : w.Live k) :
    w.Attended k ↔ ¬ w.Stranded k := by
  have hWired := h.wired k hLive
  cases hService : (w.conn k).isSocks with
  | false =>
      refine iff_of_true (hWired.mng hService).2.attended ?_
      intro hStranded
      rw [hStranded.state.1] at hService
      cases hService
  | true =>
      cases hWired.socks hService with
      | fresh hState hOrigin hClient =>
          refine iff_of_true
            (.of_slot hClient rfl (by decide)) ?_
          intro hStranded
          rcases hStranded.state.2 with hOther | hOther
          · exact nomatch hState.symm.trans hOther
          · exact nomatch hState.symm.trans hOther
      | helloRead hState _ hClient =>
          exact World.attended_iff_of_slot hState hClient
            (by decide) (by decide) (by decide)
      | helloWrite hState _ hClient =>
          exact World.attended_iff_of_slot hState hClient
            (by decide) (by decide) (by decide)
      | userpassRead hState _ hClient =>
          exact World.attended_iff_of_slot hState hClient
            (by decide) (by decide) (by decide)
      | userpassWrite hState _ hClient =>
          exact World.attended_iff_of_slot hState hClient
            (by decide) (by decide) (by decide)
      | requestRead hState _ hClient =>
          exact World.attended_iff_of_slot hState hClient
            (by decide) (by decide) (by decide)
      | requestStarved hState _ hClient =>
          exact World.attended_iff_of_slot hState hClient
            (by decide) (by decide) (by decide)
      | connecting hState _ hOrigin =>
          exact World.attended_iff_of_slot hState hOrigin
            (by decide) (by decide) (by decide)
      | connectFailed hState hClient =>
          exact World.attended_iff_of_slot hState hClient
            (by decide) (by decide) (by decide)
      | connectedAtOnce hState hClient =>
          exact World.attended_iff_of_slot hState hClient
            (by decide) (by decide) (by decide)
      | requestWrite hState hClient =>
          exact World.attended_iff_of_slot hState hClient
            (by decide) (by decide) (by decide)
      | resolving hState hOrigin hClient =>
          rw [h.attended_alone hService hOrigin hClient]
          constructor
          · rintro (hArmed | hStarter) hStranded
            · exact hArmed rfl
            · cases hStranded with
              | unthreaded _ _ hNone =>
                  exact hNone (Server.mem_waiting hStarter)
              | lost _ _ hLost => exact h.not_lost hStarter hLost
              | alone _ hOther =>
                  exact absurd (hState.symm.trans hOther)
                    (by decide)
          · intro hNot
            right
            by_contra hNone
            by_cases hLost :
                k ∈ w.srv.lost.map BlockingJob.starter
            · exact hNot (.lost hService hState hLost)
            · refine hNot (.unthreaded hService hState ?_)
              rw [w.srv.waiting_eq, List.mem_append]
              exact fun hBoth => hBoth.elim hNone hLost
      | copy hState hCopy hSlots hGoing =>
          have hFd : (w.conn k).fdOf .client ≠ -1 :=
            hWired.owns.client_ne h.sound
          by_cases hOrigin : (w.conn k).originFd = -1
          · rw [h.attended_alone hService hOrigin
              (hSlots .client hFd)]
            constructor
            · rintro (hArmed | hStarter) hStranded
              · cases hStranded with
                | unthreaded _ hOther
                | lost _ hOther =>
                    exact absurd (hState.symm.trans hOther)
                      (by decide)
                | alone _ _ _ hIdle => exact hArmed hIdle
              · rcases h.waits (Server.mem_waiting hStarter)
                  with ⟨_, _, hWaits⟩
                exact absurd (hState.symm.trans hWaits.state)
                  (by decide)
            · intro hNot
              left
              intro hIdle
              exact hNot (.alone hService hState hOrigin hIdle)
          · refine iff_of_true (hCopy.attended hOrigin
              (fun side => hSlots side (Conn.fdOf_ne hFd
                hOrigin side)) (hGoing .client hFd)) ?_
            intro hStranded
            cases hStranded with
            | unthreaded _ hOther
            | lost _ hOther =>
                exact absurd (hState.symm.trans hOther)
                  (by decide)
            | alone _ _ hNone => exact hOrigin hNone

end Shapes

end Socks5d

------------------------------------------------------------
-- Why Nobody Reports
------------------------------------------------------------

namespace Socks5d

/-
  In this event the request of `k` goes on to wait for a name,
  and `pthread_create` answers an error number.
-/
structure Unmade
    (w : World)
    (k : ConnId)
    (l : Label) : Prop where
  enabled : Enabled w l = true
  answer : ∃ fd a, (l = .read fd a ∨ l = .write fd a) ∧
    a.pthreadCreate ≠ 0
  reads : (w.conn k).current = some REQUEST_READ
  waits : ((exec w l).conn k).current = some REQUEST_RESOLV

/-
  A connection that waits for a name and is not told: in an
  event of the run its thread was not made, or there was no
  memory for the job of its thread.
-/
inductive World.Unreported
    (w : World)
    (k : ConnId) : Prop where
  | unmade
      (v : World)
      (l : Label)
      (later : List Label)
      (hReach : server.Reachable v)
      (hRun : w = runTo later (exec v l))
      (hUnmade : Unmade v k l)
  | lost
      (hLost : k ∈ w.srv.lost.map BlockingJob.starter)

/- Who waits for a name has a thread or a job, maybe lost. -/
def World.Resolves
    (w : World)
    (k : ConnId) : Prop :=
  w.Live k → (w.conn k).isSocks = true →
    (w.conn k).current = some REQUEST_RESOLV →
      k ∈ w.srv.waiting

section Reporting

variable {w w' : World}
variable {j k : ConnId}
variable {key : Key}
variable {a : Answers}
variable {s t u : St}
variable {r : St × Nat}
variable {fd : Fd}
variable {l : Label}

/- A request that goes on to `REQUEST_RESOLV` has a thread. -/
theorem SocksTurn.starts
    (h : SocksTurn k key a s r)
    (hSocks : s.conn.isSocks = true)
    (hSound : s.srv.sel.Sound)
    (hOwns : Owns k s.srv.sel s.conn)
    (hBefore : s.conn.current ≠ some REQUEST_RESOLV)
    (hNext : r.2 = REQUEST_RESOLV) :
    s.conn.current = some REQUEST_READ ∧
      (a.pthreadCreate = 0 → key.data ∈ r.1.srv.waiting) := by
  have hHeading := (h.heading hSound hOwns hSocks).2
  have hCurrent := h.current hSound hOwns
  have hState : s.conn.current = some REQUEST_READ := by
    rw [hNext] at hHeading
    cases hHeading with
    | stay _ hHere =>
        exact absurd (hCurrent.symm.trans hHere) hBefore
    | resolving hHere => exact hCurrent.symm.trans hHere
    | ends _ hBad =>
        rcases hBad with hBad | hBad <;> nomatch hBad
  refine ⟨hState, fun hThread => ?_⟩
  cases h with
  | requestRead _ _ _ _ _ p _ _ hCall =>
      cases hCall with
      | ended => exact nomatch hNext
      | more => exact nomatch hNext
      | processed bytes _ _ _ _ hResult =>
          cases hResult with
          | refused => exact nomatch hNext
          | direct => exact nomatch hNext
          | noMemory => exact nomatch hNext
          | noThread => exact nomatch hNext
          | resolving =>
              refine List.mem_append_left _
                (List.mem_map.mpr ⟨_,
                  List.mem_append_right _
                    (List.mem_singleton.mpr rfl), rfl⟩)
          | waiting _ hBad => exact absurd hThread hBad
  | helloRead hOther
  | helloWrite hOther
  | authRead hOther
  | authWrite hOther
  | requestResolvDone hOther
  | connectingWrite hOther
  | requestWrite hOther
  | relay hOther => exact nomatch hState.symm.trans hOther

/- The same of a whole event. -/
theorem SocksEvent.starts
    (h : SocksEvent k key a s t)
    (hSocks : s.conn.isSocks = true)
    (hSound : s.srv.sel.Sound)
    (hOwns : Owns k s.srv.sel s.conn)
    (hBefore : s.conn.current ≠ some REQUEST_RESOLV)
    (hState : t.conn.current = some REQUEST_RESOLV) :
    s.conn.current = some REQUEST_READ ∧
      (a.pthreadCreate = 0 → key.data ∈ t.srv.waiting) := by
  cases h with
  | going r u hTurn hJump =>
      have hNext := Option.some.inj
        (hJump.enters.symm.trans hState)
      have hMoved := hJump.shared
      rw [Server.waiting_of_eq hMoved.threads hMoved.jobs
        hMoved.lost]
      exact hTurn.starts hSocks hSound hOwns hBefore hNext
  | ends r u hTurn hJump hNext =>
      rw [socksv5Done_conn, hJump.enters] at hState
      rw [Option.some.inj hState] at hNext
      rcases hNext with hBad | hBad <;> nomatch hBad
  | stuck hWhy => exact absurd hState hBefore

/- Those who waited still do. -/
theorem Threads.keeps
    (h : Threads key s u)
    (hWaiting : k ∈ s.srv.waiting) : k ∈ u.srv.waiting := by
  cases h with
  | same hShared =>
      rw [Server.waiting_of_eq hShared.threads hShared.jobs
        hShared.lost]
      exact hWaiting
  | started request hShared =>
      unfold Server.waiting Server.owed at hWaiting ⊢
      rw [hShared.threads, hShared.jobs, hShared.lost]
      simp only [List.map_append, List.mem_append]
        at hWaiting ⊢
      exact hWaiting.imp_left Or.inl

/- An event of connection `k`. -/
theorem World.Resolves.put
    (h : w.Resolves j)
    (hKeep : j ≠ k → j ∈ w.srv.waiting → j ∈ t.srv.waiting)
    (hSelf : j = k → t.conn.isSocks = true →
      t.conn.current = some REQUEST_RESOLV →
        k ∈ t.srv.waiting) :
    (w.put k t).Resolves j := by
  intro hLive hSocks hState
  by_cases hEq : j = k
  · subst hEq
    rw [w.put_conn_self] at hSocks hState
    exact hSelf rfl hSocks hState
  · unfold World.Live at hLive
    rw [w.put_conn_of_ne t hEq] at hLive hSocks hState
    exact hKeep hEq (h hLive hSocks hState)

theorem World.Resolves.accept
    (h : w.Resolves j)
    (isSocks : Bool)
    (client : Fd) : (w.accept isSocks client).Resolves j := by
  intro hLive hSocks hState
  by_cases hEq : j = w.next
  · have hSelf : (w.accept isSocks client).conn j =
        { isSocks, clientFd := client } := by
      rw [hEq]
      exact Function.update_self _ _ _
    rw [hSelf] at hState
    exact nomatch hState
  · have hOther : (w.accept isSocks client).conn j =
        w.conn j := Function.update_of_ne hEq _ _
    have hOld := (Nat.lt_succ_iff_lt_or_eq.mp
      hLive.1).resolve_right hEq
    have hOpen := hLive.2
    rw [hOther] at hOpen hSocks hState
    exact h ⟨hOld, hOpen⟩ hSocks hState

/- The first event of a connection does not move it there. -/
theorem first_state
    {state : Nat}
    (hState : (handleFirst clientStatbl key a
      s).conn.current = some state) :
    state = HELLO_READ ∨ s.conn.current = some state := by
  rw [handleFirst_eq
    (show clientStatbl HELLO_READ = _ from rfl)] at hState
  split at hState
  · have hNow : (helloReadInit key a
        (entered HELLO_READ s)).conn.current =
          some HELLO_READ := by
      unfold helloReadInit
      split <;> rfl
    exact Or.inl (Option.some.inj (hState.symm.trans hNow))
  · exact Or.inr hState

/- An event on a descriptor, whether a thread is made or not. -/
theorem Dispatch.resolves
    (h : Dispatch w fd a w')
    (hInv : Inv w)
    (hBefore : w.Resolves j) :
    w'.Resolves j ∨ a.pthreadCreate ≠ 0 ∧
      (w.conn j).current = some REQUEST_READ ∧
      (w'.conn j).current = some REQUEST_RESOLV := by
  cases h with
  | accept isSocks =>
      left
      rcases passiveAccept_cases isSocks a w with
        hSame | ⟨client, _, _, _, _, hEq⟩
      · rw [hSame]
        exact hBefore
      · rw [hEq]
        exact hBefore.accept isSocks client
  | socks k interest t hLive hSocks hKey hArmed hEvent =>
      rcases hInv.first hLive clientStatbl rfl ⟨fd, k⟩ a with
        ⟨hSrv, hSound, hOwns⟩
      have hFirst := (first_conn clientStatbl rfl ⟨fd, k⟩ a
        (w.view k)).trans hSocks
      have hThreads := hEvent.threads hSound hOwns
      have hKeep : j ∈ w.srv.waiting → j ∈ t.srv.waiting := by
        intro hWaiting
        apply hThreads.keeps
        rw [hSrv]
        exact hWaiting
      by_cases hState : j = k ∧
          t.conn.current = some REQUEST_RESOLV
      · rcases hState with ⟨rfl, hState⟩
        -- an armed slot is not that of one who waits
        have hNot : (handleFirst clientStatbl ⟨fd, j⟩ a
            (w.view j)).conn.current ≠
              some REQUEST_RESOLV := by
          intro hBad
          rcases first_state hBad with hOther | hHere
          · nomatch hOther
          · exact hInv.not_waiting hKey hArmed
              (hBefore hLive hSocks hHere)
        rcases hEvent.starts hFirst hSound hOwns hNot hState
          with ⟨hRead, hStarts⟩
        by_cases hThread : a.pthreadCreate = 0
        · exact Or.inl (hBefore.put (fun _ => hKeep)
            fun _ _ _ => hStarts hThread)
        · refine Or.inr ⟨hThread, ?_, ?_⟩
          · rcases first_state hRead with hOther | hHere
            · nomatch hOther
            · exact hHere
          · rw [w.put_conn_self]
            exact hState
      · exact Or.inl (hBefore.put (fun _ => hKeep)
          fun hEq _ hBad => absurd ⟨hEq, hBad⟩ hState)
  | mng k t hLive hMng hEvent =>
      left
      rcases hInv.first hLive clientMng rfl ⟨fd, k⟩ a with
        ⟨hSrv, _⟩
      refine hBefore.put ?_ ?_
      · intro _ hWaiting
        rw [Server.waiting_of_eq hEvent.shared.threads
          hEvent.shared.jobs hEvent.shared.lost, hSrv]
        exact hWaiting
      · intro _ hSocks
        rw [hEvent.service] at hSocks
        have hFirst := first_conn clientMng rfl ⟨fd, k⟩ a
          (w.view k)
        rw [hFirst] at hSocks
        exact nomatch hMng.symm.trans hSocks

/- A connection that is told leaves `REQUEST_RESOLV`. -/
theorem Inv.block_resolves
    (h : Inv w)
    (hBefore : w.Resolves j)
    (hFault : w.srv.fault = none)
    {job : BlockingJob}
    {rest : List BlockingJob}
    (hJobs : w.srv.jobs = job :: rest)
    (a : Answers) : (handleBlockTurn a w).Resolves j := by
  have hCalm := (h.turn hJobs a).2.trans hFault
  rcases h.block_event hJobs a with
    ⟨t, hTurn, hWaits, hEvent, _⟩
  rw [hTurn] at hCalm ⊢
  have hOwns := (h.wired _ hWaits.live).owns
  have hThreads := hEvent.threads h.sound
    (hOwns.of_eq rfl rfl rfl)
  refine hBefore.put ?_ ?_
  · intro hNe hWaiting
    apply hThreads.keeps
    unfold Server.waiting Server.owed at hWaiting
    rw [hJobs, List.cons_append, List.map_cons] at hWaiting
    rcases List.mem_append.mp hWaiting with hThread | hJob
    · exact List.mem_append_left _ hThread
    · exact List.mem_append_right _
        ((List.mem_cons.mp hJob).resolve_left hNe)
  · intro _ _ hState
    have hHere : (w.notified job rest).conn.current =
        some REQUEST_RESOLV := hWaits.state
    cases hEvent with
    | going r u hTurn hJump =>
        have hNext := Option.some.inj
          (hJump.enters.symm.trans hState)
        cases hTurn with
        | requestResolvDone _ _ _ _ p _ _ hCall =>
            cases hCall <;> exact nomatch hNext
        | helloRead hOther
        | helloWrite hOther
        | authRead hOther
        | authWrite hOther
        | requestRead hOther
        | connectingWrite hOther
        | requestWrite hOther
        | relay hOther => exact nomatch hHere.symm.trans hOther
    | ends r u hTurn hJump hNext =>
        rw [socksv5Done_conn, hJump.enters] at hState
        rw [Option.some.inj hState] at hNext
        rcases hNext with hBad | hBad <;> nomatch hBad
    | stuck hWhy => exact nomatch hCalm

/- The loop of the notifications, while the process runs. -/
theorem Inv.loop_resolves
    (h : Inv w)
    (hBefore : w.Resolves j)
    (hFault : w.srv.fault = none)
    (a : Nat → Answers)
    (turns : Nat) :
    (notificationLoop a turns w).Resolves j := by
  let Fine (v : World) : Prop :=
    v.Resolves j ∧ v.srv.fault = none
  have hLoop : Fine w → Fine (notificationLoop a turns w) := by
    refine Inv.loop_rule (P := Fine)
      (R := fun v u => Fine v → Fine u) (fun _ => id) ?_ h
      ⟨hBefore, hFault⟩ a turns
    intro v job rest answers hInv hFine hJobs
    have hNext : Fine (handleBlockTurn answers v) :=
      ⟨hInv.block_resolves hFine.1 hFine.2 hJobs answers,
        (hInv.turn hJobs answers).2.trans hFine.2⟩
    exact ⟨hNext, fun u hRest _ => hRest hNext⟩
  exact (hLoop ⟨hBefore, hFault⟩).1

/- The halves of a thread change no state. -/
theorem World.Resolves.resolution
    (h : w.Resolves j)
    {starter : ConnId}
    {srv : Server}
    (addresses : List Addrinfo)
    (hKeep : j ∈ w.srv.waiting → j ∈ srv.waiting) :
    World.Resolves { w with
      srv := srv
      conn := Function.update w.conn starter
        { w.conn starter with
          originResolution := addresses } } j := by
  intro hLive hSocks hState
  apply hKeep
  by_cases hEq : j = starter
  · subst hEq
    have hOpen := hLive.2
    simp only [Function.update_self] at hOpen hSocks hState
    exact h ⟨hLive.1, hOpen⟩ hSocks hState
  · have hOpen := hLive.2
    simp only [Function.update_of_ne hEq]
      at hOpen hSocks hState
    exact h ⟨hLive.1, hOpen⟩ hSocks hState

/- A step keeps it, unless a thread is not made in it. -/
theorem Inv.exec_resolves
    (h : Inv w)
    (hBefore : w.Resolves j)
    (hEnabled : Enabled w l = true) :
    (exec w l).Resolves j ∨ Unmade w j l := by
  cases l with
  | read fd a =>
      rcases h.exec_read hEnabled with hSame | hDispatch
      · exact Or.inl (hSame.symm ▸ hBefore)
      · exact (hDispatch.resolves h hBefore).imp_right
          fun ⟨hThread, hRead, hState⟩ =>
            ⟨hEnabled, ⟨fd, a, Or.inl rfl, hThread⟩, hRead,
              hState⟩
  | write fd a =>
      rcases h.exec_write hEnabled with hSame | hDispatch
      · exact Or.inl (hSame.symm ▸ hBefore)
      · exact (hDispatch.resolves h hBefore).imp_right
          fun ⟨hThread, hRead, hState⟩ =>
            ⟨hEnabled, ⟨fd, a, Or.inr rfl, hThread⟩, hRead,
              hState⟩
  | notify a =>
      have hFault : w.srv.fault = none :=
        Option.isNone_iff_eq_none.mp hEnabled
      exact Or.inl (h.loop_resolves hBefore hFault a _)
  | threadStart i =>
      left
      show (requestResolvBlocking i w).Resolves j
      unfold requestResolvBlocking
      cases hThread : w.srv.threads[i]? with
      | none => exact hBefore
      | some t =>
          rcases (h.threads t
            (List.mem_of_getElem? hThread)).parser with
            ⟨p, hParser, _⟩
          simp only [hParser]
          refine hBefore.resolution [] ?_
          intro hWaiting
          unfold Server.waiting at hWaiting ⊢
          dsimp only
          rw [Thread.map_set (u := { t with
            host := some (p.request.host.take
              p.request.fqdnSize, p.request.destPort) })
            Thread.data hThread rfl]
          exact hWaiting
  | threadDone i addresses a =>
      left
      show (requestResolvNotify i addresses a w).Resolves j
      unfold requestResolvNotify
      cases hThread : w.srv.threads[i]? with
      | none => exact hBefore
      | some t =>
          exact hBefore.resolution addresses
            (Server.notify_perm Thread.data
              BlockingJob.starter (fun _ => rfl) hThread
              a).mem_iff.mpr

/-
  In every run: a connection that waits for a name without a
  thread or a job, even a lost one, has met a thread that was
  not made. By induction on the run.
-/
theorem reachable_unmade
    (hReach : server.Reachable w)
    (hNot : ¬ w.Resolves k) :
    ∃ v l later, server.Reachable v ∧
      w = runTo later (exec v l) ∧ Unmade v k l := by
  revert hNot
  refine hReach.strengthen (Q := server.Reachable)
    (P := fun w => ¬ w.Resolves k →
      ∃ v l later, server.Reachable v ∧
        w = runTo later (exec v l) ∧ Unmade v k l)
    (fun _ h => h) ?_ ?_
  · intro w hInit hNot
    refine absurd ?_ hNot
    intro hLive
    have hLt := hLive.1
    rw [hInit.next] at hLt
    exact absurd hLt (Nat.not_lt_zero _)
  · rintro w l w' hBefore hCaused ⟨hEnabled, rfl⟩ hNot
    by_cases hResolves : w.Resolves k
    · rcases (reachable_inv hBefore).exec_resolves hResolves
        hEnabled with hAfter | hUnmade
      · exact absurd hAfter hNot
      · exact ⟨w, l, [], hBefore, rfl, hUnmade⟩
    · rcases hCaused hResolves with
        ⟨v, m, later, hV, hRun, hUnmade⟩
      refine ⟨v, m, later ++ [l], hV, ?_, hUnmade⟩
      rw [runTo_append, ← hRun]
      exact (if_pos hEnabled).symm

/- Why a stranded connection that waits for a name is so. -/
theorem World.Stranded.unreported
    (h : w.Stranded k)
    (hReach : server.Reachable w)
    (hLive : w.Live k)
    (hState : (w.conn k).current = some REQUEST_RESOLV) :
    w.Unreported k := by
  cases h with
  | unthreaded hService _ hNone =>
      rcases reachable_unmade hReach (fun hResolves =>
        hNone (hResolves hLive hService hState)) with
        ⟨v, l, later, hV, hRun, hUnmade⟩
      exact .unmade v l later hV hRun hUnmade
  | lost _ _ hLost => exact .lost hLost
  | alone _ hOther => exact nomatch hState.symm.trans hOther

end Reporting

end Socks5d

------------------------------------------------------------
-- Stranded For Good
------------------------------------------------------------

namespace Socks5d

section Staying

variable {w w' : World}
variable {k : ConnId}

/- Threads and jobs of a server after an event of another. -/
theorem Threads.waiting
    {key : Key}
    {s u : St}
    (h : Threads key s u)
    (hWaiting : k ∈ u.srv.waiting) :
    k ∈ s.srv.waiting ∨ k = key.data := by
  cases h with
  | same hShared =>
      rw [Server.waiting_of_eq hShared.threads hShared.jobs
        hShared.lost] at hWaiting
      exact Or.inl hWaiting
  | started request hShared =>
      unfold Server.waiting Server.owed at hWaiting ⊢
      rw [hShared.threads, hShared.jobs,
        hShared.lost] at hWaiting
      simp only [List.map_append, List.mem_append,
        List.map_cons, List.map_nil,
        List.mem_singleton] at hWaiting ⊢
      rcases hWaiting with (hThread | hNew) | hJob
      · exact Or.inl (Or.inl hThread)
      · exact Or.inr hNew
      · exact Or.inl (Or.inr hJob)

/- What is lost stays lost. -/
theorem Micro.lost_kept
    (h : Micro w w')
    (hInv : Inv w) :
    ∀ job ∈ w.srv.lost, job ∈ w'.srv.lost := by
  intro job hJob
  cases h with
  | accepted isSocks client hNonneg hFree hUnused => exact hJob
  | socks j key a interest t hJ hSocks hKey hArmed hEvent =>
      rcases hInv.first hJ clientStatbl rfl key a with
        ⟨hSrv, hSound, hOwns⟩
      show job ∈ t.srv.lost
      rw [(hEvent.threads hSound hOwns).lost, hSrv]
      exact hJob
  | mng j key a t hJ hMng hEvent =>
      rcases hInv.first hJ clientMng rfl key a with
        ⟨hSrv, _⟩
      show job ∈ t.srv.lost
      rw [hEvent.shared.lost, hSrv]
      exact hJob
  | block first rest a t hJobs hWaits hEvent =>
      have hOwns := (hInv.wired _ hWaits.live).owns
      show job ∈ t.srv.lost
      rw [(hEvent.threads hInv.sound
        (hOwns.of_eq rfl rfl rfl)).lost]
      exact hJob
  | threadStart i t p hThread hWaits hParser hRequest =>
      exact hJob
  | threadDone i t addresses a hThread hWaits =>
      show job ∈ (selectorNotifyBlock t a _).lost
      unfold selectorNotifyBlock
      dsimp only
      split
      · exact hJob
      · exact List.mem_cons_of_mem _ hJob

/- A step that concerns a connection finds it attended. -/
theorem Micro.unattended
    (h : Micro w w')
    (hInv : Inv w)
    (hLive : w.Live k)
    (hNot : ¬ w.Attended k) :
    w'.conn k = w.conn k ∧
      (k ∈ w'.srv.waiting → k ∈ w.srv.waiting) := by
  have hNone : k ∉ w.srv.starters :=
    fun hStarter => hNot (Or.inr hStarter)
  cases h with
  | accepted isSocks client hNonneg hFree hUnused =>
      refine ⟨Function.update_of_ne ?_ _ _, id⟩
      exact Nat.ne_of_lt hLive.1
  | socks j key a interest t hJ hSocks hKey hArmed hEvent =>
      have hNe : k ≠ j := by
        intro hEq
        subst hEq
        exact hNot (.of_slot hKey.slot rfl hArmed)
      rcases hInv.first hJ clientStatbl rfl key a with
        ⟨hSrv, hSound, hOwns⟩
      refine ⟨w.put_conn_of_ne t hNe, ?_⟩
      intro hWaiting
      rcases (hEvent.threads hSound hOwns).waiting hWaiting
        with hOld | hNew
      · rw [hSrv] at hOld
        exact hOld
      · exact absurd (hNew.trans hKey.data) hNe
  | mng j key a t hJ hMng hEvent =>
      have hNe : k ≠ j := by
        intro hEq
        subst hEq
        exact hNot ((hInv.wired k hJ).mng hMng).2.attended
      refine ⟨w.put_conn_of_ne t hNe, ?_⟩
      rcases hInv.first hJ clientMng rfl key a with
        ⟨hSrv, _⟩
      intro hWaiting
      change k ∈ t.srv.waiting at hWaiting
      rw [Server.waiting_of_eq hEvent.shared.threads
        hEvent.shared.jobs hEvent.shared.lost,
        hSrv] at hWaiting
      exact hWaiting
  | block job rest a t hJobs hWaits hEvent =>
      have hMem : job.starter ∈ w.srv.starters :=
        List.mem_append_right _ (List.mem_map.mpr
          ⟨job, hJobs ▸ List.mem_cons_self, rfl⟩)
      have hNe : k ≠ job.starter :=
        fun hEq => hNone (hEq ▸ hMem)
      refine ⟨w.put_conn_of_ne t hNe, ?_⟩
      have hOwns := (hInv.wired _ hWaits.live).owns
      intro hWaiting
      rcases (hEvent.threads hInv.sound
        (hOwns.of_eq rfl rfl rfl)).waiting hWaiting with
        hOld | hNew
      · unfold Server.waiting Server.owed at hOld ⊢
        rw [hJobs]
        rcases List.mem_append.mp hOld with hThread | hJob
        · exact List.mem_append_left _ hThread
        · exact List.mem_append_right _
            (List.mem_cons_of_mem _ hJob)
      · exact absurd hNew hNe
  | threadStart i t p hThread hWaits hParser hRequest =>
      have hMem : t.data ∈ w.srv.starters :=
        List.mem_append_left _ (List.mem_map.mpr
          ⟨t, List.mem_of_getElem? hThread, rfl⟩)
      have hNe : k ≠ t.data := fun hEq => hNone (hEq ▸ hMem)
      refine ⟨Function.update_of_ne hNe _ _, ?_⟩
      intro hWaiting
      rcases List.mem_append.mp hWaiting with hOld | hJob
      · rcases List.mem_map.mp hOld with ⟨x, hX, hData⟩
        rcases List.mem_or_eq_of_mem_set hX with hIn | hNew
        · exact List.mem_append_left _
            (List.mem_map.mpr ⟨x, hIn, hData⟩)
        · rw [hNew] at hData
          exact absurd hData.symm hNe
      · exact List.mem_append_right _ hJob
  | threadDone i t addresses a hThread hWaits =>
      have hMem : t.data ∈ w.srv.starters :=
        List.mem_append_left _ (List.mem_map.mpr
          ⟨t, List.mem_of_getElem? hThread, rfl⟩)
      have hNe : k ≠ t.data := fun hEq => hNone (hEq ▸ hMem)
      refine ⟨Function.update_of_ne hNe _ _, ?_⟩
      intro hWaiting
      rcases List.mem_append.mp hWaiting with hThread | hJob
      · rcases List.mem_map.mp hThread with ⟨x, hX, hData⟩
        exact List.mem_append_left _ (List.mem_map.mpr
          ⟨x, List.mem_of_mem_eraseIdx hX, hData⟩)
      · have hOwed := (Server.owed_notify t a
          { w.srv with
            threads := w.srv.threads.eraseIdx i }).map
              BlockingJob.starter
        rcases List.mem_cons.mp (hOwed.mem_iff.mp hJob) with
          hNew | hOld
        · exact absurd hNew hNe
        · exact List.mem_append_right _ hOld

/- It looks at the connection and at who waits only. -/
theorem World.Stranded.of_eq
    (h : w.Stranded k)
    (hConn : w'.conn k = w.conn k)
    (hWaiting : k ∈ w'.srv.waiting → k ∈ w.srv.waiting)
    (hLost : ∀ job ∈ w.srv.lost, job ∈ w'.srv.lost) :
    w'.Stranded k := by
  cases h with
  | unthreaded hService hState hNone =>
      refine .unthreaded ?_ ?_ fun hBad => hNone (hWaiting hBad)
      · rw [hConn]
        exact hService
      · rw [hConn]
        exact hState
  | lost hService hState hMem =>
      refine .lost ?_ ?_ ?_
      · rw [hConn]
        exact hService
      · rw [hConn]
        exact hState
      · rcases List.mem_map.mp hMem with ⟨job, hJob, hStarter⟩
        exact List.mem_map.mpr ⟨job, hLost job hJob, hStarter⟩
  | alone hService hState hOrigin hIdle =>
      refine .alone ?_ ?_ ?_ ?_
      · rw [hConn]
        exact hService
      · rw [hConn]
        exact hState
      · rw [hConn]
        exact hOrigin
      · rw [hConn]
        exact hIdle

/- A stranded connection as it will be found ever after. -/
structure World.LeftAlone
    (w : World)
    (k : ConnId)
    (c : Conn) : Prop where
  live : w.Live k
  stranded : w.Stranded k
  conn : w.conn k = c

/- A small step leaves it where it is. -/
theorem Micro.leftAlone
    {c : Conn}
    (h : Micro w w')
    (hInv : Inv w)
    (hLeft : w.LeftAlone k c) : w'.LeftAlone k c := by
  have hNot : ¬ w.Attended k := fun hAttended =>
    (hInv.attended_iff hLeft.live).mp hAttended hLeft.stranded
  rcases h.unattended hInv hLeft.live hNot with
    ⟨hConn, hWaiting⟩
  refine ⟨⟨?_, ?_⟩, hLeft.stranded.of_eq hConn hWaiting
    (h.lost_kept hInv), hConn.trans hLeft.conn⟩
  · exact Nat.lt_of_lt_of_le hLeft.live.1 h.next_le
  · rw [hConn]
    exact hLeft.live.2

/- A step is made of small ones. -/
theorem Inv.leftAlone
    {c : Conn}
    (h : Inv w)
    {l : Label}
    (hEnabled : Enabled w l = true)
    (hLeft : w.LeftAlone k c) :
    (exec w l).LeftAlone k c := by
  have hRun : ∀ v, Relation.ReflTransGen Micro w v →
      Inv v ∧ v.LeftAlone k c := by
    intro v hSteps
    induction hSteps with
    | refl => exact ⟨h, hLeft⟩
    | tail _ hLast ih =>
        exact ⟨hLast.inv ih.1, hLast.leftAlone ih.1 ih.2⟩
  exact (hRun _ (h.micros hEnabled)).2

/- By induction on the run. -/
theorem leftAlone_runTo
    {c : Conn}
    (labels : List Label)
    (hReach : server.Reachable w)
    (hLeft : w.LeftAlone k c) :
    (runTo labels w).LeftAlone k c := by
  induction labels generalizing w with
  | nil => exact hLeft
  | cons l rest ih =>
      unfold runTo
      by_cases hEnabled : Enabled w l = true
      · rw [if_pos hEnabled]
        exact ih (hReach.step ⟨hEnabled, rfl⟩)
          ((reachable_inv hReach).leftAlone hEnabled hLeft)
      · rw [if_neg hEnabled]
        exact ih hReach hLeft

/-
  In every reachable world, while the process runs: a live
  connection has an event that concerns it, or is stranded;
  and one that is so while it waits for a name has met a
  thread that was not made, or a job without memory.
-/
theorem concerned_iff
    (hReach : server.Reachable w)
    (hFault : w.srv.fault = none)
    (hLive : w.Live k) :
    ((∃ l, Enabled w l = true ∧ l.Concerns w k) ↔
        ¬ w.Stranded k) ∧
      (w.Stranded k →
        (w.conn k).current = some REQUEST_RESOLV →
          w.Unreported k) :=
  ⟨(World.attended_iff_concerns hFault).symm.trans
      ((reachable_inv hReach).attended_iff hLive),
    fun hStranded =>
      hStranded.unreported hReach hLive⟩

/-
  A stranded connection stays as it is in every run, with the
  descriptor of its client open.
-/
theorem stranded_forever
    (hReach : server.Reachable w)
    (hLive : w.Live k)
    (hStranded : w.Stranded k)
    (labels : List Label) :
    (runTo labels w).conn k = w.conn k ∧
      (runTo labels w).Stranded k ∧
      (runTo labels w).srv.sel.opened
        (w.conn k).clientFd = some (.client k) := by
  have hLeft := leftAlone_runTo labels hReach
    ⟨hLive, hStranded, rfl⟩
  have hInv := reachable_inv (reachable_runTo labels hReach)
  have hClient := (hInv.wired k hLeft.live).owns.client
  rw [hLeft.conn] at hClient
  exact ⟨hLeft.conn, hLeft.stranded, hClient⟩

end Staying

/-
  There is no memory for the key of the resolver: the failure
  is answered, and its relay has no origin when the client
  closes.
-/
def lonelyRun : List Label := [
  .read 3 { accept := some 5 },
  .read 5 { recv := some [5, 1, 0] },
  .write 5 { send := some 100 },
  .read 5 {
    recv := some [5, 1, 0, 3, 1, 0x61, 0, 80]
    alloc := fun site => decide (site ≠ .resolvKey) },
  .write 5 { send := some 100 },
  .read 5 { recv := some [] }]

def lonelyWorld : World :=
  runTo lonelyRun (smallServer 0 ⟨fun _ => {}, 0⟩
    ⟨fun _ => {}, 0⟩)

theorem lonelyWorld_reachable :
    server.Reachable lonelyWorld :=
  reachable_runTo lonelyRun
    (.init (smallServer_initial _ _ (by decide) (Or.inl rfl)))

/- `pthread_create` answers `EAGAIN` here. -/
def threadlessWorld : World :=
  runTo [
    .read 3 { accept := some 5 },
    .read 5 { recv := some [5, 1, 0] },
    .write 5 { send := some 100 },
    .read 5 {
      recv := some [5, 1, 0, 3, 1, 0x61, 0, 80]
      pthreadCreate := 11 }]
    (smallServer 0 ⟨fun _ => {}, 0⟩ ⟨fun _ => {}, 0⟩)

theorem lonelyWorld_concerned :
    ((∃ l, Enabled lonelyWorld l = true ∧
        l.Concerns lonelyWorld 0) ↔
      ¬ lonelyWorld.Stranded 0) ∧
      threadlessWorld.Unreported 0 :=
  ⟨(concerned_iff lonelyWorld_reachable (by decide +kernel)
      ⟨by decide +kernel, by decide +kernel⟩).1,
    (concerned_iff
      (reachable_runTo _ (.init (smallServer_initial _ _
        (by decide) (Or.inl rfl))))
      (by decide +kernel)
      ⟨by decide +kernel, by decide +kernel⟩).2
        (.unthreaded (by decide +kernel) (by decide +kernel)
          (by decide +kernel)) (by decide +kernel)⟩

theorem lonelyWorld_forever :
    let w := runTo lonelyRun lonelyWorld
    w.conn 0 = lonelyWorld.conn 0 ∧ w.Stranded 0 ∧
      w.srv.sel.opened (lonelyWorld.conn 0).clientFd =
        some (.client 0) :=
  stranded_forever lonelyWorld_reachable
    ⟨by decide +kernel, by decide +kernel⟩
    (.alone (by decide +kernel) (by decide +kernel)
      (by decide +kernel) (by decide +kernel)) lonelyRun

end Socks5d

------------------------------------------------------------
-- Relays Without An Origin
------------------------------------------------------------

namespace Socks5d

/- A relay without an origin follows a refused request. -/
def Conn.AloneRefused (c : Conn) : Prop :=
  c.isSocks = true → c.current = some COPY →
    c.established = 0 → ¬ c.TakenOn

section Refusing

variable {k : ConnId}
variable {key : Key}
variable {a : Answers}
variable {s u : St}
variable {r : St × Nat}

/- Where `COPY` comes from. -/
theorem SocksTurn.copies
    (h : SocksTurn k key a s r)
    (hSocks : s.conn.isSocks = true)
    (hSound : s.srv.sel.Sound)
    (hOwns : Owns k s.srv.sel s.conn)
    (hNext : r.2 = COPY) :
    s.conn.current = some COPY ∨
      (s.conn.current = some REQUEST_WRITE ∧
        s.conn.connStatus = .succeeded) := by
  have hHeading := (h.heading hSound hOwns hSocks).2
  have hCurrent := h.current hSound hOwns
  rw [hNext] at hHeading
  cases hHeading with
  | stay _ hHere => exact Or.inl (hCurrent.symm.trans hHere)
  | copy hHere =>
      have hState := hCurrent.symm.trans hHere
      rcases (h.late hSound hOwns hState (Nat.le_refl _)).2
        with ⟨_, _, hStatus, _⟩ | ⟨hBad, _⟩
      · exact Or.inr ⟨hState, hStatus hNext⟩
      · exact absurd hBad (by decide)
  | ends _ hBad => rcases hBad with hBad | hBad <;> nomatch hBad

theorem Conn.Grows.established_le
    {P : Ev → Prop}
    {c d : Conn}
    (h : c.Grows P d) : c.established ≤ d.established := by
  rcases h with ⟨events, hLog, _⟩
  unfold Conn.established
  rw [hLog, List.countP_append]
  exact Nat.le_add_right _ _

/- `COPY` is entered from `REQUEST_WRITE` and kept. -/
theorem SocksTurn.aloneRefused
    (h : SocksTurn k key a s r)
    (hSocks : s.conn.isSocks = true)
    (hSound : s.srv.sel.Sound)
    (hOwns : Owns k s.srv.sel s.conn)
    (hJump : SocksJump k key a r.1 r.2 u)
    (hAccount : ReplyAccount s.conn)
    (hBefore : s.conn.AloneRefused) :
    u.conn.AloneRefused := by
  intro _ hState hNone
  have hNext : r.2 = COPY :=
    Option.some.inj (hJump.enters.symm.trans hState)
  have hTaken : u.conn.TakenOn ↔ s.conn.TakenOn := by
    rw [hJump.takenOn, h.takenOn hSound hOwns, hNext]
    refine or_iff_left ?_
    rintro ⟨_, hBad | hBad⟩
    · exact absurd hBad (by decide)
    · exact absurd hBad (by decide)
  have hZero : s.conn.established = 0 := by
    rcases h.logs hSound hOwns with ⟨_, _, hCall⟩
    have hLe := Nat.le_trans hCall.established_le
      hJump.grows.established_le
    rw [hNone] at hLe
    exact Nat.le_zero.mp hLe
  rw [hTaken]
  rcases h.copies hSocks hSound hOwns hNext with
    hHere | ⟨hHere, hStatus⟩
  · exact hBefore hSocks hHere hZero
  · cases hAccount.answered hHere with
    | refused _ hIff => exact fun hBad => hIff.mpr hBad hStatus
    | acknowledged hOnce =>
        rw [hZero] at hOnce
        exact absurd hOnce (by decide)

/- Every event keeps it, beside the account of the status. -/
theorem aloneRefused_preserved :
    Preserved fun _ _ c => (Counted c ∧
      (c.isSocks = true → ReplyAccount c)) ∧
        c.AloneRefused := by
  constructor
  · intro admins k isSocks client
    exact ⟨replyAccount_preserved.born admins k isSocks client,
      fun _ hState => nomatch hState⟩
  · intro admins k c addresses hState hBefore
    refine ⟨replyAccount_preserved.resolution admins k c
      addresses hState hBefore.1, ?_⟩
    exact fun _ hBad => nomatch hState.symm.trans hBad
  · intro k s request hState hBefore
    refine ⟨replyAccount_preserved.notified k s request hState
      hBefore.1, ?_⟩
    exact fun _ hBad => nomatch hState.symm.trans hBad
  · intro k key a s hState hBefore
    refine ⟨replyAccount_preserved.first k key a s hState
      hBefore.1, ?_⟩
    have hNow : (helloReadInit key a
        (entered HELLO_READ s)).conn.current =
          some HELLO_READ := by
      unfold helloReadInit
      split <;> rfl
    exact fun _ hBad => nomatch hNow.symm.trans hBad
  · intro k key a s r u hSocks hSound hOwns hTurn hJump
      hBefore
    refine ⟨replyAccount_preserved.socks k key a s r u hSocks
      hSound hOwns hTurn hJump hBefore.1, ?_⟩
    exact hTurn.aloneRefused hSocks hSound hOwns hJump
      (hBefore.1.2 hSocks) hBefore.2
  · intro k key a s r u hMng hTurn hJump hBefore
    refine ⟨replyAccount_preserved.mng k key a s r u hMng
      hTurn hJump hBefore.1, fun hSocks => ?_⟩
    have hService := hJump.service.trans hTurn.service
    rw [hService, hMng] at hSocks
    nomatch hSocks

/- A stranded relay: the request was refused. -/
theorem World.Stranded.refused
    {w : World}
    (h : w.Stranded k)
    (hReach : server.Reachable w)
    (hOld : k < w.next)
    (hState : (w.conn k).current = some COPY) :
    ¬ (w.conn k).TakenOn := by
  rcases conn_invariant aloneRefused_preserved hReach hOld with
    ⟨⟨hCounted, _⟩, hAlone⟩
  cases h with
  | unthreaded _ hOther
  | lost _ hOther => exact nomatch hState.symm.trans hOther
  | alone hService _ hOrigin =>
      refine hAlone hService hState ?_
      cases hCounted.socks hService with
      | early hBad => exact nomatch hBad _ hState
      | connecting hBad => exact nomatch hState.symm.trans hBad
      | answering hBad => exact nomatch hState.symm.trans hBad
      | refusing _ hNone => exact hNone
      | copying _ _ _ hBad => exact absurd hOrigin hBad
      | alone _ hNone => exact hNone
      | ends hBad =>
          rcases hBad with hBad | hBad
          · exact nomatch hState.symm.trans hBad
          · exact nomatch hState.symm.trans hBad

end Refusing

end Socks5d

------------------------------------------------------------
-- Threads That Are Made
------------------------------------------------------------

namespace Socks5d

/-
  Every `pthread_create` of the event would succeed, and a
  thread that ends finds memory for its job.
-/
def Label.Threaded : Label → Prop
| .read _ a => a.pthreadCreate = 0
| .write _ a => a.pthreadCreate = 0
| .threadDone _ _ a => a.alloc .blockingJob = true
| _ => True

/- The server where threads and jobs can always be made. -/
def threadedServer : Machine World Label where
  init := Initial
  step w l w' := server.step w l w' ∧ l.Threaded

theorem Label.Threaded.jobMade
    {l : Label}
    (h : l.Threaded) : l.JobMade := by
  cases l with
  | threadDone i addresses a => exact h
  | read fd a => trivial
  | write fd a => trivial
  | notify a => trivial
  | threadStart i => trivial

theorem threadedServer_reachable
    {w : World}
    (h : threadedServer.Reachable w) :
    server.Reachable w :=
  h.invariant (fun _ hInit => .init hInit)
    fun _ _ _ hReach hStep => hReach.step hStep.1

section Threading

variable {w : World}
variable {k : ConnId}

/-
  There who waits for a name is in the books, and nothing is
  lost. By induction on the run.
-/
theorem threadedServer_resolves
    (h : threadedServer.Reachable w) :
    (∀ k, w.Resolves k) ∧ w.srv.lost = [] := by
  refine h.strengthen
    (P := fun v => (∀ k, v.Resolves k) ∧ v.srv.lost = [])
    (Q := server.Reachable)
    (fun _ hReach => threadedServer_reachable hReach) ?_ ?_
  · intro w hInit
    refine ⟨fun k hLive => ?_, hInit.lost⟩
    have hLt := hLive.1
    rw [hInit.next] at hLt
    exact absurd hLt (Nat.not_lt_zero _)
  · rintro w l w' hReach ⟨hBefore, hNone⟩
      ⟨⟨hEnabled, hEq⟩, hThreaded⟩
    have hInv := reachable_inv hReach
    rw [hEq]
    constructor
    · intro k
      rcases hInv.exec_resolves (hBefore k) hEnabled with
        hAfter | hUnmade
      · exact hAfter
      · rcases hUnmade.answer with ⟨fd, a, rfl | rfl, hBad⟩
        · exact absurd hThreaded hBad
        · exact absurd hThreaded hBad
    · rw [hInv.exec_lost hEnabled hThreaded.jobMade]
      exact hNone

/-
  Where threads and jobs can always be made, no connection is
  forgotten unless `request_process` has refused its request.
-/
theorem taken_on_concerned
    (hReach : threadedServer.Reachable w)
    (hFault : w.srv.fault = none)
    (hLive : w.Live k)
    (hTaken : (w.conn k).current = some COPY →
      (w.conn k).TakenOn) :
    ∃ l, Enabled w l = true ∧ l.Concerns w k := by
  have hServer := threadedServer_reachable hReach
  rw [← World.attended_iff_concerns hFault,
    (reachable_inv hServer).attended_iff hLive]
  intro hStranded
  cases hStranded with
  | unthreaded hService hState hNone =>
      exact hNone ((threadedServer_resolves hReach).1 k hLive
        hService hState)
  | lost _ _ hLost =>
      rw [(threadedServer_resolves hReach).2] at hLost
      nomatch hLost
  | alone hService hState hOrigin hIdle =>
      exact World.Stranded.refused
        (.alone hService hState hOrigin hIdle) hServer hLive.1
        hState (hTaken hState)

end Threading

/- The runs of this server are runs with threads. -/
theorem threadedServer_runTo
    {w : World}
    (labels : List Label)
    (hThreaded : ∀ l ∈ labels, l.Threaded)
    (h : threadedServer.Reachable w) :
    threadedServer.Reachable (runTo labels w) := by
  induction labels generalizing w with
  | nil => exact h
  | cons l rest ih =>
      have hRest := fun l hL =>
        hThreaded l (List.mem_cons_of_mem _ hL)
      unfold runTo
      by_cases hEnabled : Enabled w l = true
      · rw [if_pos hEnabled]
        exact ih hRest (h.step ⟨⟨hEnabled, rfl⟩,
          hThreaded l List.mem_cons_self⟩)
      · rw [if_neg hEnabled]
        exact ih hRest h

theorem copyWorld_threaded :
    threadedServer.Reachable copyWorld :=
  threadedServer_runTo copyRun
    (by simp [copyRun, Label.Threaded])
    (.init (smallServer_initial _ _ (by decide) (Or.inl rfl)))

theorem copyWorld_concerned :
    ∃ l, Enabled copyWorld l = true ∧
      l.Concerns copyWorld 0 :=
  taken_on_concerned copyWorld_threaded (by decide +kernel)
    ⟨by decide +kernel, by decide +kernel⟩
    (fun _ => Or.inr (by decide +kernel))

end Socks5d
