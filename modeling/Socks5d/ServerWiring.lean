import Mathlib.Data.List.Nodup
import Mathlib.Data.List.Perm.Basic
import Socks5d.SharedState
import Socks5d.System

/-
  The invariant of the running server: every connection that
  is not closed is wired, and every resolver thread and job
  belongs to a connection that waits for it.

  Main declarations:
    * `World.Live`, `Waits`, `Inv`
    * `Micro`, `Micro.inv`
    * `Server.invariant`
-/

------------------------------------------------------------
-- Frames
------------------------------------------------------------

namespace Socks5d

section Frames

variable {k j : ConnId}
variable {sel sel' : Selector}
variable {c d : Conn}
variable {interest : Interest}
variable {attached : Attachment}
variable {fd : Fd}

/- A slot that is not touched keeps what it has. -/
theorem Selector.Has.of_fds
    (h : sel.Has fd interest attached)
    (hFds : sel'.fds fd = sel.fds fd) :
    sel'.Has fd interest attached :=
  ⟨h.1, hFds.trans h.2⟩

/- The shape looks at the two slots of the connection. -/
theorem SocksShape.of_fds
    (h : SocksShape k sel c)
    (hClient : sel'.fds c.clientFd = sel.fds c.clientFd)
    (hOrigin : sel'.fds c.originFd = sel.fds c.originFd) :
    SocksShape k sel' c := by
  cases h with
  | fresh hState hNone hSlot =>
      exact .fresh hState hNone (hSlot.of_fds hClient)
  | helloRead hState hNone hSlot hHello =>
      exact .helloRead hState hNone (hSlot.of_fds hClient)
        hHello
  | helloWrite hState hNone hSlot hHello =>
      exact .helloWrite hState hNone (hSlot.of_fds hClient)
        hHello
  | userpassRead hState hNone hSlot =>
      exact .userpassRead hState hNone (hSlot.of_fds hClient)
  | userpassWrite hState hNone hSlot =>
      exact .userpassWrite hState hNone
        (hSlot.of_fds hClient)
  | requestRead hState hNone hSlot hStatus p hParser =>
      exact .requestRead hState hNone (hSlot.of_fds hClient)
        hStatus p hParser
  | requestStarved hState hNone hSlot hStarved =>
      exact .requestStarved hState hNone
        (hSlot.of_fds hClient) hStarved
  | resolving hState hNone hSlot p hParser =>
      exact .resolving hState hNone (hSlot.of_fds hClient) p
        hParser
  | connecting hState hSlot hOther =>
      exact .connecting hState (hSlot.of_fds hClient)
        (hOther.of_fds hOrigin)
  | connectFailed hState hSlot hStatus hIdle =>
      refine .connectFailed hState (hSlot.of_fds hClient)
        hStatus ?_
      intro item hItem
      rw [hOrigin] at hItem
      exact hIdle item hItem
  | connectedAtOnce hState hSlot hOther hAtOnce =>
      exact .connectedAtOnce hState (hSlot.of_fds hClient)
        (hOther.of_fds hOrigin) hAtOnce
  | requestWrite hState hSlot hOther =>
      exact .requestWrite hState (hSlot.of_fds hClient)
        (hOther.imp_right fun h => h.of_fds hOrigin)
  | copy hState hCopy hSlots hGoing =>
      refine .copy hState hCopy ?_ hGoing
      intro side hFd
      apply (hSlots side hFd).of_fds
      cases side with
      | client => exact hClient
      | origin => exact hOrigin

theorem MngShape.of_fds
    (h : MngShape k sel c)
    (hClient : sel'.fds c.clientFd = sel.fds c.clientFd) :
    MngShape k sel' c := by
  cases h with
  | fresh hState hSlot =>
      exact .fresh hState (hSlot.of_fds hClient)
  | helloRead hState hSlot hHello hMethod =>
      exact .helloRead hState (hSlot.of_fds hClient) hHello
        hMethod
  | helloWrite hState hSlot hHello hMethod =>
      exact .helloWrite hState (hSlot.of_fds hClient) hHello
        hMethod
  | reading state hState hReads hSlot =>
      exact .reading state hState hReads
        (hSlot.of_fds hClient)
  | writing state hState hWrites hSlot =>
      exact .writing state hState hWrites
        (hSlot.of_fds hClient)

/- What connection `k` does leaves connection `j` wired. -/
theorem Wired.frame
    (h : Wired j sel c)
    (hSound : sel.Sound)
    (hMoves : sel.Moves k sel')
    (hNe : j ≠ k) : Wired j sel' c := by
  have hClient := hMoves.keeps_slot h.owns.client rfl hNe
  have hOrigin : sel'.fds c.originFd = sel.fds c.originFd ∧
      (c.originFd = -1 ∨ ∃ domain,
        sel'.opened c.originFd =
          some (.origin j domain)) := by
    rcases h.owns.origin with hNone | ⟨domain, hOpen⟩
    · refine ⟨?_, Or.inl hNone⟩
      have hFree : ∀ s : Selector, s.Sound →
          s.fds (-1) = none := by
        intro s hS
        cases hItem : s.fds (-1) with
        | none => rfl
        | some item =>
            exact absurd (hS.valid _ _ hItem) (by decide)
      rw [hNone, hFree sel hSound,
        hFree sel' (hMoves.sound hSound)]
    · have hKept := hMoves.keeps_slot hOpen rfl hNe
      exact ⟨hKept.2, Or.inr ⟨domain, hKept.1⟩⟩
  refine ⟨⟨hClient.1, hOrigin.2, ?_⟩, ?_, ?_⟩
  · intro fd holder hOpen hConn
    refine h.owns.only fd holder ?_ hConn
    apply hMoves.foreign fd holder hOpen
    rw [hConn]
    intro hEq
    exact hNe (Option.some.inj hEq)
  · intro hSocks
    exact (h.socks hSocks).of_fds hClient.2 hOrigin.1
  · intro hMng
    exact ⟨(h.mng hMng).1, (h.mng hMng).2.of_fds hClient.2⟩

end Frames

end Socks5d

------------------------------------------------------------
-- The Invariant
------------------------------------------------------------

namespace Socks5d

/- The connection has been accepted and is not closed. -/
def World.Live
    (w : World)
    (k : ConnId) : Prop :=
  k < w.next ∧ ¬ (w.conn k).Closed

/-
  A connection waits for the resolution of a request that it
  still holds, on the descriptor that is its client's.
-/
structure Waits
    (w : World)
    (k : ConnId)
    (fd : Fd)
    (request : Request) : Prop where
  accepted : k < w.next
  service : (w.conn k).isSocks = true
  state : (w.conn k).current = some REQUEST_RESOLV
  client : (w.conn k).clientFd = fd
  parser : ∃ p, (w.conn k).request.parser = some p ∧
    p.request = request

/- Who has started the threads and jobs that there are. -/
def Server.starters (srv : Server) : List ConnId :=
  srv.threads.map Thread.data ++
    srv.jobs.map BlockingJob.starter

/- The jobs of the threads that have ended. -/
def Server.owed (srv : Server) : List BlockingJob :=
  srv.jobs ++ srv.lost

/- Who waits for a thread or a job, also if it was lost. -/
def Server.waiting (srv : Server) : List ConnId :=
  srv.threads.map Thread.data ++
    srv.owed.map BlockingJob.starter

theorem Server.waiting_eq
    (srv : Server) :
    srv.waiting = srv.starters ++
      srv.lost.map BlockingJob.starter := by
  unfold Server.waiting Server.starters Server.owed
  rw [List.map_append, List.append_assoc]

theorem Server.waiting_of_eq
    {srv srv' : Server}
    (hThreads : srv'.threads = srv.threads)
    (hJobs : srv'.jobs = srv.jobs)
    (hLost : srv'.lost = srv.lost) :
    srv'.waiting = srv.waiting := by
  unfold Server.waiting Server.owed
  rw [hThreads, hJobs, hLost]

structure Inv (w : World) : Prop where
  sound : w.srv.sel.Sound
  listeners : ∀ fd item,
    w.srv.sel.opened fd = some .process →
    w.srv.sel.fds fd = some item →
      item.attached.data? = none ∧ item.interest = opRead
  holders : ∀ fd holder k,
    w.srv.sel.opened fd = some holder →
    holder.conn? = some k → w.Live k
  wired : ∀ k, w.Live k → Wired k w.srv.sel (w.conn k)
  auth : w.srv.authMethod = methodNoAuthenticationRequired ∨
    w.srv.authMethod = methodUsernamePassword
  threads : ∀ t ∈ w.srv.threads,
    Waits w t.data t.fd t.request
  owed : ∀ job ∈ w.srv.owed,
    Waits w job.starter job.fd job.request
  once : w.srv.waiting.Nodup

section Waiting

variable {w : World}
variable {k j : ConnId}
variable {fd : Fd}
variable {request : Request}

theorem Waits.live
    (h : Waits w k fd request) : w.Live k := by
  refine ⟨h.accepted, ?_⟩
  exact not_closed_of_le h.service h.state (by decide)

/- An event of another connection does not disturb it. -/
theorem Waits.put_of_ne
    (h : Waits w k fd request)
    (s : St)
    (hNe : k ≠ j) : Waits (w.put j s) k fd request := by
  have hSame : (w.put j s).conn k = w.conn k :=
    Function.update_of_ne hNe _ _
  refine ⟨h.accepted, ?_, ?_, ?_, ?_⟩
  · rw [hSame]
    exact h.service
  · rw [hSame]
    exact h.state
  · rw [hSame]
    exact h.client
  · rw [hSame]
    exact h.parser

theorem World.put_conn_self
    (w : World)
    (k : ConnId)
    (s : St) : (w.put k s).conn k = s.conn :=
  Function.update_self _ _ _

theorem World.put_conn_of_ne
    (w : World)
    (s : St)
    (hNe : j ≠ k) : (w.put k s).conn j = w.conn j :=
  Function.update_of_ne hNe _ _

/- A job of the list is owed. -/
theorem Inv.jobs
    (h : Inv w) :
    ∀ job ∈ w.srv.jobs,
      Waits w job.starter job.fd job.request :=
  fun job hJob => h.owed job (List.mem_append_left _ hJob)

/- Whoever has started a thread or a job waits. -/
theorem Inv.waits
    (h : Inv w)
    (hWaiting : k ∈ w.srv.waiting) :
    ∃ fd request, Waits w k fd request := by
  rcases List.mem_append.mp hWaiting with hThread | hJob
  · rcases List.mem_map.mp hThread with ⟨t, hMem, hEq⟩
    rw [← hEq]
    exact ⟨_, _, h.threads t hMem⟩
  · rcases List.mem_map.mp hJob with ⟨job, hMem, hEq⟩
    rw [← hEq]
    exact ⟨_, _, h.owed job hMem⟩

theorem Server.mem_waiting
    {srv : Server}
    (h : k ∈ srv.starters) : k ∈ srv.waiting := by
  rw [srv.waiting_eq]
  exact List.mem_append_left _ h

/- Who still has a thread or a job has not lost it. -/
theorem Inv.not_lost
    (h : Inv w)
    (hStarter : k ∈ w.srv.starters) :
    k ∉ w.srv.lost.map BlockingJob.starter := by
  have hOnce := h.once
  rw [w.srv.waiting_eq] at hOnce
  exact fun hLost =>
    (List.nodup_append.mp hOnce).2.2 k hStarter k hLost rfl

end Waiting

/- What an event of connection `k` leaves in a world. -/
structure Leaves
    (w : World)
    (k : ConnId)
    (t : St) : Prop where
  moves : w.srv.sel.Moves k t.srv.sel
  after : (¬ t.conn.Closed ∧ Wired k t.srv.sel t.conn) ∨
    (t.conn.Closed ∧ ∀ fd holder,
      t.srv.sel.opened fd = some holder →
        holder.conn? ≠ some k)
  auth : t.srv.authMethod = methodNoAuthenticationRequired ∨
    t.srv.authMethod = methodUsernamePassword
  threads : ∀ x ∈ t.srv.threads,
    (x ∈ w.srv.threads ∧ x.data ≠ k) ∨
      Waits (w.put k t) x.data x.fd x.request
  owed : ∀ job ∈ t.srv.owed,
    job ∈ w.srv.owed ∧ job.starter ≠ k
  once : t.srv.waiting.Nodup

theorem Leaves.inv
    {w : World}
    {k : ConnId}
    {t : St}
    (h : Leaves w k t)
    (hInv : Inv w)
    (hLive : w.Live k) : Inv (w.put k t) := by
  have hSelf := w.put_conn_self k t
  have hOthers : ∀ j, j ≠ k →
      ((w.put k t).Live j ↔ w.Live j) := by
    intro j hNe
    unfold World.Live
    rw [w.put_conn_of_ne t hNe]
    exact Iff.rfl
  refine ⟨h.moves.sound hInv.sound, ?_, ?_, ?_, h.auth, ?_,
    ?_, h.once⟩
  · intro fd item hOpen hItem
    have hBefore := h.moves.foreign fd .process hOpen
      (by intro hBad; cases hBad)
    have hKept := h.moves.frame fd .process hBefore
      (by intro hBad; cases hBad)
    have hItem' : w.srv.sel.fds fd = some item :=
      hKept.2.symm.trans hItem
    exact hInv.listeners fd item hBefore hItem'
  · intro fd holder j hOpen hConn
    by_cases hEq : j = k
    · subst hEq
      rcases h.after with ⟨hGoing, _⟩ | ⟨_, hNone⟩
      · refine ⟨hLive.1, ?_⟩
        rw [hSelf]
        exact hGoing
      · exact absurd hConn (hNone fd holder hOpen)
    · rw [hOthers j hEq]
      refine hInv.holders fd holder j ?_ hConn
      apply h.moves.foreign fd holder hOpen
      rw [hConn]
      intro hBad
      exact hEq (Option.some.inj hBad)
  · intro j hJ
    by_cases hEq : j = k
    · subst hEq
      rcases h.after with ⟨_, hWired⟩ | ⟨hClosed, _⟩
      · rw [hSelf]
        exact hWired
      · have hNot := hJ.2
        rw [hSelf] at hNot
        exact absurd hClosed hNot
    · rw [w.put_conn_of_ne t hEq]
      exact (hInv.wired j ((hOthers j hEq).mp hJ)).frame
        hInv.sound h.moves hEq
  · intro x hX
    rcases h.threads x hX with ⟨hOld, hNe⟩ | hNew
    · exact (hInv.threads x hOld).put_of_ne t hNe
    · exact hNew
  · intro job hJob
    rcases h.owed job hJob with ⟨hOld, hNe⟩
    exact (hInv.owed job hOld).put_of_ne t hNe

end Socks5d

------------------------------------------------------------
-- Small Steps
------------------------------------------------------------

namespace Socks5d

/- The attachment of a new connection. -/
def Attachment.ofService
    (isSocks : Bool)
    (k : ConnId) : Attachment :=
  if isSocks then .socks k else .mng k

/- A world with one more connection. -/
def World.accept
    (w : World)
    (isSocks : Bool)
    (client : Fd) : World where
  srv := { w.srv with
    sel := (w.srv.sel.openFd client (.client w.next)).put
      client ⟨opRead, .ofService isSocks w.next⟩
    references :=
      Function.update w.srv.references w.next 1 }
  conn := Function.update w.conn w.next
    { isSocks, clientFd := client }
  next := w.next + 1

/- What the handler of the first job finds. -/
def World.notified
    (w : World)
    (job : BlockingJob)
    (rest : List BlockingJob) : St :=
  St.note
    { srv := { w.srv with jobs := rest }
      conn := w.conn job.starter }
    (.notified job.starter job.request)

/-
  What happens to a world at once. A turn of the notification
  loop is a step of its own.
-/
inductive Micro (w : World) : World → Prop where
  | accepted
      (isSocks : Bool)
      (client : Fd)
      (hNonneg : 0 ≤ client)
      (hFree : w.srv.sel.opened client = none)
      (hUnused : w.srv.sel.canRegister client = true) :
      Micro w (w.accept isSocks client)
  | socks
      (k : ConnId)
      (key : Key)
      (a : Answers)
      (interest : Interest)
      (t : St)
      (hLive : w.Live k)
      (hSocks : (w.conn k).isSocks = true)
      (hKey : Keyed k key (w.view k) interest)
      (hArmed : interest ≠ opNoop)
      (hEvent : SocksEvent k key a
        (handleFirst clientStatbl key a (w.view k)) t)
      (hAfter : Aftermath k (w.view k) t) :
      Micro w (w.put k t)
  | mng
      (k : ConnId)
      (key : Key)
      (a : Answers)
      (t : St)
      (hLive : w.Live k)
      (hMng : (w.conn k).isSocks = false)
      (hEvent : MngEvent k key a
        (handleFirst clientMng key a (w.view k)) t)
      (hAfter : Aftermath k (w.view k) t) :
      Micro w (w.put k t)
  | block
      (job : BlockingJob)
      (rest : List BlockingJob)
      (a : Answers)
      (t : St)
      (hJobs : w.srv.jobs = job :: rest)
      (hWaits : Waits w job.starter job.fd job.request)
      (hEvent : SocksEvent job.starter
        ⟨job.fd, job.starter⟩ a (w.notified job rest) t)
      (hAfter : Aftermath job.starter (w.notified job rest)
        t) :
      Micro w (w.put job.starter t)
  | threadStart
      (i : Nat)
      (t : Thread)
      (p : RequestParser)
      (hThread : w.srv.threads[i]? = some t)
      (hWaits : Waits w t.data t.fd t.request)
      (hParser : (w.conn t.data).request.parser = some p)
      (hRequest : p.request = t.request) :
      Micro w { w with
        srv.threads := w.srv.threads.set i { t with
          host := some (p.request.host.take
            p.request.fqdnSize, p.request.destPort) }
        conn := Function.update w.conn t.data
          { w.conn t.data with originResolution := [] } }
  | threadDone
      (i : Nat)
      (t : Thread)
      (addresses : List Addrinfo)
      (a : Answers)
      (hThread : w.srv.threads[i]? = some t)
      (hWaits : Waits w t.data t.fd t.request) :
      Micro w { w with
        srv := selectorNotifyBlock t a
          { w.srv with
            threads := w.srv.threads.eraseIdx i }
        conn := Function.update w.conn t.data
          { w.conn t.data with
            originResolution := addresses } }

end Socks5d

------------------------------------------------------------
-- Small Steps Keep The Invariant
------------------------------------------------------------

namespace Socks5d

section Keeping

variable {w w' : World}
variable {k : ConnId}

/- Filling the slot of the descriptor just opened. -/
theorem accept_moves
    (isSocks : Bool)
    {client : Fd}
    (hNonneg : 0 ≤ client)
    (hFree : w.srv.sel.opened client = none)
    (hUnused : w.srv.sel.canRegister client = true) :
    w.srv.sel.Moves w.next (w.accept isSocks client).srv.sel := by
  have hOpened : (w.srv.sel.openFd client
      (.client w.next)).opened client =
        some (.client w.next) :=
    Selector.openFd_opened_self _ _ _
  refine (Selector.Moves.openFd hNonneg hFree rfl).trans
    (.put ?_ (Selector.canRegister_iff.mp hUnused).1 ?_)
  · intro holder hHolder
    rw [hOpened] at hHolder
    rw [← Option.some.inj hHolder]
    rfl
  · intro hClosed
    rw [hOpened] at hClosed
    cases hClosed

theorem Micro.accepted_inv
    (h : Inv w)
    (isSocks : Bool)
    {client : Fd}
    (hNonneg : 0 ≤ client)
    (hFree : w.srv.sel.opened client = none)
    (hUnused : w.srv.sel.canRegister client = true) :
    Inv (w.accept isSocks client) := by
  have hMoves := accept_moves isSocks hNonneg hFree hUnused
  have hValid := (Selector.canRegister_iff.mp hUnused).1
  have hSelf : (w.accept isSocks client).conn w.next =
      { isSocks, clientFd := client } :=
    Function.update_self _ _ _
  have hOther : ∀ j, j ≠ w.next →
      (w.accept isSocks client).conn j = w.conn j :=
    fun j hNe => Function.update_of_ne hNe _ _
  have hOpened : (w.accept isSocks client).srv.sel.opened
      client = some (.client w.next) :=
    Selector.openFd_opened_self _ _ _
  have hKept : ∀ fd, fd ≠ client →
      (w.accept isSocks client).srv.sel.opened fd =
        w.srv.sel.opened fd :=
    fun fd hNe => Selector.openFd_opened_of_ne _ hNe
  have hWaits : ∀ k fd request, Waits w k fd request →
      Waits (w.accept isSocks client) k fd request := by
    intro k fd request hW
    have hNe : k ≠ w.next := Nat.ne_of_lt hW.accepted
    refine ⟨Nat.lt_succ_of_lt hW.accepted, ?_, ?_, ?_, ?_⟩
    · rw [hOther k hNe]
      exact hW.service
    · rw [hOther k hNe]
      exact hW.state
    · rw [hOther k hNe]
      exact hW.client
    · rw [hOther k hNe]
      exact hW.parser
  have hLive : ∀ j, j ≠ w.next →
      ((w.accept isSocks client).Live j ↔ w.Live j) := by
    intro j hNe
    have hLt : j < w.next + 1 ↔ j < w.next :=
      ⟨fun hJ => (Nat.lt_succ_iff_lt_or_eq.mp
        hJ).resolve_right hNe, Nat.lt_succ_of_lt⟩
    unfold World.Live
    rw [hOther j hNe]
    exact and_congr_left fun _ => hLt
  -- no descriptor was held by a connection to come
  have hFresh : ∀ fd holder,
      w.srv.sel.opened fd = some holder →
        holder.conn? ≠ some w.next := by
    intro fd holder hOpen hConn
    exact Nat.lt_irrefl _
      (h.holders fd holder w.next hOpen hConn).1
  refine ⟨hMoves.sound h.sound, ?_, ?_, ?_, h.auth, ?_, ?_,
    h.once⟩
  · intro fd item hOpen hItem
    have hBefore := hMoves.foreign fd .process hOpen
      (by intro hBad; cases hBad)
    have hSame := hMoves.frame fd .process hBefore
      (by intro hBad; cases hBad)
    exact h.listeners fd item hBefore
      (hSame.2.symm.trans hItem)
  · intro fd holder j hOpen hConn
    by_cases hFd : fd = client
    · rw [hFd, hOpened] at hOpen
      rw [← Option.some.inj hOpen] at hConn
      rw [← Option.some.inj hConn]
      refine ⟨Nat.lt_succ_self _, ?_⟩
      rw [hSelf]
      rintro (hBad | hBad)
      · cases hBad
      · cases hBad
    · rw [hKept fd hFd] at hOpen
      have hNe : j ≠ w.next := by
        intro hEq
        rw [hEq] at hConn
        exact hFresh fd holder hOpen hConn
      rw [hLive j hNe]
      exact h.holders fd holder j hOpen hConn
  · intro j hJ
    by_cases hEq : j = w.next
    · rw [hEq, hSelf]
      have hSlot : (w.accept isSocks client).srv.sel.Has
          client opRead (.ofService isSocks w.next) :=
        Selector.Has.put_self hValid _
      refine ⟨⟨hOpened, Or.inl rfl, ?_⟩, ?_, ?_⟩
      · intro fd holder hOpen hConn
        by_cases hFd : fd = client
        · exact Or.inl hFd
        · rw [hKept fd hFd] at hOpen
          exact absurd hConn (hFresh fd holder hOpen)
      · intro hSocks
        have hMine : Attachment.ofService isSocks w.next =
            .socks w.next := if_pos hSocks
        rw [hMine] at hSlot
        exact .fresh rfl rfl hSlot
      · intro hMng
        have hMine : Attachment.ofService isSocks w.next =
            .mng w.next := if_neg (ne_true_of_eq_false hMng)
        rw [hMine] at hSlot
        exact ⟨rfl, .fresh rfl hSlot⟩
    · rw [hOther j hEq]
      exact (h.wired j ((hLive j hEq).mp hJ)).frame h.sound
        hMoves hEq
  · intro t hT
    exact hWaits _ _ _ (h.threads t hT)
  · intro job hJob
    exact hWaits _ _ _ (h.owed job hJob)

/- The tables after an event, whichever way it went. -/
theorem Aftermath.tables
    {s t : St}
    (h : Aftermath k s t)
    (hGoing : ¬ s.conn.Closed)
    (hWired : Wired k s.srv.sel s.conn) :
    s.srv.sel.Moves k t.srv.sel ∧
      ((¬ t.conn.Closed ∧ Wired k t.srv.sel t.conn) ∨
        (t.conn.Closed ∧ ∀ fd holder,
          t.srv.sel.opened fd = some holder →
            holder.conn? ≠ some k)) := by
  cases h with
  | going hKept hStill hAfter =>
      exact ⟨hKept.moves, Or.inl ⟨hStill, hAfter⟩⟩
  | ends hReleased hClosed =>
      exact ⟨hReleased.moves,
        Or.inr ⟨hClosed, hReleased.none⟩⟩
  | stuck hEq hWhy =>
      rw [hEq]
      exact ⟨.refl k _, Or.inl ⟨hGoing, hWired⟩⟩

/- Starting the machine touches nothing that is shared. -/
theorem first_srv
    (states : Nat → StateDefinition)
    (hStates : states HELLO_READ =
      { onArrival := some helloReadInit
        onReadReady := some helloRead })
    (key : Key)
    (a : Answers)
    (s : St) :
    (handleFirst states key a s).srv = s.srv ∧
      (handleFirst states key a s).conn.clientFd =
        s.conn.clientFd ∧
      (handleFirst states key a s).conn.originFd =
        s.conn.originFd ∧
      ((handleFirst states key a s) = s ∨
        (handleFirst states key a s).conn.current =
          some HELLO_READ) := by
  rw [handleFirst_eq hStates]
  split
  · unfold helloReadInit
    split
    · exact ⟨rfl, rfl, rfl, Or.inr rfl⟩
    · exact ⟨rfl, rfl, rfl, Or.inr rfl⟩
  · exact ⟨rfl, rfl, rfl, Or.inl rfl⟩

/- A connection that has started still owns its own. -/
theorem Inv.first
    (h : Inv w)
    (hLive : w.Live k)
    (states : Nat → StateDefinition)
    (hStates : states HELLO_READ =
      { onArrival := some helloReadInit
        onReadReady := some helloRead })
    (key : Key)
    (a : Answers) :
    (handleFirst states key a (w.view k)).srv = w.srv ∧
      (handleFirst states key a (w.view k)).srv.sel.Sound ∧
      Owns k (handleFirst states key a (w.view k)).srv.sel
        (handleFirst states key a (w.view k)).conn := by
  rcases first_srv states hStates key a (w.view k) with
    ⟨hSrv, hClient, hOrigin, _⟩
  have hSame : (handleFirst states key a (w.view k)).srv =
      w.srv := hSrv
  rw [hSame]
  exact ⟨rfl, h.sound,
    (h.wired k hLive).owns.of_eq rfl hClient hOrigin⟩

/- A connection with an armed slot waits for no thread. -/
theorem Inv.not_waiting
    (h : Inv w)
    {key : Key}
    {interest : Interest}
    (hKey : Keyed k key (w.view k) interest)
    (hArmed : interest ≠ opNoop) :
    k ∉ w.srv.waiting := by
  intro hWaiting
  rcases h.waits hWaiting with ⟨fd, request, hWaits⟩
  have hShape := (h.wired k hWaits.live).socks hWaits.service
  rcases hShape.of_resolving hWaits.state with
    ⟨hOrigin, hClient, _⟩
  exact hArmed (hKey.interest_alone hOrigin hClient)

/- Threads and jobs of others are not from `k`. -/
theorem Server.waiting_ne
    {srv : Server}
    (hNot : k ∉ srv.waiting) :
    (∀ t ∈ srv.threads, t.data ≠ k) ∧
      ∀ job ∈ srv.owed, job.starter ≠ k := by
  constructor
  · intro t hT hEq
    apply hNot
    exact List.mem_append_left _
      (List.mem_map.mpr ⟨t, hT, hEq⟩)
  · intro job hJob hEq
    apply hNot
    exact List.mem_append_right _
      (List.mem_map.mpr ⟨job, hJob, hEq⟩)

theorem Micro.socks_inv
    (h : Inv w)
    {key : Key}
    {a : Answers}
    {interest : Interest}
    {t : St}
    (hLive : w.Live k)
    (hSocks : (w.conn k).isSocks = true)
    (hKey : Keyed k key (w.view k) interest)
    (hArmed : interest ≠ opNoop)
    (hEvent : SocksEvent k key a
      (handleFirst clientStatbl key a (w.view k)) t)
    (hAfter : Aftermath k (w.view k) t) :
    Inv (w.put k t) := by
  have hWired := h.wired k hLive
  rcases h.first hLive clientStatbl rfl key a with
    ⟨hSrv, hSound, hOwns⟩
  have hNot := h.not_waiting hKey hArmed
  rcases Server.waiting_ne hNot with ⟨hThreads, hJobs⟩
  rcases hAfter.tables hLive.2 hWired with ⟨hMoves, hTables⟩
  have hShared := hEvent.threads hSound hOwns
  refine Leaves.inv ⟨hMoves, hTables, ?_, ?_, ?_, ?_⟩ h hLive
  · cases hShared with
    | same hSame =>
        rw [hSame.authMethod, hSrv]
        exact h.auth
    | started request hSame =>
        rw [hSame.authMethod, hSrv]
        exact h.auth
  · intro x hX
    cases hShared with
    | same hSame =>
        rw [hSame.threads, hSrv] at hX
        exact Or.inl ⟨hX, hThreads x hX⟩
    | started request hSame hBefore hNow hFd hParser =>
        rw [hSame.threads, hSrv] at hX
        rcases List.mem_append.mp hX with hOld | hNew
        · exact Or.inl ⟨hOld, hThreads x hOld⟩
        · right
          rw [List.mem_singleton.mp hNew]
          have hSelf := w.put_conn_self k t
          show Waits (w.put k t) key.data key.fd request
          rw [hKey.data]
          refine ⟨hLive.1, ?_, ?_, ?_, ?_⟩
          · rw [hSelf]
            cases hAfter with
            | going hKept => exact hKept.service.trans hSocks
            | ends hReleased =>
                exact hReleased.service.trans hSocks
            | stuck hEq =>
                rw [hEq]
                exact hSocks
          · rw [hSelf]
            exact hNow
          · rw [hSelf]
            exact hFd
          · rw [hSelf]
            exact hParser
  · intro job hJob
    have hSame : t.srv.owed = w.srv.owed := by
      unfold Server.owed
      cases hShared with
      | same hSame => rw [hSame.jobs, hSame.lost, hSrv]
      | started request hSame =>
          rw [hSame.jobs, hSame.lost, hSrv]
    rw [hSame] at hJob
    exact ⟨hJob, hJobs job hJob⟩
  · cases hShared with
    | same hSame =>
        rw [Server.waiting_of_eq hSame.threads hSame.jobs
          hSame.lost, hSrv]
        exact h.once
    | started request hSame =>
        unfold Server.waiting Server.owed
        rw [hSame.threads, hSame.jobs, hSame.lost, hSrv]
        have hOnce := h.once
        have hHere := hNot
        unfold Server.waiting at hOnce hHere
        show ((w.srv.threads ++ [_]).map Thread.data ++
          w.srv.owed.map BlockingJob.starter).Nodup
        rw [List.map_append, List.append_assoc]
        show (w.srv.threads.map Thread.data ++ key.data ::
          w.srv.owed.map BlockingJob.starter).Nodup
        rw [List.nodup_middle, List.nodup_cons, hKey.data]
        exact ⟨hHere, hOnce⟩

theorem Micro.mng_inv
    (h : Inv w)
    {key : Key}
    {a : Answers}
    {t : St}
    (hLive : w.Live k)
    (hMng : (w.conn k).isSocks = false)
    (hEvent : MngEvent k key a
      (handleFirst clientMng key a (w.view k)) t)
    (hAfter : Aftermath k (w.view k) t) :
    Inv (w.put k t) := by
  have hWired := h.wired k hLive
  rcases first_srv clientMng rfl key a (w.view k) with
    ⟨hSrv, _⟩
  have hNot : k ∉ w.srv.waiting := by
    intro hWaiting
    rcases h.waits hWaiting with ⟨fd, request, hWaits⟩
    exact absurd (hWaits.service.symm.trans hMng) (by decide)
  rcases Server.waiting_ne hNot with ⟨hThreads, hJobs⟩
  rcases hAfter.tables hLive.2 hWired with ⟨hMoves, hTables⟩
  have hShared := hEvent.shared
  refine Leaves.inv ⟨hMoves, hTables, ?_, ?_, ?_, ?_⟩ h hLive
  · rcases hShared.authMethod with hSame | hSet
    · rw [hSame, hSrv]
      exact h.auth
    · exact hSet
  · intro x hX
    rw [hShared.threads, hSrv] at hX
    exact Or.inl ⟨hX, hThreads x hX⟩
  · intro job hJob
    unfold Server.owed at hJob
    rw [hShared.jobs, hShared.lost, hSrv] at hJob
    exact ⟨hJob, hJobs job hJob⟩
  · rw [Server.waiting_of_eq hShared.threads hShared.jobs
      hShared.lost, hSrv]
    exact h.once

theorem Micro.block_inv
    (h : Inv w)
    {job : BlockingJob}
    {rest : List BlockingJob}
    {a : Answers}
    {t : St}
    (hJobs : w.srv.jobs = job :: rest)
    (hWaits : Waits w job.starter job.fd job.request)
    (hEvent : SocksEvent job.starter ⟨job.fd, job.starter⟩ a
      (w.notified job rest) t)
    (hAfter : Aftermath job.starter (w.notified job rest)
      t) :
    Inv (w.put job.starter t) := by
  have hLive := hWaits.live
  have hWired := h.wired _ hLive
  have hShape := hWired.socks hWaits.service
  rcases hShape.of_resolving hWaits.state with
    ⟨hOrigin, hClient, p, hParser⟩
  have hNoted : Wired job.starter
      (w.notified job rest).srv.sel
      (w.notified job rest).conn := by
    refine ⟨hWired.owns.of_eq rfl rfl rfl, ?_, ?_⟩
    · intro _
      exact .resolving hWaits.state hOrigin hClient p hParser
    · intro hMng
      exact absurd (hWaits.service.symm.trans hMng) (by decide)
  have hOnce := h.once
  unfold Server.waiting Server.owed at hOnce
  rw [hJobs, List.cons_append, List.map_cons,
    List.nodup_middle] at hOnce
  rcases List.nodup_cons.mp hOnce with ⟨hNot, hRest⟩
  have hNot' : job.starter ∉
      (w.notified job rest).srv.waiting := hNot
  rcases Server.waiting_ne hNot' with ⟨hThreads, hOthers⟩
  rcases hAfter.tables hLive.2 hNoted with ⟨hMoves, hTables⟩
  have hShared : SameShared (w.notified job rest).srv
      t.srv := by
    cases hEvent.threads h.sound hNoted.owns with
    | same hSame => exact hSame
    | started request hSame hBefore =>
        exact absurd (hBefore.symm.trans hWaits.state)
          (by decide)
  refine Leaves.inv ⟨hMoves, hTables, ?_, ?_, ?_, ?_⟩ h hLive
  · rw [hShared.authMethod]
    exact h.auth
  · intro x hX
    rw [hShared.threads] at hX
    exact Or.inl ⟨hX, hThreads x hX⟩
  · intro other hOther
    unfold Server.owed at hOther
    rw [hShared.jobs, hShared.lost] at hOther
    refine ⟨?_, hOthers other hOther⟩
    unfold Server.owed
    rw [hJobs]
    exact List.mem_cons_of_mem _ hOther
  · rw [Server.waiting_of_eq hShared.threads hShared.jobs
      hShared.lost]
    exact hRest

/- A thread that ends owes its job, one way or the other. -/
theorem Server.owed_notify
    (t : Thread)
    (a : Answers)
    (srv : Server) :
    (selectorNotifyBlock t a srv).owed.Perm
      (t.job :: srv.owed) := by
  unfold selectorNotifyBlock Server.owed
  by_cases hMemory : a.alloc .blockingJob = true
  · simp only [if_pos hMemory]
    exact .refl _
  · simp only [if_neg hMemory]
    exact List.perm_middle

/- A thread that ends is followed by its job. -/
theorem Server.notify_perm
    {α : Type}
    (ofThread : Thread → α)
    (ofJob : BlockingJob → α)
    (hJob : ∀ t, ofJob t.job = ofThread t)
    {srv : Server}
    {i : Nat}
    {t : Thread}
    (hThread : srv.threads[i]? = some t)
    (a : Answers) :
    let next := selectorNotifyBlock t a
      { srv with threads := srv.threads.eraseIdx i }
    (next.threads.map ofThread ++ next.owed.map ofJob).Perm
      (srv.threads.map ofThread ++ srv.owed.map ofJob) := by
  intro next
  rcases List.getElem?_eq_some_iff.mp hThread with ⟨hLt, hAt⟩
  have hPerm := (List.getElem_cons_eraseIdx_perm hLt).map
    ofThread
  rw [hAt, List.map_cons] at hPerm
  have hOwed := (Server.owed_notify t a
    { srv with threads := srv.threads.eraseIdx i }).map ofJob
  rw [List.map_cons, hJob] at hOwed
  refine (hOwed.append_left _).trans ?_
  exact List.perm_middle.trans (hPerm.append_right _)

/- One that goes on is still that of its starter. -/
theorem Thread.map_set
    {α : Type}
    (ofThread : Thread → α)
    {threads : List Thread}
    {i : Nat}
    {t u : Thread}
    (hThread : threads[i]? = some t)
    (hSame : ofThread u = ofThread t) :
    (threads.set i u).map ofThread =
      threads.map ofThread := by
  rcases List.getElem?_eq_some_iff.mp hThread with ⟨hLt, hAt⟩
  have hLt' : i < (threads.map ofThread).length := by
    rw [List.length_map]
    exact hLt
  have hHere : ofThread t = (threads.map ofThread)[i] := by
    rw [List.getElem_map, hAt]
  rw [List.map_set, hSame, hHere]
  exact List.set_getElem_self _

/- The resolution of a waiting connection changes. -/
theorem Inv.resolution
    (h : Inv w)
    {fd : Fd}
    {request : Request}
    (hWaits : Waits w k fd request)
    (addresses : List Addrinfo)
    {threads : List Thread}
    {jobs lost : List BlockingJob}
    (hThreads : ∀ t ∈ threads, Waits w t.data t.fd t.request)
    (hJobs : ∀ job ∈ jobs ++ lost,
      Waits w job.starter job.fd job.request)
    (hOnce : (threads.map Thread.data ++
      (jobs ++ lost).map BlockingJob.starter).Nodup) :
    Inv { w with
      srv.threads := threads
      srv.jobs := jobs
      srv.lost := lost
      conn := Function.update w.conn k
        { w.conn k with
          originResolution := addresses } } := by
  let w' : World := { w with
    srv.threads := threads
    srv.jobs := jobs
    srv.lost := lost
    conn := Function.update w.conn k
      { w.conn k with originResolution := addresses } }
  have hOne : w'.conn k =
      { w.conn k with originResolution := addresses } :=
    Function.update_self _ _ _
  have hOther : ∀ j, j ≠ k → w'.conn j = w.conn j :=
    fun j hNe => Function.update_of_ne hNe _ _
  have hClosed : ∀ j, (w'.conn j).Closed ↔
      (w.conn j).Closed := by
    intro j
    by_cases hEq : j = k
    · rw [hEq, hOne]
      exact Iff.rfl
    · rw [hOther j hEq]
  have hKept : ∀ j fd request, Waits w j fd request →
      Waits w' j fd request := by
    intro j fd request hW
    by_cases hEq : j = k
    · subst hEq
      refine ⟨hW.accepted, ?_, ?_, ?_, ?_⟩
      · rw [hOne]
        exact hW.service
      · rw [hOne]
        exact hW.state
      · rw [hOne]
        exact hW.client
      · rw [hOne]
        exact hW.parser
    · refine ⟨hW.accepted, ?_, ?_, ?_, ?_⟩
      · rw [hOther j hEq]
        exact hW.service
      · rw [hOther j hEq]
        exact hW.state
      · rw [hOther j hEq]
        exact hW.client
      · rw [hOther j hEq]
        exact hW.parser
  show Inv w'
  refine ⟨h.sound, h.listeners, ?_, ?_, h.auth, ?_, ?_,
    hOnce⟩
  · intro fd holder j hOpen hConn
    have hLive := h.holders fd holder j hOpen hConn
    exact ⟨hLive.1, fun hBad =>
      hLive.2 ((hClosed j).mp hBad)⟩
  · intro j hJ
    have hLive : w.Live j := ⟨hJ.1, fun hBad =>
      hJ.2 ((hClosed j).mpr hBad)⟩
    have hWired := h.wired j hLive
    by_cases hEq : j = k
    · subst hEq
      rcases (hWired.socks hWaits.service).of_resolving
          hWaits.state with ⟨hOrigin, hClient, p, hParser⟩
      rw [hOne]
      refine ⟨hWired.owns.of_eq rfl rfl rfl, ?_, ?_⟩
      · intro _
        exact .resolving hWaits.state hOrigin hClient p
          hParser
      · intro hMng
        exact absurd (hWaits.service.symm.trans hMng)
          (by decide)
    · rw [hOther j hEq]
      exact hWired
  · intro t hT
    exact hKept _ _ _ (hThreads t hT)
  · intro job hJob
    exact hKept _ _ _ (hJobs job hJob)

theorem Micro.inv
    (h : Inv w)
    (hStep : Micro w w') : Inv w' := by
  cases hStep with
  | accepted isSocks client hNonneg hFree hUnused =>
      exact Micro.accepted_inv h isSocks hNonneg hFree hUnused
  | socks k key a interest t hLive hSocks hKey hArmed hEvent
      hAfter =>
      exact Micro.socks_inv h hLive hSocks hKey hArmed hEvent
        hAfter
  | mng k key a t hLive hMng hEvent hAfter =>
      exact Micro.mng_inv h hLive hMng hEvent hAfter
  | block job rest a t hJobs hWaits hEvent hAfter =>
      exact Micro.block_inv h hJobs hWaits hEvent hAfter
  | threadStart i t p hThread hWaits hParser hRequest =>
      refine h.resolution hWaits [] ?_ h.owed ?_
      · intro x hX
        rcases List.mem_or_eq_of_mem_set hX with hOld | hNew
        · exact h.threads x hOld
        · rw [hNew]
          exact hWaits
      · rw [Thread.map_set (u := { t with
          host := some (p.request.host.take
            p.request.fqdnSize, p.request.destPort) })
          Thread.data hThread rfl]
        exact h.once
  | threadDone i t addresses a hThread hWaits =>
      have hOwed := Server.owed_notify t a w.srv
      refine h.resolution hWaits addresses ?_ ?_ ?_
      · intro x hX
        exact h.threads x (List.mem_of_mem_eraseIdx hX)
      · intro job hJob
        rcases List.mem_cons.mp (hOwed.mem_iff.mp hJob) with
          hNew | hOld
        · rw [hNew]
          exact hWaits
        · exact h.owed job hOld
      · exact (Server.notify_perm Thread.data
          BlockingJob.starter (fun _ => rfl) hThread
          a).nodup_iff.mpr h.once

end Keeping

end Socks5d

------------------------------------------------------------
-- Steps Are Small Steps
------------------------------------------------------------

namespace Socks5d

section Stepping

variable {w : World}
variable {k : ConnId}
variable {sel : Selector}
variable {c : Conn}
variable {fd : Fd}
variable {item : Item}

/- The client of a SOCKS connection has a slot. -/
theorem SocksShape.client_has
    (h : SocksShape k sel c)
    (hFd : c.clientFd ≠ -1) :
    ∃ interest, sel.Has c.clientFd interest (.socks k) := by
  cases h with
  | fresh _ _ hSlot => exact ⟨_, hSlot⟩
  | helloRead _ _ hSlot => exact ⟨_, hSlot⟩
  | helloWrite _ _ hSlot => exact ⟨_, hSlot⟩
  | userpassRead _ _ hSlot => exact ⟨_, hSlot⟩
  | userpassWrite _ _ hSlot => exact ⟨_, hSlot⟩
  | requestRead _ _ hSlot => exact ⟨_, hSlot⟩
  | requestStarved _ _ hSlot => exact ⟨_, hSlot⟩
  | resolving _ _ hSlot => exact ⟨_, hSlot⟩
  | connecting _ hSlot => exact ⟨_, hSlot⟩
  | connectFailed _ hSlot => exact ⟨_, hSlot⟩
  | connectedAtOnce _ hSlot => exact ⟨_, hSlot⟩
  | requestWrite _ hSlot => exact ⟨_, hSlot⟩
  | copy hState hCopy hSlots hGoing =>
      exact ⟨_, hSlots .client hFd⟩

/- An origin that is waited for has a slot of its own. -/
theorem SocksShape.origin_has
    (h : SocksShape k sel c)
    (hFd : c.originFd ≠ -1)
    (hItem : sel.fds c.originFd = some item)
    (hArmed : item.interest ≠ opNoop) :
    ∃ interest, sel.Has c.originFd interest (.socks k) := by
  cases h with
  | fresh _ hNone => exact absurd hNone hFd
  | helloRead _ hNone => exact absurd hNone hFd
  | helloWrite _ hNone => exact absurd hNone hFd
  | userpassRead _ hNone => exact absurd hNone hFd
  | userpassWrite _ hNone => exact absurd hNone hFd
  | requestRead _ hNone => exact absurd hNone hFd
  | requestStarved _ hNone => exact absurd hNone hFd
  | resolving _ hNone => exact absurd hNone hFd
  | connecting _ _ hSlot => exact ⟨_, hSlot⟩
  | connectFailed _ _ _ hIdle =>
      exact absurd (hIdle item hItem) hArmed
  | connectedAtOnce _ _ hSlot => exact ⟨_, hSlot⟩
  | requestWrite _ _ hSlot =>
      rcases hSlot with hNone | hSlot
      · exact absurd hNone hFd
      · exact ⟨_, hSlot⟩
  | copy hState hCopy hSlots hGoing =>
      exact ⟨_, hSlots .origin hFd⟩

theorem MngShape.client_has
    (h : MngShape k sel c) :
    ∃ interest, sel.Has c.clientFd interest (.mng k) := by
  cases h with
  | fresh _ hSlot => exact ⟨_, hSlot⟩
  | helloRead _ hSlot => exact ⟨_, hSlot⟩
  | helloWrite _ hSlot => exact ⟨_, hSlot⟩
  | reading _ _ _ hSlot => exact ⟨_, hSlot⟩
  | writing _ _ _ hSlot => exact ⟨_, hSlot⟩

/- Whose slot it is that waits for something. -/
inductive Armed
    (w : World)
    (fd : Fd)
    (item : Item) : Prop where
  | listener
      (hNone : item.attached.data? = none)
      (hInterest : item.interest = opRead)
      (hOpen : w.srv.sel.opened fd = some .process)
  | socks
      (k : ConnId)
      (hLive : w.Live k)
      (hSocks : (w.conn k).isSocks = true)
      (hAttached : item.attached = .socks k)
      (hKey : Keyed k ⟨fd, k⟩ (w.view k) item.interest)
  | mng
      (k : ConnId)
      (hLive : w.Live k)
      (hMng : (w.conn k).isSocks = false)
      (hAttached : item.attached = .mng k)
      (hFd : fd = (w.conn k).clientFd)
      (hSlot : w.srv.sel.Has fd item.interest (.mng k))

theorem Inv.armed
    (h : Inv w)
    (hItem : w.srv.sel.fds fd = some item)
    (hArmed : item.interest ≠ opNoop) :
    Armed w fd item := by
  have hValid := h.sound.valid fd item hItem
  have hFd : fd ≠ -1 := by
    intro hEq
    rw [hEq] at hValid
    exact absurd hValid (by decide)
  have hSlot : w.srv.sel.Has fd item.interest
      item.attached := ⟨hValid, hItem⟩
  cases hOpen : w.srv.sel.opened fd with
  | none =>
      have hIdle := h.sound.idle fd item hItem hOpen
      exact absurd hIdle hArmed
  | some holder =>
      cases hConn : holder.conn? with
      | none =>
          have hProcess : holder = .process := by
            cases holder with
            | process => rfl
            | client k => cases hConn
            | origin k domain => cases hConn
          rw [hProcess] at hOpen
          rcases h.listeners fd item hOpen hItem with
            ⟨hNone, hInterest⟩
          exact .listener hNone hInterest hOpen
      | some k =>
          have hLive := h.holders fd holder k hOpen hConn
          have hWired := h.wired k hLive
          have hMine := hWired.owns.only fd holder hOpen
            hConn
          have hNonneg := hWired.owns.client_ne h.sound
          cases hService : (w.conn k).isSocks with
          | true =>
              have hShape := hWired.socks hService
              have hOwn : item.attached = .socks k := by
                rcases hMine with hClient | hOrigin
                · rcases hShape.client_has hNonneg with
                    ⟨i, hHas⟩
                  rw [← hClient] at hHas
                  exact (hSlot.unique hHas).2
                · rw [hOrigin] at hFd hItem
                  rcases hShape.origin_has hFd hItem hArmed
                    with ⟨i, hHas⟩
                  rw [← hOrigin] at hHas
                  exact (hSlot.unique hHas).2
              rw [hOwn] at hSlot
              exact .socks k hLive hService hOwn
                ⟨rfl, hMine, hSlot⟩
          | false =>
              rcases hWired.mng hService with
                ⟨hNone, hShape⟩
              have hClient : fd = (w.conn k).clientFd := by
                rcases hMine with hClient | hOrigin
                · exact hClient
                · exact absurd (hOrigin.trans hNone) hFd
              rcases hShape.client_has with ⟨i, hHas⟩
              rw [← hClient] at hHas
              have hOwn := (hSlot.unique hHas).2
              rw [hOwn] at hSlot
              exact .mng k hLive hService hOwn hClient hSlot

/- A connection is accepted, or the world stays. -/
theorem passiveAccept_cases
    (isSocks : Bool)
    (a : Answers)
    (w : World) :
    passiveAccept isSocks a w = w ∨
      ∃ client, 0 ≤ client ∧
        w.srv.sel.opened client = none ∧
        w.srv.sel.canRegister client = true ∧
        a.accept = some client ∧
        passiveAccept isSocks a w =
          w.accept isSocks client := by
  unfold passiveAccept
  cases hGrant : w.srv.sel.grant a.accept with
  | none => exact Or.inl rfl
  | some client =>
      rcases Selector.grant_eq_some hGrant with
        ⟨hNonneg, hFree⟩
      have hAnswer : a.accept = some client :=
        (Option.filter_eq_some_iff.mp hGrant).1
      have hClosed : (w.srv.sel.openFd client
          (.client w.next)).close client = w.srv.sel := by
        unfold Selector.openFd Selector.close
        rw [Function.update_idem, ← hFree,
          Function.update_eq_self]
      have hRegister := Selector.register_eq
        (w.srv.sel.openFd client (.client w.next)) client
        opRead (.ofService isSocks w.next)
      unfold Attachment.ofService at hRegister
      by_cases hRoom : (w.srv.sel.openFd client
          (.client w.next)).canRegister client = true
      · rw [if_pos hRoom] at hRegister
        by_cases hAlloc : (a.nio && a.alloc .connection) =
            true
        · right
          refine ⟨client, hNonneg, hFree, hRoom, hAnswer, ?_⟩
          simp only [hRegister, hAlloc, Bool.and_self,
            if_true]
          rfl
        · left
          rw [Bool.not_eq_true] at hAlloc
          simp only [hRegister, hAlloc, Bool.false_and,
            Bool.false_eq_true, if_false, hClosed]
      · left
        rw [if_neg hRoom] at hRegister
        simp only [hRegister, Bool.and_false,
          Bool.false_eq_true, if_false, hClosed]

open Relation in
theorem passiveAccept_micro
    (isSocks : Bool)
    (a : Answers)
    (w : World) :
    passiveAccept isSocks a w = w ∨
      Micro w (passiveAccept isSocks a w) := by
  rcases passiveAccept_cases isSocks a w with hSame |
    ⟨client, hNonneg, hFree, hRoom, _, hEq⟩
  · exact Or.inl hSame
  · rw [hEq]
    exact Or.inr (.accepted isSocks client hNonneg hFree
      hRoom)

/-
  What an event on an armed slot is: a new connection, or an
  event of the connection that the slot belongs to.
-/
inductive Dispatch
    (w : World)
    (fd : Fd)
    (a : Answers) : World → Prop where
  | accept
      (isSocks : Bool) :
      Dispatch w fd a (passiveAccept isSocks a w)
  | socks
      (k : ConnId)
      (interest : Interest)
      (t : St)
      (hLive : w.Live k)
      (hSocks : (w.conn k).isSocks = true)
      (hKey : Keyed k ⟨fd, k⟩ (w.view k) interest)
      (hArmed : interest ≠ opNoop)
      (hEvent : SocksEvent k ⟨fd, k⟩ a
        (handleFirst clientStatbl ⟨fd, k⟩ a (w.view k)) t)
      (hAfter : Aftermath k (w.view k) t) :
      Dispatch w fd a (w.put k t)
  | mng
      (k : ConnId)
      (t : St)
      (hLive : w.Live k)
      (hMng : (w.conn k).isSocks = false)
      (hEvent : MngEvent k ⟨fd, k⟩ a
        (handleFirst clientMng ⟨fd, k⟩ a (w.view k)) t)
      (hAfter : Aftermath k (w.view k) t) :
      Dispatch w fd a (w.put k t)

/- It is a small step, or does nothing. -/
theorem Dispatch.micro
    {w' : World}
    {a : Answers}
    (h : Dispatch w fd a w') : w' = w ∨ Micro w w' := by
  cases h with
  | accept isSocks => exact passiveAccept_micro isSocks a w
  | socks k interest t hLive hSocks hKey hArmed hEvent
      hAfter =>
      exact Or.inr (.socks k _ a interest t hLive hSocks hKey
        hArmed hEvent hAfter)
  | mng k t hLive hMng hEvent hAfter =>
      exact Or.inr (.mng k _ a t hLive hMng hEvent hAfter)

/- An event on a slot that is armed for it is dispatched. -/
theorem Inv.read_dispatch
    (h : Inv w)
    (hItem : w.srv.sel.fds fd = some item)
    (hReady : item.interest.read = true)
    (a : Answers) :
    Dispatch w fd a (handleRead fd item.attached a w) := by
  have hArmed : item.interest ≠ opNoop := by
    intro hEq
    rw [hEq] at hReady
    cases hReady
  cases h.armed hItem hArmed with
  | listener hNone hInterest =>
      cases hAttached : item.attached with
      | socksListener => exact .accept true
      | mngListener => exact .accept false
      | socks data =>
          rw [hAttached] at hNone
          cases hNone
      | mng data =>
          rw [hAttached] at hNone
          cases hNone
  | socks k hLive hSocks hAttached hKey =>
      have hWired := h.wired k hLive
      have hServed := (socks_read h.sound hWired.owns hSocks
        (hWired.socks hSocks) h.auth hKey hReady a).event
          h.sound hSocks rfl
      rw [hAttached]
      exact .socks k _ _ hLive hSocks hKey hArmed hServed.1
        hServed.2
  | mng k hLive hMng hAttached hFd hSlot =>
      have hWired := h.wired k hLive
      rcases hWired.mng hMng with ⟨hOrigin, hShape⟩
      have hServed := (mng_read (s := w.view k) hWired.owns
        hMng hShape (show Key.fd ⟨fd, k⟩ = _ from hFd) hSlot
        hReady a).event h.sound hMng hOrigin
      rw [hAttached]
      exact .mng k _ hLive hMng hServed.1 hServed.2

theorem Inv.write_dispatch
    (h : Inv w)
    (hItem : w.srv.sel.fds fd = some item)
    (hReady : item.interest.write = true)
    (a : Answers) :
    Dispatch w fd a (handleWrite fd item.attached a w) := by
  have hArmed : item.interest ≠ opNoop := by
    intro hEq
    rw [hEq] at hReady
    cases hReady
  cases h.armed hItem hArmed with
  | listener hNone hInterest =>
      rw [hInterest] at hReady
      cases hReady
  | socks k hLive hSocks hAttached hKey =>
      have hWired := h.wired k hLive
      have hServed := (socks_write h.sound hWired.owns hSocks
        (hWired.socks hSocks) h.auth hKey hReady a).event
          h.sound hSocks rfl
      rw [hAttached]
      exact .socks k _ _ hLive hSocks hKey hArmed hServed.1
        hServed.2
  | mng k hLive hMng hAttached hFd hSlot =>
      have hWired := h.wired k hLive
      rcases hWired.mng hMng with ⟨hOrigin, hShape⟩
      have hServed := (mng_write (s := w.view k) hWired.owns
        hMng hShape (show Key.fd ⟨fd, k⟩ = _ from hFd) hSlot
        hReady a).event h.sound hMng hOrigin
      rw [hAttached]
      exact .mng k _ hLive hMng hServed.1 hServed.2

/- The item of a job is the slot of its starter. -/
theorem Inv.job_item
    (h : Inv w)
    {job : BlockingJob}
    (hWaits : Waits w job.starter job.fd job.request) :
    w.srv.sel.registered? job.fd =
      some ⟨opNoop, .socks job.starter⟩ := by
  have hShape := (h.wired _ hWaits.live).socks hWaits.service
  rcases hShape.of_resolving hWaits.state with
    ⟨_, hClient, _⟩
  rw [hWaits.client] at hClient
  exact hClient.registered

/- What a turn of the notification loop is. -/
theorem Inv.block_turn
    (h : Inv w)
    {job : BlockingJob}
    {rest : List BlockingJob}
    (hJobs : w.srv.jobs = job :: rest)
    (a : Answers) :
    handleBlockTurn a w = w.put job.starter
      (socksv5Event StateDefinition.onBlockReady
        ⟨job.fd, job.starter⟩ a (w.notified job rest)) := by
  have hWaits := h.jobs job (by
    rw [hJobs]
    exact List.mem_cons_self)
  have hItem := h.job_item hWaits
  unfold handleBlockTurn
  rw [hJobs]
  simp only [hItem]
  unfold handleBlock noteNotified World.put World.view
  simp only [Attachment.data?, Function.update_self,
    Function.update_idem]
  rfl

/- A turn hands the first job to the one that waits for it. -/
theorem Inv.block_event
    (h : Inv w)
    {job : BlockingJob}
    {rest : List BlockingJob}
    (hJobs : w.srv.jobs = job :: rest)
    (a : Answers) :
    ∃ t, handleBlockTurn a w = w.put job.starter t ∧
      Waits w job.starter job.fd job.request ∧
      SocksEvent job.starter ⟨job.fd, job.starter⟩ a
        (w.notified job rest) t ∧
      Aftermath job.starter (w.notified job rest) t := by
  have hWaits := h.jobs job (by
    rw [hJobs]
    exact List.mem_cons_self)
  have hWired := h.wired _ hWaits.live
  rcases (hWired.socks hWaits.service).of_resolving
    hWaits.state with ⟨hOrigin, hClient, p, hParser⟩
  have hFd : Key.fd ⟨job.fd, job.starter⟩ =
      (w.notified job rest).conn.clientFd :=
    hWaits.client.symm
  rcases socks_block (s := w.notified job rest)
    (hWired.owns.of_eq rfl rfl rfl)
    (.resolving hWaits.state hOrigin hClient p hParser)
    hWaits.state hFd a with ⟨hSame, hBlock⟩
  have hServed := hBlock.event h.sound hWaits.service rfl
  rw [hSame] at hServed
  exact ⟨_, h.block_turn hJobs a, hWaits, hServed.1,
    hServed.2⟩

theorem Inv.block_micro
    (h : Inv w)
    {job : BlockingJob}
    {rest : List BlockingJob}
    (hJobs : w.srv.jobs = job :: rest)
    (a : Answers) :
    Micro w (handleBlockTurn a w) := by
  rcases h.block_event hJobs a with
    ⟨t, hTurn, hWaits, hEvent, hAfter⟩
  rw [hTurn]
  exact .block job rest a t hJobs hWaits hEvent hAfter

/-
  Turns of the loop: each turn keeps `P`, and what the turns
  after it lead to, it leads to.
-/
theorem Inv.loop_rule
    {P : World → Prop}
    {R : World → World → Prop}
    (hNone : ∀ v, R v v)
    (hTurn : ∀ v job rest a, Inv v → P v →
      v.srv.jobs = job :: rest →
        P (handleBlockTurn a v) ∧
          ∀ u, R (handleBlockTurn a v) u → R v u)
    (h : Inv w)
    (hBefore : P w)
    (a : Nat → Answers)
    (turns : Nat) : R w (notificationLoop a turns w) := by
  induction turns generalizing w with
  | zero => exact hNone w
  | succ turns ih =>
      unfold notificationLoop
      split
      · cases hJobs : w.srv.jobs with
        | nil =>
            have hSame : handleBlockTurn (a turns) w = w := by
              unfold handleBlockTurn
              rw [hJobs]
            rw [hSame]
            exact ih h hBefore
        | cons job rest =>
            rcases hTurn w job rest (a turns) h hBefore hJobs
              with ⟨hAfter, hLeads⟩
            have hStep := h.block_micro hJobs (a turns)
            exact hLeads _ (ih (hStep.inv h) hAfter)
      · exact hNone w

/- Turns of the loop are small steps. -/
theorem Inv.loop_micros
    (h : Inv w)
    (a : Nat → Answers)
    (turns : Nat) :
    Relation.ReflTransGen Micro w
      (notificationLoop a turns w) := by
  refine Inv.loop_rule (P := fun _ => True) (fun _ => .refl)
    ?_ h trivial a turns
  intro v job rest answers hInv _ hJobs
  exact ⟨trivial, fun u hSteps =>
    .head (hInv.block_micro hJobs answers) hSteps⟩

/- An event on a slot is dispatched, or finds no item. -/
theorem Inv.exec_read
    (h : Inv w)
    {fd : Fd}
    {a : Answers}
    (hEnabled : Enabled w (.read fd a) = true) :
    exec w (.read fd a) = w ∨
      Dispatch w fd a (exec w (.read fd a)) := by
  cases hItem : w.srv.sel.fds fd with
  | none =>
      left
      unfold exec
      simp only [hItem]
  | some item =>
      right
      have hReady : item.interest.read = true := by
        unfold Enabled at hEnabled
        simp only [hItem, Option.any_some,
          Bool.and_eq_true] at hEnabled
        exact hEnabled.2
      unfold exec
      simp only [hItem]
      exact h.read_dispatch hItem hReady a

theorem Inv.exec_write
    (h : Inv w)
    {fd : Fd}
    {a : Answers}
    (hEnabled : Enabled w (.write fd a) = true) :
    exec w (.write fd a) = w ∨
      Dispatch w fd a (exec w (.write fd a)) := by
  cases hItem : w.srv.sel.fds fd with
  | none =>
      left
      unfold exec
      simp only [hItem]
  | some item =>
      right
      have hReady : item.interest.write = true := by
        unfold Enabled at hEnabled
        simp only [hItem, Option.any_some,
          Bool.and_eq_true] at hEnabled
        exact hEnabled.2
      unfold exec
      simp only [hItem]
      exact h.write_dispatch hItem hReady a

/- A step is the turns of the loop, nothing, or a small step. -/
theorem Inv.exec_micro
    (h : Inv w)
    {l : Label}
    (hEnabled : Enabled w l = true) :
    (∃ a, l = .notify a) ∨ exec w l = w ∨
      Micro w (exec w l) := by
  cases l with
  | read fd a =>
      right
      rcases h.exec_read hEnabled with hSame | hDispatch
      · exact Or.inl hSame
      · exact hDispatch.micro
  | write fd a =>
      right
      rcases h.exec_write hEnabled with hSame | hDispatch
      · exact Or.inl hSame
      · exact hDispatch.micro
  | notify a => exact Or.inl ⟨a, rfl⟩
  | threadStart i =>
      right
      show requestResolvBlocking i w = w ∨
        Micro w (requestResolvBlocking i w)
      unfold requestResolvBlocking
      cases hThread : w.srv.threads[i]? with
      | none => exact Or.inl rfl
      | some t =>
          have hWaits := h.threads t
            (List.mem_of_getElem? hThread)
          rcases hWaits.parser with ⟨p, hParser, hRequest⟩
          simp only [hParser]
          exact Or.inr (.threadStart i t p hThread hWaits
            hParser hRequest)
  | threadDone i addresses a =>
      right
      show requestResolvNotify i addresses a w = w ∨
        Micro w (requestResolvNotify i addresses a w)
      unfold requestResolvNotify
      cases hThread : w.srv.threads[i]? with
      | none => exact Or.inl rfl
      | some t =>
          have hWaits := h.threads t
            (List.mem_of_getElem? hThread)
          exact Or.inr (.threadDone i t addresses a hThread
            hWaits)

/- Every step of the server is made of small steps. -/
theorem Inv.micros
    (h : Inv w)
    {l : Label}
    (hEnabled : Enabled w l = true) :
    Relation.ReflTransGen Micro w (exec w l) := by
  rcases h.exec_micro hEnabled with
    ⟨a, rfl⟩ | hSame | hStep
  · exact h.loop_micros a _
  · rw [hSame]
  · exact .single hStep

end Stepping

/- The server starts with passive sockets only. -/
theorem Initial.inv
    {w : World}
    (h : Initial w) : Inv w := by
  have hLive : ∀ k, ¬ w.Live k := by
    intro k hLive
    have hLt := hLive.1
    rw [h.next] at hLt
    exact Nat.not_lt_zero _ hLt
  refine ⟨⟨?_, ?_, ?_⟩, ?_, ?_, ?_, h.authMethod, ?_, ?_, ?_⟩
  · intro fd item hItem
    exact h.valid fd item hItem
  · intro fd holder hOpen
    exact (h.opened fd holder hOpen).1
  · intro fd item hItem hClosed
    rw [(h.slots fd item hItem).2.2] at hClosed
    cases hClosed
  · intro fd item _ hItem
    have hSlot := h.slots fd item hItem
    exact ⟨hSlot.1, hSlot.2.1⟩
  · intro fd holder k hOpen hConn
    rw [(h.opened fd holder hOpen).2] at hConn
    cases hConn
  · intro k hK
    exact absurd hK (hLive k)
  · intro t hT
    rw [h.threads] at hT
    cases hT
  · intro job hJob
    unfold Server.owed at hJob
    rw [h.jobs, h.lost] at hJob
    cases hJob
  · unfold Server.waiting Server.owed
    rw [h.threads, h.jobs, h.lost]
    exact List.nodup_nil

/-
  What small steps keep, given the invariant, holds in every
  reachable world.
-/
theorem micro_invariant
    {P : World → Prop}
    (hInit : ∀ w, Initial w → P w)
    (hStep : ∀ w w', Inv w → P w → Micro w w' → P w')
    {w : World}
    (h : server.Reachable w) : Inv w ∧ P w := by
  have hRun : ∀ w w', Relation.ReflTransGen Micro w w' →
      Inv w ∧ P w → Inv w' ∧ P w' := by
    intro w w' hSteps hBefore
    induction hSteps with
    | refl => exact hBefore
    | tail _ hLast ih =>
        exact ⟨hLast.inv ih.1, hStep _ _ ih.1 ih.2 hLast⟩
  refine h.invariant (P := fun w => Inv w ∧ P w) ?_ ?_
  · intro w hW
    exact ⟨hW.inv, hInit w hW⟩
  · rintro w l w' hBefore ⟨hEnabled, hEq⟩
    rw [hEq]
    exact hRun _ _ (hBefore.1.micros hEnabled) hBefore

/- The invariant holds in every reachable world. -/
theorem reachable_inv
    {w : World}
    (h : server.Reachable w) : Inv w :=
  (micro_invariant (P := fun _ => True)
    (fun _ _ => trivial) (fun _ _ _ _ _ => trivial) h).1

end Socks5d
